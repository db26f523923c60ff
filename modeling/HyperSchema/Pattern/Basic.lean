import HyperSchema.Text.Blank
import HyperSchema.Text.Folding
import HyperSchema.Text.WordChars

/-!
Patterns as trees. The functions that put trees together keep them simple: text that stands in a row
is one literal, sequences hold no sequences and alternatives no alternatives, a set of one character
is a literal, and what can only be empty is repeated at most once.
-/

namespace HyperSchema.Pattern
open Text

/-- What must hold of a place between two characters. -/
inductive Place where
  | textStart
  | textEnd
  | lineStart (returns : Bool)
  | lineEnd (returns : Bool)
  | boundary (word : Ranges)
  | inside (word : Ranges)
  | wordStart (word : Ranges)
  | wordEnd (word : Ranges)
  | noWordBefore (word : Ranges)
  | noWordAfter (word : Ranges)
deriving DecidableEq

inductive Tree where
  | empty
  | literal (text : List Char)
  /-- One character of the set. -/
  | chars (set : Ranges)
  | place (p : Place)
  | sequence (parts : List Tree)
  | either (branches : List Tree)
  /-- A part whose match is kept. -/
  | group (t : Tree)
  /-- An eager repetition prefers more rounds to fewer. -/
  | repeated (t : Tree) (least : Nat) (most : Option Nat) (eager : Bool)

namespace Tree

mutual
/-- Whether two trees are spelt alike. Two groups keep two matches and are never alike. -/
def beq : Tree → Tree → Bool
  | .empty, .empty => true
  | .literal a, .literal b => a == b
  | .chars a, .chars b => a == b
  | .place a, .place b => a == b
  | .sequence a, .sequence b => beqList a b
  | .either a, .either b => beqList a b
  | .repeated a m n e, .repeated b k l f => m == k && n == l && e == f && beq a b
  | _, _ => false

def beqList : List Tree → List Tree → Bool
  | [], [] => true
  | a :: as, b :: bs => beq a b && beqList as bs
  | _, _ => false
end

instance : BEq Tree := ⟨beq⟩

mutual
/-- Whether every match is empty, as far as lengths tell. -/
def isEmptyOnly : Tree → Bool
  | .empty | .place _ => true
  | .literal text => text.isEmpty
  | .chars _ => false
  | .sequence ts | .either ts => areEmptyOnly ts
  | .group t => t.isEmptyOnly
  | .repeated t _ most _ => most.isSome && t.isEmptyOnly

def areEmptyOnly : List Tree → Bool
  | [] => true
  | t :: ts => t.isEmptyOnly && areEmptyOnly ts
end

mutual
/-- Whether some part of the tree matches nothing at all. -/
def hasNothing : Tree → Bool
  | .chars set => set.isEmpty
  | .sequence ts | .either ts => haveNothing ts
  | .group t => t.hasNothing
  | .repeated t _ _ _ => t.hasNothing
  | _ => false

def haveNothing : List Tree → Bool
  | [] => false
  | t :: ts => t.hasNothing || haveNothing ts
end

mutual
/-- Whether a match takes at least one character, as far as lengths tell. -/
def takesSome : Tree → Bool
  | .empty | .place _ => false
  | .literal text => !text.isEmpty
  | .chars _ => true
  | .sequence ts => anyTakesSome ts
  | .either ts => allTakeSome ts
  | .group t => t.takesSome
  | .repeated t least _ _ => 0 < least && t.takesSome

def anyTakesSome : List Tree → Bool
  | [] => false
  | t :: ts => t.takesSome || anyTakesSome ts

def allTakeSome : List Tree → Bool
  | [] => true
  | t :: ts => t.takesSome && allTakeSome ts
end

/-- Whether no match is empty. Of a tree with a part that matches nothing this is not told. -/
def neverEmpty (t : Tree) : Bool := !t.hasNothing && t.takesSome

mutual
/-- Whether every match begins where the text does. -/
def fromStart : Tree → Bool
  | .place p => p == .textStart
  | .sequence ts => firstFromStart ts
  | .either ts => allFromStart ts
  | .group t => t.fromStart
  | .repeated t least _ _ => 0 < least && t.fromStart
  | _ => false

/-- Whether one of the parts up to the first that can take a character is bound to the start. -/
def firstFromStart : List Tree → Bool
  | [] => false
  | t :: ts => t.fromStart || (t.isEmptyOnly && firstFromStart ts)

def allFromStart : List Tree → Bool
  | [] => true
  | t :: ts => t.fromStart && allFromStart ts
end

mutual
/-- Whether every match ends where the text does. -/
def toEnd : Tree → Bool
  | .place p => p == .textEnd
  | .sequence ts => lastToEnd ts
  | .either ts => allToEnd ts
  | .group t => t.toEnd
  | .repeated t least _ _ => 0 < least && t.toEnd
  | _ => false

/-- Whether one of the parts from the last that can take a character on is bound to the end. -/
def lastToEnd : List Tree → Bool
  | [] => false
  | t :: ts => lastToEnd ts || (areEmptyOnly ts && t.toEnd)

def allToEnd : List Tree → Bool
  | [] => true
  | t :: ts => t.toEnd && allToEnd ts
end

def ofSet : Ranges → Tree
  | [(a, b)] => if a = b then .literal [Char.ofNat a] else .chars [(a, b)]
  | set => .chars set

/-- Puts a part in front of a sequence. -/
def prepend : Tree → List Tree → List Tree
  | .empty, ts => ts
  | .literal a, .literal b :: ts => .literal (a ++ b) :: ts
  | t, ts => t :: ts

def parts : Tree → List Tree
  | .sequence ts => ts
  | t => [t]

def concat (ts : List Tree) : Tree :=
  match (ts.flatMap parts).foldr prepend [] with
  | [] => .empty
  | [t] => t
  | ts => .sequence ts

def branches : Tree → List Tree
  | .either ts => ts
  | t => [t]

def singleChar? : Tree → Option Ranges
  | .literal [c] => some (.single c)
  | _ => none

def set? : Tree → Option Ranges
  | .chars set => some set
  | _ => none

/-- Alternatives as they stand, unless all are single characters or all are sets. -/
def merged (ts : List Tree) : Tree :=
  match ts.mapM singleChar?, ts.mapM set? with
  | some sets, _ => ofSet (.ofList sets.flatten)
  | none, some sets => ofSet (.ofList sets.flatten)
  | none, none => .either ts

/-- How many parts two sequences have in common at their start. -/
def commonLength : List Tree → List Tree → Nat
  | a :: as, b :: bs => if a == b then commonLength as bs + 1 else 0
  | _, _ => 0

def sequence? : Tree → Option (List Tree)
  | .sequence ts => some ts
  | _ => none

/-- How many parts all of the sequences start with; none unless all are sequences. -/
def sharedLength (ts : List Tree) : Nat :=
  match ts.mapM sequence? with
  | some (first :: others) =>
    others.foldl (fun n other => min n (commonLength first other)) first.length
  | _ => 0

/-- Alternatives, of which what all start with is written once. -/
def alternation (ts : List Tree) : Tree :=
  let ts := ts.flatMap branches
  match ts, merged ts with
  | [t], _ => t
  | first :: _, .either ts =>
    let n := sharedLength ts
    if n = 0 then .either ts
    else
      let rests := ts.map fun t => concat (t.parts.drop n)
      concat (first.parts.take n ++ [merged (rests.flatMap branches)])
  | _, t => t

def repetition (t : Tree) (least : Nat) (most : Option Nat) (eager : Bool) : Tree :=
  let (least, most) :=
    if t.isEmptyOnly then (min least 1, some (min (most.getD 1) 1)) else (least, most)
  match least, most with
  | 0, some 0 => .empty
  | 1, some 1 => t
  | least, most => .repeated t least most eager

end Tree

end HyperSchema.Pattern
