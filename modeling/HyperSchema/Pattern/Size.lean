import HyperSchema.Pattern.Basic
import HyperSchema.Text.Utf8
import Std.Data.HashMap

/-!
What a matcher for a pattern would take. A matcher is a graph whose states read bytes; there is one
that reads text forwards and one that reads it backwards, and a pattern is refused when either takes
more bytes than the limit.
-/

namespace HyperSchema.Pattern
open Text

/-- The states of a graph so far, and the bytes that their ways out take besides. -/
structure StateGraph where
  states : Nat := 0
  extra : Nat := 0

namespace StateGraph

def stateSize : Nat := 32

/-- A fork lists the states it leads to. -/
def waySize : Nat := 4

/-- A table lists byte ranges with the states that they lead to. -/
def rowSize : Nat := 8

def sizeLimit : Nat := 10485760

def size (g : StateGraph) : Nat := stateSize * g.states + g.extra

end StateGraph

/-- Building a graph, as long as it is within the limit. -/
abbrev Build := StateT StateGraph Option

/-- How a piece of a graph is left: a fork needs a further way out to be linked to what follows. -/
inductive Exit where
  | plain
  | fork
deriving DecidableEq

namespace Build
open StateGraph

def grow (states extra : Nat) : Build Unit := fun g =>
  let g : StateGraph := ⟨g.states + states, g.extra + extra⟩
  if g.size ≤ sizeLimit then some ((), g) else none

/-- Adds a state and gives its number. -/
def state (extra : Nat) : Build Nat := do
  let g ← get
  grow 1 extra
  pure g.states

def plain : Build Exit := do
  grow 1 0
  pure .plain

def ways (n : Nat) : Build Unit := grow 0 (n * waySize)

def link : Exit → Build Unit
  | .plain => pure ()
  | .fork => ways 1

/-- `n` more rounds after a piece that is left by `e`. -/
def more (round : Build Exit) : Nat → Exit → Build Exit
  | 0, e => pure e
  | n + 1, e => do
    link e
    more round n (← round)

def exactly (round : Build Exit) : Nat → Build Exit
  | 0 => plain
  | n + 1 => do more round n (← round)

/-- `n` rounds that may each be the last. -/
def upTo (round : Build Exit) : Nat → Exit → Build Exit
  | 0, e => pure e
  | n + 1, e => do
    grow 1 0
    let next ← round
    link e
    ways 2
    upTo round n next

/-- Any number of rounds, none of them empty: a fork that each round leads back to. -/
def anyNumber (round : Build Exit) : Build Exit := do
  grow 1 0
  let e ← round
  ways 1
  link e
  pure .fork

/-- At least one round: a fork after it leads back. -/
def oneOrMore (round : Build Exit) : Build Exit := do
  let e ← round
  grow 1 0
  link e
  ways 1
  pure .fork

/-- Nothing, or at least one round. -/
def orNothing (round : Build Exit) : Build Exit := do
  link (← oneOrMore round)
  grow 2 0
  ways 2
  pure .plain

def optional (round : Build Exit) : Build Exit := do
  grow 1 0
  let e ← round
  grow 1 0
  ways 2
  link e
  pure .plain

def repeated (neverEmpty : Bool) (round : Build Exit) (least : Nat) (most : Option Nat) :
    Build Exit :=
  match least, most with
  | 0, some 1 => optional round
  | 0, none => if neverEmpty then anyNumber round else orNothing round
  | 1, none => oneOrMore round
  | n + 1, none => do
    link (← exactly round n)
    oneOrMore round
  | least, some most =>
    if least = most then exactly round least
    else do
      let e ← exactly round least
      grow 1 0
      link (← upTo round (most - least) e)
      pure .plain

end Build

/-- A row of a table: a byte range and the state it leads to. -/
structure Row where
  range : ByteRange
  target : Nat
deriving DecidableEq

/-- Mixes numbers into 64 bits, each by exclusive or and a multiplication. -/
def mixed (ns : List Nat) : Nat :=
  (ns.foldl (fun h n => (h ^^^ n.toUInt64) * 1099511628211) (14695981039346656037 : UInt64)).toNat

/-- States by what they do. Each has its slot, and a newer state takes the place of an older one. -/
abbrev Known (α : Type) := Std.HashMap Nat (α × Nat)

def Known.find? [BEq α] (known : Known α) (slot : Nat) (key : α) : Option Nat :=
  match known.get? slot with
  | some (k, state) => if k == key then some state else none
  | none => none

namespace Forward

def slots : Nat := 10000

def slotOf (rows : List Row) : Nat :=
  mixed (rows.flatMap fun r => [r.range.first, r.range.last, r.target]) % slots

/-- A table, or the state that is known for it. -/
def table (known : Known (List Row)) (rows : List Row) : Build (Nat × Known (List Row)) :=
  let slot := slotOf rows
  match known.find? slot rows with
  | some state => pure (state, known)
  | none => do
    let state ← Build.state (rows.length * StateGraph.rowSize)
    pure (state, known.insert slot (rows, state))

/-- Splits byte runs by their first range. -/
def byHead (runs : List (List ByteRange)) : List (ByteRange × List (List ByteRange)) :=
  (runs.splitBy fun a b => a.head? == b.head?).filterMap fun same =>
    (same.head?.bind (·.head?)).map fun head => (head, same.map (·.drop 1))

/-- A tree of tables for byte runs of at most `depth` bytes, all of which lead to `target`. Tables
that do the same are one. -/
def tables (target : Nat) :
    Nat → Known (List Row) → List (List ByteRange) → Build (Nat × Known (List Row))
  | 0, known, _ => pure (target, known)
  | depth + 1, known, runs =>
    if runs.all (·.isEmpty) then pure (target, known)
    else do
      let (rows, known) ← (byHead runs).foldlM (fun (rows, known) (head, rests) => do
        let (next, known) ← tables target depth known rests
        pure (⟨head, next⟩ :: rows, known)) (([] : List Row), known)
      table known rows.reverse

def set (set : Ranges) : Build Exit := do
  let target ← Build.state 0
  let _ ← tables target 4 {} (byteRuns set)
  pure .plain

end Forward

namespace Backward

def slots : Nat := 1000

/-- A state that reads one of a range of bytes and goes on to `next`. -/
structure Step where
  next : Nat
  range : ByteRange
deriving DecidableEq

def slotOf (s : Step) : Nat := mixed [s.next, s.range.first, s.range.last] % slots

/-- A step, or the state that is known for it. -/
def step (known : Known Step) (s : Step) : Build (Nat × Known Step) :=
  let slot := slotOf s
  match known.find? slot s with
  | some state => pure (state, known)
  | none => do
    let state ← Build.state 0
    pure (state, known.insert slot (s, state))

/-- A fork into the byte runs, each read from its last byte to its first. What several runs start
with is shared. -/
def set (set : Ranges) : Build Exit := do
  let _ ← Build.state 0
  let target ← Build.state 0
  let _ ← (byteRuns set).foldlM (fun known run => do
    let (_, known) ← run.foldlM (fun (next, known) range => step known ⟨next, range⟩)
      (target, known)
    Build.ways 1
    pure known) ({} : Known Step)
  pure .plain

end Backward

namespace Build
open StateGraph

/-- A set of ASCII takes one table. -/
def ascii (set : Ranges) : Build Exit := do
  grow 2 (set.length * rowSize)
  pure .plain

/-- The stretches of texts between which one of the texts ends. Of ends in a row before all other
texts only the first counts. -/
def stretches (texts : List (List Nat)) : List (List (List Nat)) :=
  match texts.dropWhile (·.isEmpty) with
  | rest => if rest.length = texts.length then split rest else [] :: split rest
where
  split : List (List Nat) → List (List (List Nat))
    | [] => [[]]
    | [] :: rest => [] :: split rest
    | t :: rest =>
      match split rest with
      | s :: ss => (t :: s) :: ss
      | [] => [[t]]

/-- What is left of the texts that begin with each byte. -/
def byFirst (texts : List (List Nat)) : List (List (List Nat)) :=
  (texts.filterMap (·.head?)).eraseDups.map fun b =>
    texts.filterMap fun t => if t.head? = some b then some (t.drop 1) else none

/-- A tree of texts of at most `depth` bytes: where texts go on, a fork leads to a state for each
stretch and to the end between stretches. -/
def texts : Nat → List (List Nat) → Build Unit
  | 0, _ => pure ()
  | depth + 1, all =>
    if all.all (·.isEmpty) then pure ()
    else do
      let parts := stretches all
      grow 1 0
      ways (parts.length - 1)
      for part in parts do
        let branches := byFirst part
        if !branches.isEmpty then
          grow 1 (if branches.length = 1 then 0 else branches.length * rowSize)
          ways 1
        for rests in branches do
          texts depth rests

end Build

inductive Direction where
  | forward
  | backward

namespace Direction

def set (d : Direction) (set : Ranges) : Build Exit :=
  if set.all (·.2 < 0x80) then Build.ascii set
  else match d with
    | forward => Forward.set set
    | backward => Backward.set set

def texts (d : Direction) (texts : List (List Char)) : Build Exit := do
  let texts := texts.map (·.flatMap fun c => bytesOf c.toNat)
  let texts := match d with
    | forward => texts
    | backward => texts.map (·.reverse)
  Build.grow 1 0
  Build.texts (texts.foldl (fun n t => max n t.length) 0) texts
  pure .plain

end Direction

namespace Tree
open Build StateGraph

def literal? : Tree → Option (List Char)
  | .literal text => some text
  | _ => none

mutual
/-- Builds the part of the graph for a tree. Only the matcher that reads forwards keeps groups. -/
def build (d : Direction) : Tree → Build Exit
  | .empty | .place _ => plain
  | .literal text => do
    grow (text.flatMap fun c => bytesOf c.toNat).length 0
    pure .plain
  | .chars set => d.set set
  | .sequence ts =>
    match d with
    | .forward => buildInOrder d ts
    | .backward => buildFromLast d ts
  | .either ts =>
    match ts.mapM literal?, ts with
    | some texts, _ => d.texts texts
    | none, ts => buildBranches d ts
  | .group t =>
    match d with
    | .forward => do
      grow 1 0
      let e ← build d t
      grow 1 0
      link e
      pure .plain
    | .backward => build d t
  | .repeated t least most _ => Build.repeated t.neverEmpty (build d t) least most

def buildInOrder (d : Direction) : List Tree → Build Exit
  | [] => plain
  | [t] => build d t
  | t :: ts => do
    link (← build d t)
    buildInOrder d ts

def buildFromLast (d : Direction) : List Tree → Build Exit
  | [] => plain
  | [t] => build d t
  | t :: ts => do
    link (← buildFromLast d ts)
    build d t

/-- Alternatives between a fork and a common end. -/
def buildBranches (d : Direction) : List Tree → Build Exit
  | a :: b :: ts => do
    let first ← build d a
    let second ← build d b
    grow 2 0
    ways 2
    link first
    link second
    buildOthers d ts
    pure .plain
  | [t] => build d t
  | [] => plain

def buildOthers (d : Direction) : List Tree → Build Unit
  | [] => pure ()
  | t :: ts => do
    let e ← build d t
    ways 1
    link e
    buildOthers d ts
end

/-- Builds the whole graph: unless matches are bound to the side it starts from, a loop over any
byte stands in front. -/
def buildWhole (d : Direction) (t : Tree) : Build Unit := do
  let bound := match d with
    | .forward => t.fromStart
    | .backward => t.toEnd
  if bound then grow 1 0
  else
    grow 3 rowSize
    ways 2
  link (← match d with
    | .forward => build d (.group t)
    | .backward => build d t)
  grow 1 0

/-- Whether there are so many texts to choose from that they are looked for without a graph. -/
def isManyTexts : Tree → Bool
  | .either ts => 3000 ≤ ts.length && ts.all fun t => (literal? t).isSome
  | _ => false

/-- Whether the matchers of both directions are within the limit. -/
def fits (t : Tree) : Bool :=
  t.isManyTexts ||
    (((buildWhole .forward t).run {}).isSome && ((buildWhole .backward t).run {}).isSome)

end Tree

end HyperSchema.Pattern
