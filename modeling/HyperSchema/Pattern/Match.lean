import HyperSchema.Pattern.Basic

/-!
Matching by reach: for every place in a text, what a tree makes of it is the set of places where a
match from there may end. A place is counted by the characters that follow it, so that a match never
leads to a higher one, and a set of places is the number whose bits are its members.
-/

namespace HyperSchema.Pattern

abbrev Places := Nat

def bit (i : Nat) : Places := 1 <<< i

theorem bit_pos (i : Nat) : 0 < bit i := by
  rw [bit, Nat.one_shiftLeft]
  exact Nat.two_pow_pos i

/-- The places where a match may end, by the place where it starts. -/
abbrev Reach := Array Places

namespace Reach

def endsFrom (r : Reach) (i : Nat) : Places := r.getD i 0

/-- Where matches from any of these places end. -/
def image (r : Reach) (p : Places) : Places :=
  if p = 0 then 0 else r.endsFrom p.log2 ||| image r (p - bit p.log2)
termination_by p
decreasing_by exact Nat.sub_lt (Nat.pos_of_ne_zero (by assumption)) (bit_pos _)

/-- First one match, then the other. -/
def comp (r s : Reach) : Reach := r.map s.image

def union (r s : Reach) : Reach := Array.zipWith (· ||| ·) r s

/-- Adds the empty match everywhere. -/
def orEmpty (r : Reach) : Reach := r.mapIdx fun i p => p ||| bit i

def empty (size : Nat) : Reach := Array.ofFn fun (i : Fin size) => bit i

/-- What `closed` reaches from these places, where no place that it reaches leads further. Places
already covered are not followed again. -/
def cover (closed : Reach) (p covered : Places) : Places :=
  if p = 0 then covered
  else
    let step := closed.endsFrom p.log2
    let rest := p - bit p.log2
    cover closed (rest - (rest &&& step)) (covered ||| step)
termination_by p
decreasing_by
  have := Nat.sub_lt (Nat.pos_of_ne_zero (by assumption)) (bit_pos p.log2)
  exact Nat.lt_of_le_of_lt (Nat.sub_le _ _) this

/-- Any number of matches, one after the other: the place itself, and what the lower places that it
leads to reach. -/
def star (r : Reach) : Reach :=
  r.foldl (fun closed p =>
    let here := bit closed.size
    closed.push (cover closed (p &&& (here - 1)) here)) #[]

/-- This many matches in a row, by halving. -/
def power (r : Reach) (n : Nat) : Reach :=
  if n = 0 then empty r.size
  else
    let half := power r (n / 2)
    if n % 2 = 0 then half.comp half else (half.comp half).comp r

/-- From `least` to `most` matches in a row. More rounds than there are places add nothing. -/
def rounds (r : Reach) (least : Nat) (most : Option Nat) : Reach :=
  let first := r.power (min least r.size)
  match most with
  | none => first.comp r.star
  | some most => first.comp (r.orEmpty.power (min (most - least) r.size))

end Reach

/-- A text seen from a place: the character before it and the character after it. -/
structure View where
  before : Option Char
  after : Option Char

def viewAt (text : Array Char) (i : Nat) : View :=
  let passed := text.size - i
  ⟨if passed = 0 then none else text[passed - 1]?, text[passed]?⟩

namespace Place

def holds (v : View) : Place → Bool
  | textStart => v.before.isNone
  | textEnd => v.after.isNone
  | lineStart returns =>
    v.before.isNone || v.before == some '\n' ||
      (returns && v.before == some '\r' && v.after != some '\n')
  | lineEnd returns =>
    v.after.isNone || (v.after == some '\n' && !(returns && v.before == some '\r')) ||
      (returns && v.after == some '\r')
  | boundary word => isIn word v.before != isIn word v.after
  | inside word => isIn word v.before == isIn word v.after
  | wordStart word => !isIn word v.before && isIn word v.after
  | wordEnd word => isIn word v.before && !isIn word v.after
  | noWordBefore word => !isIn word v.before
  | noWordAfter word => !isIn word v.after
where
  isIn (word : Text.Ranges) (c : Option Char) : Bool := c.any word.contains

end Place

/-- Whether the text reads `literal` from its position `passed` on. -/
def readsAt (text : Array Char) : Nat → List Char → Bool
  | _, [] => true
  | passed, c :: cs => text[passed]? == some c && readsAt text (passed + 1) cs

namespace Tree

/-- The places of a text, each with what holds of it. -/
def reachOf (text : Array Char) (f : Nat → Places) : Reach :=
  Array.ofFn fun (i : Fin (text.size + 1)) => f i

mutual
def reach (text : Array Char) : Tree → Reach
  | .empty => .empty (text.size + 1)
  | .literal cs =>
    reachOf text fun i =>
      if readsAt text (text.size - i) cs then bit (i - cs.length) else 0
  | .chars set =>
    reachOf text fun i =>
      if text[text.size - i]?.any set.contains then bit (i - 1) else 0
  | .place p => reachOf text fun i => if p.holds (viewAt text i) then bit i else 0
  | .sequence ts => reachAll text ts
  | .either ts => reachAny text ts
  | .group t => reach text t
  | .repeated t least most _ => (reach text t).rounds least most

def reachAll (text : Array Char) : List Tree → Reach
  | [] => .empty (text.size + 1)
  | [t] => reach text t
  | t :: ts => (reach text t).comp (reachAll text ts)

def reachAny (text : Array Char) : List Tree → Reach
  | [] => reachOf text fun _ => 0
  | t :: ts => (reach text t).union (reachAny text ts)
end

/-- Whether the tree matches somewhere in the text. -/
def isMatch (t : Tree) (text : String) : Bool := (t.reach text.toList.toArray).any (· != 0)

end Tree

end HyperSchema.Pattern
