import HyperSchema.Settings.Entry

/-!
Keys of settings sources. A key is a path such as `a.b[0]`: a name, then names of entries in tables
and positions in lists. Text that is no path is one name.
-/

namespace HyperSchema

inductive KeyStep where
  | name (s : String)
  /-- A position below zero is counted from the end. -/
  | position (i : Int)
deriving DecidableEq, Repr

structure KeyPath where
  root : String
  steps : List KeyStep
deriving DecidableEq, Repr

namespace KeyPath

def isNameChar (c : Char) : Bool := c.isAlphanum || c == '_' || c == '-'

def name? (cs : List Char) : Option (String × List Char) :=
  let name := cs.takeWhile isNameChar
  if name.isEmpty then none else some (String.ofList name, cs.dropWhile isNameChar)

def isSpace (c : Char) : Bool := c == ' ' || c == '\t'

/-- A position up to its closing bracket, with spaces around it. -/
def position? (cs : List Char) : Option (Int × List Char) :=
  let cs := cs.dropWhile isSpace
  let (negative, cs) := match cs with
    | '-' :: r => (true, r)
    | r => (false, r)
  let digits := cs.takeWhile Decimal.isDigit
  match (cs.dropWhile Decimal.isDigit).dropWhile isSpace with
  | ']' :: rest => do
    if digits.isEmpty then none
    else
      let i := Decimal.Binary64.signed negative (← Decimal.natOfDigits? digits)
      if Decimal.lowestLong ≤ i ∧ i ≤ Decimal.highestLong then some (i, rest) else none
  | _ => none

def steps? (cs : List Char) : Option (List KeyStep) :=
  let next (step : KeyStep) (rest : List Char) :=
    if rest.length < cs.length then (steps? rest).map (step :: ·) else none
  match cs with
  | [] => some []
  | '.' :: cs => (name? cs).bind fun (name, rest) => next (.name name) rest
  | '[' :: cs => (position? cs).bind fun (i, rest) => next (.position i) rest
  | _ => none
termination_by cs.length

def ofString (key : String) : KeyPath :=
  match (name? key.toList).bind fun (root, rest) => (steps? rest).map (KeyPath.mk root) with
  | some path => path
  | none => ⟨key, []⟩

end KeyPath

namespace Entry

/-- The entries of a table; none of anything else. -/
def entries : Entry → Entries
  | table entries => entries
  | _ => []

def list : Entry → List Entry
  | items entries => entries
  | _ => []

mutual
/-- Puts `new` in the place of `old`. A table is taken in entry by entry. -/
def merge (old : Entry) : Entry → Entry
  | .table added => .table (mergeEntries old.entries added)
  | new => new

def mergeEntries (old : Entries) : Entries → Entries
  | [] => old
  | (key, new) :: added => mergeEntries (old.update key fun e => merge e new) added
end

/-- Changes the item at a position. A list that is too short is filled up with nothing. -/
def updateAt (list : List Entry) (i : Int) (change : Entry → Entry) : List Entry :=
  let i := if i < 0 then i + list.length else i
  let list := List.replicate (-i).toNat .nothing ++ list
  let list := list ++ List.replicate (i.toNat + 1 - list.length) .nothing
  list.modify i.toNat change

/-- Puts `new` at the end of a path. What stands in its way gives way to tables and lists. -/
def place (new : Entry) : List KeyStep → Entry → Entry
  | [], old => merge old new
  | .name key :: rest, old => .table (old.entries.update key (place new rest))
  | .position i :: rest, old => .items (updateAt old.list i (place new rest))

end Entry

/-- Puts an entry where its key leads. -/
def Entries.insert (entries : Entries) (key : String) (e : Entry) : Entries :=
  let path := KeyPath.ofString key
  entries.update path.root (Entry.place e path.steps)

/-- Puts all entries of a source where their keys lead. -/
def Entries.insertAll (entries added : Entries) : Entries :=
  added.foldl (fun entries (key, e) => entries.insert key e) entries

end HyperSchema
