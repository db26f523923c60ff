import HyperSchema.Decimal.Integer
import HyperSchema.Decimal.Shortest
import HyperSchema.Failure
import HyperSchema.Settings

namespace HyperSchema
open Decimal

/-- What a settings source gives under one key. -/
inductive Entry where
  | nothing
  | flag (b : Bool)
  | integer (n : Int)
  | real (x : Binary64)
  | text (s : String)
  | items (entries : List Entry)
  | table (entries : List (String × Entry))

/-- Entries by their keys, each of which stands once. -/
abbrev Entries := List (String × Entry)

namespace Entry

def text? : Entry → Option String
  | flag b => some (if b then "true" else "false")
  | integer n => some (toString n)
  | real x => some x.display
  | text s => some s
  | _ => none

/-- The nearest count, halves up; what is below zero or no number counts as zero. -/
def nearestCount (x : Binary64) : Option Nat :=
  match x with
  | .nan | .infinity true | .finite true .. => some 0
  | .infinity false => none
  | .finite false m e =>
    let half := twoTo (-e).toNat
    some ((2 * (m * twoTo e.toNat) + half) / (2 * half))

/-- Words stand for one and zero, as flags do. -/
def countOfText? (s : String) : Option Nat :=
  let word := String.ofList (s.toList.map Char.toLower)
  if word ∈ ["true", "on", "yes"] then some 1
  else if word ∈ ["false", "off", "no"] then some 0
  else match s.toList with
    | '-' :: _ => none
    | cs => (readInteger 0 (UInt64.size - 1) cs).toOption.map Int.toNat

def count? (e : Entry) : Option Nat :=
  let n := match e with
    | flag b => some (if b then 1 else 0)
    | integer n => if 0 ≤ n then some n.toNat else none
    | real x => nearestCount x
    | text s => countOfText? s
    | _ => none
  n.filter (· < UInt32.size)

def texts? : Entry → Option (List String)
  | items entries => entries.mapM text?
  | _ => none

def optional (read : Entry → Option α) : Entry → Option (Option α)
  | nothing => some none
  | e => (read e).map some

end Entry

namespace Entries

/-- Changes the entry under a key, which is nothing as long as there is none. -/
def update (entries : Entries) (key : String) (change : Entry → Entry) : Entries :=
  match entries with
  | [] => [(key, change .nothing)]
  | (k, e) :: rest =>
    if k = key then (k, change e) :: rest else (k, e) :: update rest key change

def read (entries : Entries) (key : String) (default : α) (f : Entry → Option α) :
    Except ConfigError α :=
  match entries.lookup key with
  | none => .ok default
  | some e =>
    match f e with
    | some a => .ok a
    | none => .error .malformed

end Entries

namespace Settings

/-- A limit of zero would leave nothing to be found. -/
def checked (s : Settings) : Except ConfigError Settings :=
  if s.defaultResultLimit = some 0 then .error .zeroResultLimit else .ok s

/-- Other keys are passed over. -/
def ofEntries (entries : Entries) : Except ConfigError Settings := do
  let s : Settings := {}
  let reservedSlotNames ← entries.read "reserved_slot_names" s.reservedSlotNames Entry.texts?
  let schemaDirectory ←
    entries.read "schema_directory" s.schemaDirectory (Entry.optional Entry.text?)
  let logFilter ← entries.read "log_filter" s.logFilter Entry.text?
  let defaultResultLimit ←
    entries.read "default_result_limit" s.defaultResultLimit (Entry.optional Entry.count?)
  checked { reservedSlotNames, schemaDirectory, logFilter, defaultResultLimit }

end Settings

end HyperSchema
