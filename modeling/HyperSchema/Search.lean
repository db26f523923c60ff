import HyperSchema.ValueSource

namespace HyperSchema

/-- A criterion whose value is still to be found. -/
structure PlannedCriterion where
  source : ValueSource
  operator : Operator
  caseInsensitive : Bool

/-- The criteria of a collection, ready for any referrer. -/
structure SearchPlan where
  reference : SchemaId
  slot : String
  and : List PlannedCriterion
  or : List PlannedCriterion
  limit : Option Nat

/-- One comparison with a slot of the documents searched. -/
structure Criterion where
  slot : String
  value : Option Value
  operator : Operator
  regex : Option Regex

/-- A search for the documents that one collection of one referrer holds. -/
structure SearchRequest where
  reference : SchemaId
  hints : Hints
  and : List Criterion
  or : List Criterion
  /-- The slots to fetch, ascending; none means that the search decides. -/
  projection : List String
  limit : Option Nat
  referrer : Model
  slot : String

namespace PlannedCriterion

def compile (form : TextForm) (reference referrer : Prototype) (d : CriterionDeclaration) :
    Except Failure PlannedCriterion :=
  (ValueSource.compile form reference d.referenceSlot referrer d.source).map fun source =>
    ⟨source, d.operator, d.caseInsensitive⟩

/-- What a value is matched by: itself if it is text, else the text it is written as. -/
def patternText (form : TextForm) (v : Value) : String := v.asText?.getD (form.format v)

def regexFor (form : TextForm) (c : PlannedCriterion) (value : Option Value) :
    Except Failure (Option Regex) :=
  match c.operator, value with
  | .regex, some v =>
    match form.pattern? (patternText form v) c.caseInsensitive with
    | some r => .ok (some r)
    | none => .error (.pattern (patternText form v))
  | _, _ => .ok none

/-- Puts the value found for a referrer in place. -/
def withValue (form : TextForm) (c : PlannedCriterion) (value : Option Value) :
    Except Failure Criterion :=
  (regexFor form c value).map fun regex => ⟨c.source.slot, value, c.operator, regex⟩

end PlannedCriterion

def SearchPlan.compile (form : TextForm) (reference referrer : Prototype) (slot : CollectionSlot) :
    Except Failure SearchPlan := do
  let and ← slot.and.mapM (PlannedCriterion.compile form reference referrer)
  let or ← slot.or.mapM (PlannedCriterion.compile form reference referrer)
  pure { reference := slot.reference, slot := slot.name, and, or, limit := slot.limit }

/-- The property slots that the hints leave in. -/
def Prototype.slotsLeft (p : Prototype) (hints : Hints) : List String :=
  Text.nameSet (p.propertySlotNames.filter fun n => !hints.excludedSlotNames.contains n)

/-- The bindings of a link, by the real names of the slots of the response. -/
abbrev Bindings := List (String × ValueSource)

def Bindings.compile (form : TextForm) (response owner : Prototype) (link : LinkSlot) :
    Except Failure Bindings :=
  link.bindings.foldlM (fun bindings (slot, d) =>
    (ValueSource.compile form response slot owner d).map fun s => insertByName s.slot s bindings) []

end HyperSchema
