import HyperSchema.Event
import HyperSchema.Prototype.Compile
import HyperSchema.Schema.Document
import HyperSchema.Search

namespace HyperSchema

/-- A slot of a prototype, by the schema of the prototype and the name of the slot. -/
structure SlotKey where
  owner : SchemaId
  slot : String
deriving DecidableEq, Repr

/-- The schemas kept, with what has been compiled from them so far and what has happened. -/
structure Registry where
  conventions : Conventions
  store : Store := .empty
  prototypes : List (SchemaId × Prototype) := []
  plans : List (SlotKey × SearchPlan) := []
  bindings : List (SlotKey × Bindings) := []
  /-- In the order of happening. -/
  log : List Event := []

/-- An operation on a registry. What it has compiled and logged stays when it fails. -/
abbrev RegistryM (α : Type) := ExceptT Failure (StateM Registry) α

namespace RegistryM

def note (e : Event) : RegistryM Unit := modify fun r => { r with log := r.log ++ [e] }

def form : RegistryM TextForm := do return (← get).conventions.form

def attempt (f : ε → Failure) (x : Except ε α) : RegistryM α := ExceptT.mk (pure (liftFailure f x))

end RegistryM

namespace Registry
open RegistryM

/-- Keeps a schema. Gives the one kept under its identifier, and whether that was there before. -/
def keep (s : Schema) : RegistryM (Schema × Bool) := do
  let r ← get
  set { r with store := r.store.keep s }
  pure (r.store.kept s, (r.store.find? s.id).isSome)

/-- Keeps the schema of a document. -/
def load (text : String) : RegistryM Schema := do
  let some s := Schema.read? text | throw .document
  pure (← keep s).1

/-- Compiles anew, whatever has been compiled before. -/
def compile (id : SchemaId) : RegistryM Prototype := do
  let r ← get
  let c := Prototype.compile r.conventions r.store id
  c.ignored.forM fun slot => note (.comparableIgnored id slot)
  attempt (fun e => e) c.outcome

/-- The prototype of a schema, compiled when it is first asked for. Failures are not kept. -/
def prototype (id : SchemaId) : RegistryM Prototype := do
  match (← get).prototypes.lookup id with
  | some p =>
    note (.prototypeFound id)
    pure p
  | none =>
    let p ← tryCatch (compile id) fun e => do
      note (.prototypeFailed id e)
      throw e
    note (.prototypeCompiled id p.slots.length p.keySlotNames.length p.bases.length)
    modify fun r => { r with prototypes := (id, p) :: r.prototypes }
    pure p

def isCompiled (r : Registry) (id : SchemaId) : Bool := (r.prototypes.lookup id).isSome

def compiledCount (r : Registry) : Nat := r.prototypes.length

/-- A source for a slot of the reference schema, as seen from the referrer schema. -/
def valueSource (reference : SchemaId) (slot : String) (referrer : SchemaId)
    (d : SourceDeclaration) : RegistryM ValueSource := do
  let reference ← prototype reference
  let referrer ← prototype referrer
  attempt (fun e => e) (ValueSource.compile (← form) reference slot referrer d)

def resolve (s : ValueSource) (referrer : Model) : RegistryM (Option Value) := do
  if let some e := s.remark? referrer then note e
  attempt .coercion (s.resolve (← form) referrer)

/-- The criteria of a collection, compiled when they are first asked for. -/
def searchPlan (slot : CollectionSlot) : RegistryM SearchPlan := do
  let key : SlotKey := ⟨slot.base.owner, slot.name⟩
  match (← get).plans.lookup key with
  | some plan => pure plan
  | none =>
    let reference ← prototype slot.reference
    let referrer ← prototype slot.base.owner
    let plan ← attempt (fun e => e) (SearchPlan.compile (← form) reference referrer slot)
    note (.criteriaCompiled slot.name slot.base.owner)
    modify fun r => { r with plans := (key, plan) :: r.plans }
    pure plan

def bindCriterion (referrer : Model) (c : PlannedCriterion) : RegistryM Criterion := do
  let value ← resolve c.source referrer
  attempt (fun e => e) (c.withValue (← form) value)

/-- The slots to fetch: those included, else all properties but the excluded, else unrestricted. -/
def projection (plan : SearchPlan) (hints : Hints) : RegistryM (List String) := do
  if !hints.includedSlotNames.isEmpty then
    pure (Text.nameSet hints.includedSlotNames)
  else if !hints.excludedSlotNames.isEmpty then
    pure ((← prototype plan.reference).slotsLeft hints)
  else
    pure []

def buildSearch (slot : CollectionSlot) (referrer : Model) : RegistryM SearchRequest := do
  let plan ← searchPlan slot
  let and ← plan.and.mapM (bindCriterion referrer)
  let or ← plan.or.mapM (bindCriterion referrer)
  let hints := referrer.hints.nested slot.name
  let projection ← projection plan hints
  note (.searchBuilt slot.name plan.reference and.length or.length projection.length)
  pure {
    reference := plan.reference
    hints, and, or, projection
    limit := plan.limit
    referrer
    slot := slot.name }

/-- The search that fills a collection of a referrer. -/
def search (referrer : Model) (name : String) : RegistryM SearchRequest := do
  let p ← prototype referrer.schema
  let slot ← attempt .compile (p.collectionSlot name)
  buildSearch slot referrer

/-- The bindings of a link, compiled when they are first asked for. -/
def linkBindings (link : LinkSlot) : RegistryM Bindings := do
  let key : SlotKey := ⟨link.base.owner, link.name⟩
  match (← get).bindings.lookup key with
  | some b => pure b
  | none =>
    let built ← match link.response with
      | some response => do
        let response ← prototype response
        let owner ← prototype link.base.owner
        attempt (fun e => e) (Bindings.compile (← form) response owner link)
      | none => pure []
    note (.bindingsCompiled link.name link.base.owner built.length)
    modify fun r => { r with bindings := (key, built) :: r.bindings }
    pure built

/-- The parameters that a link of a referrer is followed with. -/
def followLink (referrer : Model) (name : String) : RegistryM (List (String × Option Value)) := do
  let p ← prototype referrer.schema
  let link ← attempt .compile (p.linkSlot name)
  (← linkBindings link).mapM fun (slot, source) => do
    pure (slot, ← resolve source referrer)

end Registry

end HyperSchema
