import HyperSchema.Proofs.Prototype.Stages
import HyperSchema.Registry

namespace HyperSchema.Uncached

variable (c : Conventions) (store : Store)

def prototype (id : SchemaId) : Except Failure Prototype := (Prototype.compile c store id).outcome

def valueSource (reference : SchemaId) (slot : String) (referrer : SchemaId)
    (d : SourceDeclaration) : Except Failure ValueSource := do
  let reference ← prototype c store reference
  let referrer ← prototype c store referrer
  ValueSource.compile c.form reference slot referrer d

def resolve (s : ValueSource) (referrer : Model) : Except Failure (Option Value) :=
  liftFailure .coercion (s.resolve c.form referrer)

def searchPlan (slot : CollectionSlot) : Except Failure SearchPlan := do
  let reference ← prototype c store slot.reference
  let referrer ← prototype c store slot.base.owner
  SearchPlan.compile c.form reference referrer slot

def bindCriterion (referrer : Model) (criterion : PlannedCriterion) : Except Failure Criterion := do
  let value ← resolve c criterion.source referrer
  criterion.withValue c.form value

def projection (plan : SearchPlan) (hints : Hints) : Except Failure (List String) := do
  if !hints.includedSlotNames.isEmpty then
    pure (Text.nameSet hints.includedSlotNames)
  else if !hints.excludedSlotNames.isEmpty then
    pure ((← prototype c store plan.reference).slotsLeft hints)
  else
    pure []

def buildSearch (slot : CollectionSlot) (referrer : Model) : Except Failure SearchRequest := do
  let plan ← searchPlan c store slot
  let and ← plan.and.mapM (bindCriterion c referrer)
  let or ← plan.or.mapM (bindCriterion c referrer)
  let hints := referrer.hints.nested slot.name
  let projection ← projection c store plan hints
  pure {
    reference := plan.reference
    hints, and, or, projection
    limit := plan.limit
    referrer
    slot := slot.name }

def search (referrer : Model) (name : String) : Except Failure SearchRequest := do
  let p ← prototype c store referrer.schema
  let slot ← liftFailure .compile (p.collectionSlot name)
  buildSearch c store slot referrer

def linkBindings (link : LinkSlot) : Except Failure Bindings :=
  match link.response with
  | some response => do
    let response ← prototype c store response
    let owner ← prototype c store link.base.owner
    Bindings.compile c.form response owner link
  | none => pure []

def followLink (referrer : Model) (name : String) :
    Except Failure (List (String × Option Value)) := do
  let p ← prototype c store referrer.schema
  let link ← liftFailure .compile (p.linkSlot name)
  (← linkBindings c store link).mapM fun (slot, source) => do
    pure (slot, ← resolve c source referrer)

variable {c store} {store' : Store}

theorem searchPlan_mono (hle : ∀ id s, store.find? id = some s → store'.find? id = some s)
    {slot : CollectionSlot} {plan : SearchPlan} (h : searchPlan c store slot = .ok plan) :
    searchPlan c store' slot = .ok plan := by
  simp only [searchPlan, bind_eq_ok_iff] at h ⊢
  obtain ⟨reference, hreference, referrer, hreferrer, h⟩ := h
  exact ⟨reference, Prototype.compile_mono hle hreference, referrer,
    Prototype.compile_mono hle hreferrer, h⟩

theorem linkBindings_mono (hle : ∀ id s, store.find? id = some s → store'.find? id = some s)
    {link : LinkSlot} {b : Bindings} (h : linkBindings c store link = .ok b) :
    linkBindings c store' link = .ok b := by
  unfold linkBindings at h ⊢
  cases hr : link.response with
  | none => rwa [hr] at h
  | some response =>
    simp only [hr, bind_eq_ok_iff] at h ⊢
    obtain ⟨p, hp, owner, howner, h⟩ := h
    exact ⟨p, Prototype.compile_mono hle hp, owner, Prototype.compile_mono hle howner, h⟩

end HyperSchema.Uncached
