import HyperSchema.Proofs.Prototype.Checks
import HyperSchema.Proofs.Registry.Coherent

namespace HyperSchema

/-- What a registry is asked for. -/
inductive Request where
  | keep (s : Schema)
  | load (text : String)
  | prototype (id : SchemaId)
  | compile (id : SchemaId)
  | valueSource (reference : SchemaId) (slot : String) (referrer : SchemaId) (d : SourceDeclaration)
  | validateWrite (id : SchemaId) (slot : String) (v : Value)
  | searchPlan (id : SchemaId) (slot : String)
  | search (referrer : Model) (slot : String)
  | linkBindings (id : SchemaId) (link : String)
  | followLink (referrer : Model) (link : String)

inductive Answer where
  | kept (s : Schema) (before : Bool)
  | loaded (s : Schema)
  | prototype (p : Prototype)
  | valueSource (s : ValueSource)
  | written (slot : String)
  | searchPlan (plan : SearchPlan)
  | search (request : SearchRequest)
  | bindings (b : Bindings)
  | parameters (values : List (String × Option Value))

/-- The schemas kept after a request. -/
def Request.storeAfter (store : Store) : Request → Store
  | keep s => store.keep s
  | load text => (Schema.read? text).elim store store.keep
  | _ => store

namespace Registry
open RegistryM

def answer : Request → RegistryM Answer
  | .keep s => do
    let (kept, before) ← keep s
    pure (.kept kept before)
  | .load text => return .loaded (← load text)
  | .prototype id => return .prototype (← prototype id)
  | .compile id => return .prototype (← compile id)
  | .valueSource reference slot referrer d =>
    return .valueSource (← valueSource reference slot referrer d)
  | .validateWrite id slot v => do
    let p ← prototype id
    return .written (← attempt .validation (p.validateWrite slot v))
  | .searchPlan id slot => do
    let p ← prototype id
    let s ← attempt .compile (p.collectionSlot slot)
    return .searchPlan (← searchPlan s)
  | .search referrer slot => return .search (← search referrer slot)
  | .linkBindings id link => do
    let p ← prototype id
    let l ← attempt .compile (p.linkSlot link)
    return .bindings (← linkBindings l)
  | .followLink referrer link => return .parameters (← followLink referrer link)

/-- The answers to requests made one after the other. -/
def answers (r : Registry) : List Request → List (Except Failure Answer)
  | [] => []
  | q :: qs => ((answer q).exec r).1 :: answers ((answer q).exec r).2 qs

end Registry

namespace Uncached

def answer (c : Conventions) (store : Store) : Request → Except Failure Answer
  | .keep s => .ok (.kept (store.kept s) (store.find? s.id).isSome)
  | .load text =>
    match Schema.read? text with
    | some s => .ok (.loaded (store.kept s))
    | none => .error .document
  | .prototype id | .compile id => return .prototype (← prototype c store id)
  | .valueSource reference slot referrer d =>
    return .valueSource (← valueSource c store reference slot referrer d)
  | .validateWrite id slot v => do
    let p ← prototype c store id
    return .written (← liftFailure .validation (p.validateWrite slot v))
  | .searchPlan id slot => do
    let p ← prototype c store id
    let s ← liftFailure .compile (p.collectionSlot slot)
    return .searchPlan (← searchPlan c store s)
  | .search referrer slot => return .search (← search c store referrer slot)
  | .linkBindings id link => do
    let p ← prototype c store id
    let l ← liftFailure .compile (p.linkSlot link)
    return .bindings (← linkBindings c store l)
  | .followLink referrer link => return .parameters (← followLink c store referrer link)

/-- The answers to requests made one after the other, of which only the schemas kept matter. -/
def answers (c : Conventions) (store : Store) : List Request → List (Except Failure Answer)
  | [] => []
  | q :: qs => answer c store q :: answers c (q.storeAfter store) qs

end Uncached

namespace Registry
open RegistryM

variable {c : Conventions} {store : Store} {p : Prototype}

theorem slotNamed?_of_collectionSlot {name : String} {slot : CollectionSlot}
    (h : p.collectionSlot name = .ok slot) :
    Prototype.slotNamed? p.slots slot.name = some (.collection slot) := by
  unfold Prototype.collectionSlot at h
  split at h
  next s hs =>
    cases h
    obtain ⟨t, ht, hts⟩ := Option.bind_eq_some_iff.mp hs
    cases t <;> cases hts
    exact Prototype.slotNamed?_of_slot? ht
  next => cases h

theorem slotNamed?_of_linkSlot {name : String} {link : LinkSlot}
    (h : p.linkSlot name = .ok link) :
    Prototype.slotNamed? p.slots link.name = some (.link link) := by
  unfold Prototype.linkSlot at h
  split at h
  next s hs =>
    cases h
    obtain ⟨t, ht, hts⟩ := Option.bind_eq_some_iff.mp hs
    cases t <;> cases hts
    exact Prototype.slotNamed?_of_slot? ht
  next => cases h

/-- The owner of a slot is the schema that it was found with. -/
theorem prototype_of_owner {id : SchemaId} {s : Slot} {name : String}
    (hp : Uncached.prototype c store id = .ok p)
    (hs : Prototype.slotNamed? p.slots name = some s) :
    Uncached.prototype c store s.base.owner = .ok p := by
  rwa [Prototype.owner_of_compile hp (List.mem_of_find?_eq_some hs)]

theorem answers_search (referrer : Model) (name : String) :
    Answers c store (search referrer name) (Uncached.search c store referrer name) := by
  refine .bind (answers_prototype _) fun p hp => .bind (.attempt _ _) fun slot hslot => ?_
  have hnamed := slotNamed?_of_collectionSlot (liftFailure_eq_ok_iff.mp hslot)
  exact answers_buildSearch referrer (prototype_of_owner hp hnamed) hnamed

theorem answers_followLink (referrer : Model) (name : String) :
    Answers c store (followLink referrer name) (Uncached.followLink c store referrer name) := by
  refine .bind (answers_prototype _) fun p hp => .bind (.attempt _ _) fun link hlink => ?_
  have hnamed := slotNamed?_of_linkSlot (liftFailure_eq_ok_iff.mp hlink)
  exact .bind (answers_linkBindings (prototype_of_owner hp hnamed) hnamed) fun b _ =>
    .mapM (fun _ => .bind (answers_resolve _ _) fun _ _ => .pure _) b

/-- One request is answered from the schemas kept alone, and leaves nothing out of date. -/
theorem answer_eq_uncached {r : Registry} (h : Coherent c store r) (q : Request) :
    ((answer q).exec r).1 = Uncached.answer c store q ∧
      Coherent c (q.storeAfter store) ((answer q).exec r).2 := by
  have hquery (hx : Answers c store (answer q) (Uncached.answer c store q))
      (hstore : q.storeAfter store = store) : ((answer q).exec r).1 = Uncached.answer c store q ∧
        Coherent c (q.storeAfter store) ((answer q).exec r).2 := by
    rw [hstore]
    exact hx r h
  cases q with
  | keep s =>
    refine ⟨?_, h.keep s⟩
    rw [← h.schemas]
    rfl
  | load text =>
    cases hs : Schema.read? text with
    | none =>
      have hexec : (answer (.load text)).exec r = (.error .document, r) := by
        simp only [answer, load, hs]
        rfl
      rw [hexec, Uncached.answer, Request.storeAfter, hs]
      exact ⟨rfl, h⟩
    | some s =>
      have hexec : (answer (.load text)).exec r =
          (.ok (.loaded (r.store.kept s)), { r with store := r.store.keep s }) := by
        simp only [answer, load, hs]
        rfl
      rw [hexec, Uncached.answer, Request.storeAfter, hs, ← h.schemas]
      exact ⟨rfl, h.schemas ▸ h.keep s⟩
  | prototype id => exact hquery (.bind (answers_prototype id) fun _ _ => .pure _) rfl
  | compile id => exact hquery (.bind (answers_compile id) fun _ _ => .pure _) rfl
  | valueSource reference slot referrer d =>
    exact hquery (.bind (answers_valueSource reference slot referrer d) fun _ _ => .pure _) rfl
  | validateWrite id slot v =>
    refine hquery (.bind (answers_prototype id) fun p _ => ?_) rfl
    exact .bind (.attempt _ _) fun _ _ => .pure _
  | searchPlan id slot =>
    refine hquery (.bind (answers_prototype id) fun p hp => .bind (.attempt _ _) fun s hs => ?_) rfl
    have hnamed := slotNamed?_of_collectionSlot (liftFailure_eq_ok_iff.mp hs)
    exact .bind (answers_searchPlan (prototype_of_owner hp hnamed) hnamed) fun _ _ => .pure _
  | search referrer slot =>
    exact hquery (.bind (answers_search referrer slot) fun _ _ => .pure _) rfl
  | linkBindings id link =>
    refine hquery (.bind (answers_prototype id) fun p hp => .bind (.attempt _ _) fun l hl => ?_) rfl
    have hnamed := slotNamed?_of_linkSlot (liftFailure_eq_ok_iff.mp hl)
    exact .bind (answers_linkBindings (prototype_of_owner hp hnamed) hnamed) fun _ _ => .pure _
  | followLink referrer link =>
    exact hquery (.bind (answers_followLink referrer link) fun _ _ => .pure _) rfl

theorem answers_of_coherent {r : Registry} (h : Coherent c store r) (qs : List Request) :
    answers r qs = Uncached.answers c store qs := by
  induction qs generalizing r store with
  | nil => rfl
  | cons q qs ih =>
    obtain ⟨hanswer, hr⟩ := answer_eq_uncached h q
    rw [answers, Uncached.answers, hanswer, ih hr]

/-- What a registry remembers never shows in its answers, whatever it is asked for in which order,
be it that a request fails or that a schema is kept late. -/
theorem answers_eq_uncached (c : Conventions) (store : Store) (log : List Event)
    (qs : List Request) :
    answers { conventions := c, store, log } qs = Uncached.answers c store qs :=
  answers_of_coherent (.empty c store log) qs

-- a failure is not remembered once its schema is there
example : (answers { conventions := ⟨.standard, {}⟩ }
    [.prototype ⟨"a"⟩, .keep { id := ⟨"a"⟩ }, .prototype ⟨"a"⟩]).map (·.toBool) =
      [false, true, true] := by with_unfolding_all rfl

end Registry

end HyperSchema
