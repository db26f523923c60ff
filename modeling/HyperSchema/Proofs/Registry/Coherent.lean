import HyperSchema.Proofs.Registry.Uncached

namespace HyperSchema

namespace RegistryM

variable {α β : Type}

/-- The answer of an operation and the registry after it. -/
def exec (x : RegistryM α) (r : Registry) : Except Failure α × Registry := x.run.run r

theorem exec_bind (x : RegistryM α) (f : α → RegistryM β) (r : Registry) :
    (x >>= f).exec r = match x.exec r with
      | (.ok a, r') => (f a).exec r'
      | (.error e, r') => (.error e, r') := by
  rw [exec, ExceptT.run_bind, StateT.run_bind, exec]
  rcases x.run.run r with ⟨e | a, r'⟩
  · rfl
  · rfl

theorem exec_tryCatch (x : RegistryM α) (f : Failure → RegistryM α) (r : Registry) :
    exec (tryCatch x f) r = match x.exec r with
      | (.ok a, r') => (.ok a, r')
      | (.error e, r') => (f e).exec r' := by
  rw [exec, ExceptT.run_tryCatch, StateT.run_bind, exec]
  rcases x.run.run r with ⟨e | a, r'⟩
  · rfl
  · rfl

end RegistryM

namespace Registry
open RegistryM

/-- The registry holds these conventions and schemas, and nothing remembered is out of date. Plans
and bindings are remembered for slots that the prototype of their owner has now. -/
structure Coherent (c : Conventions) (store : Store) (r : Registry) : Prop where
  conventions : r.conventions = c
  schemas : r.store = store
  prototypes : ∀ id p, r.prototypes.lookup id = some p → Uncached.prototype c store id = .ok p
  plans : ∀ key plan, r.plans.lookup key = some plan →
    ∃ p slot, Uncached.prototype c store key.owner = .ok p ∧
      Prototype.slotNamed? p.slots key.slot = some (.collection slot) ∧
      Uncached.searchPlan c store slot = .ok plan
  bindings : ∀ key b, r.bindings.lookup key = some b →
    ∃ p link, Uncached.prototype c store key.owner = .ok p ∧
      Prototype.slotNamed? p.slots key.slot = some (.link link) ∧
      Uncached.linkBindings c store link = .ok b

/-- On a coherent registry the operation gives this answer, and it leaves a coherent one. -/
def Answers (c : Conventions) (store : Store) {α : Type} (x : RegistryM α) (y : Except Failure α) :
    Prop :=
  ∀ r, Coherent c store r → (x.exec r).1 = y ∧ Coherent c store (x.exec r).2

variable {c : Conventions} {store : Store} {α β : Type}

theorem forall_lookup_cons {κ ν : Type} [BEq κ] [LawfulBEq κ] {P : κ → ν → Prop}
    {entries : List (κ × ν)} (h : ∀ k v, entries.lookup k = some v → P k v) {k : κ} {v : ν}
    (hkv : P k v) : ∀ k' v', ((k, v) :: entries).lookup k' = some v' → P k' v' := by
  intro k' v' h'
  rw [List.lookup_cons] at h'
  split at h'
  next heq =>
    cases h'
    rwa [eq_of_beq heq]
  next => exact h k' v' h'

namespace Coherent

variable {r : Registry}

theorem empty (c : Conventions) (store : Store) (log : List Event) :
    Coherent c store { conventions := c, store, log } :=
  ⟨rfl, rfl, by simp, by simp, by simp⟩

theorem addPrototype {id : SchemaId} {p : Prototype} (hp : Uncached.prototype c store id = .ok p)
    (h : Coherent c store r) :
    Coherent c store { r with prototypes := (id, p) :: r.prototypes } :=
  { h with prototypes := forall_lookup_cons h.prototypes hp }

theorem addPlan {p : Prototype} {slot : CollectionSlot} {plan : SearchPlan}
    (hp : Uncached.prototype c store slot.base.owner = .ok p)
    (hslot : Prototype.slotNamed? p.slots slot.name = some (.collection slot))
    (hplan : Uncached.searchPlan c store slot = .ok plan) (h : Coherent c store r) :
    Coherent c store { r with plans := (⟨slot.base.owner, slot.name⟩, plan) :: r.plans } :=
  { h with plans := forall_lookup_cons h.plans ⟨p, slot, hp, hslot, hplan⟩ }

theorem addBindings {p : Prototype} {link : LinkSlot} {b : Bindings}
    (hp : Uncached.prototype c store link.base.owner = .ok p)
    (hlink : Prototype.slotNamed? p.slots link.name = some (.link link))
    (hb : Uncached.linkBindings c store link = .ok b) (h : Coherent c store r) :
    Coherent c store { r with bindings := (⟨link.base.owner, link.name⟩, b) :: r.bindings } :=
  { h with bindings := forall_lookup_cons h.bindings ⟨p, link, hp, hlink, hb⟩ }

/-- A plan found for a slot is the plan of this very slot. -/
theorem searchPlan_of_lookup {p : Prototype} {slot : CollectionSlot} {plan : SearchPlan}
    (h : Coherent c store r) (hp : Uncached.prototype c store slot.base.owner = .ok p)
    (hslot : Prototype.slotNamed? p.slots slot.name = some (.collection slot))
    (hfound : r.plans.lookup ⟨slot.base.owner, slot.name⟩ = some plan) :
    Uncached.searchPlan c store slot = .ok plan := by
  obtain ⟨p', slot', hp', hslot', hplan⟩ := h.plans _ plan hfound
  rw [hp, Except.ok.injEq] at hp'
  subst hp'
  rw [hslot, Option.some.injEq, Slot.collection.injEq] at hslot'
  rwa [hslot']

theorem linkBindings_of_lookup {p : Prototype} {link : LinkSlot} {b : Bindings}
    (h : Coherent c store r) (hp : Uncached.prototype c store link.base.owner = .ok p)
    (hlink : Prototype.slotNamed? p.slots link.name = some (.link link))
    (hfound : r.bindings.lookup ⟨link.base.owner, link.name⟩ = some b) :
    Uncached.linkBindings c store link = .ok b := by
  obtain ⟨p', link', hp', hlink', hb⟩ := h.bindings _ b hfound
  rw [hp, Except.ok.injEq] at hp'
  subst hp'
  rw [hlink, Option.some.injEq, Slot.link.injEq] at hlink'
  rwa [hlink']

/-- Nothing remembered goes out of date when one more schema is kept. -/
theorem keep (s : Schema) (h : Coherent c store r) :
    Coherent c (store.keep s) { r with store := r.store.keep s } := by
  have hle : ∀ id t, store.find? id = some t → (store.keep s).find? id = some t :=
    fun _ _ ht => Store.find?_keep ht s
  refine ⟨h.conventions, by rw [h.schemas], ?_, ?_, ?_⟩
  · intro id p hp
    exact Prototype.compile_mono hle (h.prototypes id p hp)
  · intro key plan hplan
    obtain ⟨p, slot, hp, hslot, hplan⟩ := h.plans key plan hplan
    exact ⟨p, slot, Prototype.compile_mono hle hp, hslot, Uncached.searchPlan_mono hle hplan⟩
  · intro key b hb
    obtain ⟨p, link, hp, hlink, hb⟩ := h.bindings key b hb
    exact ⟨p, link, Prototype.compile_mono hle hp, hlink, Uncached.linkBindings_mono hle hb⟩

end Coherent

namespace Answers

variable {x : RegistryM α} {y : Except Failure α}

theorem pure (a : α) : Answers c store (pure a) (.ok a) := fun _ h => ⟨rfl, h⟩

theorem throw (e : Failure) : Answers c store (throw e : RegistryM α) (.error e) :=
  fun _ h => ⟨rfl, h⟩

theorem attempt {ε : Type} (f : ε → Failure) (y : Except ε α) :
    Answers c store (RegistryM.attempt f y) (liftFailure f y) := fun _ h => ⟨rfl, h⟩

theorem modify {f : Registry → Registry} (hf : ∀ r, Coherent c store r → Coherent c store (f r)) :
    Answers c store (modify f : RegistryM Unit) (.ok ()) := fun r h => ⟨rfl, hf r h⟩

theorem get_bind {f : Registry → RegistryM α}
    (hf : ∀ r, Coherent c store r → Answers c store (f r) y) :
    Answers c store (get >>= f) y := fun r h => hf r h r h

theorem bind {f : α → RegistryM β} {g : α → Except Failure β} (hx : Answers c store x y)
    (hf : ∀ a, y = .ok a → Answers c store (f a) (g a)) : Answers c store (x >>= f) (y >>= g) := by
  intro r h
  obtain ⟨hy, hr⟩ := hx r h
  rw [exec_bind]
  rcases hexec : x.exec r with ⟨e | a, r'⟩
  · rw [hexec] at hy hr
    subst hy
    exact ⟨rfl, hr⟩
  · rw [hexec] at hy hr
    subst hy
    exact hf a rfl r' hr

/-- A step that cannot fail before another. -/
theorem skip {a : β} {x : RegistryM β} {f : β → RegistryM α} (hx : Answers c store x (.ok a))
    (hf : Answers c store (f a) y) : Answers c store (x >>= f) y := by
  refine bind (g := fun _ => y) hx ?_
  rintro _ ⟨⟩
  exact hf

/-- Steps after the one that gives the answer. -/
theorem tap {f : α → RegistryM α} (hx : Answers c store x y)
    (hf : ∀ a, y = .ok a → Answers c store (f a) (.ok a)) : Answers c store (x >>= f) y := by
  have hy : (y >>= fun a => .ok a) = y := by cases y <;> rfl
  rw [← hy]
  exact bind hx hf

/-- Noting an event changes no answer. -/
theorem note (e : Event) : Answers c store (RegistryM.note e) (.ok ()) :=
  modify fun _ h => { h with }

theorem forM_note {γ : Type} (f : γ → Event) (l : List γ) :
    Answers c store (l.forM fun a => RegistryM.note (f a)) (.ok ()) := by
  induction l with
  | nil => exact pure ()
  | cons a l ih => exact bind (note (f a)) fun _ _ => ih

theorem mapM {f : α → RegistryM β} {g : α → Except Failure β}
    (hf : ∀ a, Answers c store (f a) (g a)) (l : List α) :
    Answers c store (l.mapM f) (l.mapM g) := by
  induction l with
  | nil => exact pure []
  | cons a l ih =>
    rw [List.mapM_cons, List.mapM_cons]
    exact bind (hf a) fun _ _ => bind ih fun _ _ => pure _

theorem tryCatch {f : Failure → RegistryM α} (hx : Answers c store x y)
    (hf : ∀ e, y = .error e → Answers c store (f e) (.error e)) :
    Answers c store (tryCatch x f) y := by
  intro r h
  obtain ⟨hy, hr⟩ := hx r h
  rw [exec_tryCatch]
  rcases hexec : x.exec r with ⟨e | a, r'⟩
  · rw [hexec] at hy hr
    subst hy
    exact hf e rfl r' hr
  · rw [hexec] at hy hr
    exact ⟨hy, hr⟩

end Answers

theorem answers_form : Answers c store form (.ok c.form) :=
  Answers.get_bind fun _ h => h.conventions ▸ Answers.pure _

/-- What has been compiled elsewhere is the answer as it stands. -/
theorem answers_attempt (y : Except Failure α) : Answers c store (attempt (fun e => e) y) y := by
  have hy : liftFailure (fun e => e) y = y := by cases y <;> rfl
  have h : Answers c store (attempt (fun e => e) y) (liftFailure (fun e => e) y) := .attempt _ _
  rwa [hy] at h

theorem answers_compile (id : SchemaId) :
    Answers c store (compile id) (Uncached.prototype c store id) := by
  refine .get_bind fun r h => ?_
  rw [h.conventions, h.schemas]
  exact .skip (.forM_note _ _) (answers_attempt _)

theorem answers_prototype (id : SchemaId) :
    Answers c store (prototype id) (Uncached.prototype c store id) := by
  refine .get_bind fun r h => ?_
  cases hfound : r.prototypes.lookup id with
  | some p =>
    rw [h.prototypes id p hfound]
    exact .skip (.note _) (.pure p)
  | none =>
    -- a failure is only noted, so nothing of it is remembered
    have hcompile : Answers c store (tryCatch (compile id) fun e => do
        note (.prototypeFailed id e)
        throw e) (Uncached.prototype c store id) :=
      .tryCatch (answers_compile id) fun e _ => .skip (.note _) (.throw e)
    refine hcompile.tap fun p hp => .skip (.note _) (.skip (.modify fun r h => ?_) (.pure p))
    exact h.addPrototype hp

theorem answers_valueSource (reference : SchemaId) (slot : String) (referrer : SchemaId)
    (d : SourceDeclaration) : Answers c store (valueSource reference slot referrer d)
      (Uncached.valueSource c store reference slot referrer d) :=
  .bind (answers_prototype _) fun _ _ => .bind (answers_prototype _) fun _ _ =>
    .skip answers_form (answers_attempt _)

theorem answers_resolve (s : ValueSource) (referrer : Model) :
    Answers c store (resolve s referrer) (Uncached.resolve c s referrer) := by
  unfold resolve
  cases s.remark? referrer with
  | none => exact .skip answers_form (.attempt _ _)
  | some e => exact .skip (.note e) (.skip answers_form (.attempt _ _))

theorem answers_bindCriterion (referrer : Model) (criterion : PlannedCriterion) :
    Answers c store (bindCriterion referrer criterion)
      (Uncached.bindCriterion c referrer criterion) :=
  .bind (answers_resolve _ _) fun _ _ => .skip answers_form (answers_attempt _)

theorem answers_projection (plan : SearchPlan) (hints : Hints) :
    Answers c store (projection plan hints) (Uncached.projection c store plan hints) := by
  unfold projection Uncached.projection
  split
  · exact .pure _
  · split
    · exact .bind (answers_prototype _) fun _ _ => .pure _
    · exact .pure _

theorem answers_searchPlan {p : Prototype} {slot : CollectionSlot}
    (hp : Uncached.prototype c store slot.base.owner = .ok p)
    (hslot : Prototype.slotNamed? p.slots slot.name = some (.collection slot)) :
    Answers c store (searchPlan slot) (Uncached.searchPlan c store slot) := by
  refine .get_bind fun r h => ?_
  cases hfound : r.plans.lookup ⟨slot.base.owner, slot.name⟩ with
  | some plan =>
    rw [h.searchPlan_of_lookup hp hslot hfound]
    exact .pure plan
  | none =>
    refine .bind (answers_prototype _) fun reference hreference =>
      .bind (answers_prototype _) fun referrer hreferrer => .skip answers_form ?_
    refine (answers_attempt _).tap fun plan hplan => .skip (.note _)
      (.skip (.modify fun r h => h.addPlan hp hslot ?_) (.pure plan))
    rw [Uncached.searchPlan, hreference, hreferrer]
    exact hplan

theorem answers_buildSearch {p : Prototype} {slot : CollectionSlot} (referrer : Model)
    (hp : Uncached.prototype c store slot.base.owner = .ok p)
    (hslot : Prototype.slotNamed? p.slots slot.name = some (.collection slot)) :
    Answers c store (buildSearch slot referrer) (Uncached.buildSearch c store slot referrer) :=
  .bind (answers_searchPlan hp hslot) fun _ _ =>
    .bind (.mapM (answers_bindCriterion referrer) _) fun _ _ =>
      .bind (.mapM (answers_bindCriterion referrer) _) fun _ _ =>
        .bind (answers_projection _ _) fun _ _ => .skip (.note _) (.pure _)

theorem answers_linkBindings {p : Prototype} {link : LinkSlot}
    (hp : Uncached.prototype c store link.base.owner = .ok p)
    (hlink : Prototype.slotNamed? p.slots link.name = some (.link link)) :
    Answers c store (linkBindings link) (Uncached.linkBindings c store link) := by
  refine .get_bind fun r h => ?_
  cases hfound : r.bindings.lookup ⟨link.base.owner, link.name⟩ with
  | some b =>
    rw [h.linkBindings_of_lookup hp hlink hfound]
    exact .pure b
  | none =>
    -- remembered are bindings that the link has now, whichever way they were found
    have hrest {b : Bindings} (hb : Uncached.linkBindings c store link = .ok b) :
        Answers c store (do
          note (.bindingsCompiled link.name link.base.owner b.length)
          modify fun r =>
            { r with bindings := (⟨link.base.owner, link.name⟩, b) :: r.bindings }
          pure b) (.ok b) :=
      .skip (.note _) (.skip (.modify fun r h => h.addBindings hp hlink hb) (.pure b))
    cases hresponse : link.response with
    | none =>
      have hb : Uncached.linkBindings c store link = .ok [] := by
        rw [Uncached.linkBindings, hresponse]
        rfl
      rw [hb]
      exact .skip (.pure []) (hrest hb)
    | some response =>
      have hlinkBindings : Uncached.linkBindings c store link = (do
          let response ← Uncached.prototype c store response
          let owner ← Uncached.prototype c store link.base.owner
          Bindings.compile c.form response owner link) := by
        rw [Uncached.linkBindings, hresponse]
      rw [hlinkBindings]
      refine .bind (answers_prototype _) fun p hp => .bind (answers_prototype _) fun owner howner =>
        .skip answers_form ((answers_attempt _).tap fun b hb => hrest ?_)
      rw [hlinkBindings, hp, howner]
      exact hb

end Registry

end HyperSchema
