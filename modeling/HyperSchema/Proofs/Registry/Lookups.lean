import HyperSchema.Proofs.Registry.Trail

namespace HyperSchema

namespace Uncached

variable (c : Conventions) (store : Store)

/-- Looking up a prototype obtains it and leads on. Without a prototype nothing follows. -/
def obtaining (id : SchemaId) (rest : Prototype → List SchemaId) : List SchemaId :=
  (prototype c store id).toOption.elim [] fun p => id :: rest p

/-- The plan of a collection, when all its criteria can be bound to the referrer. -/
def boundPlan (s : CollectionSlot) (referrer : Model) : Except Failure SearchPlan := do
  let plan ← searchPlan c store s
  let _ ← plan.and.mapM (bindCriterion c referrer)
  let _ ← plan.or.mapM (bindCriterion c referrer)
  pure plan

/-- With exclusions and no inclusions, the slots left are those of the reference schema. -/
def obtainedForProjection (s : CollectionSlot) (referrer : Model) : List SchemaId :=
  let hints := referrer.hints.nested s.name
  if hints.includedSlotNames.isEmpty && !hints.excludedSlotNames.isEmpty then
    (boundPlan c store s referrer).toOption.elim [] fun plan =>
      obtaining c store plan.reference fun _ => []
  else []

end Uncached

namespace Registry
open RegistryM Uncached

section Obtained

variable (r : Registry)

def obtainedForPlan (s : CollectionSlot) : List SchemaId :=
  if (r.plans.lookup ⟨s.base.owner, s.name⟩).isSome then []
  else obtaining r.conventions r.store s.reference fun _ =>
    obtaining r.conventions r.store s.base.owner fun _ => []

def obtainedForBindings (l : LinkSlot) : List SchemaId :=
  if (r.bindings.lookup ⟨l.base.owner, l.name⟩).isSome then []
  else l.response.elim [] fun response =>
    obtaining r.conventions r.store response fun _ =>
      obtaining r.conventions r.store l.base.owner fun _ => []

/-- The schemas whose prototypes a request obtains, in order: those that it names and those that
the slot it names refers to, never the bases that are merged on the way. -/
def obtained : Request → List SchemaId
  | .keep _ | .load _ | .compile _ => []
  | .prototype id | .validateWrite id _ _ => obtaining r.conventions r.store id fun _ => []
  | .valueSource reference _ referrer _ =>
    obtaining r.conventions r.store reference fun _ =>
      obtaining r.conventions r.store referrer fun _ => []
  | .searchPlan id slot => obtaining r.conventions r.store id fun p =>
    (p.collectionSlot slot).toOption.elim [] r.obtainedForPlan
  | .search referrer slot => obtaining r.conventions r.store referrer.schema fun p =>
    (p.collectionSlot slot).toOption.elim [] fun s =>
      r.obtainedForPlan s ++ obtainedForProjection r.conventions r.store s referrer
  | .linkBindings id link => obtaining r.conventions r.store id fun p =>
    (p.linkSlot link).toOption.elim [] r.obtainedForBindings
  | .followLink referrer link => obtaining r.conventions r.store referrer.schema fun p =>
    (p.linkSlot link).toOption.elim [] r.obtainedForBindings

end Obtained

variable {c : Conventions} {store : Store} {r : Registry} {α β : Type}

theorem exec_forM_note {γ : Type} (f : γ → Event) (l : List γ) (r : Registry) :
    (l.forM fun a => note (f a)).exec r = (.ok (), { r with log := r.log ++ l.map f }) := by
  induction l generalizing r with
  | nil =>
    rw [List.map_nil, List.append_nil]
    rfl
  | cons a l ih =>
    have hnote : (note (f a)).exec r = (.ok (), { r with log := r.log ++ [f a] }) := rfl
    change (note (f a) >>= fun _ => l.forM fun a => note (f a)).exec r = _
    rw [exec_bind, hnote]
    dsimp only
    rw [ih, List.map_cons, List.append_assoc]
    rfl

theorem exec_get_bind (f : Registry → RegistryM α) (r : Registry) :
    (get >>= f : RegistryM α).exec r = (f r).exec r := rfl

/-- Compiling only tells of the comparables that it passes over. -/
theorem exec_compile (id : SchemaId) (r : Registry) :
    (compile id).exec r = ((Prototype.compile r.conventions r.store id).outcome, { r with
      log := r.log ++ (Prototype.compile r.conventions r.store id).ignored.map
        (Event.comparableIgnored id) }) := by
  have hattempt (y : Except Failure Prototype) (r' : Registry) :
      (attempt (fun e => e) y).exec r' = (y, r') := by cases y <;> rfl
  have hcompile : (compile id).exec r =
      ((Prototype.compile r.conventions r.store id).ignored.forM (fun slot =>
          note (.comparableIgnored id slot)) >>= fun _ =>
        attempt (fun e => e) (Prototype.compile r.conventions r.store id).outcome).exec r := rfl
  rw [hcompile, exec_bind, exec_forM_note]
  exact hattempt _ _

/-- A prototype is obtained when there is one, and the plans and bindings stay as they are. -/
theorem trail_prototype (h : Coherent c store r) (id : SchemaId) :
    Trail r (obtaining c store id fun _ => []) ((prototype id).exec r).2 ∧
      ((prototype id).exec r).2.plans = r.plans ∧
      ((prototype id).exec r).2.bindings = r.bindings := by
  rw [prototype, exec_get_bind]
  cases hfound : r.prototypes.lookup id with
  | some p =>
    have hobtained : obtaining c store id (fun _ => []) = [id] := by
      rw [obtaining, h.prototypes id p hfound]
      rfl
    rw [hobtained]
    exact ⟨Trail.start.found (by simp [isCompiled, hfound]), rfl, rfl⟩
  | none =>
    obtain rfl := h.conventions
    obtain rfl := h.schemas
    have hlogged := (Trail.start : Trail r [] r).note
      ((Prototype.compile r.conventions r.store id).ignored.map (Event.comparableIgnored id))
      (by simp [Event.obtained?])
    dsimp only
    rw [exec_bind, exec_tryCatch, exec_compile, obtaining, Uncached.prototype]
    cases (Prototype.compile r.conventions r.store id).outcome with
    | ok p =>
      have hnew : r.isCompiled id = false := by simp [isCompiled, hfound]
      exact ⟨hlogged.compiled hnew p p.slots.length p.keySlotNames.length p.bases.length, rfl, rfl⟩
    | error e => exact ⟨hlogged.note [.prototypeFailed id e] (by simp [Event.obtained?]), rfl, rfl⟩

/-- Looking up a prototype before anything else. -/
theorem trail_obtaining (h : Coherent c store r) {id : SchemaId} {f : Prototype → RegistryM α}
    {rest : Prototype → List SchemaId}
    (hf : ∀ p r', Uncached.prototype c store id = .ok p → Coherent c store r' →
      r'.plans = r.plans → r'.bindings = r.bindings → Trail r' (rest p) ((f p).exec r').2) :
    Trail r (obtaining c store id rest) ((prototype id >>= f).exec r).2 := by
  obtain ⟨htrail, hplans, hbindings⟩ := trail_prototype h id
  obtain ⟨hanswer, hcoherent⟩ := answers_prototype id r h
  rw [exec_bind]
  rcases hexec : (prototype id).exec r with ⟨e | p, r'⟩
  · rw [hexec] at htrail hanswer
    rw [obtaining, ← hanswer] at htrail ⊢
    exact htrail
  · rw [hexec] at htrail hanswer hplans hbindings hcoherent
    rw [obtaining, ← hanswer] at htrail
    have hrest := htrail.trans (hf p r' hanswer.symm hcoherent hplans hbindings)
    rw [obtaining, ← hanswer]
    exact hrest

/-- What follows a step is not reached when the step fails. -/
theorem trail_bind (h : Coherent c store r) {x : RegistryM α} {f : α → RegistryM β}
    {y : Except Failure α} {ids ids' : List SchemaId} (hy : Answers c store x y)
    (hx : Trail r ids (x.exec r).2)
    (hf : ∀ a r', y = .ok a → Coherent c store r' → Trail r' ids' ((f a).exec r').2)
    (he : ∀ e, y = .error e → ids' = []) : Trail r (ids ++ ids') ((x >>= f).exec r).2 := by
  obtain ⟨hanswer, hcoherent⟩ := hy r h
  rw [exec_bind]
  rcases hexec : x.exec r with ⟨e | a, r'⟩
  · rw [hexec] at hx hanswer
    rw [he e hanswer.symm, List.append_nil]
    exact hx
  · rw [hexec] at hx hanswer hcoherent
    exact hx.trans (hf a r' hanswer.symm hcoherent)

/-- On a coherent registry the operation obtains these prototypes. -/
def Obtains (c : Conventions) (store : Store) {α : Type} (x : RegistryM α) (ids : List SchemaId) :
    Prop :=
  ∀ r, Coherent c store r → Trail r ids (x.exec r).2

namespace Obtains

variable {x : RegistryM α} {y : Except Failure α} {ids : List SchemaId}

theorem pure (a : α) : Obtains c store (pure a) [] := fun _ _ => .start

theorem attempt {ε : Type} (f : ε → Failure) (y : Except ε α) :
    Obtains c store (RegistryM.attempt f y) [] := fun _ _ => .start

theorem form : Obtains c store form [] := fun _ _ => .start

theorem note {e : Event} (he : e.obtained? = none) : Obtains c store (RegistryM.note e) [] :=
  fun _ _ => Trail.start.note [e] (by simpa using he)

/-- A step that obtains nothing, before those that do. -/
theorem after {f : α → RegistryM β} (hy : Answers c store x y) (hx : Obtains c store x [])
    (hf : ∀ a, y = .ok a → Obtains c store (f a) ids) (he : ∀ e, y = .error e → ids = []) :
    Obtains c store (x >>= f) ids :=
  fun r h => trail_bind h hy (hx r h) (fun a r' ha h' => hf a ha r' h') he

/-- Steps that obtain nothing, behind one that does. -/
theorem before {f : α → RegistryM β} (hy : Answers c store x y) (hx : Obtains c store x ids)
    (hf : ∀ a, Obtains c store (f a) []) : Obtains c store (x >>= f) ids := by
  intro r h
  rw [← List.append_nil ids]
  exact trail_bind h hy (hx r h) (fun a r' _ h' => hf a r' h') fun _ _ => rfl

theorem mapM {f : α → RegistryM β} {g : α → Except Failure β}
    (hg : ∀ a, Answers c store (f a) (g a)) (hf : ∀ a, Obtains c store (f a) []) (l : List α) :
    Obtains c store (l.mapM f) [] := by
  induction l with
  | nil => exact pure []
  | cons a l ih =>
    rw [List.mapM_cons]
    exact before (hg a) (hf a) fun _ => before (.mapM hg l) ih fun _ => pure _

end Obtains

theorem obtained?_of_remark? {s : ValueSource} {referrer : Model} {e : Event}
    (h : s.remark? referrer = some e) : e.obtained? = none := by
  unfold ValueSource.remark? at h
  split at h
  next => cases h
  next =>
    split at h
    next => cases h; rfl
    next => cases h
  next =>
    obtain ⟨segment, -, rfl⟩ := Option.map_eq_some_iff.mp h
    rfl

theorem obtains_resolve (s : ValueSource) (referrer : Model) :
    Obtains c store (resolve s referrer) [] := by
  unfold resolve
  have hvalue : Obtains c store (do
      attempt Failure.coercion (s.resolve (← RegistryM.form) referrer)) [] :=
    .before answers_form .form fun _ => .attempt _ _
  cases hremark : s.remark? referrer with
  | none => exact hvalue
  | some e => exact .before (.note e) (.note (obtained?_of_remark? hremark)) fun _ => hvalue

theorem obtains_bindCriterion (referrer : Model) (criterion : PlannedCriterion) :
    Obtains c store (bindCriterion referrer criterion) [] :=
  .before (answers_resolve _ _) (obtains_resolve _ _) fun _ =>
    .before answers_form .form fun _ => .attempt _ _

theorem trail_valueSource (h : Coherent c store r) (reference : SchemaId) (slot : String)
    (referrer : SchemaId) (d : SourceDeclaration) :
    Trail r (obtaining c store reference fun _ => obtaining c store referrer fun _ => [])
      ((valueSource reference slot referrer d).exec r).2 :=
  trail_obtaining h fun _ _ _ h _ _ => trail_obtaining h fun _ r _ h _ _ =>
    Obtains.before answers_form .form (fun _ => .attempt _ _) r h

theorem trail_searchPlan (h : Coherent c store r) (slot : CollectionSlot) :
    Trail r (r.obtainedForPlan slot) ((searchPlan slot).exec r).2 := by
  rw [obtainedForPlan, h.conventions, h.schemas, searchPlan, exec_get_bind]
  cases r.plans.lookup ⟨slot.base.owner, slot.name⟩ with
  | some plan => exact .start
  | none =>
    refine trail_obtaining h fun _ _ _ h _ _ => trail_obtaining h fun _ r _ h _ _ => ?_
    refine Obtains.before answers_form .form (fun _ => ?_) r h
    refine .before (answers_attempt _) (.attempt _ _) fun _ => ?_
    refine .before (.note _) (.note rfl) fun _ r h => ?_
    exact Trail.start.aside _ rfl rfl

/-- The slots left by exclusions are looked up once the plan is bound. -/
theorem obtains_projection {slot : CollectionSlot} {referrer : Model} {plan : SearchPlan}
    (hplan : boundPlan c store slot referrer = .ok plan) :
    Obtains c store (projection plan (referrer.hints.nested slot.name))
      (obtainedForProjection c store slot referrer) := by
  unfold projection obtainedForProjection
  dsimp only
  generalize referrer.hints.nested slot.name = hints
  cases hints.includedSlotNames.isEmpty with
  | false => exact .pure _
  | true =>
    cases hints.excludedSlotNames.isEmpty with
    | true => exact .pure _
    | false =>
      rw [hplan]
      exact fun r h => trail_obtaining h fun _ _ _ _ _ _ => .start

theorem trail_buildSearch (h : Coherent c store r) {p : Prototype} {slot : CollectionSlot}
    (referrer : Model) (hp : Uncached.prototype c store slot.base.owner = .ok p)
    (hslot : Prototype.slotNamed? p.slots slot.name = some (.collection slot)) :
    Trail r (r.obtainedForPlan slot ++ obtainedForProjection c store slot referrer)
      ((buildSearch slot referrer).exec r).2 := by
  have hunbound (e : Failure) (he : boundPlan c store slot referrer = .error e) :
      obtainedForProjection c store slot referrer = [] := by
    simp [obtainedForProjection, he, Except.toOption]
  have hcriteria (cs : List PlannedCriterion) :
      Answers c store (cs.mapM (bindCriterion referrer))
        (cs.mapM (Uncached.bindCriterion c referrer)) := .mapM (answers_bindCriterion referrer) cs
  have hquiet (cs : List PlannedCriterion) :
      Obtains c store (cs.mapM (bindCriterion referrer)) [] :=
    .mapM (answers_bindCriterion referrer) (obtains_bindCriterion referrer) cs
  -- a step that fails leaves the plan unbound
  refine trail_bind h (answers_searchPlan hp hslot) (trail_searchPlan h slot)
    (fun plan r hplan h => ?_) fun e he => hunbound e (by rw [boundPlan, he]; rfl)
  refine Obtains.after (hcriteria plan.and) (hquiet _) (fun and hand => ?_)
    (fun e he => hunbound e (by rw [boundPlan, hplan]; simp only [bind, Except.bind, he])) r h
  refine .after (hcriteria plan.or) (hquiet _) (fun or hor => ?_)
    (fun e he => hunbound e (by rw [boundPlan, hplan]; simp only [bind, Except.bind, hand, he]))
  have hbound : boundPlan c store slot referrer = .ok plan := by
    rw [boundPlan, hplan]
    simp only [bind, Except.bind, hand, hor]
    rfl
  exact .before (answers_projection _ _) (obtains_projection hbound) fun _ =>
    .before (.note _) (.note rfl) fun _ => .pure _

theorem trail_linkBindings (h : Coherent c store r) (link : LinkSlot) :
    Trail r (r.obtainedForBindings link) ((linkBindings link).exec r).2 := by
  have hrest (built : Bindings) : Obtains c store (do
      note (.bindingsCompiled link.name link.base.owner built.length)
      modify fun r => { r with bindings := (⟨link.base.owner, link.name⟩, built) :: r.bindings }
      pure built) [] :=
    .before (.note _) (.note rfl) fun _ _ _ => Trail.start.aside _ rfl rfl
  rw [obtainedForBindings, h.conventions, h.schemas, linkBindings, exec_get_bind]
  cases r.bindings.lookup ⟨link.base.owner, link.name⟩ with
  | some b => exact .start
  | none =>
    cases link.response with
    | none => exact hrest [] r h
    | some response =>
      refine trail_obtaining h fun _ _ _ h _ _ => trail_obtaining h fun _ r _ h _ _ => ?_
      exact Obtains.before answers_form .form
        (fun _ => .before (answers_attempt _) (.attempt _ _) hrest) r h

/-- A slot that is looked for in a prototype leads on when it is there. -/
theorem trail_attempt {ε : Type} {g : ε → Failure} {y : Except ε α} {f : α → RegistryM β}
    {rest : α → List SchemaId} (hf : ∀ a, y = .ok a → Trail r (rest a) ((f a).exec r).2) :
    Trail r (y.toOption.elim [] rest) ((attempt g y >>= f).exec r).2 := by
  cases y with
  | ok a => exact hf a rfl
  | error e => exact .start

theorem trail_map {x : RegistryM α} {ids : List SchemaId} (g : α → Answer)
    (h : Trail r ids (x.exec r).2) :
    Trail r ids ((do return g (← x) : RegistryM Answer).exec r).2 := by
  rw [exec_bind]
  rcases hexec : x.exec r with ⟨e | a, r'⟩
  · rwa [hexec] at h
  · rwa [hexec] at h

/-- A text that is no schema is refused, and nothing comes of it. -/
theorem exec_load_of_none {text : String} (h : Schema.read? text = none) (r : Registry) :
    (answer (.load text)).exec r = (.error .document, r) := by
  simp only [answer, load, h]
  rfl

/-- A request obtains the prototypes that it is said to obtain, and no other. -/
theorem trail_answer (h : Coherent c store r) (q : Request) :
    Trail r (r.obtained q) ((answer q).exec r).2 := by
  -- what is remembered of plans and bindings is not touched on the way to them
  have hplan {r' : Registry} (h' : Coherent c store r') (hplans : r'.plans = r.plans)
      (s : CollectionSlot) : r'.obtainedForPlan s = r.obtainedForPlan s := by
    rw [obtainedForPlan, obtainedForPlan, hplans, h.conventions, h.schemas, h'.conventions,
      h'.schemas]
  have hbindings {r' : Registry} (h' : Coherent c store r') (hbindings : r'.bindings = r.bindings)
      (l : LinkSlot) : r'.obtainedForBindings l = r.obtainedForBindings l := by
    rw [obtainedForBindings, obtainedForBindings, hbindings, h.conventions, h.schemas,
      h'.conventions, h'.schemas]
  cases q with
  | keep s => exact Trail.start.aside _ rfl rfl
  | load text =>
    cases hs : Schema.read? text with
    | none =>
      rw [exec_load_of_none hs]
      exact .start
    | some s =>
      have hexec : (answer (.load text)).exec r =
          (.ok (.loaded (r.store.kept s)), { r with store := r.store.keep s }) := by
        simp only [answer, load, hs]
        rfl
      rw [hexec]
      exact Trail.start.aside _ rfl rfl
  | prototype id =>
    rw [obtained, h.conventions, h.schemas]
    exact trail_map _ (trail_prototype h id).1
  | compile id =>
    refine trail_map _ ?_
    rw [exec_compile]
    exact Trail.start.note _ (by simp [Event.obtained?])
  | valueSource reference slot referrer d =>
    rw [obtained, h.conventions, h.schemas]
    exact trail_map _ (trail_valueSource h reference slot referrer d)
  | validateWrite id slot v =>
    rw [obtained, h.conventions, h.schemas]
    refine trail_obtaining h fun p r' _ _ _ _ => ?_
    cases p.validateWrite slot v with
    | ok name => exact .start
    | error e => exact .start
  | searchPlan id slot =>
    rw [obtained, h.conventions, h.schemas]
    refine trail_obtaining h fun p r' hp h' hplans _ => trail_attempt fun s hs => ?_
    rw [← hplan h' hplans]
    exact trail_map _ (trail_searchPlan h' s)
  | search referrer slot =>
    rw [obtained, h.conventions, h.schemas]
    refine trail_map _ (trail_obtaining h fun p r' hp h' hplans _ => trail_attempt fun s hs => ?_)
    have hnamed := slotNamed?_of_collectionSlot hs
    rw [← hplan h' hplans]
    exact trail_buildSearch h' referrer (prototype_of_owner hp hnamed) hnamed
  | linkBindings id link =>
    rw [obtained, h.conventions, h.schemas]
    refine trail_obtaining h fun p r' _ h' _ hb => trail_attempt fun l _ => ?_
    rw [← hbindings h' hb]
    exact trail_map _ (trail_linkBindings h' l)
  | followLink referrer link =>
    rw [obtained, h.conventions, h.schemas]
    refine trail_map _ (trail_obtaining h fun p r' hp h' _ hb => trail_attempt fun l hl => ?_)
    have hnamed := slotNamed?_of_linkSlot hl
    rw [← hbindings h' hb, ← List.append_nil (r'.obtainedForBindings l)]
    have hparameter (e : String × ValueSource) : Answers c store
        (do pure (e.1, ← resolve e.2 referrer))
        (do pure (e.1, ← Uncached.resolve c e.2 referrer)) :=
      .bind (answers_resolve _ _) fun _ _ => .pure _
    have hquiet (e : String × ValueSource) :
        Obtains c store (do pure (e.1, ← resolve e.2 referrer)) [] :=
      .before (answers_resolve _ _) (obtains_resolve _ _) fun _ => .pure _
    exact trail_bind h' (answers_linkBindings (prototype_of_owner hp hnamed) hnamed)
      (trail_linkBindings h' l) (fun b r _ h => Obtains.mapM hparameter hquiet b r h) fun _ _ => rfl

end Registry

end HyperSchema
