import HyperSchema.Proofs.Registry.Transparent

namespace HyperSchema

/-- The schema whose prototype was obtained, be it found or compiled. -/
def Event.obtained? : Event → Option SchemaId
  | prototypeFound id | prototypeCompiled id .. => some id
  | _ => none

def Event.compiled? : Event → Option SchemaId
  | prototypeCompiled id .. => some id
  | _ => none

theorem Event.compiled?_of_obtained? {e : Event} (h : e.obtained? = none) :
    e.compiled? = none := by
  cases e <;> first | rfl | cases h

namespace Registry

/-- How a registry gets from one state to another while these prototypes are obtained. -/
inductive Trail (r : Registry) : List SchemaId → Registry → Prop
  | start : Trail r [] r
  | note {ids : List SchemaId} {r' : Registry} (h : Trail r ids r') (es : List Event)
      (hes : ∀ e ∈ es, e.obtained? = none) : Trail r ids { r' with log := r'.log ++ es }
  /-- Schemas, plans and bindings come and go as they like. -/
  | aside {ids : List SchemaId} {r' : Registry} (h : Trail r ids r') (r'' : Registry)
      (hprototypes : r''.prototypes = r'.prototypes) (hlog : r''.log = r'.log) : Trail r ids r''
  | found {ids : List SchemaId} {r' : Registry} (h : Trail r ids r') {id : SchemaId}
      (hid : r'.isCompiled id = true) :
      Trail r (ids ++ [id]) { r' with log := r'.log ++ [.prototypeFound id] }
  | compiled {ids : List SchemaId} {r' : Registry} (h : Trail r ids r') {id : SchemaId}
      (hid : r'.isCompiled id = false) (p : Prototype) (slots keys bases : Nat) :
      Trail r (ids ++ [id]) { r' with
        log := r'.log ++ [.prototypeCompiled id slots keys bases]
        prototypes := (id, p) :: r'.prototypes }

namespace Trail

variable {r r' r'' : Registry} {ids ids' : List SchemaId}

theorem trans (h : Trail r ids r') (h' : Trail r' ids' r'') : Trail r (ids ++ ids') r'' := by
  induction h' with
  | start => rwa [List.append_nil]
  | note _ es hes ih => exact ih.note es hes
  | aside _ r'' hprototypes hlog ih => exact ih.aside r'' hprototypes hlog
  | found _ hid ih => rw [← List.append_assoc]; exact ih.found hid
  | compiled _ hid p slots keys bases ih =>
    rw [← List.append_assoc]
    exact ih.compiled hid p slots keys bases

theorem lookup_of_lookup (h : Trail r ids r') {id : SchemaId} {p : Prototype}
    (hp : r.prototypes.lookup id = some p) : r'.prototypes.lookup id = some p := by
  induction h with
  | start => exact hp
  | note _ _ _ ih => exact ih
  | aside _ _ hprototypes _ ih => rw [hprototypes]; exact ih
  | found _ _ ih => exact ih
  | @compiled _ r' _ id' hid p' _ _ _ ih =>
    have hne : id ≠ id' := by
      rintro rfl
      rw [isCompiled, ih] at hid
      cases hid
    rw [lookup_cons_ite, if_neg hne]
    exact ih

/-- Remembered are the prototypes that were, and those obtained. -/
theorem isCompiled_iff (h : Trail r ids r') (id : SchemaId) :
    r'.isCompiled id = true ↔ r.isCompiled id = true ∨ id ∈ ids := by
  induction h with
  | start => simp
  | note _ _ _ ih => exact ih
  | aside _ _ hprototypes _ ih => rw [isCompiled, hprototypes]; exact ih
  | @found _ r' _ id' hid ih =>
    rw [List.mem_append, List.mem_singleton, ← or_assoc, ← ih]
    refine ⟨.inl, ?_⟩
    rintro (h | rfl)
    · exact h
    · exact hid
  | @compiled _ r' _ id' _ _ _ _ _ ih =>
    rw [List.mem_append, List.mem_singleton, ← or_assoc, ← ih, isCompiled, lookup_cons_ite]
    by_cases hid : id = id' <;> simp [hid, isCompiled]

/-- The log tells which prototypes were obtained. -/
theorem obtained_log (h : Trail r ids r') :
    r'.log.filterMap Event.obtained? = r.log.filterMap Event.obtained? ++ ids := by
  induction h with
  | start => rw [List.append_nil]
  | note _ es hes ih =>
    rw [List.filterMap_append, ih, List.filterMap_eq_nil_iff.mpr hes, List.append_nil]
  | aside _ _ _ hlog ih => rw [hlog, ih]
  | found _ _ ih =>
    rw [List.filterMap_append, ih, List.append_assoc]
    rfl
  | compiled _ _ _ _ _ _ ih =>
    rw [List.filterMap_append, ih, List.append_assoc]
    rfl

end Trail

/-- Each prototype that is remembered was compiled once, and no other ever was. -/
structure Accounted (r : Registry) : Prop where
  log : r.log.filterMap Event.compiled? = (r.prototypes.map Prod.fst).reverse
  nodup : (r.prototypes.map Prod.fst).Nodup

theorem isCompiled_eq_true_iff {r : Registry} {id : SchemaId} :
    r.isCompiled id = true ↔ id ∈ r.prototypes.map Prod.fst := by
  rw [isCompiled, Option.isSome_iff_ne_none, ne_eq, List.lookup_eq_none_iff]
  simp

theorem Trail.accounted {r r' : Registry} {ids : List SchemaId} (h : Trail r ids r')
    (hr : Accounted r) : Accounted r' := by
  induction h with
  | start => exact hr
  | note _ es hes ih =>
    refine ⟨?_, ih.nodup⟩
    have hnone : es.filterMap Event.compiled? = [] :=
      List.filterMap_eq_nil_iff.mpr fun e he => Event.compiled?_of_obtained? (hes e he)
    rw [List.filterMap_append, hnone, List.append_nil]
    exact ih.log
  | aside _ _ hprototypes hlog ih => exact ⟨by rw [hlog, hprototypes]; exact ih.log,
      by rw [hprototypes]; exact ih.nodup⟩
  | found _ _ ih =>
    refine ⟨?_, ih.nodup⟩
    rw [List.filterMap_append, ih.log]
    exact List.append_nil _
  | compiled _ hid _ _ _ _ ih =>
    have hnot := mt isCompiled_eq_true_iff.mpr (Bool.eq_false_iff.mp hid)
    refine ⟨?_, ?_⟩
    · rw [List.filterMap_append, ih.log, List.map_cons, List.reverse_cons]
      rfl
    · rw [List.map_cons]
      exact List.nodup_cons.mpr ⟨hnot, ih.nodup⟩

end Registry

end HyperSchema
