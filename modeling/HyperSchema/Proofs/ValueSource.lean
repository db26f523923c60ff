import HyperSchema.Proofs.Prototype.Checks
import HyperSchema.ValueSource

namespace HyperSchema.ValueSource

variable {form : TextForm} {reference referrer : Prototype} {name : String}
  {d : SourceDeclaration} {source : ValueSource}

theorem compile_eq_ok_iff : compile form reference name referrer d = .ok source ↔
    ∃ s origin, reference.slot? name = some s ∧
      compileOrigin form s.valueType referrer d = .ok origin ∧ source = {
        reference := reference.schema
        slot := s.name
        valueType := s.valueType
        referrer := referrer.schema
        text := d.text
        origin } := by
  unfold compile
  cases reference.slot? name with
  | none => simp
  | some s =>
    simp only [map_eq_ok_iff, Option.some.injEq]
    refine ⟨?_, ?_⟩
    · rintro ⟨origin, horigin, rfl⟩
      exact ⟨s, origin, rfl, horigin, rfl⟩
    · rintro ⟨_, origin, rfl, horigin, rfl⟩
      exact ⟨origin, horigin, rfl⟩

/-- A source goes under the real name of its slot. -/
theorem realName?_of_compile (h : compile form reference name referrer d = .ok source) :
    reference.realName? name = some source.slot := by
  obtain ⟨s, origin, hs, -, rfl⟩ := compile_eq_ok_iff.mp h
  exact Prototype.realName?_of_slot? hs

theorem referrer_of_compile (h : compile form reference name referrer d = .ok source) :
    source.referrer = referrer.schema := by
  obtain ⟨s, origin, -, -, rfl⟩ := compile_eq_ok_iff.mp h
  rfl

theorem text_of_compile (h : compile form reference name referrer d = .ok source) :
    source.text = d.text := by
  obtain ⟨s, origin, -, -, rfl⟩ := compile_eq_ok_iff.mp h
  rfl

/-- A name that a path can have as a segment: it is neither split nor trimmed. -/
structure IsSegment (n : String) : Prop where
  nonempty : n ≠ ""
  undotted : '.' ∉ n.toList
  trimmed : Text.trimChars n.toList = n.toList

/-- The ends of paths that go on behind their first segment, if at all. -/
def IsTail (tail : String) : Prop := tail = "" ∨ ∃ rest, tail = "." ++ rest

theorem segments_append_dot {n : String} (h : IsSegment n) (rest : String) :
    segments (n ++ ("." ++ rest)) = n :: segments rest := by
  have htext : (n ++ ("." ++ rest)).toList = n.toList ++ '.' :: rest.toList := by simp
  rw [segments, htext, Text.splitChars_append h.undotted, List.map_cons, h.trimmed,
    String.ofList_toList, segments]

theorem segments_of_isSegment {n : String} (h : IsSegment n) : segments n = [n] := by
  rw [segments, Text.splitChars_of_not_mem h.undotted, List.map_singleton, h.trimmed,
    String.ofList_toList]

/-- Whatever follows a first segment follows any other. -/
theorem exists_segments {tail : String} (htail : IsTail tail) :
    ∃ rest, ∀ n, IsSegment n → segments (n ++ tail) = n :: rest := by
  obtain rfl | ⟨rest, rfl⟩ := htail
  · refine ⟨[], fun n hn => ?_⟩
    rw [String.append_empty, segments_of_isSegment hn]
  · exact ⟨segments rest, fun n hn => segments_append_dot hn rest⟩

theorem compilePath_eq_ok_iff {p : Prototype} {text : String} {origin : Origin} :
    compilePath p text = .ok origin ↔ ∃ first rest real, segments text = first :: rest ∧
      (∀ part ∈ first :: rest, part ≠ "") ∧ p.realName? first = some real ∧
        origin = .path real rest := by
  unfold compilePath
  cases segments text with
  | nil => simp
  | cons first rest =>
    simp only [List.cons.injEq]
    by_cases hparts : ∀ part ∈ first :: rest, part ≠ ""
    · have hany : (first :: rest).any (·.isEmpty) = false := by
        simpa only [List.any_eq_false, String.isEmpty_iff] using hparts
      simp only [hany, Bool.false_eq_true, if_false]
      refine ⟨?_, ?_⟩
      · intro h
        split at h
        next real hreal =>
          cases h
          exact ⟨first, rest, real, ⟨rfl, rfl⟩, hparts, hreal, rfl⟩
        next => cases h
      · rintro ⟨_, _, real, ⟨rfl, rfl⟩, -, hreal, rfl⟩
        rw [hreal]
    · have hany : (first :: rest).any (·.isEmpty) = true := by
        by_contra hnone
        simp only [Bool.not_eq_true, List.any_eq_false, String.isEmpty_iff] at hnone
        exact hparts hnone
      rw [hany, if_pos rfl]
      refine ⟨?_, ?_⟩
      · intro h
        cases h
      · rintro ⟨_, _, real, ⟨rfl, rfl⟩, hparts', -⟩
        exact absurd hparts' hparts

theorem kind_of_compile (h : compile form reference name referrer d = .ok source) :
    source.kind = d.kind := by
  obtain ⟨s, origin, -, horigin, rfl⟩ := compile_eq_ok_iff.mp h
  unfold compileOrigin at horigin
  split at horigin
  next hkind =>
    obtain ⟨first, rest, real, -, -, -, rfl⟩ :=
      compilePath_eq_ok_iff.mp (liftFailure_eq_ok_iff.mp horigin)
    exact hkind.symm
  next hkind =>
    cases horigin
    exact hkind.symm
  next hkind =>
    obtain ⟨v, -, rfl⟩ := map_eq_ok_iff.mp (liftFailure_eq_ok_iff.mp horigin)
    exact hkind.symm

/-- A source reads slots of the referrer, or the one parameter that it is named for. -/
theorem resolve_congr {m m' : Model} (hslots : ∀ n, m.slotValue? n = m'.slotValue? n)
    (hparameter : source.kind = .queryParameter →
      m.hints.queryParameter? source.text = m'.hints.queryParameter? source.text) :
    source.resolve form m = source.resolve form m' := by
  unfold resolve
  cases horigin : source.origin with
  | path first rest => simp only [hslots]
  | parameter =>
    have hkind : source.kind = .queryParameter := by rw [kind, horigin]
    simp only [hparameter hkind]
  | constant v => rfl

/-- Paths that start with names of one slot have one origin, if any. -/
theorem compilePath_congr {p : Prototype} {a b tail : String} (ha : IsSegment a)
    (hb : IsSegment b) (htail : IsTail tail) (hreal : p.realName? a = p.realName? b)
    {origin : Origin} (h : compilePath p (a ++ tail) = .ok origin) :
    compilePath p (b ++ tail) = .ok origin := by
  obtain ⟨rest, hrest⟩ := exists_segments htail
  obtain ⟨first, rest', real, hsegments, hparts, hfirst, rfl⟩ := compilePath_eq_ok_iff.mp h
  rw [hrest a ha, List.cons.injEq] at hsegments
  obtain ⟨rfl, rfl⟩ := hsegments
  have hmore := (List.forall_mem_cons.mp hparts).2
  exact compilePath_eq_ok_iff.mpr ⟨b, rest, real, hrest b hb,
    List.forall_mem_cons.mpr ⟨hb.nonempty, hmore⟩, hreal ▸ hfirst, rfl⟩

/-- What a path gives depends on its origin and not on how it is written. -/
theorem resolve_path_congr {form : TextForm} {reference p : Prototype} {n t u : String}
    (h : ∀ origin, compilePath p t = .ok origin ↔ compilePath p u = .ok origin) (m : Model) :
    (compile form reference n p ⟨.referrerSlot, t⟩).toOption.map (·.resolve form m) =
      (compile form reference n p ⟨.referrerSlot, u⟩).toOption.map (·.resolve form m) := by
  unfold compile
  cases reference.slot? n with
  | none => rfl
  | some s =>
    dsimp only [compileOrigin]
    cases ht : compilePath p t with
    | error e =>
      cases hu : compilePath p u with
      | error e' => rfl
      | ok origin => exact absurd ((h origin).mpr hu) (by simp [ht])
    | ok origin =>
      obtain ⟨first, rest, real, -, -, -, rfl⟩ := compilePath_eq_ok_iff.mp ht
      rw [(h _).mp ht]
      rfl

end HyperSchema.ValueSource
