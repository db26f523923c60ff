import HyperSchema.Proofs.Distinct
import HyperSchema.Proofs.Lineage.Walk

namespace HyperSchema.Lineage

def ids (schemas : List Schema) : List SchemaId := schemas.map (·.id)

variable {store : Store}

/-- Schemas found that the search is through with: all that is below them has been found too. -/
def Finished (store : Store) (path : List SchemaId) (found : List Schema) : Prop :=
  ∀ t ∈ found, t.id ∉ path → ∃ w, Walk store t.bases w ∧ ∀ x ∈ w, x ∈ ids found

/-- What the search keeps true of the schemas found, with `path` leading to where it is. -/
structure Searched (store : Store) (path : List SchemaId) (found : List Schema) : Prop where
  kept : ∀ t ∈ found, store.find? t.id = some t
  distinct : (ids found).Nodup
  finished : Finished store path found

theorem Searched.push {path : List SchemaId} {found : List Schema} {b : SchemaId} {s : Schema}
    (h : Searched store path found) (hs : store.find? b = some s) (hb : b ∉ ids found) :
    Searched store (path ++ [b]) (found ++ [s]) := by
  obtain ⟨-, rfl⟩ := Store.mem_of_find? hs
  refine ⟨?_, ?_, ?_⟩
  · intro t ht
    rcases List.mem_append.mp ht with ht | ht
    · exact h.kept t ht
    · obtain rfl := List.mem_singleton.mp ht
      exact hs
  · rw [ids, List.map_append, List.map_singleton]
    exact List.Nodup.append h.distinct (List.nodup_singleton _) (by simpa [ids] using hb)
  · intro t ht hp
    rw [List.mem_append, not_or, List.mem_singleton] at hp
    rcases List.mem_append.mp ht with ht | ht
    · obtain ⟨w, hw, hin⟩ := h.finished t ht hp.1
      refine ⟨w, hw, fun x hx => ?_⟩
      rw [ids, List.map_append]
      exact List.mem_append_left _ (hin x hx)
    · obtain rfl := List.mem_singleton.mp ht
      exact absurd rfl hp.2

/-- Once the walk below `b` has been found, the search is through with `b`. -/
theorem Searched.pop {path : List SchemaId} {found : List Schema} {b : SchemaId} {s : Schema}
    {w : List SchemaId} (h : Searched store (path ++ [b]) found) (hs : store.find? b = some s)
    (hw : Walk store s.bases w) (hin : ∀ x ∈ w, x ∈ ids found) : Searched store path found := by
  refine ⟨h.kept, h.distinct, ?_⟩
  intro t ht hp
  by_cases htb : t.id = b
  · have hts := h.kept t ht
    rw [htb, hs, Option.some.injEq] at hts
    exact hts ▸ ⟨w, hw, hin⟩
  · apply h.finished t ht
    simp [hp, htb]

/-- A search that succeeds adds what the walk meets, in the order of the walk. -/
theorem visit_of_ok {root : SchemaId} {trail bases : List SchemaId} {found : List Schema}
    (h : Searched store (root :: trail) found) {r}
    (hr : visit store root trail bases found = .ok r) : Searched store (root :: trail) r.val ∧
      ∃ w, Walk store bases w ∧ ids r.val = (ids found ++ w).eraseDups := by
  -- along the recursion: `b` is pushed for the search below it and popped before the rest
  fun_induction visit store root trail bases found with
  | case1 =>
    cases hr
    exact ⟨h, [], .nil, by rw [List.append_nil, eraseDups_eq_self h.distinct]⟩
  | case2 | case4 | case5 | case6 => cases hr
  | case3 trail found b rest hp hf ih =>
    -- `b` was met before and left again, so its walk has been found already
    obtain ⟨hall, w, hw, heq⟩ := ih h hr
    obtain ⟨t, ht, rfl⟩ := List.mem_map.mp hf
    obtain ⟨v, hv, hin⟩ := h.finished t ht hp
    refine ⟨hall, t.id :: (v ++ w), .cons (h.kept t ht) hv hw, ?_⟩
    have hmet : ∀ x ∈ t.id :: v, x ∈ ids found := by
      intro x hx
      rcases List.mem_cons.mp hx with rfl | hx
      · exact hf
      · exact hin x hx
    calc ids _ = (ids found ++ w).eraseDups := heq
      _ = ((ids found).eraseDups ++ w).eraseDups := (eraseDups_eraseDups_append _ _).symm
      _ = ((ids found ++ t.id :: v).eraseDups ++ w).eraseDups := by
        rw [eraseDups_append_of_subset hmet]
      _ = (ids found ++ t.id :: (v ++ w)).eraseDups := by
        rw [eraseDups_eraseDups_append, List.append_assoc, List.cons_append]
  | case7 trail found b rest hp hf s hs inner hi hinner all ha hrest ihInner ihRest =>
    -- what the inner search adds is the walk below `b`, which is all that popping `b` asks for
    cases hr
    obtain ⟨hsearched, v, hv, hiv⟩ := ihInner (h.push hs hf) hinner
    have hin : ∀ x ∈ v, x ∈ ids inner := by
      intro x hx
      rw [hiv, List.mem_eraseDups]
      exact List.mem_append_right _ hx
    obtain ⟨hall, w, hw, haw⟩ := ihRest (Searched.pop hsearched hs hv hin) hrest
    refine ⟨hall, b :: (v ++ w), .cons hs hv hw, ?_⟩
    obtain ⟨-, rfl⟩ := Store.mem_of_find? hs
    calc ids all = (ids inner ++ w).eraseDups := haw
      _ = (ids (found ++ [s]) ++ v ++ w).eraseDups := by rw [hiv, eraseDups_eraseDups_append]
      _ = (ids found ++ s.id :: (v ++ w)).eraseDups := by
        rw [ids, List.map_append, List.append_assoc, List.append_assoc]; rfl

/-- While every identifier on the path derives from all that is still to be visited, the search
fails for a missing schema or for one that derives from itself. -/
theorem visit_of_error {root : SchemaId} {trail bases : List SchemaId} {found : List Schema}
    (h : ∀ b ∈ bases, ∀ x ∈ root :: trail, Derives store x b) {e : CompileError}
    (he : visit store root trail bases found = .error e) :
    (∃ m, e = .schemaNotFound m ∧ Derives store root m ∧ store.find? m = none) ∨
      ∃ cycle b, e = .cyclicInheritance root cycle ∧ Derives store root b ∧ Derives store b b := by
  fun_induction visit store root trail bases found with
  | case1 | case7 => cases he
  | case2 trail found b rest hp =>
    -- `b` is on the path and yet to be visited, so it derives from itself
    cases he
    have hb := h b List.mem_cons_self
    exact .inr ⟨_, b, rfl, hb root List.mem_cons_self, hb b hp⟩
  | case3 trail found b rest hp hf ih => exact ih (fun b hb => h b (List.mem_cons_of_mem _ hb)) he
  | case4 trail found b rest hp hf hs =>
    cases he
    exact .inl ⟨b, rfl, h b List.mem_cons_self root List.mem_cons_self, hs⟩
  | case5 trail found b rest hp hf s hs e' hinner ih =>
    -- the path is longer by `b`, from which its own bases derive in one step
    cases he
    apply ih _ hinner
    intro d hd x hx
    have hbd : Derives store b d := .single ⟨s, hs, hd⟩
    rw [← List.cons_append, List.mem_append, List.mem_singleton] at hx
    rcases hx with hx | rfl
    · exact (h b List.mem_cons_self x hx).trans hbd
    · exact hbd
  | case6 trail found b rest hp hf s hs inner hi hinner e' hrest ihInner ihRest =>
    cases he
    exact ihRest (fun b hb => h b (List.mem_cons_of_mem _ hb)) hrest

/-- A schema and all it derives from, in the order of the walk from it, each where it is met
first. -/
structure IsLineage (store : Store) (id : SchemaId) (lineage : List Schema) : Prop where
  kept : ∀ s ∈ lineage, store.find? s.id = some s
  order : ∃ w, Walk store [id] w ∧ ids lineage = w.eraseDups

theorem eq_of_ids_eq {l m : List Schema} (hl : ∀ s ∈ l, store.find? s.id = some s)
    (hm : ∀ s ∈ m, store.find? s.id = some s) (h : ids l = ids m) : l = m := by
  induction l generalizing m with
  | nil => exact (List.map_eq_nil_iff.mp h.symm).symm
  | cons s l ih =>
    cases m with
    | nil => simp [ids] at h
    | cons t m =>
      simp only [ids, List.map_cons, List.cons.injEq] at h
      have hs := hl s List.mem_cons_self
      rw [h.1, hm t List.mem_cons_self, Option.some.injEq] at hs
      rw [hs, ih (fun s hs => hl s (List.mem_cons_of_mem _ hs))
        (fun s hs => hm s (List.mem_cons_of_mem _ hs)) h.2]

theorem bases_of_ok {s : Schema} {l : List Schema} (h : bases store s = .ok l) :
    (∀ t ∈ l, store.find? t.id = some t) ∧ ∃ w, Walk store s.bases w ∧ ids l = w.eraseDups := by
  have hstart : Searched store [s.id] [] := ⟨by simp, List.nodup_nil, by simp [Finished]⟩
  cases hv : visit store s.id [] s.bases [] with
  | error e => simp [bases, hv, Except.map] at h
  | ok r =>
    obtain rfl : r.val = l := by simpa [bases, hv, Except.map] using h
    obtain ⟨hr, hw⟩ := visit_of_ok hstart hv
    exact ⟨hr.kept, by simpa [ids] using hw⟩

theorem bases_of_error {s : Schema} (hs : store.find? s.id = some s) {e : CompileError}
    (h : bases store s = .error e) :
    (∃ m, e = .schemaNotFound m ∧ Derives store s.id m ∧ store.find? m = none) ∨
      ∃ cycle b, e = .cyclicInheritance s.id cycle ∧ Derives store s.id b ∧ Derives store b b := by
  have hstart : ∀ b ∈ s.bases, ∀ x ∈ [s.id], Derives store x b := by
    intro b hb x hx
    obtain rfl := List.mem_singleton.mp hx
    exact .single ⟨s, hs, hb⟩
  cases hv : visit store s.id [] s.bases [] with
  | ok r => simp [bases, hv, Except.map] at h
  | error e' =>
    obtain rfl : e' = e := by simpa [bases, hv, Except.map] using h
    exact visit_of_error hstart hv

theorem bases_eq_ok_iff {s : Schema} (hs : store.find? s.id = some s) {l : List Schema} :
    bases store s = .ok l ↔ (∀ t ∈ l, store.find? t.id = some t) ∧
      ∃ w, Walk store s.bases w ∧ ids l = w.eraseDups := by
  refine ⟨bases_of_ok, ?_⟩
  intro ⟨hl, w, hw, hlw⟩
  cases h : bases store s with
  | error e =>
    -- either error names an identifier that the walk meets and could not get past
    obtain ⟨m, -, hm, hnone⟩ | ⟨cycle, b, -, hb, hbb⟩ := bases_of_error hs h
    · obtain ⟨t, -, ht, -⟩ := hw.exists_shorter ((hw.mem_bases_iff hs m).mpr hm)
      rw [ht] at hnone
      cases hnone
    · exact absurd hbb (hw.not_derives_self ((hw.mem_bases_iff hs b).mpr hb))
  | ok m =>
    obtain ⟨hm, v, hv, hmv⟩ := bases_of_ok h
    rw [eq_of_ids_eq hm hl (by rw [hmv, hlw, hv.unique hw])]

/-- A lineage begins with the schema itself, and nothing below leads back to it. -/
theorem isLineage_cons_iff {s : Schema} (hs : store.find? s.id = some s) {l : List Schema} :
    IsLineage store s.id (s :: l) ↔ bases store s = .ok l := by
  -- the walk never comes back to where it began, so the head of the list costs nothing
  have hhead {w : List SchemaId} (hw : Walk store s.bases w) :
      (s.id :: w).eraseDups = s.id :: w.eraseDups := by
    have hself : s.id ∉ w := fun h =>
      hw.not_derives_self h ((hw.mem_bases_iff hs s.id).mp h)
    have hfilter : w.filter (fun b => !b == s.id) = w := by
      apply List.filter_eq_self.mpr
      intro b hb
      have hne : b ≠ s.id := fun h => hself (h ▸ hb)
      simpa using hne
    rw [List.eraseDups_cons, hfilter]
  rw [bases_eq_ok_iff hs]
  refine ⟨?_, ?_⟩
  · intro ⟨hkept, v, hv, heq⟩
    obtain ⟨w, hw, rfl⟩ := (walk_singleton_iff hs).mp hv
    rw [hhead hw, ids, List.map_cons, List.cons.injEq] at heq
    exact ⟨fun t ht => hkept t (List.mem_cons_of_mem _ ht), w, hw, heq.2⟩
  · intro ⟨hkept, w, hw, heq⟩
    refine ⟨?_, s.id :: w, (walk_singleton_iff hs).mpr ⟨w, hw, rfl⟩, ?_⟩
    · intro t ht
      rcases List.mem_cons.mp ht with rfl | ht
      · exact hs
      · exact hkept t ht
    · rw [hhead hw, ← heq, ids, List.map_cons, ids]

namespace IsLineage

variable {id : SchemaId} {lineage : List Schema}

theorem nodup (h : IsLineage store id lineage) : (ids lineage).Nodup := by
  obtain ⟨w, -, heq⟩ := h.order
  rw [heq]
  exact nodup_eraseDups w

theorem mem_ids_iff (h : IsLineage store id lineage) (x : SchemaId) :
    x ∈ ids lineage ↔ x = id ∨ Derives store id x := by
  obtain ⟨w, hw, heq⟩ := h.order
  rw [heq, List.mem_eraseDups, hw.mem_iff]
  simp

theorem unique {lineage' : List Schema} (h : IsLineage store id lineage)
    (h' : IsLineage store id lineage') : lineage = lineage' := by
  obtain ⟨w, hw, heq⟩ := h.order
  obtain ⟨w', hw', heq'⟩ := h'.order
  exact eq_of_ids_eq h.kept h'.kept (by rw [heq, heq', hw.unique hw'])

theorem not_derives_self (h : IsLineage store id lineage) {x : SchemaId}
    (hx : x ∈ ids lineage) : ¬Derives store x x := by
  obtain ⟨w, hw, heq⟩ := h.order
  rw [heq, List.mem_eraseDups] at hx
  exact hw.not_derives_self hx

/-- Where every schema declares one base at most, each schema derives from those behind it. -/
theorem chain (h : IsLineage store id lineage) (hbases : ∀ s ∈ lineage, s.bases.length ≤ 1) :
    lineage.Pairwise fun s t => Derives store s.id t.id := by
  obtain ⟨w, hw, heq⟩ := h.order
  have hmem {x : SchemaId} (hx : x ∈ w) : ∃ s ∈ lineage, s.id = x := by
    rwa [← List.mem_map, ← ids, heq, List.mem_eraseDups]
  have hderives : w.Pairwise (Derives store) := by
    refine hw.chain (Nat.le_refl 1) ?_
    intro x hx t ht
    obtain ⟨s, hs, rfl⟩ := hmem hx
    rw [h.kept s hs, Option.some.injEq] at ht
    exact ht ▸ hbases s hs
  -- met twice, a schema would stand behind itself and so derive from itself
  have hnodup : w.Nodup := by
    refine hderives.imp_of_mem ?_
    rintro x y hx - hxy rfl
    exact hw.not_derives_self hx hxy
  rw [eraseDups_eq_self hnodup] at heq
  rwa [← heq, ids, List.pairwise_map] at hderives

theorem mono {store' : Store} (hle : ∀ id s, store.find? id = some s → store'.find? id = some s)
    (h : IsLineage store id lineage) : IsLineage store' id lineage := by
  obtain ⟨w, hw, heq⟩ := h.order
  exact ⟨fun s hs => hle _ _ (h.kept s hs), w, hw.mono hle, heq⟩

/-- Below a schema is all that is below one of its bases. -/
theorem mem_of_derives {b : SchemaId} {lineage' : List Schema} (h : IsLineage store id lineage)
    (h' : IsLineage store b lineage') (hb : Derives store id b) {s : Schema}
    (hs : s ∈ lineage') : s ∈ lineage := by
  have hderives : Derives store id s.id := by
    obtain hsb | hbs := (h'.mem_ids_iff s.id).mp (List.mem_map_of_mem hs)
    · rwa [hsb]
    · exact hb.trans hbs
  obtain ⟨t, ht, hid⟩ := List.mem_map.mp ((h.mem_ids_iff s.id).mpr (.inr hderives))
  have hkept := h.kept t ht
  rw [hid, h'.kept s hs, Option.some.injEq] at hkept
  exact hkept ▸ ht

theorem exists_cons (h : IsLineage store id lineage) :
    ∃ s l, lineage = s :: l ∧ s.id = id ∧ store.find? id = some s := by
  obtain ⟨s, hs, hid⟩ := List.mem_map.mp ((h.mem_ids_iff id).mpr (.inl rfl))
  have hkept := h.kept s hs
  rw [hid] at hkept
  obtain ⟨w, hw, heq⟩ := h.order
  obtain ⟨below, -, rfl⟩ := (walk_singleton_iff hkept).mp hw
  rw [List.eraseDups_cons] at heq
  cases lineage with
  | nil => simp at hs
  | cons t l =>
    simp only [ids, List.map_cons, List.cons.injEq] at heq
    have ht := h.kept t List.mem_cons_self
    rw [heq.1, hkept, Option.some.injEq] at ht
    exact ⟨s, l, by rw [ht], hid, hkept⟩

end IsLineage

/-- There is a lineage exactly when all that is reached is kept and none of it derives from
itself. -/
theorem exists_isLineage_iff {id : SchemaId} :
    (∃ lineage, IsLineage store id lineage) ↔
      ∀ b, b = id ∨ Derives store id b → (∃ s, store.find? b = some s) ∧ ¬Derives store b b := by
  refine ⟨?_, ?_⟩
  · intro ⟨lineage, h⟩ b hb
    have hmem := (h.mem_ids_iff b).mpr hb
    obtain ⟨s, hs, rfl⟩ := List.mem_map.mp hmem
    exact ⟨⟨s, h.kept s hs⟩, h.not_derives_self hmem⟩
  · intro h
    obtain ⟨⟨s, hs⟩, -⟩ := h id (.inl rfl)
    obtain ⟨-, rfl⟩ := Store.mem_of_find? hs
    cases hb : bases store s with
    | ok l => exact ⟨s :: l, (isLineage_cons_iff hs).mpr hb⟩
    | error e =>
      obtain ⟨m, -, hm, hnone⟩ | ⟨cycle, b, -, hb, hbb⟩ := bases_of_error hs hb
      · obtain ⟨⟨t, ht⟩, -⟩ := h m (.inr hm)
        rw [ht] at hnone
        cases hnone
      · exact absurd hbb (h b (.inr hb)).2

end HyperSchema.Lineage
