import HyperSchema.Proofs.Prototype.Stages

namespace HyperSchema.Prototype
open Lineage

variable {c : Conventions} {store : Store} {id : SchemaId} {p : Prototype}

theorem schema_of_compile (h : (compile c store id).outcome = .ok p) : p.schema = id := by
  obtain ⟨s, bases, rfl, -, h⟩ := compile_eq_ok_iff.mp h
  obtain ⟨slots, aliases, -, -, -, h⟩ := assemble_eq_ok_iff.mp h
  obtain ⟨-, rfl⟩ := withNames_eq_ok_iff.mp h
  rfl

theorem bases_of_compile (h : (compile c store id).outcome = .ok p) :
    ∃ lineage, IsLineage store id lineage ∧ ids lineage = id :: p.bases := by
  obtain ⟨s, bases, rfl, hl, h⟩ := compile_eq_ok_iff.mp h
  obtain ⟨slots, aliases, -, -, -, h⟩ := assemble_eq_ok_iff.mp h
  obtain ⟨-, rfl⟩ := withNames_eq_ok_iff.mp h
  exact ⟨s :: bases, hl, rfl⟩

theorem derives_of_mem_bases (h : (compile c store id).outcome = .ok p) {b : SchemaId}
    (hb : b ∈ p.bases) : Derives store id b := by
  obtain ⟨lineage, hl, hids⟩ := bases_of_compile h
  have hnodup := hl.nodup
  rw [hids, List.nodup_cons] at hnodup
  have hmem : b ∈ ids lineage := hids ▸ List.mem_cons_of_mem id hb
  obtain rfl | hderives := (hl.mem_ids_iff b).mp hmem
  · exact absurd hb hnodup.1
  · exact hderives

theorem isA_iff (h : (compile c store id).outcome = .ok p) (b : SchemaId) :
    p.isA b ↔ b = id ∨ Derives store id b := by
  obtain ⟨lineage, hl, hids⟩ := bases_of_compile h
  rw [← hl.mem_ids_iff, hids, List.mem_cons, isA, schema_of_compile h,
    @eq_comm _ b id]
  simp

theorem isA_trans {a b d : SchemaId} {q : Prototype} (hp : (compile c store a).outcome = .ok p)
    (hq : (compile c store b).outcome = .ok q) (hpb : p.isA b) (hqd : q.isA d) : p.isA d := by
  rw [isA_iff hp] at hpb ⊢
  rw [isA_iff hq] at hqd
  obtain rfl | hpb := hpb
  · exact hqd
  · obtain rfl | hqd := hqd
    · exact .inr hpb
    · exact .inr (hpb.trans hqd)

theorem isA_antisymm {a b : SchemaId} {q : Prototype} (hp : (compile c store a).outcome = .ok p)
    (hq : (compile c store b).outcome = .ok q) (hpb : p.isA b) (hqa : q.isA a) : a = b := by
  rw [isA_iff hp] at hpb
  rw [isA_iff hq] at hqa
  obtain rfl | hpb := hpb
  · rfl
  · obtain rfl | hqa := hqa
    · rfl
    · obtain ⟨lineage, hl, -⟩ := bases_of_compile hp
      exact absurd (hpb.trans hqa) (hl.not_derives_self ((hl.mem_ids_iff a).mpr (.inl rfl)))

/-- The search for bases gives a result for every store: all that the schema derives from, once
each and in the order of the walk, or the reason why there is no such list. -/
theorem bases_exact {s : Schema} (hs : store.find? s.id = some s) :
    ((∃ l, Lineage.bases store s = .ok l) ↔
      (∀ b, Derives store s.id b → ∃ t, store.find? b = some t) ∧
      ∀ b, b = s.id ∨ Derives store s.id b → ¬Derives store b b) ∧
    (∀ l, Lineage.bases store s = .ok l →
      (∀ b, b ∈ ids l ↔ Derives store s.id b) ∧ (ids l).Nodup ∧ s.id ∉ ids l ∧
      (∃ w, Walk store s.bases w ∧ ids l = w.eraseDups) ∧
      ∀ c p, (compile c store s.id).outcome = .ok p → p.bases = ids l) ∧
    (∀ e, Lineage.bases store s = .error e →
      (∃ m, e = .schemaNotFound m) ∨ ∃ cycle, e = .cyclicInheritance s.id cycle) ∧
    (∀ m, Lineage.bases store s = .error (.schemaNotFound m) →
      Derives store s.id m ∧ store.find? m = none) ∧
    (∀ c a p, (compile c store a).outcome = .ok p → p.isA a ∧
      ∀ b q, (compile c store b).outcome = .ok q → p.isA b →
        (∀ d, q.isA d → p.isA d) ∧ (q.isA a → a = b)) := by
  refine ⟨?_, ?_, ?_, ?_, ?_⟩
  · have hex : (∃ l, Lineage.bases store s = .ok l) ↔ ∃ lineage, IsLineage store s.id lineage := by
      refine ⟨?_, ?_⟩
      · intro ⟨l, hl⟩
        exact ⟨s :: l, (isLineage_cons_iff hs).mpr hl⟩
      · intro ⟨lineage, hl⟩
        obtain ⟨t, l, rfl, -, ht⟩ := hl.exists_cons
        rw [hs, Option.some.injEq] at ht
        subst ht
        exact ⟨l, (isLineage_cons_iff hs).mp hl⟩
    rw [hex, exists_isLineage_iff]
    refine ⟨?_, ?_⟩
    · intro h
      exact ⟨fun b hb => (h b (.inr hb)).1, fun b hb => (h b hb).2⟩
    · intro ⟨hkept, hacyclic⟩ b hb
      refine ⟨?_, hacyclic b hb⟩
      obtain rfl | hb := hb
      · exact ⟨s, hs⟩
      · exact hkept b hb
  · intro l hl
    have hlineage := (isLineage_cons_iff hs).mpr hl
    obtain ⟨-, w, hw, heq⟩ := bases_of_ok hl
    have hnodup := hlineage.nodup
    rw [ids, List.map_cons, List.nodup_cons] at hnodup
    refine ⟨?_, hnodup.2, hnodup.1, ⟨w, hw, heq⟩, ?_⟩
    · intro b
      rw [heq, List.mem_eraseDups, hw.mem_bases_iff hs]
    · intro c p hp
      obtain ⟨lineage, hl', hids⟩ := bases_of_compile hp
      rw [hl'.unique hlineage, ids, List.map_cons, List.cons.injEq] at hids
      exact hids.2.symm
  · intro e he
    obtain ⟨m, rfl, -⟩ | ⟨cycle, b, rfl, -⟩ := bases_of_error hs he
    · exact .inl ⟨m, rfl⟩
    · exact .inr ⟨cycle, rfl⟩
  · intro m hm
    obtain ⟨m', heq, hderives, hnone⟩ | ⟨cycle, b, heq, -⟩ := bases_of_error hs hm
    · cases heq
      exact ⟨hderives, hnone⟩
    · cases heq
  · intro c a p hp
    refine ⟨(isA_iff hp a).mpr (.inl rfl), ?_⟩
    intro b q hq hpb
    exact ⟨fun d hqd => isA_trans hp hq hpb hqd, fun hqa => isA_antisymm hp hq hpb hqa⟩

def employee : Schema := { id := ⟨"employee"⟩, bases := [⟨"person"⟩, ⟨"worker"⟩, ⟨"person"⟩] }

def guest : Schema := { id := ⟨"guest"⟩, bases := [⟨"worker"⟩, ⟨"visitor"⟩] }

/-- A worker is a person, an employee is both by name, and a guest is something that is missing. -/
def people : Store where
  schemas := [{ id := ⟨"thing"⟩ }, { id := ⟨"person"⟩, bases := [⟨"thing"⟩] },
    { id := ⟨"worker"⟩, bases := [⟨"thing"⟩, ⟨"person"⟩] }, employee, guest]
  distinct := by decide

theorem bases_exact_people :
    (people.find? employee.id = some employee ∧
      ∃ l, Lineage.bases people employee = .ok l ∧ ids l = [⟨"person"⟩, ⟨"thing"⟩, ⟨"worker"⟩] ∧
        (∀ b, b ∈ ids l ↔ Derives people employee.id b) ∧
        ¬Derives people employee.id employee.id) ∧
    (people.find? guest.id = some guest ∧
      Lineage.bases people guest = .error (.schemaNotFound ⟨"visitor"⟩) ∧
      Derives people guest.id ⟨"visitor"⟩) ∧
    ∃ p q, (compile ⟨.standard, {}⟩ people employee.id).outcome = .ok p ∧
      (compile ⟨.standard, {}⟩ people ⟨"worker"⟩).outcome = .ok q ∧
      p.isA ⟨"worker"⟩ ∧ q.isA ⟨"thing"⟩ ∧ p.isA ⟨"thing"⟩ := by
  have he : people.find? employee.id = some employee := by decide
  have hg : people.find? guest.id = some guest := by decide
  obtain ⟨l, hl, hids⟩ : ∃ l, Lineage.bases people employee = .ok l ∧
    ids l = [⟨"person"⟩, ⟨"thing"⟩, ⟨"worker"⟩] := by with_unfolding_all exact ⟨_, rfl, rfl⟩
  have hmissing : Lineage.bases people guest = .error (.schemaNotFound ⟨"visitor"⟩) := by
    with_unfolding_all rfl
  obtain ⟨p, hp, hpw⟩ : ∃ p, (compile ⟨.standard, {}⟩ people employee.id).outcome = .ok p ∧
    p.isA ⟨"worker"⟩ := by with_unfolding_all exact ⟨_, rfl, rfl⟩
  obtain ⟨q, hq, hqt⟩ : ∃ q, (compile ⟨.standard, {}⟩ people ⟨"worker"⟩).outcome = .ok q ∧
    q.isA ⟨"thing"⟩ := by with_unfolding_all exact ⟨_, rfl, rfl⟩
  obtain ⟨hiff, hok, -, -, hisA⟩ := bases_exact he
  obtain ⟨-, -, -, hnone, -⟩ := bases_exact hg
  have hpt := (((hisA _ _ _ hp).2 _ _ hq hpw).1 ⟨"thing"⟩ hqt)
  exact ⟨⟨he, l, hl, hids, (hok l hl).1, (hiff.mp ⟨l, hl⟩).2 _ (.inl rfl)⟩,
    ⟨hg, hmissing, (hnone _ hmissing).1⟩, p, q, hp, hq, hpw, hqt, hpt⟩

end HyperSchema.Prototype
