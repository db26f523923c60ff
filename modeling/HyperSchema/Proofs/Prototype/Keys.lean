import HyperSchema.Proofs.Prototype.Indexes

namespace HyperSchema.Prototype
open Lineage

variable {c : Conventions} {store : Store} {id b : SchemaId} {p q : Prototype}
  {lineage lineage' : List Schema}

namespace Indexed

/-- A name stands for a slot when it is its name or one of its aliases. -/
theorem realName?_iff (h : Indexed c lineage p) {k n : String} : p.realName? k = some n ↔
    ∃ s, slotNamed? p.slots n = some s ∧ (k = n ∨ k ∈ s.base.aliases) := by
  rw [realName?_eq_some_iff, h.aliases, Option.isSome_iff_exists]
  refine ⟨?_, ?_⟩
  · rintro (⟨⟨s, hs⟩, rfl⟩ | ⟨-, s, hs, ha⟩)
    · exact ⟨s, hs, .inl rfl⟩
    · exact ⟨s, hs, .inr ha⟩
  · rintro ⟨s, hs, rfl | ha⟩
    · exact .inl ⟨⟨s, hs⟩, rfl⟩
    · obtain ⟨hfree, -⟩ := h.aliasesFree k n ((h.aliases k n).mpr ⟨s, hs, ha⟩)
      rw [h.named, ← Option.ne_none_iff_exists', not_not] at hfree
      exact .inr ⟨hfree, s, hs, ha⟩

/-- A declared key is a key, if perhaps of another slot than elsewhere. -/
theorem exists_key (h : Indexed c lineage p) {s : Schema} (hs : s ∈ lineage) {k : String}
    (hk : k ∈ s.keySlotNames) : ∃ n ∈ p.keySlotNames, p.realName? k = some n := by
  obtain ⟨n, -, hn⟩ := h.keysKnown s hs k hk
  exact ⟨n, (h.keys n).mpr ⟨s, hs, k, hk, hn⟩, hn⟩

end Indexed

section Base

variable (hp : (compile c store id).outcome = .ok p) (hl : IsLineage store id lineage)
  (hq : (compile c store b).outcome = .ok q) (hl' : IsLineage store b lineage')
  (hb : Derives store id b)

include hp hl hq hl' hb

theorem mem_slotNames_of_base {n : String} (hn : n ∈ q.slotNames) : n ∈ p.slotNames := by
  have hmp := merged_of_compile hp hl
  have hmq := merged_of_compile hq hl'
  rw [hmq.slotNames, hmq.mem_names_iff] at hn
  rw [hmp.slotNames, hmp.mem_names_iff]
  obtain ⟨x, hx, hxn⟩ := List.mem_map.mp hn
  obtain ⟨s, hs, hsx⟩ := mem_declared_iff.mp hx
  have hmem : x ∈ declared lineage := mem_declared_iff.mpr ⟨s, hl.mem_of_derives hl' hb hs, hsx⟩
  exact List.mem_map.mpr ⟨x, hmem, hxn⟩

theorem exists_slot_of_baseKey {n : String} (hn : n ∈ q.keySlotNames) :
    ∃ u, slotNamed? p.slots n = some u := by
  have hiq := indexed_of_compile hq hl'
  obtain ⟨s, -, k, -, hk⟩ := (hiq.keys n).mp hn
  obtain ⟨t, ht, -⟩ := hiq.realName?_iff.mp hk
  have hnames := mem_slotNames_of_base hp hl hq hl' hb ((hiq.named n).mpr ⟨t, ht⟩)
  exact ((indexed_of_compile hp hl).named n).mp hnames

/-- A key of a base is lost when its slot is declared anew without an alias that it was named by,
and the alias is now that of another slot, which is a key in its place. -/
theorem retargeted_of_lost {n : String} (hn : n ∈ q.keySlotNames) (hlost : n ∉ p.keySlotNames) :
    ∃ t u, slotNamed? q.slots n = some t ∧ slotNamed? p.slots n = some u ∧
      ∃ a ∈ t.base.aliases, a ∉ u.base.aliases ∧
        ∃ m ∈ p.keySlotNames, m ≠ n ∧ p.realName? a = some m := by
  have hip := indexed_of_compile hp hl
  have hiq := indexed_of_compile hq hl'
  obtain ⟨s, hs, k, hk, hkn⟩ := (hiq.keys n).mp hn
  obtain ⟨t, ht, hkt⟩ := hiq.realName?_iff.mp hkn
  obtain ⟨u, hu⟩ := exists_slot_of_baseKey hp hl hq hl' hb hn
  obtain ⟨m, hm, hkm⟩ := hip.exists_key (hl.mem_of_derives hl' hb hs) hk
  have hmn : m ≠ n := fun h => hlost (h ▸ hm)
  -- were the name still one of the same slot, it would stand for this one
  have hother : ¬(k = n ∨ k ∈ u.base.aliases) := by
    intro h
    have hku := hip.realName?_iff.mpr ⟨u, hu, h⟩
    rw [hkm, Option.some.injEq] at hku
    exact hmn hku
  rw [not_or] at hother
  exact ⟨t, u, ht, hu, k, hkt.resolve_left hother.1, hother.2, m, hm, hmn, hkm⟩

end Base

/-- All keys declared in the lineage are keys. Of the keys of a base those remain whose slot is
still named by one of them, and one can only be lost to another slot that has taken over an alias
of it. -/
theorem baseKeys_kept_iff (hp : (compile c store id).outcome = .ok p) (hb : b ∈ p.bases)
    (hq : (compile c store b).outcome = .ok q) :
    ∃ lineage, IsLineage store id lineage ∧ ids lineage = id :: p.bases ∧
      (∀ s ∈ lineage, ∀ k ∈ s.keySlotNames, ∃ n ∈ p.keySlotNames, p.realName? k = some n) ∧
      (∀ n ∈ q.keySlotNames, ∃ u, slotNamed? p.slots n = some u ∧ (n ∈ p.keySlotNames ↔
        ∃ s ∈ lineage, ∃ k ∈ s.keySlotNames, k = n ∨ k ∈ u.base.aliases)) ∧
      ∀ n ∈ q.keySlotNames, n ∉ p.keySlotNames →
        ∃ t u, slotNamed? q.slots n = some t ∧ slotNamed? p.slots n = some u ∧
          ∃ a ∈ t.base.aliases, a ∉ u.base.aliases ∧
            ∃ m ∈ p.keySlotNames, m ≠ n ∧ p.realName? a = some m := by
  obtain ⟨lineage, hl, hids⟩ := bases_of_compile hp
  obtain ⟨lineage', hl', -⟩ := bases_of_compile hq
  have hderives := derives_of_mem_bases hp hb
  have hi := indexed_of_compile hp hl
  refine ⟨lineage, hl, hids, fun s hs k hk => hi.exists_key hs hk, ?_, ?_⟩
  · intro n hn
    obtain ⟨u, hu⟩ := exists_slot_of_baseKey hp hl hq hl' hderives hn
    refine ⟨u, hu, ?_⟩
    simp only [hi.keys, hi.realName?_iff, hu, Option.some.injEq, exists_eq_left']
  · intro n hn hlost
    exact retargeted_of_lost hp hl hq hl' hderives hn hlost

/-- Records have two keys, each named by an alias. In an archive the code has lost its alias to a
slot of its own. -/
def record : Schema where
  id := ⟨"record"⟩
  slots := [{ name := "code", valueType := .text, aliases := ["id"] },
    { name := "number", valueType := .long, aliases := ["no"] }]
  keySlotNames := ["id", "no"]

def archived : Schema where
  id := ⟨"archived"⟩
  bases := [⟨"record"⟩]
  slots := [{ name := "code", valueType := .text }, { name := "id", valueType := .text }]
  keySlotNames := ["id"]

def records : Store where
  schemas := [record, archived]
  distinct := by decide

theorem compile_records :
    ∃ p q, (compile ⟨.standard, {}⟩ records archived.id).outcome = .ok p ∧ record.id ∈ p.bases ∧
      (compile ⟨.standard, {}⟩ records record.id).outcome = .ok q ∧
      p.keySlotNames = ["id", "number"] ∧ q.keySlotNames = ["code", "number"] := by
  with_unfolding_all exact ⟨_, _, rfl, by decide, rfl, by decide, by decide⟩

theorem baseKeys_kept_iff_archived :
    ∃ p q, (compile ⟨.standard, {}⟩ records archived.id).outcome = .ok p ∧ record.id ∈ p.bases ∧
      (compile ⟨.standard, {}⟩ records record.id).outcome = .ok q ∧
      ("number" ∈ q.keySlotNames ∧ ∃ u, slotNamed? p.slots "number" = some u ∧
        ∃ s ∈ [archived, record], ∃ k ∈ s.keySlotNames, k = "number" ∨ k ∈ u.base.aliases) ∧
      "code" ∈ q.keySlotNames ∧ "code" ∉ p.keySlotNames ∧
      ∃ t u, slotNamed? q.slots "code" = some t ∧ slotNamed? p.slots "code" = some u ∧
        ∃ a ∈ t.base.aliases, a ∉ u.base.aliases ∧
          ∃ m ∈ p.keySlotNames, m ≠ "code" ∧ p.realName? a = some m := by
  obtain ⟨p, q, hp, hbases, hq, hpkeys, hqkeys⟩ := compile_records
  have hl : IsLineage records archived.id [archived, record] :=
    (isLineage_cons_iff (by decide)).mpr (by decide +kernel)
  have hnumber : "number" ∈ q.keySlotNames := by simp [hqkeys]
  have hcode : "code" ∈ q.keySlotNames := by simp [hqkeys]
  have hmissing : "code" ∉ p.keySlotNames := by simp [hpkeys]
  obtain ⟨lineage, hl', -, -, hkept, hlost⟩ := baseKeys_kept_iff hp hbases hq
  obtain rfl := hl'.unique hl
  obtain ⟨u, hu, hiff⟩ := hkept "number" hnumber
  exact ⟨p, q, hp, hbases, hq, ⟨hnumber, u, hu, hiff.mp (by simp [hpkeys])⟩, hcode, hmissing,
    hlost "code" hcode hmissing⟩

/-- The code, a key of records, is no key of what is archived. -/
theorem archived_loses_key :
    ∃ p q, (compile ⟨.standard, {}⟩ records archived.id).outcome = .ok p ∧ record.id ∈ p.bases ∧
      (compile ⟨.standard, {}⟩ records record.id).outcome = .ok q ∧
      ¬∀ n ∈ q.keySlotNames, n ∈ p.keySlotNames := by
  obtain ⟨p, q, hp, hbases, hq, hpkeys, hqkeys⟩ := compile_records
  refine ⟨p, q, hp, hbases, hq, fun h => ?_⟩
  have hcode := h "code" (by simp [hqkeys])
  simp [hpkeys] at hcode

end HyperSchema.Prototype
