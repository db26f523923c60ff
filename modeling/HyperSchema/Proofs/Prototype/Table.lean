import HyperSchema.Proofs.Distinct
import HyperSchema.Proofs.Prototype.Declared

namespace HyperSchema

namespace Slot

theorem asProperty?_eq_some_iff {s : Slot} {p : PropertySlot} :
    s.asProperty? = some p ↔ s = .property p := by
  cases s <;> simp [asProperty?]

theorem asLink?_eq_some_iff {s : Slot} {l : LinkSlot} : s.asLink? = some l ↔ s = .link l := by
  cases s <;> simp [asLink?]

theorem relation?_eq_some_iff {s : Slot} {r : String} :
    s.relation? = some r ↔ ∃ l, s = .link l ∧ l.relation = r := by
  simp only [relation?, Option.map_eq_some_iff, asLink?_eq_some_iff]

theorem isSearchable_iff {s : Slot} : s.isSearchable ↔ ∃ p, s = .property p ∧ p.searchable := by
  cases s <;> simp [isSearchable, asProperty?]

end Slot

namespace SlotTable

/-- Each relation with the name of the link that has it. -/
def relationsOf (slots : List Slot) : List (String × String) :=
  slots.filterMap fun s => s.relation?.map (·, s.name)

/-- The table of the given slots, read off them. -/
def ofSlots (slots : List Slot) : SlotTable where
  slotNames := slots.map Slot.name
  slots := slots
  searchableSlotNames := Text.nameSet ((slots.filter (·.isSearchable)).map Slot.name)
  relations := relationsOf slots

variable {slots : List Slot} {s : Slot}

theorem ofSlots_slots : (ofSlots slots).slots = slots := rfl

theorem map_fst_relationsOf (slots : List Slot) :
    (relationsOf slots).map Prod.fst = slots.filterMap Slot.relation? := by
  simp only [relationsOf, List.map_filterMap, Option.map_map]
  simp [Function.comp_def]

theorem map_snd_relationsOf_sublist (slots : List Slot) :
    ((relationsOf slots).map Prod.snd).Sublist (slots.map Slot.name) := by
  induction slots with
  | nil => exact .slnil
  | cons s slots ih =>
    rw [relationsOf, List.filterMap_cons, List.map_cons]
    cases s.relation? with
    | none => exact .cons _ ih
    | some r => exact .cons_cons _ ih

theorem mem_relationsOf_iff {r n : String} :
    (r, n) ∈ relationsOf slots ↔ ∃ s ∈ slots, s.relation? = some r ∧ s.name = n := by
  simp [relationsOf, List.mem_filterMap]

theorem lookup_relationsOf_eq_none_iff {r : String} :
    (relationsOf slots).lookup r = none ↔ r ∉ slots.filterMap Slot.relation? := by
  rw [← map_fst_relationsOf, List.lookup_eq_none_iff, List.mem_map, not_exists]
  refine forall_congr' fun e => ?_
  rw [not_and, bne_iff_ne, ne_comm]

theorem mem_searchableSlotNames_iff {n : String} : n ∈ (ofSlots slots).searchableSlotNames ↔
    ∃ s, .property s ∈ slots ∧ s.searchable ∧ s.name = n := by
  simp only [ofSlots, Text.mem_nameSet, List.mem_map, List.mem_filter, Slot.isSearchable_iff]
  refine ⟨?_, ?_⟩
  · rintro ⟨_, ⟨hs, s, rfl, hsearchable⟩, rfl⟩
    exact ⟨s, hs, hsearchable, rfl⟩
  · rintro ⟨s, hs, hsearchable, rfl⟩
    exact ⟨.property s, ⟨hs, s, rfl, hsearchable⟩, rfl⟩

theorem searchableSlotNames_ofSlots_concat :
    (ofSlots (slots ++ [s])).searchableSlotNames =
      if s.isSearchable then Text.insertName s.name (ofSlots slots).searchableSlotNames
      else (ofSlots slots).searchableSlotNames := by
  simp only [ofSlots, List.filter_append]
  by_cases h : s.isSearchable
  · have hs : [s].filter (·.isSearchable) = [s] := by simp [h]
    rw [hs, List.map_append, List.map_singleton, Text.nameSet_concat, if_pos h]
  · have hs : [s].filter (·.isSearchable) = [] := by simp [h]
    rw [hs, List.append_nil, if_neg h]

def withRelations (t : SlotTable) (entries : List (String × String)) : SlotTable :=
  { t with relations := entries }

/-- A new name replaces no slot. -/
theorem insert_ofSlots (hname : s.name ∉ slots.map Slot.name) (entries : List (String × String)) :
    ((ofSlots slots).withRelations entries).insert s =
      (ofSlots (slots ++ [s])).withRelations entries := by
  have hkept : slots.filter (·.name ≠ s.name) = slots := by
    refine List.filter_eq_self.mpr fun t ht => decide_eq_true ?_
    intro h
    exact hname (h ▸ List.mem_map_of_mem ht)
  rw [withRelations, withRelations, searchableSlotNames_ofSlots_concat, insert, ofSlots_slots,
    hkept]
  simp only [ofSlots, List.map_append, List.map_singleton]

/-- A new relation of a new link replaces no pair. -/
theorem relate_ofSlots {r n : String} (hname : n ∉ slots.map Slot.name)
    (hrelation : r ∉ slots.filterMap Slot.relation?) :
    (ofSlots slots).relate r n = (ofSlots slots).withRelations (relationsOf slots ++ [(r, n)]) := by
  have hkept : (relationsOf slots).filter (fun e => e.1 ≠ r ∧ e.2 ≠ n) = relationsOf slots := by
    refine List.filter_eq_self.mpr fun ⟨r', n'⟩ he => decide_eq_true ?_
    obtain ⟨s, hs, hr, rfl⟩ := mem_relationsOf_iff.mp he
    refine ⟨?_, ?_⟩
    · rintro rfl
      exact hrelation (List.mem_filterMap.mpr ⟨s, hs, hr⟩)
    · rintro rfl
      exact hname (List.mem_map_of_mem hs)
  rw [relate, withRelations]
  exact congrArg (fun kept => (ofSlots slots).withRelations (kept ++ [(r, n)])) hkept

/-- Adds a slot and, when it is a link, its relation. -/
def add (t : SlotTable) (s : Slot) : SlotTable :=
  match s.relation? with
  | some r => (t.relate r s.name).insert s
  | none => t.insert s

/-- One slot more, with a new name and a new relation, is in every index as it is in the slots. -/
theorem add_ofSlots (hname : s.name ∉ slots.map Slot.name)
    (hrelation : ∀ r, s.relation? = some r → r ∉ slots.filterMap Slot.relation?) :
    (ofSlots slots).add s = ofSlots (slots ++ [s]) := by
  have hmore : relationsOf (slots ++ [s]) = relationsOf slots ++ relationsOf [s] :=
    List.filterMap_append
  cases hr : s.relation? with
  | none =>
    have hs : relationsOf [s] = [] := by simp [relationsOf, hr]
    rw [hs, List.append_nil] at hmore
    rw [add, hr]
    calc (ofSlots slots).insert s
      _ = (ofSlots (slots ++ [s])).withRelations (relationsOf slots) :=
        insert_ofSlots hname (relationsOf slots)
      _ = ofSlots (slots ++ [s]) := by rw [← hmore]; rfl
  | some r =>
    have hs : relationsOf [s] = [(r, s.name)] := by simp [relationsOf, hr]
    rw [hs] at hmore
    rw [add, hr]
    calc ((ofSlots slots).relate r s.name).insert s
      _ = ((ofSlots slots).withRelations (relationsOf slots ++ [(r, s.name)])).insert s := by
        rw [relate_ofSlots hname (hrelation r hr)]
      _ = (ofSlots (slots ++ [s])).withRelations (relationsOf slots ++ [(r, s.name)]) :=
        insert_ofSlots hname _
      _ = ofSlots (slots ++ [s]) := by rw [← hmore]; rfl

end SlotTable

end HyperSchema
