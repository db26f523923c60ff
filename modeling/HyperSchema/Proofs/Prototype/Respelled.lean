import HyperSchema.Proofs.Prototype.Checks

namespace HyperSchema

/-- The schema with other names for its keys and comparables. -/
def Schema.respell (f : String → String) (s : Schema) : Schema :=
  { s with
    keySlotNames := Text.nameSet (s.keySlotNames.map f)
    comparableSlotNames := s.comparableSlotNames.map f }

/-- All schemas with other names, which each schema may choose for itself. -/
def Store.respell (f : SchemaId → String → String) (store : Store) : Store where
  schemas := store.schemas.map fun s => s.respell (f s.id)
  distinct := by
    rw [List.map_map]
    exact store.distinct

variable {f : SchemaId → String → String} {store : Store} {id : SchemaId}

theorem Store.find?_respell {s : Schema} (h : store.find? id = some s) :
    (store.respell f).find? id = some (s.respell (f id)) := by
  have hid := (Store.mem_of_find? h).2
  unfold find? at h
  rw [find?, respell, List.find?_map]
  have hsame : ((fun t : Schema => decide (t.id = id)) ∘ fun t : Schema => t.respell (f t.id)) =
    fun t => decide (t.id = id) := rfl
  rw [hsame, h, Option.map_some, hid]

namespace Lineage

/-- Names of keys do not show in a walk. -/
theorem Walk.respell {ids w : List SchemaId} (h : Walk store ids w) :
    Walk (store.respell f) ids w := by
  induction h with
  | nil => exact .nil
  | cons kept _ _ down across => exact .cons (Store.find?_respell kept) down across

theorem IsLineage.respell {lineage : List Schema} (h : IsLineage store id lineage) :
    IsLineage (store.respell f) id (lineage.map fun s => s.respell (f s.id)) := by
  obtain ⟨w, hw, heq⟩ := h.order
  refine ⟨?_, w, hw.respell, ?_⟩
  · intro t ht
    obtain ⟨s, hs, rfl⟩ := List.mem_map.mp ht
    exact Store.find?_respell (h.kept s hs)
  · rw [← heq, ids, List.map_map]
    rfl

end Lineage

namespace Prototype
open Lineage

variable {c : Conventions} {p : Prototype} {lineage : List Schema}

/-- Names for the same slots give the same slots, in whichever order. -/
theorem realNames_congr {names names' : List String}
    (h : ∀ n, (∃ k ∈ names, p.realName? k = some n) ↔ ∃ k ∈ names', p.realName? k = some n) :
    p.realNames names = p.realNames names' := by
  unfold realNames
  refine (Text.ascending_nameSet _).eq_of_mem_iff (Text.ascending_nameSet _) ?_
  intro n
  rw [Text.mem_nameSet, Text.mem_nameSet, List.mem_filterMap,
    List.mem_filterMap, h]

theorem mem_keySlotNames_respell {g : String → String} {s : Schema} {k : String} :
    k ∈ (s.respell g).keySlotNames ↔ ∃ l ∈ s.keySlotNames, g l = k := by
  rw [Schema.respell, Text.mem_nameSet, List.mem_map]

theorem mem_comparableSlotNames_respell {g : String → String} {s : Schema} {k : String} :
    k ∈ (s.respell g).comparableSlotNames ↔ ∃ l ∈ s.comparableSlotNames, g l = k := by
  rw [Schema.respell, List.mem_map]

theorem realNames_respell {given : Schema → List String}
    (hgiven : ∀ s g k, k ∈ given (Schema.respell g s) ↔ ∃ l ∈ given s, g l = k)
    (hf : ∀ i k, p.realName? (f i k) = p.realName? k) (lineage : List Schema) :
    p.realNames ((lineage.map fun s => s.respell (f s.id)).flatMap given) =
      p.realNames (lineage.flatMap given) := by
  apply realNames_congr
  intro n
  simp only [List.flatMap_map, List.mem_flatMap]
  refine ⟨?_, ?_⟩
  · rintro ⟨k, ⟨s, hs, hk⟩, hn⟩
    obtain ⟨l, hl, rfl⟩ := (hgiven s _ k).mp hk
    rw [hf] at hn
    exact ⟨l, ⟨s, hs, hl⟩, hn⟩
  · rintro ⟨l, ⟨s, hs, hl⟩, hn⟩
    have hk : f s.id l ∈ given (s.respell (f s.id)) := (hgiven s _ _).mpr ⟨l, hl, rfl⟩
    rw [← hf s.id] at hn
    exact ⟨f s.id l, ⟨s, hs, hk⟩, hn⟩

/-- The prototype is the same when names give way to names for the same slots. -/
theorem compile_respell (h : (compile c store id).outcome = .ok p)
    (hf : ∀ i k, p.realName? (f i k) = p.realName? k) :
    (compile c (store.respell f) id).outcome = .ok p := by
  obtain ⟨s, bases, hid, hl, h⟩ := compile_eq_ok_iff.mp h
  obtain ⟨table, aliases, htable, haliases, hlinks, h⟩ := assemble_eq_ok_iff.mp h
  obtain ⟨hkeys, rfl⟩ := withNames_eq_ok_iff.mp h
  -- keys and comparables have no part in what names stand for
  have hreal : ∀ i k, (skeleton s bases table aliases).realName? (f i k) =
    (skeleton s bases table aliases).realName? k := hf
  have hlineage : s.respell (f s.id) :: bases.map (fun t => t.respell (f t.id)) =
    (s :: bases).map fun t => t.respell (f t.id) := rfl
  have hskeleton : skeleton (s.respell (f s.id)) (bases.map fun t => t.respell (f t.id)) table
      aliases = skeleton s bases table aliases := by
    simp only [skeleton, List.map_map]
    rfl
  refine compile_eq_ok_iff.mpr ⟨s.respell (f s.id), bases.map fun t => t.respell (f t.id), hid,
    hl.respell, assemble_eq_ok_iff.mpr ⟨table, aliases, ?table, haliases, hlinks, ?names⟩⟩
  case table =>
    rw [hlineage, List.foldlM_map]
    exact htable
  case names =>
    rw [hskeleton, hlineage, withNames_eq_ok_iff]
    refine ⟨?_, ?_⟩
    · intro t ht k hk
      obtain ⟨u, hu, rfl⟩ := List.mem_map.mp ht
      obtain ⟨l, hl, rfl⟩ := mem_keySlotNames_respell.mp hk
      have hknown := hkeys u hu l hl
      rw [isKnown] at hknown ⊢
      rwa [hreal]
    · rw [collected, collected,
        realNames_respell (fun s g k => mem_keySlotNames_respell) hreal (s :: bases),
        realNames_respell (fun s g k => mem_comparableSlotNames_respell) hreal (s :: bases)]

end Prototype

end HyperSchema
