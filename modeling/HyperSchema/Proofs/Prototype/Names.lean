import HyperSchema.Prototype.Compile
import HyperSchema.Proofs.Distinct
import HyperSchema.Proofs.Outcome

namespace HyperSchema.Prototype

/-- The slots that names stand for, ascending and distinct. -/
def realNames (p : Prototype) (names : List String) : List String :=
  Text.nameSet (names.filterMap p.realName?)

/-- The prototype once some keys and comparables are collected. -/
def collected (p : Prototype) (keys comparables : List String) : Prototype :=
  { p with
    keySlotNames := p.realNames keys
    comparableSlotNames := p.realNames comparables }

variable {p q : Prototype} {keys comparables : List String}

/-- The names that schemas give, each as the slot that it stands for. -/
theorem mem_realNames_flatMap_iff {given : Schema → List String} {lineage : List Schema}
    {n : String} : n ∈ p.realNames (lineage.flatMap given) ↔
      ∃ s ∈ lineage, ∃ k ∈ given s, p.realName? k = some n := by
  simp only [realNames, Text.mem_nameSet, List.mem_filterMap, List.mem_flatMap]
  refine ⟨?_, ?_⟩
  · rintro ⟨k, ⟨s, hs, hk⟩, hn⟩
    exact ⟨s, hs, k, hk, hn⟩
  · rintro ⟨s, hs, k, hk, hn⟩
    exact ⟨k, ⟨s, hs, hk⟩, hn⟩

theorem realName?_collected (name : String) :
    (p.collected keys comparables).realName? name = p.realName? name := rfl

theorem realNames_concat_of_some {names : List String} {name real : String}
    (h : p.realName? name = some real) :
    p.realNames (names ++ [name]) = Text.insertName real (p.realNames names) := by
  have hlast : [name].filterMap p.realName? = [real] := by simp [h]
  rw [realNames, List.filterMap_append, hlast, Text.nameSet_concat, realNames]

theorem realNames_concat_of_none {names : List String} {name : String}
    (h : p.realName? name = none) : p.realNames (names ++ [name]) = p.realNames names := by
  have hlast : [name].filterMap p.realName? = [] := by simp [h]
  rw [realNames, List.filterMap_append, hlast, List.append_nil, realNames]

theorem addKey_eq_ok_iff {key : String} :
    (p.collected keys comparables).addKey key = .ok q ↔
      p.isKnown key ∧ q = p.collected (keys ++ [key]) comparables := by
  rw [addKey, realName?_collected, isKnown]
  cases h : p.realName? key with
  | none => simp
  | some real =>
    rw [collected, collected, realNames_concat_of_some h]
    simp only [Except.ok.injEq, Option.isSome_some, true_and]
    exact eq_comm

theorem addComparable_collected (comparable : String) :
    (p.collected keys comparables).addComparable comparable =
      p.collected keys (comparables ++ [comparable]) := by
  rw [addComparable, realName?_collected]
  cases h : p.realName? comparable with
  | none => rw [collected, collected, realNames_concat_of_none h]
  | some real => rw [collected, collected, realNames_concat_of_some h]

theorem foldlM_addKey_eq_ok_iff {more : List String} :
    more.foldlM addKey (p.collected keys comparables) = .ok q ↔
      (∀ k ∈ more, p.isKnown k) ∧ q = p.collected (keys ++ more) comparables :=
  foldlM_eq_ok_iff (p.collected · comparables) (fun _ _ _ => addKey_eq_ok_iff) keys more

theorem foldl_addComparable_collected (more : List String) :
    more.foldl addComparable (p.collected keys comparables) =
      p.collected keys (comparables ++ more) := by
  induction more generalizing comparables with
  | nil => rw [List.foldl_nil, List.append_nil]
  | cons n more ih =>
    rw [List.foldl_cons, addComparable_collected, ih, List.append_assoc, List.singleton_append]

theorem addNames_eq_ok_iff {s : Schema} :
    (p.collected keys comparables).addNames s = .ok q ↔
      (∀ k ∈ s.keySlotNames, p.isKnown k) ∧
        q = p.collected (keys ++ s.keySlotNames) (comparables ++ s.comparableSlotNames) := by
  simp only [addNames, bind_eq_ok_iff, foldlM_addKey_eq_ok_iff]
  refine ⟨?_, ?_⟩
  · rintro ⟨_, ⟨hknown, rfl⟩, h⟩
    cases h
    exact ⟨hknown, foldl_addComparable_collected s.comparableSlotNames⟩
  · rintro ⟨hknown, rfl⟩
    exact ⟨_, ⟨hknown, rfl⟩, congrArg Except.ok (foldl_addComparable_collected _)⟩

/-- All schemas give their names, and none a key that is not known. -/
theorem withNames_collected_eq_ok_iff {lineage : List Schema} :
    (p.collected [] []).withNames lineage = .ok q ↔
      (∀ s ∈ lineage, ∀ k ∈ s.keySlotNames, p.isKnown k) ∧
        q = p.collected (lineage.flatMap (·.keySlotNames))
          (lineage.flatMap (·.comparableSlotNames)) := by
  have hstep (done : List Schema) (s : Schema) (b : Prototype) :
      (p.collected (done.flatMap (·.keySlotNames))
        (done.flatMap (·.comparableSlotNames))).addNames s = .ok b ↔
        (∀ k ∈ s.keySlotNames, p.isKnown k) ∧
          b = p.collected ((done ++ [s]).flatMap (·.keySlotNames))
            ((done ++ [s]).flatMap (·.comparableSlotNames)) := by
    rw [addNames_eq_ok_iff]
    simp only [List.flatMap_append, List.flatMap_singleton]
  exact foldlM_eq_ok_iff (fun done => p.collected (done.flatMap (·.keySlotNames))
    (done.flatMap (·.comparableSlotNames))) hstep [] lineage

end HyperSchema.Prototype
