import HyperSchema.Text.NameSet
import Mathlib.Data.Finset.Card
import Mathlib.Data.List.Nodup
import Mathlib.Data.List.Pairwise
import Mathlib.Data.List.Sort

namespace HyperSchema

variable {α : Type*} [BEq α] [LawfulBEq α]

theorem nodup_eraseDups : (l : List α) → l.eraseDups.Nodup
  | [] => by simp
  | a :: as => by
    rw [List.eraseDups_cons, List.nodup_cons, List.mem_eraseDups]
    refine ⟨?_, nodup_eraseDups _⟩
    simp
termination_by l => l.length
decreasing_by
  have := List.length_filter_le (fun b => !b == a) as
  rw [List.length_cons]
  omega

theorem eraseDups_eq_self {l : List α} (h : l.Nodup) : l.eraseDups = l := by
  induction l with
  | nil => rfl
  | cons a as ih =>
    rw [List.nodup_cons] at h
    have hf : as.filter (fun b => !b == a) = as := by
      apply List.filter_eq_self.mpr
      intro b hb
      have hne : b ≠ a := fun hba => h.1 (hba ▸ hb)
      simpa using hne
    rw [List.eraseDups_cons, hf, ih h.2]

theorem eraseDups_append_of_subset {l m : List α} (h : ∀ x ∈ m, x ∈ l) :
    (l ++ m).eraseDups = l.eraseDups := by
  have hm : m.removeAll l = [] := by
    simp only [List.removeAll, List.filter_eq_nil_iff]
    intro x hx
    simpa using h x hx
  rw [List.eraseDups_append, hm, List.eraseDups_nil, List.append_nil]

/-- What is dropped early would have been dropped later. -/
theorem eraseDups_eraseDups_append (l m : List α) :
    (l.eraseDups ++ m).eraseDups = (l ++ m).eraseDups := by
  have hm : m.removeAll l.eraseDups = m.removeAll l := by
    apply List.filter_congr
    intro x _
    simp [List.mem_eraseDups]
  rw [List.eraseDups_append, List.eraseDups_append, eraseDups_eq_self (nodup_eraseDups l), hm]

/-- Lists put together have no repetition when no two of them share a member. -/
theorem nodup_flatMap_iff {β γ : Type*} {l : List β} (hl : l.Nodup) {f : β → List γ}
    (hf : ∀ a ∈ l, (f a).Nodup) :
    (l.flatMap f).Nodup ↔ ∀ a ∈ l, ∀ b ∈ l, ∀ x ∈ f a, x ∈ f b → a = b := by
  have hsymm : Std.Symm (Function.onFun List.Disjoint f) := ⟨fun _ _ h _ ha hb => h hb ha⟩
  rw [List.nodup_flatMap, and_iff_right hf]
  refine ⟨?_, ?_⟩
  · intro h a ha b hb x hxa hxb
    by_contra hne
    exact h.forall ha hb hne hxa hxb
  · intro h
    refine hl.pairwise_of_forall_ne ?_
    intro a ha b hb hne x hxa hxb
    exact hne (h a ha b hb x hxa hxb)

/-- Where keys differ, the member found under a key is the one that has it. -/
theorem find?_eq_some_iff_of_nodup {κ β : Type*} [DecidableEq κ] {key : β → κ} {l : List β}
    (h : (l.map key).Nodup) {k : κ} {b : β} :
    l.find? (key · = k) = some b ↔ b ∈ l ∧ key b = k := by
  refine ⟨fun hb => ⟨List.mem_of_find?_eq_some hb, by simpa using List.find?_some hb⟩, ?_⟩
  rintro ⟨hb, rfl⟩
  obtain ⟨a, ha⟩ : ∃ a, l.find? (key · = key b) = some a := by
    rw [← Option.isSome_iff_exists, List.find?_isSome]
    exact ⟨b, hb, by simp⟩
  have hkey : key a = key b := by simpa using List.find?_some ha
  rw [ha, List.inj_on_of_nodup_map h (List.mem_of_find?_eq_some ha) hb hkey]

theorem lookup_eq_some_iff_of_nodup {β : Type*} {l : List (α × β)} (h : (l.map Prod.fst).Nodup)
    {a : α} {b : β} : l.lookup a = some b ↔ (a, b) ∈ l := by
  rw [List.lookup_eq_some_iff]
  refine ⟨?_, ?_⟩
  · rintro ⟨before, after, rfl, -⟩
    simp
  · intro hab
    obtain ⟨before, after, rfl⟩ := List.append_of_mem hab
    rw [List.map_append, List.nodup_append] at h
    refine ⟨before, after, rfl, fun p hp => ?_⟩
    have hne : p.1 ≠ a := h.2.2 p.1 (List.mem_map_of_mem hp) a (by simp)
    simpa using Ne.symm hne

theorem lookup_cons_ite {κ β : Type*} [DecidableEq κ] (k n : κ) (b : β) (l : List (κ × β)) :
    ((k, b) :: l).lookup n = if n = k then some b else l.lookup n := by
  by_cases h : n = k
  · simp [h]
  · have hne : (n == k) = false := by simpa using h
    rw [List.lookup_cons, hne, if_neg h]

theorem Text.nameSet_concat (xs : List String) (x : String) :
    nameSet (xs ++ [x]) = insertName x (nameSet xs) := by
  refine (ascending_nameSet _).eq_of_mem_iff (ascending_insertName x (ascending_nameSet xs)) ?_
  intro y
  rw [mem_nameSet, mem_insertName, mem_nameSet, List.mem_append, List.mem_singleton, or_comm]

/-- No name is dropped exactly when none stands twice. -/
theorem Text.length_nameSet_iff {xs : List String} :
    (nameSet xs).length = xs.length ↔ xs.Nodup := by
  have hset : (nameSet xs).toFinset = xs.toFinset := by
    ext x
    rw [List.mem_toFinset, List.mem_toFinset, mem_nameSet]
  rw [← List.toFinset_card_of_nodup (nodup_nameSet xs), hset]
  exact Multiset.toFinset_card_eq_card_iff_nodup

end HyperSchema
