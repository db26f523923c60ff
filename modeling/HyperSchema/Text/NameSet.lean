namespace HyperSchema.Text

/-- Adds a name to an ascending list without repetition. -/
def insertName (x : String) : List String → List String
  | [] => [x]
  | y :: ys =>
    if x < y then x :: y :: ys
    else if x = y then y :: ys
    else y :: insertName x ys

/-- The distinct names in ascending order. -/
def nameSet (xs : List String) : List String := xs.foldr insertName []

theorem mem_insertName {x y : String} {s : List String} :
    y ∈ insertName x s ↔ y = x ∨ y ∈ s := by
  induction s with
  | nil => simp [insertName]
  | cons z zs ih => grind [insertName]

theorem mem_nameSet {x : String} {xs : List String} : x ∈ nameSet xs ↔ x ∈ xs := by
  induction xs with
  | nil => simp [nameSet]
  | cons y ys ih =>
    rw [show nameSet (y :: ys) = insertName y (nameSet ys) from rfl, mem_insertName, ih]
    simp

theorem ascending_insertName (x : String) {s : List String} (h : s.Pairwise (· < ·)) :
    (insertName x s).Pairwise (· < ·) := by
  induction s with
  | nil => simp [insertName]
  | cons y ys ih =>
    obtain ⟨hy, hys⟩ := List.pairwise_cons.mp h
    rw [insertName]
    split
    next hxy =>
      refine List.pairwise_cons.mpr ⟨?_, h⟩
      intro z hz
      rcases List.mem_cons.mp hz with rfl | hz
      · exact hxy
      · exact String.lt_trans hxy (hy z hz)
    next hxy =>
      split
      next => exact h
      next hne =>
        have hyx : y < x := by
          rcases Std.lt_trichotomy x y with hlt | heq | hlt
          · exact absurd hlt hxy
          · exact absurd heq hne
          · exact hlt
        refine List.pairwise_cons.mpr ⟨?_, ih hys⟩
        intro z hz
        rcases mem_insertName.mp hz with rfl | hz
        · exact hyx
        · exact hy z hz

theorem ascending_nameSet (xs : List String) : (nameSet xs).Pairwise (· < ·) := by
  induction xs with
  | nil => exact List.Pairwise.nil
  | cons x xs ih => exact ascending_insertName x ih

theorem nodup_nameSet (xs : List String) : (nameSet xs).Nodup := by
  refine (ascending_nameSet xs).imp ?_
  intro a b hab heq
  exact String.lt_irrefl a (heq ▸ hab)

end HyperSchema.Text
