import HyperSchema.Proofs.Decimal.Order
import HyperSchema.Proofs.Decimal.Rounding
import HyperSchema.Value

/-!
The order of numbers of mixed kinds. Every number has a place among the doubles, and no comparison
contradicts the order of these places. Two different integers may share one, though, and are then
told apart only by a direct comparison.
-/

namespace HyperSchema.Value
open Decimal

/-- Where a number stands among the doubles. -/
def place? (v : Value) : Option Int := v.asDouble?.bind Binary64.units?

/-- Two different integers that are one double. -/
def Merged (a b : Value) : Prop :=
  ∃ m n, a.asInt? = some m ∧ b.asInt? = some n ∧ m ≠ n ∧
    (Binary64.ofInt m).compare? (Binary64.ofInt n) = some .eq

variable {a b c : Value} {m n : Int}

theorem natAbs_lt_of_asInt? (h : a.asInt? = some n) : n.natAbs < 2 ^ 64 := by
  cases a with
  | integer k =>
    have hlo := Int32.le_toInt k
    have hhi := Int32.toInt_lt k
    cases h
    omega
  | long k =>
    have hlo := Int64.le_toInt k
    have hhi := Int64.toInt_lt k
    cases h
    omega
  | _ => cases h

theorem place?_of_asInt? (h : a.asInt? = some n) : a.place? = some (Binary64.nearest n) := by
  have hdouble : a.asDouble? = some (Binary64.ofInt n) := by
    cases a with
    | integer | long => cases h; rfl
    | _ => cases h
  rw [place?, hdouble]
  exact Binary64.units?_ofInt (natAbs_lt_of_asInt? h)

theorem merged_iff (ha : a.asInt? = some m) (hb : b.asInt? = some n) :
    Merged a b ↔ m ≠ n ∧ Binary64.nearest m = Binary64.nearest n := by
  have hcompare : (Binary64.ofInt m).compare? (Binary64.ofInt n) = some .eq ↔
      Binary64.nearest m = Binary64.nearest n := by
    rw [Binary64.compare?_ofInt (natAbs_lt_of_asInt? ha) (natAbs_lt_of_asInt? hb),
      Option.some.injEq, Int.compare_eq_eq]
  constructor
  · rintro ⟨m', n', hm', hn', hne, heq⟩
    cases ha.symm.trans hm'
    cases hb.symm.trans hn'
    exact ⟨hne, hcompare.mp heq⟩
  · rintro ⟨hne, heq⟩
    exact ⟨m, n, ha, hb, hne, hcompare.mpr heq⟩

theorem Merged.symm (h : Merged a b) : Merged b a := by
  obtain ⟨m, n, ha, hb, -⟩ := id h
  rw [merged_iff ha hb] at h
  exact (merged_iff hb ha).mpr ⟨h.1.symm, h.2.symm⟩

theorem not_merged_of_asInt?_eq_none (h : a.asInt? = none ∨ b.asInt? = none) : ¬Merged a b := by
  rintro ⟨m, n, hm, hn, -⟩
  rw [hm, hn] at h
  exact h.elim nofun nofun

theorem compareNumeric?_of_asInt? (ha : a.asInt? = some m) (hb : b.asInt? = some n) :
    a.compareNumeric? b = some (compare m n) := by
  rw [compareNumeric?, ha, hb]

theorem compareNumeric?_eq_compare? (h : a.asInt? = none ∨ b.asInt? = none) :
    a.compareNumeric? b =
      a.asDouble?.bind fun x => b.asDouble?.bind fun y => x.compare? y := by
  unfold compareNumeric?
  cases ha : a.asInt? with
  | none => cases a.asDouble? <;> cases b.asDouble? <;> rfl
  | some m =>
    cases hb : b.asInt? with
    | none => cases a.asDouble? <;> cases b.asDouble? <;> rfl
    | some n =>
      rw [ha, hb] at h
      exact h.elim nofun nofun

theorem compareNumeric?_of_asInt?_eq_none (h : a.asInt? = none ∨ b.asInt? = none) {o : Ordering} :
    a.compareNumeric? b = some o ↔
      ∃ x y, a.place? = some x ∧ b.place? = some y ∧ compare x y = o := by
  rw [compareNumeric?_eq_compare? h, place?, place?]
  cases a.asDouble? <;> cases b.asDouble? <;> simp [Binary64.compare?_eq_some_iff]

theorem asInt?_cases (a b : Value) :
    (a.asInt? = none ∨ b.asInt? = none) ∨ ∃ m n, a.asInt? = some m ∧ b.asInt? = some n := by
  cases a.asInt? with
  | none => exact .inl (.inl rfl)
  | some m =>
    cases b.asInt? with
    | none => exact .inl (.inr rfl)
    | some n => exact .inr ⟨m, n, rfl, rfl⟩

/-- One number is below another when its place is, or when the two are integers that share a place
and are in this order. -/
theorem compareNumeric?_eq_lt_iff : a.compareNumeric? b = some .lt ↔
    (∃ x y, a.place? = some x ∧ b.place? = some y ∧ x < y) ∨
      ∃ m n, a.asInt? = some m ∧ b.asInt? = some n ∧ m < n ∧
        Binary64.nearest m = Binary64.nearest n := by
  obtain hnone | ⟨m, n, ha, hb⟩ := asInt?_cases a b
  · rw [compareNumeric?_of_asInt?_eq_none hnone]
    simp only [Int.compare_eq_lt]
    constructor
    · exact .inl
    · rintro (hplaces | ⟨m, n, ha, hb, -⟩)
      · exact hplaces
      · rw [ha, hb] at hnone
        exact hnone.elim nofun nofun
  · rw [compareNumeric?_of_asInt? ha hb, place?_of_asInt? ha, place?_of_asInt? hb, ha, hb,
      Option.some.injEq, Int.compare_eq_lt]
    constructor
    · intro hlt
      have hle := Binary64.nearest_mono (le_of_lt hlt)
      by_cases heq : Binary64.nearest m = Binary64.nearest n
      · exact .inr ⟨m, n, rfl, rfl, hlt, heq⟩
      · exact .inl ⟨_, _, rfl, rfl, by omega⟩
    · rintro (⟨x, y, hx, hy, hlt⟩ | ⟨m', n', hm, hn, hlt, -⟩)
      · cases hx
        cases hy
        by_contra hle
        have hmono := Binary64.nearest_mono (not_lt.mp hle)
        omega
      · cases hm
        cases hn
        exact hlt

/-- Numbers are equal when they share a place and are not two integers that merely do so. -/
theorem compareNumeric?_eq_eq_iff : a.compareNumeric? b = some .eq ↔
    (∃ x, a.place? = some x ∧ b.place? = some x) ∧ ¬Merged a b := by
  obtain hnone | ⟨m, n, ha, hb⟩ := asInt?_cases a b
  · rw [compareNumeric?_of_asInt?_eq_none hnone]
    simp only [Int.compare_eq_eq]
    constructor
    · rintro ⟨x, y, hx, hy, rfl⟩
      exact ⟨⟨x, hx, hy⟩, not_merged_of_asInt?_eq_none hnone⟩
    · rintro ⟨⟨x, hx, hy⟩, -⟩
      exact ⟨x, x, hx, hy, rfl⟩
  · rw [compareNumeric?_of_asInt? ha hb, place?_of_asInt? ha, place?_of_asInt? hb,
      merged_iff ha hb, Option.some.injEq, Int.compare_eq_eq]
    constructor
    · rintro rfl
      exact ⟨⟨_, rfl, rfl⟩, fun hmerged => hmerged.1 rfl⟩
    · rintro ⟨⟨x, hx, hy⟩, hmerged⟩
      by_contra hne
      exact hmerged ⟨hne, Option.some.inj (hx.trans hy.symm)⟩

/-- The other way round, numbers stand in the reverse order, and what has none has none. -/
theorem compareNumeric?_swap (a b : Value) :
    b.compareNumeric? a = (a.compareNumeric? b).map Ordering.swap := by
  obtain hnone | ⟨m, n, ha, hb⟩ := asInt?_cases a b
  · rw [compareNumeric?_eq_compare? hnone, compareNumeric?_eq_compare? hnone.symm]
    cases a.asDouble? <;> cases b.asDouble? <;> try rfl
    exact Binary64.compare?_swap _ _
  · rw [compareNumeric?_of_asInt? ha hb, compareNumeric?_of_asInt? hb ha, Option.map_some,
      Int.compare_swap]

theorem compareNumeric?_lt_trans (hab : a.compareNumeric? b = some .lt)
    (hbc : b.compareNumeric? c = some .lt) : a.compareNumeric? c = some .lt := by
  rw [compareNumeric?_eq_lt_iff] at hab hbc ⊢
  obtain ⟨x, y, hx, hy, hxy⟩ | ⟨m, n, hm, hn, hmn, hshared⟩ := hab
  · obtain ⟨y', z, hy', hz, hyz⟩ | ⟨n, k, hn, hk, -, hshared⟩ := hbc
    · cases hy.symm.trans hy'
      exact .inl ⟨x, z, hx, hz, hxy.trans hyz⟩
    · cases hy.symm.trans (place?_of_asInt? hn)
      exact .inl ⟨x, _, hx, place?_of_asInt? hk, hshared ▸ hxy⟩
  · obtain ⟨y, z, hy, hz, hyz⟩ | ⟨n', k, hn', hk, hnk, hshared'⟩ := hbc
    · cases hy.symm.trans (place?_of_asInt? hn)
      exact .inl ⟨_, z, place?_of_asInt? hm, hz, hshared ▸ hyz⟩
    · cases hn.symm.trans hn'
      exact .inr ⟨m, k, hm, hk, hmn.trans hnk, hshared.trans hshared'⟩

theorem place_lt_of_lt (h : a.compareNumeric? b = some .lt) (hmerged : ¬Merged a b) :
    ∃ x y, a.place? = some x ∧ b.place? = some y ∧ x < y := by
  obtain hplaces | ⟨m, n, hm, hn, hlt, hshared⟩ := compareNumeric?_eq_lt_iff.mp h
  · exact hplaces
  · exact absurd ((merged_iff hm hn).mpr ⟨by omega, hshared⟩) hmerged

theorem compareNumeric?_lt_eq_trans (hab : a.compareNumeric? b = some .lt)
    (hbc : b.compareNumeric? c = some .eq) (hmerged : ¬Merged a b) :
    a.compareNumeric? c = some .lt := by
  obtain ⟨x, y, hx, hy, hlt⟩ := place_lt_of_lt hab hmerged
  obtain ⟨⟨y', hy', hz⟩, -⟩ := compareNumeric?_eq_eq_iff.mp hbc
  cases hy.symm.trans hy'
  exact compareNumeric?_eq_lt_iff.mpr (.inl ⟨x, y, hx, hz, hlt⟩)

theorem compareNumeric?_eq_lt_trans (hab : a.compareNumeric? b = some .eq)
    (hbc : b.compareNumeric? c = some .lt) (hmerged : ¬Merged b c) :
    a.compareNumeric? c = some .lt := by
  obtain ⟨y, z, hy, hz, hlt⟩ := place_lt_of_lt hbc hmerged
  obtain ⟨⟨y', hx, hy'⟩, -⟩ := compareNumeric?_eq_eq_iff.mp hab
  cases hy.symm.trans hy'
  exact compareNumeric?_eq_lt_iff.mpr (.inl ⟨y, z, hx, hz, hlt⟩)

/-- A double that is equal to one of two integers with one place is equal to the other. -/
theorem compareNumeric?_eq_of_merged (h : Merged a b) (hbc : b.compareNumeric? c = some .eq)
    (hc : c.asInt? = none) : a.compareNumeric? c = some .eq := by
  obtain ⟨m, n, ha, hb, -⟩ := id h
  obtain ⟨⟨x, hx, hz⟩, -⟩ := compareNumeric?_eq_eq_iff.mp hbc
  rw [place?_of_asInt? hb, ← ((merged_iff ha hb).mp h).2, ← place?_of_asInt? ha] at hx
  exact compareNumeric?_eq_eq_iff.mpr ⟨⟨x, hx, hz⟩, not_merged_of_asInt?_eq_none (.inr hc)⟩

theorem compareNumeric?_lt_eq_trans_iff (hab : a.compareNumeric? b = some .lt)
    (hbc : b.compareNumeric? c = some .eq) :
    a.compareNumeric? c = some .lt ↔ ¬(Merged a b ∧ c.asInt? = none) := by
  by_cases hmerged : Merged a b
  · obtain ⟨m, n, hm, hn, -⟩ := id hmerged
    cases hc : c.asInt? with
    | none =>
      rw [compareNumeric?_eq_of_merged hmerged hbc hc]
      exact iff_of_false nofun (not_not.mpr ⟨hmerged, rfl⟩)
    | some k =>
      rw [compareNumeric?_of_asInt? hm hn, Option.some.injEq, Int.compare_eq_lt] at hab
      rw [compareNumeric?_of_asInt? hn hc, Option.some.injEq, Int.compare_eq_eq] at hbc
      rw [compareNumeric?_of_asInt? hm hc, Option.some.injEq, Int.compare_eq_lt, ← hbc]
      exact iff_of_true hab fun h => nomatch h.2
  · exact iff_of_true (compareNumeric?_lt_eq_trans hab hbc hmerged) fun h => hmerged h.1

theorem compareNumeric?_eq_lt_trans_iff (hab : a.compareNumeric? b = some .eq)
    (hbc : b.compareNumeric? c = some .lt) :
    a.compareNumeric? c = some .lt ↔ ¬(Merged b c ∧ a.asInt? = none) := by
  by_cases hmerged : Merged b c
  · obtain ⟨n, k, hn, hk, -⟩ := id hmerged
    cases ha : a.asInt? with
    | none =>
      have hba : b.compareNumeric? a = some .eq := by rw [compareNumeric?_swap, hab]; rfl
      rw [compareNumeric?_swap, compareNumeric?_eq_of_merged hmerged.symm hba ha]
      exact iff_of_false nofun (not_not.mpr ⟨hmerged, rfl⟩)
    | some m =>
      rw [compareNumeric?_of_asInt? ha hn, Option.some.injEq, Int.compare_eq_eq] at hab
      rw [compareNumeric?_of_asInt? hn hk, Option.some.injEq, Int.compare_eq_lt] at hbc
      rw [compareNumeric?_of_asInt? ha hk, Option.some.injEq, Int.compare_eq_lt, hab]
      exact iff_of_true hbc fun h => nomatch h.2
  · exact iff_of_true (compareNumeric?_eq_lt_trans hab hbc hmerged) fun h => hmerged h.1

theorem compareNumeric?_eq_trans_iff (hab : a.compareNumeric? b = some .eq)
    (hbc : b.compareNumeric? c = some .eq) : a.compareNumeric? c = some .eq ↔ ¬Merged a c := by
  obtain ⟨⟨x, hx, hy⟩, -⟩ := compareNumeric?_eq_eq_iff.mp hab
  obtain ⟨⟨y, hy', hz⟩, -⟩ := compareNumeric?_eq_eq_iff.mp hbc
  cases hy.symm.trans hy'
  rw [compareNumeric?_eq_eq_iff]
  exact and_iff_right ⟨x, hx, hz⟩

/-- Integers up to `2 ^ 53` keep their own places. -/
theorem not_merged_of_natAbs_le (ha : a.asInt? = some m) (hb : b.asInt? = some n)
    (hm : m.natAbs ≤ 2 ^ 53) (hn : n.natAbs ≤ 2 ^ 53) : ¬Merged a b := by
  rw [merged_iff ha hb]
  rintro ⟨hne, hshared⟩
  exact hne (Binary64.nearest_injOn hm hn hshared)

end HyperSchema.Value
