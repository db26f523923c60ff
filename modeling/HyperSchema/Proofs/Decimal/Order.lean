import HyperSchema.Decimal.Binary64
import Mathlib.Order.Basic

namespace HyperSchema.Decimal.Binary64

variable {x y z : Binary64}

theorem compare?_eq_some_iff {o : Ordering} : x.compare? y = some o ↔
    ∃ p q, x.units? = some p ∧ y.units? = some q ∧ compare p q = o := by
  unfold compare?
  cases x.units? <;> cases y.units? <;> simp

theorem compare?_swap (x y : Binary64) : y.compare? x = (x.compare? y).map Ordering.swap := by
  unfold compare?
  cases x.units? with
  | none => cases y.units? <;> rfl
  | some p =>
    cases y.units? with
    | none => rfl
    | some q => rw [Option.map_some, Int.compare_swap]

theorem compare?_eq_trans (hxy : x.compare? y = some .eq) (hyz : y.compare? z = some .eq) :
    x.compare? z = some .eq := by
  obtain ⟨p, q, hp, hq, hpq⟩ := compare?_eq_some_iff.mp hxy
  obtain ⟨q', r, hq', hr, hqr⟩ := compare?_eq_some_iff.mp hyz
  cases hq.symm.trans hq'
  have hpr : p = r := (Int.compare_eq_eq.mp hpq).trans (Int.compare_eq_eq.mp hqr)
  exact compare?_eq_some_iff.mpr ⟨p, r, hp, hr, Int.compare_eq_eq.mpr hpr⟩

end HyperSchema.Decimal.Binary64
