import HyperSchema.Decimal.Binary64
import Mathlib.Tactic.Ring

namespace HyperSchema.Decimal

/-- `n / 2 ^ k` to the nearest count, a half to the even one. -/
def roundShift (n k : Nat) : Nat :=
  if 2 ^ k < 2 * (n % 2 ^ k) ∨ 2 * (n % 2 ^ k) = 2 ^ k ∧ n / 2 ^ k % 2 = 1 then n / 2 ^ k + 1
  else n / 2 ^ k

theorem roundShift_zero (n : Nat) : roundShift n 0 = n := by
  simp [roundShift, Nat.mod_one]

theorem le_roundShift (n k : Nat) : n / 2 ^ k ≤ roundShift n k := by
  unfold roundShift
  split <;> omega

theorem roundShift_le (n k : Nat) : roundShift n k ≤ n / 2 ^ k + 1 := by
  unfold roundShift
  split <;> omega

theorem roundShift_mono {m n : Nat} (h : m ≤ n) (k : Nat) : roundShift m k ≤ roundShift n k := by
  have hquotient : m / 2 ^ k ≤ n / 2 ^ k := Nat.div_le_div_right h
  by_cases heq : m / 2 ^ k = n / 2 ^ k
  · -- the larger one leaves more, so it is rounded up if the other is
    have hrest : m % 2 ^ k ≤ n % 2 ^ k := by
      have hm := Nat.div_add_mod m (2 ^ k)
      have hn := Nat.div_add_mod n (2 ^ k)
      rw [heq] at hm
      omega
    unfold roundShift
    rw [heq]
    split <;> split <;> omega
  · have hm := roundShift_le m k
    have hn := le_roundShift n k
    omega

/-- The nearest number with at most 53 bits between its first and its last one. -/
def rounded (n : Nat) : Nat := roundShift n (n.log2 - 52) * 2 ^ (n.log2 - 52)

theorem rounded_of_lt {n : Nat} (h : n < 2 ^ 53) : rounded n = n := by
  have hlog : n.log2 - 52 = 0 := by
    by_cases h0 : n = 0
    · rw [h0, Nat.log2_zero]
    · have hlt := (Nat.log2_lt h0).mpr h
      omega
  rw [rounded, hlog, roundShift_zero, Nat.pow_zero, Nat.mul_one]

theorem rounded_of_le {n : Nat} (h : n ≤ 2 ^ 53) : rounded n = n := by
  by_cases hlt : n < 2 ^ 53
  · exact rounded_of_lt hlt
  · have heq : n = 2 ^ 53 := by omega
    rw [heq]
    decide +kernel

/-- Rounding does not leave the powers of two around a number. -/
theorem two_pow_le_rounded {n : Nat} (h : n ≠ 0) : 2 ^ n.log2 ≤ rounded n := by
  have hpow : 2 ^ n.log2 = 2 ^ (n.log2 - (n.log2 - 52)) * 2 ^ (n.log2 - 52) := by
    rw [← Nat.pow_add]
    congr 1
    omega
  have hquotient : 2 ^ (n.log2 - (n.log2 - 52)) ≤ n / 2 ^ (n.log2 - 52) := by
    rw [Nat.le_div_iff_mul_le (Nat.two_pow_pos _), ← hpow]
    exact Nat.log2_self_le h
  rw [hpow]
  exact Nat.mul_le_mul_right _ (hquotient.trans (le_roundShift n _))

theorem rounded_le_two_pow (n : Nat) : rounded n ≤ 2 ^ (n.log2 + 1) := by
  have hpow : 2 ^ (n.log2 + 1) = 2 ^ (n.log2 + 1 - (n.log2 - 52)) * 2 ^ (n.log2 - 52) := by
    rw [← Nat.pow_add]
    congr 1
    omega
  have hquotient : n / 2 ^ (n.log2 - 52) < 2 ^ (n.log2 + 1 - (n.log2 - 52)) := by
    rw [Nat.div_lt_iff_lt_mul (Nat.two_pow_pos _), ← hpow]
    exact Nat.lt_log2_self
  rw [hpow]
  exact Nat.mul_le_mul_right _ ((roundShift_le n _).trans hquotient)

theorem rounded_mono {m n : Nat} (h : m ≤ n) : rounded m ≤ rounded n := by
  by_cases hm : m = 0
  · rw [hm, rounded_of_lt (by omega)]
    exact Nat.zero_le _
  have hn : n ≠ 0 := by omega
  have hlog : m.log2 ≤ n.log2 := (Nat.le_log2 hn).mpr ((Nat.log2_self_le hm).trans h)
  by_cases heq : m.log2 = n.log2
  · rw [rounded, rounded, heq]
    exact Nat.mul_le_mul_right _ (roundShift_mono h _)
  · -- a power of two stands between the two, which neither passes
    calc rounded m ≤ 2 ^ (m.log2 + 1) := rounded_le_two_pow m
      _ ≤ 2 ^ n.log2 := Nat.pow_le_pow_right (by omega) (by omega)
      _ ≤ rounded n := two_pow_le_rounded hn

namespace Binary64

/-- A carry into the next power of two changes how a double is written, not which it is. -/
theorem units?_carry (negative : Bool) (q : Nat) {e : Int} (he : -1074 ≤ e) :
    (if q = 2 ^ 53 then Binary64.finite negative (2 ^ 52) (e + 1)
      else .finite negative q e).units? = some (signed negative (q * 2 ^ (e + 1074).toNat)) := by
  split
  next hq =>
    have hexp : (e + 1 + 1074).toNat = (e + 1074).toNat + 1 := by omega
    rw [units?, hexp, hq]
    change some (signed negative (2 ^ 52 * 2 ^ ((e + 1074).toNat + 1))) = _
    rw [Nat.pow_succ]
    congr 2
    ring
  next => rfl

/-- The significand that a number is written with before a carry. -/
def significand (n : Nat) : Nat := roundShift (n * 2 ^ (52 - n.log2)) (n.log2 - 52)

theorem significand_eq (n : Nat) {k l : Nat} (hk : 52 - n.log2 = k) (hl : n.log2 - 52 = l) :
    (if (decide (twoTo l < 2 * (n * twoTo k % twoTo l)) ||
        2 * (n * twoTo k % twoTo l) == twoTo l && n * twoTo k / twoTo l % 2 == 1) = true
      then n * twoTo k / twoTo l + 1 else n * twoTo k / twoTo l) = significand n := by
  rw [significand, hk, hl]
  simp only [Bool.or_eq_true, Bool.and_eq_true, decide_eq_true_eq, beq_iff_eq]
  rfl

theorem ofRatio_one (negative : Bool) {n : Nat} (h0 : n ≠ 0) (h : n < 2 ^ 64) :
    ofRatio negative n 1 = if significand n = 2 ^ 53
      then .finite negative (2 ^ 52) ((n.log2 : Int) - 52 + 1)
      else .finite negative (significand n) ((n.log2 : Int) - 52) := by
  have hlog : n.log2 < 64 := (Nat.log2_lt h0).mpr h
  have hpow : 2 ^ n.log2 ≤ n := Nat.log2_self_le h0
  have hgap : (n.log2 : Int) - Nat.log2 1 = n.log2 := by
    have hone : Nat.log2 1 = 0 := by decide
    omega
  have hbelow : ¬n * twoTo (-(n.log2 : Int)).toNat < twoTo (n.log2 : Int).toNat := by
    have hneg : (-(n.log2 : Int)).toNat = 0 := by omega
    rw [hneg, Int.toNat_natCast]
    change ¬n * 2 ^ 0 < 2 ^ n.log2
    omega
  have he : max (-1074) ((n.log2 : Int) - 52 - 0) = (n.log2 : Int) - 52 := by omega
  have hup : (-((n.log2 : Int) - 52)).toNat = 52 - n.log2 := by omega
  have hdown : ((n.log2 : Int) - 52).toNat = n.log2 - 52 := by omega
  unfold ofRatio
  rw [if_neg h0]
  simp only [hgap, if_neg hbelow, he, hup, hdown, Nat.one_mul, significand_eq n rfl rfl]
  by_cases hq : significand n = 2 ^ 53
  · have hcarry : significand n = twoTo 53 := hq
    have hsmall : ¬971 < (n.log2 : Int) - 52 + 1 := by omega
    rw [if_pos hq, if_pos hcarry]
    exact if_neg hsmall
  · have hcarry : ¬significand n = twoTo 53 := hq
    have hsmall : ¬971 < (n.log2 : Int) - 52 := by omega
    rw [if_neg hq, if_neg hcarry]
    exact if_neg hsmall

theorem significand_mul (n : Nat) :
    significand n * 2 ^ ((n.log2 : Int) - 52 + 1074).toNat = rounded n * 2 ^ 1074 := by
  rw [significand, rounded, Nat.mul_assoc, ← Nat.pow_add]
  by_cases hlog : n.log2 ≤ 52
  · -- nothing is rounded off, and the bits that are missing are filled up with zeros
    have hdown : n.log2 - 52 = 0 := by omega
    have hpow : 52 - n.log2 + ((n.log2 : Int) - 52 + 1074).toNat = 0 + 1074 := by omega
    rw [hdown, roundShift_zero, roundShift_zero, Nat.mul_assoc, ← Nat.pow_add, hpow]
  · have hup : 52 - n.log2 = 0 := by omega
    have hpow : ((n.log2 : Int) - 52 + 1074).toNat = n.log2 - 52 + 1074 := by omega
    rw [hup, hpow, Nat.pow_zero, Nat.mul_one]

/-- The integer rounded to 53 bits, in the units of the doubles. -/
def nearest (n : Int) : Int := signed (n < 0) (rounded n.natAbs * 2 ^ 1074)

theorem units?_ofInt {n : Int} (h : n.natAbs < 2 ^ 64) :
    (ofInt n).units? = some (nearest n) := by
  rw [nearest]
  by_cases h0 : n.natAbs = 0
  · rw [ofInt, ofRatio, if_pos h0, h0, rounded_of_lt (by omega)]
    simp only [Nat.zero_mul]
    rfl
  · have he : -1074 ≤ (n.natAbs.log2 : Int) - 52 := by omega
    rw [ofInt, ofRatio_one _ h0 h, units?_carry _ _ he, significand_mul]

theorem compare?_ofInt {m n : Int} (hm : m.natAbs < 2 ^ 64) (hn : n.natAbs < 2 ^ 64) :
    (ofInt m).compare? (ofInt n) = some (compare (nearest m) (nearest n)) := by
  rw [compare?, units?_ofInt hm, units?_ofInt hn]

theorem nearest_mono {m n : Int} (h : m ≤ n) : nearest m ≤ nearest n := by
  unfold nearest signed
  generalize 2 ^ 1074 = u
  by_cases hn : n < 0
  · have hm : m < 0 := by omega
    have habs : rounded n.natAbs * u ≤ rounded m.natAbs * u :=
      Nat.mul_le_mul_right u (rounded_mono (by omega))
    rw [decide_eq_true hn, decide_eq_true hm, if_pos rfl, if_pos rfl]
    omega
  · by_cases hm : m < 0
    · rw [decide_eq_false hn, decide_eq_true hm, if_pos rfl, if_neg (by decide)]
      omega
    · have habs : rounded m.natAbs * u ≤ rounded n.natAbs * u :=
        Nat.mul_le_mul_right u (rounded_mono (by omega))
      rw [decide_eq_false hn, decide_eq_false hm, if_neg (by decide), if_neg (by decide)]
      omega

theorem nearest_of_le {n : Int} (h : n.natAbs ≤ 2 ^ 53) : nearest n = n * 2 ^ 1074 := by
  unfold nearest signed
  rw [rounded_of_le h]
  by_cases hn : n < 0
  · have habs : (n.natAbs : Int) = -n := by omega
    rw [decide_eq_true hn, if_pos rfl, Nat.cast_mul, habs, Nat.cast_pow, Nat.cast_ofNat,
      Int.neg_mul, Int.neg_neg]
  · have habs : (n.natAbs : Int) = n := by omega
    rw [decide_eq_false hn, if_neg (by decide), Nat.cast_mul, habs, Nat.cast_pow, Nat.cast_ofNat]

/-- Integers of at most 53 bits are doubles themselves, and so is the next power of two. -/
theorem nearest_injOn {m n : Int} (hm : m.natAbs ≤ 2 ^ 53) (hn : n.natAbs ≤ 2 ^ 53)
    (h : nearest m = nearest n) : m = n := by
  rw [nearest_of_le hm, nearest_of_le hn] at h
  exact Int.eq_of_mul_eq_mul_right (pow_ne_zero 1074 (by decide)) h

end Binary64

end HyperSchema.Decimal
