import HyperSchema.Decimal.Binary64
import Mathlib.Data.Nat.Digits.Defs

namespace HyperSchema.Decimal

variable {lo hi : Int} {c : Char} {cs : List Char}

theorem isDigit_iff : c.isDigit = true ↔ '0'.toNat ≤ c.toNat ∧ c.toNat ≤ '9'.toNat := by
  simp only [Char.isDigit, Bool.and_eq_true, decide_eq_true_eq, ge_iff_le]
  exact Iff.rfl

theorem digit?_of_isDigit (h : c.isDigit = true) : digit? c = some (c.toNat - '0'.toNat) := by
  have hbounds : '0' ≤ c ∧ c ≤ '9' := isDigit_iff.mp h
  rw [digit?, if_pos hbounds]

theorem digit?_eq_some_iff {d : Nat} :
    digit? c = some d ↔ c.isDigit = true ∧ c.toNat - '0'.toNat = d := by
  by_cases h : c.isDigit = true
  · rw [digit?_of_isDigit h, Option.some.injEq, and_iff_right h]
  · have hbounds : ¬('0' ≤ c ∧ c ≤ '9') := mt isDigit_iff.mpr h
    rw [digit?, if_neg hbounds]
    exact iff_of_false nofun fun hdigit => h hdigit.1

theorem natOfDigits?_eq_some_iff {n : Nat} : natOfDigits? cs = some n ↔
    (∀ c ∈ cs, c.isDigit = true) ∧ Nat.ofDigitChars 10 cs 0 = n := by
  suffices hfold : ∀ m, cs.foldlM (fun n c => (digit? c).map (10 * n + ·)) m = some n ↔
      (∀ c ∈ cs, c.isDigit = true) ∧ Nat.ofDigitChars 10 cs m = n from hfold 0
  induction cs with
  | nil =>
    intro m
    rw [List.foldlM_nil, Option.pure_def, Option.some.injEq]
    exact (and_iff_right nofun).symm
  | cons c cs ih =>
    intro m
    rw [List.foldlM_cons, Option.bind_eq_bind, Option.bind_eq_some_iff, Nat.ofDigitChars_cons,
      List.forall_mem_cons, and_assoc, ← ih]
    simp only [Option.map_eq_some_iff, digit?_eq_some_iff]
    constructor
    · rintro ⟨_, ⟨_, ⟨hc, rfl⟩, rfl⟩, hcs⟩
      exact ⟨hc, hcs⟩
    · rintro ⟨hc, hcs⟩
      exact ⟨_, ⟨_, ⟨hc, rfl⟩, rfl⟩, hcs⟩

theorem ofDigitChars_lt (h : ∀ c ∈ cs, c.isDigit = true) (n : Nat) :
    Nat.ofDigitChars 10 cs n < (n + 1) * 10 ^ cs.length := by
  induction cs generalizing n with
  | nil =>
    rw [List.length_nil, pow_zero, mul_one]
    exact Nat.lt_succ_self n
  | cons c cs ih =>
    obtain ⟨hc, hcs⟩ := List.forall_mem_cons.mp h
    have hdigit : c.toNat ≤ '9'.toNat := (isDigit_iff.mp hc).2
    have hnine : '9'.toNat - '0'.toNat = 9 := by decide
    rw [Nat.ofDigitChars_cons, List.length_cons, pow_succ', ← mul_assoc]
    apply (ih hcs (10 * n + (c.toNat - '0'.toNat))).trans_le
    apply Nat.mul_le_mul_right
    omega

theorem le_ofDigitChars (cs : List Char) (n : Nat) : n ≤ Nat.ofDigitChars 10 cs n := by
  induction cs generalizing n with
  | nil => exact Nat.le_refl n
  | cons c cs ih =>
    rw [Nat.ofDigitChars_cons]
    have htail := ih (10 * n + (c.toNat - '0'.toNat))
    omega

theorem signed_digit (negative : Bool) (n d : Nat) :
    (if negative then 10 * Binary64.signed negative n - d
      else 10 * Binary64.signed negative n + d) = Binary64.signed negative (10 * n + d) := by
  cases negative with
  | true =>
    simp only [Binary64.signed, if_true]
    omega
  | false =>
    simp only [Binary64.signed, Bool.false_eq_true, if_false]
    omega

theorem signed_within (negative : Bool) {m n : Nat} (h : m ≤ n) (hlo : lo ≤ 0) (hhi : 0 ≤ hi)
    (hlow : lo ≤ Binary64.signed negative n) (hhigh : Binary64.signed negative n ≤ hi) :
    lo ≤ Binary64.signed negative m ∧ Binary64.signed negative m ≤ hi := by
  cases negative with
  | true =>
    simp only [Binary64.signed, if_true] at *
    omega
  | false =>
    simp only [Binary64.signed, Bool.false_eq_true, if_false] at *
    omega

/-- Every prefix of the digits lies between zero and the whole, so no limit is met on the way. -/
theorem readDigits_eq_ok (negative : Bool) (hlo : lo ≤ 0) (hhi : 0 ≤ hi)
    (hdigits : ∀ c ∈ cs, c.isDigit = true) (n : Nat)
    (hlow : lo ≤ Binary64.signed negative (Nat.ofDigitChars 10 cs n))
    (hhigh : Binary64.signed negative (Nat.ofDigitChars 10 cs n) ≤ hi) :
    readDigits negative lo hi (Binary64.signed negative n) cs =
      .ok (Binary64.signed negative (Nat.ofDigitChars 10 cs n)) := by
  induction cs generalizing n with
  | nil => rfl
  | cons c cs ih =>
    obtain ⟨hc, hcs⟩ := List.forall_mem_cons.mp hdigits
    rw [Nat.ofDigitChars_cons] at hlow hhigh ⊢
    have hle := le_ofDigitChars cs (10 * n + (c.toNat - '0'.toNat))
    obtain ⟨hlow', hhigh'⟩ := signed_within negative hle hlo hhi hlow hhigh
    simp only [readDigits, digit?_of_isDigit hc, signed_digit]
    rw [if_neg (not_lt.mpr hlow'), if_neg (not_lt.mpr hhigh')]
    exact ih hcs _ hlow hhigh

theorem readInteger_minus (hne : cs ≠ []) :
    readInteger lo hi ('-' :: cs) = readDigits true lo hi 0 cs := by
  cases cs with
  | nil => exact absurd rfl hne
  | cons => rfl

theorem readInteger_of_isDigit (hc : c.isDigit = true) :
    readInteger lo hi (c :: cs) = readDigits false lo hi 0 (c :: cs) := by
  have hplus : c ≠ '+' := by
    rintro rfl
    cases hc
  have hminus : c ≠ '-' := by
    rintro rfl
    cases hc
  unfold readInteger
  split
  next heq => cases heq
  next heq => exact absurd (List.cons.inj heq).1 hplus
  next heq => exact absurd (List.cons.inj heq).1 hminus
  next heq => exact absurd (List.cons.inj heq).1 hplus
  next heq => exact absurd (List.cons.inj heq).1 hminus
  next => rfl

theorem toList_toString (n : Int) : (toString n).toList =
    if n < 0 then '-' :: Nat.toDigits 10 n.natAbs else Nat.toDigits 10 n.natAbs := by
  change n.repr.toList = _
  rw [Int.repr_eq_if]
  by_cases h : n < 0
  · have habs : (-n).toNat = n.natAbs := by omega
    rw [if_pos h, if_neg (by omega), String.toList_append, Nat.toList_repr, habs]
    rfl
  · have habs : n.toNat = n.natAbs := by omega
    rw [if_neg h, if_pos (by omega), Nat.toList_repr, habs]

theorem isDigit_of_mem_toString {n : Int} (h : c ∈ (toString n).toList) :
    c.isDigit = true ∨ c = '-' := by
  rw [toList_toString] at h
  split at h
  next =>
    obtain hminus | hdigit := List.mem_cons.mp h
    · exact .inr hminus
    · exact .inl (Nat.isDigit_of_mem_toDigits (by decide) (by decide) hdigit)
  next => exact .inl (Nat.isDigit_of_mem_toDigits (by decide) (by decide) h)

theorem readInteger_toString {n : Int} (hlo : lo ≤ 0) (hhi : 0 ≤ hi) (hlow : lo ≤ n)
    (hhigh : n ≤ hi) : readInteger lo hi (toString n).toList = .ok n := by
  have hdigits : ∀ c ∈ Nat.toDigits 10 n.natAbs, c.isDigit = true := fun c hc =>
    Nat.isDigit_of_mem_toDigits (by decide) (by decide) hc
  have hread (negative : Bool) (hsigned : Binary64.signed negative n.natAbs = n) :
      readDigits negative lo hi (Binary64.signed negative 0) (Nat.toDigits 10 n.natAbs) =
        .ok n := by
    have hwhole : Binary64.signed negative (Nat.ofDigitChars 10 (Nat.toDigits 10 n.natAbs) 0) =
        n := by
      rw [Nat.ofDigitChars_ten_toDigits, hsigned]
    rw [readDigits_eq_ok negative hlo hhi hdigits 0 (by rwa [hwhole]) (by rwa [hwhole]), hwhole]
  rw [toList_toString]
  by_cases h : n < 0
  · have hsigned : Binary64.signed true n.natAbs = n := by
      simp only [Binary64.signed, if_true]
      omega
    rw [if_pos h, readInteger_minus Nat.toDigits_ne_nil]
    exact hread true hsigned
  · have hsigned : Binary64.signed false n.natAbs = n := by
      simp only [Binary64.signed, Bool.false_eq_true, if_false]
      omega
    have hne : Nat.toDigits 10 n.natAbs ≠ [] := Nat.toDigits_ne_nil
    obtain ⟨c, cs, hcs⟩ := List.exists_cons_of_ne_nil hne
    have hc : c.isDigit = true := hdigits c (hcs ▸ List.mem_cons_self)
    rw [if_neg h, hcs, readInteger_of_isDigit hc, ← hcs]
    exact hread false hsigned

end HyperSchema.Decimal
