import HyperSchema.Calendar.Reader
import HyperSchema.Proofs.Decimal.Digits

namespace HyperSchema.Calendar
open Decimal

variable {cs rest : List Char} {n width : Nat}

theorem isDigit_eq (c : Char) : Decimal.isDigit c = c.isDigit := by
  rw [Bool.eq_iff_iff, Decimal.isDigit, Option.isSome_iff_exists]
  simp only [digit?_eq_some_iff, exists_and_left, exists_eq', and_true]

theorem toList_padTo (width n : Nat) : (padTo width n).toList =
    List.replicate (width - (Nat.toDigits 10 n).length) '0' ++ Nat.toDigits 10 n := by
  change (String.ofList (List.replicate (width - n.repr.length) '0') ++ n.repr).toList = _
  rw [String.toList_append, String.toList_ofList, ← String.length_toList, Nat.toList_repr]

theorem isDigit_of_mem_padTo {c : Char} (h : c ∈ (padTo width n).toList) : c.isDigit = true := by
  rw [toList_padTo] at h
  obtain hzero | hdigit := List.mem_append.mp h
  · rw [List.eq_of_mem_replicate hzero]
    decide
  · exact Nat.isDigit_of_mem_toDigits (by decide) (by decide) hdigit

theorem length_padTo (hwidth : 0 < width) (h : n < 10 ^ width) :
    (padTo width n).toList.length = width := by
  have hlength := (Nat.length_toDigits_le_iff (b := 10) (by decide) hwidth).mpr h
  rw [toList_padTo, List.length_append, List.length_replicate]
  omega

theorem natOfDigits?_padTo (width n : Nat) : natOfDigits? (padTo width n).toList = some n := by
  rw [natOfDigits?_eq_some_iff]
  refine ⟨fun c => isDigit_of_mem_padTo, ?_⟩
  rw [toList_padTo, Nat.ofDigitChars_append, Nat.ofDigitChars_replicate_zero, Nat.mul_zero,
    Nat.ofDigitChars_ten_toDigits]

theorem fixedNumber?_padTo (hwidth : 0 < width) (h : n < 10 ^ width) (rest : List Char) :
    fixedNumber? width ((padTo width n).toList ++ rest) = some (n, rest) := by
  have hlength := length_padTo hwidth h
  rw [fixedNumber?, List.take_left' hlength, List.drop_left' hlength, if_pos hlength,
    natOfDigits?_padTo, Option.map_some]

theorem fixedNumber?_eq_none {c : Char} (hc : ¬c.isDigit = true) (hwidth : 0 < width) :
    fixedNumber? width (c :: cs) = none := by
  have hdigits : natOfDigits? ((c :: cs).take width) = none := by
    rw [Option.eq_none_iff_forall_ne_some]
    intro n hn
    apply hc
    apply (natOfDigits?_eq_some_iff.mp hn).1
    rw [List.take_cons hwidth]
    exact List.mem_cons_self
  rw [fixedNumber?, hdigits, Option.map_none, ite_self]

/-- The digits are followed by what is no digit. -/
theorem fraction?_padTo {places nano : Nat} (hpos : 0 < places) (hnine : places ≤ 9)
    (h : n < 10 ^ places) (hnano : n * tenTo (9 - places) = nano) (rest : List Char) :
    fraction? (("." ++ padTo places n).toList ++ 'Z' :: rest) = some (nano, 'Z' :: rest) := by
  have hlength := length_padTo hpos h
  have hdigits : ∀ c ∈ (padTo places n).toList, Decimal.isDigit c = true := fun c hc => by
    rw [isDigit_eq, isDigit_of_mem_padTo hc]
  have hend : ¬Decimal.isDigit 'Z' = true := by decide
  have hne : (padTo places n).toList.isEmpty = false := by
    rw [List.isEmpty_eq_false_iff, ← List.length_pos_iff, hlength]
    exact hpos
  have htake : (padTo places n).toList.take 9 = (padTo places n).toList :=
    List.take_of_length_le (hlength.trans_le hnine)
  have hpoint : ".".toList = ['.'] := rfl
  rw [String.toList_append, hpoint, List.append_assoc, List.singleton_append, fraction?,
    List.takeWhile_append_of_pos hdigits, List.dropWhile_append_of_pos hdigits,
    List.takeWhile_cons_of_neg hend, List.dropWhile_cons_of_neg hend, List.append_nil]
  simp only [hne, Bool.false_eq_true, if_false, htake, natOfDigits?_padTo, hlength, ← hnano]
  rfl

theorem fraction?_fractionText (h : n < 1000000000) (rest : List Char) :
    fraction? ((fractionText n).toList ++ 'Z' :: rest) = some (n, 'Z' :: rest) := by
  unfold fractionText
  split
  next hzero =>
    rw [hzero]
    rfl
  next =>
    split
    next hmillis =>
      have hscale : n / 1000000 * tenTo (9 - 3) = n :=
        Nat.div_mul_cancel (Nat.dvd_of_mod_eq_zero hmillis)
      exact fraction?_padTo (by decide) (by decide) (by omega) hscale rest
    next =>
      split
      next hmicros =>
        have hscale : n / 1000 * tenTo (9 - 6) = n :=
          Nat.div_mul_cancel (Nat.dvd_of_mod_eq_zero hmicros)
        exact fraction?_padTo (by decide) (by decide) (by omega) hscale rest
      next =>
        have hscale : n * tenTo (9 - 9) = n := Nat.mul_one n
        exact fraction?_padTo (by decide) (by decide) (by omega) hscale rest

/-- No more than nine digits of a fraction count. -/
theorem fraction?_lt {nano : Nat} (h : fraction? cs = some (nano, rest)) : nano < 1000000000 := by
  unfold fraction? at h
  split at h
  next cs =>
    obtain ⟨nine, hnine⟩ : ∃ nine, (cs.takeWhile Decimal.isDigit).take 9 = nine := ⟨_, rfl⟩
    simp only [hnine] at h
    split at h
    next => cases h
    next =>
      obtain ⟨digits, hdigits, heq⟩ := Option.bind_eq_some_iff.mp h
      cases heq
      obtain ⟨hall, rfl⟩ := natOfDigits?_eq_some_iff.mp hdigits
      have hlength : nine.length ≤ 9 := hnine ▸ List.length_take_le 9 _
      have hlt := ofDigitChars_lt hall 0
      rw [zero_add, one_mul] at hlt
      calc Nat.ofDigitChars 10 nine 0 * tenTo (9 - nine.length)
          < 10 ^ nine.length * 10 ^ (9 - nine.length) :=
              Nat.mul_lt_mul_of_pos_right hlt (Nat.pow_pos (by decide))
        _ = 10 ^ 9 := by rw [← pow_add, Nat.add_sub_cancel' hlength]
  next =>
    cases h
    decide

/-- An offset is one of whole minutes. -/
theorem offset?_minutes {offset : Int} (h : offset? cs = some (offset, rest)) :
    ∃ minutes, offset = 60 * minutes := by
  unfold offset? at h
  split at h
  next => cases h
  next c cs =>
    split at h
    next =>
      cases h
      exact ⟨0, rfl⟩
    next =>
      split at h
      next =>
        simp only [Option.bind_eq_bind, Option.bind_eq_some_iff, Prod.exists] at h
        obtain ⟨hours, _, -, _, -, minutes, _, -, hoffset⟩ := h
        split at hoffset
        next =>
          cases hoffset
          unfold offset?.signed Binary64.signed
          split
          next => exact ⟨-(hours * 60 + minutes), by omega⟩
          next => exact ⟨hours * 60 + minutes, by omega⟩
        next => cases hoffset
      next => cases h

section Left
variable {c : Char}

theorem mem_dropWhile {p : Char → Bool} (hp : p c = false) (hc : c ∈ cs) : c ∈ cs.dropWhile p := by
  rw [← List.takeWhile_append_dropWhile (p := p) (l := cs), List.mem_append] at hc
  obtain htaken | hleft := hc
  · have htrue := List.all_eq_true.mp List.all_takeWhile c htaken
    rw [hp] at htrue
    cases htrue
  · exact hleft

theorem mem_of_expect? {p : Char → Bool} (h : expect? p cs = some rest) (hp : p c = false)
    (hc : c ∈ cs) : c ∈ rest := by
  cases cs with
  | nil => cases h
  | cons d cs =>
    obtain ⟨hd, heq⟩ := Option.ite_none_right_eq_some.mp h
    cases heq
    obtain rfl | hrest := List.mem_cons.mp hc
    · rw [hp] at hd
      cases hd
    · exact hrest

theorem mem_of_shortNumber? (h : shortNumber? width cs = some (n, rest))
    (hdigit : ¬c.isDigit = true) (hc : c ∈ cs) : c ∈ rest := by
  obtain ⟨digits, hdigits⟩ : ∃ digits, (cs.take width).takeWhile Decimal.isDigit = digits :=
    ⟨_, rfl⟩
  have hsplit : digits ++ cs.drop digits.length = cs := by
    rw [← List.prefix_iff_eq_append, ← hdigits]
    exact (List.takeWhile_prefix _).trans (List.take_prefix _ _)
  obtain ⟨-, h⟩ := Option.ite_none_left_eq_some.mp h
  obtain ⟨n, -, heq⟩ := Option.map_eq_some_iff.mp h
  cases heq
  rw [hdigits]
  rw [← hsplit, List.mem_append] at hc
  obtain htaken | hleft := hc
  · rw [← hdigits] at htaken
    have htrue := List.all_eq_true.mp List.all_takeWhile c htaken
    rw [isDigit_eq] at htrue
    exact absurd htrue hdigit
  · exact hleft

theorem mem_of_year? {year : Int} (h : year? cs = some (year, rest)) (hdigit : ¬c.isDigit = true)
    (hsign : c ≠ '-' ∧ c ≠ '+') (hc : c ∈ cs) : c ∈ rest := by
  unfold year? at h
  split at h
  next =>
    obtain ⟨⟨n, rest⟩, hn, heq⟩ := Option.map_eq_some_iff.mp h
    cases heq
    exact mem_of_shortNumber? hn hdigit (List.mem_of_ne_of_mem hsign.1 hc)
  next =>
    obtain ⟨⟨n, rest⟩, hn, heq⟩ := Option.map_eq_some_iff.mp h
    cases heq
    exact mem_of_shortNumber? hn hdigit (List.mem_of_ne_of_mem hsign.2 hc)
  next =>
    obtain ⟨⟨n, rest⟩, hn, heq⟩ := Option.map_eq_some_iff.mp h
    cases heq
    exact mem_of_shortNumber? hn hdigit hc

end Left

end HyperSchema.Calendar
