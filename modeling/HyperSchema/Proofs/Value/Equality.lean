import HyperSchema.Proofs.Json.Equality
import HyperSchema.Proofs.Value.Numbers

namespace HyperSchema.Value
open Decimal

/-- At one place of the two values stand two different integers that are one double. -/
inductive MergedInside : Value → Value → Prop where
  | here {a b : Value} (h : Merged a b) : MergedInside a b
  | item {items others : List Value} {a b : Value} (hmem : (a, b) ∈ items.zip others)
      (h : MergedInside a b) : MergedInside (.list items) (.list others)

/-- What has a double is a number. -/
def isNumber (v : Value) : Bool := v.asDouble?.isSome

theorem isNumber_of_place? {a : Value} {x : Int} (h : a.place? = some x) : a.isNumber = true := by
  unfold place? at h
  unfold isNumber
  cases ha : a.asDouble? with
  | none =>
    rw [ha] at h
    cases h
  | some => rfl

/-- A number is equal to what it compares equal with, whatever that is. -/
theorem beq_iff_of_isNumber {a b : Value} (h : a.isNumber = true ∨ b.isNumber = true) :
    beq a b = true ↔ a.compareNumeric? b = some .eq := by
  have hbeq : beq a b = (a.compareNumeric? b == some .eq) := by
    cases a <;> cases b <;> first | rfl | exact h.elim nofun nofun
  rw [hbeq, beq_iff_eq]

theorem isNumber_of_beq {a b : Value} (h : beq a b = true)
    (hnumber : a.isNumber = true ∨ b.isNumber = true) :
    a.isNumber = true ∧ b.isNumber = true := by
  have hcompare := (beq_iff_of_isNumber hnumber).mp h
  obtain ⟨⟨x, ha, hb⟩, -⟩ := compareNumeric?_eq_eq_iff.mp hcompare
  exact ⟨isNumber_of_place? ha, isNumber_of_place? hb⟩

theorem not_mergedInside {a b : Value} (hint : a.asInt? = none) (hlist : a.asList? = none) :
    ¬MergedInside a b := by
  intro h
  cases h with
  | here h => exact not_merged_of_asInt?_eq_none (.inl hint) h
  | item => cases hlist

theorem mergedInside_iff_of_isNumber {a b : Value} (h : a.isNumber = true) :
    MergedInside a b ↔ Merged a b := by
  constructor
  · intro hinside
    cases hinside with
    | here hmerged => exact hmerged
    | item => cases h
  · exact .here

theorem mergedInside_list_iff {items others : List Value} :
    MergedInside (.list items) (.list others) ↔
      ∃ pair ∈ items.zip others, MergedInside pair.1 pair.2 := by
  constructor
  · intro h
    cases h with
    | here h => exact absurd h (not_merged_of_asInt?_eq_none (.inl rfl))
    | item hmem h => exact ⟨_, hmem, h⟩
  · rintro ⟨pair, hmem, h⟩
    exact .item hmem h

/-- Values that have no parts and are compared by nothing but what they are. -/
def isPlain : Value → Bool
  | boolean _ | text _ | date _ | link _ | choice _ => true
  | _ => false

theorem eq_of_beq_of_isPlain {a b : Value} (hplain : a.isPlain = true) (h : beq a b = true) :
    a = b := by
  cases a with
  | boolean | text | date | link | choice =>
    cases b <;> first
      | exact congrArg _ (eq_of_beq h)
      | cases h
  | _ => cases hplain

theorem not_mergedInside_of_isPlain {a b : Value} (hplain : a.isPlain = true) :
    ¬MergedInside a b := by
  cases a with
  | boolean | text | date | link | choice => exact not_mergedInside rfl rfl
  | _ => cases hplain

mutual

theorem beq_symm (a b : Value) (h : beq a b = true) : beq b a = true := by
  by_cases hnumber : a.isNumber = true
  · have hcompare := (beq_iff_of_isNumber (.inl hnumber)).mp h
    have hswap := compareNumeric?_swap a b
    rw [hcompare] at hswap
    exact (beq_iff_of_isNumber (.inr hnumber)).mpr hswap
  by_cases hplain : a.isPlain = true
  · have heq := eq_of_beq_of_isPlain hplain h
    rw [← heq] at h ⊢
    exact h
  cases a with
  | list items => cases b with
    | list others => exact beqItems_symm items others h
    | _ => cases h
  | model i _ => cases b with
    | model j _ => exact BEq.symm (a := i) h
    | _ => cases h
  | native x => cases b with
    | native y => exact Json.beq_symm x y h
    | _ => cases h
  | integer | long | double => exact absurd rfl hnumber
  | boolean | text | date | link | choice => exact absurd rfl hplain

theorem beqItems_symm (as bs : List Value) (h : beqItems as bs = true) :
    beqItems bs as = true := by
  cases as with
  | nil => cases bs with
    | nil => rfl
    | cons => cases h
  | cons a as => cases bs with
    | nil => cases h
    | cons b bs =>
      have hboth := Bool.and_eq_true_iff.mp h
      exact Bool.and_eq_true_iff.mpr ⟨beq_symm a b hboth.1, beqItems_symm as bs hboth.2⟩

end

mutual

/-- Equality passes through a value in the middle except where that joins two integers. -/
theorem beq_trans_iff (a b c : Value) (hab : beq a b = true) (hbc : beq b c = true) :
    beq a c = true ↔ ¬MergedInside a c := by
  by_cases hnumber : a.isNumber = true
  · obtain ⟨-, hb⟩ := isNumber_of_beq hab (.inl hnumber)
    rw [beq_iff_of_isNumber (.inl hnumber)] at hab ⊢
    rw [beq_iff_of_isNumber (.inl hb)] at hbc
    rw [compareNumeric?_eq_trans_iff hab hbc, mergedInside_iff_of_isNumber hnumber]
  by_cases hplain : a.isPlain = true
  · have heq := eq_of_beq_of_isPlain hplain hab
    rw [← heq] at hbc
    exact iff_of_true hbc (not_mergedInside_of_isPlain hplain)
  cases a with
  | list items => cases b with
    | list others => cases c with
      | list last =>
        rw [mergedInside_list_iff]
        push Not
        exact beqItems_trans_iff items others last hab hbc
      | _ => cases hbc
    | _ => cases hab
  | model i _ => cases b with
    | model j _ => cases c with
      | model k _ =>
        have heq : i = j := eq_of_beq hab
        have heq' : j = k := eq_of_beq hbc
        exact iff_of_true (beq_iff_eq.mpr (heq.trans heq')) (not_mergedInside rfl rfl)
      | _ => cases hbc
    | _ => cases hab
  | native x => cases b with
    | native y => cases c with
      | native z => exact iff_of_true (Json.beq_trans x y z hab hbc) (not_mergedInside rfl rfl)
      | _ => cases hbc
    | _ => cases hab
  | integer | long | double => exact absurd rfl hnumber
  | boolean | text | date | link | choice => exact absurd rfl hplain
termination_by structural a

theorem beqItems_trans_iff (as bs cs : List Value) (hab : beqItems as bs = true)
    (hbc : beqItems bs cs = true) :
    beqItems as cs = true ↔ ∀ pair ∈ as.zip cs, ¬MergedInside pair.1 pair.2 := by
  cases as with
  | nil => cases bs with
    | nil => exact iff_of_true hbc nofun
    | cons => cases hab
  | cons a as => cases bs with
    | nil => cases hab
    | cons b bs => cases cs with
      | nil => cases hbc
      | cons c cs =>
        have hab := Bool.and_eq_true_iff.mp hab
        have hbc := Bool.and_eq_true_iff.mp hbc
        have hhead := beq_trans_iff a b c hab.1 hbc.1
        have htail := beqItems_trans_iff as bs cs hab.2 hbc.2
        rw [List.zip_cons_cons, List.forall_mem_cons, beqItems, Bool.and_eq_true_iff, hhead, htail]
termination_by structural as

end

/-- What holds of the equality and the order of values of any kinds. Equality fails to pass through
a value, and order through an equal one, exactly where two integers are told apart that are one
double, and a double stands for both. -/
theorem equality_laws (a b c : Value) :
    (a == b → b == a) ∧
    (a == b → b == c → (a == c ↔ ¬MergedInside a c)) ∧
    b.compareNumeric? a = (a.compareNumeric? b).map Ordering.swap ∧
    (a.compareNumeric? b = some .lt → b.compareNumeric? c = some .lt →
      a.compareNumeric? c = some .lt) ∧
    (a.compareNumeric? b = some .lt → b.compareNumeric? c = some .eq →
      (a.compareNumeric? c = some .lt ↔ ¬(Merged a b ∧ c.asInt? = none))) ∧
    (a.compareNumeric? b = some .eq → b.compareNumeric? c = some .lt →
      (a.compareNumeric? c = some .lt ↔ ¬(Merged b c ∧ a.asInt? = none))) ∧
    (a.compareNumeric? b = some .eq → b.compareNumeric? c = some .eq →
      (a.compareNumeric? c = some .eq ↔ ¬Merged a c)) :=
  ⟨beq_symm a b, beq_trans_iff a b c, compareNumeric?_swap a b, compareNumeric?_lt_trans,
    compareNumeric?_lt_eq_trans_iff, compareNumeric?_eq_lt_trans_iff, compareNumeric?_eq_trans_iff⟩

/-- The number three in three kinds, each in a list, and a double between two integers. -/
theorem equality_laws_mixed :
    let long := Value.list [.text "a", .long 3]
    let double := Value.list [.text "a", .double (.finite false 3 0)]
    let integer := Value.list [.text "a", .integer 3]
    (long == double ∧ double == integer ∧ double == long ∧ long == integer) ∧
      (Value.integer 3).compareNumeric? (.double (.finite false 7 (-1))) = some .lt ∧
      (Value.double (.finite false 7 (-1))).compareNumeric? (.long 4) = some .lt ∧
      (Value.integer 3).compareNumeric? (.long 4) = some .lt := by
  intro long double integer
  have hab : long == double := by decide +kernel
  have hbc : double == integer := by decide +kernel
  have hlow : (Value.integer 3).compareNumeric? (.double (.finite false 7 (-1))) = some .lt := by
    decide +kernel
  have hhigh : (Value.double (.finite false 7 (-1))).compareNumeric? (.long 4) = some .lt := by
    decide +kernel
  have hapart : ¬MergedInside long integer := by
    rw [mergedInside_list_iff]
    rintro ⟨pair, hmem, h⟩
    have hpair : pair = (.text "a", .text "a") ∨ pair = (.long 3, .integer 3) := by
      simpa only [List.zip_cons_cons, List.zip_nil_left, List.mem_cons, List.not_mem_nil,
        or_false] using hmem
    obtain rfl | rfl := hpair
    · exact not_mergedInside rfl rfl h
    · have hmerged := (mergedInside_iff_of_isNumber rfl).mp h
      exact not_merged_of_natAbs_le (m := 3) (n := 3) rfl rfl (by decide) (by decide) hmerged
  have hlaws := equality_laws long double integer
  have horder := equality_laws (.integer 3) (.double (.finite false 7 (-1))) (.long 4)
  exact ⟨⟨hab, hbc, hlaws.1 hab, (hlaws.2.1 hab hbc).mpr hapart⟩, hlow, hhigh,
    horder.2.2.2.1 hlow hhigh⟩

/-- The double `2 ^ 53` is equal to two integers. -/
theorem double_merges_integers :
    (Value.long 9007199254740993 == .double (.finite false (2 ^ 52) 1)) = true ∧
    (Value.double (.finite false (2 ^ 52) 1) == .long 9007199254740992) = true ∧
    (Value.long 9007199254740993 == .long 9007199254740992) = false := by
  decide +kernel

end HyperSchema.Value
