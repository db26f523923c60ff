import HyperSchema.Slot.Basic
import Mathlib.Data.Ordering.Basic

namespace HyperSchema
open Std

theorem SlotKind.rank_injective : Function.Injective SlotKind.rank := by
  intro a b h
  cases a <;> cases b <;> first | rfl | cases h

instance : TransOrd SlotKind := inferInstanceAs (TransCmp (compareOn SlotKind.rank))

instance : LawfulEqOrd SlotKind where
  compare_self := compare_self (a := _)
  eq_of_compare h := SlotKind.rank_injective (LawfulEqOrd.eq_of_compare h)

instance : TransOrd SchemaId := inferInstanceAs (TransCmp (compareOn SchemaId.text))

theorem SchemaId.text_injective : Function.Injective SchemaId.text := by
  rintro ⟨a⟩ ⟨b⟩ h
  exact congrArg SchemaId.mk h

instance : LawfulEqOrd SchemaId where
  eq_of_compare h := SchemaId.text_injective (LawfulEqOrd.eq_of_compare h)

namespace ValueType

/-- The ranks of a type and of what it is a list of, from the outside in. -/
def ranks : ValueType → List Nat
  | list element => 9 :: element.ranks
  | t => [t.rank]

/-- The texts inside of a type. -/
def carried : ValueType → List String
  | choice options => options
  | model schema => [schema.text]
  | list element => element.carried
  | native name => [name]
  | _ => []

/-- Two types are in the order of their ranks, and those of the same ranks in that of the texts. -/
theorem order_eq (a b : ValueType) :
    order a b = compareLex (compareOn ranks) (compareOn carried) a b := by
  induction a generalizing b with
  | list element ih =>
    cases b with
    | list other =>
      rw [order, ih]
      simp [compareLex, compareOn, ranks, carried, List.compare_cons_cons]
    | _ => rfl
  | choice options => cases b <;> rfl
  | model schema =>
    cases b with
    | model other =>
      change compare schema.text other.text = _
      simp [compareLex, compareOn, ranks, carried, rank, List.compare_cons_cons]
    | _ => rfl
  | native name =>
    cases b with
    | native other =>
      change compare name other = _
      simp [compareLex, compareOn, ranks, carried, rank, List.compare_cons_cons]
    | _ => rfl
  | _ => cases b <;> rfl

theorem eq_of_ranks_eq {a b : ValueType} (hranks : a.ranks = b.ranks)
    (hcarried : a.carried = b.carried) : a = b := by
  induction a generalizing b with
  | list element ih =>
    cases b with
    | list other => rw [ih (List.cons.inj hranks).2 hcarried]
    | _ => cases hranks
  | choice options =>
    cases b with
    | choice others => rw [show options = others from hcarried]
    | _ => cases hranks
  | model schema =>
    cases b with
    | model other => rw [SchemaId.text_injective (List.cons.inj hcarried).1]
    | _ => cases hranks
  | native name =>
    cases b with
    | native other => rw [(List.cons.inj hcarried).1]
    | _ => cases hranks
  | _ => cases b <;> first | rfl | cases hranks

theorem compare_eq : (compare : ValueType → ValueType → Ordering) =
    compareLex (compareOn ranks) (compareOn carried) :=
  funext fun a => funext (order_eq a)

instance : TransOrd ValueType := by
  rw [TransOrd, compare_eq]
  infer_instance

instance : LawfulEqOrd ValueType where
  compare_self := compare_self (a := _)
  eq_of_compare {a b} h := by
    rw [compare_eq, compareLex, Ordering.then_eq_eq] at h
    exact eq_of_ranks_eq (LawfulEqOrd.eq_of_compare h.1) (LawfulEqOrd.eq_of_compare h.2)

end ValueType

namespace Slot

variable {a b : Slot} {slots l : List Slot}

instance : TransCmp order :=
  inferInstanceAs (TransCmp (compareLex (compareOn kind) (compareLex (compareOn name)
    (compareLex (compareOn valueType) (compareLex (compareOn fun s => s.base.owner)
      (compareOn fun s => s.base.declaring))))))

theorem order_eq_eq_iff : order a b = .eq ↔ a.isSame b = true := by
  simp only [order, Ordering.then_eq_eq, LawfulEqOrd.compare_eq_iff_eq, isSame, Bool.and_eq_true,
    beq_iff_eq, and_assoc]

theorem name_eq_of_isSame (h : a.isSame b = true) : a.name = b.name := by
  simp only [isSame, Bool.and_eq_true, beq_iff_eq, and_assoc] at h
  exact h.2.1

theorem perm_sort (slots : List Slot) : (sort slots).Perm slots := List.mergeSort_perm slots _

theorem pairwise_isLE_sort (slots : List Slot) :
    (sort slots).Pairwise fun a b => (order a b).isLE = true := by
  apply List.pairwise_mergeSort
  · intro a b c
    exact TransCmp.isLE_trans
  · intro a b
    have hswap : order b a = (order a b).swap := OrientedCmp.eq_swap
    rw [hswap]
    cases order a b <;> rfl

/-- No two slots of different names are the same, so each is before the next. -/
theorem pairwise_sort (h : (slots.map name).Nodup) :
    (sort slots).Pairwise fun a b => order a b = .lt := by
  have hnames : ((sort slots).map name).Nodup := ((perm_sort slots).map name).nodup_iff.mpr h
  rw [List.Nodup, List.pairwise_map] at hnames
  refine (pairwise_isLE_sort slots).imp₂ ?_ hnames
  intro a b hle hne
  cases hab : order a b with
  | lt => rfl
  | eq => exact absurd (name_eq_of_isSame (order_eq_eq_iff.mp hab)) hne
  | gt =>
    rw [hab] at hle
    cases hle

/-- There is one way to put slots of different names in order. -/
theorem sort_eq_of_pairwise (h : l.Perm slots) (hnames : (slots.map name).Nodup)
    (hl : l.Pairwise fun a b => order a b = .lt) : sort slots = l := by
  refine ((perm_sort slots).trans h.symm).eq_of_pairwise ?_ (pairwise_sort hnames) hl
  intro a b _ _ hab hba
  have hswap : order a b = (order b a).swap := OrientedCmp.eq_swap
  rw [hab, hba] at hswap
  cases hswap

theorem sort_eq_of_perm (h : l.Perm slots) (hnames : (slots.map name).Nodup) :
    sort l = sort slots := by
  have hnames' : (l.map name).Nodup := (h.map name).nodup_iff.mpr hnames
  exact sort_eq_of_pairwise ((perm_sort slots).trans h.symm) hnames' (pairwise_sort hnames)

end Slot

end HyperSchema
