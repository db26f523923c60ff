import HyperSchema.Json.Basic
import HyperSchema.Proofs.Decimal.Order

namespace HyperSchema.Json
open Decimal

mutual

theorem beq_symm (a b : Json) (h : beq a b = true) : beq b a = true := by
  cases a with
  | null => cases b with
    | null => rfl
    | _ => cases h
  | bool x => cases b with
    | bool y => exact BEq.symm (a := x) h
    | _ => cases h
  | integer m => cases b with
    | integer n => exact BEq.symm (a := m) h
    | _ => cases h
  | real x => cases b with
    | real y =>
      have heq : x.compare? y = some .eq := eq_of_beq h
      have hswap := Binary64.compare?_swap x y
      rw [heq] at hswap
      exact beq_iff_eq.mpr hswap
    | _ => cases h
  | string s => cases b with
    | string t => exact BEq.symm (a := s) h
    | _ => cases h
  | array items => cases b with
    | array others => exact beqItems_symm items others h
    | _ => cases h
  | object members => cases b with
    | object others => exact beqMembers_symm members others h
    | _ => cases h
  | unreadable => cases h

theorem beqItems_symm (as bs : List Json) (h : beqItems as bs = true) : beqItems bs as = true := by
  cases as with
  | nil => cases bs with
    | nil => rfl
    | cons => cases h
  | cons a as => cases bs with
    | nil => cases h
    | cons b bs =>
      have hboth := Bool.and_eq_true_iff.mp h
      exact Bool.and_eq_true_iff.mpr ⟨beq_symm a b hboth.1, beqItems_symm as bs hboth.2⟩

theorem beqMembers_symm (as bs : List (String × Json)) (h : beqMembers as bs = true) :
    beqMembers bs as = true := by
  cases as with
  | nil => cases bs with
    | nil => rfl
    | cons => cases h
  | cons a as =>
    obtain ⟨k, a⟩ := a
    cases bs with
    | nil => cases h
    | cons b bs =>
      obtain ⟨l, b⟩ := b
      have hboth := Bool.and_eq_true_iff.mp h
      have hhead := Bool.and_eq_true_iff.mp hboth.1
      exact Bool.and_eq_true_iff.mpr ⟨Bool.and_eq_true_iff.mpr
        ⟨BEq.symm hhead.1, beq_symm a b hhead.2⟩, beqMembers_symm as bs hboth.2⟩

end

mutual

theorem beq_trans (a b c : Json) (hab : beq a b = true) (hbc : beq b c = true) :
    beq a c = true := by
  cases a with
  | null => cases b with
    | null => exact hbc
    | _ => cases hab
  | bool x => cases b with
    | bool y =>
      have heq : x = y := eq_of_beq hab
      rw [heq]
      exact hbc
    | _ => cases hab
  | integer m => cases b with
    | integer n =>
      have heq : m = n := eq_of_beq hab
      rw [heq]
      exact hbc
    | _ => cases hab
  | real x => cases b with
    | real y => cases c with
      | real z =>
        have hxy : x.compare? y = some .eq := eq_of_beq hab
        have hyz : y.compare? z = some .eq := eq_of_beq hbc
        exact beq_iff_eq.mpr (Binary64.compare?_eq_trans hxy hyz)
      | _ => cases hbc
    | _ => cases hab
  | string s => cases b with
    | string t =>
      have heq : s = t := eq_of_beq hab
      rw [heq]
      exact hbc
    | _ => cases hab
  | array items => cases b with
    | array others => cases c with
      | array last => exact beqItems_trans items others last hab hbc
      | _ => cases hbc
    | _ => cases hab
  | object members => cases b with
    | object others => cases c with
      | object last => exact beqMembers_trans members others last hab hbc
      | _ => cases hbc
    | _ => cases hab
  | unreadable => cases hab
termination_by structural a

theorem beqItems_trans (as bs cs : List Json) (hab : beqItems as bs = true)
    (hbc : beqItems bs cs = true) : beqItems as cs = true := by
  cases as with
  | nil => cases bs with
    | nil => exact hbc
    | cons => cases hab
  | cons a as => cases bs with
    | nil => cases hab
    | cons b bs => cases cs with
      | nil => cases hbc
      | cons c cs =>
        have hab := Bool.and_eq_true_iff.mp hab
        have hbc := Bool.and_eq_true_iff.mp hbc
        exact Bool.and_eq_true_iff.mpr
          ⟨beq_trans a b c hab.1 hbc.1, beqItems_trans as bs cs hab.2 hbc.2⟩
termination_by structural as

theorem beqMembers_trans (as bs cs : List (String × Json)) (hab : beqMembers as bs = true)
    (hbc : beqMembers bs cs = true) : beqMembers as cs = true := by
  cases as with
  | nil => cases bs with
    | nil => exact hbc
    | cons => cases hab
  | cons a as =>
    obtain ⟨j, a⟩ := a
    cases bs with
    | nil => cases hab
    | cons b bs =>
      obtain ⟨k, b⟩ := b
      cases cs with
      | nil => cases hbc
      | cons c cs =>
        obtain ⟨l, c⟩ := c
        have hab := Bool.and_eq_true_iff.mp hab
        have hbc := Bool.and_eq_true_iff.mp hbc
        have hheads := Bool.and_eq_true_iff.mp hab.1
        have hheads' := Bool.and_eq_true_iff.mp hbc.1
        have hkey : (j == l) = true := BEq.trans hheads.1 hheads'.1
        exact Bool.and_eq_true_iff.mpr ⟨Bool.and_eq_true_iff.mpr
          ⟨hkey, beq_trans a b c hheads.2 hheads'.2⟩, beqMembers_trans as bs cs hab.2 hbc.2⟩
termination_by structural as

end

end HyperSchema.Json
