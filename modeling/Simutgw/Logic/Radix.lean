import Mathlib.Algebra.BigOperators.Group.List.Basic
import Mathlib.Data.List.Lex

/-! Numbers put together from digits of several bases, the one that weighs most first. -/

namespace Simutgw.Logic

/-- Each digit counts as often as all the places behind it can differ. -/
def radix : List Nat → List Nat → Nat
  | _ :: bases, digit :: digits => digit * bases.prod + radix bases digits
  | _, _ => 0

theorem radix_lt {bases digits : List Nat} (within : List.Forall₂ (· < ·) digits bases) :
    radix bases digits < bases.prod := by
  induction within with
  | nil => exact Nat.one_pos
  | @cons digit base digits bases below _ ih =>
    have places := Nat.mul_le_mul_right bases.prod (Nat.succ_le_of_lt below)
    rw [Nat.succ_mul] at places
    rw [radix, List.prod_cons]
    omega

/-- Digits that come first in the order of the lists make the smaller number. -/
theorem radix_lt_radix {bases lower upper : List Nat} (low : List.Forall₂ (· < ·) lower bases)
    (high : List.Forall₂ (· < ·) upper bases) (first : lower < upper) : radix bases lower < radix bases upper := by
  induction low generalizing upper with
  | nil =>
    cases high
    exact absurd first (List.lt_irrefl _)
  | @cons digit base digits bases below rest ih =>
    cases high with
    | @cons other _ others _ above behind =>
      simp only [radix]
      rcases List.cons_lt_cons_iff.mp first with less | ⟨rfl, less⟩
      · have places := Nat.mul_le_mul_right bases.prod (Nat.succ_le_of_lt less)
        rw [Nat.succ_mul] at places
        have small := radix_lt rest
        omega
      · exact Nat.add_lt_add_left (ih behind less) _

end Simutgw.Logic
