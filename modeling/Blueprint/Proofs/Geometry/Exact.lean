import Blueprint.Geometry.Rect
import Mathlib.Algebra.Order.Group.Unbundled.Abs
import Mathlib.Algebra.Order.Field.Rat
import Mathlib.Tactic.Linarith

/-!
Exact scalars. Over the rationals the operations on scalars are those of an ordered field.
-/

namespace Blueprint
namespace Scalar

theorem quotient_rat (n : Int) (d : Nat) : (quotient n d : Rat) = (n : Rat) / (d : Rat) := rfl

@[simp] theorem zero_rat : (zero : Rat) = 0 := by
  simp [zero,whole,quotient_rat]

@[simp] theorem whole_rat (n : Int) : (whole n : Rat) = n := by
  simp [whole,quotient_rat]

@[simp] theorem half_rat (a : Rat) : half a = a / 2 := by
  simp [half]

theorem tolerance_pos : (0 : Rat) < tolerance := by
  rw [tolerance,quotient_rat]
  norm_num

@[simp] theorem magnitude_rat (a : Rat) : magnitude a = |a| := by
  change (if a < 0 then -a else a) = |a|
  split
  · rename_i h
    exact (abs_of_neg h).symm
  · rename_i h
    exact (abs_of_nonneg (not_lt.mp h)).symm

@[simp] theorem least_rat (a b : Rat) : least a b = min a b := by
  change (if b < a then b else a) = min a b
  split
  · rename_i h
    exact (min_eq_right h.le).symm
  · rename_i h
    exact (min_eq_left (not_lt.mp h)).symm

@[simp] theorem greatest_rat (a b : Rat) : greatest a b = max a b := by
  change (if a < b then b else a) = max a b
  split
  · rename_i h
    exact (max_eq_right h.le).symm
  · rename_i h
    exact (max_eq_left (not_lt.mp h)).symm

theorem close_iff {a b : Rat} : close a b = true ↔ |a - b| ≤ tolerance := by
  simp [close]

theorem close_self (a : Rat) : close a a = true := by
  rw [close_iff,sub_self,abs_zero]
  exact tolerance_pos.le

end Scalar
end Blueprint
