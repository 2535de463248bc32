import Mathlib.Algebra.Order.Floor.Ring
import Mathlib.Algebra.Order.Field.Basic
import Mathlib.Tactic.Linarith
import Mathlib.Tactic.Ring

/-! Conversion to an integer towards zero, as C converts floating-point numbers. -/
namespace Truncation

variable {α : Type*} [Field α] [LinearOrder α] [FloorRing α]

/-- The integer part of a number. -/
def truncate (x : α) : Int := if 0 ≤ x then ⌊x⌋ else ⌈x⌉

theorem truncate_of_nonneg {x : α} (h : 0 ≤ x) : truncate x = ⌊x⌋ := if_pos h

theorem truncate_of_neg {x : α} (h : x < 0) : truncate x = ⌈x⌉ := if_neg (not_le.mpr h)

variable [IsStrictOrderedRing α]

@[simp]
theorem truncate_neg (x : α) : truncate (-x) = -truncate x := by
  rcases lt_trichotomy x 0 with hNeg | rfl | hPos
  · rw [truncate_of_neg hNeg, truncate_of_nonneg (by linarith), Int.floor_neg]
  · simp [truncate]
  · rw [truncate_of_nonneg hPos.le, truncate_of_neg (by linarith), Int.ceil_neg]

/-- Truncation works on the absolute value. -/
theorem truncate_abs (x : α) : truncate |x| = |truncate x| := by
  have hFloor : ∀ y : α, 0 ≤ y → |truncate y| = truncate y := by
    intro y hy
    rw [truncate_of_nonneg hy]
    exact abs_of_nonneg (Int.floor_nonneg.mpr hy)
  rcases le_total 0 x with hPos | hNeg
  · rw [abs_of_nonneg hPos, hFloor x hPos]
  · rw [abs_of_nonpos hNeg, ← hFloor (-x) (by linarith), truncate_neg, abs_neg]

/-- What is cut off has the sign of the number, also after scaling it up. -/
theorem abs_mul_sub_truncate {c : α} (hc : 1 ≤ c) (x : α) :
    |c * x - truncate x| = c * |x| - ⌊|x|⌋ := by
  have hPositive : ∀ y : α, 0 ≤ y → |c * y - truncate y| = c * y - ⌊y⌋ := by
    intro y hy
    rw [truncate_of_nonneg hy]
    refine abs_of_nonneg ?_
    have hFloor := Int.floor_le y
    have hScale := mul_le_mul_of_nonneg_right hc hy
    linarith
  rcases le_total 0 x with hPos | hNeg
  · rw [abs_of_nonneg hPos, hPositive x hPos]
  · have hFlip : c * x - truncate x = -(c * -x - truncate (-x)) := by
      rw [truncate_neg]
      push_cast
      ring
    rw [hFlip, abs_neg, abs_of_nonpos hNeg, hPositive (-x) (by linarith)]

/-- The part that is cut off is less than one. -/
theorem abs_sub_truncate_lt_one (x : α) : |x - truncate x| < 1 := by
  have hCut := abs_mul_sub_truncate le_rfl x
  rw [one_mul, one_mul] at hCut
  rw [hCut]
  exact Int.fract_lt_one |x|

theorem abs_truncate_le (x : α) : |(truncate x : α)| ≤ |x| := by
  rw [← Int.cast_abs, ← truncate_abs, truncate_of_nonneg (abs_nonneg x)]
  exact Int.floor_le |x|

end Truncation
