import Mathlib.Analysis.Complex.ExponentialBounds
import Mathlib.Analysis.Real.Pi.Bounds
import PostfixCalculator.Context
import PostfixCalculator.Proofs.ReadingBack

/-!
# The constants

The two constants that have a value in every context are as near to `π` and to the base of
natural logarithms as numbers of the format can be.
-/

namespace PostfixCalculator

namespace Decimal

variable {significand : Nat} {exponent : Int} {exact : ℝ} {other : ℚ}

/-- What is less than half-way from a number to the one below is nearer to no other. -/
theorem abs_sub_lt_of_close
    (canonical : IsCanonical significand exponent)
    (close : |exact - (binaryValue significand exponent : ℚ)| <
      (distanceBelow significand exponent : ℚ) / 2)
    (isRepresentable : IsRepresentable other)
    (different : other ≠ binaryValue significand exponent) :
    |exact - (binaryValue significand exponent : ℚ)| < |exact - other| := by
  obtain ⟨above, below⟩ := abs_lt.mp close
  have atMost : (distanceBelow significand exponent : ℝ) ≤ (2 ^ exponent : ℚ) :=
    Rat.cast_le.mpr (distanceBelow_pos_le significand exponent).2
  rcases le_or_le_of_isRepresentable canonical isRepresentable different with isBelow | isAbove
  · have ordered : (other : ℝ) ≤ _ := Rat.cast_le.mpr isBelow
    rw [Rat.cast_sub] at ordered
    have farther := le_abs_self (exact - other)
    linarith
  · have ordered : _ ≤ (other : ℝ) := Rat.cast_le.mpr isAbove
    rw [Rat.cast_add] at ordered
    have farther := neg_abs_le (exact - other)
    linarith

end Decimal

namespace Number

/-- A number is nearer to a real number than any other of the format. -/
def IsNearestTo (number : Number) (exact : ℝ) : Prop :=
  ∃ value significand exponent positive, number = .ordinary value ∧
    value.toModel.unpack = .finite .positive significand exponent positive ∧
    ∀ other : ℚ, Decimal.IsRepresentable other ->
      other ≠ Decimal.binaryValue significand exponent ->
      |exact - (Decimal.binaryValue significand exponent : ℚ)| < |exact - other|

end Number

namespace Context

/-- The first constant is the number of the format for `π`. -/
theorem pi_isNearestTo : pi.IsNearestTo Real.pi := by
  refine ⟨_, 7074237752028440, -51, by decide, rfl, rfl, fun other => ?_⟩
  apply Decimal.abs_sub_lt_of_close ⟨by decide, by decide, by decide, Or.inl (by decide)⟩
  have lower := Real.pi_gt_d20
  have upper := Real.pi_lt_d20
  rw [Decimal.binaryValue, Decimal.distanceBelow, if_neg (by norm_num), abs_lt]
  norm_num
  constructor <;> linarith

/-- The second constant is the number of the format for the base of natural logarithms. -/
theorem e_isNearestTo : e.IsNearestTo (Real.exp 1) := by
  refine ⟨_, 6121026514868073, -51, by decide, rfl, rfl, fun other => ?_⟩
  apply Decimal.abs_sub_lt_of_close ⟨by decide, by decide, by decide, Or.inl (by decide)⟩
  obtain ⟨lower, upper⟩ := abs_le.mp Real.exp_one_near_20
  rw [Decimal.binaryValue, Decimal.distanceBelow, if_neg (by norm_num), abs_lt]
  norm_num at lower upper ⊢
  constructor <;> linarith

end Context
end PostfixCalculator
