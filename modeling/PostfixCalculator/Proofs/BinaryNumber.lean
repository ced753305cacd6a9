import Mathlib.Tactic.IntervalCases
import PostfixCalculator.Decimal.Binary

/-!
# What is read off a bit pattern

A floating-point number comes with an unpacked form of its own: a sign and a kind, and for
a finite number a significand and an exponent. The sign and the size that are read off the
bit pattern are those of the unpacked form, and the significand has at most fifty-three
bits, of which the first is set unless the exponent is the least one.
-/

namespace PostfixCalculator
namespace Decimal

open Float.Model Float.Model.UnpackedFloat

/-- A significand and an exponent as the format has them. -/
structure IsCanonical (significand : Nat) (exponent : Int) : Prop where
  positive : 0 < significand
  fits : significand < 2 ^ 53
  least : -1074 ≤ exponent
  normal : 2 ^ 52 ≤ significand ∨ exponent = -1074

/-- The sign of a number. -/
def signOf (negative : Bool) : Sign :=
  if negative then .negative else .positive

/-- What is read off a number, by its unpacked form. -/
inductive ReadsOff : UnpackedFloat -> Bool -> Magnitude -> Prop
  | undefined {negative : Bool} : ReadsOff .notANumber negative .undefined
  | infinite {negative : Bool} : ReadsOff (.infinity (signOf negative)) negative .infinite
  | zero {negative : Bool} : ReadsOff (.zero (signOf negative)) negative .zero
  | finite {negative : Bool} {significand : Nat} {exponent : Int} {narrowBelow : Bool}
      (canonical : IsCanonical significand exponent)
      (narrow : narrowBelow = true ↔ significand = 2 ^ 52 ∧ -1074 < exponent) :
      ReadsOff (.finite (signOf negative) significand exponent canonical.positive) negative
        (.finite ⟨significand, exponent, narrowBelow⟩)

/-- A size that agrees with the unpacked form is what is read off. -/
theorem ReadsOff.of_eq
    {negative : Bool}
    {significand : Nat}
    {exponent : Int}
    {positive : 0 < significand}
    {size : Dyadic}
    (sameSignificand : significand = size.significand)
    (sameExponent : exponent = size.exponent)
    (canonical : IsCanonical size.significand size.exponent)
    (narrow : size.narrowBelow = true ↔ size.significand = 2 ^ 52 ∧ -1074 < size.exponent) :
    ReadsOff (.finite (signOf negative) significand exponent positive) negative
      (.finite size) := by
  subst sameSignificand sameExponent
  exact .finite canonical narrow

/-! ## The fields of a bit pattern -/

section Fields

variable (bits : UInt64)

/-- The exponent bits are those of the unpacked form. -/
theorem toNat_unpackExponent :
    (@unpackExponent Format.binary64 bits.toBitVec).toNat = exponentField bits := by
  simp [unpackExponent, exponentField, Nat.shiftRight_eq_div_pow]

/-- The fraction bits are those of the unpacked form. -/
theorem toNat_unpackMantissa :
    (@unpackMantissa Format.binary64 bits.toBitVec).toNat = fractionField bits := by
  simp [unpackMantissa, fractionField]

/-- The exponent bits are told by their number. -/
theorem unpackExponent_eq_iff {field : BitVec 11} :
    @unpackExponent Format.binary64 bits.toBitVec = field ↔ exponentField bits = field.toNat := by
  rw [← toNat_unpackExponent]
  exact BitVec.toNat_inj.symm

/-- The fraction bits are told by their number. -/
theorem unpackMantissa_eq_iff {fraction : BitVec 52} :
    @unpackMantissa Format.binary64 bits.toBitVec = fraction ↔
      fractionField bits = fraction.toNat := by
  rw [← toNat_unpackMantissa]
  exact BitVec.toNat_inj.symm

/-- There are fifty-two fraction bits. -/
theorem fractionField_lt : fractionField bits < 2 ^ 52 :=
  Nat.mod_lt _ (by decide)

/-- The sign bit is that of the unpacked form. -/
theorem ofBitVec_unpackSign :
    Sign.ofBitVec (@unpackSign Format.binary64 bits.toBitVec) =
      signOf (bits.toNat / Nat.pow 2 63 == 1) := by
  have oneBit : bits.toNat / 2 ^ 63 < 2 := by
    have bounded := bits.toNat_lt
    omega
  have field : (@unpackSign Format.binary64 bits.toBitVec).toNat = bits.toNat / 2 ^ 63 := by
    change (BitVec.cast _ (BitVec.extractLsb 63 63 bits.toBitVec)).toNat = _
    simpa [Nat.shiftRight_eq_div_pow] using oneBit
  simp only [Sign.ofBitVec, signOf, ← BitVec.toNat_inj, field, Nat.pow_eq]
  generalize bits.toNat / 2 ^ 63 = bit at oneBit
  interval_cases bit <;> rfl

/-- The leading bit of a normal number stands in front of its fraction bits. -/
theorem toNat_leading_append (fraction : BitVec 52) :
    (1#1 ++ fraction).toNat = 2 ^ 52 + fraction.toNat := by
  rw [BitVec.toNat_append, ← Nat.shiftLeft_add_eq_or_of_lt fraction.isLt]
  rfl

end Fields

/-- The sign and the size that are read off a number are those of its unpacked form. -/
theorem readsOff (number : Float) :
    ReadsOff number.toModel.unpack (isNegative number) (magnitude number) := by
  have atTop : @unpackExponent Format.binary64 number.toBits.toBitVec = -1#_ ↔
      exponentField number.toBits = 2047 := unpackExponent_eq_iff _
  have atZero : @unpackExponent Format.binary64 number.toBits.toBitVec = 0#_ ↔
      exponentField number.toBits = 0 := unpackExponent_eq_iff _
  have noFraction : @unpackMantissa Format.binary64 number.toBits.toBitVec = 0#_ ↔
      fractionField number.toBits = 0 := unpackMantissa_eq_iff _
  change ReadsOff (UnpackedFloat.unpack Format.binary64 number.toBits.toBitVec) _ _
  unfold UnpackedFloat.unpack magnitude
  dsimp only
  rw [ofBitVec_unpackSign]
  by_cases top : exponentField number.toBits = 2047
  · rw [if_pos (atTop.mpr top), if_pos top]
    by_cases none : fractionField number.toBits = 0
    · rw [if_pos (noFraction.mpr none), if_pos none]
      exact .infinite
    · rw [if_neg (mt noFraction.mp none), if_neg none]
      exact .undefined
  rw [if_neg (mt atTop.mp top), if_neg top]
  by_cases zero : exponentField number.toBits = 0
  · rw [if_pos (atZero.mpr zero), if_pos zero]
    by_cases none : fractionField number.toBits = 0
    · rw [dif_pos (noFraction.mpr none), if_pos none]
      exact .zero
    · rw [dif_neg (mt noFraction.mp none), if_neg none]
      apply ReadsOff.of_eq
      · exact toNat_unpackMantissa _
      · rw [toNat_unpackExponent, zero]
        rfl
      · refine ⟨Nat.pos_of_ne_zero none, ?_, le_refl _, Or.inr rfl⟩
        exact Nat.lt_trans (fractionField_lt _) (by decide)
      · simp
  · rw [if_neg (mt atZero.mp zero), if_neg zero]
    apply ReadsOff.of_eq
    · rw [toNat_leading_append, toNat_unpackMantissa]
      rfl
    · rw [toNat_unpackExponent]
      rfl
    · have bounded := fractionField_lt number.toBits
      constructor <;> simp only [Nat.pow_eq] <;> omega
    · simp only [Bool.and_eq_true, beq_iff_eq, decide_eq_true_eq, Nat.pow_eq]
      omega

end Decimal
end PostfixCalculator
