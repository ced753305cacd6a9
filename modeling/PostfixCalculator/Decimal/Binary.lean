/-!
# Floating-point numbers as exact binary numbers

A finite double-precision number is a whole number of units `2 ^ exponent`.
This module reads the unit and the count off the bit pattern, keeps signs,
infinities and the undefined value apart, and decides on the exact number
whether it has a fractional part.
-/

namespace PostfixCalculator
namespace Decimal

/-- The positive number `significand * 2 ^ exponent`. The flag tells that the
next smaller number of the format is only half a unit away, which is so at the
powers of two above the least normal one. -/
structure Dyadic where
  significand : Nat
  exponent : Int
  narrowBelow : Bool
  deriving DecidableEq, Repr

/-- The size of a number, its sign aside. -/
inductive Magnitude
  | undefined
  | infinite
  | zero
  | finite (size : Dyadic)
  deriving DecidableEq, Repr

-- Powers are written with `Nat.pow`, so that they mean the same whatever
-- instances a later module brings along.

/-- The eleven exponent bits of a bit pattern. -/
def exponentField (bits : UInt64) : Nat :=
  bits.toNat / Nat.pow 2 52 % Nat.pow 2 11

/-- The fifty-two fraction bits of a bit pattern. -/
def fractionField (bits : UInt64) : Nat :=
  bits.toNat % Nat.pow 2 52

/-- Whether the sign bit of a number is set; it is also set for `-0.0`. -/
def isNegative (number : Float) : Bool :=
  number.toBits.toNat / Nat.pow 2 63 == 1

/-- The size of a number, read off its bit pattern. -/
def magnitude (number : Float) : Magnitude :=
  let field := exponentField number.toBits
  let fraction := fractionField number.toBits
  if field = 2047 then
    if fraction = 0 then .infinite else .undefined
  else if field = 0 then
    if fraction = 0 then .zero else .finite ⟨fraction, -1074, false⟩
  else
    .finite ⟨Nat.pow 2 52 + fraction, (field : Int) - 1075, fraction == 0 && 1 < field⟩

/-- Whether a positive binary number is a whole number: its unit is whole, or
its significand holds enough factors of two to make up for the unit. -/
def Dyadic.isWhole (size : Dyadic) : Bool :=
  0 ≤ size.exponent || size.significand % Nat.pow 2 (-size.exponent).toNat == 0

/-- Whether a number is finite and has a fractional part. -/
def hasFraction (number : Float) : Bool :=
  match magnitude number with
  | .finite size => !size.isWhole
  | .undefined | .infinite | .zero => false

end Decimal
end PostfixCalculator
