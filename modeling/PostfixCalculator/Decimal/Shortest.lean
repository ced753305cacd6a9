import PostfixCalculator.Decimal.Binary

/-!
# The shortest decimal that reads back

Every decimal close enough to a floating-point number reads back as that
number. Among them this module chooses one with the fewest digits, of those the
closest, and of two equally close ones the larger.

All comparisons are made between natural numbers, so nothing is rounded on the
way: a decimal `count * 10 ^ scale` and a binary number are compared after both
have been multiplied by the same powers of two and ten.
-/

namespace PostfixCalculator
namespace Decimal

/-- The decimal number `count * 10 ^ scale`. -/
structure Scaled where
  count : Nat
  scale : Int
  deriving DecidableEq, Repr

/-- The numbers that read back as one floating-point number: they lie between
`low` and `high` units of `2 ^ exponent`, the ends included if `closed`. The
number itself is `middle` units. -/
structure Neighbourhood where
  low : Nat
  middle : Nat
  high : Nat
  exponent : Int
  closed : Bool
  deriving DecidableEq, Repr

/-- The neighbourhood reaches half-way to the next number on either side. In
quarters of the number's own unit these distances are whole. A tie goes to the
even significand, so the ends belong to the even ones. -/
def Dyadic.neighbourhood (size : Dyadic) : Neighbourhood where
  low := 4 * size.significand - (if size.narrowBelow then 1 else 2)
  middle := 4 * size.significand
  high := 4 * size.significand + 2
  exponent := size.exponent - 2
  closed := size.significand % 2 == 0

namespace Neighbourhood

/-- The whole number that one step of `10 ^ scale` becomes when decimals and
units are brought to a common denominator. -/
def stepSize (near : Neighbourhood) (scale : Int) : Nat :=
  Nat.pow 10 scale.toNat * Nat.pow 2 (-near.exponent).toNat

/-- The whole number that one unit of the neighbourhood becomes when decimals
and units are brought to a common denominator. -/
def unitSize (near : Neighbourhood) (scale : Int) : Nat :=
  Nat.pow 10 (-scale).toNat * Nat.pow 2 near.exponent.toNat

/-- Whether a decimal lies in the neighbourhood. -/
def contains (near : Neighbourhood) (decimal : Scaled) : Bool :=
  let position := decimal.count * near.stepSize decimal.scale
  let low := near.low * near.unitSize decimal.scale
  let high := near.high * near.unitSize decimal.scale
  if near.closed then
    low ≤ position && position ≤ high
  else
    low < position && position < high

/-- The largest multiple of `10 ^ scale` that does not exceed the number. -/
def floorOn (near : Neighbourhood) (scale : Int) : Nat :=
  near.middle * near.unitSize scale / near.stepSize scale

/-- Of the two multiples of `10 ^ scale` next to the number the one that lies
in the neighbourhood. If both do, the closer one, and the larger one at equal
distance. -/
def nearestOn? (near : Neighbourhood) (scale : Int) : Option Scaled :=
  let below : Scaled := ⟨near.floorOn scale, scale⟩
  let above : Scaled := ⟨near.floorOn scale + 1, scale⟩
  let position := near.middle * near.unitSize scale
  let belowIsCloser :=
    position - below.count * near.stepSize scale <
      above.count * near.stepSize scale - position
  match near.contains below, near.contains above with
  | true, true => some (if belowIsCloser then below else above)
  | true, false => some below
  | false, true => some above
  | false, false => none

/-- A number of decimal places that is fine enough to see the number: a step at
these places is no larger than a unit, because `10 ^ 31` exceeds `2 ^ 100`. -/
def finePlaces (near : Neighbourhood) : Nat :=
  (-near.exponent).toNat * 31 / 100 + 1

/-- The number of decimal places before the point, counted negative for places
after it that hold zeros: the number is at least `10 ^ (places - 1)` and less
than `10 ^ places`. -/
def places (near : Neighbourhood) : Int :=
  (Nat.toDigits 10 (near.floorOn (-near.finePlaces))).length - near.finePlaces

/-- A decimal with at most seventeen digits that lies in the neighbourhood:
the first grid that has one, from the coarsest on. Seventeen digits always
suffice for double precision. -/
def shortest (near : Neighbourhood) : Scaled :=
  let places := near.places
  ((List.range 17).findSome? fun (extra : Nat) => near.nearestOn? (places - 1 - extra)).getD
    ⟨near.floorOn (places - 17), places - 17⟩

end Neighbourhood

/-- The same decimal without zeros at the end of its digits. -/
def Scaled.trim (decimal : Scaled) : Scaled :=
  if decimal.count = 0 then
    decimal
  else if decimal.count % 10 = 0 then
    Scaled.trim ⟨decimal.count / 10, decimal.scale + 1⟩
  else
    decimal
termination_by decimal.count
decreasing_by omega

/-- The shortest decimal that reads back as a positive binary number. -/
def Dyadic.shortest (size : Dyadic) : Scaled :=
  size.neighbourhood.shortest.trim

end Decimal
end PostfixCalculator
