import PostfixCalculator.Decimal.Layout

/-!
# Numbers on the operand stack

Operands are double-precision numbers. The format has many undefined values,
which `Float` does not tell apart. Some of them are *signaling*, and these
behave differently in one place: a power is 1 if its base is 1 or its exponent
is 0, even if the other operand is undefined, but not if that is signaling. So
signaling values are kept apart. They can only be bound to a variable; what an
operator yields is always ordinary.
-/

namespace PostfixCalculator

/-- A double-precision number, with the signaling undefined values apart. -/
inductive Number
  | ordinary (value : Float)
  | signaling
  deriving DecidableEq

namespace Number

/-- A number as floating-point arithmetic sees it. -/
def toFloat : Number -> Float
  | .ordinary value => value
  | .signaling => 0.0 / 0.0

@[simp] theorem toFloat_ordinary (value : Float) :
    (ordinary value).toFloat = value := rfl

/-- The number of a bit pattern. An undefined value is signaling if the first
bit of its fraction is not set. -/
def ofBits (bits : UInt64) : Number :=
  let fraction := Decimal.fractionField bits
  if Decimal.exponentField bits = 2047 ∧ 0 < fraction ∧ fraction < Nat.pow 2 51 then
    .signaling
  else
    .ordinary (Float.ofBits bits)

/-- Numbers are compared as floating-point arithmetic does: no undefined value
equals any number, and the two zeros are equal. -/
instance : BEq Number where
  beq left right := left.toFloat == right.toFloat

/-- A number in a layout. -/
def write (number : Number) (layout : Decimal.Layout) : String :=
  layout.write number.toFloat

/-- A power. With a signaling operand it is undefined. -/
def pow : Number -> Number -> Number
  | .ordinary base, .ordinary exponent => .ordinary (base.pow exponent)
  | _, _ => .ordinary (0.0 / 0.0)

@[simp] theorem pow_ordinary (base exponent : Float) :
    (ordinary base).pow (ordinary exponent) = ordinary (base.pow exponent) := rfl

end Number

end PostfixCalculator
