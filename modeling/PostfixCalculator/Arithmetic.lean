import PostfixCalculator.Fault
import PostfixCalculator.Number
import PostfixCalculator.Operator

/-!
# Applying operators

Arithmetic is that of double-precision numbers. Two applications are faults: a
division by zero of either sign, and a power with a negative base and a finite
exponent that is no whole number. A parenthesis cannot be applied.
-/

namespace PostfixCalculator

/-- Apply a binary operator to its left and its right operand. -/
def BinaryOperator.apply (left right : Number) : BinaryOperator -> Except Fault Number
  | .add => .ok (.ordinary (left.toFloat + right.toFloat))
  | .sub => .ok (.ordinary (left.toFloat - right.toFloat))
  | .mul => .ok (.ordinary (left.toFloat * right.toFloat))
  | .div =>
      if right.toFloat == 0.0 then
        .error .divisionByZero
      else
        .ok (.ordinary (left.toFloat / right.toFloat))
  | .pow =>
      if left.toFloat < 0.0 && Decimal.hasFraction right.toFloat then
        .error (.noRealPower left.toFloat right.toFloat)
      else
        .ok (left.pow right)

/-- A binary operator fails only as a division by zero or as a power without a real
value. -/
theorem BinaryOperator.fault_of_apply
    {operator : BinaryOperator}
    {left right : Number}
    {fault : Fault}
    (failed : operator.apply left right = .error fault) :
    fault = .divisionByZero ∨ fault = .noRealPower left.toFloat right.toFloat := by
  cases operator with
  | add => cases failed
  | sub => cases failed
  | mul => cases failed
  | div =>
      rw [apply] at failed
      split at failed
      · cases failed
        exact Or.inl rfl
      · cases failed
  | pow =>
      rw [apply] at failed
      split at failed
      · cases failed
        exact Or.inr rfl
      · cases failed

/-- Apply an operator to its left and its right operand. -/
def Operator.apply (left right : Number) : Operator -> Except Fault Number
  | .binary operator => operator.apply left right
  | .opening => .error (.invalidOperator Operator.opening.text)
  | .closing => .error (.invalidOperator Operator.closing.text)

end PostfixCalculator
