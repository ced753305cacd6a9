import PostfixCalculator.Decimal.Layout

/-!
# What can go wrong

Reading an expression never fails; converting one, evaluating one and taking
from a stack can. A fault records its cause. The wording is one function of the
cause.
-/

namespace PostfixCalculator

/-- The causes for which a conversion, an evaluation or a stack gives no
result. -/
inductive Fault
  /-- A symbol has no rank, or a parenthesis was to be applied to operands. -/
  | invalidOperator (symbol : String)
  /-- A closing parenthesis has no partner. -/
  | unbalancedParentheses
  /-- An operator or the end of an expression found too few operands. -/
  | stackUnderflow
  /-- The right operand of a division is zero. -/
  | divisionByZero
  /-- A negative number was to be raised to a power that is no whole number. -/
  | noRealPower (base exponent : Float)
  /-- An operand looks like a number and is none. -/
  | badNumber (lexeme : String)
  /-- An operand names a variable that has no value. -/
  | unknownVariable (name : String)
  /-- An expression ended with several operands. -/
  | leftoverOperands (count : Nat)
  /-- A stack has no element to take. -/
  | emptyContainer
  deriving DecidableEq

/-- The wording of a fault. -/
def Fault.message : Fault -> String
  | .invalidOperator symbol => "Invalid operator: " ++ symbol
  | .unbalancedParentheses => "Unbalanced parentheses"
  | .stackUnderflow => "Stack underflow: not enough operands"
  | .divisionByZero => "Division by zero"
  | .noRealPower base exponent =>
      "Invalid operation: " ++ Decimal.plain.write base ++ " ^ " ++
        Decimal.plain.write exponent ++ " has no real value"
  | .badNumber lexeme => "Invalid operation: Bad number: " ++ lexeme
  | .unknownVariable name => "Unknown variable: " ++ name
  | .leftoverOperands count =>
      "Malformed expression: " ++ toString count ++ " operands left on the stack"
  | .emptyContainer => "Can't pop from empty stack"

end PostfixCalculator
