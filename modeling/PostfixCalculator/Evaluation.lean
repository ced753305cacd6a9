import PostfixCalculator.Arithmetic
import PostfixCalculator.Context
import PostfixCalculator.Log
import PostfixCalculator.Run
import PostfixCalculator.Stack
import PostfixCalculator.Token

/-!
# Evaluating tokens in postfix order

Values of operands go onto a stack. An operator takes its right operand from
the top and its left operand from below, and puts its result in their place. An
expression has a value if exactly one operand is left at the end.
-/

namespace PostfixCalculator
namespace Evaluation

/-- Take an operand from the stack. -/
def takeOperand (operands : Stack Number) : Except Fault (Number × Stack Number) :=
  match operands.pop with
  | .ok taken => .ok taken
  | .error _ => .error .stackUnderflow

@[simp] theorem takeOperand_push (operands : Stack Number) (value : Number) :
    takeOperand (operands.push value) = .ok (value, operands) := rfl

@[simp] theorem takeOperand_empty :
    takeOperand .empty = .error .stackUnderflow := rfl

/-- Replace the two topmost operands by the result of an operator. -/
def applyTop (operands : Stack Number) (operator : Operator) : Except Fault (Stack Number) := do
  let (right, others) ← takeOperand operands
  let (left, rest) ← takeOperand others
  return rest.push (← operator.apply left right)

/-- Take the next token of the input. -/
def accept (context : Context) (operands : Stack Number) : Token -> Except Fault (Stack Number)
  | .operand lexeme => (context.operandValue lexeme).map operands.push
  | .operator operator => applyTop operands operator

/-- The value of the expression once the input has ended. -/
def finish (operands : Stack Number) : Except Fault Number := do
  let (value, rest) ← takeOperand operands
  if rest.isEmpty then
    return value
  else
    throw (.leftoverOperands (rest.size + 1))

/-- The operands after a list of tokens. -/
def run (context : Context) (tokens : List Token) : Except Fault (Stack Number) :=
  tokens.foldlM (accept context) .empty

/-- A step in a log: the token, and the operands after it. -/
def describe (token : Token) (operands : Stack Number) : String :=
  "eval: " ++ token.text ++ " -> " ++ operands.listing (fun number => number.write Decimal.precise)

end Evaluation

/-- The value of tokens in postfix order. -/
def evaluate (context : Context) (tokens : List Token) : Except Fault Number :=
  Evaluation.run context tokens >>= Evaluation.finish

/-- The log of an evaluation: a line for each token that was accepted, and one
for the value if there is one. -/
def evaluationLog (context : Context) (tokens : List Token) : List LogLine :=
  let steps := Run.visited (Evaluation.accept context) .empty tokens
  let result :=
    match evaluate context tokens with
    | .ok value => [⟨.debug, "evaluated to " ++ value.write Decimal.plain⟩]
    | .error _ => []
  List.zipWith (fun token operands => ⟨.trace, Evaluation.describe token operands⟩)
    tokens steps ++ result

end PostfixCalculator
