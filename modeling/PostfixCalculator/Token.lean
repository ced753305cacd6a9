import PostfixCalculator.Operator
import PostfixCalculator.Text.Quoted

/-!
# Tokens

A token is an operand, kept as it was written, or an operator. Whether an
operand is a number or a variable is settled when it is evaluated. Tokens are
written with one blank between neighbours.
-/

namespace PostfixCalculator

/-- A piece of an expression. -/
inductive Token
  | operand (lexeme : String)
  | operator (operator : Operator)
  deriving DecidableEq, Repr

namespace Token

/-- Whether a token is an operator; parentheses count as operators. -/
def isOperator : Token -> Bool
  | .operand _ => false
  | .operator _ => true

@[simp] theorem isOperator_operand (lexeme : String) :
    (operand lexeme).isOperator = false := rfl

@[simp] theorem isOperator_operator (symbol : Operator) :
    (operator symbol).isOperator = true := rfl

/-- A token as it is written in an expression. -/
def text : Token -> String
  | .operand lexeme => lexeme
  | .operator symbol => symbol.text

@[simp] theorem text_operand (lexeme : String) :
    (operand lexeme).text = lexeme := rfl

@[simp] theorem text_operator (symbol : Operator) :
    (operator symbol).text = symbol.text := rfl

/-- A token in a listing: its kind, and the quoted lexeme or the name of the
operator. -/
def inspect : Token -> String
  | .operand lexeme => "Operand(" ++ Text.quote lexeme ++ ")"
  | .operator symbol => "Operator(" ++ symbol.name ++ ")"

/-- Tokens in their order with one blank between neighbours. -/
def textOfList (tokens : List Token) : String :=
  " ".intercalate (tokens.map text)

end Token

end PostfixCalculator
