/-!
# Operators and their rank

The seven symbols that an expression can hold: two parentheses and five binary
operators. Each has one symbol, one name and one rank; ranks decide which
waiting operators a new one releases. `(` has the lowest rank, so no operator
releases it, and `)` the highest.

`ofChar?_symbol` and `symbol_of_ofChar?` say that reading and writing a symbol
are inverse to each other.
-/

namespace PostfixCalculator

/-- The operators that compute a value from two operands. -/
inductive BinaryOperator
  | add
  | sub
  | mul
  | div
  | pow
  deriving DecidableEq, Repr

/-- The symbols that are not part of an operand. -/
inductive Operator
  | opening
  | closing
  | binary (operator : BinaryOperator)
  deriving DecidableEq, Repr

namespace BinaryOperator

/-- The character that stands for a binary operator. -/
def symbol : BinaryOperator -> Char
  | .add => '+'
  | .sub => '-'
  | .mul => '*'
  | .div => '/'
  | .pow => '^'

/-- Binding strength: sums bind weakest, powers strongest. -/
def rank : BinaryOperator -> Nat
  | .add | .sub => 2
  | .mul | .div => 3
  | .pow => 4

/-- The word for a binary operator in listings. -/
def name : BinaryOperator -> String
  | .add => "Add"
  | .sub => "Sub"
  | .mul => "Mul"
  | .div => "Div"
  | .pow => "Pow"

end BinaryOperator

namespace Operator

/-- The character that stands for an operator. -/
def symbol : Operator -> Char
  | .opening => '('
  | .closing => ')'
  | .binary operator => operator.symbol

@[simp] theorem symbol_opening : opening.symbol = '(' := rfl

@[simp] theorem symbol_closing : closing.symbol = ')' := rfl

@[simp] theorem symbol_binary (operator : BinaryOperator) :
    (binary operator).symbol = operator.symbol := rfl

/-- The symbol of an operator as a text of one character. -/
def text (operator : Operator) : String :=
  operator.symbol.toString

/-- Binding strength; `(` is below and `)` above every binary operator. -/
def rank : Operator -> Nat
  | .opening => 1
  | .closing => 5
  | .binary operator => operator.rank

@[simp] theorem rank_opening : opening.rank = 1 := rfl

@[simp] theorem rank_closing : closing.rank = 5 := rfl

@[simp] theorem rank_binary (operator : BinaryOperator) :
    (binary operator).rank = operator.rank := rfl

/-- The word for an operator in listings. -/
def name : Operator -> String
  | .opening => "OParen"
  | .closing => "CParen"
  | .binary operator => operator.name

/-- The operator that a character stands for. -/
def ofChar? : Char -> Option Operator
  | '(' => some .opening
  | ')' => some .closing
  | '+' => some (.binary .add)
  | '-' => some (.binary .sub)
  | '*' => some (.binary .mul)
  | '/' => some (.binary .div)
  | '^' => some (.binary .pow)
  | _ => none

/-- The operator that a text stands for; only a text of one character can. -/
def ofText? (text : String) : Option Operator :=
  match text.toList with
  | [character] => ofChar? character
  | _ => none

/-- The symbol of an operator reads back as that operator. -/
@[simp] theorem ofChar?_symbol (operator : Operator) :
    ofChar? operator.symbol = some operator := by
  cases operator with
  | opening => rfl
  | closing => rfl
  | binary operator => cases operator <;> rfl

/-- Different operators have different symbols. -/
theorem symbol_inj {first second : Operator} :
    first.symbol = second.symbol ↔ first = second := by
  constructor
  · intro same
    have read := congrArg ofChar? same
    rw [ofChar?_symbol, ofChar?_symbol] at read
    exact Option.some.inj read
  · exact congrArg symbol

/-- A character that reads as an operator is the symbol of that operator. -/
theorem symbol_of_ofChar?
    {character : Char}
    {operator : Operator}
    (read : ofChar? character = some operator) :
    operator.symbol = character := by
  unfold ofChar? at read
  split at read <;> simp_all <;> subst read <;> rfl

end Operator

end PostfixCalculator
