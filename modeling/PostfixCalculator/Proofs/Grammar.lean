import Mathlib.Data.List.Chain
import PostfixCalculator.Proofs.Expression

/-!
# The infix grammar

Infix expressions are derived on four levels of binding strength. A sum is a
product, or a sum, `+` or `-`, and a product. A product is a power, or a
product, `*` or `/`, and a power. A power is a primary, or a power, `^` and a
primary. A primary is an operand, or a sum in parentheses. The left operand of
an operator is on the level of the operator and the right one a level higher, so
every operator groups to the left.

A derivation has tokens and a tree. Parentheses occur in the tokens and leave no
trace in the tree. In the tokens of a derivation two operands are never
neighbours.
-/

namespace PostfixCalculator

/-- The levels of the grammar, the weakest binding first. -/
inductive Level
  | sum
  | product
  | power
  | primary
  deriving DecidableEq, Repr

/-- A rank that all operators between the parentheses of a level have at least;
a primary has none. -/
def Level.rank : Level -> Nat
  | .sum => 2
  | .product => 3
  | .power => 4
  | .primary => 5

/-- The derivations of each level. -/
inductive Derivation : Level -> Type
  | operand (lexeme : String) : Derivation .primary
  | group (inner : Derivation .sum) : Derivation .primary
  | ofPrimary (inner : Derivation .primary) : Derivation .power
  | pow (left : Derivation .power) (right : Derivation .primary) : Derivation .power
  | ofPower (inner : Derivation .power) : Derivation .product
  | mul (left : Derivation .product) (right : Derivation .power) : Derivation .product
  | div (left : Derivation .product) (right : Derivation .power) : Derivation .product
  | ofProduct (inner : Derivation .product) : Derivation .sum
  | add (left : Derivation .sum) (right : Derivation .product) : Derivation .sum
  | sub (left : Derivation .sum) (right : Derivation .product) : Derivation .sum
  deriving Repr

namespace Derivation

/-- Two operands with their operator between them. -/
def join
    (left : List Token)
    (operator : BinaryOperator)
    (right : List Token) : List Token :=
  left ++ .operator (.binary operator) :: right

/-- The tokens of a derivation. -/
def tokens {level : Level} : Derivation level -> List Token
  | .operand lexeme => [.operand lexeme]
  | .group inner => .operator .opening :: inner.tokens ++ [.operator .closing]
  | .ofPrimary inner => inner.tokens
  | .pow left right => join left.tokens .pow right.tokens
  | .ofPower inner => inner.tokens
  | .mul left right => join left.tokens .mul right.tokens
  | .div left right => join left.tokens .div right.tokens
  | .ofProduct inner => inner.tokens
  | .add left right => join left.tokens .add right.tokens
  | .sub left right => join left.tokens .sub right.tokens

/-- The tree of a derivation. -/
def expression {level : Level} : Derivation level -> Expression
  | .operand lexeme => .operand lexeme
  | .group inner => inner.expression
  | .ofPrimary inner => inner.expression
  | .pow left right => .apply .pow left.expression right.expression
  | .ofPower inner => inner.expression
  | .mul left right => .apply .mul left.expression right.expression
  | .div left right => .apply .div left.expression right.expression
  | .ofProduct inner => inner.expression
  | .add left right => .apply .add left.expression right.expression
  | .sub left right => .apply .sub left.expression right.expression

/-- Of two neighbours one is an operator. -/
def Alternate (first second : Token) : Prop :=
  first.isOperator = true ∨ second.isOperator = true

/-- Joining by an operator brings no two operands together. -/
theorem isChain_join
    {left right : List Token}
    (leftChain : left.IsChain Alternate)
    (rightChain : right.IsChain Alternate)
    (operator : BinaryOperator) :
    (join left operator right).IsChain Alternate := by
  rw [join, List.isChain_append, List.isChain_cons]
  refine ⟨leftChain, ⟨fun next _ => Or.inl rfl, rightChain⟩, ?_⟩
  intro last _ first isFirst
  cases isFirst
  exact Or.inr rfl

/-- In the tokens of a derivation no two operands are neighbours. -/
theorem isChain_tokens
    {level : Level}
    (derivation : Derivation level) :
    derivation.tokens.IsChain Alternate := by
  induction derivation with
  | operand lexeme => exact List.isChain_singleton _
  | group inner inductionHypothesis =>
      rw [tokens, List.isChain_append, List.isChain_cons]
      refine ⟨⟨fun next _ => Or.inl rfl, inductionHypothesis⟩, List.isChain_singleton _, ?_⟩
      intro last _ first isFirst
      cases isFirst
      exact Or.inr rfl
  | ofPrimary inner inductionHypothesis => exact inductionHypothesis
  | ofPower inner inductionHypothesis => exact inductionHypothesis
  | ofProduct inner inductionHypothesis => exact inductionHypothesis
  | pow left right leftHypothesis rightHypothesis =>
      exact isChain_join leftHypothesis rightHypothesis .pow
  | mul left right leftHypothesis rightHypothesis =>
      exact isChain_join leftHypothesis rightHypothesis .mul
  | div left right leftHypothesis rightHypothesis =>
      exact isChain_join leftHypothesis rightHypothesis .div
  | add left right leftHypothesis rightHypothesis =>
      exact isChain_join leftHypothesis rightHypothesis .add
  | sub left right leftHypothesis rightHypothesis =>
      exact isChain_join leftHypothesis rightHypothesis .sub

end Derivation
end PostfixCalculator
