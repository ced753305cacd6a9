import PostfixCalculator.Proofs.Conversion

/-!
# Operands pass through a conversion

A conversion puts out each operand as soon as it comes, and everything else that
it puts out is an operator. So at any point the operands put out are those of the
input so far, in the same order.
-/

namespace PostfixCalculator

namespace Token

/-- The operands among some tokens, in their order. -/
def operands (tokens : List Token) : List Token :=
  tokens.filter fun token => !token.isOperator

@[simp] theorem operands_nil : operands [] = [] := rfl

@[simp] theorem operands_append (first second : List Token) :
    operands (first ++ second) = operands first ++ operands second :=
  List.filter_append first second

@[simp] theorem operands_operator (operator : Operator) :
    operands [.operator operator] = [] := rfl

/-- Among operators there is no operand. -/
@[simp] theorem operands_map_operator (operators : List Operator) :
    operands (operators.map Token.operator) = [] := by
  rw [operands, List.filter_eq_nil_iff]
  intro token present
  obtain ⟨operator, -, rfl⟩ := List.mem_map.mp present
  exact Bool.false_ne_true

/-- An operand is among the operands of some tokens if it is one of these. -/
@[simp] theorem operand_mem_operands_iff {lexeme : String} {tokens : List Token} :
    .operand lexeme ∈ operands tokens ↔ .operand lexeme ∈ tokens := by
  rw [operands, List.mem_filter]
  exact and_iff_left rfl

/-- Tokens with the same operands hold the same operands. -/
theorem operand_mem_iff_of_operands_eq
    {lexeme : String}
    {first second : List Token}
    (same : operands first = operands second) :
    .operand lexeme ∈ first ↔ .operand lexeme ∈ second := by
  rw [← operand_mem_operands_iff, same, operand_mem_operands_iff]

end Token

namespace Conversion

open Token

variable {state next : Conversion} {token : Token} {tokens : List Token}

/-- An operand is put out, and nothing else adds an operand to the output. -/
theorem Step.operands_eq (step : Step state token next) :
    operands next.output.toList = operands state.output.toList ++ operands [token] := by
  cases step with
  | operand lexeme => rw [output_put, operands_append]
  | opening => rw [output_hold, operands_operator, List.append_nil]
  | closing waiting noOpening =>
      rw [output_release, operands_append, operands_map_operator, operands_operator]
  | binary waiting releases stops =>
      rw [output_hold, output_release, operands_append, operands_map_operator,
        operands_operator]

/-- A run puts out the operands of its tokens. -/
theorem operands_of_foldlM
    {reached : Conversion}
    (ran : tokens.foldlM accept state = .ok reached) :
    operands reached.output.toList = operands state.output.toList ++ operands tokens := by
  refine Run.foldlM_induction (motive := fun done current =>
    operands current.output.toList = operands state.output.toList ++ operands done)
    (List.append_nil _).symm ?_ ran
  intro done current token next soFar accepted
  rw [(accept_eq_ok_iff.mp accepted).operands_eq, soFar, operands_append, List.append_assoc]

/-- At the end of the input only operators are added. -/
@[simp] theorem operands_finish (state : Conversion) :
    operands state.finish = operands state.output.toList := by
  rw [finish_eq, operands_append, operands_map_operator, List.append_nil]

end Conversion

/-- The operands of the output are those of the input, in the same order. -/
theorem operands_eq_of_convert
    {tokens output : List Token}
    (converted : convert tokens = .ok output) :
    Token.operands output = Token.operands tokens := by
  obtain ⟨state, ran, rfl⟩ := convert_eq_ok_iff.mp converted
  rw [Conversion.operands_finish, Conversion.operands_of_foldlM ran]
  rfl

/-- An operand is in the output if it is in the input. -/
theorem operand_mem_iff_of_convert
    {tokens output : List Token}
    {lexeme : String}
    (converted : convert tokens = .ok output) :
    .operand lexeme ∈ output ↔ .operand lexeme ∈ tokens :=
  Token.operand_mem_iff_of_operands_eq (operands_eq_of_convert converted)

end PostfixCalculator
