import PostfixCalculator.Calculation
import PostfixCalculator.Proofs.GrammarConversion
import PostfixCalculator.Proofs.Spelling
import PostfixCalculator.Proofs.TreeEvaluation

/-!
# Calculating with spelled expressions

The stages together: a text that spells a derivation is read as the tokens of
the derivation, these are converted to the postorder of its tree, and the
postorder evaluates to the value of the tree. What can go wrong is then what can
go wrong in the tree, and no fault is about the structure of the text.
-/

namespace PostfixCalculator

/-- The faults that tell of a text, or of tokens, that are no expression. -/
def Fault.IsStructural : Fault -> Prop
  | .invalidOperator _ => True
  | .unbalancedParentheses => True
  | .stackUnderflow => True
  | .leftoverOperands _ => True
  | .emptyContainer => True
  | .divisionByZero => False
  | .noRealPower _ _ => False
  | .badNumber _ => False
  | .unknownVariable _ => False

/-- The fault of an operand is about the operand. -/
theorem Context.not_isStructural_of_operandValue
    {context : Context}
    {lexeme : String}
    {fault : Fault}
    (failed : context.operandValue lexeme = .error fault) :
    ¬fault.IsStructural := by
  rcases fault_of_operandValue failed with rfl | rfl
  · exact id
  · exact id

/-- The fault of a binary operator is about its operands. -/
theorem BinaryOperator.not_isStructural_of_apply
    {operator : BinaryOperator}
    {left right : Number}
    {fault : Fault}
    (failed : operator.apply left right = .error fault) :
    ¬fault.IsStructural := by
  rcases BinaryOperator.fault_of_apply failed with rfl | rfl
  · exact id
  · exact id

/-- The fault of a tree is that of an operand or of an operator in it. -/
theorem Expression.not_isStructural_of_value
    {expression : Expression}
    {context : Context}
    {fault : Fault}
    (failed : expression.value context = .error fault) :
    ¬fault.IsStructural := by
  induction expression with
  | operand lexeme =>
      rw [value_operand] at failed
      exact Context.not_isStructural_of_operandValue failed
  | apply operator left right leftHypothesis rightHypothesis =>
      rw [value_apply] at failed
      rcases Run.bind_eq_error_iff.mp failed with leftFailed | ⟨leftValue, -, rightFailed⟩
      · exact leftHypothesis leftFailed
      rcases Run.bind_eq_error_iff.mp rightFailed with rightFailed | ⟨rightValue, -, applied⟩
      · exact rightHypothesis rightFailed
      · exact BinaryOperator.not_isStructural_of_apply applied

/-- The tokens of a text that spells a derivation are those of the derivation. -/
theorem Derivation.ofText_eq_tokens
    (derivation : Derivation .sum)
    (lexical : ∀ token ∈ derivation.tokens, token.IsLexical)
    {text : String}
    (spelled : Spelling derivation.tokens text.toList) :
    Token.ofText text = derivation.tokens := by
  rw [Token.ofText_eq_ofCharacters]
  exact spelled.ofCharacters_eq lexical derivation.isChain_tokens

/-- A text that spells a derivation has the value of its tree, or fails as the
tree does, and never with a structural fault. -/
theorem calculate_derivation
    (derivation : Derivation .sum)
    (lexical : ∀ token ∈ derivation.tokens, token.IsLexical)
    {text : String}
    (spelled : Spelling derivation.tokens text.toList)
    (context : Context) :
    convertText text = .ok derivation.expression.postorder ∧
      calculate context text = derivation.expression.value context ∧
      ∀ fault, calculate context text = .error fault -> ¬fault.IsStructural := by
  have converted : convertText text = .ok derivation.expression.postorder := by
    rw [convertText, derivation.ofText_eq_tokens lexical spelled,
      Conversion.convert_tokens_eq_postorder]
  have calculated : calculate context text = derivation.expression.value context := by
    rw [calculate, converted, Run.ok_bind, Expression.evaluate_postorder]
  refine ⟨converted, calculated, ?_⟩
  intro fault failed
  rw [calculated] at failed
  exact Expression.not_isStructural_of_value failed

/-- A sum in parentheses times a power. -/
def sumTimesPower : Derivation .sum :=
  .ofProduct
    (.mul
      (.ofPower (.ofPrimary (.group
        (.add
          (.ofProduct (.ofPower (.ofPrimary (.operand "x"))))
          (.ofPower (.ofPrimary (.operand "10")))))))
      (.pow (.ofPrimary (.operand "2")) (.operand "y")))

/-- It is calculated from a text with blanks and other filler. -/
theorem calculate_derivation_sumTimesPower :
    (∀ token ∈ sumTimesPower.tokens, token.IsLexical) ∧
      Spelling sumTimesPower.tokens "(x+ 10)É*2 ^y.".toList ∧
      convertText "(x+ 10)É*2 ^y." = .ok sumTimesPower.expression.postorder ∧
      calculate Context.standard "(x+ 10)É*2 ^y." =
        sumTimesPower.expression.value Context.standard ∧
      ∀ fault, calculate Context.standard "(x+ 10)É*2 ^y." = .error fault ->
        ¬fault.IsStructural := by
  have lexical : ∀ token ∈ sumTimesPower.tokens, token.IsLexical := by decide
  have spelled : Spelling sumTimesPower.tokens "(x+ 10)É*2 ^y.".toList :=
    @Spelling.token [] (.operator .opening) _ _ (by decide) <|
    @Spelling.token [] (.operand "x") _ _ (by decide) <|
    @Spelling.token [] (.operator (.binary .add)) _ _ (by decide) <|
    @Spelling.token [' '] (.operand "10") _ _ (by decide) <|
    @Spelling.token [] (.operator .closing) _ _ (by decide) <|
    @Spelling.token ['É'] (.operator (.binary .mul)) _ _ (by decide) <|
    @Spelling.token [] (.operand "2") _ _ (by decide) <|
    @Spelling.token [' '] (.operator (.binary .pow)) _ _ (by decide) <|
    @Spelling.token [] (.operand "y") _ _ (by decide) <|
    @Spelling.filler ['.'] (by decide)
  exact ⟨lexical, spelled,
    calculate_derivation sumTimesPower lexical spelled Context.standard⟩

end PostfixCalculator
