import PostfixCalculator.Context
import PostfixCalculator.Proofs.LiteralGrammar
import PostfixCalculator.Proofs.Spelling

/-!
# The value of operands that texts have

An operand of a text is written in digits or in small letters. Digits are always a
number. Small letters are never one, and have the value that is bound to them. So an
operand of a text has no value only if it is a name that is not bound.
-/

namespace PostfixCalculator

namespace Decimal

/-- Digits can be read. -/
theorem exists_read_eq_ok
    {lexeme : String}
    (isRun : RunKind.digits.IsRun lexeme) :
    ∃ value, read lexeme = .ok value :=
  ⟨_, read_of_allDigits isRun.1 isRun.2⟩

end Decimal

namespace Context

variable {lexeme : String}

/-- Digits are a number. -/
theorem isNumeral_of_isRun (isRun : RunKind.digits.IsRun lexeme) :
    isNumeral lexeme = true :=
  List.all_eq_true.mpr isRun.2

/-- Small letters are no number. -/
theorem isNumeral_eq_false_of_isRun (isRun : RunKind.letters.IsRun lexeme) :
    isNumeral lexeme = false := by
  obtain ⟨first, others, split, letter⟩ := isRun.exists_cons
  rw [isNumeral, split, List.all_cons, RunKind.isDigit_eq_false_of_isLower letter,
    Bool.false_and]

/-- An operand of a text has no value exactly if it is a name without one. -/
theorem operandValue_eq_error_iff
    {context : Context}
    {fault : Fault}
    (lexical : (Token.operand lexeme).IsLexical) :
    context.operandValue lexeme = .error fault ↔
      RunKind.letters.IsRun lexeme ∧ context.lookup? lexeme = none ∧
        fault = .unknownVariable lexeme := by
  rcases lexical with digits | letters
  · obtain ⟨value, found⟩ := Decimal.exists_read_eq_ok digits
    have notLetters : ¬RunKind.letters.IsRun lexeme :=
      fun letters => RunKind.noConfusion (digits.kind_eq letters)
    simp [operandValue, isNumeral_of_isRun digits, found, notLetters]
  · cases found : context.lookup? lexeme with
    | none => simp [operandValue, isNumeral_eq_false_of_isRun letters, found, letters, eq_comm]
    | some value => simp [operandValue, isNumeral_eq_false_of_isRun letters, found]

end Context
end PostfixCalculator
