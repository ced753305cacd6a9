import PostfixCalculator.Calculation
import PostfixCalculator.Proofs.Binding
import PostfixCalculator.Proofs.Inquiry
import PostfixCalculator.Proofs.LexicalOperand
import PostfixCalculator.Proofs.RoundTrip
import PostfixCalculator.Proofs.Substitution

/-!
# The names of variables

What a name may be is decided in three places: where a binding is read, where a text
is cut into tokens, and where an operand is told from a numeral. The three agree. The
names that can be bound are those that a text can use as a variable: what is bound to
one is the value of the text that is this name, and no text ever asks for any other.
-/

namespace PostfixCalculator

open CommandLine

/-- A name that can be bound. -/
def IsBindable (name : String) : Prop :=
  ∃ binding, Binding.ofArgument (name ++ "=1") = .ok binding ∧ binding.name = name

/-- The names that can be bound are the runs of small letters. -/
theorem isBindable_iff {name : String} : IsBindable name ↔ RunKind.letters.IsRun name := by
  constructor
  · rintro ⟨binding, accepted, rfl⟩
    obtain ⟨literal, -, isRun, -⟩ := Binding.ofArgument_eq_ok_iff.mp accepted
    exact isRun
  · intro isRun
    obtain ⟨value, isNumber⟩ : ∃ value, Decimal.read "1" = .ok value :=
      Decimal.exists_read_eq_ok (by decide)
    refine ⟨⟨name, value⟩, Binding.ofArgument_eq_ok_iff.mpr ⟨"1", ?_, isRun, isNumber⟩, rfl⟩
    rw [String.append_assoc]
    rfl

/-- Without an equals sign in it, a name is bound as a whole or not at all. -/
theorem exists_ofArgument_iff {name : String} (noSeparator : '=' ∉ name.toList) :
    (∃ binding, Binding.ofArgument (name ++ "=1") = .ok binding) ↔ IsBindable name := by
  constructor
  · rintro ⟨binding, accepted⟩
    obtain ⟨literal, whole, isRun, -⟩ := Binding.ofArgument_eq_ok_iff.mp accepted
    have own : splitAtEquals? (name ++ "=1").toList = some (name.toList, ['1']) :=
      splitAtEquals?_eq_some_iff.mpr ⟨by simp, noSeparator⟩
    have read : splitAtEquals? (name ++ "=1").toList =
        some (binding.name.toList, literal.toList) :=
      splitAtEquals?_eq_some_iff.mpr ⟨by simp [whole], separator_notMem_of_isRun isRun⟩
    have same : binding.name.toList = name.toList :=
      congrArg Prod.fst (Option.some.inj (read.symm.trans own))
    exact ⟨binding, accepted, String.toList_inj.mp same⟩
  · rintro ⟨binding, accepted, -⟩
    exact ⟨binding, accepted⟩

/-- A text is its own only token exactly if it is a run of digits or small letters. -/
theorem ofText_eq_operand_iff {text : String} :
    Token.ofText text = [.operand text] ↔ (Token.operand text).IsLexical := by
  have written := @Token.ofText_textOfList_iff [.operand text]
  rw [Token.textOfList_singleton, Token.text_operand] at written
  rw [written]
  exact List.forall_mem_singleton

/-- Small letters are the lexemes that are no numerals. -/
theorem isLexical_and_isNumeral_iff {lexeme : String} :
    (Token.operand lexeme).IsLexical ∧ Context.isNumeral lexeme = false ↔
      RunKind.letters.IsRun lexeme := by
  constructor
  · rintro ⟨digits | letters, notNumeral⟩
    · rw [Context.isNumeral_of_isRun digits] at notNumeral
      cases notNumeral
    · exact letters
  · intro letters
    exact ⟨Or.inr letters, Context.isNumeral_eq_false_of_isRun letters⟩

/-- The text that is a name has the value that is bound to it. -/
theorem evaluateText_bind
    {name : String}
    (isRun : RunKind.letters.IsRun name)
    (context : Context)
    (value : Number) :
    evaluateText (context.bind name value) name = .ok value := by
  obtain ⟨lexical, notNumeral⟩ := isLexical_and_isNumeral_iff.mpr isRun
  have alone := (Expression.operand name).evaluate_postorder (context.bind name value)
  rw [Expression.postorder_operand, Expression.value_operand,
    Context.operandValue_bind notNumeral] at alone
  rw [evaluateText, ofText_eq_operand_iff.mpr lexical, alone]

/-- What the evaluation of the tokens of a text asks for can be bound. -/
theorem isBindable_of_mem_asked
    {context : Context}
    {operands : Stack Number}
    {tokens : List Token}
    {name : String}
    (lexical : ∀ token ∈ tokens, token.IsLexical)
    (isAsked : name ∈ (Inquiry.ofTokens operands tokens).asked context) :
    IsBindable name := by
  obtain ⟨present, notNumeral⟩ := Inquiry.operand_mem_of_mem_asked isAsked
  rw [isBindable_iff, ← isLexical_and_isNumeral_iff]
  exact ⟨lexical _ present, notNumeral⟩

/-- A name without an equals sign can be bound exactly if, as a text, it is one operand
and no numeral, and then this text has the value that is bound. Whatever text is
evaluated, as it is or after a conversion, the names that its evaluation looks up can
all be bound. -/
theorem bindable_names_agree :
    (∀ name : String, '=' ∉ name.toList ->
      ((∃ binding, Binding.ofArgument (name ++ "=1") = .ok binding) ↔
        Token.ofText name = [.operand name] ∧ Context.isNumeral name = false)) ∧
    (∀ (argument : String) (binding : Binding) (context : Context),
      Binding.ofArgument argument = .ok binding ->
        evaluateText (context.bind binding.name (.ordinary binding.value)) binding.name =
          .ok (.ordinary binding.value)) ∧
    (∀ (context : Context) (text : String),
      (Inquiry.ofTokens .empty (Token.ofText text)).answer context =
        evaluateText context text ∧
      ∀ name ∈ (Inquiry.ofTokens .empty (Token.ofText text)).asked context,
        IsBindable name) ∧
    ∀ (context : Context) (text : String) (output : List Token),
      convertText text = .ok output ->
        (Inquiry.ofTokens .empty output).answer context = evaluate context output ∧
        ∀ name ∈ (Inquiry.ofTokens .empty output).asked context, IsBindable name := by
  refine ⟨?_, ?_, ?_, ?_⟩
  · intro name noSeparator
    rw [exists_ofArgument_iff noSeparator, ofText_eq_operand_iff, isBindable_iff,
      isLexical_and_isNumeral_iff]
  · intro argument binding context accepted
    obtain ⟨literal, -, isRun, -⟩ := Binding.ofArgument_eq_ok_iff.mp accepted
    exact evaluateText_bind isRun context _
  · intro context text
    refine ⟨Inquiry.answer_ofTokens context .empty _, fun name isAsked => ?_⟩
    exact isBindable_of_mem_asked (fun _ => Token.isLexical_of_mem_ofText) isAsked
  · intro context text output converted
    refine ⟨Inquiry.answer_ofTokens context .empty _, fun name isAsked => ?_⟩
    have lexical : ∀ token ∈ output, token.IsLexical :=
      (Token.forall_isLexical_convert_iff converted).mpr fun _ => Token.isLexical_of_mem_ofText
    exact isBindable_of_mem_asked lexical isAsked

/-- In `pi 2 e -` both constants are looked up, and both can be bound. -/
theorem bindable_names_agree_constants :
    (Inquiry.ofTokens .empty (Token.ofText "pi 2 e -")).asked .standard = ["pi", "e"] ∧
      IsBindable "pi" ∧ IsBindable "e" := by
  have read : Token.ofText "pi 2 e -" =
      [.operand "pi", .operand "2", .operand "e", .operator (.binary .sub)] := by
    decide +kernel
  have isAsked :
      (Inquiry.ofTokens .empty (Token.ofText "pi 2 e -")).asked .standard = ["pi", "e"] := by
    rw [read]
    rfl
  obtain ⟨-, -, looksUp, -⟩ := bindable_names_agree
  obtain ⟨-, bindable⟩ := looksUp .standard "pi 2 e -"
  rw [isAsked] at bindable
  exact ⟨isAsked, bindable "pi" (by simp), bindable "e" (by simp)⟩

end PostfixCalculator
