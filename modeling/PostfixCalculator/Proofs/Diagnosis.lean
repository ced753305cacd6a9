import PostfixCalculator.Calculation
import PostfixCalculator.Proofs.Accounting
import PostfixCalculator.Proofs.LexicalOperand
import PostfixCalculator.Proofs.RoundTrip

/-!
# What a fault tells about a text

Each fault of a calculation has its cause in the tokens of the text. Parentheses are
unbalanced where one is closed that was not opened. A symbol is not applicable only
if it is an opening parenthesis, and then one was left open. A variable is unknown
only if the text names it and nothing is bound to it. Operands are left over only if
the parentheses match, and then they are those for which binary operators are
missing.

Other faults do not occur, apart from too few operands and faults of arithmetic: no
operand of a text is a malformed number, no closing parenthesis is ever applied, and
an empty stack is noticed before something is taken from it.
-/

namespace PostfixCalculator

open Token

/-- What a fault tells about the tokens that were calculated. -/
inductive Diagnosis (context : Context) (tokens : List Token) : Fault -> Prop
  | unbalanced {start : List Token}
      (isStart : start <+: tokens)
      (tooMany : openings start < closings start) :
      Diagnosis context tokens .unbalancedParentheses
  | leftOpen
      (more : closings tokens < openings tokens) :
      Diagnosis context tokens (.invalidOperator Operator.opening.text)
  | unknown {name : String}
      (isName : RunKind.letters.IsRun name)
      (present : .operand name ∈ tokens)
      (unbound : context.lookup? name = none) :
      Diagnosis context tokens (.unknownVariable name)
  | leftOver {count : Nat}
      (parenthesesMatch : ParenthesesMatch tokens)
      (accounted : count + binaries tokens = (operands tokens).length)
      (several : 2 ≤ count) :
      Diagnosis context tokens (.leftoverOperands count)
  | tooFew : Diagnosis context tokens .stackUnderflow
  | divisionByZero : Diagnosis context tokens .divisionByZero
  | noRealPower (base exponent : Float) : Diagnosis context tokens (.noRealPower base exponent)

namespace Diagnosis

variable {context : Context} {tokens output : List Token} {fault : Fault}

/-- The fault of a token that is refused after a conversion. -/
theorem of_refusal
    (lexical : ∀ token ∈ tokens, token.IsLexical)
    (converted : convert tokens = .ok output)
    {stack : Stack Number}
    {token : Token}
    (present : token ∈ output)
    (refusal : Evaluation.Refusal context stack token fault) :
    Diagnosis context tokens fault := by
  cases refusal with
  | @operand lexeme _ valueless =>
      rw [operand_mem_iff_of_convert converted] at present
      obtain ⟨isName, unbound, rfl⟩ :=
        (Context.operandValue_eq_error_iff (lexical _ present)).mp valueless
      exact .unknown isName present unbound
  | tooFew few => exact .tooFew
  | @application rest left right operator _ enough failed =>
      cases operator with
      | binary operator =>
          rcases BinaryOperator.fault_of_apply failed with rfl | rfl
          · exact .divisionByZero
          · exact .noRealPower _ _
      | opening =>
          cases failed
          have leftOpen := openings_add_closings_of_convert converted
          have positive : 0 < openings output := List.count_pos_iff.mpr present
          exact .leftOpen (by omega)
      | closing =>
          exact absurd present (List.count_eq_zero.mp (closings_eq_zero_of_convert converted))

/-- Every fault of tokens that are converted and evaluated is diagnosed. -/
theorem of_evaluate_convert
    (lexical : ∀ token ∈ tokens, token.IsLexical)
    (failed : (convert tokens >>= evaluate context) = .error fault) :
    Diagnosis context tokens fault := by
  rcases Run.bind_eq_error_iff.mp failed with refused | ⟨output, converted, failed⟩
  · obtain ⟨rfl, start, isStart, tooMany⟩ := convert_eq_error_iff_exists_start.mp refused
    exact .unbalanced isStart tooMany
  · rcases Evaluation.evaluate_eq_error_iff.mp failed with
      ⟨done, token, rest, reached, rfl, -, refusal⟩ | ⟨reached, ran, refused⟩
    · have present : token ∈ done ++ token :: rest :=
        List.mem_append_right done List.mem_cons_self
      exact of_refusal lexical converted present refusal
    · rcases Evaluation.finish_eq_error_iff.mp refused with ⟨-, rfl⟩ | ⟨several, rfl⟩
      · exact .tooFew
      · obtain ⟨parenthesesMatch, accounted⟩ := parenthesesMatch_of_run converted ran
        exact .leftOver parenthesesMatch accounted several

/-- Every fault of a calculation is diagnosed. -/
theorem of_calculate
    {text : String}
    (failed : calculate context text = .error fault) :
    Diagnosis context (ofText text) fault :=
  of_evaluate_convert (fun _ present => isLexical_of_mem_ofText present) failed

end Diagnosis

/-- Which faults a calculation can have, and what each tells about the tokens of the
text. -/
theorem calculate_eq_error_causes (context : Context) (text : String) :
    calculate context text ≠ .error .emptyContainer ∧
    calculate context text ≠ .error (.invalidOperator ")") ∧
    (∀ lexeme, calculate context text ≠ .error (.badNumber lexeme)) ∧
    (calculate context text = .error .unbalancedParentheses ↔
      ∃ start, start <+: ofText text ∧ openings start < closings start) ∧
    (∀ symbol, calculate context text = .error (.invalidOperator symbol) ->
      symbol = "(" ∧ closings (ofText text) < openings (ofText text)) ∧
    (∀ name, calculate context text = .error (.unknownVariable name) ->
      RunKind.letters.IsRun name ∧ .operand name ∈ ofText text ∧
        context.lookup? name = none) ∧
    ∀ count, calculate context text = .error (.leftoverOperands count) ->
      ParenthesesMatch (ofText text) ∧
        count + binaries (ofText text) = (operands (ofText text)).length ∧ 2 ≤ count := by
  have notApplied : ∀ symbol, calculate context text = .error (.invalidOperator symbol) ->
      symbol = "(" ∧ closings (ofText text) < openings (ofText text) := by
    intro symbol failed
    cases Diagnosis.of_calculate failed with
    | leftOpen more => exact ⟨rfl, more⟩
  refine ⟨?_, ?_, ?_, ⟨?_, ?_⟩, notApplied, ?_, ?_⟩
  · intro failed
    cases Diagnosis.of_calculate failed
  · intro failed
    exact absurd (notApplied ")" failed).1 (by decide)
  · intro lexeme failed
    cases Diagnosis.of_calculate failed
  · intro failed
    cases Diagnosis.of_calculate failed with
    | unbalanced isStart tooMany => exact ⟨_, isStart, tooMany⟩
  · intro tooMany
    have refused := convert_eq_error_iff_exists_start.mpr ⟨rfl, tooMany⟩
    rw [calculate, convertText, refused, Run.error_bind]
  · intro name failed
    cases Diagnosis.of_calculate failed with
    | unknown isName present unbound => exact ⟨isName, present, unbound⟩
  · intro count failed
    cases Diagnosis.of_calculate failed with
    | leftOver parenthesesMatch accounted several =>
        exact ⟨parenthesesMatch, accounted, several⟩

/-- A parenthesis that is left open, a name that is not bound and an operator that is
missing are told in this way. -/
theorem calculate_eq_error_causes_malformedTexts :
    (calculate .standard "pi(e" = .error (.invalidOperator "(") ∧
      closings (ofText "pi(e") < openings (ofText "pi(e")) ∧
    (calculate .standard "pi^(y" = .error (.unknownVariable "y") ∧
      .operand "y" ∈ ofText "pi^(y") ∧
    (calculate .standard "(pi)e" = .error (.leftoverOperands 2) ∧
      2 + binaries (ofText "(pi)e") = (operands (ofText "(pi)e")).length) := by
  have openRead : ofText "pi(e" = [.operand "pi", .operator .opening, .operand "e"] := by
    decide +kernel
  have unboundRead : ofText "pi^(y" =
      [.operand "pi", .operator (.binary .pow), .operator .opening, .operand "y"] := by
    decide +kernel
  have leftOverRead : ofText "(pi)e" =
      [.operator .opening, .operand "pi", .operator .closing, .operand "e"] := by
    decide +kernel
  have openFailed : calculate .standard "pi(e" = .error (.invalidOperator "(") := by
    rw [calculate, convertText, openRead]
    rfl
  have unboundFailed : calculate .standard "pi^(y" = .error (.unknownVariable "y") := by
    rw [calculate, convertText, unboundRead]
    rfl
  have leftOverFailed : calculate .standard "(pi)e" = .error (.leftoverOperands 2) := by
    rw [calculate, convertText, leftOverRead]
    rfl
  obtain ⟨-, -, -, -, notApplied, -, -⟩ := calculate_eq_error_causes .standard "pi(e"
  obtain ⟨-, -, -, -, -, unknown, -⟩ := calculate_eq_error_causes .standard "pi^(y"
  obtain ⟨-, -, -, -, -, -, leftOver⟩ := calculate_eq_error_causes .standard "(pi)e"
  exact ⟨⟨openFailed, (notApplied _ openFailed).2⟩,
    ⟨unboundFailed, (unknown _ unboundFailed).2.1⟩,
    ⟨leftOverFailed, (leftOver _ leftOverFailed).2.1⟩⟩

end PostfixCalculator
