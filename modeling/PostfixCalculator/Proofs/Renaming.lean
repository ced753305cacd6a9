import PostfixCalculator.Proofs.Evaluation
import PostfixCalculator.Proofs.Grouping

/-!
# Renaming variables

A conversion passes operands on without looking at them, so renaming them before it or
after it is the same.

An evaluation reads a numeral and looks up any other operand. If a renaming leaves the
numerals as they are, and a second context has for the new name of each other operand
what a first one has for the old name, then the renamed tokens have in the second
context the value that the tokens have in the first one, or fail in the same way. The
renaming may give several variables one name, if only they have the same value.

So an evaluation depends on nothing in its context but the values of the names that
occur, and what is bound to a numeral never matters.
-/

namespace PostfixCalculator

/-- Rename an operand. -/
def Token.rename (naming : String -> String) : Token -> Token
  | .operand lexeme => .operand (naming lexeme)
  | .operator symbol => .operator symbol

/-- Rename the variable that a fault tells of. -/
def Fault.rename (naming : String -> String) : Fault -> Fault
  | .unknownVariable name => .unknownVariable (naming name)
  | fault => fault

variable {naming : String -> String}

namespace Token

@[simp] theorem rename_operand (lexeme : String) :
    (operand lexeme).rename naming = .operand (naming lexeme) := rfl

@[simp] theorem rename_operator (symbol : Operator) :
    (operator symbol).rename naming = .operator symbol := rfl

theorem rename_id : rename id = id := by
  funext token
  cases token <;> rfl

/-- Operators have no names. -/
@[simp] theorem map_rename_map_operator (operators : List Operator) :
    (operators.map Token.operator).map (rename naming) = operators.map Token.operator := by
  rw [List.map_map]
  rfl

end Token

theorem Fault.rename_id : Fault.rename id = id := by
  funext fault
  cases fault <;> rfl

/-! ## Converting renamed tokens -/

namespace Conversion

variable {state next : Conversion} {token : Token}

/-- Rename the operands that have been put out. -/
def rename (naming : String -> String) (state : Conversion) : Conversion :=
  ⟨state.output.map (Token.rename naming), state.waiting⟩

@[simp] theorem output_rename (state : Conversion) :
    (state.rename naming).output.toList = state.output.toList.map (Token.rename naming) := by
  simp [rename]

@[simp] theorem waiting_rename (state : Conversion) :
    (state.rename naming).waiting = state.waiting := rfl

@[simp] theorem rename_start : start.rename naming = start :=
  eq_of_toList_eq (by simp) rfl

theorem rename_put (state : Conversion) (token : Token) :
    (state.put token).rename naming = (state.rename naming).put (token.rename naming) :=
  eq_of_toList_eq (by simp) rfl

theorem rename_hold (state : Conversion) (operator : Operator) :
    (state.hold operator).rename naming = (state.rename naming).hold operator := rfl

theorem rename_release (state : Conversion) (released kept : List Operator) :
    (state.release released kept).rename naming =
      (state.rename naming).release released kept := by
  apply eq_of_toList_eq
  · rw [output_rename, output_release, output_release, output_rename, List.map_append,
      Token.map_rename_map_operator]
  · rfl

/-- A renamed token does to a renamed state what the token does to the state. -/
theorem Step.rename (step : Step state token next) :
    Step (state.rename naming) (token.rename naming) (next.rename naming) := by
  cases step with
  | operand lexeme =>
      rw [rename_put]
      exact .operand (naming lexeme)
  | opening => exact .opening
  | closing waiting noOpening =>
      rw [rename_release]
      exact .closing waiting noOpening
  | binary waiting releases stops =>
      rw [rename_hold, rename_release]
      exact .binary waiting releases stops

/-- A renamed token is accepted or refused as the token is. -/
theorem accept_rename (state : Conversion) (token : Token) :
    (state.rename naming).accept (token.rename naming) =
      (state.accept token).map (rename naming) := by
  cases result : state.accept token with
  | error fault =>
      obtain ⟨isUnbalanced, rfl, absent⟩ := accept_eq_error_iff.mp result
      exact accept_eq_error_iff.mpr ⟨isUnbalanced, rfl, absent⟩
  | ok next => exact accept_eq_ok_iff.mpr (accept_eq_ok_iff.mp result).rename

/-- A run over renamed tokens reaches the renamed state. -/
theorem run_map_rename (tokens : List Token) :
    run (tokens.map (Token.rename naming)) = (run tokens).map (rename naming) := by
  have whole : (tokens.map (Token.rename naming)).foldlM accept (start.rename naming) =
      ((tokens.foldlM accept start).map (rename naming)).mapError id := by
    apply Run.foldlM_translated
    intro current token _
    rw [accept_rename, Run.mapError_id]
  rwa [rename_start, Run.mapError_id] at whole

/-- A renamed state ends in the renamed output. -/
theorem finish_rename (state : Conversion) :
    (state.rename naming).finish = state.finish.map (Token.rename naming) := by
  rw [finish_eq, finish_eq, output_rename, waiting_rename, List.map_append,
    Token.map_rename_map_operator]

end Conversion

/-- Renamed tokens are converted to the renamed output. -/
theorem convert_map_rename (tokens : List Token) :
    convert (tokens.map (Token.rename naming)) =
      (convert tokens).map (List.map (Token.rename naming)) := by
  unfold convert
  rw [Conversion.run_map_rename]
  cases Conversion.run tokens with
  | error fault => rfl
  | ok state => exact congrArg Except.ok (Conversion.finish_rename state)

/-! ## Evaluating renamed tokens -/

variable {context other : Context}

namespace Context

/-- A renaming carries an operand from one context to another: a numeral keeps its name,
and any other operand gets a name that is no numeral either and has in the other context
the same value, or like it none. -/
structure Carries
    (naming : String -> String)
    (context other : Context)
    (lexeme : String) : Prop where
  numeral : isNumeral lexeme = true -> naming lexeme = lexeme
  name : isNumeral lexeme = false ->
    isNumeral (naming lexeme) = false ∧ other.lookup? (naming lexeme) = context.lookup? lexeme

/-- Without renaming, it is enough that the contexts agree. -/
theorem carries_id
    {lexeme : String}
    (agree : isNumeral lexeme = false -> other.lookup? lexeme = context.lookup? lexeme) :
    Carries id context other lexeme where
  numeral _ := rfl
  name notNumeral := ⟨notNumeral, agree notNumeral⟩

/-- An operand that is carried has the same value, or has none for the same reason. -/
theorem Carries.operandValue
    {lexeme : String}
    (carries : Carries naming context other lexeme) :
    other.operandValue (naming lexeme) =
      (context.operandValue lexeme).mapError (Fault.rename naming) := by
  unfold Context.operandValue
  cases kind : isNumeral lexeme with
  | true =>
      rw [carries.numeral kind, kind, if_pos rfl, if_pos rfl]
      cases Decimal.read lexeme <;> rfl
  | false =>
      obtain ⟨notNumeral, sameValue⟩ := carries.name kind
      rw [notNumeral, sameValue, if_neg Bool.false_ne_true, if_neg Bool.false_ne_true]
      cases context.lookup? lexeme <;> rfl

end Context

open Context (Carries isNumeral)

namespace Evaluation

/-- What an operator is refused for has nothing to do with names. -/
theorem rename_fault_of_accept_operator
    {operands : Stack Number}
    {operator : Operator}
    {fault : Fault}
    (refused : accept context operands (.operator operator) = .error fault) :
    fault.rename naming = fault := by
  cases accept_eq_error_iff.mp refused with
  | tooFew few => rfl
  | application enough failed => rcases fault_of_apply failed with rfl | rfl | rfl <;> rfl

/-- What the end of an expression is refused for has nothing to do with names. -/
theorem rename_fault_of_finish
    {operands : Stack Number}
    {fault : Fault}
    (refused : finish operands = .error fault) :
    fault.rename naming = fault := by
  rcases finish_eq_error_iff.mp refused with ⟨-, rfl⟩ | ⟨-, rfl⟩
  · rfl
  · rfl

/-- A renamed token is accepted or refused as the token is. -/
theorem accept_rename
    {token : Token}
    (carries : ∀ lexeme, token = .operand lexeme -> Carries naming context other lexeme)
    (operands : Stack Number) :
    accept other operands (token.rename naming) =
      (accept context operands token).mapError (Fault.rename naming) := by
  cases token with
  | operand lexeme =>
      rw [Token.rename_operand, accept_operand, accept_operand,
        (carries lexeme rfl).operandValue]
      cases context.operandValue lexeme <;> rfl
  | operator operator =>
      symm
      apply Run.mapError_eq_self
      intro fault refused
      exact rename_fault_of_accept_operator refused

/-- A run over renamed tokens reaches the same operands. -/
theorem run_map_rename
    {tokens : List Token}
    (carries : ∀ lexeme, .operand lexeme ∈ tokens -> Carries naming context other lexeme) :
    run other (tokens.map (Token.rename naming)) =
      (run context tokens).mapError (Fault.rename naming) := by
  have whole : (tokens.map (Token.rename naming)).foldlM (accept other) (id .empty) =
      ((tokens.foldlM (accept context) .empty).map id).mapError (Fault.rename naming) := by
    apply Run.foldlM_translated
    intro current token present
    rw [Except.map_id, id_eq, id_eq]
    apply accept_rename
    rintro lexeme rfl
    exact carries lexeme present
  rwa [Except.map_id] at whole

end Evaluation

/-- Renamed tokens have the value of the tokens, or fail in the same way. -/
theorem evaluate_map_rename
    {tokens : List Token}
    (carries : ∀ lexeme, .operand lexeme ∈ tokens -> Carries naming context other lexeme) :
    evaluate other (tokens.map (Token.rename naming)) =
      (evaluate context tokens).mapError (Fault.rename naming) := by
  unfold evaluate
  rw [Evaluation.run_map_rename carries]
  cases Evaluation.run context tokens with
  | error fault => rfl
  | ok operands =>
      symm
      apply Run.mapError_eq_self
      intro fault refused
      exact Evaluation.rename_fault_of_finish refused

/-- Contexts that agree on the names among some tokens do not differ for these. -/
theorem evaluate_congr
    {tokens : List Token}
    (agree : ∀ lexeme, .operand lexeme ∈ tokens -> isNumeral lexeme = false ->
      other.lookup? lexeme = context.lookup? lexeme) :
    evaluate other tokens = evaluate context tokens := by
  -- This is the renaming that changes no name.
  have renamed : evaluate other (tokens.map (Token.rename id)) =
      (evaluate context tokens).mapError (Fault.rename id) := by
    apply evaluate_map_rename
    intro lexeme present
    exact Context.carries_id (agree lexeme present)
  rwa [Token.rename_id, Fault.rename_id, List.map_id, Run.mapError_id] at renamed

/-- Renaming operands before a conversion or after it is the same. If the renaming
carries all operands from one context to another, then the renamed output has in the
other context the value that the output has in the first one, or fails as it does, with
the renamed variable if one is unknown. And contexts that agree on the names among some
tokens do not differ for these: what is bound to other names, or to a numeral, or to the
empty text, does not matter. -/
theorem evaluate_convert_rename
    (naming : String -> String)
    (context other : Context)
    (tokens : List Token) :
    convert (tokens.map (Token.rename naming)) =
      (convert tokens).map (List.map (Token.rename naming)) ∧
    ((∀ lexeme, .operand lexeme ∈ tokens -> Carries naming context other lexeme) ->
      ∀ output, convert tokens = .ok output ->
        evaluate other (output.map (Token.rename naming)) =
          (evaluate context output).mapError (Fault.rename naming)) ∧
    ((∀ lexeme, .operand lexeme ∈ tokens -> isNumeral lexeme = false ->
        other.lookup? lexeme = context.lookup? lexeme) ->
      evaluate other tokens = evaluate context tokens ∧
        (convert tokens >>= evaluate other) = (convert tokens >>= evaluate context)) := by
  refine ⟨convert_map_rename tokens, ?_, ?_⟩
  · intro carries output converted
    apply evaluate_map_rename
    intro lexeme present
    exact carries lexeme ((operand_mem_iff_of_convert converted).mp present)
  · intro agree
    refine ⟨evaluate_congr agree, ?_⟩
    cases converted : convert tokens with
    | error fault => rfl
    | ok output =>
        apply evaluate_congr
        intro lexeme present
        exact agree lexeme ((operand_mem_iff_of_convert converted).mp present)

/-- Give two variables one name, and a constant another. -/
def oneNameForTwo (lexeme : String) : String :=
  if lexeme = "u" ∨ lexeme = "v" then "w" else if lexeme = "pi" then "p" else lexeme

/-- The tokens of `u / v + 2 * pi`. -/
def quotientAndCircle : List Token :=
  [.operand "u", .operator (.binary .div), .operand "v", .operator (.binary .add),
    .operand "2", .operator (.binary .mul), .operand "pi"]

/-- Bindings of a numeral, of the empty text and of a name that does not occur in
`u / v + 2 * pi`. -/
def besides : List (String × Number) :=
  [("2", Context.e), ("", Context.e), ("w", Context.e)]

/-- In `u / v + 2 * pi` neither `u` nor `v` has a value, so both can be renamed to `w`, and
`pi` to a variable with the same value; then `w` is unknown instead of `u`. Bindings of a
numeral, of the empty text and of a name that does not occur change nothing. -/
theorem evaluate_convert_rename_quotientAndCircle :
    (∀ lexeme, .operand lexeme ∈ quotientAndCircle ->
      Carries oneNameForTwo .standard (Context.standard.bind "p" Context.pi) lexeme) ∧
    (∀ lexeme, .operand lexeme ∈ quotientAndCircle -> isNumeral lexeme = false ->
      (Context.standard.bindAll besides).lookup? lexeme = Context.standard.lookup? lexeme) ∧
    ∃ output, convert quotientAndCircle = .ok output ∧
      convert (quotientAndCircle.map (Token.rename oneNameForTwo)) =
        .ok (output.map (Token.rename oneNameForTwo)) ∧
      evaluate .standard output = .error (.unknownVariable "u") ∧
      evaluate (Context.standard.bind "p" Context.pi)
          (output.map (Token.rename oneNameForTwo)) =
        .error (.unknownVariable "w") ∧
      evaluate (Context.standard.bindAll besides) quotientAndCircle =
        evaluate .standard quotientAndCircle ∧
      (convert quotientAndCircle >>= evaluate (Context.standard.bindAll besides)) =
        (convert quotientAndCircle >>= evaluate .standard) := by
  have among : ∀ lexeme, .operand lexeme ∈ quotientAndCircle ->
      lexeme = "u" ∨ lexeme = "v" ∨ lexeme = "2" ∨ lexeme = "pi" := by
    intro lexeme present
    simpa [quotientAndCircle] using present
  have carries : ∀ lexeme, .operand lexeme ∈ quotientAndCircle ->
      Carries oneNameForTwo .standard (Context.standard.bind "p" Context.pi) lexeme := by
    intro lexeme present
    rcases among lexeme present with rfl | rfl | rfl | rfl
    · exact ⟨nofun, fun _ => ⟨by decide, rfl⟩⟩
    · exact ⟨nofun, fun _ => ⟨by decide, rfl⟩⟩
    · exact ⟨fun _ => rfl, nofun⟩
    · exact ⟨nofun, fun _ => ⟨by decide, rfl⟩⟩
  have agree : ∀ lexeme, .operand lexeme ∈ quotientAndCircle -> isNumeral lexeme = false ->
      (Context.standard.bindAll besides).lookup? lexeme = Context.standard.lookup? lexeme := by
    intro lexeme present notNumeral
    rcases among lexeme present with rfl | rfl | rfl | rfl
    · rfl
    · rfl
    · cases notNumeral
    · rfl
  have converted : convert quotientAndCircle =
      .ok [.operand "u", .operand "v", .operator (.binary .div), .operand "2", .operand "pi",
        .operator (.binary .mul), .operator (.binary .add)] := rfl
  obtain ⟨renamed, evaluatesAlike, -⟩ := evaluate_convert_rename oneNameForTwo .standard
    (Context.standard.bind "p" Context.pi) quotientAndCircle
  obtain ⟨-, -, agreeOnAll⟩ := evaluate_convert_rename id .standard
    (Context.standard.bindAll besides) quotientAndCircle
  rw [converted] at renamed
  exact ⟨carries, agree, _, converted, renamed, rfl, evaluatesAlike carries _ converted,
    agreeOnAll agree⟩

end PostfixCalculator
