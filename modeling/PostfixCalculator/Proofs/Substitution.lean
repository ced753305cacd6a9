import PostfixCalculator.Proofs.Grouping
import PostfixCalculator.Proofs.TreeEvaluation

/-!
# Variables in place of expressions

Tokens that have a value push it on any stack of operands and touch nothing else.
So does a variable that is bound to this value. If the variable is new, the tokens
around see no difference, and one can stand for the other.

This holds for tokens in postfix order wherever they stand, and so for a group of
infix tokens, which is converted as a block like an operand.
-/

namespace PostfixCalculator

variable {context : Context} {name : String} {value : Number}

namespace Context

/-- A name that is no number has the value that it is bound to. -/
theorem operandValue_bind (notNumeral : isNumeral name = false) :
    (context.bind name value).operandValue name = .ok value := by
  simp [operandValue, notNumeral, lookup?_bind]

/-- Binding a name does not matter for other operands. -/
theorem operandValue_bind_of_ne
    {lexeme : String}
    (different : lexeme ≠ name) :
    (context.bind name value).operandValue lexeme = context.operandValue lexeme := by
  simp [operandValue, lookup?_bind, different.symm]

end Context

namespace Evaluation

/-- Binding a name does not matter for another token. -/
theorem accept_bind_of_ne
    {token : Token}
    (different : .operand name ≠ token)
    (operands : Stack Number) :
    accept (context.bind name value) operands token = accept context operands token := by
  cases token with
  | operator operator => rfl
  | operand lexeme =>
      have otherName : lexeme ≠ name := fun same => different (same ▸ rfl)
      rw [accept_operand, accept_operand, Context.operandValue_bind_of_ne otherName]

/-- Binding a name does not matter for tokens without it. -/
theorem foldlM_accept_bind
    {tokens : List Token}
    (absent : .operand name ∉ tokens)
    (operands : Stack Number) :
    tokens.foldlM (accept (context.bind name value)) operands =
      tokens.foldlM (accept context) operands := by
  apply Run.foldlM_congr
  intro current token present
  exact accept_bind_of_ne (ne_of_mem_of_not_mem present absent).symm current

/-- Tokens that have a value push it on any stack. -/
theorem foldlM_accept_of_evaluate
    {tokens : List Token}
    (evaluated : evaluate context tokens = .ok value)
    (operands : Stack Number) :
    tokens.foldlM (accept context) operands = .ok (operands.push value) := by
  obtain ⟨expression, rfl, valued⟩ := Expression.exists_of_evaluate_eq_ok evaluated
  rw [expression.foldlM_accept_postorder, valued, Run.map_ok]

/-- A new variable that is bound to the value of some tokens can stand in their
place. -/
theorem run_bind_eq_run
    (notNumeral : Context.isNumeral name = false)
    {before block behind : List Token}
    (notBefore : .operand name ∉ before)
    (notBehind : .operand name ∉ behind)
    (evaluated : evaluate context block = .ok value) :
    run (context.bind name value) (before ++ [.operand name] ++ behind) =
      run context (before ++ block ++ behind) := by
  have pushed (operands : Stack Number) :
      [Token.operand name].foldlM (accept (context.bind name value)) operands =
        block.foldlM (accept context) operands := by
    rw [foldlM_accept_of_evaluate evaluated, List.foldlM_cons, accept_operand,
      Context.operandValue_bind notNumeral]
    rfl
  unfold run
  simp only [List.foldlM_append, foldlM_accept_bind notBefore, foldlM_accept_bind notBehind,
    pushed]

end Evaluation

/-- Tokens in postfix order that have a value can be replaced by a new variable that is
bound to it. The tokens around may be any, and the result is the same, be it a value or
a fault with all that it tells. -/
theorem evaluate_eq_evaluate_bind
    (context : Context)
    {before block behind : List Token}
    {name : String}
    {value : Number}
    (notNumeral : Context.isNumeral name = false)
    (notBefore : .operand name ∉ before)
    (notBehind : .operand name ∉ behind)
    (evaluated : evaluate context block = .ok value) :
    evaluate context (before ++ block ++ behind) =
      evaluate (context.bind name value) (before ++ [.operand name] ++ behind) := by
  unfold evaluate
  rw [Evaluation.run_bind_eq_run notNumeral notBefore notBehind evaluated]

/-- The tokens of `pi e -` in postfix order. -/
def differenceInPostfix : List Token :=
  [.operand "pi", .operand "e", .operator (.binary .sub)]

/-- Between the operands of `e` and `pi` the difference `pi e -` can be replaced by a
variable; with either, three operands are left over. -/
theorem evaluate_eq_evaluate_bind_differenceInPostfix :
    Context.isNumeral "d" = false ∧
      .operand "d" ∉ [Token.operand "e"] ∧ .operand "d" ∉ [Token.operand "pi"] ∧
      evaluate .standard differenceInPostfix =
        .ok (.ordinary (Context.pi.toFloat - Context.e.toFloat)) ∧
      evaluate .standard ([.operand "e"] ++ differenceInPostfix ++ [.operand "pi"]) =
        .error (.leftoverOperands 3) ∧
      evaluate .standard ([.operand "e"] ++ differenceInPostfix ++ [.operand "pi"]) =
        evaluate (Context.standard.bind "d"
            (.ordinary (Context.pi.toFloat - Context.e.toFloat)))
          ([.operand "e"] ++ [.operand "d"] ++ [.operand "pi"]) := by
  have notNumeral : Context.isNumeral "d" = false := by decide
  have notBefore : .operand "d" ∉ [Token.operand "e"] := by decide
  have notBehind : .operand "d" ∉ [Token.operand "pi"] := by decide
  have evaluated : evaluate .standard differenceInPostfix =
      .ok (.ordinary (Context.pi.toFloat - Context.e.toFloat)) := rfl
  exact ⟨notNumeral, notBefore, notBehind, evaluated, rfl,
    evaluate_eq_evaluate_bind .standard notNumeral notBefore notBehind evaluated⟩

/-- A group can be replaced by a new variable that is bound to its value. The
tokens around may be any, and the result is the same, be it a value or a fault. -/
theorem evaluate_convert_group
    (context : Context)
    {before inner behind : List Token}
    {name : String}
    {value : Number}
    (notNumeral : Context.isNumeral name = false)
    (notBefore : .operand name ∉ before)
    (notBehind : .operand name ∉ behind)
    (calculated : (convert inner >>= evaluate context) = .ok value) :
    (convert (before ++ ([.operator .opening] ++ inner ++ [.operator .closing]) ++ behind) >>=
        evaluate context) =
      (convert (before ++ [.operand name] ++ behind) >>=
        evaluate (context.bind name value)) := by
  obtain ⟨written, converted, evaluated⟩ := Run.bind_eq_ok_iff.mp calculated
  have noneOpen : .operator .opening ∉ written := by
    intro present
    obtain ⟨operator, isBinary⟩ :=
      Expression.exists_binary_of_evaluate_eq_ok evaluated present
    contradiction
  have group := Conversion.putsOut_group converted noneOpen
  rw [Conversion.convert_append_append group,
    Conversion.convert_append_append (Conversion.putsOut_operand name)]
  cases surrounded : Conversion.surround before behind with
  | error fault => rfl
  | ok around =>
      obtain ⟨operandsBefore, operandsBehind⟩ := Conversion.operands_of_surround surrounded
      rw [← Token.operand_mem_operands_iff, ← operandsBefore,
        Token.operand_mem_operands_iff] at notBefore
      rw [← Token.operand_mem_operands_iff, ← operandsBehind,
        Token.operand_mem_operands_iff] at notBehind
      rw [Run.map_ok, Run.map_ok, Run.ok_bind, Run.ok_bind, evaluate, evaluate,
        Evaluation.run_bind_eq_run notNumeral notBefore notBehind evaluated]

/-- The tokens of `2 *`. -/
def doubled : List Token :=
  [.operand "2", .operator (.binary .mul)]

/-- The tokens of `pi - e`. -/
def differenceOfConstants : List Token :=
  [.operand "pi", .operator (.binary .sub), .operand "e"]

/-- The tokens of `^ y (`. -/
def toThePower : List Token :=
  [.operator (.binary .pow), .operand "y", .operator .opening]

/-- In `2 * (pi - e) ^ y (`, where `y` has no value and a group is not closed, the
difference can be replaced by a variable. -/
theorem evaluate_convert_group_differenceOfConstants :
    Context.isNumeral "d" = false ∧ .operand "d" ∉ doubled ∧ .operand "d" ∉ toThePower ∧
      (convert differenceOfConstants >>= evaluate .standard) =
        .ok (.ordinary (Context.pi.toFloat - Context.e.toFloat)) ∧
      (convert (doubled ++
          ([.operator .opening] ++ differenceOfConstants ++ [.operator .closing]) ++
          toThePower) >>= evaluate .standard) =
        (convert (doubled ++ [.operand "d"] ++ toThePower) >>=
          evaluate (Context.standard.bind "d"
            (.ordinary (Context.pi.toFloat - Context.e.toFloat)))) := by
  have notNumeral : Context.isNumeral "d" = false := by decide
  have notBefore : .operand "d" ∉ doubled := by decide
  have notBehind : .operand "d" ∉ toThePower := by decide
  have calculated : (convert differenceOfConstants >>= evaluate .standard) =
      .ok (.ordinary (Context.pi.toFloat - Context.e.toFloat)) := rfl
  exact ⟨notNumeral, notBefore, notBehind, calculated,
    evaluate_convert_group .standard notNumeral notBefore notBehind calculated⟩

end PostfixCalculator
