import PostfixCalculator.Proofs.ArgumentReading
import PostfixCalculator.Proofs.VariableNames
import PostfixCalculator.Proofs.WrittenNumber

/-!
# Where the options of a command line stand

Options may stand before the subcommand and after it, and after it they may stand on
either side of the text. Where they stand makes no difference beyond the bindings that
count, which are those after the subcommand if there are any. So a command line comes to
what the calculation on its text comes to, in the context of its bindings, whatever it is
that reads the arguments by the rules.
-/

namespace PostfixCalculator

/-- What is told of a fault. -/
def Fault.IsTold : Fault -> String -> Prop
  | .invalidOperator symbol, text => text = "Invalid operator: " ++ symbol
  | .unbalancedParentheses, text => text = "Unbalanced parentheses"
  | .stackUnderflow, text => text = "Stack underflow: not enough operands"
  | .divisionByZero, text => text = "Division by zero"
  | .noRealPower base exponent, text =>
      ∃ left right, (Number.ordinary base).IsPrinted left ∧
        (Number.ordinary exponent).IsPrinted right ∧
        text = "Invalid operation: " ++ left ++ " ^ " ++ right ++ " has no real value"
  | .badNumber lexeme, text => text = "Invalid operation: Bad number: " ++ lexeme
  | .unknownVariable name, text => text = "Unknown variable: " ++ name
  | .leftoverOperands count, text =>
      text = "Malformed expression: " ++ toString count ++ " operands left on the stack"
  | .emptyContainer, text => text = "Can't pop from empty stack"

/-- The wording of a fault is what is to be told of it. -/
theorem Fault.isTold_message (fault : Fault) : fault.IsTold fault.message := by
  cases fault with
  | noRealPower base exponent =>
      exact ⟨_, _, Number.write_plain_eq_iff.mp rfl, Number.write_plain_eq_iff.mp rfl, rfl⟩
  | _ => rfl

namespace CommandLine

/-- What is shown of a result: the text of a value with exit code 0, or what is told of a
fault with exit code 1. -/
inductive Display.Shows {Value : Type} (isText : Value -> String -> Prop) :
    Display -> Except Fault Value -> Prop
  | value {value : Value} {text : String} (printed : isText value text) :
      Shows isText ⟨0, text ++ "\n", ""⟩ (.ok value)
  | fault {fault : Fault} {text : String} (told : fault.IsTold text) :
      Shows isText ⟨1, "", text ++ "\n"⟩ (.error fault)

section Outcome

variable {Refusal : Type}

/-- A result that answers a request on a line of its own is shown. -/
theorem Request.shows_display_outcome
    {Value : Type}
    {isText : Value -> String -> Prop}
    (write : Value -> String)
    (isWritten : ∀ value, isText value (write value))
    {request : Request}
    {result : Except Fault Value}
    (answers : request.answer = result.map fun value => .line (write value))
    (refuse : Refusal -> Display) :
    (request.outcome.display refuse).Shows isText result := by
  rw [outcome, answers]
  cases result with
  | ok value => exact .value (isWritten value)
  | error fault => exact .fault fault.isTold_message

/-- The arguments come to what answering their request comes to. -/
theorem FollowsRules.outcome_eq
    {read : List String -> Except Refusal Request}
    {name : String}
    {command : String -> Command}
    (rules : FollowsRules read name command)
    (invocation : Invocation) :
    Outcome.ofArguments read (invocation.words name) =
      Request.outcome ⟨invocation.bindings, 0, command invocation.text⟩ := by
  obtain ⟨verbosity, isRead⟩ := rules.reads_words invocation
  rw [Outcome.ofArguments, isRead]
  rfl

end Outcome

/-- The value of a name under the bindings of a command line: the last that binds it
counts, and then the constants. -/
theorem lookup?_contextOf (bindings : List Binding) (name : String) :
    (contextOf bindings).lookup? name =
      ((bindings.reverse.find? (·.name == name)).map fun binding => .ordinary binding.value).or
        (Context.standard.lookup? name) := by
  rw [contextOf, Context.lookup?_bindAll, ← List.map_reverse, List.find?_map, Option.map_map]
  rfl

/-- Whatever it is that reads arguments by the rules, and wherever the options stand: a
command line shows what the calculation on its text gives, which is the result with exit
code 0 or the fault with exit code 1. Two command lines with the same text and the same
bindings that count come to the same. In the context of the calculation a name has the
value of the last binding of it, and without one only the constants have a value. -/
theorem Invocation.display_outcome
    {Refusal : Type}
    {read : List String -> Except Refusal Request}
    (rules : ∀ name command, IsNamed name command -> FollowsRules read name command)
    (refuse : Refusal -> Display)
    (invocation : Invocation) :
    ((Outcome.ofArguments read (invocation.words "postfix")).display refuse).Shows
      (fun tokens text => text = " ".intercalate (tokens.map Token.text))
      (convertText invocation.text) ∧
    ((Outcome.ofArguments read (invocation.words "eval")).display refuse).Shows
      Number.IsPrinted (evaluateText (contextOf invocation.bindings) invocation.text) ∧
    ((Outcome.ofArguments read (invocation.words "calc")).display refuse).Shows
      Number.IsPrinted
      (convertText invocation.text >>= evaluate (contextOf invocation.bindings)) ∧
    (∀ other : Invocation, other.text = invocation.text ->
      other.bindings = invocation.bindings -> ∀ name command, IsNamed name command ->
        Outcome.ofArguments read (other.words name) =
          Outcome.ofArguments read (invocation.words name)) ∧
    ∀ name : String, (contextOf invocation.bindings).lookup? name =
      match invocation.bindings.reverse.find? (·.name == name) with
      | some binding => some (.ordinary binding.value)
      | none =>
          if name = "e" then some Context.e
          else if name = "pi" then some Context.pi
          else none := by
  have isPrinted (value : Number) : value.IsPrinted (value.write Decimal.plain) :=
    Number.write_plain_eq_iff.mp rfl
  refine ⟨?_, ?_, ?_, ?_, ?_⟩
  · rw [(rules _ _ .reorder).outcome_eq]
    refine Request.shows_display_outcome Token.textOfList (fun _ => ?_) ?_ refuse <;> rfl
  · rw [(rules _ _ .evaluate).outcome_eq]
    exact Request.shows_display_outcome (·.write Decimal.plain) isPrinted rfl refuse
  · rw [(rules _ _ .calculate).outcome_eq]
    exact Request.shows_display_outcome (·.write Decimal.plain) isPrinted rfl refuse
  · intro other sameText sameBindings name command named
    rw [(rules _ _ named).outcome_eq, (rules _ _ named).outcome_eq, sameText, sameBindings]
  · intro name
    rw [lookup?_contextOf, Context.lookup?_standard]
    cases invocation.bindings.reverse.find? (·.name == name) <;> rfl

/-- Of `-v --var x=1 eval --var=x=3 x --verbose` the binding after the subcommand counts, as
it does of `eval --var x=3 -- x`, so `3` is printed. -/
theorem Invocation.display_outcome_bindingOnBothSides :
    (Outcome.ofArguments Request.ofArguments
      ["-v", "--var", "x=1", "eval", "--var=x=3", "x", "--verbose"]).display UsageFault.display =
        ⟨0, "3\n", ""⟩ ∧
      Outcome.ofArguments Request.ofArguments ["eval", "--var", "x=3", "--", "x"] =
        Outcome.ofArguments Request.ofArguments
          ["-v", "--var", "x=1", "eval", "--var=x=3", "x", "--verbose"] := by
  let three : Float := .ofScientific 3 false 0
  let first : WrittenBinding := ⟨"x=1", ⟨"x", .ofScientific 1 false 0⟩, by decide +kernel⟩
  let second : WrittenBinding := ⟨"x=3", ⟨"x", three⟩, by decide +kernel⟩
  let invocation : Invocation :=
    ⟨[.verboseShort, .bindingApart first],
      .among [.bindingJoined second] "x" (Or.inr (by simp)) [.verboseLong]⟩
  let other : Invocation := ⟨[], .separated [.bindingApart second] "x"⟩
  obtain ⟨-, shows, -, alike, -⟩ := Invocation.display_outcome
    (fun _ _ named => named.followsRules) UsageFault.display invocation
  refine ⟨?_, alike other rfl rfl _ _ .evaluate⟩
  have value : evaluateText (contextOf invocation.bindings) invocation.text =
      .ok (.ordinary three) :=
    evaluateText_bind (by decide) Context.standard (.ordinary three)
  rw [value] at shows
  generalize shown : Outcome.display _ _ = display at shows
  cases shows with
  | @value _ text printed =>
      have isThree : (Number.ordinary three).write Decimal.plain = "3" := by decide +kernel
      rw [← Number.write_plain_eq_iff.mpr printed, isThree] at shown
      exact shown

end CommandLine
end PostfixCalculator
