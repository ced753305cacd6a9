import PostfixCalculator.Evaluation
import PostfixCalculator.Proofs.Run

/-!
# What an evaluation does at each step

An operand is pushed if it has a value. An operator needs two operands; what it
yields takes their place, and whatever lies below them stays. At the end a
single operand must be left. The lemmas say this as equations for stacks with
enough operands, and as equivalences that tell what a success implies.

A token either does something to the stack, which is a step, or is refused for one
of three causes: an operand has no value, an operator has too few operands, or it
has no result for those that it has. A whole evaluation fails exactly where one of
its tokens is refused or its end is.
-/

namespace PostfixCalculator
namespace Evaluation

@[simp] theorem accept_operand
    (context : Context)
    (operands : Stack Number)
    (lexeme : String) :
    accept context operands (.operand lexeme) =
      (context.operandValue lexeme).map operands.push := rfl

@[simp] theorem accept_operator
    (context : Context)
    (operands : Stack Number)
    (operator : Operator) :
    accept context operands (.operator operator) = applyTop operands operator := rfl

/-- Two operands on top are replaced by the result of the operator. -/
@[simp] theorem applyTop_push_push
    (rest : Stack Number)
    (left right : Number)
    (operator : Operator) :
    applyTop ((rest.push left).push right) operator =
      (operator.apply left right).map rest.push := by
  simp only [applyTop, takeOperand_push, Run.ok_bind]
  cases operator.apply left right <;> rfl

/-- An operand can be taken exactly from a stack that it is on top of. -/
theorem takeOperand_eq_ok_iff
    {operands rest : Stack Number}
    {value : Number} :
    takeOperand operands = .ok (value, rest) ↔ operands = rest.push value := by
  constructor
  · intro taken
    obtain ⟨items⟩ := operands
    cases items with
    | nil => cases taken
    | cons top below =>
        cases taken
        rfl
  · rintro rfl
    exact takeOperand_push rest value

/-- An operator succeeds exactly on two operands for which it has a result. -/
theorem applyTop_eq_ok_iff
    {operands next : Stack Number}
    {operator : Operator} :
    applyTop operands operator = .ok next ↔
      ∃ (rest : Stack Number) (left right result : Number),
        operands = (rest.push left).push right ∧
          operator.apply left right = .ok result ∧ next = rest.push result := by
  constructor
  · intro applied
    unfold applyTop at applied
    obtain ⟨⟨right, others⟩, rightTaken, applied⟩ := Run.bind_eq_ok_iff.mp applied
    obtain ⟨⟨left, rest⟩, leftTaken, applied⟩ := Run.bind_eq_ok_iff.mp applied
    obtain ⟨result, computed, applied⟩ := Run.bind_eq_ok_iff.mp applied
    cases applied
    refine ⟨rest, left, right, result, ?_, computed, rfl⟩
    rw [takeOperand_eq_ok_iff.mp rightTaken]
    exact congrArg (Stack.push · right) (takeOperand_eq_ok_iff.mp leftTaken)
  · rintro ⟨rest, left, right, result, rfl, computed, rfl⟩
    rw [applyTop_push_push, computed]
    rfl

/-- A single operand is the value. -/
@[simp] theorem finish_push_empty (value : Number) :
    finish (Stack.empty.push value) = .ok value := rfl

/-- There is a value exactly if it is the only operand left. -/
theorem finish_eq_ok_iff
    {operands : Stack Number}
    {value : Number} :
    finish operands = .ok value ↔ operands = Stack.empty.push value := by
  constructor
  · intro finished
    unfold finish at finished
    obtain ⟨⟨top, rest⟩, taken, finished⟩ := Run.bind_eq_ok_iff.mp finished
    obtain ⟨items⟩ := rest
    cases items with
    | nil =>
        cases finished
        exact takeOperand_eq_ok_iff.mp taken
    | cons next below => cases finished
  · rintro rfl
    exact finish_push_empty value

/-! ## Steps and refusals -/

/-- What a token can do to a stack that accepts it. -/
inductive Step (context : Context) : Stack Number -> Token -> Stack Number -> Prop
  | operand {operands : Stack Number} {lexeme : String} {value : Number}
      (found : context.operandValue lexeme = .ok value) :
      Step context operands (.operand lexeme) (operands.push value)
  | binary {rest : Stack Number} {left right result : Number} {operator : BinaryOperator}
      (computed : operator.apply left right = .ok result) :
      Step context ((rest.push left).push right) (.operator (.binary operator))
        (rest.push result)

/-- Why a stack refuses a token. -/
inductive Refusal (context : Context) (operands : Stack Number) : Token -> Fault -> Prop
  | operand {lexeme : String} {fault : Fault}
      (valueless : context.operandValue lexeme = .error fault) :
      Refusal context operands (.operand lexeme) fault
  | tooFew {operator : Operator}
      (few : operands.size < 2) :
      Refusal context operands (.operator operator) .stackUnderflow
  | application {rest : Stack Number} {left right : Number} {operator : Operator} {fault : Fault}
      (enough : operands = (rest.push left).push right)
      (failed : operator.apply left right = .error fault) :
      Refusal context operands (.operator operator) fault

variable {context : Context} {operands next : Stack Number} {token : Token} {fault : Fault}

/-- A token is accepted exactly if it can do something to the stack. -/
theorem accept_eq_ok_iff :
    accept context operands token = .ok next ↔ Step context operands token next := by
  constructor
  · intro accepted
    cases token with
    | operand lexeme =>
        rw [accept_operand] at accepted
        obtain ⟨value, found, rfl⟩ := Run.map_eq_ok_iff.mp accepted
        exact .operand found
    | operator operator =>
        obtain ⟨rest, left, right, result, rfl, computed, rfl⟩ :=
          applyTop_eq_ok_iff.mp accepted
        cases operator with
        | opening => cases computed
        | closing => cases computed
        | binary operator => exact .binary computed
  · intro step
    cases step with
    | operand found => rw [accept_operand, found, Run.map_ok]
    | @binary rest left right result operator computed =>
        rw [accept_operator, applyTop_push_push]
        exact Run.map_eq_ok_iff.mpr ⟨result, computed, rfl⟩

/-- An operator has no result only as a parenthesis, as a division by zero or as a power
without a real value. -/
theorem fault_of_apply
    {operator : Operator}
    {left right : Number}
    (failed : operator.apply left right = .error fault) :
    fault = .invalidOperator operator.text ∨ fault = .divisionByZero ∨
      fault = .noRealPower left.toFloat right.toFloat := by
  cases operator with
  | opening =>
      cases failed
      exact Or.inl rfl
  | closing =>
      cases failed
      exact Or.inl rfl
  | binary operator => exact Or.inr (BinaryOperator.fault_of_apply failed)

/-- A stack has less than two operands, or two on top. -/
theorem size_lt_two_or_exists_push_push (operands : Stack Number) :
    operands.size < 2 ∨ ∃ (rest : Stack Number) (left right : Number),
      operands = (rest.push left).push right := by
  obtain ⟨items⟩ := operands
  match items with
  | [] => exact Or.inl Nat.zero_lt_two
  | [_] => exact Or.inl Nat.one_lt_two
  | right :: left :: rest => exact Or.inr ⟨⟨rest⟩, left, right, rfl⟩

/-- With less than two operands no operator can be applied. -/
theorem applyTop_of_size_lt
    (few : operands.size < 2)
    (operator : Operator) :
    applyTop operands operator = .error .stackUnderflow := by
  obtain ⟨items⟩ := operands
  match items, few with
  | [], _ => rfl
  | [_], _ => rfl

/-- A token is refused exactly if there is a cause. -/
theorem accept_eq_error_iff :
    accept context operands token = .error fault ↔ Refusal context operands token fault := by
  constructor
  · intro refused
    cases token with
    | operand lexeme =>
        rw [accept_operand, Run.map_eq_error_iff] at refused
        exact .operand refused
    | operator operator =>
        rw [accept_operator] at refused
        rcases size_lt_two_or_exists_push_push operands with few | ⟨rest, left, right, rfl⟩
        · rw [applyTop_of_size_lt few] at refused
          cases refused
          exact .tooFew few
        · rw [applyTop_push_push, Run.map_eq_error_iff] at refused
          exact .application rfl refused
  · intro refusal
    cases refusal with
    | operand valueless => rw [accept_operand, valueless, Run.map_error]
    | tooFew few => exact applyTop_of_size_lt few _
    | application enough failed =>
        rw [enough, accept_operator, applyTop_push_push, failed, Run.map_error]

/-- At the end there is a fault exactly if no operand is left or several are. -/
theorem finish_eq_error_iff :
    finish operands = .error fault ↔
      operands.size = 0 ∧ fault = .stackUnderflow ∨
        2 ≤ operands.size ∧ fault = .leftoverOperands operands.size := by
  obtain ⟨items⟩ := operands
  match items with
  | [] =>
      have failed : finish ⟨[]⟩ = .error .stackUnderflow := rfl
      simp [failed, Stack.size, eq_comm]
  | [value] =>
      have finished : finish ⟨[value]⟩ = .ok value := rfl
      simp [finished, Stack.size]
  | top :: below :: rest =>
      have failed : finish ⟨top :: below :: rest⟩ =
          .error (.leftoverOperands (rest.length + 1 + 1)) := rfl
      simp [failed, Stack.size, eq_comm]

/-- An evaluation fails exactly if a token is refused by the operands before it, or
if the end is refused. -/
theorem evaluate_eq_error_iff {tokens : List Token} :
    evaluate context tokens = .error fault ↔
      (∃ done token rest reached, tokens = done ++ token :: rest ∧
        run context done = .ok reached ∧ Refusal context reached token fault) ∨
      ∃ reached, run context tokens = .ok reached ∧ finish reached = .error fault := by
  rw [evaluate, Run.bind_eq_error_iff, run, Run.foldlM_eq_error_iff]
  simp only [accept_eq_error_iff]
  rfl

end Evaluation
end PostfixCalculator
