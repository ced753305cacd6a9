import PostfixCalculator.Log
import PostfixCalculator.Run
import PostfixCalculator.Stack
import PostfixCalculator.Token

/-!
# From infix to postfix order

Operands go to the output at once; operators wait on a stack until the input
shows that their right operand is complete. A binary operator releases the
waiting operators of the same or a higher rank, so all operators group to the
left, `^` among them. A closing parenthesis releases everything down to its
partner. At the end everything that waits is released, an opening parenthesis
without partner among it: that is no fault of a conversion.
-/

namespace PostfixCalculator

/-- The tokens put out so far and the operators that wait. -/
structure Conversion where
  output : Array Token
  waiting : Stack Operator

namespace Conversion

/-- Nothing is put out and nothing waits. -/
def start : Conversion :=
  ⟨#[], .empty⟩

/-- Put out a token. -/
def put (state : Conversion) (token : Token) : Conversion :=
  ⟨state.output.push token, state.waiting⟩

/-- Let an operator wait. -/
def hold (state : Conversion) (operator : Operator) : Conversion :=
  ⟨state.output, state.waiting.push operator⟩

/-- Put out waiting operators, the last one first, as long as they satisfy a
condition. -/
def releaseWhile (state : Conversion) (condition : Operator -> Bool) : Conversion :=
  let (released, kept) := state.waiting.popWhile condition
  ⟨state.output ++ released.map Token.operator, kept⟩

-- The attribute lets closed conversions be computed by unfolding: the recursion
-- is on the size of the stack, which would otherwise keep this sealed.
/-- Put out the waiting operators that go before a binary operator: the top one
is taken as long as its rank is the same or higher. -/
@[semireducible]
def releaseBefore (state : Conversion) (operator : BinaryOperator) : Except Fault Conversion :=
  match state.waiting.peek? with
  | none => .ok state
  | some top =>
      if top.rank < operator.rank then
        .ok state
      else
        match _taken : state.waiting.pop with
        | .error fault => .error fault
        | .ok (released, rest) =>
            releaseBefore ⟨state.output.push (.operator released), rest⟩ operator
termination_by state.waiting.size
decreasing_by
  rw [Stack.size_of_pop _taken]
  exact Nat.lt_succ_self _

/-- Release everything down to the last opening parenthesis, and remove that. -/
def close (state : Conversion) : Except Fault Conversion :=
  let released := state.releaseWhile (· != .opening)
  match released.waiting.pop with
  | .ok (_, rest) => .ok ⟨released.output, rest⟩
  | .error _ => .error .unbalancedParentheses

/-- Take the next token of the input. -/
def accept (state : Conversion) : Token -> Except Fault Conversion
  | .operand lexeme => .ok (state.put (.operand lexeme))
  | .operator .opening => .ok (state.hold .opening)
  | .operator .closing => state.close
  | .operator (.binary operator) => do
      let released ← state.releaseBefore operator
      return released.hold (.binary operator)

/-- The whole output once the input has ended. -/
def finish (state : Conversion) : List Token :=
  (state.releaseWhile fun _ => true).output.toList

/-- Nothing is released if the top, where there is one, fails the condition. -/
theorem releaseWhile_of_stops
    {state : Conversion}
    {condition : Operator -> Bool}
    (stops : ∀ top ∈ state.waiting.peek?, condition top = false) :
    state.releaseWhile condition = state := by
  obtain ⟨output, ⟨items⟩⟩ := state
  cases items with
  | nil => simp [releaseWhile, Stack.popWhile]
  | cons top below =>
      have failed : condition top = false := stops top rfl
      simp [releaseWhile, Stack.popWhile, failed]

/-- A top that satisfies the condition is released before what is below it. -/
theorem releaseWhile_of_pop
    {state : Conversion}
    {condition : Operator -> Bool}
    {top : Operator}
    {rest : Stack Operator}
    (taken : state.waiting.pop = .ok (top, rest))
    (satisfied : condition top = true) :
    state.releaseWhile condition =
      (⟨state.output.push (.operator top), rest⟩ : Conversion).releaseWhile condition := by
  obtain ⟨output, ⟨items⟩⟩ := state
  cases items with
  | nil => contradiction
  | cons first below =>
      cases taken
      simp [releaseWhile, Stack.popWhile, satisfied]

/-- What goes before a binary operator can always be taken: what is seen on top
of the stack is there. -/
theorem releaseBefore_eq_ok (state : Conversion) (operator : BinaryOperator) :
    state.releaseBefore operator =
      .ok (state.releaseWhile fun top => operator.rank ≤ top.rank) := by
  fun_induction releaseBefore state operator with
  | case1 state unseen =>
      rw [releaseWhile_of_stops]
      rw [unseen]
      nofun
  | case2 state top seen lower =>
      rw [releaseWhile_of_stops]
      intro other present
      cases seen.symm.trans present
      exact decide_eq_false (Nat.not_le_of_lt lower)
  | case3 state top seen stronger fault refused =>
      obtain ⟨rest, taken⟩ := Stack.exists_pop_of_peek? seen
      cases refused.symm.trans taken
  | case4 state top seen stronger released rest taken inductionHypothesis =>
      obtain ⟨below, takenTop⟩ := Stack.exists_pop_of_peek? seen
      cases taken.symm.trans takenTop
      rw [inductionHypothesis, ← releaseWhile_of_pop taken]
      exact decide_eq_true (Nat.le_of_not_lt stronger)

@[simp] theorem accept_operand (state : Conversion) (lexeme : String) :
    state.accept (.operand lexeme) = .ok (state.put (.operand lexeme)) := rfl

@[simp] theorem accept_opening (state : Conversion) :
    state.accept (.operator .opening) = .ok (state.hold .opening) := rfl

@[simp] theorem accept_closing (state : Conversion) :
    state.accept (.operator .closing) = state.close := rfl

@[simp] theorem accept_binary (state : Conversion) (operator : BinaryOperator) :
    state.accept (.operator (.binary operator)) =
      .ok ((state.releaseWhile fun top => operator.rank ≤ top.rank).hold
        (.binary operator)) := by
  rw [accept, releaseBefore_eq_ok]
  rfl

/-- The state after a list of tokens. -/
def run (tokens : List Token) : Except Fault Conversion :=
  tokens.foldlM accept start

/-- A state in a log: the output and the operators that wait. -/
def describe (state : Conversion) : String :=
  "shunting: out=" ++ Token.textOfList state.output.toList ++
    " ops=" ++ state.waiting.listing Operator.name

end Conversion

/-- Bring infix tokens into postfix order. -/
def convert (tokens : List Token) : Except Fault (List Token) :=
  (Conversion.run tokens).map Conversion.finish

/-- The log of a conversion: a line for each token that was accepted, and one
for the result if there is one. -/
def conversionLog (tokens : List Token) : List LogLine :=
  let steps := Run.visited Conversion.accept Conversion.start tokens
  let result :=
    match convert tokens with
    | .ok converted => [⟨.debug, "postfix: " ++ Token.textOfList converted⟩]
    | .error _ => []
  steps.map (fun state => ⟨.trace, state.describe⟩) ++ result

end PostfixCalculator
