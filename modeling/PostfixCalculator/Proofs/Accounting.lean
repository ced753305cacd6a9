import PostfixCalculator.Proofs.Conservation
import PostfixCalculator.Proofs.Parentheses
import PostfixCalculator.Proofs.TreeEvaluation

/-!
# Accounting for tokens

A conversion neither loses nor adds a token: what is put out or waits is what has
been read, except that each closing parenthesis has taken an opening one away with
itself. So an opening parenthesis that is left open is put out in the end, and the
output has as many operands and binary operators as the input.

An evaluation has one operand on its stack for each operand that it has accepted,
less one for each binary operator, and it accepts no parenthesis.

So infix tokens have a value only if their parentheses match and they have one
operand more than binary operators.
-/

namespace PostfixCalculator

namespace Token

/-- Whether a token is a binary operator. -/
def isBinary : Token -> Bool
  | .operator (.binary _) => true
  | .operator .opening => false
  | .operator .closing => false
  | .operand _ => false

/-- The number of binary operators. -/
def binaries (tokens : List Token) : Nat :=
  tokens.countP isBinary

theorem binaries_append (first second : List Token) :
    binaries (first ++ second) = binaries first + binaries second :=
  List.countP_append

/-- A number of opening parentheses, each with its closing one. -/
def pairs (count : Nat) : List Token :=
  (List.replicate count [.operator .opening, .operator .closing]).flatten

theorem pairs_add (first second : Nat) :
    pairs (first + second) = pairs first ++ pairs second := by
  rw [pairs, ← List.replicate_append_replicate, List.flatten_append]
  rfl

/-- Each pair counts as often as the others. -/
theorem countP_pairs (counted : Token -> Bool) (count : Nat) :
    (pairs count).countP counted =
      count * [operator .opening, operator .closing].countP counted := by
  rw [pairs, List.countP_flatten, List.map_replicate, List.sum_replicate_nat]

end Token

namespace Conversion

open Token

variable {state next : Conversion} {token : Token} {tokens : List Token}

/-- A token is put out or waits, except that a closing parenthesis goes with an
opening one. -/
theorem Step.finish_perm (step : Step state token next) :
    (next.finish ++ pairs (closings [token])).Perm (state.finish ++ [token]) := by
  rw [List.perm_iff_count]
  intro counted
  rw [finish_eq, finish_eq]
  cases step with
  | operand lexeme =>
      rw [output_put, waiting_put, show pairs (closings [.operand lexeme]) = [] from rfl]
      simp only [List.count_append, List.count_nil]
      omega
  | opening =>
      rw [output_hold, waiting_hold, show pairs (closings [.operator .opening]) = [] from rfl]
      simp only [List.map_cons, List.count_append, List.count_cons, List.count_nil]
      omega
  | closing waiting noOpening =>
      rw [output_release, waiting_release, waiting,
        show pairs (closings [.operator .closing]) = [.operator .opening, .operator .closing]
          from rfl]
      simp only [List.map_append, List.map_cons, List.count_append, List.count_cons,
        List.count_nil]
      omega
  | @binary operator released kept waiting releases stops =>
      rw [output_hold, output_release, waiting_hold, waiting_release, waiting,
        show pairs (closings [.operator (.binary operator)]) = [] from rfl]
      simp only [List.map_append, List.map_cons, List.count_append, List.count_cons,
        List.count_nil]
      omega

/-- What a run has put out and keeps waiting is what was there before and the tokens
read, without those that are closed. -/
theorem finish_perm_of_foldlM
    {reached : Conversion}
    (ran : tokens.foldlM accept state = .ok reached) :
    (reached.finish ++ pairs (closings tokens)).Perm (state.finish ++ tokens) := by
  refine Run.foldlM_induction (motive := fun done current =>
    (current.finish ++ pairs (closings done)).Perm (state.finish ++ done)) (.refl _) ?_ ran
  intro done current token next soFar accepted
  have step := (accept_eq_ok_iff.mp accepted).finish_perm
  rw [List.perm_iff_count] at soFar step ⊢
  intro counted
  have before := soFar counted
  have change := step counted
  simp only [closings_append, pairs_add, List.count_append] at before change ⊢
  omega

end Conversion

open Token

variable {tokens output : List Token}

/-- The output is the input without the parentheses that are closed. -/
theorem perm_of_convert (converted : convert tokens = .ok output) :
    (output ++ pairs (closings tokens)).Perm tokens := by
  obtain ⟨state, ran, rfl⟩ := convert_eq_ok_iff.mp converted
  exact Conversion.finish_perm_of_foldlM ran

/-- Whatever is counted, each parenthesis that is closed makes the difference of a
pair. -/
theorem countP_of_convert
    (converted : convert tokens = .ok output)
    (counted : Token -> Bool) :
    output.countP counted +
        closings tokens * [operator .opening, operator .closing].countP counted =
      tokens.countP counted := by
  rw [← countP_pairs, ← List.countP_append]
  exact (perm_of_convert converted).countP_eq counted

/-- The output has as many binary operators as the input. -/
theorem binaries_eq_of_convert (converted : convert tokens = .ok output) :
    binaries output = binaries tokens :=
  countP_of_convert converted isBinary

/-- The opening parentheses of the output are those that are left open. -/
theorem openings_add_closings_of_convert (converted : convert tokens = .ok output) :
    openings output + closings tokens = openings tokens := by
  have counted : openings output + closings tokens * 1 = openings tokens :=
    countP_of_convert converted (· == .operator .opening)
  rwa [Nat.mul_one] at counted

/-- The output has no closing parenthesis. -/
theorem closings_eq_zero_of_convert (converted : convert tokens = .ok output) :
    closings output = 0 := by
  have counted : closings output + closings tokens * 1 = closings tokens :=
    countP_of_convert converted (· == .operator .closing)
  omega

namespace Evaluation

variable {context : Context} {stack next : Stack Number} {token : Token}

/-- An operand makes the stack one higher, and a binary operator one lower. -/
theorem Step.size_eq (step : Step context stack token next) :
    next.size + binaries [token] = stack.size + (Token.operands [token]).length := by
  cases step with
  | operand found => rfl
  | binary computed => rfl

/-- No parenthesis is accepted. -/
theorem Step.notParenthesis (step : Step context stack token next) :
    openings [token] = 0 ∧ closings [token] = 0 := by
  cases step with
  | operand found => exact ⟨rfl, rfl⟩
  | binary computed => exact ⟨rfl, rfl⟩

/-- After a run the stack is higher by the number of operands, and lower by the
number of binary operators. -/
theorem size_of_foldlM
    {reached : Stack Number}
    (ran : tokens.foldlM (accept context) stack = .ok reached) :
    reached.size + binaries tokens = stack.size + (Token.operands tokens).length := by
  refine Run.foldlM_induction (motive := fun done current =>
    current.size + binaries done = stack.size + (Token.operands done).length) rfl ?_ ran
  intro done current token next soFar accepted
  have change := (accept_eq_ok_iff.mp accepted).size_eq
  rw [binaries_append, operands_append, List.length_append]
  omega

/-- Tokens that are accepted have no parentheses. -/
theorem no_parentheses_of_foldlM
    {reached : Stack Number}
    (ran : tokens.foldlM (accept context) stack = .ok reached) :
    openings tokens = 0 ∧ closings tokens = 0 := by
  refine Run.foldlM_induction (motive := fun done _ =>
    openings done = 0 ∧ closings done = 0) ⟨rfl, rfl⟩ ?_ ran
  intro done current token next soFar accepted
  have notParenthesis := (accept_eq_ok_iff.mp accepted).notParenthesis
  rw [openings_append, closings_append]
  omega

end Evaluation

/-- If all tokens of a conversion are accepted, the parentheses of its input match,
and the operands and binary operators of its input make up the stack. -/
theorem parenthesesMatch_of_run
    {context : Context}
    {reached : Stack Number}
    (converted : convert tokens = .ok output)
    (ran : Evaluation.run context output = .ok reached) :
    ParenthesesMatch tokens ∧
      reached.size + binaries tokens = (Token.operands tokens).length := by
  have noneLeft := (Evaluation.no_parentheses_of_foldlM ran).1
  have leftOpen := openings_add_closings_of_convert converted
  have height := Evaluation.size_of_foldlM ran
  rw [binaries_eq_of_convert converted, operands_eq_of_convert converted, Stack.size_empty,
    Nat.zero_add] at height
  refine ⟨⟨?_, ?_⟩, height⟩
  · intro start isStart
    exact closings_le_openings_of_convert converted isStart
  · omega

/-- Infix tokens with a value have matching parentheses and one operand more than
binary operators. So a parenthesis that is left open ends in a fault, and postfix
tokens with a value have no parenthesis at all. -/
theorem parenthesesMatch_of_evaluate_convert (context : Context) (tokens : List Token) :
    (∀ value, (convert tokens >>= evaluate context) = .ok value ->
      ParenthesesMatch tokens ∧ (Token.operands tokens).length = binaries tokens + 1) ∧
    (closings tokens < openings tokens ->
      ∃ fault, (convert tokens >>= evaluate context) = .error fault) ∧
    ∀ value, evaluate context tokens = .ok value ->
      .operator .opening ∉ tokens ∧ .operator .closing ∉ tokens := by
  have matched : ∀ value, (convert tokens >>= evaluate context) = .ok value ->
      ParenthesesMatch tokens ∧ (Token.operands tokens).length = binaries tokens + 1 := by
    intro value calculated
    obtain ⟨output, converted, evaluated⟩ := Run.bind_eq_ok_iff.mp calculated
    obtain ⟨reached, ran, finished⟩ := Run.bind_eq_ok_iff.mp evaluated
    obtain ⟨parenthesesMatch, height⟩ := parenthesesMatch_of_run converted ran
    rw [Evaluation.finish_eq_ok_iff.mp finished, Stack.size_push, Stack.size_empty] at height
    exact ⟨parenthesesMatch, by omega⟩
  refine ⟨matched, ?_, ?_⟩
  · intro leftOpen
    cases calculated : convert tokens >>= evaluate context with
    | error fault => exact ⟨fault, rfl⟩
    | ok value =>
        have asMany := (matched value calculated).1.2
        omega
  · intro value evaluated
    obtain ⟨reached, ran, -⟩ := Run.bind_eq_ok_iff.mp evaluated
    obtain ⟨noOpening, noClosing⟩ := Evaluation.no_parentheses_of_foldlM ran
    exact ⟨List.count_eq_zero.mp noOpening, List.count_eq_zero.mp noClosing⟩

/-- The tokens of `(pi ^ e)`. -/
def powerInGroup : List Token :=
  [.operator .opening, .operand "pi", .operator (.binary .pow), .operand "e", .operator .closing]

/-- The group `(pi ^ e)` has a value, and without its end it has none. -/
theorem parenthesesMatch_of_evaluate_convert_powerInGroup :
    (convert powerInGroup >>= evaluate .standard) =
        .ok (.ordinary (Context.pi.toFloat.pow Context.e.toFloat)) ∧
      ParenthesesMatch powerInGroup ∧
      (Token.operands powerInGroup).length = binaries powerInGroup + 1 ∧
      closings powerInGroup.dropLast < openings powerInGroup.dropLast ∧
      ∃ fault, (convert powerInGroup.dropLast >>= evaluate .standard) = .error fault := by
  have calculated : (convert powerInGroup >>= evaluate .standard) =
      .ok (.ordinary (Context.pi.toFloat.pow Context.e.toFloat)) := rfl
  have leftOpen : closings powerInGroup.dropLast < openings powerInGroup.dropLast := by decide
  obtain ⟨matched, -, -⟩ := parenthesesMatch_of_evaluate_convert .standard powerInGroup
  obtain ⟨-, fails, -⟩ := parenthesesMatch_of_evaluate_convert .standard powerInGroup.dropLast
  obtain ⟨parenthesesMatch, operands⟩ := matched _ calculated
  exact ⟨calculated, parenthesesMatch, operands, leftOpen, fails leftOpen⟩

end PostfixCalculator
