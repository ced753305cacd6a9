import PostfixCalculator.Proofs.Conservation
import PostfixCalculator.Proofs.TreeEvaluation

/-!
# The outcome of an evaluation

Tokens need not be an expression to be evaluated, and what comes of them can be told
from them alone. A token fails where it is an operand without a value, an operator
with too few operands before it, or an operator without a result for the two last
values before it. How many values there are before a token is a count: operands less
operators. The first token that fails decides the fault.

Where no token fails, the tokens are the postorders of some trees, in one way only.
A single tree is an expression with a value, several are left over, and there is none
only if there is no token.

The proof compares with the stack: before the first token that fails it holds the
values of the trees, and a token is refused by the stack exactly if it fails.
-/

namespace PostfixCalculator

namespace Token

/-- The number of operands less the number of operators, parentheses among them. -/
def height (tokens : List Token) : Int :=
  (operands tokens).length - tokens.countP isOperator

@[simp] theorem height_append (first second : List Token) :
    height (first ++ second) = height first + height second := by
  simp only [height, operands_append, List.length_append, List.countP_append]
  omega

end Token

namespace Expression

open Token

/-- A tree has one operand more than operators. -/
@[simp] theorem height_postorder (expression : Expression) :
    height expression.postorder = 1 := by
  induction expression with
  | operand lexeme => rfl
  | apply operator left right leftHypothesis rightHypothesis =>
      have last : height [.operator (.binary operator)] = -1 := rfl
      rw [postorder_apply, height_append, height_append, leftHypothesis, rightHypothesis, last]
      rfl

/-- The height of some trees is their number. -/
theorem height_postorders (forest : List Expression) :
    height (postorders forest) = forest.length := by
  induction forest with
  | nil => rfl
  | cons expression rest inductionHypothesis =>
      rw [postorders_cons, height_append, height_postorder, inductionHypothesis,
        List.length_cons, Int.natCast_succ]

/-- Trees are assembled from their postorders. -/
@[simp] theorem assemble_postorders (forest : List Expression) :
    assemble (postorders forest) = some forest := by
  induction forest with
  | nil => rfl
  | cons expression rest inductionHypothesis =>
      rw [assemble] at inductionHypothesis ⊢
      rw [postorders_cons, List.foldlM_append, inductionHypothesis]
      exact foldlM_assembleStep_postorder expression rest

/-- Tokens are the postorders of some trees in one way only. -/
theorem postorders_injective
    {first second : List Expression}
    (same : postorders first = postorders second) :
    first = second := by
  have assembled := congrArg assemble same
  simpa using assembled

/-- The postorders of trees in their order. -/
theorem postorders_reverse (trees : List Expression) :
    postorders trees.reverse = trees.flatMap postorder := by
  rw [postorders, List.reverse_reverse]

/-- The two last trees in their order are the two first in the order of the stack. -/
theorem flatMap_postorder_append_pair (others : List Expression) (left right : Expression) :
    (others ++ [left, right]).flatMap postorder = postorders (right :: left :: others.reverse) := by
  rw [← postorders_reverse, List.reverse_append]
  rfl

/-- Each operand on a stack is the value of one tree. -/
theorem Represents.size_eq
    {context : Context}
    {forest : List Expression}
    {operands : Stack Number}
    (represents : Represents context forest operands) :
    operands.size = forest.length := by
  have lengths := congrArg List.length represents
  rw [List.length_map, List.length_map] at lengths
  exact lengths.symm

/-- The value of the last tree is on top. -/
theorem Represents.exists_push
    {context : Context}
    {expression : Expression}
    {forest : List Expression}
    {operands : Stack Number}
    (represents : Represents context (expression :: forest) operands) :
    ∃ value below, operands = below.push value ∧ expression.value context = .ok value ∧
      Represents context forest below := by
  obtain ⟨items⟩ := operands
  cases items with
  | nil => simp [Represents] at represents
  | cons top rest =>
      have pushed : Represents context (expression :: forest) ((⟨rest⟩ : Stack Number).push top) :=
        represents
      exact ⟨top, ⟨rest⟩, rfl, represents_cons_push.mp pushed⟩

end Expression

namespace Evaluation

open Token Expression

/-- Why the token at a position of some tokens fails. -/
inductive FailsAt (context : Context) (tokens : List Token) (position : Nat) : Fault -> Prop
  | operand {lexeme : String} {fault : Fault}
      (found : tokens[position]? = some (.operand lexeme))
      (valueless : context.operandValue lexeme = .error fault) :
      FailsAt context tokens position fault
  | tooFew {operator : Operator}
      (found : tokens[position]? = some (.operator operator))
      (few : height (tokens.take position) < 2) :
      FailsAt context tokens position .stackUnderflow
  | application {operator : Operator} {others : List Expression} {left right : Expression}
      {leftValue rightValue : Number} {fault : Fault}
      (found : tokens[position]? = some (.operator operator))
      (before : tokens.take position = (others ++ [left, right]).flatMap postorder)
      (leftValued : left.value context = .ok leftValue)
      (rightValued : right.value context = .ok rightValue)
      (failed : operator.apply leftValue rightValue = .error fault) :
      FailsAt context tokens position fault

variable {context : Context} {tokens : List Token} {position : Nat} {fault : Fault}

/-- Tokens that are evaluated without a fault are the postorders of the trees whose
values are on the stack. -/
theorem exists_represents_of_run
    {operands : Stack Number}
    (ran : run context tokens = .ok operands) :
    ∃ forest, tokens = postorders forest ∧ Represents context forest operands := by
  obtain ⟨forest, tokensRead, represents⟩ := (represents_nil_empty context).foldlM_accept ran
  exact ⟨forest, tokensRead.symm, represents⟩

/-- After a run there are as many operands as the height of the tokens tells. -/
theorem size_eq_height
    {operands : Stack Number}
    (ran : run context tokens = .ok operands) :
    (operands.size : Int) = height tokens := by
  obtain ⟨forest, rfl, represents⟩ := exists_represents_of_run ran
  rw [represents.size_eq, height_postorders]

/-- Where no token has failed before, the stack refuses a token that fails. -/
theorem FailsAt.refusal
    {operands : Stack Number}
    {token : Token}
    (fails : FailsAt context tokens position fault)
    (ran : run context (tokens.take position) = .ok operands)
    (found : tokens[position]? = some token) :
    Refusal context operands token fault := by
  cases fails with
  | operand isOperand valueless =>
      cases found.symm.trans isOperand
      exact .operand valueless
  | tooFew isOperator few =>
      cases found.symm.trans isOperator
      have size_eq := size_eq_height ran
      exact .tooFew (by omega)
  | @application operator others left right _ _ _ isOperator before leftValued rightValued failed =>
      cases found.symm.trans isOperator
      -- The trees before the token are those on the stack, as there is no other way to read it.
      obtain ⟨forest, read, represents⟩ := exists_represents_of_run ran
      have trees : forest = right :: left :: others.reverse := by
        apply postorders_injective
        rw [← read, before, flatMap_postorder_append_pair]
      rw [trees] at represents
      obtain ⟨top, lower, rfl, topValued, representsLower⟩ := represents.exists_push
      obtain ⟨next, rest, rfl, nextValued, -⟩ := representsLower.exists_push
      cases rightValued.symm.trans topValued
      cases leftValued.symm.trans nextValued
      exact .application rfl failed

/-- What the stack refuses fails. -/
theorem Refusal.failsAt
    {operands : Stack Number}
    {token : Token}
    (refusal : Refusal context operands token fault)
    (ran : run context (tokens.take position) = .ok operands)
    (found : tokens[position]? = some token) :
    FailsAt context tokens position fault := by
  cases refusal with
  | operand valueless => exact .operand found valueless
  | tooFew few =>
      have size_eq := size_eq_height ran
      exact .tooFew found (by omega)
  | application enough failed =>
      subst enough
      obtain ⟨forest, read, represents⟩ := exists_represents_of_run ran
      obtain ⟨right, others, rfl, rightValued, represents⟩ := represents.exists_cons
      obtain ⟨left, others, rfl, leftValued, -⟩ := represents.exists_cons
      have before : tokens.take position =
          (others.reverse ++ [left, right]).flatMap postorder := by
        rw [read, flatMap_postorder_append_pair, List.reverse_reverse]
      exact .application found before leftValued rightValued failed

/-- Where no token fails before a position, the run gets there. -/
theorem exists_run_take
    (noneFails : ∀ earlier < position, ∀ fault, ¬FailsAt context tokens earlier fault) :
    ∃ operands, run context (tokens.take position) = .ok operands := by
  cases result : run context (tokens.take position) with
  | ok operands => exact ⟨operands, rfl⟩
  | error fault =>
      -- The run is refused at a token before the position, and there the token fails.
      obtain ⟨done, token, rest, operands, split, ran, refused⟩ :=
        Run.foldlM_eq_error_iff.mp result
      have whole : tokens = done ++ token :: (rest ++ tokens.drop position) := by
        rw [← List.cons_append, ← List.append_assoc, ← split, List.take_append_drop]
      have earlier : done.length < position := by
        have lengths := congrArg List.length split
        rw [List.length_append, List.length_cons, List.length_take] at lengths
        omega
      have before : tokens.take done.length = done := by
        rw [whole, List.take_left]
      have found : tokens[done.length]? = some token := by
        rw [whole]
        simp
      rw [← before] at ran
      have fails := (accept_eq_error_iff.mp refused).failsAt ran found
      exact absurd fails (noneFails done.length earlier fault)

/-- A token that fails is there. -/
theorem FailsAt.exists_token (fails : FailsAt context tokens position fault) :
    ∃ token, tokens[position]? = some token := by
  cases fails with
  | operand found valueless => exact ⟨_, found⟩
  | tooFew found few => exact ⟨_, found⟩
  | application found before leftValued rightValued failed => exact ⟨_, found⟩

/-- No application of an operator lacks operands: those are taken before. -/
theorem apply_ne_stackUnderflow (operator : Operator) (left right : Number) :
    operator.apply left right ≠ .error .stackUnderflow := by
  intro failed
  rcases fault_of_apply failed with same | same | same <;> cases same

/-- A refusal is for too few operands exactly if there are too few for an operator. -/
theorem Refusal.eq_stackUnderflow_iff
    {operands : Stack Number}
    {token : Token}
    (refusal : Refusal context operands token fault) :
    fault = .stackUnderflow ↔
      (∃ operator, token = .operator operator) ∧ operands.size < 2 := by
  cases refusal with
  | operand valueless =>
      have different : fault ≠ .stackUnderflow := by
        rcases Context.fault_of_operandValue valueless with rfl | rfl <;> exact Fault.noConfusion
      exact iff_of_false different fun ⟨⟨_, isOperator⟩, _⟩ => Token.noConfusion isOperator
  | tooFew few => exact iff_of_true rfl ⟨⟨_, rfl⟩, few⟩
  | application enough failed =>
      have different : fault ≠ .stackUnderflow := by
        rintro rfl
        exact apply_ne_stackUnderflow _ _ _ failed
      refine iff_of_false different fun ⟨_, few⟩ => ?_
      rw [enough, Stack.size_push, Stack.size_push] at few
      omega

/-- Where the first token fails, the evaluation fails. -/
theorem evaluate_of_failsAt
    (fails : FailsAt context tokens position fault)
    (first : ∀ earlier < position, ∀ other, ¬FailsAt context tokens earlier other) :
    evaluate context tokens = .error fault ∧
      (fault = .stackUnderflow ↔
        (∃ operator, tokens[position]? = some (.operator operator)) ∧
          height (tokens.take position) < 2) := by
  obtain ⟨operands, ran⟩ := exists_run_take first
  obtain ⟨token, found⟩ := fails.exists_token
  have refusal := fails.refusal ran found
  constructor
  · have split := Cut.eq_take_append_cons_drop found
    exact evaluate_eq_error_iff.mpr (Or.inl ⟨_, _, _, _, split, ran, refusal⟩)
  · have size_eq := size_eq_height ran
    rw [refusal.eq_stackUnderflow_iff, found]
    simp only [Option.some.injEq]
    refine and_congr_right fun _ => ?_
    omega

/-- Where no token fails, the run gets to the end. -/
theorem exists_run
    (noneFails : ∀ position fault, ¬FailsAt context tokens position fault) :
    ∃ operands, run context tokens = .ok operands := by
  obtain ⟨operands, ran⟩ : ∃ operands, run context (tokens.take tokens.length) = .ok operands :=
    exists_run_take fun earlier _ => noneFails earlier
  rw [List.take_length] at ran
  exact ⟨operands, ran⟩

/-- A run does not get past a token that fails. -/
theorem not_failsAt_of_run
    {operands : Stack Number}
    (ran : run context tokens = .ok operands) :
    ¬FailsAt context tokens position fault := by
  intro fails
  obtain ⟨token, found⟩ := fails.exists_token
  rw [Cut.eq_take_append_cons_drop found, run, List.foldlM_append] at ran
  obtain ⟨before, ranBefore, ranBehind⟩ := Run.bind_eq_ok_iff.mp ran
  obtain ⟨next, accepted, -⟩ := Run.bind_eq_ok_iff.mp ranBehind
  have refused := accept_eq_error_iff.mpr (fails.refusal ranBefore found)
  cases accepted.symm.trans refused

/-- Several operands at the end of a run are left over. -/
theorem evaluate_of_two_le_size
    {operands : Stack Number}
    (ran : run context tokens = .ok operands)
    (several : 2 ≤ operands.size) :
    evaluate context tokens = .error (.leftoverOperands operands.size) :=
  evaluate_eq_error_iff.mpr
    (Or.inr ⟨operands, ran, finish_eq_error_iff.mpr (Or.inr ⟨several, rfl⟩)⟩)

end Evaluation

open Token Expression Evaluation

/-- The first token that fails decides the fault, and this is that of too few operands
exactly if the token is an operator, be it a parenthesis, and the height before it is
less than two. Where no token fails, the tokens are the postorders of as many trees
as their height tells, in one way only: of one tree, which gives the value; of several
trees, and then so many operands are left over; or of none, because there are no
tokens. -/
theorem evaluate_outcome (context : Context) (tokens : List Token) :
    (∀ position fault, FailsAt context tokens position fault ->
      (∀ earlier < position, ∀ other, ¬FailsAt context tokens earlier other) ->
        evaluate context tokens = .error fault ∧
          (fault = .stackUnderflow ↔
            (∃ operator, tokens[position]? = some (.operator operator)) ∧
              height (tokens.take position) < 2)) ∧
    ((∀ position fault, ¬FailsAt context tokens position fault) ->
      ∃ trees : List Expression,
        (∀ others : List Expression, others.flatMap postorder = tokens ↔ others = trees) ∧
        height tokens = trees.length ∧
        (∀ tree, trees = [tree] -> ∃ value, tree.value context = .ok value ∧
          evaluate context tokens = .ok value) ∧
        (2 ≤ trees.length ->
          evaluate context tokens = .error (.leftoverOperands trees.length)) ∧
        (trees.length = 0 ->
          tokens = [] ∧ evaluate context tokens = .error .stackUnderflow)) := by
  refine ⟨fun position fault fails first => evaluate_of_failsAt fails first, ?_⟩
  intro noneFails
  obtain ⟨operands, ran⟩ := exists_run noneFails
  obtain ⟨forest, rfl, represents⟩ := exists_represents_of_run ran
  have size_eq := represents.size_eq
  refine ⟨forest.reverse, ?_, ?_, ?_, ?_, ?_⟩
  · intro others
    rw [← postorders_reverse, ← List.reverse_eq_iff]
    exact ⟨postorders_injective, congrArg postorders⟩
  · rw [height_postorders, List.length_reverse]
  · intro tree alone
    obtain rfl : forest = [tree] := by rwa [List.reverse_eq_iff] at alone
    obtain ⟨value, -, -, valued, -⟩ := represents.exists_push
    refine ⟨value, valued, ?_⟩
    rw [postorders_cons, postorders_nil, List.nil_append, evaluate_postorder, valued]
  · intro several
    rw [List.length_reverse, ← size_eq] at several ⊢
    exact evaluate_of_two_le_size ran several
  · intro none
    rw [List.length_reverse] at none
    obtain rfl := List.eq_nil_of_length_eq_zero none
    exact ⟨rfl, rfl⟩

/-- In `pi ( y` the parenthesis fails for want of operands, before the name without a
value. In `pi e` no token fails, and both operands are left over. -/
theorem evaluate_outcome_malformedTokens :
    (FailsAt .standard [.operand "pi", .operator .opening, .operand "y"] 1 .stackUnderflow ∧
      evaluate .standard [.operand "pi", .operator .opening, .operand "y"] =
        .error .stackUnderflow) ∧
    (∀ position fault, ¬FailsAt .standard [.operand "pi", .operand "e"] position fault) ∧
      evaluate .standard [.operand "pi", .operand "e"] = .error (.leftoverOperands 2) := by
  have fails : FailsAt .standard [.operand "pi", .operator .opening, .operand "y"] 1
      .stackUnderflow :=
    .tooFew rfl (by decide)
  have first : ∀ earlier < 1, ∀ other,
      ¬FailsAt .standard [.operand "pi", .operator .opening, .operand "y"] earlier other := by
    intro earlier before other failsEarlier
    obtain rfl := Nat.lt_one_iff.mp before
    cases failsEarlier with
    | operand found valueless =>
        cases found
        cases valueless
    | tooFew found few => cases found
    | application found before leftValued rightValued failed => cases found
  have ran : run .standard [.operand "pi", .operand "e"] =
      .ok ((Stack.empty.push Context.pi).push Context.e) := rfl
  have noneFails : ∀ position fault,
      ¬FailsAt .standard [.operand "pi", .operand "e"] position fault :=
    fun _ _ => not_failsAt_of_run ran
  obtain ⟨decides, -⟩ :=
    evaluate_outcome .standard [.operand "pi", .operator .opening, .operand "y"]
  obtain ⟨-, ends⟩ := evaluate_outcome .standard [.operand "pi", .operand "e"]
  obtain ⟨trees, -, number, -, leftOver, -⟩ := ends noneFails
  have two : trees.length = 2 := Int.ofNat.inj number.symm
  rw [two] at leftOver
  exact ⟨⟨fails, (decides 1 _ fails first).1⟩, noneFails, leftOver (Nat.le_refl 2)⟩

end PostfixCalculator
