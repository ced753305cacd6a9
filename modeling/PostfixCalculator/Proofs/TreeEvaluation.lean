import PostfixCalculator.Proofs.Evaluation
import PostfixCalculator.Proofs.Expression

/-!
# Evaluating with a stack is evaluating a tree

The postorder of a tree, evaluated on any stack, pushes the value of the tree or
fails with the fault of the tree; what lies below is not touched. Conversely the
operands on the stack of an evaluation that has not failed are at each point the
values of the trees that its tokens make up. So an evaluation has a value if and
only if its tokens are the postorder of a tree with this value.
-/

namespace PostfixCalculator
namespace Expression

/-- A stack of operands holds the values of some trees, from the top down. -/
def Represents
    (context : Context)
    (forest : List Expression)
    (operands : Stack Number) : Prop :=
  forest.map (value context) = operands.items.map .ok

@[simp] theorem represents_nil_empty (context : Context) :
    Represents context [] .empty := rfl

@[simp] theorem represents_cons_push
    {context : Context}
    {expression : Expression}
    {forest : List Expression}
    {operands : Stack Number}
    {top : Number} :
    Represents context (expression :: forest) (operands.push top) ↔
      expression.value context = .ok top ∧ Represents context forest operands := by
  simp [Represents]

/-- What represents a stack that is not empty is itself not empty. -/
theorem Represents.exists_cons
    {context : Context}
    {forest : List Expression}
    {operands : Stack Number}
    {top : Number}
    (represents : Represents context forest (operands.push top)) :
    ∃ expression rest, forest = expression :: rest ∧
      expression.value context = .ok top ∧ Represents context rest operands := by
  cases forest with
  | nil => simp [Represents] at represents
  | cons expression rest =>
      exact ⟨expression, rest, rfl, represents_cons_push.mp represents⟩

/-- Evaluating the postorder of a tree on any stack pushes the value of the
tree, or fails as the tree does. -/
theorem foldlM_accept_postorder
    (expression : Expression)
    (context : Context)
    (operands : Stack Number) :
    expression.postorder.foldlM (Evaluation.accept context) operands =
      (expression.value context).map operands.push := by
  induction expression generalizing operands with
  | operand lexeme =>
      rw [postorder_operand, value_operand, List.foldlM_cons, Evaluation.accept_operand]
      cases context.operandValue lexeme <;> rfl
  | apply operator left right leftHypothesis rightHypothesis =>
      rw [postorder_apply, value_apply, Run.foldlM_concat, List.foldlM_append,
        leftHypothesis]
      cases left.value context with
      | error fault => rfl
      | ok leftValue =>
          rw [Run.map_ok, Run.ok_bind, Run.ok_bind, rightHypothesis]
          cases right.value context with
          | error fault => rfl
          | ok rightValue =>
              rw [Run.map_ok, Run.ok_bind, Run.ok_bind, Evaluation.accept_operator,
                Evaluation.applyTop_push_push]
              rfl

/-- The postorder of a tree evaluates to the value of the tree, or fails as the
tree does. -/
theorem evaluate_postorder
    (expression : Expression)
    (context : Context) :
    evaluate context expression.postorder = expression.value context := by
  unfold evaluate Evaluation.run
  rw [foldlM_accept_postorder]
  cases expression.value context with
  | error fault => rfl
  | ok result => exact Evaluation.finish_push_empty result

/-- A token that the evaluation accepts can be added to the trees that the stack
represents, and the new trees represent the new stack. -/
theorem Represents.accept
    {context : Context}
    {forest : List Expression}
    {operands next : Stack Number}
    {token : Token}
    (represents : Represents context forest operands)
    (accepted : Evaluation.accept context operands token = .ok next) :
    ∃ grown, assembleStep forest token = some grown ∧
      Represents context grown next := by
  cases token with
  | operand lexeme =>
      rw [Evaluation.accept_operand] at accepted
      cases found : context.operandValue lexeme with
      | error fault =>
          rw [found] at accepted
          contradiction
      | ok result =>
          rw [found] at accepted
          cases accepted
          exact ⟨.operand lexeme :: forest, rfl,
            represents_cons_push.mpr ⟨(value_operand context lexeme).trans found, represents⟩⟩
  | operator operator =>
      obtain ⟨rest, left, right, result, rfl, computed, rfl⟩ :=
        Evaluation.applyTop_eq_ok_iff.mp accepted
      obtain ⟨rightTree, others, rfl, rightValue, represents⟩ := represents.exists_cons
      obtain ⟨leftTree, others, rfl, leftValue, represents⟩ := represents.exists_cons
      cases operator with
      | opening => contradiction
      | closing => contradiction
      | binary operator =>
          refine ⟨.apply operator leftTree rightTree :: others, rfl, ?_⟩
          rw [represents_cons_push, value_apply, leftValue, Run.ok_bind, rightValue]
          exact ⟨computed, represents⟩

/-- Tokens that are evaluated without a fault make up trees, which represent the
operands reached. -/
theorem Represents.foldlM_accept
    {context : Context}
    {forest : List Expression}
    {operands reached : Stack Number}
    {tokens : List Token}
    (represents : Represents context forest operands)
    (ran : tokens.foldlM (Evaluation.accept context) operands = .ok reached) :
    ∃ grown, postorders grown = postorders forest ++ tokens ∧
      Represents context grown reached := by
  refine Run.foldlM_induction (motive := fun done current =>
    ∃ grown, postorders grown = postorders forest ++ done ∧ Represents context grown current)
    ⟨forest, (List.append_nil _).symm, represents⟩ ?_ ran
  rintro done current token next ⟨grown, tokensRead, represents⟩ accepted
  obtain ⟨extended, assembled, represents⟩ := represents.accept accepted
  refine ⟨extended, ?_, represents⟩
  rw [postorders_assembleStep assembled, tokensRead, List.append_assoc]

/-- Tokens with a value are the postorder of a tree with this value. -/
theorem exists_of_evaluate_eq_ok
    {context : Context}
    {tokens : List Token}
    {result : Number}
    (evaluated : evaluate context tokens = .ok result) :
    ∃ expression : Expression,
      expression.postorder = tokens ∧ expression.value context = .ok result := by
  obtain ⟨operands, ran, finished⟩ := Run.bind_eq_ok_iff.mp evaluated
  obtain rfl := Evaluation.finish_eq_ok_iff.mp finished
  obtain ⟨grown, tokensRead, represents⟩ :=
    (represents_nil_empty context).foldlM_accept ran
  obtain ⟨expression, rest, rfl, valued, represents⟩ := represents.exists_cons
  have alone : rest = [] := by simpa [Represents, Stack.empty] using represents
  subst alone
  exact ⟨expression, by simpa using tokensRead, valued⟩

/-- Tokens with a value hold no parenthesis. -/
theorem exists_binary_of_evaluate_eq_ok
    {context : Context}
    {tokens : List Token}
    {result : Number}
    {operator : Operator}
    (evaluated : evaluate context tokens = .ok result)
    (present : .operator operator ∈ tokens) :
    ∃ binary, operator = .binary binary := by
  obtain ⟨expression, rfl, -⟩ := exists_of_evaluate_eq_ok evaluated
  exact postorder_without_parentheses present

end Expression

/-- Tokens evaluate to a value exactly if they are the postorder of a tree with
this value. There is at most one such tree, and for the postorder of a tree the
evaluation also fails exactly as the tree does. -/
theorem evaluate_iff_expression_value
    (context : Context)
    (tokens : List Token) :
    (∀ result, evaluate context tokens = .ok result ↔
      ∃ expression : Expression,
        expression.postorder = tokens ∧ expression.value context = .ok result) ∧
    (∀ first second : Expression,
      first.postorder = tokens -> second.postorder = tokens -> first = second) ∧
    (∀ expression : Expression,
      evaluate context expression.postorder = expression.value context) := by
  refine ⟨fun result => ⟨Expression.exists_of_evaluate_eq_ok, ?_⟩, ?_, ?_⟩
  · rintro ⟨expression, rfl, valued⟩
    rw [Expression.evaluate_postorder, valued]
  · intro first second firstReads secondReads
    exact Expression.postorder_injective (firstReads.trans secondReads.symm)
  · intro expression
    exact expression.evaluate_postorder context

end PostfixCalculator
