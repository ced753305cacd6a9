import PostfixCalculator.Evaluation
import PostfixCalculator.Proofs.LiteralGrammar

/-!
# Expression trees

The tree of an expression has operands at its leaves and binary operators at
its inner nodes. Its value is computed from the leaves up, the left operand
before the right one and both before their operator; the first fault in this
order is the fault of the whole. Its postorder writes the tokens in the same
order.

`assemble` rebuilds trees from tokens in postorder. It is a left inverse of the
postorder, so different trees have different postorders and a token list is the
postorder of at most one tree.
-/

namespace PostfixCalculator

/-- An expression with its grouping. -/
inductive Expression
  | operand (lexeme : String)
  | apply (operator : BinaryOperator) (left right : Expression)
  deriving DecidableEq, Repr

namespace Expression

/-- The tokens of a tree, each operator after both its operands. -/
def postorder : Expression -> List Token
  | .operand lexeme => [.operand lexeme]
  | .apply operator left right =>
      left.postorder ++ right.postorder ++ [.operator (.binary operator)]

@[simp] theorem postorder_operand (lexeme : String) :
    (operand lexeme).postorder = [.operand lexeme] := rfl

@[simp] theorem postorder_apply
    (operator : BinaryOperator)
    (left right : Expression) :
    (apply operator left right).postorder =
      left.postorder ++ right.postorder ++ [.operator (.binary operator)] := rfl

/-- The value of a leaf: digits are the number that they denote, and anything else is the
name of a variable. -/
def leafValue (context : Context) (lexeme : String) : Except Fault Number :=
  if lexeme.toList = [] then
    .error (.badNumber lexeme)
  else if lexeme.toList.all Char.isDigit = true then
    .ok (.ordinary (Float.ofNat (Nat.ofDigitChars 10 lexeme.toList 0)))
  else
    match context.lookup? lexeme with
    | some value => .ok value
    | none => .error (.unknownVariable lexeme)

/-- The value of a tree. -/
def value (context : Context) : Expression -> Except Fault Number
  | .operand lexeme => leafValue context lexeme
  | .apply operator left right => do
      let leftValue ← left.value context
      let rightValue ← right.value context
      operator.apply leftValue rightValue

/-- An operand has the value that a leaf has. -/
theorem leafValue_eq_operandValue (context : Context) (lexeme : String) :
    leafValue context lexeme = context.operandValue lexeme := by
  rw [leafValue, Context.operandValue]
  split
  · next empty =>
    rw [String.toList_eq_nil_iff] at empty
    subst empty
    rfl
  · next nonempty =>
    split
    · next allDigits =>
      have isRead := Decimal.read_of_allDigits nonempty (List.all_eq_true.mp allDigits)
      rw [if_pos (show Context.isNumeral lexeme = true from allDigits), isRead]
    · next notAll => exact (if_neg notAll).symm

@[simp] theorem value_operand
    (context : Context)
    (lexeme : String) :
    (operand lexeme).value context = context.operandValue lexeme :=
  leafValue_eq_operandValue context lexeme

@[simp] theorem value_apply
    (context : Context)
    (operator : BinaryOperator)
    (left right : Expression) :
    (apply operator left right).value context =
      left.value context >>= fun leftValue =>
        right.value context >>= fun rightValue =>
          operator.apply leftValue rightValue := rfl

/-- A postorder holds no parenthesis. -/
theorem postorder_without_parentheses
    {expression : Expression}
    {operator : Operator}
    (present : .operator operator ∈ expression.postorder) :
    ∃ binary, operator = .binary binary := by
  induction expression with
  | operand lexeme => simp at present
  | apply root left right leftHypothesis rightHypothesis =>
      simp only [postorder_apply, List.mem_append, List.mem_singleton,
        Token.operator.injEq] at present
      rcases present with (inLeft | inRight) | last
      · exact leftHypothesis inLeft
      · exact rightHypothesis inRight
      · exact ⟨root, last⟩

/-! ## Reading a postorder back -/

/-- Add a token to the trees assembled so far, the last one first: an operand
is a tree of its own, a binary operator joins the last two. -/
def assembleStep (forest : List Expression) : Token -> Option (List Expression)
  | .operand lexeme => some (.operand lexeme :: forest)
  | .operator (.binary operator) =>
      match forest with
      | right :: left :: rest => some (.apply operator left right :: rest)
      | _ => none
  | .operator .opening => none
  | .operator .closing => none

/-- The trees whose postorders make up a token list, the last one first. -/
def assemble (tokens : List Token) : Option (List Expression) :=
  tokens.foldlM assembleStep []

@[simp] theorem assembleStep_operand
    (forest : List Expression)
    (lexeme : String) :
    assembleStep forest (.operand lexeme) = some (.operand lexeme :: forest) := rfl

@[simp] theorem assembleStep_binary
    (operator : BinaryOperator)
    (left right : Expression)
    (rest : List Expression) :
    assembleStep (right :: left :: rest) (.operator (.binary operator)) =
      some (.apply operator left right :: rest) := rfl

/-- The postorder of a tree adds this tree to those assembled before. -/
theorem foldlM_assembleStep_postorder
    (expression : Expression)
    (forest : List Expression) :
    expression.postorder.foldlM assembleStep forest =
      some (expression :: forest) := by
  induction expression generalizing forest with
  | operand lexeme => rfl
  | apply operator left right leftHypothesis rightHypothesis =>
      rw [postorder_apply, List.foldlM_append, List.foldlM_append, leftHypothesis]
      simp [rightHypothesis]

@[simp] theorem assemble_postorder (expression : Expression) :
    assemble expression.postorder = some [expression] :=
  foldlM_assembleStep_postorder expression []

/-- Different trees have different postorders. -/
theorem postorder_injective
    {first second : Expression}
    (same : first.postorder = second.postorder) :
    first = second := by
  have assembled := congrArg assemble same
  simpa using assembled

/-- The postorders of a list of trees that is given last one first. -/
def postorders (forest : List Expression) : List Token :=
  forest.reverse.flatMap postorder

@[simp] theorem postorders_nil : postorders [] = [] := rfl

@[simp] theorem postorders_cons
    (expression : Expression)
    (forest : List Expression) :
    postorders (expression :: forest) = postorders forest ++ expression.postorder := by
  simp [postorders]

/-- A step of the assembly appends its token to the postorders. -/
theorem postorders_assembleStep
    {forest next : List Expression}
    {token : Token}
    (assembled : assembleStep forest token = some next) :
    postorders next = postorders forest ++ [token] := by
  unfold assembleStep at assembled
  split at assembled
  · simp [← Option.some.inj assembled]
  · split at assembled
    · simp [← Option.some.inj assembled]
    · contradiction
  · contradiction
  · contradiction

end Expression
end PostfixCalculator
