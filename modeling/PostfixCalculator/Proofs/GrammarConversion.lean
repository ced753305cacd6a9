import PostfixCalculator.Proofs.Conversion
import PostfixCalculator.Proofs.Grammar

/-!
# Converting derivations

The tokens of a derivation are converted to the postorder of its tree, whatever
parentheses they hold.

The proof says what the tokens of a level do to any state in which only weaker
operators wait on top. They write their postorder, but the operators at its end
may still be pending: those wait above what waited before, and all bind at least
as strongly as the level. So the operator that follows on this level releases
the pending operators and nothing below them.
-/

namespace PostfixCalculator
namespace Conversion

/-- Only operators that bind weaker than a level wait on top. -/
def Admits (state : Conversion) (level : Level) : Prop :=
  ∀ top ∈ state.waiting.items.head?, top.rank < level.rank

/-- From one state to another some tokens have been written, up to operators at
their end that are pending. -/
structure Writes
    (level : Level)
    (before after : Conversion)
    (written : List Token)
    (pending : List Operator) : Prop where
  /-- The pending operators bind at least as strongly as the level. -/
  binding : ∀ operator ∈ pending, level.rank ≤ operator.rank
  /-- They wait above the operators that waited before. -/
  waiting : after.waiting.items = pending ++ before.waiting.items
  /-- The output and the pending operators together grow by what is written. -/
  output : after.output.toList ++ pending.map Token.operator =
    before.output.toList ++ written

/-- Some tokens are converted to others from every state that admits a level. -/
def Converts (level : Level) (tokens written : List Token) : Prop :=
  ∀ state : Conversion, state.Admits level ->
    ∃ after pending, tokens.foldlM accept state = .ok after ∧
      Writes level state after written pending

/-- A state admits stronger levels as well. -/
theorem Admits.mono
    {state : Conversion}
    {level stronger : Level}
    (admits : state.Admits level)
    (le : level.rank ≤ stronger.rank) :
    state.Admits stronger :=
  fun top first => Nat.lt_of_lt_of_le (admits top first) le

/-- An operator of a level admits every stronger level above it. -/
theorem admits_hold
    (state : Conversion)
    {operator : Operator}
    {level : Level}
    (weaker : operator.rank < level.rank) :
    (state.hold operator).Admits level := by
  intro top first
  cases first
  exact weaker

/-- The tokens of a stronger level can stand on a weaker one. -/
theorem Converts.mono
    {level stronger : Level}
    {tokens written : List Token}
    (converts : Converts stronger tokens written)
    (le : level.rank ≤ stronger.rank) :
    Converts level tokens written := by
  intro state admits
  obtain ⟨after, pending, ran, writes⟩ := converts state (admits.mono le)
  refine ⟨after, pending, ran, ?_, writes.waiting, writes.output⟩
  exact fun operator present => Nat.le_trans le (writes.binding operator present)

/-- An operand is written at once. -/
theorem converts_operand (lexeme : String) :
    Converts .primary [.operand lexeme] [.operand lexeme] := by
  intro state _
  refine ⟨state.put (.operand lexeme), [], rfl, by simp, by simp, by simp⟩

/-- Parentheses are not written, and leave nothing pending. -/
theorem Converts.group
    {inner written : List Token}
    (converts : Converts .sum inner written) :
    Converts .primary (.operator .opening :: inner ++ [.operator .closing]) written := by
  intro state _
  obtain ⟨after, pending, ran, writes⟩ :=
    converts (state.hold .opening) (admits_hold state (by decide))
  have noOpening : .opening ∉ pending := by
    intro present
    have strong := writes.binding _ present
    contradiction
  have closed : after.close = .ok (after.release pending state.waiting.items) :=
    close_eq_ok_iff.mpr ⟨pending, state.waiting.items, writes.waiting, noOpening, rfl⟩
  refine ⟨after.release pending state.waiting.items, [], ?_, by simp, by simp, ?_⟩
  · rw [List.cons_append, List.foldlM_cons, accept_opening, Run.ok_bind,
      Run.foldlM_concat, ran, Run.ok_bind, accept_closing, closed]
  · simpa using writes.output

/-- Two operands are written before the operator between them, which is then
the last one pending. -/
theorem Converts.join
    {level stronger : Level}
    {left leftWritten right rightWritten : List Token}
    {operator : BinaryOperator}
    (leftConverts : Converts level left leftWritten)
    (rightConverts : Converts stronger right rightWritten)
    (rank_eq : operator.rank = level.rank)
    (lt : level.rank < stronger.rank) :
    Converts level (Derivation.join left operator right)
      (leftWritten ++ rightWritten ++ [.operator (.binary operator)]) := by
  intro state admits
  obtain ⟨middle, leftPending, leftRan, leftWrites⟩ := leftConverts state admits
  have accepted : middle.accept (.operator (.binary operator)) =
      .ok ((middle.release leftPending state.waiting.items).hold (.binary operator)) :=
    accept_binary_eq_release leftWrites.waiting (rank_eq ▸ leftWrites.binding)
      (rank_eq ▸ admits)
  obtain ⟨after, pending, rightRan, rightWrites⟩ :=
    rightConverts ((middle.release leftPending state.waiting.items).hold (.binary operator))
      (admits_hold _ (by rw [Operator.rank_binary, rank_eq]; exact lt))
  refine ⟨after, pending ++ [.binary operator], ?_, ?_, ?_, ?_⟩
  · rw [Derivation.join, List.foldlM_append, leftRan, Run.ok_bind, List.foldlM_cons,
      accepted, Run.ok_bind, rightRan]
  · intro other present
    rcases List.mem_append.mp present with isPending | isLast
    · exact Nat.le_trans (Nat.le_of_lt lt) (rightWrites.binding other isPending)
    · rw [List.mem_singleton.mp isLast, Operator.rank_binary, rank_eq]
  · simpa using rightWrites.waiting
  · have leftOutput := leftWrites.output
    have rightOutput := rightWrites.output
    rw [output_hold, output_release, leftOutput] at rightOutput
    rw [List.map_append, ← List.append_assoc, rightOutput]
    simp

/-- The tokens of a derivation are converted to the postorder of its tree from
every state that admits its level. -/
theorem converts_derivation
    {level : Level}
    (derivation : Derivation level) :
    Converts level derivation.tokens derivation.expression.postorder := by
  induction derivation with
  | operand lexeme => exact converts_operand lexeme
  | group inner inductionHypothesis => exact inductionHypothesis.group
  | ofPrimary inner inductionHypothesis => exact inductionHypothesis.mono (by decide)
  | ofPower inner inductionHypothesis => exact inductionHypothesis.mono (by decide)
  | ofProduct inner inductionHypothesis => exact inductionHypothesis.mono (by decide)
  | pow left right leftHypothesis rightHypothesis =>
      exact leftHypothesis.join rightHypothesis rfl (by decide)
  | mul left right leftHypothesis rightHypothesis =>
      exact leftHypothesis.join rightHypothesis rfl (by decide)
  | div left right leftHypothesis rightHypothesis =>
      exact leftHypothesis.join rightHypothesis rfl (by decide)
  | add left right leftHypothesis rightHypothesis =>
      exact leftHypothesis.join rightHypothesis rfl (by decide)
  | sub left right leftHypothesis rightHypothesis =>
      exact leftHypothesis.join rightHypothesis rfl (by decide)

/-- From the start, the whole postorder of a sum has been put out at the end. -/
theorem convert_tokens_eq_postorder (derivation : Derivation .sum) :
    convert derivation.tokens = .ok derivation.expression.postorder := by
  obtain ⟨after, pending, ran, writes⟩ :=
    converts_derivation derivation start (by simp [Admits, Stack.empty])
  refine convert_eq_ok_iff.mpr ⟨after, ran, ?_⟩
  rw [finish_eq, writes.waiting, waiting_start, Stack.items_empty, List.append_nil,
    writes.output]
  rfl

end Conversion

/-- The tokens of every derivation are converted to the postorder of its tree,
in which no parenthesis is left. -/
theorem convert_derivation (derivation : Derivation .sum) :
    convert derivation.tokens = .ok derivation.expression.postorder ∧
      .operator .opening ∉ derivation.expression.postorder ∧
      .operator .closing ∉ derivation.expression.postorder := by
  refine ⟨Conversion.convert_tokens_eq_postorder derivation, ?_, ?_⟩
  · intro present
    obtain ⟨operator, isBinary⟩ := Expression.postorder_without_parentheses present
    contradiction
  · intro present
    obtain ⟨operator, isBinary⟩ := Expression.postorder_without_parentheses present
    contradiction

end PostfixCalculator
