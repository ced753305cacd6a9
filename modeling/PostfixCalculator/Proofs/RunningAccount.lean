import Mathlib.Data.List.Count
import PostfixCalculator.Proofs.Accounting

/-!
# The account at every point of a conversion

A conversion of some tokens that has come to a state would have succeeded if the
input had ended there, and would have added to the output what waits. So an account of
whole conversions is one of all that a conversion has put out and keeps waiting at any
point: each binary operator is in one of the two places as often as it has been read.

The parentheses that a finished conversion puts out are those that were waiting. While
tokens are read, none is put out, and what has been put out stays as it is.
-/

namespace PostfixCalculator

open Token

variable {tokens output : List Token}

/-- The output has each binary operator as often as the input. -/
theorem count_binary_eq_of_convert
    (converted : convert tokens = .ok output)
    (operator : BinaryOperator) :
    output.count (.operator (.binary operator)) =
      tokens.count (.operator (.binary operator)) :=
  countP_of_convert converted (· == .operator (.binary operator))

/-- The output is shorter than the input by two tokens for each parenthesis that is
closed. -/
theorem length_add_of_convert (converted : convert tokens = .ok output) :
    output.length + 2 * closings tokens = tokens.length := by
  have counted := countP_of_convert converted fun _ => true
  rw [List.countP_true, Nat.mul_comm] at counted
  exact counted

namespace Conversion

variable {state next : Conversion} {token : Token}

/-- What has been put out stays in front of the output. -/
theorem Step.output_isPrefix (step : Step state token next) :
    state.output.toList <+: next.output.toList := by
  cases step with
  | operand lexeme =>
      rw [output_put]
      exact List.prefix_append _ _
  | opening => exact List.prefix_rfl
  | closing waiting noOpening =>
      rw [output_release]
      exact List.prefix_append _ _
  | binary waiting releases stops =>
      rw [output_hold, output_release]
      exact List.prefix_append _ _

/-- If the input ends, what waits is put out. -/
theorem count_finish (state : Conversion) (operator : Operator) :
    state.finish.count (.operator operator) =
      state.output.toList.count (.operator operator) +
        state.waiting.items.count operator := by
  have injective : Function.Injective Token.operator :=
    fun _ _ same => Token.operator.inj same
  rw [finish_eq, List.count_append, List.count_map_of_injective _ _ injective]

/-- A run that has come to a state is a conversion of what it has read. -/
theorem convert_eq_finish (ran : run tokens = .ok state) :
    convert tokens = .ok state.finish :=
  convert_eq_ok_iff.mpr ⟨state, ran, rfl⟩

/-- A run puts out no parenthesis: the opening ones that it has not removed wait. -/
theorem parentheses_notMem_output (ran : run tokens = .ok state) :
    .operator .opening ∉ state.output.toList ∧
      .operator .closing ∉ state.output.toList := by
  have converted := convert_eq_finish ran
  have opened := openings_add_closings_of_convert converted
  have closed := closings_eq_zero_of_convert converted
  -- As many opening parentheses wait as would be put out in all if the input ended here.
  have waits := depth_eq_of_foldlM ran
  rw [openings, count_finish] at opened
  rw [closings, count_finish] at closed
  rw [depth_start, depth] at waits
  rw [← List.count_eq_zero, ← List.count_eq_zero]
  omega

end Conversion

open Conversion

/-- No token is lost, duplicated or invented. After each token that is accepted, the
operands put out are those read, in the same order; each binary operator is put out or
waits as often as it has been read; and the output, which has no parenthesis, goes on
from the output before. A conversion that succeeds puts out the operands and the binary
operators of its input, and the opening parentheses that are not closed. -/
theorem convert_conserves_tokens (tokens : List Token) :
    (∀ position state, (Run.visited accept start tokens)[position]? = some state ->
      operands state.output.toList = operands (tokens.take (position + 1)) ∧
      (∀ operator : BinaryOperator,
        state.output.toList.count (.operator (.binary operator)) +
            state.waiting.items.count (.binary operator) =
          (tokens.take (position + 1)).count (.operator (.binary operator))) ∧
      .operator .opening ∉ state.output.toList ∧
      .operator .closing ∉ state.output.toList ∧
      ∀ previous, (start :: Run.visited accept start tokens)[position]? = some previous ->
        previous.output.toList <+: state.output.toList) ∧
    ∀ output, convert tokens = .ok output ->
      operands output = operands tokens ∧
      (∀ operator : BinaryOperator,
        output.count (.operator (.binary operator)) =
          tokens.count (.operator (.binary operator))) ∧
      .operator .closing ∉ output ∧
      openings output + closings tokens = openings tokens ∧
      output.length + 2 * closings tokens = tokens.length := by
  constructor
  · intro position state isVisited
    obtain ⟨-, ran⟩ := Run.getElem?_visited_eq_some_iff.mp isVisited
    -- The tokens read so far are themselves converted, to what is put out and what waits.
    have converted := convert_eq_finish ran
    obtain ⟨noOpening, noClosing⟩ := parentheses_notMem_output ran
    refine ⟨?_, ?_, noOpening, noClosing, ?_⟩
    · rw [← operands_finish, operands_eq_of_convert converted]
    · intro operator
      rw [← count_finish, count_binary_eq_of_convert converted]
    · intro previous isPrevious
      obtain ⟨before, token, isBefore, -, accepted⟩ :=
        Run.exists_step_of_getElem?_visited isVisited
      cases isPrevious.symm.trans isBefore
      exact (accept_eq_ok_iff.mp accepted).output_isPrefix
  · intro output converted
    refine ⟨operands_eq_of_convert converted, count_binary_eq_of_convert converted, ?_,
      openings_add_closings_of_convert converted, length_add_of_convert converted⟩
    exact List.count_eq_zero.mp (closings_eq_zero_of_convert converted)

/-- The tokens of `2 * (3 + 4) - (5`. -/
def secondGroupOpen : List Token :=
  [.operand "2", .operator (.binary .mul), .operator .opening, .operand "3",
    .operator (.binary .add), .operand "4", .operator .closing, .operator (.binary .sub),
    .operator .opening, .operand "5"]

/-- In `2 * (3 + 4) - (5` the end of the first group puts out the sum and leaves the
product waiting, and the second group is still open in the output `2 3 4 + * 5 ( -`. -/
theorem convert_conserves_tokens_secondGroupOpen :
    ∃ state output,
      (Run.visited accept start secondGroupOpen)[6]? = some state ∧
      convert secondGroupOpen = .ok output ∧
      operands state.output.toList = [.operand "2", .operand "3", .operand "4"] ∧
      state.output.toList.count (.operator (.binary .mul)) +
        state.waiting.items.count (.binary .mul) = 1 ∧
      .operator .opening ∉ state.output.toList ∧
      .operator .closing ∉ state.output.toList ∧
      (∀ previous, (start :: Run.visited accept start secondGroupOpen)[6]? = some previous ->
        previous.output.toList <+: state.output.toList) ∧
      operands output = operands secondGroupOpen ∧
      (∀ operator : BinaryOperator,
        output.count (.operator (.binary operator)) =
          secondGroupOpen.count (.operator (.binary operator))) ∧
      .operator .closing ∉ output ∧
      openings output + closings secondGroupOpen =
        openings secondGroupOpen ∧
      output.length + 2 * closings secondGroupOpen = secondGroupOpen.length := by
  have isVisited : (Run.visited accept start secondGroupOpen)[6]? =
      some (⟨#[.operand "2", .operand "3", .operand "4", .operator (.binary .add)],
        ⟨[.binary .mul]⟩⟩ : Conversion) := rfl
  have converted : convert secondGroupOpen =
      .ok [.operand "2", .operand "3", .operand "4", .operator (.binary .add),
        .operator (.binary .mul), .operand "5", .operator .opening,
        .operator (.binary .sub)] := rfl
  obtain ⟨atEachPoint, atTheEnd⟩ := convert_conserves_tokens secondGroupOpen
  obtain ⟨sameOperands, counted, noParentheses⟩ := atEachPoint 6 _ isVisited
  exact ⟨_, _, isVisited, converted, sameOperands, counted .mul, noParentheses.1,
    noParentheses.2.1, noParentheses.2.2, atTheEnd _ converted⟩

end PostfixCalculator
