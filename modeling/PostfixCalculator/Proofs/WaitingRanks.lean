import Mathlib.Data.List.Chain
import PostfixCalculator.Proofs.Parentheses

/-!
# How operators wait

A binary operator waits above operators of a lower rank only, because it has
released the others, and an opening parenthesis waits above anything. So between
parentheses the ranks on the stack rise from the bottom to the top. There are three
ranks of binary operators, so at most three of them wait in a group, and the height
of the stack is bounded by the number of open parentheses, however long the input
is.

Both are consequences of a condition on neighbours, which what a step releases and
holds can only change at the top.
-/

namespace PostfixCalculator
namespace Conversion

open Token

/-- An operator may wait directly above another. -/
def MayStandOn (upper lower : Operator) : Prop :=
  upper ≠ .opening -> lower.rank < upper.rank

/-- No closing parenthesis waits, and every operator may stand on the next one. The
operators are given from the top down. -/
structure RanksRise (waiting : List Operator) : Prop where
  noClosing : .closing ∉ waiting
  chain : waiting.IsChain MayStandOn

/-- The rank on top of some operators; below the lowest there is room for
everything. -/
def topRank : List Operator -> Nat
  | [] => 1
  | top :: _ => top.rank

/-- An opening parenthesis has the lowest rank. -/
theorem rank_opening_lt (operator : BinaryOperator) :
    Operator.opening.rank < operator.rank := by
  cases operator <;> decide

/-- Only a closing parenthesis has a higher rank than all binary operators. -/
theorem rank_le_four {operator : Operator} (notClosing : operator ≠ .closing) :
    operator.rank ≤ 4 := by
  cases operator with
  | opening => decide
  | closing => exact absurd rfl notClosing
  | binary operator => cases operator <;> decide

theorem topRank_le_four
    {waiting : List Operator}
    (noClosing : .closing ∉ waiting) :
    topRank waiting ≤ 4 := by
  cases waiting with
  | nil => decide
  | cons top below => exact rank_le_four (ne_of_mem_of_not_mem List.mem_cons_self noClosing)

namespace RanksRise

variable {waiting released kept : List Operator}

theorem nil : RanksRise [] :=
  ⟨List.not_mem_nil, List.IsChain.nil⟩

/-- What is kept of the waiting operators is as before. -/
theorem of_append (rise : RanksRise (released ++ kept)) : RanksRise kept :=
  ⟨fun present => rise.noClosing (List.mem_append_right released present),
    rise.chain.right_of_append⟩

/-- What is below the top is as before. -/
theorem of_cons {top : Operator} (rise : RanksRise (top :: kept)) : RanksRise kept :=
  @of_append [top] kept rise

/-- An opening parenthesis can always be added. -/
theorem cons_opening (rise : RanksRise waiting) : RanksRise (.opening :: waiting) := by
  refine ⟨by simpa using rise.noClosing, List.isChain_cons.mpr ⟨?_, rise.chain⟩⟩
  intro top _ different
  exact absurd rfl different

/-- A binary operator can be added where the top has a lower rank. -/
theorem cons_binary
    (rise : RanksRise waiting)
    {operator : BinaryOperator}
    (stops : ∀ top ∈ waiting.head?, top.rank < operator.rank) :
    RanksRise (.binary operator :: waiting) :=
  ⟨by simpa using rise.noClosing,
    List.isChain_cons.mpr ⟨fun top first _ => stops top first, rise.chain⟩⟩

/-- Where no parenthesis waits between them, the ranks fall from the top down. -/
theorem pairwise
    {above segment below : List Operator}
    (rise : RanksRise (above ++ segment ++ below))
    (noOpening : .opening ∉ segment) :
    segment.Pairwise fun upper lower => lower.rank < upper.rank := by
  have chain : segment.IsChain MayStandOn :=
    rise.chain.left_of_append.right_of_append
  have falls : segment.IsChain fun upper lower => upper.rank > lower.rank := by
    refine chain.imp_of_mem_imp ?_
    intro upper lower present _ mayStand
    exact mayStand (ne_of_mem_of_not_mem present noOpening)
  rw [← List.isChain_map, List.isChain_iff_pairwise, List.pairwise_map] at falls
  exact falls

/-- Each parenthesis makes room for four operators, and a top of some rank shows
that the room up to this rank is all that is used above the last parenthesis. -/
theorem length_lt_add_topRank (rise : RanksRise waiting) :
    waiting.length < 4 * waiting.count .opening + topRank waiting := by
  induction waiting with
  | nil => decide
  | cons top below inductionHypothesis =>
      have tail : RanksRise below := rise.of_cons
      have soFar := inductionHypothesis tail
      obtain ⟨stands, -⟩ := List.isChain_cons.mp rise.chain
      rw [List.length_cons]
      cases top with
      | closing => exact absurd List.mem_cons_self rise.noClosing
      | opening =>
          have most := topRank_le_four tail.noClosing
          rw [List.count_cons_self, topRank, Operator.rank_opening]
          omega
      | binary operator =>
          have lower : topRank below < operator.rank := by
            cases below with
            | nil => exact rank_opening_lt operator
            | cons next others => exact stands next rfl Operator.noConfusion
          rw [List.count_cons_of_ne Operator.noConfusion, topRank, Operator.rank_binary]
          omega

end RanksRise

variable {state next : Conversion} {token : Token} {tokens : List Token}

/-- Ranks still rise after a step: what it releases is off the top, and what it holds
may stand on what is kept. -/
theorem Step.ranksRise
    (step : Step state token next)
    (rise : RanksRise state.waiting.items) :
    RanksRise next.waiting.items := by
  cases step with
  | operand lexeme => exact rise
  | opening => exact rise.cons_opening
  | closing waiting noOpening =>
      rw [waiting] at rise
      exact rise.of_append.of_cons
  | binary waiting releases stops =>
      rw [waiting] at rise
      exact rise.of_append.cons_binary stops

/-- Ranks rise on the stack of every run. -/
theorem ranksRise_of_run (ran : run tokens = .ok state) : RanksRise state.waiting.items := by
  refine Run.foldlM_induction (motive := fun _ current => RanksRise current.waiting.items)
    .nil ?_ ran
  intro done current token next rise accepted
  exact (accept_eq_ok_iff.mp accepted).ranksRise rise

/-- After each token that is accepted, no closing parenthesis waits, the opening ones
that wait are those that are open, and the ranks rise from the bottom to the top
wherever there is no parenthesis between. So the stack is never higher than four
times the number of open parentheses and three. -/
theorem waiting_of_visited
    {position : Nat}
    (visited : (Run.visited accept start tokens)[position]? = some state) :
    .closing ∉ state.waiting.toList ∧
    state.waiting.toList.count .opening + closings (tokens.take (position + 1)) =
      openings (tokens.take (position + 1)) ∧
    (∀ below segment above, state.waiting.toList = below ++ segment ++ above ->
      .opening ∉ segment -> segment.Pairwise fun lower upper => lower.rank < upper.rank) ∧
    state.waiting.size ≤ 4 * state.waiting.toList.count .opening + 3 := by
  obtain ⟨-, ran⟩ := Run.getElem?_visited_eq_some_iff.mp visited
  have rise : RanksRise state.waiting.items := ranksRise_of_run ran
  have opened := depth_eq_of_foldlM ran
  rw [Stack.toList, List.mem_reverse, List.count_reverse]
  refine ⟨rise.noClosing, ?_, ?_, ?_⟩
  · rwa [depth_start, Nat.zero_add] at opened
  · intro below segment above split noOpening
    rw [List.reverse_eq_iff, List.reverse_append, List.reverse_append] at split
    rw [split, ← List.append_assoc] at rise
    exact List.pairwise_reverse.mp (rise.pairwise (by simpa using noOpening))
  · have bounded := rise.length_lt_add_topRank
    have most := topRank_le_four rise.noClosing
    rw [Stack.size]
    omega

/-- The operators of a sum, a product and a power, and the same again in a group that
is not closed. There are no operands. -/
def risingTwice : List Token :=
  [.operator (.binary .add), .operator (.binary .mul), .operator (.binary .pow),
    .operator .opening,
    .operator (.binary .sub), .operator (.binary .div), .operator (.binary .pow)]

/-- All of them wait in the end, which is as many as can wait with one parenthesis
open. -/
theorem waiting_of_visited_risingTwice :
    ∃ state, (Run.visited accept start risingTwice)[6]? = some state ∧
      state.waiting.size = 4 * 1 + 3 ∧
      .closing ∉ state.waiting.toList ∧
      state.waiting.toList.count .opening + closings (risingTwice.take 7) =
        openings (risingTwice.take 7) ∧
      (∀ below segment above, state.waiting.toList = below ++ segment ++ above ->
        .opening ∉ segment -> segment.Pairwise fun lower upper => lower.rank < upper.rank) ∧
      state.waiting.size ≤ 4 * state.waiting.toList.count .opening + 3 := by
  have visited : (Run.visited accept start risingTwice)[6]? =
      some (⟨#[], ⟨[.binary .pow, .binary .div, .binary .sub, .opening,
        .binary .pow, .binary .mul, .binary .add]⟩⟩ : Conversion) := rfl
  exact ⟨_, visited, rfl, waiting_of_visited visited⟩

end Conversion
end PostfixCalculator
