import PostfixCalculator.Proofs.Accounting
import PostfixCalculator.Proofs.Grouping

/-!
# Balanced groups stand for operands

Tokens with matching parentheses are converted, whatever their operands and operators
are, and leave no parenthesis open. So a group of them is a block, and where it stands
does for the tokens around it what an operand does. A group can be converted apart: an
operand that does not occur elsewhere stands for it, and is replaced in the output by
what the tokens of the group are converted to.
-/

namespace PostfixCalculator

open Token

namespace Token

variable {name : String} {block first second tokens : List Token}

/-- Put some tokens in the place of an operand, wherever it stands. -/
def splice (name : String) (block tokens : List Token) : List Token :=
  tokens.flatMap fun token => if token = .operand name then block else [token]

@[simp] theorem splice_append :
    splice name block (first ++ second) =
      splice name block first ++ splice name block second :=
  List.flatMap_append

@[simp] theorem splice_operand : splice name block [.operand name] = block := by
  simp [splice]

/-- Tokens without the operand are left as they are. -/
theorem splice_of_notMem (absent : .operand name ∉ tokens) :
    splice name block tokens = tokens := by
  induction tokens with
  | nil => rfl
  | cons token rest inductionHypothesis =>
      rw [List.mem_cons, not_or] at absent
      obtain ⟨notFirst, notInRest⟩ := absent
      rw [splice, List.flatMap_cons, if_neg fun same => notFirst same.symm]
      exact congrArg (token :: ·) (inductionHypothesis notInRest)

end Token

namespace Conversion

/-- Tokens with matching parentheses are converted, and none is left open. -/
theorem exists_convert_of_parenthesesMatch
    {tokens : List Token}
    (parenthesesMatch : ParenthesesMatch tokens) :
    ∃ written, convert tokens = .ok written ∧ .operator .opening ∉ written := by
  obtain ⟨never, asMany⟩ := parenthesesMatch
  cases converted : convert tokens with
  | error fault =>
      obtain ⟨-, start, isStart, tooMany⟩ := convert_eq_error_iff_exists_start.mp converted
      exact absurd (never start isStart) (Nat.not_le_of_lt tooMany)
  | ok written =>
      have leftOpen := openings_add_closings_of_convert converted
      have noneOpen : openings written = 0 := by omega
      exact ⟨written, rfl, List.count_eq_zero.mp noneOpen⟩

end Conversion

/-- A group with matching parentheses is converted as one block, whatever it holds and
whatever is around it: its tokens are converted, and they take in the output the place
of an operand that is nowhere else and stands for the group. The two conversions fail
alike. -/
theorem convert_group_eq_splice
    {before inner behind : List Token}
    {name : String}
    (notBefore : .operand name ∉ before)
    (notBehind : .operand name ∉ behind)
    (parenthesesMatch : ParenthesesMatch inner) :
    ∃ written, convert inner = .ok written ∧
      convert (before ++ ([.operator .opening] ++ inner ++ [.operator .closing]) ++ behind) =
        (convert (before ++ [.operand name] ++ behind)).map (splice name written) ∧
      ∀ output, convert (before ++ [.operand name] ++ behind) = .ok output ->
        output.count (.operand name) = 1 := by
  obtain ⟨written, converted, noneOpen⟩ :=
    Conversion.exists_convert_of_parenthesesMatch parenthesesMatch
  have group := Conversion.putsOut_group converted noneOpen
  refine ⟨written, converted, ?_⟩
  -- Group and operand are both blocks, so what surrounds them is converted alike.
  rw [Conversion.convert_append_append group,
    Conversion.convert_append_append (Conversion.putsOut_operand name)]
  cases surrounded : Conversion.surround before behind with
  | error fault => exact ⟨rfl, nofun⟩
  | ok around =>
      obtain ⟨notInFirst, notInSecond⟩ :=
        Conversion.notMem_of_surround surrounded notBefore notBehind
      constructor
      · rw [Run.map_ok, Run.map_ok, Run.map_ok, splice_append, splice_append, splice_operand,
          splice_of_notMem notInFirst, splice_of_notMem notInSecond]
      · intro output isOutput
        cases isOutput
        rw [List.count_append, List.count_append, List.count_eq_zero_of_not_mem notInFirst,
          List.count_eq_zero_of_not_mem notInSecond, List.count_singleton_self]

/-- The tokens of `(a -`. -/
def openDifference : List Token :=
  [.operator .opening, .operand "a", .operator (.binary .sub)]

/-- The tokens of `* x (y) +`, which is no expression. -/
def strayOperands : List Token :=
  [.operator (.binary .mul), .operand "x", .operator .opening, .operand "y",
    .operator .closing, .operator (.binary .add)]

/-- The tokens of `^ 2`. -/
def squared : List Token :=
  [.operator (.binary .pow), .operand "2"]

/-- In `(a - (* x (y) +) ^ 2` the group is converted to `x y * +`, although an operator
begins it and another ends it, and although the parenthesis before it is not closed. -/
theorem convert_group_eq_splice_strayOperands :
    .operand "x" ∉ openDifference ∧ .operand "x" ∉ squared ∧
      ParenthesesMatch strayOperands ∧
      ∃ written, convert strayOperands = .ok written ∧
        written = [.operand "x", .operand "y", .operator (.binary .mul),
          .operator (.binary .add)] ∧
        convert (openDifference ++
            ([.operator .opening] ++ strayOperands ++ [.operator .closing]) ++ squared) =
          (convert (openDifference ++ [.operand "x"] ++ squared)).map (splice "x" written) ∧
        ∀ output, convert (openDifference ++ [.operand "x"] ++ squared) = .ok output ->
          output.count (.operand "x") = 1 := by
  have notBefore : .operand "x" ∉ openDifference := by decide
  have notBehind : .operand "x" ∉ squared := by decide
  have parenthesesMatch : ParenthesesMatch strayOperands := by
    refine ⟨?_, rfl⟩
    intro start isStart
    have converted : convert strayOperands = .ok [.operand "x", .operand "y",
      .operator (.binary .mul), .operator (.binary .add)] := rfl
    exact closings_le_openings_of_convert converted isStart
  obtain ⟨written, converted, spliced, once⟩ :=
    convert_group_eq_splice notBefore notBehind parenthesesMatch
  refine ⟨notBefore, notBehind, parenthesesMatch, written, converted, ?_, spliced, once⟩
  cases converted
  rfl

end PostfixCalculator
