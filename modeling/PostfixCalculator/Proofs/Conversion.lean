import PostfixCalculator.Conversion
import PostfixCalculator.Proofs.Cut
import PostfixCalculator.Proofs.Run

/-!
# What a conversion does at each step

Every step that releases operators cuts the waiting operators in two: those
above the cut are put out in the order in which they leave the stack, those
below stay. `release` is this effect, and the lemmas say where the cut is. A
closing parenthesis cuts above the last opening one and is refused if there is
none, a binary operator cuts above the first operator of a lower rank, and the
end of the input leaves nothing.

`Step` says once what a token can do to a state that accepts it. Only a closing
parenthesis is ever refused.
-/

namespace PostfixCalculator
namespace Conversion

/-- Put out some operators and keep others waiting. -/
def release
    (state : Conversion)
    (released kept : List Operator) : Conversion :=
  ⟨state.output ++ released.map Token.operator, ⟨kept⟩⟩

@[simp] theorem output_start : start.output = #[] := rfl

@[simp] theorem waiting_start : start.waiting = .empty := rfl

@[simp] theorem output_put (state : Conversion) (token : Token) :
    (state.put token).output.toList = state.output.toList ++ [token] := by
  simp [put]

@[simp] theorem waiting_put (state : Conversion) (token : Token) :
    (state.put token).waiting = state.waiting := rfl

@[simp] theorem output_hold (state : Conversion) (operator : Operator) :
    (state.hold operator).output = state.output := rfl

@[simp] theorem waiting_hold (state : Conversion) (operator : Operator) :
    (state.hold operator).waiting.items = operator :: state.waiting.items := rfl

@[simp] theorem output_release (state : Conversion) (released kept : List Operator) :
    (state.release released kept).output.toList =
      state.output.toList ++ released.map Token.operator := by
  simp [release]

@[simp] theorem waiting_release (state : Conversion) (released kept : List Operator) :
    (state.release released kept).waiting.items = kept := rfl

/-- What is released is all up to the first operator that fails the
condition. -/
theorem releaseWhile_eq_release
    {state : Conversion}
    {condition : Operator -> Bool}
    {released kept : List Operator}
    (waiting : state.waiting.items = released ++ kept)
    (releases : ∀ operator ∈ released, condition operator = true)
    (stops : ∀ operator ∈ kept.head?, condition operator = false) :
    state.releaseWhile condition = state.release released kept := by
  obtain ⟨taken, left⟩ := Cut.takeWhile_dropWhile_append releases stops
  simp only [releaseWhile, Stack.popWhile, release]
  rw [waiting, taken, left]

/-- A closing parenthesis is accepted exactly if an opening one waits; it
releases what waits above the last of them. -/
theorem close_eq_ok_iff {state next : Conversion} :
    state.close = .ok next ↔
      ∃ released kept, state.waiting.items = released ++ .opening :: kept ∧
        .opening ∉ released ∧ next = state.release released kept := by
  constructor
  · intro closed
    obtain ⟨released, kept, waiting, releases, stops⟩ :=
      Cut.exists_cut state.waiting.items (· != .opening)
    unfold close at closed
    rw [releaseWhile_eq_release waiting releases stops] at closed
    cases kept with
    | nil => cases closed
    | cons top below =>
        cases closed
        have isOpening : top = .opening := by simpa using stops top rfl
        rw [isOpening] at waiting
        exact ⟨released, below, waiting,
          fun present => by simpa using releases _ present, rfl⟩
  · rintro ⟨released, kept, waiting, noOpening, rfl⟩
    unfold close
    rw [releaseWhile_eq_release waiting]
    · rfl
    · intro operator present
      rw [bne_iff_ne]
      exact ne_of_mem_of_not_mem present noOpening
    · simp

/-- A binary operator releases what waits above the first operator of a lower
rank, and waits itself. -/
theorem accept_binary_eq_release
    {state : Conversion}
    {operator : BinaryOperator}
    {released kept : List Operator}
    (waiting : state.waiting.items = released ++ kept)
    (releases : ∀ top ∈ released, operator.rank ≤ top.rank)
    (stops : ∀ top ∈ kept.head?, top.rank < operator.rank) :
    state.accept (.operator (.binary operator)) =
      .ok ((state.release released kept).hold (.binary operator)) := by
  rw [accept_binary, releaseWhile_eq_release waiting]
  · simpa using releases
  · intro top first
    simpa using stops top first

/-- A closing parenthesis is refused exactly if no opening one waits. -/
theorem close_eq_error_iff {state : Conversion} {fault : Fault} :
    state.close = .error fault ↔
      fault = .unbalancedParentheses ∧ .opening ∉ state.waiting.items := by
  obtain ⟨released, kept, waiting, releases, stops⟩ :=
    Cut.exists_cut state.waiting.items (· != .opening)
  have noOpening : .opening ∉ released :=
    fun present => absurd (releases _ present) (by decide)
  unfold close
  rw [releaseWhile_eq_release waiting releases stops, waiting]
  cases kept with
  | nil =>
      rw [List.append_nil]
      constructor
      · intro refused
        cases refused
        exact ⟨rfl, noOpening⟩
      · rintro ⟨rfl, -⟩
        rfl
  | cons top below =>
      have isOpening : top = .opening := by simpa using stops top rfl
      constructor
      · intro accepted
        cases accepted
      · rintro ⟨-, absent⟩
        rw [isOpening] at absent
        exact absurd (List.mem_append_right _ List.mem_cons_self) absent

/-- What a token can do to a state that accepts it. -/
inductive Step (state : Conversion) : Token -> Conversion -> Prop
  | operand (lexeme : String) :
      Step state (.operand lexeme) (state.put (.operand lexeme))
  | opening :
      Step state (.operator .opening) (state.hold .opening)
  | closing {released kept : List Operator}
      (waiting : state.waiting.items = released ++ .opening :: kept)
      (noOpening : .opening ∉ released) :
      Step state (.operator .closing) (state.release released kept)
  | binary {operator : BinaryOperator} {released kept : List Operator}
      (waiting : state.waiting.items = released ++ kept)
      (releases : ∀ top ∈ released, operator.rank ≤ top.rank)
      (stops : ∀ top ∈ kept.head?, top.rank < operator.rank) :
      Step state (.operator (.binary operator))
        ((state.release released kept).hold (.binary operator))

/-- A token is accepted exactly if it can do something to the state. -/
theorem accept_eq_ok_iff {state next : Conversion} {token : Token} :
    state.accept token = .ok next ↔ Step state token next := by
  constructor
  · intro accepted
    cases token with
    | operand lexeme =>
        cases accepted
        exact .operand lexeme
    | operator operator =>
        cases operator with
        | opening =>
            cases accepted
            exact .opening
        | closing =>
            obtain ⟨released, kept, waiting, noOpening, rfl⟩ := close_eq_ok_iff.mp accepted
            exact .closing waiting noOpening
        | binary operator =>
            obtain ⟨released, kept, waiting, releases, stops⟩ :=
              Cut.exists_cut state.waiting.items fun top => operator.rank ≤ top.rank
            simp only [decide_eq_true_eq, decide_eq_false_iff_not, Nat.not_le] at releases stops
            rw [accept_binary_eq_release waiting releases stops] at accepted
            cases accepted
            exact .binary waiting releases stops
  · intro step
    cases step with
    | operand lexeme => rfl
    | opening => rfl
    | closing waiting noOpening =>
        exact close_eq_ok_iff.mpr ⟨_, _, waiting, noOpening, rfl⟩
    | binary waiting releases stops => exact accept_binary_eq_release waiting releases stops

/-- A token is refused exactly if it is a closing parenthesis and no opening one
waits. -/
theorem accept_eq_error_iff {state : Conversion} {token : Token} {fault : Fault} :
    state.accept token = .error fault ↔
      fault = .unbalancedParentheses ∧ token = .operator .closing ∧
        .opening ∉ state.waiting.items := by
  constructor
  · intro refused
    cases token with
    | operand lexeme => cases refused
    | operator operator =>
        cases operator with
        | opening => cases refused
        | closing =>
            obtain ⟨isUnbalanced, absent⟩ := close_eq_error_iff.mp refused
            exact ⟨isUnbalanced, rfl, absent⟩
        | binary operator =>
            rw [accept_binary] at refused
            cases refused
  · rintro ⟨isUnbalanced, rfl, absent⟩
    exact close_eq_error_iff.mpr ⟨isUnbalanced, absent⟩

/-- No binary operator releases an opening parenthesis, whose rank is lower. -/
theorem opening_notMem_of_rank_le
    {operator : BinaryOperator}
    {released : List Operator}
    (releases : ∀ top ∈ released, operator.rank ≤ top.rank) :
    .opening ∉ released := by
  intro present
  have binds : operator.rank ≤ 1 := releases .opening present
  cases operator <;> contradiction

/-- The output ends with all operators that still wait. -/
theorem finish_eq (state : Conversion) :
    state.finish = state.output.toList ++ state.waiting.items.map Token.operator := by
  unfold finish
  rw [releaseWhile_eq_release (List.append_nil _).symm (by simp) (by simp), output_release]

end Conversion

/-- A conversion succeeds exactly if its run does. -/
theorem convert_eq_ok_iff
    {tokens output : List Token} :
    convert tokens = .ok output ↔
      ∃ state, Conversion.run tokens = .ok state ∧ state.finish = output := by
  unfold convert
  cases Conversion.run tokens with
  | error fault => simp
  | ok state => simp

/-- A conversion fails exactly if its run does. -/
theorem convert_eq_error_iff_run {tokens : List Token} {fault : Fault} :
    convert tokens = .error fault ↔ Conversion.run tokens = .error fault := by
  unfold convert
  cases Conversion.run tokens with
  | error refusal => simp
  | ok state => simp

end PostfixCalculator
