import PostfixCalculator.Proofs.Conversion

/-!
# Counting parentheses

The opening parentheses that wait in a conversion are those that the input has
opened and not closed: no operator releases one, and each closing parenthesis
takes exactly one away. So a conversion is refused exactly where the input has
closed more parentheses than it has opened, and for no other cause. Parentheses
that stay open are no fault of a conversion.
-/

namespace PostfixCalculator

namespace Token

/-- The number of opening parentheses. -/
def openings (tokens : List Token) : Nat :=
  tokens.count (.operator .opening)

/-- The number of closing parentheses. -/
def closings (tokens : List Token) : Nat :=
  tokens.count (.operator .closing)

@[simp] theorem openings_nil : openings [] = 0 := rfl

@[simp] theorem closings_nil : closings [] = 0 := rfl

@[simp] theorem openings_append (first second : List Token) :
    openings (first ++ second) = openings first + openings second :=
  List.count_append

@[simp] theorem closings_append (first second : List Token) :
    closings (first ++ second) = closings first + closings second :=
  List.count_append

theorem openings_cons (token : Token) (tokens : List Token) :
    openings (token :: tokens) = openings [token] + openings tokens :=
  openings_append [token] tokens

theorem closings_cons (token : Token) (tokens : List Token) :
    closings (token :: tokens) = closings [token] + closings tokens :=
  closings_append [token] tokens

/-- No start of some tokens closes more parentheses than it opens, and all of them
close as many as they open. -/
def ParenthesesMatch (tokens : List Token) : Prop :=
  (∀ start, start <+: tokens -> closings start ≤ openings start) ∧
    openings tokens = closings tokens

end Token

namespace Conversion

open Token

variable {state next : Conversion} {token : Token} {tokens : List Token}

/-- The number of parentheses that are open. -/
def depth (state : Conversion) : Nat :=
  state.waiting.items.count .opening

@[simp] theorem depth_start : start.depth = 0 := rfl

@[simp] theorem depth_put (state : Conversion) (token : Token) :
    (state.put token).depth = state.depth := rfl

@[simp] theorem depth_hold_opening (state : Conversion) :
    (state.hold .opening).depth = state.depth + 1 :=
  List.count_cons_self

@[simp] theorem depth_hold_binary (state : Conversion) (operator : BinaryOperator) :
    (state.hold (.binary operator)).depth = state.depth :=
  List.count_cons_of_ne Operator.noConfusion

/-- Where no opening parenthesis is released, as many are open as are kept. -/
theorem depth_eq_count
    {released kept : List Operator}
    (waiting : state.waiting.items = released ++ kept)
    (noOpening : .opening ∉ released) :
    state.depth = kept.count .opening := by
  rw [depth, waiting, List.count_append, List.count_eq_zero.mpr noOpening, Nat.zero_add]

/-- An opening parenthesis opens one, a closing one closes one, and nothing else
changes the number. -/
theorem Step.depth_eq (step : Step state token next) :
    next.depth + closings [token] = state.depth + openings [token] := by
  cases step with
  | operand lexeme => rfl
  | opening => exact depth_hold_opening state
  | closing waiting noOpening =>
      rw [depth_eq_count waiting noOpening, List.count_cons_self]
      rfl
  | binary waiting releases stops =>
      rw [depth_hold_binary, depth_eq_count waiting (opening_notMem_of_rank_le releases)]
      rfl

/-- Over a whole run, the number of open parentheses changes by the difference. -/
theorem depth_eq_of_foldlM
    {reached : Conversion}
    (ran : tokens.foldlM accept state = .ok reached) :
    reached.depth + closings tokens = state.depth + openings tokens := by
  refine Run.foldlM_induction (motive := fun done current =>
    current.depth + closings done = state.depth + openings done) rfl ?_ ran
  intro done current token next soFar accepted
  have change := (accept_eq_ok_iff.mp accepted).depth_eq
  rw [openings_append, closings_append]
  omega

/-- A token is refused exactly if it closes a parenthesis where none is open. -/
theorem accept_eq_error_iff_depth {fault : Fault} :
    state.accept token = .error fault ↔
      fault = .unbalancedParentheses ∧ state.depth + openings [token] < closings [token] := by
  rw [accept_eq_error_iff]
  refine and_congr_right fun _ => ?_
  constructor
  · rintro ⟨rfl, absent⟩
    rw [depth, List.count_eq_zero.mpr absent]
    decide
  · intro tooMany
    have present : .operator .closing ∈ [token] :=
      List.count_pos_iff.mp (Nat.zero_lt_of_lt tooMany)
    cases List.mem_singleton.mp present
    exact ⟨rfl, List.count_eq_zero.mp (Nat.lt_one_iff.mp tooMany)⟩

/-- A run is refused exactly if some start of its tokens closes more parentheses
than were open before it and are opened in it. -/
theorem foldlM_accept_eq_error_iff {fault : Fault} :
    tokens.foldlM accept state = .error fault ↔
      fault = .unbalancedParentheses ∧
        ∃ start, start <+: tokens ∧ state.depth + openings start < closings start := by
  induction tokens generalizing state with
  | nil =>
      constructor
      · intro refused
        cases refused
      · rintro ⟨-, start, isStart, tooMany⟩
        rw [List.prefix_nil.mp isStart] at tooMany
        exact absurd tooMany (Nat.not_lt_zero _)
  | cons token rest inductionHypothesis =>
      rw [List.foldlM_cons]
      cases result : state.accept token with
      | error refusal =>
          -- The run ends here, and the first token alone is the start looked for.
          obtain ⟨isUnbalanced, tooMany⟩ := accept_eq_error_iff_depth.mp result
          rw [Run.error_bind, Except.error.injEq, isUnbalanced, eq_comm]
          exact (and_iff_left ⟨[token], List.prefix_append [token] rest, tooMany⟩).symm
      | ok next =>
          -- A start with too many is not empty, and goes on after the first token.
          have change := (accept_eq_ok_iff.mp result).depth_eq
          rw [Run.ok_bind, inductionHypothesis]
          refine and_congr_right fun _ => ?_
          constructor
          · rintro ⟨start, isStart, tooMany⟩
            refine ⟨token :: start, (List.prefix_cons_inj token).mpr isStart, ?_⟩
            rw [openings_cons, closings_cons]
            omega
          · rintro ⟨start, isStart, tooMany⟩
            rcases List.prefix_cons_iff.mp isStart with rfl | ⟨others, rfl, goesOn⟩
            · exact absurd tooMany (Nat.not_lt_zero _)
            · rw [openings_cons, closings_cons] at tooMany
              exact ⟨others, goesOn, by omega⟩

end Conversion

/-- A conversion fails exactly if some start of its tokens closes too many
parentheses. -/
theorem convert_eq_error_iff_exists_start {tokens : List Token} {fault : Fault} :
    convert tokens = .error fault ↔
      fault = .unbalancedParentheses ∧
        ∃ start, start <+: tokens ∧ Token.openings start < Token.closings start := by
  rw [convert_eq_error_iff_run, Conversion.run, Conversion.foldlM_accept_eq_error_iff,
    Conversion.depth_start]
  simp only [Nat.zero_add]

/-- No start of tokens that are converted closes too many parentheses. -/
theorem closings_le_openings_of_convert
    {tokens output start : List Token}
    (converted : convert tokens = .ok output)
    (isStart : start <+: tokens) :
    Token.closings start ≤ Token.openings start := by
  by_contra tooMany
  have failed := convert_eq_error_iff_exists_start.mpr
    ⟨rfl, start, isStart, Nat.lt_of_not_le tooMany⟩
  rw [converted] at failed
  cases failed

/-- A conversion fails exactly if some start of its tokens has more closing than
opening parentheses, whatever follows, and then the fault is that parentheses are
unbalanced. The fault of an empty stack does not occur: from no state does taking
fail what was seen on top. -/
theorem convert_eq_error_iff (tokens : List Token) (fault : Fault) :
    (convert tokens = .error fault ↔
      fault = .unbalancedParentheses ∧
        ∃ start, start <+: tokens ∧ Token.openings start < Token.closings start) ∧
    ∀ (state : Conversion) (operator : BinaryOperator),
      state.releaseBefore operator ≠ .error fault := by
  constructor
  · exact convert_eq_error_iff_exists_start
  · intro state operator refused
    rw [Conversion.releaseBefore_eq_ok] at refused
    cases refused

end PostfixCalculator
