import PostfixCalculator.Proofs.Conservation

/-!
# Groups are converted as blocks

What is below an opening parenthesis on the stack is out of reach for the tokens
of its group: an operator stops at the parenthesis, and only the partner removes
it. So the tokens of a group do there what they do alone, and the group as a whole
puts out what its tokens are converted to and leaves on the stack what waited
before. An operand does the same with itself.

Tokens that do this are a block. The surroundings of a block do not depend on what
it puts out, and whether they are refused does not either.
-/

namespace PostfixCalculator
namespace Conversion

/-- States with the same output and the same waiting operators are the same. -/
theorem eq_of_toList_eq
    {first second : Conversion}
    (output : first.output.toList = second.output.toList)
    (waiting : first.waiting.items = second.waiting.items) :
    first = second := by
  obtain ⟨firstOutput, firstWaiting⟩ := first
  obtain ⟨secondOutput, secondWaiting⟩ := second
  rw [mk.injEq, ← Array.toList_inj]
  exact ⟨output, congrArg Stack.mk waiting⟩

/-! ## Frames -/

/-- A state with some tokens put out before its output and some operators below
those that wait. -/
def frame
    (written : List Token)
    (below : List Operator)
    (state : Conversion) : Conversion :=
  ⟨written.toArray ++ state.output, ⟨state.waiting.items ++ below⟩⟩

/-- Nothing reaches some operators: if there are any, the first is an opening
parenthesis. -/
def Sealed (below : List Operator) : Prop :=
  ∀ top ∈ below.head?, top = .opening

theorem sealed_nil : Sealed [] :=
  nofun

theorem sealed_opening (below : List Operator) : Sealed (.opening :: below) := by
  intro top first
  cases first
  rfl

variable {below : List Operator} {state next : Conversion} {token : Token}

@[simp] theorem output_frame
    (written : List Token)
    (below : List Operator)
    (state : Conversion) :
    (frame written below state).output.toList = written ++ state.output.toList := by
  simp [frame]

@[simp] theorem waiting_frame
    (written : List Token)
    (below : List Operator)
    (state : Conversion) :
    (frame written below state).waiting.items = state.waiting.items ++ below := rfl

theorem frame_put
    (written : List Token)
    (below : List Operator)
    (state : Conversion)
    (token : Token) :
    frame written below (state.put token) = (frame written below state).put token :=
  eq_of_toList_eq (by simp) rfl

theorem frame_hold
    (written : List Token)
    (below : List Operator)
    (state : Conversion)
    (operator : Operator) :
    frame written below (state.hold operator) =
      (frame written below state).hold operator := rfl

theorem frame_release
    (written : List Token)
    (below : List Operator)
    (state : Conversion)
    (released kept : List Operator) :
    frame written below (state.release released kept) =
      (frame written below state).release released (kept ++ below) :=
  eq_of_toList_eq (by simp) rfl

/-- A binary operator stops at a sealed frame. -/
theorem rank_lt_of_sealed
    (isSealed : Sealed below)
    {operator : BinaryOperator}
    {kept : List Operator}
    (stops : ∀ top ∈ kept.head?, top.rank < operator.rank) :
    ∀ top ∈ (kept ++ below).head?, top.rank < operator.rank := by
  cases kept with
  | nil =>
      intro top first
      rw [isSealed top first]
      cases operator <;> decide
  | cons top rest => exact stops

/-- A token does inside a sealed frame what it does alone. -/
theorem Step.frame
    (step : Step state token next)
    (written : List Token)
    (isSealed : Sealed below) :
    Step (frame written below state) token (frame written below next) := by
  cases step with
  | operand lexeme =>
      rw [frame_put]
      exact .operand lexeme
  | opening =>
      rw [frame_hold]
      exact .opening
  | closing waiting noOpening =>
      rw [frame_release]
      exact .closing (by simp [waiting]) noOpening
  | binary waiting releases stops =>
      rw [frame_hold, frame_release]
      exact .binary (by simp [waiting]) releases (rank_lt_of_sealed isSealed stops)

/-- Tokens do inside a sealed frame what they do alone. -/
theorem foldlM_accept_frame_of_ok
    {tokens : List Token}
    {reached : Conversion}
    (ran : tokens.foldlM accept state = .ok reached)
    (written : List Token)
    (isSealed : Sealed below) :
    tokens.foldlM accept (frame written below state) = .ok (frame written below reached) := by
  refine Run.foldlM_ok_of_step (fun state token next accepted => ?_) ran
  exact accept_eq_ok_iff.mpr ((accept_eq_ok_iff.mp accepted).frame written isSealed)

/-- What has been put out before does not matter for a token. -/
theorem accept_frame_nil
    (written : List Token)
    (state : Conversion)
    (token : Token) :
    (frame written [] state).accept token = (state.accept token).map (frame written []) := by
  cases result : state.accept token with
  | error fault =>
      obtain ⟨isUnbalanced, isClosing, absent⟩ := accept_eq_error_iff.mp result
      refine accept_eq_error_iff.mpr ⟨isUnbalanced, isClosing, ?_⟩
      rwa [waiting_frame, List.append_nil]
  | ok next =>
      exact accept_eq_ok_iff.mpr ((accept_eq_ok_iff.mp result).frame written sealed_nil)

/-- What has been put out before stays in front. -/
theorem finish_frame_nil (written : List Token) (state : Conversion) :
    (frame written [] state).finish = written ++ state.finish := by
  rw [finish_eq, finish_eq, output_frame, waiting_frame, List.append_nil, List.append_assoc]

/-! ## Blocks -/

/-- Put out several tokens. -/
def putAll (state : Conversion) (tokens : List Token) : Conversion :=
  ⟨state.output ++ tokens, state.waiting⟩

@[simp] theorem output_putAll (state : Conversion) (tokens : List Token) :
    (state.putAll tokens).output.toList = state.output.toList ++ tokens := by
  simp [putAll]

@[simp] theorem waiting_putAll (state : Conversion) (tokens : List Token) :
    (state.putAll tokens).waiting = state.waiting := rfl

/-- A state is one with an empty output, framed by what it has put out. -/
theorem putAll_eq_frame (state : Conversion) (tokens : List Token) :
    state.putAll tokens = frame (state.output.toList ++ tokens) [] ⟨#[], state.waiting⟩ :=
  eq_of_toList_eq (by simp) (by simp)

/-- Inside a group that has just begun, everything else is a frame. -/
theorem hold_opening_eq_frame (state : Conversion) :
    state.hold .opening = frame state.output.toList (.opening :: state.waiting.items) start :=
  eq_of_toList_eq (by simp) rfl

/-- From every state some tokens put out others, and leave what waits as it is. -/
def PutsOut (tokens written : List Token) : Prop :=
  ∀ state : Conversion, tokens.foldlM accept state = .ok (state.putAll written)

/-- An operand puts out itself. -/
theorem putsOut_operand (lexeme : String) :
    PutsOut [.operand lexeme] [.operand lexeme] := by
  intro state
  have same : state.put (.operand lexeme) = state.putAll [.operand lexeme] :=
    eq_of_toList_eq (by simp) rfl
  rw [← same]
  rfl

/-- At the end of a group all that waits in it is put out. -/
theorem close_frame_opening
    {inner : Conversion}
    (noneOpen : .opening ∉ inner.waiting.items)
    (outer : Conversion) :
    (frame outer.output.toList (.opening :: outer.waiting.items) inner).close =
      .ok (outer.putAll inner.finish) := by
  refine close_eq_ok_iff.mpr ⟨inner.waiting.items, outer.waiting.items, rfl, noneOpen, ?_⟩
  exact eq_of_toList_eq (by simp [finish_eq]) rfl

/-- A group puts out what its tokens are converted to, if no parenthesis is left
open in it. -/
theorem putsOut_group
    {inner written : List Token}
    (converted : convert inner = .ok written)
    (noneOpen : .operator .opening ∉ written) :
    PutsOut ([.operator .opening] ++ inner ++ [.operator .closing]) written := by
  intro state
  obtain ⟨reached, ran, rfl⟩ := convert_eq_ok_iff.mp converted
  have noneWaits : .opening ∉ reached.waiting.items := by
    intro present
    apply noneOpen
    rw [finish_eq]
    exact List.mem_append_right _ (List.mem_map_of_mem present)
  have ranInside := foldlM_accept_frame_of_ok ran state.output.toList
    (sealed_opening state.waiting.items)
  rw [← hold_opening_eq_frame] at ranInside
  rw [Run.foldlM_concat, List.singleton_append, List.foldlM_cons, accept_opening, Run.ok_bind,
    ranInside, Run.ok_bind, accept_closing, close_frame_opening noneWaits]

/-! ## Surroundings -/

/-- What the tokens around a block are converted to: those put out before the
block, and those put out after it. -/
def surround (before behind : List Token) : Except Fault (List Token × List Token) := do
  let reached ← run before
  let following ← behind.foldlM accept ⟨#[], reached.waiting⟩
  return (reached.output.toList, following.finish)

/-- What a block puts out stands between what its surroundings put out. -/
theorem convert_append_append
    {block written : List Token}
    (putsOut : PutsOut block written)
    (before behind : List Token) :
    convert (before ++ block ++ behind) =
      (surround before behind).map fun around => around.1 ++ written ++ around.2 := by
  unfold convert surround run
  rw [List.foldlM_append, List.foldlM_append]
  cases before.foldlM accept start with
  | error fault => rfl
  | ok reached =>
      rw [Run.ok_bind, Run.ok_bind, putsOut reached, Run.ok_bind, putAll_eq_frame,
        Run.foldlM_map (accept_frame_nil _)]
      cases behind.foldlM accept ⟨#[], reached.waiting⟩ with
      | error fault => rfl
      | ok following =>
          rw [Run.map_ok, Run.map_ok, finish_frame_nil]
          rfl

/-- The operands around a block are those of its surroundings. -/
theorem operands_of_surround
    {before behind : List Token}
    {around : List Token × List Token}
    (surrounded : surround before behind = .ok around) :
    Token.operands around.1 = Token.operands before ∧
      Token.operands around.2 = Token.operands behind := by
  obtain ⟨reached, ranBefore, surrounded⟩ := Run.bind_eq_ok_iff.mp surrounded
  obtain ⟨following, ranBehind, surrounded⟩ := Run.bind_eq_ok_iff.mp surrounded
  cases surrounded
  rw [operands_finish, operands_of_foldlM ranBefore, operands_of_foldlM ranBehind]
  exact ⟨rfl, rfl⟩

/-- An operand that does not occur around a block is not put out around it. -/
theorem notMem_of_surround
    {before behind : List Token}
    {around : List Token × List Token}
    {lexeme : String}
    (surrounded : surround before behind = .ok around)
    (notBefore : .operand lexeme ∉ before)
    (notBehind : .operand lexeme ∉ behind) :
    .operand lexeme ∉ around.1 ∧ .operand lexeme ∉ around.2 := by
  obtain ⟨operandsBefore, operandsBehind⟩ := operands_of_surround surrounded
  rw [Token.operand_mem_iff_of_operands_eq operandsBefore,
    Token.operand_mem_iff_of_operands_eq operandsBehind]
  exact ⟨notBefore, notBehind⟩

end Conversion
end PostfixCalculator
