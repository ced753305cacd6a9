import PostfixCalculator.Proofs.CursorOperations

/-!
# Look-ahead loses nothing

A cursor that was reached in a text by any operations has at most one character in its
buffer beyond those that it has moved over, and its position leaves the buffer only when
the source is exhausted. So the part of the buffer that is handed out always ends where
the position says, and after handing out at most one character is left.

The characters taken out on the way, those in the buffer and those in the source are the
text: looking ahead and going back neither loses a character nor repeats one. An operation
takes characters out at most once, as its last step, and what it does before only moves
characters from the source to the buffer.
-/

namespace PostfixCalculator
namespace Text

/-- The text that an answer hands out, if it does. -/
def Answer.text? : Answer -> Option String
  | .text handedOut => some handedOut
  | .run handedOut => handedOut
  | .character _ | .operator _ | .success _ => none

namespace Cursor

/-! ## The position and the buffer -/

/-- How far the position and the buffer can be apart. -/
structure IsBounded (cursor : Cursor) : Prop where
  neg_one_le_position : -1 ≤ cursor.position
  position_le_size : cursor.position ≤ cursor.buffer.size
  size_le_position_add_two : cursor.buffer.size ≤ cursor.position + 2
  /-- The position is past the buffer only when nothing is left to be read. -/
  source_eq_nil : cursor.position = cursor.buffer.size -> cursor.source = []

namespace IsBounded

variable {cursor : Cursor}

/-- The characters to be handed out end at the position, or with the buffer. -/
theorem extent_eq (bounded : cursor.IsBounded) :
    (cursor.extent : Int) = min (cursor.position + 1) cursor.buffer.size := by
  have lower := bounded.neg_one_le_position
  rw [extent, Int.toNat_of_nonneg (by omega)]

/-- At most one character has been read beyond those moved over. -/
theorem size_le_extent_add_one (bounded : cursor.IsBounded) :
    cursor.buffer.size ≤ cursor.extent + 1 := by
  have upper := bounded.size_le_position_add_two
  have ends := bounded.extent_eq
  omega

/-- The number of characters that are missing to move on is not negative. -/
theorem missing_eq (bounded : cursor.IsBounded) :
    ((cursor.position + 1 - cursor.buffer.size + 1).toNat : Int) =
      cursor.position + 1 - cursor.buffer.size + 1 := by
  have upper := bounded.size_le_position_add_two
  exact Int.toNat_of_nonneg (by omega)

/-- After handing out at most one character is left. -/
theorem size_rest_le_one (bounded : cursor.IsBounded) : cursor.rest.buffer.size ≤ 1 := by
  have upper := bounded.size_le_extent_add_one
  rw [rest, Array.size_extract]
  omega

end IsBounded

/-- A cursor that represents a plain one is bounded. -/
theorem Represents.isBounded
    {cursor : Cursor}
    {plain : PlainCursor}
    (represents : cursor.Represents plain) :
    cursor.IsBounded := by
  have accepted_le := represents.accepted_le
  have size_le := represents.size_le
  cases pastEnd : plain.pastEnd with
  | false =>
      have position := represents.position_add_one_eq pastEnd
      exact
        { neg_one_le_position := by omega
          position_le_size := by omega
          size_le_position_add_two := by omega
          source_eq_nil := fun atEnd => absurd atEnd (by omega) }
  | true =>
      have position := represents.position_eq_size pastEnd
      have unread := represents.drop_accepted
      rw [represents.rest_eq_nil pastEnd] at unread
      exact
        { neg_one_le_position := by omega
          position_le_size := by omega
          size_le_position_add_two := by omega
          source_eq_nil := fun _ => (List.append_eq_nil_iff.mp unread).2 }

/-- A cursor has a current character exactly if it is on it. -/
theorem isSome_current?_iff (cursor : Cursor) :
    cursor.current?.isSome = true ↔ cursor.OnCharacter := by
  constructor
  · intro present
    obtain ⟨character, found⟩ := Option.isSome_iff_exists.mp present
    exact onCharacter_of_current? found
  · rintro ⟨nonnegative, within⟩
    rw [current?, if_neg (by omega), Array.getElem?_eq_getElem (by omega)]
    rfl

/-! ## The characters of a cursor -/

/-- The characters, read or unread, that have not been handed out. -/
def characters (cursor : Cursor) : List Char :=
  cursor.buffer.toList ++ cursor.source

@[simp] theorem characters_ofText (text : String) : (ofText text).characters = text.toList := rfl

@[simp] theorem characters_returnTo (cursor : Cursor) (position : Int) :
    (cursor.returnTo position).characters = cursor.characters := rfl

@[simp] theorem characters_advance (cursor : Cursor) :
    cursor.advance.2.characters = cursor.characters :=
  cursor.toList_append_source_moveTo _

@[simp] theorem characters_peek (cursor : Cursor) :
    cursor.peek.2.characters = cursor.characters :=
  cursor.characters_advance

@[simp] theorem characters_advanceIf (cursor : Cursor) (condition : Char -> Bool) :
    (cursor.advanceIf condition).2.characters = cursor.characters := by
  cases moved : (cursor.advanceIf condition).1 with
  | none => rw [advanceIf_of_none moved, characters_peek]
  | some character => rw [advanceIf_of_some moved, characters_advance]

/-- Moving over a run takes nothing out. -/
@[simp] theorem characters_advanceWhile (cursor : Cursor) (condition : Char -> Bool) :
    (cursor.advanceWhile condition).2.characters = cursor.characters := by
  fun_induction advanceWhile cursor condition with
  | case1 cursor character next step inductionHypothesis =>
      have kept := cursor.characters_advanceIf condition
      rw [step] at kept
      exact inductionHypothesis.trans kept
  | case2 cursor stopped step =>
      have kept := cursor.characters_advanceIf condition
      rwa [step] at kept

/-- Handing out splits the characters. -/
theorem passed_append_characters_rest (cursor : Cursor) :
    cursor.passed.toList ++ cursor.rest.characters = cursor.characters := by
  rw [characters, toList_buffer_rest, passed, String.toList_ofList, ← List.append_assoc,
    List.take_append_drop]
  rfl

/-! ## Handing out -/

/-- The cursor behind the run at a cursor, if there is one. -/
def behindRun? (cursor : Cursor) (condition : Char -> Bool) : Option Cursor :=
  match cursor.advanceWhile condition with
  | (true, moved) => some moved
  | (false, _) => none

/-- From which cursor an operation hands out, if it does. Handing out is its last step. -/
def handsOutFrom? (cursor : Cursor) : Operation -> Option Cursor
  | .advance | .peek | .advanceIf _ | .advanceWhile _ => none
  | .extract => some cursor
  | .readNumber => cursor.behindRun? Char.isDigit
  | .readName => cursor.behindRun? Char.isLower
  | .readOperator => (cursor.advance.1.bind Operator.ofChar?).map fun _ => cursor.advance.2
  | .discard => some cursor.advance.2

/-- The characters that an operation takes out of the buffer. -/
def takenOut (cursor : Cursor) (operation : Operation) : List Char :=
  match cursor.handsOutFrom? operation with
  | some moved => moved.extract.1.toList
  | none => []

variable {cursor moved : Cursor} {condition : Char -> Bool} {operation : Operation}

/-- A cursor is reached from another one by moving over characters only. -/
inductive MovesTo (cursor : Cursor) : Cursor -> Prop
  | here : MovesTo cursor cursor
  | advance : MovesTo cursor cursor.advance.2
  | advanceWhile (condition : Char -> Bool) : MovesTo cursor (cursor.advanceWhile condition).2

/-- Moving takes nothing out. -/
theorem MovesTo.characters_eq (moves : cursor.MovesTo moved) :
    moved.characters = cursor.characters := by
  cases moves with
  | here => rfl
  | advance => exact cursor.characters_advance
  | advanceWhile condition => exact cursor.characters_advanceWhile condition

/-- Where a plain cursor is represented, one is after moving. -/
theorem MovesTo.exists_represents
    {plain : PlainCursor}
    (moves : cursor.MovesTo moved)
    (represents : cursor.Represents plain) :
    ∃ next, moved.Represents next := by
  cases moves with
  | here => exact ⟨plain, represents⟩
  | advance => exact ⟨_, represents.advance.2⟩
  | advanceWhile condition => exact ⟨_, (represents.advanceWhile condition).2⟩

/-- A run is handed out from behind it. -/
theorem readRun_of_behindRun?_eq_some (found : cursor.behindRun? condition = some moved) :
    cursor.MovesTo moved ∧ (cursor.readRun condition).2 = moved.extract.2 ∧
      ∀ text ∈ (cursor.readRun condition).1, text = moved.extract.1 := by
  have moves : cursor.MovesTo (cursor.advanceWhile condition).2 := .advanceWhile condition
  unfold behindRun? at found
  unfold readRun
  cases step : cursor.advanceWhile condition with | mk any behind =>
  rw [step] at found moves
  cases any with
  | false => cases found
  | true =>
      cases found
      refine ⟨moves, rfl, ?_⟩
      intro text handedOut
      exact (Option.some.inj handedOut).symm

/-- Where there is no run, reading one keeps the characters. -/
theorem characters_readRun_of_behindRun?_eq_none
    (missing : cursor.behindRun? condition = none) :
    (cursor.readRun condition).2.characters = cursor.characters := by
  have kept := cursor.characters_advanceWhile condition
  unfold behindRun? at missing
  unfold readRun
  cases step : cursor.advanceWhile condition with | mk any behind =>
  rw [step] at missing kept
  cases any with
  | false => exact kept
  | true => cases missing

/-- An operation that does not hand out keeps the characters. -/
theorem characters_perform_of_handsOutFrom?_eq_none
    (keeps : cursor.handsOutFrom? operation = none) :
    (cursor.perform operation).2.characters = cursor.characters := by
  cases operation with
  | advance => exact cursor.characters_advance
  | peek => exact cursor.characters_peek
  | extract => cases keeps
  | advanceIf condition => exact cursor.characters_advanceIf condition
  | advanceWhile condition => exact cursor.characters_advanceWhile condition
  | readNumber => exact characters_readRun_of_behindRun?_eq_none keeps
  | readName => exact characters_readRun_of_behindRun?_eq_none keeps
  | readOperator =>
      have unrecognized := Option.map_eq_none_iff.mp keeps
      simp [perform, Token.readOperator, readSymbol, unrecognized]
  | discard => cases keeps

/-- An operation that hands out moves first, and hands out as its last step. If its answer
holds a text, this is what it hands out. -/
theorem perform_of_handsOutFrom?_eq_some
    (handsOut : cursor.handsOutFrom? operation = some moved) :
    cursor.MovesTo moved ∧ (cursor.perform operation).2 = moved.extract.2 ∧
      ∀ text ∈ (cursor.perform operation).1.text?, text = moved.extract.1 := by
  cases operation with
  | advance => cases handsOut
  | peek => cases handsOut
  | extract =>
      cases handsOut
      refine ⟨.here, rfl, ?_⟩
      intro text answered
      exact (Option.some.inj answered).symm
  | advanceIf => cases handsOut
  | advanceWhile => cases handsOut
  | readNumber => exact readRun_of_behindRun?_eq_some handsOut
  | readName => exact readRun_of_behindRun?_eq_some handsOut
  | readOperator =>
      obtain ⟨symbol, recognized, rfl⟩ := Option.map_eq_some_iff.mp handsOut
      simp only [perform, Token.readOperator, readSymbol, recognized]
      exact ⟨.advance, rfl, fun text answered => absurd answered (Option.not_mem_none text)⟩
  | discard =>
      cases handsOut
      exact ⟨.advance, rfl, fun text answered => absurd answered (Option.not_mem_none text)⟩

/-- What an operation takes out, followed by the characters that it leaves, is what the
cursor had. -/
theorem takenOut_append_characters_perform (cursor : Cursor) (operation : Operation) :
    cursor.takenOut operation ++ (cursor.perform operation).2.characters =
      cursor.characters := by
  unfold takenOut
  cases handsOut : cursor.handsOutFrom? operation with
  | none => exact characters_perform_of_handsOutFrom?_eq_none handsOut
  | some moved =>
      obtain ⟨moves, hands, -⟩ := perform_of_handsOutFrom?_eq_some handsOut
      rw [hands, ← moves.characters_eq]
      exact moved.passed_append_characters_rest

/-! ## Cursors that are reached in a text -/

/-- A cursor is reached in a text by operations that have taken out some characters. -/
inductive Reached (text : String) : List Char -> Cursor -> Prop
  | start : Reached text [] (ofText text)
  | step {taken : List Char} {cursor : Cursor}
      (reached : Reached text taken cursor)
      (operation : Operation) :
      Reached text (taken ++ cursor.takenOut operation) (cursor.perform operation).2

namespace Reached

variable {text : String} {taken : List Char}

/-- Every cursor that is reached represents a plain one. -/
theorem exists_represents (reached : Reached text taken cursor) :
    ∃ plain, cursor.Represents plain := by
  induction reached with
  | start => exact ⟨_, represents_ofText text⟩
  | step reached operation inductionHypothesis =>
      obtain ⟨plain, represents⟩ := inductionHypothesis
      exact ⟨_, (represents.perform operation).2⟩

/-- What has been taken out and what is left are the text. -/
theorem taken_append_characters (reached : Reached text taken cursor) :
    taken ++ cursor.characters = text.toList := by
  induction reached with
  | start => exact characters_ofText text
  | step reached operation inductionHypothesis =>
      rw [List.append_assoc, takenOut_append_characters_perform, inductionHypothesis]

end Reached

/-- What holds of a cursor in a text of which some characters have been taken out. -/
structure KeepsText (text : String) (taken : List Char) (cursor : Cursor) : Prop where
  /-- The position is in the buffer, one before it, or one past it at the end of the text. -/
  bounded : cursor.IsBounded
  /-- At most one character has been read beyond those moved over. -/
  size_le_extent_add_one : cursor.buffer.size ≤ cursor.extent + 1
  /-- What is counted from the position is not negative: the characters that are missing to
  move on, -/
  missing_eq : ((cursor.position + 1 - cursor.buffer.size + 1).toNat : Int) =
    cursor.position + 1 - cursor.buffer.size + 1
  /-- and those to be handed out. -/
  extent_eq : (cursor.extent : Int) = min (cursor.position + 1) cursor.buffer.size
  /-- Nor is the position where it tells the current character. -/
  isSome_current?_iff : cursor.current?.isSome = true ↔ cursor.OnCharacter
  /-- Nothing is lost, repeated or brought into another order. -/
  conserved : taken ++ cursor.buffer.toList ++ cursor.source = text.toList
  /-- An operation that hands out moves to a cursor that is bounded too, hands out what this
  has moved over and answers no other text. At most one character is left in the buffer. -/
  handsOut : ∀ operation moved, cursor.handsOutFrom? operation = some moved ->
    cursor.MovesTo moved ∧ moved.IsBounded ∧ (cursor.perform operation).2 = moved.extract.2 ∧
      (∀ handedOut ∈ (cursor.perform operation).1.text?, handedOut = moved.extract.1) ∧
      (cursor.perform operation).2.buffer.size ≤ 1

/-- Every cursor that is reached in a text keeps it, after any operations. -/
theorem Reached.keepsText
    {text : String}
    {taken : List Char}
    (reached : Reached text taken cursor) :
    cursor.KeepsText text taken := by
  obtain ⟨plain, represents⟩ := reached.exists_represents
  have bounded := represents.isBounded
  exact
    { bounded
      size_le_extent_add_one := bounded.size_le_extent_add_one
      missing_eq := bounded.missing_eq
      extent_eq := bounded.extent_eq
      isSome_current?_iff := cursor.isSome_current?_iff
      conserved := by
        rw [List.append_assoc]
        exact reached.taken_append_characters
      handsOut := by
        intro operation moved found
        obtain ⟨moves, hands, answers⟩ := perform_of_handsOutFrom?_eq_some found
        obtain ⟨next, representsMoved⟩ := moves.exists_represents represents
        have boundedMoved := representsMoved.isBounded
        refine ⟨moves, boundedMoved, hands, answers, ?_⟩
        rw [hands]
        exact boundedMoved.size_rest_le_one }

/-- The sign behind a digit that is handed out has been looked at and stays in the buffer. -/
theorem Reached.keepsText_signLookedAt :
    Reached "1+" ['1'] ⟨[], #['+'], -1⟩ ∧ KeepsText "1+" ['1'] ⟨[], #['+'], -1⟩ := by
  have reached : Reached "1+" ['1'] ⟨[], #['+'], -1⟩ :=
    .step (.step (.step .start .advance) .peek) .extract
  exact ⟨reached, reached.keepsText⟩
end Cursor
end Text
end PostfixCalculator
