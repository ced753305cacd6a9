import PostfixCalculator.Proofs.Cut
import PostfixCalculator.Text.Cursor

/-!
# A cursor without a buffer

A plain cursor splits what has not been handed out into the characters moved
over and the rest, and remembers whether there was an attempt to move on at the
end of the text. Looking ahead does not change it.

A cursor represents a plain one when its buffer and its source together hold the
same characters, its position is where the split is, and the buffer reaches at
most one character beyond the split. Each operation of a cursor gives the answer
of the same operation of the plain cursor that it represents, and ends on a
cursor that represents the plain one again.
-/

namespace PostfixCalculator
namespace Text

/-- A place in a text of which the first characters have been handed out. -/
structure PlainCursor where
  /-- The characters moved over and not handed out. -/
  accepted : List Char
  /-- The characters not moved over. -/
  rest : List Char
  /-- Whether there was an attempt to move on at the end of the text. -/
  pastEnd : Bool
  deriving DecidableEq, Repr

namespace PlainCursor

/-- Nothing has been moved over since the last characters were handed out. -/
def before (rest : List Char) : PlainCursor :=
  ⟨[], rest, false⟩

/-- The character moved over last, if it is still there. -/
def current? (plain : PlainCursor) : Option Char :=
  if plain.pastEnd then none else plain.accepted.getLast?

/-- Move over the next character; at the end of the text this is remembered. -/
def advance (plain : PlainCursor) : Option Char × PlainCursor :=
  match plain.rest with
  | [] => (none, ⟨plain.accepted, [], true⟩)
  | next :: rest => (some next, ⟨plain.accepted ++ [next], rest, false⟩)

/-- The character moved over is the first of the rest. -/
@[simp] theorem fst_advance (plain : PlainCursor) :
    plain.advance.1 = plain.rest.head? := by
  unfold advance
  split
  · next ended => rw [ended, List.head?_nil]
  · next follows => rw [follows, List.head?_cons]

/-- Moving on leaves the rest without its first character. -/
@[simp] theorem rest_advance (plain : PlainCursor) :
    plain.advance.2.rest = plain.rest.tail := by
  unfold advance
  split
  · next ended => rw [ended, List.tail_nil]
  · next follows => rw [follows, List.tail_cons]

/-- The character moved over is the current one afterwards. -/
@[simp] theorem current?_advance (plain : PlainCursor) :
    plain.advance.2.current? = plain.advance.1 := by
  unfold advance
  split
  · rfl
  · exact List.getLast?_concat

/-- The next character, without moving over it. -/
def peek (plain : PlainCursor) : Option Char × PlainCursor :=
  (plain.rest.head?, plain)

/-- Hand out the characters moved over. -/
def extract (plain : PlainCursor) : String × PlainCursor :=
  (String.ofList plain.accepted, before plain.rest)

/-- Move over the next character if it satisfies a condition. -/
def advanceIf (plain : PlainCursor) (condition : Char -> Bool) : Option Char × PlainCursor :=
  if plain.rest.head?.any condition then plain.advance else (none, plain)

/-- Move over the longest run of characters that satisfy a condition. -/
def advanceWhile (plain : PlainCursor) (condition : Char -> Bool) : Bool × PlainCursor :=
  if plain.rest.head?.any condition then
    (true, ⟨plain.accepted ++ plain.rest.takeWhile condition,
      plain.rest.dropWhile condition, false⟩)
  else
    (false, plain)

/-- If a character was moved over under a condition, it starts the run of these
characters. -/
theorem advanceWhile_of_some
    {plain : PlainCursor}
    {condition : Char -> Bool}
    {character : Char}
    (moved : (plain.advanceIf condition).1 = some character) :
    plain.advanceWhile condition =
      (true, ((plain.advanceIf condition).2.advanceWhile condition).2) := by
  obtain ⟨accepted, rest, pastEnd⟩ := plain
  cases rest with
  | nil => contradiction
  | cons next rest =>
    by_cases holds : condition next
    · have ordinary : (mk accepted (next :: rest) pastEnd).advanceIf condition =
          (some next, ⟨accepted ++ [next], rest, false⟩) := if_pos holds
      rw [ordinary]
      cases follows : rest.head?.any condition with
      | true => simp [advanceWhile, holds, follows]
      | false =>
        obtain ⟨empty, all⟩ :=
          Cut.takeWhile_dropWhile_of_stops ((Option.any_eq_false _ _).mp follows)
        simp [advanceWhile, holds, follows, empty, all]
    · simp [advanceIf, holds] at moved

/-- If no character was moved over under a condition, the run of these
characters is empty. -/
theorem advanceWhile_of_none
    {plain : PlainCursor}
    {condition : Char -> Bool}
    (stayed : (plain.advanceIf condition).1 = none) :
    plain.advanceIf condition = (none, plain) ∧
      plain.advanceWhile condition = (false, plain) := by
  unfold advanceIf advanceWhile at *
  split at stayed
  · next satisfied =>
    rw [fst_advance] at stayed
    rw [stayed] at satisfied
    contradiction
  · next unsatisfied =>
    rw [if_neg unsatisfied, if_neg unsatisfied]
    exact ⟨rfl, rfl⟩

/-- Hand out the longest run of characters that satisfy a condition, together
with what was moved over before, unless the run is empty. -/
def readRun (plain : PlainCursor) (condition : Char -> Bool) : Option String × PlainCursor :=
  if plain.rest.head?.any condition then
    (some (String.ofList (plain.accepted ++ plain.rest.takeWhile condition)),
      before (plain.rest.dropWhile condition))
  else
    (none, plain)

/-- No run is handed out where none starts. -/
theorem readRun_of_none
    {plain : PlainCursor}
    {condition : Char -> Bool}
    (stops : ∀ first ∈ plain.rest.head?, condition first = false) :
    plain.readRun condition = (none, plain) := by
  have noRun : plain.rest.head?.any condition = false := (Option.any_eq_false _ _).mpr stops
  exact if_neg (Bool.eq_false_iff.mp noRun)

/-- A run is handed out where one starts. -/
theorem readRun_before_cons
    {first : Char}
    {condition : Char -> Bool}
    (starts : condition first = true)
    (rest : List Char) :
    (before (first :: rest)).readRun condition =
      (some (String.ofList (first :: rest.takeWhile condition)),
        before (rest.dropWhile condition)) := by
  rw [readRun, if_pos (show (before (first :: rest)).rest.head?.any condition = true from starts)]
  simp only [before, List.nil_append, List.takeWhile_cons_of_pos starts,
    List.dropWhile_cons_of_pos starts]

/-- Recognize the next character as a symbol. If it is one, it is dropped
together with what was moved over before. -/
def readSymbol {Symbol : Type}
    (plain : PlainCursor)
    (recognize : Char -> Option Symbol) : Option Symbol × PlainCursor :=
  match plain.rest.head?.bind recognize with
  | some symbol => (some symbol, before plain.rest.tail)
  | none => (none, plain)

/-- Before a character, it alone decides about the symbol. -/
theorem readSymbol_before_cons {Symbol : Type}
    (first : Char)
    (rest : List Char)
    (recognize : Char -> Option Symbol) :
    (before (first :: rest)).readSymbol recognize =
      match recognize first with
      | some symbol => (some symbol, before rest)
      | none => (none, before (first :: rest)) := rfl

/-- Drop the next character together with what was moved over before. -/
def discard (plain : PlainCursor) : Bool × PlainCursor :=
  (plain.rest.head?.isSome, before plain.rest.tail)

end PlainCursor

namespace Cursor

/-- A cursor and a plain cursor are at the same place of the same text. -/
structure Represents (cursor : Cursor) (plain : PlainCursor) : Prop where
  /-- Both hold the same characters. -/
  characters : cursor.buffer.toList ++ cursor.source = plain.accepted ++ plain.rest
  /-- The position is that of the last character moved over, or one more. -/
  position : cursor.position + 1 = plain.accepted.length + plain.pastEnd.toNat
  /-- What has been moved over is in the buffer. -/
  accepted_le : plain.accepted.length ≤ cursor.buffer.size
  /-- At most one character more is in the buffer. -/
  size_le : cursor.buffer.size ≤ plain.accepted.length + 1
  /-- Only at the end of the text was there an attempt to move beyond it. -/
  rest_eq_nil : plain.pastEnd = true -> plain.rest = []

/-- A step of a cursor gives the same answer as a step of a plain cursor, and
they end at the same place. -/
def Agrees {Answer : Type}
    (step : Answer × Cursor)
    (plainStep : Answer × PlainCursor) : Prop :=
  step.1 = plainStep.1 ∧ step.2.Represents plainStep.2

/-- A step that agrees with another gives its answer and goes on from its
place. -/
theorem Agrees.exists_eq
    {Answer : Type}
    {step : Answer × Cursor}
    {answer : Answer}
    {plain : PlainCursor}
    (agrees : Agrees step (answer, plain)) :
    ∃ next, step = (answer, next) ∧ next.Represents plain :=
  ⟨step.2, Prod.ext agrees.1 rfl, agrees.2⟩

/-- A new cursor is before the whole text. -/
theorem represents_ofText (text : String) :
    (ofText text).Represents (.before text.toList) where
  characters := rfl
  position := rfl
  accepted_le := Nat.zero_le _
  size_le := Nat.zero_le _
  rest_eq_nil := nofun

/-- Reading into the buffer moves characters from the source to its end. -/
theorem toList_append_source_moveTo (cursor : Cursor) (position : Int) :
    (cursor.moveTo position).buffer.toList ++ (cursor.moveTo position).source =
      cursor.buffer.toList ++ cursor.source := by
  simp [moveTo]

/-- Reading into the buffer makes it longer by what is lacking, as far as the
source goes. -/
theorem size_moveTo (cursor : Cursor) (position : Int) :
    (cursor.moveTo position).buffer.size =
      cursor.buffer.size +
        min (position - cursor.buffer.size + 1).toNat cursor.source.length := by
  simp [moveTo, ← Array.length_toList]

/-- Handing out leaves the buffer behind what is handed out. -/
theorem toList_buffer_rest (cursor : Cursor) :
    cursor.rest.buffer.toList = cursor.buffer.toList.drop cursor.extent := by
  rw [rest, Array.toList_extract, List.extract_eq_take_drop]
  exact List.take_of_length_le (by simp)

/-- The cursor stops at the end of the buffer at the latest. -/
theorem position_moveTo (cursor : Cursor) (position : Int) :
    (cursor.moveTo position).position = min position (cursor.moveTo position).buffer.size := rfl

variable {cursor : Cursor} {plain : PlainCursor}

namespace Represents

/-- The characters held by a cursor are those of the plain one. -/
theorem length_eq (represents : cursor.Represents plain) :
    cursor.buffer.size + cursor.source.length =
      plain.accepted.length + plain.rest.length := by
  have lengths := congrArg List.length represents.characters
  simpa using lengths

/-- When nothing is left, all that is held has been moved over. -/
theorem size_eq_of_rest_eq_nil
    (represents : cursor.Represents plain)
    (ended : plain.rest = []) :
    cursor.buffer.size = plain.accepted.length := by
  have lengths := represents.length_eq
  rw [ended, List.length_nil] at lengths
  have accepted_le := represents.accepted_le
  omega

/-- The buffer starts with the characters moved over. -/
theorem take_accepted (represents : cursor.Represents plain) :
    cursor.buffer.toList.take plain.accepted.length = plain.accepted := by
  have start := congrArg (List.take plain.accepted.length) represents.characters
  rwa [List.take_append_of_le_length represents.accepted_le, List.take_left] at start

/-- What follows the characters moved over is the rest. -/
theorem drop_accepted (represents : cursor.Represents plain) :
    cursor.buffer.toList.drop plain.accepted.length ++ cursor.source = plain.rest := by
  have remainder := congrArg (List.drop plain.accepted.length) represents.characters
  rwa [List.drop_append_of_le_length represents.accepted_le, List.drop_left] at remainder

/-- Within the text, the position is on the last character moved over. -/
theorem position_add_one_eq
    (represents : cursor.Represents plain)
    (within : plain.pastEnd = false) :
    cursor.position + 1 = plain.accepted.length := by
  have position := represents.position
  rwa [within, Bool.toNat_false, Int.natCast_zero, Int.add_zero] at position

/-- Beyond the text, the position is one past the buffer. -/
theorem position_eq_size
    (represents : cursor.Represents plain)
    (beyond : plain.pastEnd = true) :
    cursor.position = cursor.buffer.size := by
  have position := represents.position
  have size := represents.size_eq_of_rest_eq_nil (represents.rest_eq_nil beyond)
  rw [beyond, Bool.toNat_true] at position
  omega

/-- Both have the same current character. -/
theorem current?_eq (represents : cursor.Represents plain) :
    cursor.current? = plain.current? := by
  unfold Cursor.current? PlainCursor.current?
  cases pastEnd : plain.pastEnd with
  | true =>
      rw [represents.position_eq_size pastEnd, if_neg (by omega), if_pos rfl]
      exact Array.getElem?_size
  | false =>
      have position := represents.position_add_one_eq pastEnd
      rw [if_neg Bool.false_ne_true, List.getLast?_eq_getElem?]
      split
      · next negative =>
        have empty : plain.accepted = [] := List.eq_nil_of_length_eq_zero (by omega)
        rw [empty]
        rfl
      · next nonnegative =>
        have index : cursor.position.toNat = plain.accepted.length - 1 := by omega
        rw [index, ← Array.getElem?_toList,
          ← List.getElem?_take_of_lt (j := plain.accepted.length) (by omega),
          represents.take_accepted]

/-- When something is left, there was no attempt to move beyond the text. -/
theorem pastEnd_eq_false
    (represents : cursor.Represents plain)
    (follows : plain.rest ≠ []) :
    plain.pastEnd = false := by
  cases pastEnd : plain.pastEnd with
  | false => rfl
  | true => exact absurd (represents.rest_eq_nil pastEnd) follows

/-- When nothing is left, moving on ends past the text. -/
theorem advance_of_nil
    (represents : cursor.Represents plain)
    (ended : plain.rest = []) :
    cursor.advance.2.Represents ⟨plain.accepted, [], true⟩ := by
  have characters := cursor.toList_append_source_moveTo (cursor.position + 1)
  have size := cursor.size_moveTo (cursor.position + 1)
  have stop := cursor.position_moveTo (cursor.position + 1)
  have position := represents.position
  have held := represents.size_eq_of_rest_eq_nil ended
  have unread : cursor.source.length = 0 := by
    have lengths := represents.length_eq
    rw [ended, List.length_nil] at lengths
    omega
  have same : (cursor.moveTo (cursor.position + 1)).buffer.size = plain.accepted.length := by
    omega
  have stopped : (cursor.moveTo (cursor.position + 1)).position = plain.accepted.length := by
    omega
  exact
    { characters := by rw [advance, characters, represents.characters, ended]
      position := by rw [advance, stopped]; rfl
      accepted_le := Nat.le_of_eq same.symm
      size_le := by rw [advance, same]; exact Nat.le_succ _
      rest_eq_nil := fun _ => rfl }

/-- Moving on ends beyond the next character. -/
theorem advance_of_cons
    (represents : cursor.Represents plain)
    {next : Char}
    {rest : List Char}
    (follows : plain.rest = next :: rest) :
    cursor.advance.2.Represents ⟨plain.accepted ++ [next], rest, false⟩ := by
  have characters := cursor.toList_append_source_moveTo (cursor.position + 1)
  have size := cursor.size_moveTo (cursor.position + 1)
  have stop := cursor.position_moveTo (cursor.position + 1)
  have position := represents.position_add_one_eq
    (represents.pastEnd_eq_false (by rw [follows]; exact List.cons_ne_nil _ _))
  have lengths := represents.length_eq
  rw [follows, List.length_cons] at lengths
  have accepted_le := represents.accepted_le
  have size_le := represents.size_le
  have grown : (cursor.moveTo (cursor.position + 1)).buffer.size =
      plain.accepted.length + 1 := by
    omega
  have moved : (cursor.moveTo (cursor.position + 1)).position = plain.accepted.length := by
    omega
  have length_eq : (plain.accepted ++ [next]).length = plain.accepted.length + 1 :=
    List.length_append
  exact
    { characters := by rw [advance, characters, represents.characters, follows, List.append_cons]
      position := by rw [advance, moved, length_eq]; rfl
      accepted_le := by rw [advance, grown]; exact Nat.le_of_eq length_eq
      size_le := by rw [advance, grown, length_eq]; exact Nat.le_succ _
      rest_eq_nil := nofun }

/-- Moving on agrees. -/
theorem advance (represents : cursor.Represents plain) :
    Agrees cursor.advance plain.advance := by
  have moved : cursor.advance.2.Represents plain.advance.2 := by
    rw [PlainCursor.advance]
    split
    · next ended => exact represents.advance_of_nil ended
    · next follows => exact represents.advance_of_cons follows
  refine ⟨?_, moved⟩
  rw [show cursor.advance.1 = cursor.advance.2.current? from rfl, moved.current?_eq,
    PlainCursor.current?_advance]

/-- The character moved over is the first of the rest. -/
theorem fst_advance (represents : cursor.Represents plain) :
    cursor.advance.1 = plain.rest.head? :=
  represents.advance.1.trans plain.fst_advance

/-- After looking ahead, the cursor is at the same place again. -/
theorem returnTo_advance (represents : cursor.Represents plain) :
    (cursor.advance.2.returnTo cursor.position).Represents plain where
  characters :=
    (cursor.toList_append_source_moveTo (cursor.position + 1)).trans represents.characters
  position := represents.position
  accepted_le := Nat.le_trans represents.accepted_le (cursor.size_le_size_moveTo _)
  size_le := by
    have size := cursor.size_moveTo (cursor.position + 1)
    have accepted_le := represents.accepted_le
    have size_le := represents.size_le
    have position := represents.position
    have unread := represents.length_eq
    have ended := represents.rest_eq_nil
    change (cursor.moveTo (cursor.position + 1)).buffer.size ≤ _
    cases pastEnd : plain.pastEnd with
    | false =>
      rw [pastEnd, Bool.toNat_false] at position
      omega
    | true =>
      rw [ended pastEnd, List.length_nil] at unread
      omega
  rest_eq_nil := represents.rest_eq_nil

/-- Looking ahead agrees. -/
theorem peek (represents : cursor.Represents plain) :
    Agrees cursor.peek plain.peek :=
  ⟨represents.fst_advance, represents.returnTo_advance⟩

/-- Moving on under a condition agrees. -/
theorem advanceIf
    (represents : cursor.Represents plain)
    (condition : Char -> Bool) :
    Agrees (cursor.advanceIf condition) (plain.advanceIf condition) := by
  simp only [Cursor.advanceIf, PlainCursor.advanceIf, represents.fst_advance]
  split
  · exact ⟨plain.fst_advance.symm, represents.advance.2⟩
  · exact ⟨rfl, represents.returnTo_advance⟩

/-- Moving over a run agrees. -/
theorem advanceWhile
    (represents : cursor.Represents plain)
    (condition : Char -> Bool) :
    Agrees (cursor.advanceWhile condition) (plain.advanceWhile condition) := by
  fun_induction Cursor.advanceWhile cursor condition generalizing plain with
  | case1 cursor character next step inductionHypothesis =>
      obtain ⟨moved, following⟩ := represents.advanceIf condition
      rw [step] at moved following
      rw [PlainCursor.advanceWhile_of_some moved.symm]
      exact ⟨rfl, (inductionHypothesis following).2⟩
  | case2 cursor stopped step =>
      obtain ⟨stayed, following⟩ := represents.advanceIf condition
      rw [step] at stayed following
      obtain ⟨same, empty⟩ := PlainCursor.advanceWhile_of_none stayed.symm
      rw [same] at following
      rw [empty]
      exact ⟨rfl, following⟩

/-- As much of the buffer has been moved over as of the plain cursor. -/
theorem extent_eq (represents : cursor.Represents plain) :
    cursor.extent = plain.accepted.length := by
  have position := represents.position
  have accepted_le := represents.accepted_le
  unfold extent
  cases pastEnd : plain.pastEnd with
  | false =>
      rw [represents.position_add_one_eq pastEnd]
      omega
  | true =>
      have size := represents.size_eq_of_rest_eq_nil (represents.rest_eq_nil pastEnd)
      rw [represents.position_eq_size pastEnd]
      omega

/-- What has been moved over. -/
theorem passed_eq (represents : cursor.Represents plain) :
    cursor.passed = String.ofList plain.accepted := by
  rw [passed, represents.extent_eq, represents.take_accepted]

/-- Handing out leaves the rest. -/
theorem rest (represents : cursor.Represents plain) :
    cursor.rest.Represents (.before plain.rest) where
  characters := by
    rw [toList_buffer_rest, represents.extent_eq]
    exact represents.drop_accepted
  position := rfl
  accepted_le := Nat.zero_le _
  size_le := by
    have size_le := represents.size_le
    simp only [Cursor.rest, represents.extent_eq, Array.size_extract, PlainCursor.before,
      List.length_nil]
    omega
  rest_eq_nil := nofun

/-- Handing out agrees. -/
theorem extract (represents : cursor.Represents plain) :
    Agrees cursor.extract plain.extract :=
  ⟨represents.passed_eq, represents.rest⟩

/-- Moving on and handing out drops the first character of the rest. -/
theorem rest_advance (represents : cursor.Represents plain) :
    cursor.advance.2.rest.Represents (.before plain.rest.tail) := by
  have handedOut := represents.advance.2.rest
  rwa [plain.rest_advance] at handedOut

/-- Handing out a run agrees. -/
theorem readRun
    (represents : cursor.Represents plain)
    (condition : Char -> Bool) :
    Agrees (cursor.readRun condition) (plain.readRun condition) := by
  obtain ⟨found, moved⟩ := represents.advanceWhile condition
  cases step : cursor.advanceWhile condition with | mk flag stopped =>
  rw [step] at found moved
  unfold Cursor.readRun PlainCursor.readRun
  unfold PlainCursor.advanceWhile at found moved
  split at found
  · next starts =>
    rw [if_pos starts] at moved ⊢
    rw [step, show flag = true from found]
    exact ⟨congrArg some moved.passed_eq, moved.rest⟩
  · next empty =>
    rw [if_neg empty] at moved ⊢
    rw [step, show flag = false from found]
    exact ⟨rfl, moved⟩

/-- Recognizing a symbol agrees. -/
theorem readSymbol
    {Symbol : Type}
    (represents : cursor.Represents plain)
    (recognize : Char -> Option Symbol) :
    Agrees (cursor.readSymbol recognize) (plain.readSymbol recognize) := by
  simp only [Cursor.readSymbol, PlainCursor.readSymbol, represents.fst_advance]
  cases plain.rest.head?.bind recognize with
  | some symbol => exact ⟨rfl, represents.rest_advance⟩
  | none => exact ⟨rfl, represents.returnTo_advance⟩

/-- Dropping a character agrees. -/
theorem discard (represents : cursor.Represents plain) :
    Agrees cursor.discard plain.discard :=
  ⟨congrArg Option.isSome represents.fst_advance, represents.rest_advance⟩

end Represents

end Cursor
end Text
end PostfixCalculator
