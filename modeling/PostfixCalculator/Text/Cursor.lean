/-!
# A cursor with look-ahead

A cursor moves over a text from left to right. Characters come from the source
only when they are needed and wait in a buffer, so that the cursor can look at
the next character without moving past it. What has been moved over is handed
out in one piece and leaves the buffer.

`position` is the index of the last character moved over, and -1 if there is
none. It may also be one past the end of the buffer, after an attempt to move
on when the text had ended.

Two facts make loops over a cursor end: `ahead_advanceIf_lt` says that moving on
leaves fewer characters ahead, and `held_readRun_lt`, `held_readSymbol_lt` and
`held_discard_lt` say that each operation that consumes text leaves fewer
characters held.
-/

namespace PostfixCalculator
namespace Text

/-- A place in a text of which the first characters have been handed out. -/
structure Cursor where
  /-- The characters not read so far. -/
  source : List Char
  /-- The characters read and not handed out. -/
  buffer : Array Char
  /-- The index of the last character moved over, -1 for none. -/
  position : Int
  deriving DecidableEq, Repr

namespace Cursor

/-- The cursor before the first character of a text. -/
def ofText (text : String) : Cursor :=
  ⟨text.toList, #[], -1⟩

/-- The character moved over last, if it is still there. -/
def current? (cursor : Cursor) : Option Char :=
  if cursor.position < 0 then
    none
  else
    cursor.buffer[cursor.position.toNat]?

/-- Read what is missing in the buffer, then move to a position, but never
beyond the end of the buffer. -/
def moveTo (cursor : Cursor) (position : Int) : Cursor :=
  let lacking := (position - cursor.buffer.size + 1).toNat
  let source := cursor.source
  let buffer := cursor.buffer ++ source.take lacking
  ⟨source.drop lacking, buffer, min position buffer.size⟩

/-- Go back to an earlier position; what has been read stays in the buffer. -/
def returnTo (cursor : Cursor) (position : Int) : Cursor :=
  ⟨cursor.source, cursor.buffer, position⟩

/-- Move over the next character and return it; at the end of the text the
cursor stops one past the buffer. -/
def advance (cursor : Cursor) : Option Char × Cursor :=
  let moved := cursor.moveTo (cursor.position + 1)
  (moved.current?, moved)

/-- The next character, without moving over it. -/
def peek (cursor : Cursor) : Option Char × Cursor :=
  let position := cursor.position
  let (next, moved) := cursor.advance
  (next, moved.returnTo position)

/-- Move over the next character if it satisfies a condition. -/
def advanceIf (cursor : Cursor) (condition : Char -> Bool) : Option Char × Cursor :=
  let position := cursor.position
  let (next, moved) := cursor.advance
  if next.any condition then
    (next, moved)
  else
    (none, moved.returnTo position)

/-- The number of characters at the start of the buffer that have been moved
over. -/
def extent (cursor : Cursor) : Nat :=
  (min (cursor.position + 1) cursor.buffer.size).toNat

/-- The characters moved over. -/
def passed (cursor : Cursor) : String :=
  String.ofList (cursor.buffer.toList.take cursor.extent)

/-- The cursor without the characters moved over, before the next one. -/
def rest (cursor : Cursor) : Cursor :=
  ⟨cursor.source, cursor.buffer.extract cursor.extent, -1⟩

/-- Hand out the characters moved over. -/
def extract (cursor : Cursor) : String × Cursor :=
  (cursor.passed, cursor.rest)

/-- The number of characters, read or unread, that have not been handed out. -/
def held (cursor : Cursor) : Nat :=
  cursor.buffer.size + cursor.source.length

/-- A bound on the number of characters that can still be moved over. -/
def ahead (cursor : Cursor) : Nat :=
  cursor.held - (cursor.position + 1).toNat

/-- The cursor is on a character of the buffer. -/
def OnCharacter (cursor : Cursor) : Prop :=
  0 ≤ cursor.position ∧ cursor.position < cursor.buffer.size

private theorem size_append_list
    (buffer : Array Char)
    (added : List Char) :
    (buffer ++ added).size = buffer.size + added.length := by
  simp [← Array.length_toList]

@[simp] theorem held_moveTo (cursor : Cursor) (position : Int) :
    (cursor.moveTo position).held = cursor.held := by
  simp only [moveTo, held, size_append_list, List.length_take, List.length_drop]
  omega

@[simp] theorem held_returnTo (cursor : Cursor) (position : Int) :
    (cursor.returnTo position).held = cursor.held := rfl

@[simp] theorem held_advance (cursor : Cursor) :
    cursor.advance.2.held = cursor.held :=
  held_moveTo cursor _

@[simp] theorem held_peek (cursor : Cursor) :
    cursor.peek.2.held = cursor.held :=
  held_moveTo cursor _

/-- Moving to a position never shortens the buffer. -/
theorem size_le_size_moveTo (cursor : Cursor) (position : Int) :
    cursor.buffer.size ≤ (cursor.moveTo position).buffer.size := by
  simp only [moveTo, size_append_list]
  omega

/-- A cursor with a current character is on it. -/
theorem onCharacter_of_current?
    {cursor : Cursor}
    {character : Char}
    (present : cursor.current? = some character) :
    cursor.OnCharacter := by
  unfold current? at present
  split at present
  · contradiction
  · next nonnegative =>
    obtain ⟨bound, -⟩ := Array.getElem?_eq_some_iff.mp present
    constructor <;> omega

/-- After moving over a character the cursor is on it. -/
theorem onCharacter_advance
    {cursor : Cursor}
    {character : Char}
    (moved : cursor.advance.1 = some character) :
    cursor.advance.2.OnCharacter :=
  @onCharacter_of_current? cursor.advance.2 character moved

/-- Moving over a character leaves fewer characters ahead. -/
theorem ahead_advance_lt
    {cursor : Cursor}
    {character : Char}
    (moved : cursor.advance.1 = some character) :
    cursor.advance.2.ahead < cursor.ahead := by
  obtain ⟨nonnegative, within⟩ := onCharacter_advance moved
  have sameHeld := held_advance cursor
  have bound : cursor.advance.2.buffer.size ≤ cursor.advance.2.held :=
    Nat.le_add_right _ _
  have oneFurther : cursor.advance.2.position = cursor.position + 1 := by
    simp only [advance, moveTo] at within ⊢
    omega
  unfold ahead
  omega

/-- If a character was moved over under a condition, this was an ordinary
move. -/
theorem advanceIf_of_some
    {cursor : Cursor}
    {condition : Char -> Bool}
    {character : Char}
    (moved : (cursor.advanceIf condition).1 = some character) :
    cursor.advanceIf condition = cursor.advance := by
  simp only [advanceIf] at moved ⊢
  split at moved
  · next satisfied => rw [if_pos satisfied]
  · contradiction

/-- If no character was moved over under a condition, the cursor only looked
ahead. -/
theorem advanceIf_of_none
    {cursor : Cursor}
    {condition : Char -> Bool}
    (stayed : (cursor.advanceIf condition).1 = none) :
    cursor.advanceIf condition = (none, cursor.peek.2) := by
  simp only [advanceIf] at stayed ⊢
  split at stayed
  · next satisfied =>
    rw [show cursor.advance.1 = none from stayed] at satisfied
    contradiction
  · next unsatisfied => rw [if_neg unsatisfied, peek]

/-- Moving over a character under a condition leaves fewer characters ahead. -/
theorem ahead_advanceIf_lt
    {cursor : Cursor}
    {condition : Char -> Bool}
    {character : Char}
    (moved : (cursor.advanceIf condition).1 = some character) :
    (cursor.advanceIf condition).2.ahead < cursor.ahead := by
  have ordinary := advanceIf_of_some moved
  rw [ordinary] at moved ⊢
  exact ahead_advance_lt moved

/-- Move over every leading character that satisfies a condition, and tell
whether there was one. -/
def advanceWhile (cursor : Cursor) (condition : Char -> Bool) : Bool × Cursor :=
  match _moved : cursor.advanceIf condition with
  | (some _, next) => (true, (next.advanceWhile condition).2)
  | (none, stopped) => (false, stopped)
termination_by cursor.ahead
decreasing_by
  have decrease := @ahead_advanceIf_lt cursor condition _ (congrArg Prod.fst _moved)
  rwa [_moved] at decrease

/-- Hand out the longest run of characters that satisfy a condition, together
with what was moved over before. Without such a character nothing is handed
out. -/
def readRun (cursor : Cursor) (condition : Char -> Bool) : Option String × Cursor :=
  match cursor.advanceWhile condition with
  | (true, moved) => (some moved.passed, moved.rest)
  | (false, stopped) => (none, stopped)

/-- Recognize the next character as a symbol. If it is one, it is dropped
together with what was moved over before. -/
def readSymbol {Symbol : Type}
    (cursor : Cursor)
    (recognize : Char -> Option Symbol) : Option Symbol × Cursor :=
  let position := cursor.position
  let (next, moved) := cursor.advance
  match next.bind recognize with
  | some symbol => (some symbol, moved.rest)
  | none => (none, moved.returnTo position)

/-- Drop the next character together with what was moved over before, and tell
whether there was a next character. -/
def discard (cursor : Cursor) : Bool × Cursor :=
  let (next, moved) := cursor.advance
  (next.isSome, moved.rest)

/-- Moving over a run hands out nothing. -/
@[simp] theorem held_advanceWhile (cursor : Cursor) (condition : Char -> Bool) :
    (cursor.advanceWhile condition).2.held = cursor.held := by
  fun_induction advanceWhile cursor condition with
  | case1 cursor character next step inductionHypothesis =>
      have ordinary := advanceIf_of_some (congrArg Prod.fst step)
      rw [step] at ordinary
      rw [inductionHypothesis, show next = cursor.advance.2 from congrArg Prod.snd ordinary,
        held_advance]
  | case2 cursor stopped step =>
      have looked := advanceIf_of_none (congrArg Prod.fst step)
      rw [step] at looked
      rw [show stopped = cursor.peek.2 from congrArg Prod.snd looked, held_peek]

/-- A cursor on a character is on a character after moving over a run. -/
theorem OnCharacter.advanceWhile
    {cursor : Cursor}
    (onCharacter : cursor.OnCharacter)
    (condition : Char -> Bool) :
    (cursor.advanceWhile condition).2.OnCharacter := by
  fun_induction Cursor.advanceWhile cursor condition with
  | case1 cursor character next step inductionHypothesis =>
      have ordinary := advanceIf_of_some (congrArg Prod.fst step)
      rw [step] at ordinary
      have moved : cursor.advance.1 = some character := (congrArg Prod.fst ordinary).symm
      rw [show next = cursor.advance.2 from congrArg Prod.snd ordinary] at inductionHypothesis ⊢
      exact inductionHypothesis (onCharacter_advance moved)
  | case2 cursor stopped step =>
      have looked := advanceIf_of_none (congrArg Prod.fst step)
      rw [step] at looked
      rw [show stopped = cursor.peek.2 from congrArg Prod.snd looked]
      exact ⟨onCharacter.1,
        Int.lt_of_lt_of_le onCharacter.2 (Int.ofNat_le.mpr (size_le_size_moveTo cursor _))⟩

/-- After moving over a run that is not empty, the cursor is on a character. -/
theorem onCharacter_advanceWhile
    {cursor : Cursor}
    {condition : Char -> Bool}
    (moved : (cursor.advanceWhile condition).1 = true) :
    (cursor.advanceWhile condition).2.OnCharacter := by
  rw [Cursor.advanceWhile.eq_def] at moved ⊢
  split at moved
  · next character next step =>
    have ordinary := advanceIf_of_some (congrArg Prod.fst step)
    rw [step] at ordinary
    have first : cursor.advance.1 = some character := (congrArg Prod.fst ordinary).symm
    have onCharacter : next.OnCharacter := by
      rw [show next = cursor.advance.2 from congrArg Prod.snd ordinary]
      exact onCharacter_advance first
    exact onCharacter.advanceWhile condition
  · contradiction

/-- Handing out from a cursor on a character leaves fewer characters held. -/
theorem OnCharacter.held_rest_lt
    {cursor : Cursor}
    (onCharacter : cursor.OnCharacter) :
    cursor.rest.held < cursor.held := by
  obtain ⟨nonnegative, within⟩ := onCharacter
  simp only [rest, held, extent, Array.size_extract]
  omega

/-- Moving over a character and handing out leaves fewer characters held. -/
theorem held_rest_advance_lt
    {cursor : Cursor}
    {character : Char}
    (moved : cursor.advance.1 = some character) :
    cursor.advance.2.rest.held < cursor.held := by
  have shorter := (onCharacter_advance moved).held_rest_lt
  rwa [held_advance] at shorter

/-- Handing out a run leaves fewer characters held. -/
theorem held_readRun_lt
    {cursor : Cursor}
    {condition : Char -> Bool}
    {text : String}
    (found : (cursor.readRun condition).1 = some text) :
    (cursor.readRun condition).2.held < cursor.held := by
  have sameHeld := held_advanceWhile cursor condition
  unfold readRun at found ⊢
  split at found
  · next moved step =>
    have onCharacter := onCharacter_advanceWhile (congrArg Prod.fst step)
    rw [step] at onCharacter sameHeld
    rw [← sameHeld]
    exact onCharacter.held_rest_lt
  · contradiction

/-- Looking for a run in vain hands out nothing. -/
theorem held_readRun_of_none
    {cursor : Cursor}
    {condition : Char -> Bool}
    (missing : (cursor.readRun condition).1 = none) :
    (cursor.readRun condition).2.held = cursor.held := by
  have sameHeld := held_advanceWhile cursor condition
  unfold readRun at missing ⊢
  split at missing
  · contradiction
  · next stopped step =>
    rw [step] at sameHeld
    exact sameHeld

/-- Recognizing a symbol leaves fewer characters held. -/
theorem held_readSymbol_lt
    {Symbol : Type}
    {cursor : Cursor}
    {recognize : Char -> Option Symbol}
    {symbol : Symbol}
    (found : (cursor.readSymbol recognize).1 = some symbol) :
    (cursor.readSymbol recognize).2.held < cursor.held := by
  simp only [readSymbol] at found ⊢
  split at found
  · next recognized =>
    obtain ⟨character, present, -⟩ := Option.bind_eq_some_iff.mp recognized
    exact held_rest_advance_lt present
  · contradiction

/-- Looking for a symbol in vain hands out nothing. -/
theorem held_readSymbol_of_none
    {Symbol : Type}
    {cursor : Cursor}
    {recognize : Char -> Option Symbol}
    (missing : (cursor.readSymbol recognize).1 = none) :
    (cursor.readSymbol recognize).2.held = cursor.held := by
  simp only [readSymbol] at missing ⊢
  split at missing
  · contradiction
  · rw [held_returnTo, held_advance]

/-- Dropping a character leaves fewer characters held. -/
theorem held_discard_lt
    {cursor : Cursor}
    (dropped : cursor.discard.1 = true) :
    cursor.discard.2.held < cursor.held := by
  obtain ⟨character, moved⟩ := Option.isSome_iff_exists.mp dropped
  exact held_rest_advance_lt moved

end Cursor

end Text
end PostfixCalculator
