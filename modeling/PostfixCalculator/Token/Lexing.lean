import PostfixCalculator.Text.Cursor
import PostfixCalculator.Token

/-!
# From text to tokens

A token is the longest run of digits, the longest run of small letters, or one
operator symbol, whichever is found first in this order. Digits and letters are
those of ASCII. A character that starts none of these is skipped, so every text
has a list of tokens.
-/

namespace PostfixCalculator
namespace Token

open Text

/-- What lies at a cursor. -/
inductive Piece
  | token (token : Token)
  | skipped
  | finished
  deriving DecidableEq, Repr

/-- Read the digits at a cursor. -/
def readNumber (cursor : Cursor) : Option String × Cursor :=
  cursor.readRun Char.isDigit

/-- Read the small letters at a cursor. -/
def readName (cursor : Cursor) : Option String × Cursor :=
  cursor.readRun Char.isLower

/-- Read the operator at a cursor. -/
def readOperator (cursor : Cursor) : Option Operator × Cursor :=
  cursor.readSymbol Operator.ofChar?

/-- Read the token at a cursor, or skip one character. -/
def readPiece (cursor : Cursor) : Piece × Cursor :=
  match readNumber cursor with
  | (some digits, rest) => (.token (.operand digits), rest)
  | (none, noDigits) =>
  match readName noDigits with
  | (some name, rest) => (.token (.operand name), rest)
  | (none, noName) =>
  match readOperator noName with
  | (some symbol, rest) => (.token (.operator symbol), rest)
  | (none, noSymbol) =>
  match noSymbol.discard with
  | (true, rest) => (.skipped, rest)
  | (false, rest) => (.finished, rest)

/-- Unless the text has ended, reading a piece leaves fewer characters held. -/
theorem held_readPiece_lt
    {cursor : Cursor}
    (unfinished : (readPiece cursor).1 ≠ .finished) :
    (readPiece cursor).2.held < cursor.held := by
  unfold readPiece readNumber readName readOperator at unfinished ⊢
  split
  · next digits rest step =>
    have shorter := Cursor.held_readRun_lt (congrArg Prod.fst step)
    rwa [step] at shorter
  next noDigits digitStep =>
  have same := Cursor.held_readRun_of_none (congrArg Prod.fst digitStep)
  rw [digitStep] at same
  rw [← same]
  simp only [digitStep] at unfinished
  split
  · next name rest step =>
    have shorter := Cursor.held_readRun_lt (congrArg Prod.fst step)
    rwa [step] at shorter
  next noName nameStep =>
  have same := Cursor.held_readRun_of_none (congrArg Prod.fst nameStep)
  rw [nameStep] at same
  rw [← same]
  simp only [nameStep] at unfinished
  split
  · next symbol rest step =>
    have shorter := Cursor.held_readSymbol_lt (congrArg Prod.fst step)
    rwa [step] at shorter
  next noSymbol symbolStep =>
  have same := Cursor.held_readSymbol_of_none (congrArg Prod.fst symbolStep)
  rw [symbolStep] at same
  rw [← same]
  simp only [symbolStep] at unfinished
  split
  · next rest step =>
    have shorter := Cursor.held_discard_lt (congrArg Prod.fst step)
    rwa [step] at shorter
  · next rest step =>
    simp only [step] at unfinished
    contradiction

/-- The tokens from a cursor on. -/
def readAll (cursor : Cursor) : List Token :=
  match _step : readPiece cursor with
  | (.token token, rest) => token :: readAll rest
  | (.skipped, rest) => readAll rest
  | (.finished, _) => []
termination_by cursor.held
decreasing_by
  all_goals
    have shorter := @held_readPiece_lt cursor (by rw [_step]; simp)
    rwa [_step] at shorter

/-- The tokens of a text. -/
def ofText (text : String) : List Token :=
  readAll (Cursor.ofText text)

end Token
end PostfixCalculator
