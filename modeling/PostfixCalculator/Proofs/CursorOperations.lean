import PostfixCalculator.Proofs.PlainCursor
import PostfixCalculator.Token.Lexing

/-!
# Operations on a cursor one after the other

Nine operations can be done with a cursor, and each gives an answer. A trace
lists, for a sequence of operations, the answer of each and the character that is
current after it. The traces of a cursor and of the plain cursor that it
represents are the same, so the buffer cannot be told from the answers: not by
looking ahead, not by handing out, and not at the end of the text.
-/

namespace PostfixCalculator
namespace Text

/-- What can be done with a cursor. -/
inductive Operation
  | advance
  | peek
  | extract
  | advanceIf (condition : Char -> Bool)
  | advanceWhile (condition : Char -> Bool)
  | readNumber
  | readName
  | readOperator
  | discard

/-- What an operation answers. -/
inductive Answer
  | character (found : Option Char)
  | text (handedOut : String)
  | run (handedOut : Option String)
  | operator (found : Option Operator)
  | success (moved : Bool)
  deriving DecidableEq, Repr

/-- Whether an answer tells that nothing suitable was there. -/
def Answer.isFailure : Answer -> Bool
  | .character found => found.isNone
  | .text _ => false
  | .run handedOut => handedOut.isNone
  | .operator found => found.isNone
  | .success moved => !moved

/-- Whether an operation moves on only if the next character is suitable. -/
def Operation.isTentative : Operation -> Bool
  | .advanceIf _ | .advanceWhile _ | .readNumber | .readName | .readOperator => true
  | .advance | .peek | .extract | .discard => false

/-- Do an operation with a cursor. -/
def Cursor.perform (cursor : Cursor) : Operation -> Answer × Cursor
  | .advance => cursor.advance.map Answer.character id
  | .peek => cursor.peek.map Answer.character id
  | .extract => cursor.extract.map Answer.text id
  | .advanceIf condition => (cursor.advanceIf condition).map Answer.character id
  | .advanceWhile condition => (cursor.advanceWhile condition).map Answer.success id
  | .readNumber => (Token.readNumber cursor).map Answer.run id
  | .readName => (Token.readName cursor).map Answer.run id
  | .readOperator => (Token.readOperator cursor).map Answer.operator id
  | .discard => cursor.discard.map Answer.success id

/-- Do an operation with a plain cursor. -/
def PlainCursor.perform (plain : PlainCursor) : Operation -> Answer × PlainCursor
  | .advance => plain.advance.map Answer.character id
  | .peek => plain.peek.map Answer.character id
  | .extract => plain.extract.map Answer.text id
  | .advanceIf condition => (plain.advanceIf condition).map Answer.character id
  | .advanceWhile condition => (plain.advanceWhile condition).map Answer.success id
  | .readNumber => (plain.readRun Char.isDigit).map Answer.run id
  | .readName => (plain.readRun Char.isLower).map Answer.run id
  | .readOperator => (plain.readSymbol Operator.ofChar?).map Answer.operator id
  | .discard => plain.discard.map Answer.success id

/-- The answers of a sequence of operations, each with the character that is
current after it. -/
def trace {State : Type}
    (perform : State -> Operation -> Answer × State)
    (current? : State -> Option Char)
    (state : State) : List Operation -> List (Answer × Option Char)
  | [] => []
  | operation :: rest =>
      let (answer, next) := perform state operation
      (answer, current? next) :: trace perform current? next rest

namespace Cursor

variable {cursor : Cursor} {plain : PlainCursor}

/-- Steps that agree still do when their answers are seen in the same way. -/
theorem Agrees.map {First Second : Type}
    {step : First × Cursor}
    {plainStep : First × PlainCursor}
    (agrees : Agrees step plainStep)
    (see : First -> Second) :
    Agrees (step.map see id) (plainStep.map see id) :=
  ⟨congrArg see agrees.1, agrees.2⟩

/-- Every operation agrees. -/
theorem Represents.perform
    (represents : cursor.Represents plain)
    (operation : Operation) :
    Agrees (cursor.perform operation) (plain.perform operation) := by
  cases operation with
  | advance => exact represents.advance.map Answer.character
  | peek => exact represents.peek.map Answer.character
  | extract => exact represents.extract.map Answer.text
  | advanceIf condition => exact (represents.advanceIf condition).map Answer.character
  | advanceWhile condition => exact (represents.advanceWhile condition).map Answer.success
  | readNumber => exact (represents.readRun Char.isDigit).map Answer.run
  | readName => exact (represents.readRun Char.isLower).map Answer.run
  | readOperator => exact (represents.readSymbol Operator.ofChar?).map Answer.operator
  | discard => exact represents.discard.map Answer.success

/-- A cursor and a plain cursor at the same place have the same traces. -/
theorem Represents.trace_eq
    (represents : cursor.Represents plain)
    (operations : List Operation) :
    trace Cursor.perform Cursor.current? cursor operations =
      trace PlainCursor.perform PlainCursor.current? plain operations := by
  induction operations generalizing cursor plain with
  | nil => rfl
  | cons operation rest inductionHypothesis =>
      obtain ⟨sameAnswer, following⟩ := represents.perform operation
      simp only [trace]
      rw [sameAnswer, following.current?_eq, inductionHypothesis following]

end Cursor

namespace PlainCursor

variable {plain : PlainCursor} {condition : Char -> Bool}

/-- Moving over no run leaves a plain cursor as it is. -/
theorem snd_advanceWhile_of_false (stayed : (plain.advanceWhile condition).1 = false) :
    (plain.advanceWhile condition).2 = plain := by
  unfold advanceWhile at stayed ⊢
  split at stayed
  · contradiction
  · next empty => rw [if_neg empty]

/-- Handing out no run leaves a plain cursor as it is. -/
theorem snd_readRun_of_none (missing : (plain.readRun condition).1 = none) :
    (plain.readRun condition).2 = plain := by
  unfold readRun at missing ⊢
  split at missing
  · contradiction
  · next empty => rw [if_neg empty]

/-- Recognizing no symbol leaves a plain cursor as it is. -/
theorem snd_readSymbol_of_none {Symbol : Type}
    {recognize : Char -> Option Symbol}
    (missing : (plain.readSymbol recognize).1 = none) :
    (plain.readSymbol recognize).2 = plain := by
  unfold readSymbol at missing ⊢
  split at missing
  · contradiction
  · next unrecognized => rfl

/-- A tentative operation that finds nothing suitable leaves a plain cursor as it
is. -/
theorem snd_perform_of_isFailure
    {operation : Operation}
    (tentative : operation.isTentative = true)
    (failed : (plain.perform operation).1.isFailure = true) :
    (plain.perform operation).2 = plain := by
  cases operation with
  | advance => contradiction
  | peek => contradiction
  | extract => contradiction
  | discard => contradiction
  | advanceIf condition =>
      have stayed := advanceWhile_of_none (Option.isNone_iff_eq_none.mp failed)
      exact congrArg Prod.snd stayed.1
  | advanceWhile condition =>
      exact snd_advanceWhile_of_false ((Bool.not_eq_true' _).mp failed)
  | readNumber => exact snd_readRun_of_none (Option.isNone_iff_eq_none.mp failed)
  | readName => exact snd_readRun_of_none (Option.isNone_iff_eq_none.mp failed)
  | readOperator => exact snd_readSymbol_of_none (Option.isNone_iff_eq_none.mp failed)

end PlainCursor

/-- Every sequence of operations on a text has the trace of the plain cursor. -/
theorem trace_ofText (text : String) (operations : List Operation) :
    trace Cursor.perform Cursor.current? (.ofText text) operations =
      trace PlainCursor.perform PlainCursor.current? (.before text.toList) operations ∧
    ∀ plain : PlainCursor,
      (plain.perform .peek).2 = plain ∧
      ∀ operation : Operation, operation.isTentative = true ->
        (plain.perform operation).1.isFailure = true -> (plain.perform operation).2 = plain := by
  refine ⟨(Cursor.represents_ofText text).trace_eq operations, fun plain => ⟨rfl, ?_⟩⟩
  intro operation tentative failed
  exact PlainCursor.snd_perform_of_isFailure tentative failed

end Text
end PostfixCalculator
