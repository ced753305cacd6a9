import PostfixCalculator.Proofs.PlainCursor
import PostfixCalculator.Token.Lexing

/-!
# Tokens in one pass

The tokens of a list of characters, without a cursor: a digit or a small letter
starts an operand that goes on as long as characters of its kind follow, an
operator symbol is an operator, and every other character is skipped. These are
the tokens of the text, because each piece that is read at a cursor is the one
that the next character decides.
-/

namespace PostfixCalculator

open Text

/-- The kinds of characters that operands are made of. -/
inductive RunKind
  | digits
  | letters
  deriving DecidableEq, Repr

namespace RunKind

/-- Whether a character is of a kind. -/
def contains : RunKind -> Char -> Bool
  | .digits => Char.isDigit
  | .letters => Char.isLower

/-- The kind of a character, if it can be part of an operand. -/
def ofChar? (character : Char) : Option RunKind :=
  if character.isDigit then
    some .digits
  else if character.isLower then
    some .letters
  else
    none

/-- A small letter is no digit. -/
theorem isDigit_eq_false_of_isLower
    {character : Char}
    (lower : character.isLower = true) :
    character.isDigit = false := by
  obtain ⟨fromLetter, -⟩ := Bool.and_eq_true_iff.mp lower
  have least : 'a'.toNat ≤ character.toNat :=
    UInt32.le_iff_toNat_le.mp (of_decide_eq_true fromLetter)
  rw [Bool.eq_false_iff]
  intro digit
  have greatest := (Char.isDigit_iff_toNat.mp digit).2
  exact absurd (Nat.le_trans least greatest) (by decide)

/-- The kind of a character is the one that contains it. -/
theorem ofChar?_eq_some_iff
    {character : Char}
    {kind : RunKind} :
    ofChar? character = some kind ↔ kind.contains character = true := by
  unfold ofChar?
  cases kind with
  | digits =>
      rw [contains]
      split
      · next digit => simp [digit]
      · next noDigit => split <;> simp [noDigit]
  | letters =>
      rw [contains]
      split
      · next digit =>
        cases lower : character.isLower with
        | false => simp
        | true => simp [isDigit_eq_false_of_isLower lower] at digit
      · next noDigit =>
        split
        · next lower => simp [lower]
        · next noLower => simp [noLower]

/-- No character is of two kinds. -/
theorem eq_of_contains
    {kind other : RunKind}
    {character : Char}
    (contained : kind.contains character = true)
    (otherContained : other.contains character = true) :
    kind = other := by
  rw [← ofChar?_eq_some_iff] at contained otherContained
  exact Option.some.inj (contained.symm.trans otherContained)

/-- What cannot be part of an operand is in no kind. -/
theorem contains_eq_false
    {character : Char}
    (noRun : ofChar? character = none)
    (kind : RunKind) :
    kind.contains character = false := by
  rw [Bool.eq_false_iff]
  intro contained
  rw [ofChar?_eq_some_iff.mpr contained] at noRun
  contradiction

/-- An operator symbol is not part of an operand. -/
@[simp] theorem ofChar?_symbol (operator : Operator) :
    ofChar? operator.symbol = none := by
  cases operator with
  | opening => rfl
  | closing => rfl
  | binary operator => cases operator <;> rfl

/-- No operator symbol is of a kind. -/
theorem contains_symbol (kind : RunKind) (operator : Operator) :
    kind.contains operator.symbol = false :=
  contains_eq_false (ofChar?_symbol operator) kind

end RunKind

namespace Token

/-- The tokens of a list of characters. -/
def ofCharacters : List Char -> List Token
  | [] => []
  | first :: rest =>
      match RunKind.ofChar? first with
      | some kind =>
          .operand (String.ofList (first :: rest.takeWhile kind.contains)) ::
            ofCharacters (rest.dropWhile kind.contains)
      | none =>
          match Operator.ofChar? first with
          | some symbol => .operator symbol :: ofCharacters rest
          | none => ofCharacters rest
termination_by characters => characters.length
decreasing_by
  · exact Nat.lt_succ_of_le (List.length_dropWhile_le _ _)
  · exact Nat.lt_succ_self _
  · exact Nat.lt_succ_self _

variable {cursor : Cursor} {characters rest : List Char} {first : Char}

/-- Where no run of a kind starts, looking for one leaves the cursor at its
place. -/
theorem exists_readRun_eq_none
    (represents : cursor.Represents (.before characters))
    {kind : RunKind}
    (stops : ∀ first ∈ characters.head?, kind.contains first = false) :
    ∃ stopped, cursor.readRun kind.contains = (none, stopped) ∧
      stopped.Represents (.before characters) := by
  have run := represents.readRun kind.contains
  rw [PlainCursor.readRun_of_none stops] at run
  exact run.exists_eq

/-- Where no run of any kind starts, the cursor stays at its place while numbers
and names are looked for. -/
theorem exists_readName_eq_none
    (represents : cursor.Represents (.before characters))
    (noRun : ∀ first ∈ characters.head?, RunKind.ofChar? first = none) :
    ∃ noDigits noName,
      readNumber cursor = (none, noDigits) ∧
      readName noDigits = (none, noName) ∧
      noName.Represents (.before characters) := by
  have stops (kind : RunKind) : ∀ first ∈ characters.head?, kind.contains first = false :=
    fun first isFirst => RunKind.contains_eq_false (noRun first isFirst) kind
  obtain ⟨noDigits, digitStep, noDigitsRepresents⟩ :=
    exists_readRun_eq_none represents (stops .digits)
  obtain ⟨noName, nameStep, noNameRepresents⟩ :=
    exists_readRun_eq_none noDigitsRepresents (stops .letters)
  exact ⟨noDigits, noName, digitStep, nameStep, noNameRepresents⟩

/-- If a text has ended, so has reading. -/
theorem readPiece_nil (represents : cursor.Represents (.before [])) :
    (readPiece cursor).1 = .finished := by
  obtain ⟨noDigits, noName, digitStep, nameStep, noNameRepresents⟩ :=
    exists_readName_eq_none represents nofun
  obtain ⟨noSymbol, symbolStep, noSymbolRepresents⟩ :=
    (noNameRepresents.readSymbol Operator.ofChar?).exists_eq
  obtain ⟨ended, endStep, -⟩ := noSymbolRepresents.discard.exists_eq
  simp only [readPiece, readOperator, digitStep, nameStep, symbolStep, endStep]
  rfl

/-- A character of a kind starts an operand of all that follow of its kind. -/
theorem readPiece_run
    (represents : cursor.Represents (.before (first :: rest)))
    {kind : RunKind}
    (starts : RunKind.ofChar? first = some kind) :
    Cursor.Agrees (readPiece cursor)
      (.token (.operand (String.ofList (first :: rest.takeWhile kind.contains))),
        .before (rest.dropWhile kind.contains)) := by
  have contained := RunKind.ofChar?_eq_some_iff.mp starts
  cases kind with
  | digits =>
      have digits := represents.readRun RunKind.digits.contains
      rw [PlainCursor.readRun_before_cons contained] at digits
      obtain ⟨next, step, nextRepresents⟩ := digits.exists_eq
      rw [readPiece, show readNumber cursor = _ from step]
      exact ⟨rfl, nextRepresents⟩
  | letters =>
      have noDigit : ∀ character ∈ (first :: rest).head?,
          RunKind.digits.contains character = false :=
        fun _ isFirst =>
          Option.some.inj isFirst ▸ RunKind.isDigit_eq_false_of_isLower contained
      obtain ⟨noDigits, digitStep, noDigitsRepresents⟩ :=
        exists_readRun_eq_none represents noDigit
      have letters := noDigitsRepresents.readRun RunKind.letters.contains
      rw [PlainCursor.readRun_before_cons contained] at letters
      obtain ⟨next, step, nextRepresents⟩ := letters.exists_eq
      simp only [readPiece, show readNumber cursor = _ from digitStep,
        show readName noDigits = _ from step]
      exact ⟨rfl, nextRepresents⟩

/-- An operator symbol is read as an operator. -/
theorem readPiece_symbol
    (represents : cursor.Represents (.before (first :: rest)))
    {symbol : Operator}
    (noRun : RunKind.ofChar? first = none)
    (recognized : Operator.ofChar? first = some symbol) :
    Cursor.Agrees (readPiece cursor) (.token (.operator symbol), .before rest) := by
  obtain ⟨noDigits, noName, digitStep, nameStep, noNameRepresents⟩ :=
    exists_readName_eq_none represents fun _ isFirst => Option.some.inj isFirst ▸ noRun
  have symbols := noNameRepresents.readSymbol Operator.ofChar?
  rw [PlainCursor.readSymbol_before_cons, recognized] at symbols
  obtain ⟨next, step, nextRepresents⟩ := symbols.exists_eq
  simp only [readPiece, readOperator, digitStep, nameStep, step]
  exact ⟨rfl, nextRepresents⟩

/-- Any other character is skipped. -/
theorem readPiece_skipped
    (represents : cursor.Represents (.before (first :: rest)))
    (noRun : RunKind.ofChar? first = none)
    (unrecognized : Operator.ofChar? first = none) :
    Cursor.Agrees (readPiece cursor) (.skipped, .before rest) := by
  obtain ⟨noDigits, noName, digitStep, nameStep, noNameRepresents⟩ :=
    exists_readName_eq_none represents fun _ isFirst => Option.some.inj isFirst ▸ noRun
  have symbols := noNameRepresents.readSymbol Operator.ofChar?
  rw [PlainCursor.readSymbol_before_cons, unrecognized] at symbols
  obtain ⟨noSymbol, symbolStep, noSymbolRepresents⟩ := symbols.exists_eq
  obtain ⟨next, step, nextRepresents⟩ := noSymbolRepresents.discard.exists_eq
  simp only [readPiece, readOperator, digitStep, nameStep, symbolStep, step]
  exact ⟨rfl, nextRepresents⟩

/-- After a token, reading goes on with what follows it. -/
theorem readAll_of_token
    {next : Cursor}
    {token : Token}
    (step : readPiece cursor = (.token token, next)) :
    readAll cursor = token :: readAll next := by
  rw [readAll]
  split
  · next read => cases step.symm.trans read; rfl
  · next read => cases step.symm.trans read
  · next read => cases step.symm.trans read

/-- After a character that is skipped, reading goes on with what follows it. -/
theorem readAll_of_skipped
    {next : Cursor}
    (step : readPiece cursor = (.skipped, next)) :
    readAll cursor = readAll next := by
  rw [readAll]
  split
  · next read => cases step.symm.trans read
  · next read => cases step.symm.trans read; rfl
  · next read => cases step.symm.trans read

/-- At the end of the text no token is left. -/
theorem readAll_of_finished (ended : (readPiece cursor).1 = .finished) :
    readAll cursor = [] := by
  rw [readAll]
  split
  · next read => rw [read] at ended; cases ended
  · next read => rw [read] at ended; cases ended
  · rfl

/-- The tokens from a cursor on are those of the characters after it. -/
theorem readAll_eq_ofCharacters
    (represents : cursor.Represents (.before characters)) :
    readAll cursor = ofCharacters characters := by
  fun_induction ofCharacters characters generalizing cursor with
  | case1 => exact readAll_of_finished (readPiece_nil represents)
  | case2 first rest kind starts inductionHypothesis =>
      obtain ⟨next, step, following⟩ := (readPiece_run represents starts).exists_eq
      rw [readAll_of_token step, inductionHypothesis following]
  | case3 first rest noRun symbol recognized inductionHypothesis =>
      obtain ⟨next, step, following⟩ :=
        (readPiece_symbol represents noRun recognized).exists_eq
      rw [readAll_of_token step, inductionHypothesis following]
  | case4 first rest noRun unrecognized inductionHypothesis =>
      obtain ⟨next, step, following⟩ :=
        (readPiece_skipped represents noRun unrecognized).exists_eq
      rw [readAll_of_skipped step, inductionHypothesis following]

/-- The tokens of a text are those of its characters. -/
theorem ofText_eq_ofCharacters (text : String) :
    ofText text = ofCharacters text.toList :=
  readAll_eq_ofCharacters (Cursor.represents_ofText text)

end Token
end PostfixCalculator
