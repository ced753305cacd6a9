import PostfixCalculator.Decimal.Literal
import PostfixCalculator.Proofs.Cut
import PostfixCalculator.Proofs.Run

/-!
# The grammar of floating-point literals

How a literal is written, said part by part and without reading it from left to right:
a sign that may be absent, and then either a word or digits with a fraction and an
exponent that may both be absent. Each part comes with what it says.

Each part is read exactly as the grammar has it, because what follows a part cannot go on
with it. So a text is read as a literal exactly if the literal is so written, and it is
malformed exactly if it is not empty and no literal is so written.
-/

namespace PostfixCalculator
namespace Decimal

/-- All of some characters are decimal digits. -/
def AllDigits (characters : List Char) : Prop :=
  ∀ character ∈ characters, character.isDigit = true

/-- A sign, which is negative or not, as it is written. -/
inductive IsSign : Bool -> List Char -> Prop
  | absent : IsSign false []
  | plus : IsSign false ['+']
  | minus : IsSign true ['-']

/-- A whole number with its sign as it is written. -/
inductive IsWhole : Int -> List Char -> Prop
  | digits {negative : Bool} {sign digits : List Char}
      (isSign : IsSign negative sign)
      (nonempty : digits ≠ [])
      (allDigits : AllDigits digits) :
      IsWhole
        (if negative then -(Nat.ofDigitChars 10 digits 0 : Int) else Nat.ofDigitChars 10 digits 0)
        (sign ++ digits)

/-- The digits behind a point as they are written. -/
inductive IsFraction : List Char -> List Char -> Prop
  | absent : IsFraction [] []
  | point {digits : List Char}
      (allDigits : AllDigits digits) :
      IsFraction digits ('.' :: digits)

/-- A power of ten as it is written. -/
inductive IsExponent : Int -> List Char -> Prop
  | absent : IsExponent 0 []
  | marked {mark : Char} {exponent : Int} {characters : List Char}
      (isMark : mark = 'e' ∨ mark = 'E')
      (isWhole : IsWhole exponent characters) :
      IsExponent exponent (mark :: characters)

/-- A number without its sign as it is written: digits, of which there is one at least,
may have a point before, between or behind them, and an exponent may follow. -/
inductive IsNumber : LiteralBody -> List Char -> Prop
  | digits {whole fraction point mark : List Char} {exponent : Int}
      (allDigits : AllDigits whole)
      (isFraction : IsFraction fraction point)
      (isExponent : IsExponent exponent mark)
      (nonempty : whole ++ fraction ≠ []) :
      IsNumber (.number (whole ++ fraction) (exponent - fraction.length))
        (whole ++ (point ++ mark))

/-- A word for what is no finite number, in any letter case. -/
inductive IsWord : LiteralBody -> List Char -> Prop
  | infinity {word : List Char}
      (isWord : word.map Char.toLower = "inf".toList ∨
        word.map Char.toLower = "infinity".toList) :
      IsWord .infinity word
  | undefined {word : List Char}
      (isWord : word.map Char.toLower = "nan".toList) :
      IsWord .undefined word

/-- A literal is written as some characters. -/
def Literal.IsWritten (literal : Literal) (characters : List Char) : Prop :=
  ∃ sign body, characters = sign ++ body ∧ IsSign literal.negative sign ∧
    (IsNumber literal.body body ∨ IsWord literal.body body)

/-- What is said apart from the sign stands for a number of a size. -/
inductive LiteralBody.IsSize : LiteralBody -> Float -> Prop
  | infinity : IsSize .infinity (.ofModel (.pack (.infinity .positive)))
  | undefined : IsSize .undefined (.ofModel (.pack .notANumber))
  | number {digits : List Char} {scale : Int} :
      IsSize (.number digits scale)
        (.ofScientific (Nat.ofDigitChars 10 digits 0) (scale < 0) scale.natAbs)

/-- A literal stands for a number: that of its size, with the other sign if it is negative. -/
def Literal.Denotes (literal : Literal) (value : Float) : Prop :=
  ∃ size, literal.body.IsSize size ∧ value = if literal.negative then -size else size

variable {characters rest : List Char} {first : Char} {body : LiteralBody}

/-! ## The sign -/

/-- The characters do not start with a sign. -/
def Unsigned (characters : List Char) : Prop :=
  ∀ first ∈ characters.head?, first ≠ '+' ∧ first ≠ '-'

/-- What is split off as a sign is one. -/
theorem exists_isSign_splitSign (characters : List Char) :
    ∃ sign, characters = sign ++ (splitSign characters).2 ∧
      IsSign (splitSign characters).1 sign := by
  unfold splitSign
  split
  · exact ⟨['-'], rfl, .minus⟩
  · exact ⟨['+'], rfl, .plus⟩
  · exact ⟨[], rfl, .absent⟩

/-- A sign is split off what does not start with another. -/
theorem splitSign_append
    {negative : Bool}
    {sign : List Char}
    (isSign : IsSign negative sign)
    (unsigned : Unsigned rest) :
    splitSign (sign ++ rest) = (negative, rest) := by
  cases isSign with
  | plus => rfl
  | minus => rfl
  | absent =>
      rw [List.nil_append]
      unfold splitSign
      split
      · exact absurd rfl (unsigned '-' rfl).2
      · exact absurd rfl (unsigned '+' rfl).1
      · rfl

/-- Digits do not start with a sign. -/
theorem unsigned_of_isDigit (digit : first.isDigit = true) : Unsigned (first :: rest) := by
  rintro _ ⟨⟩
  constructor <;> (rintro rfl; contradiction)

/-! ## The exponent -/

/-- Digits denote a natural number in base ten. -/
theorem digitsValue_eq (digits : List Char) :
    digitsValue digits = Nat.ofDigitChars 10 digits 0 :=
  Nat.ofDigitChars_eq_foldl.symm

/-- A whole number is read exactly as it is written. -/
theorem wholeNumber?_eq_some_iff {value : Int} :
    wholeNumber? characters = some value ↔ IsWhole value characters := by
  constructor
  · intro found
    obtain ⟨sign, whole, isSign⟩ := exists_isSign_splitSign characters
    rw [wholeNumber?] at found
    generalize splitSign characters = parts at found whole isSign
    obtain ⟨negative, digits⟩ := parts
    subst whole
    dsimp only at found isSign
    split at found
    · cases found
    · next isDigits =>
      rw [Bool.not_eq_true, Bool.or_eq_false_iff] at isDigits
      obtain ⟨nonempty, allDigits⟩ := isDigits
      rw [← apply_ite some, digitsValue_eq] at found
      cases found
      exact .digits isSign (by simpa using nonempty) (by simpa [AllDigits] using allDigits)
  · rintro ⟨isSign, nonempty, allDigits⟩
    obtain ⟨first, others, rfl⟩ := List.exists_cons_of_ne_nil nonempty
    have digit : first.isDigit = true := allDigits first List.mem_cons_self
    have all : (first :: others).all Char.isDigit = true := List.all_eq_true.mpr allDigits
    rw [wholeNumber?, splitSign_append isSign (unsigned_of_isDigit digit)]
    dsimp only
    rw [all, apply_ite some, digitsValue_eq]
    rfl

/-- A power of ten is read exactly as it is written. -/
theorem exponentPart?_eq_some_iff {exponent : Int} :
    exponentPart? characters = some exponent ↔ IsExponent exponent characters := by
  constructor
  · intro found
    unfold exponentPart? at found
    split at found
    · cases found
      exact .absent
    · exact .marked (Or.inl rfl) (wholeNumber?_eq_some_iff.mp found)
    · exact .marked (Or.inr rfl) (wholeNumber?_eq_some_iff.mp found)
    · cases found
  · intro isExponent
    cases isExponent with
    | absent => rfl
    | marked isMark isWhole =>
        rcases isMark with rfl | rfl
        · exact wholeNumber?_eq_some_iff.mpr isWhole
        · exact wholeNumber?_eq_some_iff.mpr isWhole

/-- An exponent goes on with neither the digits nor the point before it. -/
theorem IsExponent.head_eq
    {exponent : Int}
    (isExponent : IsExponent exponent characters) :
    ∀ first ∈ characters.head?, first = 'e' ∨ first = 'E' := by
  cases isExponent with
  | absent => nofun
  | marked isMark isWhole =>
      rintro _ ⟨⟩
      exact isMark

/-! ## Digits and their fraction -/

/-- What is split off as a fraction is one. -/
theorem exists_isFraction_splitFraction (characters : List Char) :
    ∃ point, characters = point ++ (splitFraction characters).2 ∧
      IsFraction (splitFraction characters).1 point := by
  unfold splitFraction
  split
  · next rest =>
    refine ⟨'.' :: rest.takeWhile Char.isDigit, ?_, .point fun _ => List.mem_takeWhile_imp⟩
    rw [List.cons_append, List.takeWhile_append_dropWhile]
  · exact ⟨[], rfl, .absent⟩

/-- A fraction is split off an exponent. -/
theorem splitFraction_append
    {fraction point mark : List Char}
    {exponent : Int}
    (isFraction : IsFraction fraction point)
    (isExponent : IsExponent exponent mark) :
    splitFraction (point ++ mark) = (fraction, mark) := by
  cases isFraction with
  | absent =>
      rw [List.nil_append]
      unfold splitFraction
      split
      · rcases isExponent.head_eq '.' rfl with isMark | isMark <;> contradiction
      · rfl
  | point allDigits =>
      have stops : ∀ first ∈ mark.head?, first.isDigit = false := by
        intro first isFirst
        rcases isExponent.head_eq first isFirst with rfl | rfl <;> rfl
      obtain ⟨taken, kept⟩ := Cut.takeWhile_dropWhile_append allDigits stops
      rw [List.cons_append, splitFraction, taken, kept]

/-- Digits do not go on in what is behind a point or in an exponent. -/
theorem IsFraction.stops
    {fraction point mark : List Char}
    {exponent : Int}
    (isFraction : IsFraction fraction point)
    (isExponent : IsExponent exponent mark) :
    ∀ first ∈ (point ++ mark).head?, first.isDigit = false := by
  cases isFraction with
  | absent =>
      intro first isFirst
      rcases isExponent.head_eq first isFirst with rfl | rfl <;> rfl
  | point allDigits =>
      rintro _ ⟨⟩
      rfl

/-- A number is read exactly as it is written. -/
theorem numberBody?_eq_some_iff :
    numberBody? characters = some body ↔ IsNumber body characters := by
  constructor
  · intro found
    obtain ⟨point, behind, isFraction⟩ :=
      exists_isFraction_splitFraction (characters.dropWhile Char.isDigit)
    rw [numberBody?] at found
    generalize splitFraction (characters.dropWhile Char.isDigit) = parts
      at found behind isFraction
    obtain ⟨fraction, mark⟩ := parts
    dsimp only at found behind isFraction
    split at found
    · cases found
    · next nonempty =>
      obtain ⟨exponent, isExponent, rfl⟩ := Option.map_eq_some_iff.mp found
      have isNumber := IsNumber.digits (fun _ => List.mem_takeWhile_imp) isFraction
        (exponentPart?_eq_some_iff.mp isExponent) (by simpa using nonempty)
      rwa [← behind, List.takeWhile_append_dropWhile] at isNumber
  · rintro ⟨allDigits, isFraction, isExponent, nonempty⟩
    obtain ⟨taken, kept⟩ :=
      Cut.takeWhile_dropWhile_append allDigits (isFraction.stops isExponent)
    rw [numberBody?, taken, kept, splitFraction_append isFraction isExponent]
    dsimp only
    rw [exponentPart?_eq_some_iff.mpr isExponent, if_neg (by simpa using nonempty)]
    rfl

/-- A number starts with a digit or a point. -/
theorem IsNumber.head_eq (isNumber : IsNumber body characters) :
    ∃ first rest, characters = first :: rest ∧ (first.isDigit = true ∨ first = '.') := by
  obtain ⟨allDigits, isFraction, isExponent, nonempty⟩ := isNumber
  rename_i whole fraction point mark exponent
  cases whole with
  | cons first others =>
      exact ⟨first, _, rfl, Or.inl (allDigits first List.mem_cons_self)⟩
  | nil =>
      cases isFraction with
      | absent => contradiction
      | point fractionDigits => exact ⟨'.', _, rfl, Or.inr rfl⟩

/-! ## Words -/

/-- A word is read exactly as it is written. -/
theorem wordBody?_eq_some_iff :
    wordBody? characters = some body ↔ IsWord body characters := by
  constructor
  · intro found
    rw [wordBody?] at found
    simp only [Bool.or_eq_true, decide_eq_true_eq] at found
    split at found
    · next isWord =>
      cases found
      exact .infinity isWord
    · split at found
      · next isWord =>
        cases found
        exact .undefined isWord
      · cases found
  · intro isWord
    cases isWord with
    | infinity isWord =>
        rcases isWord with isWord | isWord
        · rw [wordBody?, isWord]
          rfl
        · rw [wordBody?, isWord]
          rfl
    | undefined isWord =>
        rw [wordBody?, isWord]
        rfl

/-- Digits have no letter case. -/
theorem toLower_of_isDigit (digit : first.isDigit = true) : first.toLower = first := by
  have greatest := (Char.isDigit_iff_toNat.mp digit).2
  have notCapital : ¬(first.val ≥ 'A'.val ∧ first.val ≤ 'Z'.val) := by
    rintro ⟨fromLetter, -⟩
    have least : 'A'.toNat ≤ first.toNat := UInt32.le_iff_toNat_le.mp fromLetter
    exact absurd (Nat.le_trans least greatest) (by decide)
  exact dif_neg notCapital

/-- A word starts with one of two letters. -/
theorem IsWord.head_eq (isWord : IsWord body characters) :
    ∃ first rest, characters = first :: rest ∧ (first.toLower = 'i' ∨ first.toLower = 'n') := by
  have starts : ∃ letter others, characters.map Char.toLower = letter :: others ∧
      (letter = 'i' ∨ letter = 'n') := by
    cases isWord with
    | infinity isWord =>
        rcases isWord with isWord | isWord
        · exact ⟨_, _, isWord, Or.inl rfl⟩
        · exact ⟨_, _, isWord, Or.inl rfl⟩
    | undefined isWord => exact ⟨_, _, isWord, Or.inr rfl⟩
  obtain ⟨letter, others, lowered, isLetter⟩ := starts
  obtain ⟨first, rest, rfl, rfl, -⟩ := List.map_eq_cons_iff.mp lowered
  exact ⟨first, rest, rfl, isLetter⟩

/-- No word is a number. -/
theorem IsWord.not_isNumber
    {other : LiteralBody}
    (isWord : IsWord body characters) :
    ¬IsNumber other characters := by
  intro isNumber
  obtain ⟨letter, others, rfl, isLetter⟩ := isWord.head_eq
  obtain ⟨first, rest, same, isFirst⟩ := isNumber.head_eq
  cases same
  rcases isFirst with digit | rfl
  · rw [toLower_of_isDigit digit] at isLetter
    rcases isLetter with rfl | rfl <;> contradiction
  · exact absurd isLetter (by decide)

/-! ## Literals -/

/-- Something stands behind a sign, and it does not start with another one. -/
theorem ne_nil_and_unsigned_of_body
    (isBody : IsNumber body characters ∨ IsWord body characters) :
    characters ≠ [] ∧ Unsigned characters := by
  rcases isBody with isNumber | isWord
  · obtain ⟨first, rest, rfl, digit | rfl⟩ := isNumber.head_eq
    · exact ⟨List.cons_ne_nil _ _, unsigned_of_isDigit digit⟩
    · refine ⟨List.cons_ne_nil _ _, ?_⟩
      rintro _ ⟨⟩
      decide
  · obtain ⟨letter, rest, rfl, isLetter⟩ := isWord.head_eq
    refine ⟨List.cons_ne_nil _ _, ?_⟩
    rintro _ ⟨⟩
    constructor <;> (rintro rfl; exact absurd isLetter (by decide))

/-- What stands behind a sign is read exactly as it is written. -/
theorem body?_eq_some_iff :
    (numberBody? characters <|> wordBody? characters) = some body ↔
      IsNumber body characters ∨ IsWord body characters := by
  rw [← numberBody?_eq_some_iff, ← wordBody?_eq_some_iff]
  cases number : numberBody? characters with
  | some found =>
      have notWord : wordBody? characters ≠ some body := by
        intro word
        exact (wordBody?_eq_some_iff.mp word).not_isNumber (numberBody?_eq_some_iff.mp number)
      simp [notWord]
  | none => simp

/-- A text is read as a literal exactly if the literal is so written. -/
theorem Literal.ofText_eq_ok_iff {text : String} {literal : Literal} :
    ofText text = .ok literal ↔ literal.IsWritten text.toList := by
  constructor
  · intro accepted
    rw [ofText] at accepted
    split at accepted
    · cases accepted
    · obtain ⟨sign, whole, isSign⟩ := exists_isSign_splitSign text.toList
      generalize splitSign text.toList = parts at accepted whole isSign
      obtain ⟨negative, rest⟩ := parts
      dsimp only at accepted whole isSign
      split at accepted
      · next body isBody =>
        cases accepted
        exact ⟨sign, rest, whole, isSign, body?_eq_some_iff.mp isBody⟩
      · cases accepted
  · rintro ⟨sign, rest, whole, isSign, isBody⟩
    obtain ⟨restNonempty, unsigned⟩ := ne_nil_and_unsigned_of_body isBody
    have nonempty : ¬text.toList.isEmpty = true := by
      rw [List.isEmpty_iff, whole]
      exact List.append_ne_nil_of_right_ne_nil sign restNonempty
    rw [ofText, if_neg nonempty, whole, splitSign_append isSign unsigned]
    simp only [body?_eq_some_iff.mpr isBody]

/-- A text is refused as empty exactly if it is. -/
theorem Literal.ofText_eq_empty_iff {text : String} :
    ofText text = .error .empty ↔ text = "" := by
  rw [← String.toList_eq_nil_iff, ← List.isEmpty_iff, ofText]
  split
  · next empty => exact iff_of_true rfl empty
  · next nonempty =>
    refine iff_of_false ?_ nonempty
    dsimp only
    split <;> nofun

/-- A text is malformed exactly if it is not empty and no literal is so written. -/
theorem Literal.ofText_eq_malformed_iff {text : String} :
    ofText text = .error .malformed ↔
      text ≠ "" ∧ ∀ literal : Literal, ¬literal.IsWritten text.toList := by
  simp only [← ofText_eq_ok_iff, ne_eq, ← ofText_eq_empty_iff]
  cases ofText text with
  | ok literal => simp
  | error fault => cases fault <;> simp

/-- What is said apart from the sign stands for its value and for no other size. -/
theorem LiteralBody.isSize_iff {size : Float} : body.IsSize size ↔ size = body.value := by
  have infinite : LiteralBody.infinity.value = .ofModel (.pack (.infinity .positive)) := by
    decide +kernel
  have undefined : LiteralBody.undefined.value = .ofModel (.pack .notANumber) := by
    decide +kernel
  constructor
  · intro isSize
    cases isSize with
    | infinity => exact infinite.symm
    | undefined => exact undefined.symm
    | number => rw [value, digitsValue_eq]
  · rintro rfl
    cases body with
    | infinity =>
        rw [infinite]
        exact .infinity
    | undefined =>
        rw [undefined]
        exact .undefined
    | number digits scale =>
        rw [value, digitsValue_eq]
        exact .number

/-- A literal stands for its value and for no other number. -/
theorem Literal.denotes_iff {literal : Literal} {value : Float} :
    literal.Denotes value ↔ value = literal.value := by
  simp only [Denotes, LiteralBody.isSize_iff, exists_eq_left, Literal.value]

/-- A text stands for the number that the literal so written does. -/
theorem read_eq_ok_iff {text : String} {value : Float} :
    read text = .ok value ↔
      ∃ literal : Literal, literal.IsWritten text.toList ∧ literal.Denotes value := by
  rw [read, Run.map_eq_ok_iff]
  simp only [Literal.ofText_eq_ok_iff, Literal.denotes_iff]

/-- Digits stand for the natural number that they denote. -/
theorem read_of_allDigits
    {text : String}
    (nonempty : text.toList ≠ [])
    (allDigits : AllDigits text.toList) :
    read text = .ok (Float.ofNat (Nat.ofDigitChars 10 text.toList 0)) := by
  -- They are a number without a sign, a point and an exponent.
  have isNumber := IsNumber.digits allDigits .absent .absent
    (List.append_ne_nil_of_left_ne_nil nonempty _)
  simp only [List.append_nil] at isNumber
  refine read_eq_ok_iff.mpr ⟨⟨false, _⟩, ⟨[], _, rfl, .absent, Or.inl isNumber⟩, ?_⟩
  exact ⟨_, .number, rfl⟩

/-- A text stands for no value for the same cause for which it is no literal. -/
theorem read_eq_error_iff {text : String} {fault : LiteralFault} :
    read text = .error fault ↔ Literal.ofText text = .error fault :=
  Run.map_eq_error_iff

/-! ## The characters of a literal -/

/-- A character that literals can have. -/
def IsLiteralCharacter (character : Char) : Prop :=
  character.isDigit = true ∨ character ∈ ['+', '-', '.', 'e', 'E'] ∨
    character.toLower ∈ "infinity".toList ++ "nan".toList

instance (character : Char) : Decidable (IsLiteralCharacter character) :=
  inferInstanceAs (Decidable (_ ∨ _ ∨ _))

/-- A sign has no other characters. -/
theorem IsSign.isLiteralCharacter
    {negative : Bool}
    (isSign : IsSign negative characters) :
    ∀ character ∈ characters, IsLiteralCharacter character := by
  cases isSign with
  | absent => nofun
  | plus => exact List.forall_mem_singleton.mpr (by decide)
  | minus => exact List.forall_mem_singleton.mpr (by decide)

/-- Digits are such characters. -/
theorem AllDigits.isLiteralCharacter (allDigits : AllDigits characters) :
    ∀ character ∈ characters, IsLiteralCharacter character :=
  fun character present => Or.inl (allDigits character present)

/-- An exponent has no other characters. -/
theorem IsExponent.isLiteralCharacter
    {exponent : Int}
    (isExponent : IsExponent exponent characters) :
    ∀ character ∈ characters, IsLiteralCharacter character := by
  cases isExponent with
  | absent => nofun
  | marked isMark isWhole =>
      obtain ⟨isSign, -, allDigits⟩ := isWhole
      rw [List.forall_mem_cons, List.forall_mem_append]
      refine ⟨?_, isSign.isLiteralCharacter, allDigits.isLiteralCharacter⟩
      rcases isMark with rfl | rfl <;> decide

/-- A number has no other characters. -/
theorem IsNumber.isLiteralCharacter (isNumber : IsNumber body characters) :
    ∀ character ∈ characters, IsLiteralCharacter character := by
  obtain ⟨allDigits, isFraction, isExponent, -⟩ := isNumber
  rw [List.forall_mem_append, List.forall_mem_append]
  refine ⟨allDigits.isLiteralCharacter, ?_, isExponent.isLiteralCharacter⟩
  cases isFraction with
  | absent => nofun
  | point fractionDigits =>
      rw [List.forall_mem_cons]
      exact ⟨by decide, fractionDigits.isLiteralCharacter⟩

/-- A word has no other characters. -/
theorem IsWord.isLiteralCharacter (isWord : IsWord body characters) :
    ∀ character ∈ characters, IsLiteralCharacter character := by
  intro character present
  have lowered : character.toLower ∈ characters.map Char.toLower :=
    List.mem_map_of_mem present
  have isPrefix : "inf".toList <+: "infinity".toList := by decide
  refine Or.inr (Or.inr (List.mem_append.mpr ?_))
  cases isWord with
  | infinity isWord =>
      rcases isWord with isWord | isWord
      · rw [isWord] at lowered
        exact Or.inl (isPrefix.subset lowered)
      · rw [isWord] at lowered
        exact Or.inl lowered
  | undefined isWord =>
      rw [isWord] at lowered
      exact Or.inr lowered

/-- A literal has no other characters. -/
theorem Literal.IsWritten.isLiteralCharacter
    {literal : Literal}
    (isWritten : literal.IsWritten characters) :
    ∀ character ∈ characters, IsLiteralCharacter character := by
  obtain ⟨sign, body, rfl, isSign, isBody⟩ := isWritten
  rw [List.forall_mem_append]
  exact ⟨isSign.isLiteralCharacter,
    isBody.elim IsNumber.isLiteralCharacter IsWord.isLiteralCharacter⟩

end Decimal
end PostfixCalculator
