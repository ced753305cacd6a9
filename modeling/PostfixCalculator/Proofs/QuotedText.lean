import PostfixCalculator.Proofs.Cut
import PostfixCalculator.Text.Quoted

/-!
# Where a quoted text ends

A character between quotes is written as itself, with a short escape or by its code
point, and the first characters of what is written tell which. So an escaped character
that is followed by anything is found again, and what follows it too: no character is
written as the beginning of what is written for another one. Nor does one begin with a
quote, so that the quote which ends a text is found, whatever the text contains.
-/

namespace PostfixCalculator

/-! ## Digits -/

namespace Digits

variable {base : Nat}

/-- Up to base sixteen, different digits have different characters. -/
theorem digitChar_inj
    {first second : Nat}
    (firstDigit : first < 16)
    (secondDigit : second < 16)
    (same : first.digitChar = second.digitChar) :
    first = second := by
  have table : ∀ first < 16, ∀ second < 16,
      Nat.digitChar first = Nat.digitChar second -> first = second := by decide
  exact table first firstDigit second secondDigit same

/-- Numbers with the same digits are the same. -/
theorem toDigits_injective
    (two_le : 2 ≤ base)
    (le_sixteen : base ≤ 16) :
    Function.Injective (Nat.toDigits base) := by
  intro first second same
  induction first using Nat.strongRecOn generalizing second with
  | ind first inductionHypothesis =>
      rcases Nat.lt_or_ge first base with firstShort | firstLong <;>
        rcases Nat.lt_or_ge second base with secondShort | secondLong
      · rw [Nat.toDigits_of_lt_base firstShort, Nat.toDigits_of_lt_base secondShort] at same
        exact digitChar_inj (by omega) (by omega) (List.singleton_inj.mp same)
      · rw [Nat.toDigits_of_lt_base firstShort, Nat.toDigits_of_base_le two_le secondLong] at same
        exact absurd (congrArg List.length same) (by simp)
      · rw [Nat.toDigits_of_base_le two_le firstLong, Nat.toDigits_of_lt_base secondShort] at same
        exact absurd (congrArg List.length same) (by simp)
      · rw [Nat.toDigits_of_base_le two_le firstLong,
          Nat.toDigits_of_base_le two_le secondLong] at same
        obtain ⟨sameFront, sameLast⟩ := List.append_inj' same rfl
        have shorter : first / base < first := Nat.div_lt_self (by omega) two_le
        have sameQuotient := inductionHypothesis (first / base) shorter sameFront
        have digit (number : Nat) : number % base < 16 :=
          Nat.lt_of_lt_of_le (Nat.mod_lt number (by omega)) le_sixteen
        have sameRemainder := digitChar_inj (digit first) (digit second)
          (List.singleton_inj.mp sameLast)
        rw [← Nat.div_add_mod first base, sameQuotient, sameRemainder, Nat.div_add_mod]

/-- The digits of a number are characters of digits. -/
theorem exists_digitChar_of_mem
    (two_le : 2 ≤ base)
    {number : Nat}
    {character : Char}
    (present : character ∈ Nat.toDigits base number) :
    ∃ digit, character = Nat.digitChar digit := by
  induction number using Nat.strongRecOn with
  | ind number inductionHypothesis =>
      rw [Nat.toDigits_eq_if two_le] at present
      split at present
      · exact ⟨number, List.mem_singleton.mp present⟩
      · rcases List.mem_append.mp present with inFront | isLast
        · exact inductionHypothesis _ (Nat.div_lt_self (by omega) two_le) inFront
        · exact ⟨_, List.mem_singleton.mp isLast⟩

end Digits

namespace Text

/-! ## Escaped characters -/

/-- The characters that have a short escape, with the letters of these escapes. -/
def shortEscapes : List (Char × Char) :=
  [('\x00', '0'), ('\t', 't'), ('\r', 'r'), ('\n', 'n'), ('"', '"'), ('\\', '\\')]

/-- What a character is written as between quotes. -/
inductive WrittenAs : Char -> List Char -> Prop
  | itself {character : Char}
      (notQuote : character ≠ '"')
      (notBackslash : character ≠ '\\') :
      WrittenAs character [character]
  | short {character letter : Char}
      (listed : (character, letter) ∈ shortEscapes) :
      WrittenAs character ['\\', letter]
  | codePoint (character : Char) :
      WrittenAs character (codePointEscape character)

/-- Escaping writes a character in one of the three ways. -/
theorem writtenAs_escape (character : Char) : WrittenAs character (escape character) := by
  unfold escape
  split_ifs with isNull isTabulator isReturn isNewline isQuote isBackslash printable
  · exact .short (by simp [isNull, shortEscapes])
  · exact .short (by simp [isTabulator, shortEscapes])
  · exact .short (by simp [isReturn, shortEscapes])
  · exact .short (by simp [isNewline, shortEscapes])
  · exact .short (by simp [isQuote, shortEscapes])
  · exact .short (by simp [isBackslash, shortEscapes])
  · exact .itself isQuote isBackslash
  · exact .codePoint character

/-- Different characters have different short escapes. -/
theorem eq_of_mem_shortEscapes
    {first second letter : Char}
    (firstListed : (first, letter) ∈ shortEscapes)
    (secondListed : (second, letter) ∈ shortEscapes) :
    first = second := by
  have table : ∀ left ∈ shortEscapes, ∀ right ∈ shortEscapes,
      left.2 = right.2 -> left.1 = right.1 := by decide
  exact table _ firstListed _ secondListed rfl

/-- No short escape is the beginning of an escape by the code point. -/
theorem letter_ne_of_mem_shortEscapes
    {character letter : Char}
    (listed : (character, letter) ∈ shortEscapes) :
    letter ≠ 'u' := by
  have table : ∀ entry ∈ shortEscapes, entry.2 ≠ 'u' := by decide
  exact table _ listed

/-- The brace that ends an escape by the code point is none of its digits. -/
theorem ne_brace_of_mem_toDigits
    {number : Nat}
    {character : Char}
    (present : character ∈ Nat.toDigits 16 number) :
    (character != '\x7d') = true := by
  obtain ⟨digit, rfl⟩ := Digits.exists_digitChar_of_mem (by decide) present
  exact bne_iff_ne.mpr (Nat.digitChar_ne '\x7d' rfl)

/-- An escape by the code point tells the character and where it ends. -/
theorem codePointEscape_append_inj
    {first second : Char}
    {rest other : List Char}
    (same : codePointEscape first ++ rest = codePointEscape second ++ other) :
    first = second ∧ rest = other := by
  simp only [codePointEscape, List.append_assoc, List.cons_append, List.nil_append,
    List.cons.injEq, true_and] at same
  obtain ⟨sameDigits, sameRest⟩ := Cut.append_cons_inj_of_stops
    (fun _ => ne_brace_of_mem_toDigits) (fun _ => ne_brace_of_mem_toDigits)
    (bne_self_eq_false '\x7d') same
  have sameCode := Digits.toDigits_injective (by decide) (by decide) sameDigits
  exact ⟨Char.toNat_inj.mp sameCode, sameRest⟩

namespace WrittenAs

variable {first second : Char} {written writtenToo rest other : List Char}

/-- Between quotes no character begins with a quote. -/
theorem exists_cons (writes : WrittenAs first written) :
    ∃ start others, written = start :: others ∧ start ≠ '"' := by
  cases writes with
  | itself notQuote notBackslash => exact ⟨first, [], rfl, notQuote⟩
  | short listed => exact ⟨'\\', _, rfl, by decide⟩
  | codePoint => exact ⟨'\\', _, rfl, by decide⟩

/-- What a character is written as tells the character and where it ends. -/
theorem append_inj
    (writes : WrittenAs first written)
    (writesToo : WrittenAs second writtenToo)
    (same : written ++ rest = writtenToo ++ other) :
    first = second ∧ rest = other := by
  -- A backslash tells an escape from a character itself, and the letter behind it tells the
  -- two kinds of escapes apart.
  cases writes with
  | itself notQuote notBackslash =>
      cases writesToo with
      | itself => exact List.cons.inj same
      | short => exact absurd (List.cons.inj same).1 notBackslash
      | codePoint => exact absurd (List.cons.inj same).1 notBackslash
  | short listed =>
      cases writesToo with
      | itself _ notBackslash => exact absurd (List.cons.inj same).1.symm notBackslash
      | short listedToo =>
          obtain ⟨sameLetter, sameRest⟩ := List.cons.inj (List.cons.inj same).2
          rw [← sameLetter] at listedToo
          exact ⟨eq_of_mem_shortEscapes listed listedToo, sameRest⟩
      | codePoint =>
          exact absurd (List.cons.inj (List.cons.inj same).2).1
            (letter_ne_of_mem_shortEscapes listed)
  | codePoint =>
      cases writesToo with
      | itself _ notBackslash => exact absurd (List.cons.inj same).1.symm notBackslash
      | short listedToo =>
          exact absurd (List.cons.inj (List.cons.inj same).2).1.symm
            (letter_ne_of_mem_shortEscapes listedToo)
      | codePoint => exact codePointEscape_append_inj same

end WrittenAs

/-! ## Quoted texts -/

/-- Escaped characters that are followed by a quote tell all of them and where they end. -/
theorem flatMap_escape_append_inj
    {first second rest other : List Char}
    (same : first.flatMap escape ++ '"' :: rest = second.flatMap escape ++ '"' :: other) :
    first = second ∧ rest = other := by
  induction first generalizing second with
  | nil =>
      cases second with
      | nil => exact ⟨rfl, (List.cons.inj same).2⟩
      | cons next others =>
          obtain ⟨start, behind, written, notQuote⟩ := (writtenAs_escape next).exists_cons
          rw [List.flatMap_cons, written] at same
          exact absurd (List.cons.inj same).1.symm notQuote
  | cons character characters inductionHypothesis =>
      cases second with
      | nil =>
          obtain ⟨start, behind, written, notQuote⟩ := (writtenAs_escape character).exists_cons
          rw [List.flatMap_cons, written] at same
          exact absurd (List.cons.inj same).1 notQuote
      | cons next others =>
          rw [List.flatMap_cons, List.flatMap_cons, List.append_assoc, List.append_assoc] at same
          obtain ⟨sameCharacter, sameBehind⟩ :=
            (writtenAs_escape character).append_inj (writtenAs_escape next) same
          obtain ⟨sameOthers, sameRest⟩ := inductionHypothesis sameBehind
          exact ⟨by rw [sameCharacter, sameOthers], sameRest⟩

/-- The characters of a quoted text. -/
theorem toList_quote (text : String) :
    (quote text).toList = '"' :: text.toList.flatMap escape ++ ['"'] :=
  String.toList_ofList

/-- A quoted text tells the text and where it ends. -/
theorem quote_append_inj
    {first second : String}
    {rest other : List Char}
    (same : (quote first).toList ++ rest = (quote second).toList ++ other) :
    first = second ∧ rest = other := by
  simp only [toList_quote, List.cons_append, List.append_assoc, List.nil_append,
    List.cons.injEq, true_and] at same
  obtain ⟨sameCharacters, sameRest⟩ := flatMap_escape_append_inj same
  exact ⟨String.toList_inj.mp sameCharacters, sameRest⟩

end Text
end PostfixCalculator
