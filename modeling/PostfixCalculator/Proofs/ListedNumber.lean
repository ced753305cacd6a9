import PostfixCalculator.Proofs.Listing
import PostfixCalculator.Proofs.WrittenNumber

/-!
# Numbers in listings

A number in a listing is a word without commas and brackets. So where a listing shows
numbers, each of them is an entry of its own.
-/

namespace PostfixCalculator
namespace Stack

/-- All characters of a text neither separate entries of a listing nor end it. -/
def IsInnerText (text : String) : Prop :=
  ∀ character ∈ text.toList, isInner character = true

/-- A text is an entry of a listing: a word without commas and brackets. -/
def IsEntry (entry : String) : Prop :=
  entry ≠ "" ∧ IsInnerText entry

instance (text : String) : Decidable (IsInnerText text) :=
  List.decidableBAll (fun character => isInner character = true) text.toList

instance (entry : String) : Decidable (IsEntry entry) :=
  inferInstanceAs (Decidable (_ ∧ _))

/-- Texts put together have the characters of both. -/
theorem isInnerText_append {first second : String} :
    IsInnerText (first ++ second) ↔ IsInnerText first ∧ IsInnerText second := by
  rw [IsInnerText, String.toList_append]
  exact List.forall_mem_append

/-- Digits neither separate entries nor end a listing. -/
theorem isInnerText_of_allDigits {digits : List Char} (allDigits : Decimal.AllDigits digits) :
    IsInnerText (String.ofList digits) := by
  intro character present
  rw [String.toList_ofList] at present
  exact isInner_of_isAlphanum (by rw [Char.isAlphanum, allDigits character present, Bool.or_true])

end Stack

namespace Decimal

open Stack

variable {ending text : String} {value : ℚ}

/-- A number with all its places is an entry if what follows a whole number is. -/
theorem IsPlaced.isEntry (innerEnding : IsInnerText ending) (isPlaced : IsPlaced ending value text) :
    IsEntry text := by
  obtain @⟨whole, fraction, isWhole, isFraction, -⟩ := isPlaced
  constructor
  · rw [ne_eq, String.append_eq_empty_iff, not_and_or, String.ofList_eq_empty_iff]
    exact Or.inl isWhole.nonempty
  · refine isInnerText_append.mpr ⟨isInnerText_of_allDigits isWhole.allDigits, ?_⟩
    rw [fractionText]
    split
    · exact innerEnding
    · exact isInnerText_append.mpr ⟨by decide, isInnerText_of_allDigits isFraction.allDigits⟩

/-- A number with a power of ten is an entry. -/
theorem IsScientific.isEntry (isScientific : IsScientific value text) : IsEntry text := by
  obtain ⟨written, -, -, -⟩ := isScientific
  obtain ⟨nonempty, inner⟩ := written.isEntry (by decide)
  constructor
  · simp [nonempty]
  · refine isInnerText_append.mpr ⟨isInnerText_append.mpr ⟨inner, by decide⟩, ?_⟩
    exact fun character => isInner_of_mem_toString

/-- A sign in front leaves an entry. -/
theorem isEntry_signText_append (sign : Float.Model.UnpackedFloat.Sign) (isEntry : IsEntry text) :
    IsEntry (signText sign ++ text) := by
  obtain ⟨nonempty, inner⟩ := isEntry
  refine ⟨by simp [nonempty], isInnerText_append.mpr ⟨?_, inner⟩⟩
  cases sign <;> decide

/-- The text of a number is an entry. -/
theorem IsTextOf.isEntry
    {inPlaces : ℚ -> Prop}
    {form : Float.Model.UnpackedFloat}
    (innerEnding : IsInnerText ending)
    (isText : IsTextOf ending inPlaces form text) :
    IsEntry text := by
  cases form with
  | notANumber =>
      rw [show text = "NaN" from isText]
      decide
  | infinity sign =>
      rw [show text = signText sign ++ "inf" from isText]
      exact isEntry_signText_append sign (by decide)
  | zero sign =>
      rw [show text = signText sign ++ ("0" ++ ending) from isText]
      exact isEntry_signText_append sign
        ⟨by simp, isInnerText_append.mpr ⟨by decide, innerEnding⟩⟩
  | finite sign significand exponent positive =>
      obtain ⟨decimal, digits, -, ⟨placed, scientific⟩, rfl⟩ := isText
      apply isEntry_signText_append
      by_cases inside : inPlaces decimal.value
      · exact (placed inside).isEntry innerEnding
      · exact (scientific inside).isEntry

end Decimal

/-- A listed number is an entry of its listing. -/
theorem Number.IsListed.isEntry {number : Number} {text : String} (isListed : number.IsListed text) :
    Stack.IsEntry text := by
  cases number with
  | ordinary value => exact Decimal.IsTextOf.isEntry (by decide) isListed
  | signaling =>
      rw [show text = "NaN" from isListed]
      decide

end PostfixCalculator
