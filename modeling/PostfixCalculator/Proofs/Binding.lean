import PostfixCalculator.CommandLine.Binding
import PostfixCalculator.Proofs.LiteralGrammar
import PostfixCalculator.Proofs.Spelling

/-!
# What a binding says

A binding is a name of small letters, an equals sign and a literal. The name has no
equals sign, so the first one of the argument is the one that separates, and what is
bound is what is written on either side.

`Binding.ReadsAs` says this without reading: an argument either is so written or has a
first mistake, and each mistake is told apart by what is right before it. Every argument
reads as one thing, and that is what comes of reading it.
-/

namespace PostfixCalculator
namespace CommandLine

/-- A list is split at its first equals sign. -/
theorem splitAtEquals?_eq_some_iff {characters before behind : List Char} :
    splitAtEquals? characters = some (before, behind) ↔
      characters = before ++ '=' :: behind ∧ '=' ∉ before := by
  constructor
  · intro isSplit
    obtain ⟨taken, kept, rfl, unequal, stops⟩ := Cut.exists_cut characters (· != '=')
    obtain ⟨takenEq, keptEq⟩ := Cut.takeWhile_dropWhile_append unequal stops
    rw [splitAtEquals?, takenEq, keptEq] at isSplit
    cases kept with
    | nil => cases isSplit
    | cons first rest =>
        cases isSplit
        have isEquals : first = '=' := by simpa using stops first rfl
        rw [isEquals]
        exact ⟨rfl, fun present => by simpa using unequal _ present⟩
  · rintro ⟨rfl, absent⟩
    have unequal : ∀ character ∈ before, (character != '=') = true := by
      intro character present
      rw [bne_iff_ne]
      exact ne_of_mem_of_not_mem present absent
    have stops : ∀ first ∈ ('=' :: behind).head?, (first != '=') = false := by simp
    obtain ⟨takenEq, keptEq⟩ := Cut.takeWhile_dropWhile_append unequal stops
    rw [splitAtEquals?, takenEq, keptEq]

/-- The names that can be bound are the runs of small letters. -/
theorem isVariableName_iff {name : String} :
    isVariableName name.toList = true ↔ RunKind.letters.IsRun name := by
  simp [isVariableName, RunKind.IsRun, RunKind.contains]

/-- There is no equals sign in a run of small letters. -/
theorem separator_notMem_of_isRun {name : String} (isRun : RunKind.letters.IsRun name) :
    '=' ∉ name.toList := by
  intro present
  exact absurd (isRun.2 _ present) (by decide)

/-- An argument is read as a binding exactly if it is a name of small letters, an
equals sign and a literal. -/
theorem Binding.ofArgument_eq_ok_iff {argument : String} {binding : Binding} :
    ofArgument argument = .ok binding ↔
      ∃ literal, argument = binding.name ++ "=" ++ literal ∧
        RunKind.letters.IsRun binding.name ∧ Decimal.read literal = .ok binding.value := by
  constructor
  · intro accepted
    unfold ofArgument at accepted
    split at accepted
    · cases accepted
    next before behind isSplit =>
    obtain ⟨whole, absent⟩ := splitAtEquals?_eq_some_iff.mp isSplit
    split at accepted
    · next isName =>
      split at accepted
      · next number isNumber =>
        cases accepted
        refine ⟨String.ofList behind, ?_, ?_, isNumber⟩
        · rw [← String.toList_inj, whole]
          simp
        · rw [← isVariableName_iff, String.toList_ofList]
          exact isName
      · cases accepted
    · cases accepted
  · rintro ⟨literal, rfl, isRun, isNumber⟩
    have isSplit : splitAtEquals? (binding.name ++ "=" ++ literal).toList =
        some (binding.name.toList, literal.toList) := by
      refine splitAtEquals?_eq_some_iff.mpr ⟨by simp, separator_notMem_of_isRun isRun⟩
    unfold ofArgument
    rw [isSplit]
    simp [isVariableName_iff.mpr isRun, isNumber]

/-- What an argument reads as: a binding, or its first mistake. -/
inductive Binding.ReadsAs (argument : String) : Except BindingFault Binding -> Prop
  | missingSeparator
      (absent : '=' ∉ argument.toList) :
      ReadsAs argument (.error (.missingSeparator argument))
  | badName {name text : String}
      (split : argument = name ++ "=" ++ text)
      (isFirst : '=' ∉ name.toList)
      (notName : ¬RunKind.letters.IsRun name) :
      ReadsAs argument (.error (.badName name))
  | emptyValue {name : String}
      (split : argument = name ++ "=")
      (isName : RunKind.letters.IsRun name) :
      ReadsAs argument (.error (.badValue name .empty))
  | malformedValue {name text : String}
      (split : argument = name ++ "=" ++ text)
      (isName : RunKind.letters.IsRun name)
      (nonempty : text ≠ "")
      (notWritten : ∀ literal : Decimal.Literal, ¬literal.IsWritten text.toList) :
      ReadsAs argument (.error (.badValue name .malformed))
  | binding {name text : String} {literal : Decimal.Literal} {value : Float}
      (split : argument = name ++ "=" ++ text)
      (isName : RunKind.letters.IsRun name)
      (isWritten : literal.IsWritten text.toList)
      (denotes : literal.Denotes value) :
      ReadsAs argument (.ok ⟨name, value⟩)

/-- A list without an equals sign is not split. -/
theorem splitAtEquals?_eq_none_of_notMem
    {characters : List Char}
    (absent : '=' ∉ characters) :
    splitAtEquals? characters = none := by
  cases found : splitAtEquals? characters with
  | none => rfl
  | some parts =>
      obtain ⟨rfl, -⟩ := splitAtEquals?_eq_some_iff.mp found
      exact absurd (List.mem_append_right parts.1 List.mem_cons_self) absent

namespace Binding

variable {argument name text : String} {outcome : Except BindingFault Binding}

/-- An argument without an equals sign is told as it is. -/
theorem ofArgument_of_notMem (absent : '=' ∉ argument.toList) :
    ofArgument argument = .error (.missingSeparator argument) := by
  rw [ofArgument, splitAtEquals?_eq_none_of_notMem absent]

/-- What stands before the first equals sign is told if it is no name. -/
theorem ofArgument_of_not_isRun
    (split : argument = name ++ "=" ++ text)
    (isFirst : '=' ∉ name.toList)
    (notName : ¬RunKind.letters.IsRun name) :
    ofArgument argument = .error (.badName name) := by
  have isSplit : splitAtEquals? argument.toList = some (name.toList, text.toList) :=
    splitAtEquals?_eq_some_iff.mpr ⟨by simp [split], isFirst⟩
  rw [ofArgument, isSplit]
  simp [mt isVariableName_iff.mp notName]

/-- What stands behind the equals sign is told if it is no literal. -/
theorem ofArgument_of_read_eq_error
    {fault : Decimal.LiteralFault}
    (split : argument = name ++ "=" ++ text)
    (isName : RunKind.letters.IsRun name)
    (refused : Decimal.read text = .error fault) :
    ofArgument argument = .error (.badValue name fault) := by
  have isSplit : splitAtEquals? argument.toList = some (name.toList, text.toList) :=
    splitAtEquals?_eq_some_iff.mpr ⟨by simp [split], separator_notMem_of_isRun isName⟩
  rw [ofArgument, isSplit]
  simp [isVariableName_iff.mpr isName, refused]

/-- What an argument reads as comes of reading it. -/
theorem ReadsAs.ofArgument_eq (readsAs : ReadsAs argument outcome) :
    ofArgument argument = outcome := by
  cases readsAs with
  | missingSeparator absent => exact ofArgument_of_notMem absent
  | badName split isFirst notName => exact ofArgument_of_not_isRun split isFirst notName
  | emptyValue split isName =>
      have refused := Decimal.read_eq_error_iff.mpr (Decimal.Literal.ofText_eq_empty_iff.mpr rfl)
      exact ofArgument_of_read_eq_error (by simpa using split) isName refused
  | malformedValue split isName nonempty notWritten =>
      have refused := Decimal.read_eq_error_iff.mpr
        (Decimal.Literal.ofText_eq_malformed_iff.mpr ⟨nonempty, notWritten⟩)
      exact ofArgument_of_read_eq_error split isName refused
  | binding split isName isWritten denotes =>
      have accepted := Decimal.read_eq_ok_iff.mpr ⟨_, isWritten, denotes⟩
      exact ofArgument_eq_ok_iff.mpr ⟨_, split, isName, accepted⟩

/-- An argument with an equals sign is parted by the first one. -/
theorem exists_split_of_mem (present : '=' ∈ argument.toList) :
    ∃ name text : String, argument = name ++ "=" ++ text ∧ '=' ∉ name.toList := by
  obtain ⟨before, behind, whole, absent⟩ := List.eq_append_cons_of_mem present
  refine ⟨String.ofList before, String.ofList behind, ?_, by simpa using absent⟩
  rw [← String.toList_inj, whole]
  simp

/-- Every argument reads as something. -/
theorem exists_readsAs (argument : String) : ∃ outcome, ReadsAs argument outcome := by
  by_cases present : '=' ∈ argument.toList
  · obtain ⟨name, text, split, isFirst⟩ := exists_split_of_mem present
    by_cases isName : RunKind.letters.IsRun name
    · by_cases nonempty : text = ""
      · subst nonempty
        exact ⟨_, .emptyValue (by simpa using split) isName⟩
      · by_cases isLiteral : ∃ literal : Decimal.Literal, literal.IsWritten text.toList
        · obtain ⟨literal, isWritten⟩ := isLiteral
          exact ⟨_, .binding split isName isWritten (Decimal.Literal.denotes_iff.mpr rfl)⟩
        · exact ⟨_, .malformedValue split isName nonempty (not_exists.mp isLiteral)⟩
    · exact ⟨_, .badName split isFirst isName⟩
  · exact ⟨_, .missingSeparator present⟩

/-- An argument that reads as a binding has one equals sign and no blank. -/
theorem ReadsAs.only_separator {binding : Binding} (readsAs : ReadsAs argument (.ok binding)) :
    argument.toList.count '=' = 1 ∧ ' ' ∉ argument.toList := by
  cases readsAs with
  | @binding name text literal value split isName isWritten denotes =>
      have inName : '=' ∉ name.toList ∧ ' ' ∉ name.toList :=
        ⟨mt (isName.2 '=') (by decide), mt (isName.2 ' ') (by decide)⟩
      have inText : '=' ∉ text.toList ∧ ' ' ∉ text.toList :=
        ⟨mt (isWritten.isLiteralCharacter '=') (by decide),
          mt (isWritten.isLiteralCharacter ' ') (by decide)⟩
      rw [split]
      simp [List.count_eq_zero.mpr inName.1, List.count_eq_zero.mpr inText.1, inName.2, inText.2]

/-- Reading an argument yields what the argument reads as and nothing else. An argument
that is read as a binding has no second equals sign and no blank. -/
theorem ofArgument_eq_iff_readsAs (argument : String) :
    (∀ outcome, ofArgument argument = outcome ↔ ReadsAs argument outcome) ∧
      ∀ binding, ofArgument argument = .ok binding ->
        argument.toList.count '=' = 1 ∧ ' ' ∉ argument.toList := by
  have agree : ∀ outcome, ofArgument argument = outcome ↔ ReadsAs argument outcome := by
    intro outcome
    constructor
    · rintro rfl
      obtain ⟨outcome, readsAs⟩ := exists_readsAs argument
      rwa [readsAs.ofArgument_eq]
    · exact ReadsAs.ofArgument_eq
  exact ⟨agree, fun binding accepted => ((agree _).mp accepted).only_separator⟩

/-- A number with a sign, a point and an exponent is bound. -/
theorem ofArgument_eq_iff_readsAs_signedNumber :
    ofArgument "rate=-1.5e3" = .ok ⟨"rate", -Float.ofScientific 15 false 2⟩ ∧
      "rate=-1.5e3".toList.count '=' = 1 ∧ ' ' ∉ "rate=-1.5e3".toList := by
  have isWritten := Decimal.Literal.ofText_eq_ok_iff.mp
    (show Decimal.Literal.ofText "-1.5e3" = .ok ⟨true, .number "15".toList 2⟩ by decide)
  have readsAs : ReadsAs "rate=-1.5e3" (.ok ⟨"rate", -Float.ofScientific 15 false 2⟩) :=
    .binding rfl (by decide) isWritten ⟨_, .number, rfl⟩
  obtain ⟨agree, onlySeparator⟩ := ofArgument_eq_iff_readsAs "rate=-1.5e3"
  have accepted := (agree _).mpr readsAs
  exact ⟨accepted, onlySeparator _ accepted⟩

end Binding

end CommandLine
end PostfixCalculator
