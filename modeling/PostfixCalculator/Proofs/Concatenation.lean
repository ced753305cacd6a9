import PostfixCalculator.Proofs.TokenPlaces

/-!
# Tokens of texts that are put together

Two texts are put one after the other. If no run goes on from the one to the other, the
tokens are those of the one and then those of the other, because every reading of the
whole is a reading of the two parts. If a run goes on, the last token of the one and the
first of the other are its two pieces, and in the whole they are a single operand. So the
tokens are those of the two parts exactly if no run goes on.
-/

namespace PostfixCalculator
namespace Token

variable {first second before behind : List Char} {kind : RunKind}

/-- A run goes on from some characters to those after them: the last of the ones and the
first of the others are of one kind. -/
def RunGoesOn (first second : List Char) : Prop :=
  ∃ kind : RunKind, (∃ last ∈ first.getLast?, kind.contains last = true) ∧
    ∃ next ∈ second.head?, kind.contains next = true

/-- Characters are apart exactly if no run goes on from the ones to the others. -/
theorem apart_iff_not_runGoesOn : Apart first second ↔ ¬RunGoesOn first second := by
  constructor
  · rintro apart ⟨kind, ⟨last, isLast, lastContained⟩, next, isNext, nextContained⟩
    rw [apart last isLast next isNext kind lastContained] at nextContained
    contradiction
  · intro endsHere last isLast next isNext kind lastContained
    rw [Bool.eq_false_iff]
    intro nextContained
    exact endsHere ⟨kind, ⟨last, isLast, lastContained⟩, next, isNext, nextContained⟩

/-- Where no run goes on, the tokens are those of the two parts. -/
theorem ofCharacters_append_of_apart (apart : Apart first second) :
    ofCharacters (first ++ second) = ofCharacters first ++ ofCharacters second := by
  obtain ⟨places, reading, tokens⟩ := exists_isReading first
  obtain ⟨others, otherReading, otherTokens⟩ := exists_isReading second
  obtain ⟨whole, wholeReading, wholeTokens⟩ := exists_isReading (first ++ second)
  -- The characters have only one reading, so it is the one that the parts make up.
  have wholeEq := wholeReading.unique (reading.append otherReading apart)
  rw [← wholeTokens, wholeEq, List.map_append, List.map_map, tokens, ← otherTokens]
  rfl

/-- A run that goes on to neither side is an operand between the tokens before it and
those behind it. -/
theorem ofCharacters_append_run_append
    {lexeme : String}
    (starts : ∀ last ∈ before.getLast?, kind.contains last = false)
    (isRun : kind.IsRun lexeme)
    (stops : ∀ next ∈ behind.head?, kind.contains next = false) :
    ofCharacters (before ++ (lexeme.toList ++ behind)) =
      ofCharacters before ++ .operand lexeme :: ofCharacters behind := by
  have apart : Apart before (lexeme.toList ++ behind) := by
    rw [apart_iff_not_runGoesOn]
    rintro ⟨other, ⟨last, isLast, lastContained⟩, next, isNext, nextContained⟩
    obtain ⟨found, present, isFound⟩ := Cut.exists_head?_append isRun.1 behind
    cases isNext.symm.trans isFound
    rw [RunKind.eq_of_contains nextContained (isRun.2 next present), starts last isLast]
      at lastContained
    contradiction
  rw [ofCharacters_append_of_apart apart, ofCharacters_run_append isRun stops]

/-- A run that goes on is made up of two runs, one at the end of the first part and one at
the start of the second. -/
theorem RunGoesOn.exists_runs (goesOn : RunGoesOn first second) :
    ∃ (kind : RunKind) (before behind : List Char) (left right : String),
      first = before ++ left.toList ∧ second = right.toList ++ behind ∧
      kind.IsRun left ∧ kind.IsRun right ∧
      (∀ last ∈ before.getLast?, kind.contains last = false) ∧
      ∀ next ∈ behind.head?, kind.contains next = false := by
  obtain ⟨kind, ⟨last, isLast, lastContained⟩, next, isNext, nextContained⟩ := goesOn
  obtain ⟨before, left, rfl, leftContained, starts⟩ :=
    Cut.exists_cut_before_end first kind.contains
  obtain ⟨right, behind, rfl, rightContained, stops⟩ := Cut.exists_cut second kind.contains
  refine ⟨kind, before, behind, String.ofList left, String.ofList right, by simp, by simp,
    ⟨?_, by simpa using leftContained⟩, ⟨?_, by simpa using rightContained⟩, starts, stops⟩
  · rw [String.toList_ofList]
    rintro rfl
    rw [List.append_nil] at isLast
    rw [starts last isLast] at lastContained
    contradiction
  · rw [String.toList_ofList]
    rintro rfl
    rw [stops next isNext] at nextContained
    contradiction

/-- Where a run goes on, the tokens at its two sides are merged into one operand. -/
theorem RunGoesOn.exists_merged (goesOn : RunGoesOn first second) :
    ∃ (others : List Token) (left right : String) (more : List Token),
      ofCharacters first = others ++ [.operand left] ∧
      ofCharacters second = .operand right :: more ∧
      ofCharacters (first ++ second) = others ++ .operand (left ++ right) :: more := by
  obtain ⟨kind, before, behind, left, right, rfl, rfl, leftRun, rightRun, starts, stops⟩ :=
    goesOn.exists_runs
  refine ⟨ofCharacters before, left, right, ofCharacters behind, ?_, ?_, ?_⟩
  · have ends : ofCharacters (before ++ (left.toList ++ [])) =
        ofCharacters before ++ .operand left :: ofCharacters [] :=
      ofCharacters_append_run_append starts leftRun nofun
    rwa [List.append_nil, ofCharacters] at ends
  · exact ofCharacters_run_append rightRun stops
  · rw [← ofCharacters_append_run_append starts (leftRun.append rightRun) stops,
      String.toList_append, List.append_assoc, List.append_assoc]

/-- The tokens of two texts in a row are those of the one and then those of the other
exactly if no run of digits or of small letters goes on from the one to the other. If a
run goes on, the last token of the one and the first of the other are operands, and they
are merged into a single operand that has the lexeme of the one and then that of the
other. -/
theorem ofText_append_iff (first second : String) :
    (ofText (first ++ second) = ofText first ++ ofText second ↔
      ¬RunGoesOn first.toList second.toList) ∧
    (RunGoesOn first.toList second.toList ->
      ∃ (others : List Token) (left right : String) (more : List Token),
        ofText first = others ++ [.operand left] ∧
        ofText second = .operand right :: more ∧
        ofText (first ++ second) = others ++ .operand (left ++ right) :: more) := by
  simp only [ofText_eq_ofCharacters, String.toList_append]
  refine ⟨⟨?_, ?_⟩, RunGoesOn.exists_merged⟩
  · intro same goesOn
    obtain ⟨others, left, right, more, ofFirst, ofSecond, ofWhole⟩ := goesOn.exists_merged
    -- Merging makes one token out of two.
    have lengths := congrArg List.length (ofWhole.symm.trans same)
    rw [ofFirst, ofSecond] at lengths
    simp at lengths
  · intro endsHere
    exact ofCharacters_append_of_apart (apart_iff_not_runGoesOn.mpr endsHere)

/-- The number `12` that is split between `x+1` and `2y` is one operand of the whole. -/
theorem ofText_append_iff_splitNumber :
    RunGoesOn "x+1".toList "2y".toList ∧
      ofText "x+1" = [.operand "x", .operator (.binary .add), .operand "1"] ∧
      ofText "2y" = [.operand "2", .operand "y"] ∧
      ofText ("x+1" ++ "2y") =
        [.operand "x", .operator (.binary .add), .operand "12", .operand "y"] := by
  have goesOn : RunGoesOn "x+1".toList "2y".toList :=
    ⟨.digits, ⟨'1', by decide, rfl⟩, '2', by decide, rfl⟩
  have firstRead : ofText "x+1" = [.operand "x", .operator (.binary .add), .operand "1"] := by
    decide +kernel
  have secondRead : ofText "2y" = [.operand "2", .operand "y"] := by
    decide +kernel
  obtain ⟨-, merges⟩ := ofText_append_iff "x+1" "2y"
  obtain ⟨others, left, right, more, ofFirst, ofSecond, ofWhole⟩ := merges goesOn
  have ofFirstEnd : [.operand "x", .operator (.binary .add)] ++ [.operand "1"] =
      others ++ [.operand left] :=
    firstRead.symm.trans ofFirst
  obtain ⟨rfl, leftEq⟩ := List.append_inj' ofFirstEnd rfl
  cases leftEq
  cases secondRead.symm.trans ofSecond
  exact ⟨goesOn, firstRead, secondRead, ofWhole⟩

end Token
end PostfixCalculator
