import PostfixCalculator.Proofs.Nesting

/-!
# When a conversion releases its tokens

This module says which token is put out when, in terms of the input alone. An
operand is released where it stands. A binary operator waits until it is freed:
by the closing parenthesis of the group it stands in, or by a binary operator of
the same group that binds no stronger. What is never freed, and an opening
parenthesis that is never closed, is released at the end of the input. Other
parentheses are not released.

A schedule lists all releases by time, and those at the same time by falling
index. It is determined by the input.
-/

namespace PostfixCalculator
namespace Schedule

open Token

/-- The closing parenthesis at a position is the partner of the opening one at
an index. -/
def Closes (tokens : List Token) (index position : Nat) : Prop :=
  tokens[position]? = some (.operator .closing) ∧ Encloses tokens index position

/-- The token at a position frees the binary operator at an earlier index: it
closes the group that the operator stands in, or it is a binary operator directly
inside the same group that binds no stronger. -/
def Frees (tokens : List Token) (index position : Nat) : Prop :=
  index < position ∧
    ∃ operator, tokens[index]? = some (.operator (.binary operator)) ∧
      ((∃ opening, Encloses tokens opening index ∧ Closes tokens opening position) ∨
        ∃ next, tokens[position]? = some (.operator (.binary next)) ∧
          next.rank ≤ operator.rank ∧
          ∀ opening, Encloses tokens opening index ↔ Encloses tokens opening position)

/-- The time at which the token at an index is released. -/
inductive ReleaseTime (tokens : List Token) (index : Nat) : Nat -> Prop
  | operand {lexeme : String}
      (found : tokens[index]? = some (.operand lexeme)) :
      ReleaseTime tokens index index
  | freed {position : Nat}
      (frees : Frees tokens index position)
      (isFirst : ∀ earlier < position, ¬Frees tokens index earlier) :
      ReleaseTime tokens index position
  | neverFreed {operator : BinaryOperator}
      (found : tokens[index]? = some (.operator (.binary operator)))
      (never : ∀ position, ¬Frees tokens index position) :
      ReleaseTime tokens index tokens.length
  | neverClosed
      (found : tokens[index]? = some (.operator .opening))
      (never : ∀ position, ¬Closes tokens index position) :
      ReleaseTime tokens index tokens.length

/-- The release of the token at an index. -/
structure Release where
  time : Nat
  index : Nat
  deriving DecidableEq, Repr

/-- Releases come by time, and at the same time by falling index. -/
def Release.Precedes (first second : Release) : Prop :=
  first.time < second.time ∨ first.time = second.time ∧ second.index < first.index

/-- A list of releases holds exactly those of some tokens, in their order. -/
structure IsSchedule (tokens : List Token) (releases : List Release) : Prop where
  complete : ∀ release, release ∈ releases ↔
    ReleaseTime tokens release.index release.time
  ordered : releases.Pairwise Release.Precedes

/-- The tokens released, in the order of their releases. -/
def released (tokens : List Token) (releases : List Release) : List Token :=
  releases.filterMap fun release => tokens[release.index]?

/-- Tokens have at most one schedule. -/
theorem IsSchedule.unique
    {tokens : List Token}
    {first second : List Release}
    (firstSchedule : IsSchedule tokens first)
    (secondSchedule : IsSchedule tokens second) :
    first = second := by
  have distinct : ∀ {releases : List Release},
      releases.Pairwise Release.Precedes -> releases.Nodup := by
    intro releases ordered
    refine ordered.imp ?_
    rintro earlier later (lt | ⟨-, lt⟩) rfl <;> omega
  have perm : first.Perm second := by
    rw [List.perm_ext_iff_of_nodup (distinct firstSchedule.ordered)
      (distinct secondSchedule.ordered)]
    intro release
    rw [firstSchedule.complete, secondSchedule.complete]
  refine List.Perm.eq_of_pairwise ?_ firstSchedule.ordered secondSchedule.ordered perm
  rintro left right - - (lt | ⟨eq, lt⟩) (gt | ⟨eq', gt⟩) <;> omega

/-! ## Waiting -/

/-- What ends the wait of an operator: a binary operator is freed, an opening
parenthesis is closed. -/
def Leaves (tokens : List Token) (index position : Nat) : Prop :=
  Frees tokens index position ∨ Closes tokens index position

/-- An index holds a binary operator or an opening parenthesis whose wait has not
ended before a position. -/
def Waits (tokens : List Token) (position index : Nat) : Prop :=
  index < position ∧
    (∃ operator, tokens[index]? = some (.operator operator) ∧ operator ≠ .closing) ∧
    ∀ earlier < position, ¬Leaves tokens index earlier

/-- A closing parenthesis frees the binary operators of its group. -/
theorem frees_iff_of_closing
    {tokens : List Token}
    {index position : Nat}
    (found : tokens[position]? = some (.operator .closing)) :
    Frees tokens index position ↔
      index < position ∧
        (∃ operator, tokens[index]? = some (.operator (.binary operator))) ∧
        ∃ opening, Encloses tokens opening index ∧ Encloses tokens opening position := by
  constructor
  · rintro ⟨before, operator, isBinary, ⟨opening, around, -, closes⟩ | ⟨next, isNext, -⟩⟩
    · exact ⟨before, ⟨operator, isBinary⟩, opening, around, closes⟩
    · simp [found] at isNext
  · rintro ⟨before, ⟨operator, isBinary⟩, opening, around, closes⟩
    exact ⟨before, operator, isBinary, Or.inl ⟨opening, around, found, closes⟩⟩

/-- A binary operator frees those of its group that bind at least as strongly. -/
theorem frees_iff_of_binary
    {tokens : List Token}
    {index position : Nat}
    {next : BinaryOperator}
    (found : tokens[position]? = some (.operator (.binary next))) :
    Frees tokens index position ↔
      index < position ∧
        ∃ operator, tokens[index]? = some (.operator (.binary operator)) ∧
          next.rank ≤ operator.rank ∧
          ∀ opening, Encloses tokens opening index ↔ Encloses tokens opening position := by
  constructor
  · rintro ⟨before, operator, isBinary, ⟨opening, -, closing, -⟩ |
      ⟨other, isOther, binds, sameGroup⟩⟩
    · simp [found] at closing
    · obtain rfl : next = other := by simpa [found] using isOther
      exact ⟨before, operator, isBinary, binds, sameGroup⟩
  · rintro ⟨before, operator, isBinary, binds, sameGroup⟩
    exact ⟨before, operator, isBinary, Or.inr ⟨next, found, binds, sameGroup⟩⟩

/-- Only a closing parenthesis or a binary operator ends a wait. -/
theorem not_leaves_of_other
    {tokens : List Token}
    {position : Nat}
    (notClosing : tokens[position]? ≠ some (.operator .closing))
    (notBinary : ∀ next, tokens[position]? ≠ some (.operator (.binary next)))
    (index : Nat) :
    ¬Leaves tokens index position := by
  rintro (⟨-, -, -, ⟨-, -, closing, -⟩ | ⟨next, found, -⟩⟩ | ⟨closing, -⟩)
  · exact notClosing closing
  · exact notBinary next found
  · exact notClosing closing

/-- What waits and is no parenthesis is a binary operator. -/
theorem Waits.exists_binary
    {tokens : List Token}
    {position index : Nat}
    (waits : Waits tokens position index)
    (notOpening : tokens[index]? ≠ some (.operator .opening)) :
    ∃ operator, tokens[index]? = some (.operator (.binary operator)) := by
  obtain ⟨-, ⟨operator, found, notClosing⟩, -⟩ := waits
  cases operator with
  | opening => exact absurd found notOpening
  | closing => contradiction
  | binary operator => exact ⟨operator, found⟩

/-- A wait ends at a later token. -/
theorem Leaves.lt
    {tokens : List Token}
    {index position : Nat}
    (leaves : Leaves tokens index position) :
    index < position ∧ position < tokens.length := by
  rcases leaves with ⟨before, operator, -, ⟨opening, -, closing, -⟩ | ⟨next, found, -⟩⟩ |
    ⟨closing, before, -⟩
  · exact ⟨before, (List.getElem?_eq_some_iff.mp closing).1⟩
  · exact ⟨before, (List.getElem?_eq_some_iff.mp found).1⟩
  · exact ⟨before, (List.getElem?_eq_some_iff.mp closing).1⟩

/-- Waiting goes on over a position unless it ends there, and begins there if the
token is a binary operator or an opening parenthesis. -/
theorem waits_succ_iff
    {tokens : List Token}
    {position index : Nat} :
    Waits tokens (position + 1) index ↔
      Waits tokens position index ∧ ¬Leaves tokens index position ∨
      index = position ∧
        ∃ operator, tokens[position]? = some (.operator operator) ∧ operator ≠ .closing := by
  constructor
  · rintro ⟨before, found, stays⟩
    rcases Nat.lt_succ_iff_lt_or_eq.mp before with earlier | rfl
    · exact Or.inl ⟨⟨earlier, found, fun other lt => stays other (Nat.lt_succ_of_lt lt)⟩,
        stays position (Nat.lt_succ_self position)⟩
    · exact Or.inr ⟨rfl, found⟩
  · rintro (⟨⟨before, found, stays⟩, remains⟩ | ⟨rfl, found⟩)
    · refine ⟨Nat.lt_succ_of_lt before, found, ?_⟩
      intro other lt
      rcases Nat.lt_succ_iff_lt_or_eq.mp lt with earlier | rfl
      · exact stays other earlier
      · exact remains
    · refine ⟨Nat.lt_succ_self index, found, ?_⟩
      intro other lt leaves
      have := leaves.lt
      omega

/-- A binary operator does not leave as a parenthesis. -/
theorem not_closes_of_binary
    {tokens : List Token}
    {index : Nat}
    {operator : BinaryOperator}
    (found : tokens[index]? = some (.operator (.binary operator)))
    (position : Nat) :
    ¬Closes tokens index position := by
  rintro ⟨-, -, opens, -⟩
  rw [opens] at found
  simp at found

/-- An opening parenthesis does not leave as a binary operator. -/
theorem not_frees_of_opening
    {tokens : List Token}
    {index : Nat}
    (found : tokens[index]? = some (.operator .opening))
    (position : Nat) :
    ¬Frees tokens index position := by
  rintro ⟨-, operator, isBinary, -⟩
  rw [isBinary] at found
  simp at found

/-- What is released at a position inside the input is the operand there, or
waits and is freed there. -/
theorem releaseTime_iff_of_lt
    {tokens : List Token}
    {index position : Nat}
    (inside : position < tokens.length) :
    ReleaseTime tokens index position ↔
      (index = position ∧ ∃ lexeme, tokens[position]? = some (.operand lexeme)) ∨
      Waits tokens position index ∧ Frees tokens index position := by
  constructor
  · intro release
    cases release with
    | operand found => exact Or.inl ⟨rfl, _, found⟩
    | freed frees isFirst =>
        obtain ⟨before, operator, found, meets⟩ := frees
        refine Or.inr ⟨⟨before, ⟨_, found, by simp⟩, ?_⟩, before, operator, found, meets⟩
        rintro earlier lt (isFreed | closed)
        · exact isFirst earlier lt isFreed
        · exact not_closes_of_binary found earlier closed
    | neverFreed found never => omega
    | neverClosed found never => omega
  · rintro (⟨rfl, lexeme, found⟩ | ⟨⟨-, -, stays⟩, frees⟩)
    · exact .operand found
    · exact .freed frees fun earlier lt isFreed => stays earlier lt (Or.inl isFreed)

/-- Released at the end of the input is what still waits there. -/
theorem releaseTime_length_iff
    {tokens : List Token}
    {index : Nat} :
    ReleaseTime tokens index tokens.length ↔ Waits tokens tokens.length index := by
  constructor
  · intro release
    generalize time_eq : tokens.length = time at release
    cases release with
    | operand found =>
        have bound := (List.getElem?_eq_some_iff.mp found).1
        omega
    | freed frees isFirst =>
        have bound := (Leaves.lt (Or.inl frees)).2
        omega
    | neverFreed found never =>
        refine ⟨(List.getElem?_eq_some_iff.mp found).1, ⟨_, found, by simp⟩, ?_⟩
        rintro earlier - (isFreed | closed)
        · exact never earlier isFreed
        · exact not_closes_of_binary found earlier closed
    | neverClosed found never =>
        refine ⟨(List.getElem?_eq_some_iff.mp found).1, ⟨_, found, by simp⟩, ?_⟩
        rintro earlier - (isFreed | closed)
        · exact not_frees_of_opening found earlier isFreed
        · exact never earlier closed
  · rintro ⟨-, ⟨operator, found, notClosing⟩, stays⟩
    have never : ∀ position, ¬Leaves tokens index position :=
      fun position leaves => stays position leaves.lt.2 leaves
    cases operator with
    | opening => exact .neverClosed found fun position closed => never position (Or.inr closed)
    | closing => contradiction
    | binary operator =>
        exact .neverFreed found fun position isFreed => never position (Or.inl isFreed)

/-- Nothing is released after the end of the input. -/
theorem ReleaseTime.le_length
    {tokens : List Token}
    {index time : Nat}
    (release : ReleaseTime tokens index time) :
    time ≤ tokens.length := by
  cases release with
  | operand found => exact Nat.le_of_lt (List.getElem?_eq_some_iff.mp found).1
  | freed frees => exact Nat.le_of_lt (Leaves.lt (Or.inl frees)).2
  | neverFreed => exact Nat.le_refl _
  | neverClosed => exact Nat.le_refl _

end Schedule
end PostfixCalculator
