import PostfixCalculator.Token

/-!
# Nesting of parentheses

Tokens are balanced if their parentheses pair up. The innermost parenthesis
around a position is the opening one that is followed, up to the position, by
balanced tokens: those are the tokens directly inside its group and whole groups
among them. A closing parenthesis at the position is its partner.

The lemmas say how the innermost parenthesis changes when the position moves
over one token. Only parentheses change it: an opening one becomes the innermost
itself, and a closing one gives way to whatever is around its partner.
-/

namespace PostfixCalculator
namespace Token

/-- The parentheses among some tokens pair up. -/
inductive Balanced : List Token -> Prop
  | nil : Balanced []
  | plain {tokens : List Token} {token : Token}
      (balanced : Balanced tokens)
      (notOpening : token ≠ .operator .opening)
      (notClosing : token ≠ .operator .closing) :
      Balanced (tokens ++ [token])
  | group {before inner : List Token}
      (beforeBalanced : Balanced before)
      (innerBalanced : Balanced inner) :
      Balanced (before ++ .operator .opening :: inner ++ [.operator .closing])

/-- A token that is no parenthesis does not matter for the balance. -/
theorem balanced_concat_iff
    {tokens : List Token}
    {token : Token}
    (notOpening : token ≠ .operator .opening)
    (notClosing : token ≠ .operator .closing) :
    Balanced (tokens ++ [token]) ↔ Balanced tokens := by
  constructor
  · intro balanced
    generalize whole_eq : tokens ++ [token] = whole at balanced
    cases balanced with
    | nil => simp at whole_eq
    | plain balanced =>
        obtain ⟨rfl, -⟩ := List.append_inj' whole_eq rfl
        exact balanced
    | group =>
        obtain ⟨-, last_eq⟩ := List.append_inj' whole_eq rfl
        exact absurd (List.singleton_inj.mp last_eq) notClosing
  · intro balanced
    exact balanced.plain notOpening notClosing

/-- Balanced tokens do not end with an opening parenthesis. -/
theorem not_balanced_concat_opening (tokens : List Token) :
    ¬Balanced (tokens ++ [.operator .opening]) := by
  intro balanced
  generalize whole_eq : tokens ++ [.operator .opening] = whole at balanced
  cases balanced with
  | nil => simp at whole_eq
  | plain balanced notOpening =>
      obtain ⟨-, last_eq⟩ := List.append_inj' whole_eq rfl
      exact notOpening (List.singleton_inj.mp last_eq).symm
  | group =>
      obtain ⟨-, last_eq⟩ := List.append_inj' whole_eq rfl
      simp at last_eq

/-- Balanced tokens that end with a closing parenthesis end with a group. -/
theorem balanced_concat_closing_iff {tokens : List Token} :
    Balanced (tokens ++ [.operator .closing]) ↔
      ∃ before inner, tokens = before ++ .operator .opening :: inner ∧
        Balanced before ∧ Balanced inner := by
  constructor
  · intro balanced
    generalize whole_eq : tokens ++ [.operator .closing] = whole at balanced
    cases balanced with
    | nil => simp at whole_eq
    | plain balanced notOpening notClosing =>
        obtain ⟨-, last_eq⟩ := List.append_inj' whole_eq rfl
        exact absurd (List.singleton_inj.mp last_eq).symm notClosing
    | group beforeBalanced innerBalanced =>
        obtain ⟨tokens_eq, -⟩ := List.append_inj' whole_eq rfl
        exact ⟨_, _, tokens_eq, beforeBalanced, innerBalanced⟩
  · rintro ⟨before, inner, rfl, beforeBalanced, innerBalanced⟩
    exact .group beforeBalanced innerBalanced

/-- The tokens after an index and before a position. -/
def between (tokens : List Token) (index position : Nat) : List Token :=
  (tokens.drop (index + 1)).take (position - (index + 1))

@[simp] theorem between_succ (tokens : List Token) (index : Nat) :
    between tokens index (index + 1) = [] := by
  simp [between]

/-- The tokens of a stretch split at any index inside. -/
theorem between_split
    {tokens : List Token}
    {index middle position : Nat}
    {token : Token}
    (after : index < middle)
    (inside : middle < position)
    (found : tokens[middle]? = some token) :
    between tokens index position =
      between tokens index middle ++ token :: between tokens middle position := by
  have rest_eq : tokens.drop middle = token :: tokens.drop (middle + 1) := by
    obtain ⟨bound, rfl⟩ := List.getElem?_eq_some_iff.mp found
    exact List.drop_eq_getElem_cons bound
  have length_eq : position - (index + 1) =
      (middle - (index + 1)) + ((position - (middle + 1)) + 1) := by omega
  have shift_eq : index + 1 + (middle - (index + 1)) = middle := by omega
  rw [between, length_eq, List.take_add, List.drop_drop, shift_eq, rest_eq,
    List.take_succ_cons]
  rfl

/-- A token inside a stretch has an index, at which the stretch splits. -/
theorem exists_of_between_eq
    {tokens before inner : List Token}
    {index position : Nat}
    {token : Token}
    (stretch : between tokens index position = before ++ token :: inner) :
    ∃ middle, index < middle ∧ middle < position ∧ tokens[middle]? = some token ∧
      between tokens index middle = before ∧ between tokens middle position = inner := by
  have inStretch : before.length < (between tokens index position).length := by
    simp [stretch]
  have bound : before.length < position - (index + 1) :=
    Nat.lt_of_lt_of_le inStretch (List.length_take_le _ _)
  have found : tokens[index + 1 + before.length]? = some token := by
    have located : (between tokens index position)[before.length]? = some token := by
      simp [stretch]
    rwa [between, List.getElem?_take_of_lt bound, List.getElem?_drop] at located
  have split := between_split (show index < index + 1 + before.length by omega)
    (show index + 1 + before.length < position by omega) found
  rw [stretch] at split
  have length_eq : before.length =
      (between tokens index (index + 1 + before.length)).length := by
    obtain ⟨inTokens, -⟩ := List.getElem?_eq_some_iff.mp found
    simp only [between, List.length_take, List.length_drop]
    omega
  obtain ⟨before_eq, rest_eq⟩ := List.append_inj split length_eq
  exact ⟨index + 1 + before.length, by omega, by omega, found, before_eq.symm,
    (List.cons_inj_right token).mp rest_eq.symm⟩

/-- The innermost parenthesis around a position is at an index. -/
def Encloses (tokens : List Token) (index position : Nat) : Prop :=
  index < position ∧ tokens[index]? = some (.operator .opening) ∧
    Balanced (between tokens index position)

/-- An operand or a binary operator is directly inside the group that goes on
after it. -/
theorem encloses_succ_of_plain
    {tokens : List Token}
    {position index : Nat}
    {token : Token}
    (found : tokens[position]? = some token)
    (notOpening : token ≠ .operator .opening)
    (notClosing : token ≠ .operator .closing) :
    Encloses tokens index (position + 1) ↔ Encloses tokens index position := by
  constructor
  · rintro ⟨before, opens, balanced⟩
    have different : index ≠ position := by
      rintro rfl
      rw [opens] at found
      exact notOpening (Option.some.inj found).symm
    have earlier : index < position := by omega
    rw [between_split earlier (Nat.lt_succ_self position) found, between_succ,
      balanced_concat_iff notOpening notClosing] at balanced
    exact ⟨earlier, opens, balanced⟩
  · rintro ⟨before, opens, balanced⟩
    refine ⟨Nat.lt_succ_of_lt before, opens, ?_⟩
    rw [between_split before (Nat.lt_succ_self position) found, between_succ,
      balanced_concat_iff notOpening notClosing]
    exact balanced

/-- An opening parenthesis is the innermost one after it. -/
theorem encloses_succ_of_opening
    {tokens : List Token}
    {position index : Nat}
    (found : tokens[position]? = some (.operator .opening)) :
    Encloses tokens index (position + 1) ↔ index = position := by
  constructor
  · rintro ⟨before, opens, balanced⟩
    rcases Nat.lt_succ_iff_lt_or_eq.mp before with earlier | same
    · rw [between_split earlier (Nat.lt_succ_self position) found, between_succ] at balanced
      exact absurd balanced (not_balanced_concat_opening _)
    · exact same
  · rintro rfl
    refine ⟨Nat.lt_succ_self index, found, ?_⟩
    rw [between_succ]
    exact .nil

/-- After a closing parenthesis the innermost one is that around its partner. -/
theorem encloses_succ_of_closing
    {tokens : List Token}
    {position index : Nat}
    (found : tokens[position]? = some (.operator .closing)) :
    Encloses tokens index (position + 1) ↔
      ∃ partner, Encloses tokens partner position ∧ Encloses tokens index partner := by
  constructor
  · rintro ⟨before, opens, balanced⟩
    have different : index ≠ position := by
      rintro rfl
      rw [opens] at found
      simp at found
    have earlier : index < position := by omega
    rw [between_split earlier (Nat.lt_succ_self position) found, between_succ,
      balanced_concat_closing_iff] at balanced
    obtain ⟨left, inner, stretch, leftBalanced, innerBalanced⟩ := balanced
    obtain ⟨partner, afterIndex, beforePosition, partnerOpens, rfl, rfl⟩ :=
      exists_of_between_eq stretch
    exact ⟨partner, ⟨beforePosition, partnerOpens, innerBalanced⟩,
      afterIndex, opens, leftBalanced⟩
  · rintro ⟨partner, ⟨beforePosition, partnerOpens, innerBalanced⟩,
      afterIndex, opens, leftBalanced⟩
    have earlier : index < position := Nat.lt_trans afterIndex beforePosition
    refine ⟨Nat.lt_succ_of_lt earlier, opens, ?_⟩
    rw [between_split earlier (Nat.lt_succ_self position) found, between_succ,
      between_split afterIndex beforePosition partnerOpens]
    exact .group leftBalanced innerBalanced

/-- Nothing encloses the first position. -/
theorem not_encloses_zero (tokens : List Token) (index : Nat) :
    ¬Encloses tokens index 0 := by
  rintro ⟨before, -⟩
  exact Nat.not_lt_zero index before

end Token
end PostfixCalculator
