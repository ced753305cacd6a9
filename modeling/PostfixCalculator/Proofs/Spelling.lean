import PostfixCalculator.Proofs.Grammar
import PostfixCalculator.Proofs.Lexing

/-!
# Spelling tokens

A text spells tokens when it has them in their order with any number of filler
characters before, between and after them. Filler is what can neither be part of
an operand nor an operator symbol.

When every operand is written in digits or in small letters and no two operands
are neighbours, the tokens of such a text are the tokens that it spells, even
where no filler stands between them.
-/

namespace PostfixCalculator

/-- A character that no token can have. -/
def IsFiller (character : Char) : Prop :=
  RunKind.ofChar? character = none ∧ Operator.ofChar? character = none

instance (character : Char) : Decidable (IsFiller character) :=
  inferInstanceAs (Decidable (_ ∧ _))

/-- Any number of filler characters. -/
def AllFiller (characters : List Char) : Prop :=
  ∀ character ∈ characters, IsFiller character

-- The instance is named because there are finitely many characters, and running
-- through all of them is no way to decide this.
instance (characters : List Char) : Decidable (AllFiller characters) :=
  List.decidableBAll IsFiller characters

/-- The text of an operator is its symbol alone. -/
@[simp] theorem Operator.toList_text (operator : Operator) :
    operator.text.toList = [operator.symbol] :=
  String.toList_singleton operator.symbol

/-- An operator symbol is no filler. -/
theorem Operator.not_isFiller_symbol (operator : Operator) :
    ¬IsFiller operator.symbol := by
  rintro ⟨-, unrecognized⟩
  rw [ofChar?_symbol] at unrecognized
  contradiction

/-- One or more characters, all of a kind. -/
def RunKind.IsRun (kind : RunKind) (lexeme : String) : Prop :=
  lexeme.toList ≠ [] ∧ ∀ character ∈ lexeme.toList, kind.contains character = true

instance (kind : RunKind) (lexeme : String) : Decidable (kind.IsRun lexeme) :=
  @instDecidableAnd _ _ _ (List.decidableBAll _ lexeme.toList)

namespace RunKind

variable {kind other : RunKind} {lexeme : String}

/-- A character of a kind and more of that kind are a run. -/
theorem isRun_ofList_cons
    {first : Char}
    {others : List Char}
    (contained : kind.contains first = true)
    (othersContained : ∀ character ∈ others, kind.contains character = true) :
    kind.IsRun (String.ofList (first :: others)) := by
  rw [IsRun, String.toList_ofList]
  exact ⟨List.cons_ne_nil _ _, List.forall_mem_cons.mpr ⟨contained, othersContained⟩⟩

/-- A run starts with a character of its kind. -/
theorem IsRun.exists_cons (isRun : kind.IsRun lexeme) :
    ∃ first others, lexeme.toList = first :: others ∧ kind.contains first = true := by
  obtain ⟨first, others, split⟩ := List.exists_cons_of_ne_nil isRun.1
  exact ⟨first, others, split, isRun.2 first (split ▸ List.mem_cons_self)⟩

/-- A run is of one kind only. -/
theorem IsRun.kind_eq
    (isRun : kind.IsRun lexeme)
    (otherRun : other.IsRun lexeme) :
    kind = other := by
  obtain ⟨first, others, split, contained⟩ := isRun.exists_cons
  exact eq_of_contains contained (otherRun.2 first (split ▸ List.mem_cons_self))

/-- Two runs of a kind in a row are a run. -/
theorem IsRun.append
    {more : String}
    (isRun : kind.IsRun lexeme)
    (moreRun : kind.IsRun more) :
    kind.IsRun (lexeme ++ more) := by
  rw [IsRun, String.toList_append]
  refine ⟨List.append_ne_nil_of_left_ne_nil isRun.1 _, ?_⟩
  intro character present
  exact (List.mem_append.mp present).elim (isRun.2 character) (moreRun.2 character)

/-- A character of a kind is no filler. -/
theorem not_isFiller_of_contains
    {character : Char}
    (contained : kind.contains character = true) :
    ¬IsFiller character := by
  rintro ⟨noRun, -⟩
  rw [contains_eq_false noRun] at contained
  contradiction

end RunKind

/-- A token whose operand, if it is one, is written in digits or in small
letters. -/
def Token.IsLexical : Token -> Prop
  | .operand lexeme => RunKind.digits.IsRun lexeme ∨ RunKind.letters.IsRun lexeme
  | .operator _ => True

instance : DecidablePred Token.IsLexical
  | .operand _ => inferInstanceAs (Decidable (_ ∨ _))
  | .operator _ => inferInstanceAs (Decidable True)

/-- Characters that spell tokens with filler around them. -/
inductive Spelling : List Token -> List Char -> Prop
  | filler {filler : List Char}
      (skipped : AllFiller filler) :
      Spelling [] filler
  | token {filler : List Char} {token : Token} {tokens : List Token} {characters : List Char}
      (skipped : AllFiller filler)
      (following : Spelling tokens characters) :
      Spelling (token :: tokens) (filler ++ token.text.toList ++ characters)

namespace Token

variable {characters rest : List Char}

/-- Filler has no tokens. -/
theorem ofCharacters_filler_append
    {filler : List Char}
    (skipped : AllFiller filler)
    (rest : List Char) :
    ofCharacters (filler ++ rest) = ofCharacters rest := by
  induction filler with
  | nil => rfl
  | cons first others inductionHypothesis =>
      obtain ⟨⟨noRun, unrecognized⟩, othersSkipped⟩ := List.forall_mem_cons.mp skipped
      rw [List.cons_append, ofCharacters]
      simp only [noRun, unrecognized]
      exact inductionHypothesis othersSkipped

/-- A run that does not go on is an operand. -/
theorem ofCharacters_run_append
    {kind : RunKind}
    {lexeme : String}
    (isRun : kind.IsRun lexeme)
    (stops : ∀ first ∈ rest.head?, kind.contains first = false) :
    ofCharacters (lexeme.toList ++ rest) = .operand lexeme :: ofCharacters rest := by
  obtain ⟨nonempty, contained⟩ := isRun
  obtain ⟨first, others, split⟩ := List.exists_cons_of_ne_nil nonempty
  rw [split] at contained
  obtain ⟨firstContained, othersContained⟩ := List.forall_mem_cons.mp contained
  obtain ⟨othersTaken, restKept⟩ := Cut.takeWhile_dropWhile_append othersContained stops
  have whole : String.ofList (first :: others) = lexeme := by
    rw [← split, String.ofList_toList]
  rw [split, List.cons_append, ofCharacters]
  simp only [RunKind.ofChar?_eq_some_iff.mpr firstContained, othersTaken, restKept, whole]

/-- An operator symbol is an operator. -/
theorem ofCharacters_symbol_append (symbol : Operator) (rest : List Char) :
    ofCharacters (symbol.text.toList ++ rest) = .operator symbol :: ofCharacters rest := by
  rw [Operator.toList_text, List.singleton_append, ofCharacters]
  simp only [RunKind.ofChar?_symbol, Operator.ofChar?_symbol]

/-- A token that is not continued by what follows it is found. -/
theorem ofCharacters_text_append
    {token : Token}
    (lexical : token.IsLexical)
    (stops : token.isOperator = false ->
      ∀ first ∈ rest.head?, RunKind.ofChar? first = none) :
    ofCharacters (token.text.toList ++ rest) = token :: ofCharacters rest := by
  cases token with
  | operator symbol => exact ofCharacters_symbol_append symbol rest
  | operand lexeme =>
      have noRun (kind : RunKind) : ∀ first ∈ rest.head?, kind.contains first = false :=
        fun first isFirst => RunKind.contains_eq_false (stops rfl first isFirst) kind
      rcases lexical with digits | letters
      · exact ofCharacters_run_append digits (noRun .digits)
      · exact ofCharacters_run_append letters (noRun .letters)

end Token

namespace Spelling

variable {tokens : List Token} {characters : List Char}

/-- No operand starts a text whose first token is an operator. -/
theorem ofChar?_head_eq_none
    (spelling : Spelling tokens characters)
    (operatorFirst : ∀ first ∈ tokens.head?, first.isOperator = true) :
    ∀ first ∈ characters.head?, RunKind.ofChar? first = none := by
  intro first isFirst
  cases spelling with
  | filler skipped => exact (skipped first (List.mem_of_head? isFirst)).1
  | @token filler token tokens characters skipped following =>
      cases filler with
      | cons other others =>
          cases isFirst
          exact (skipped first List.mem_cons_self).1
      | nil =>
          cases token with
          | operand lexeme => exact absurd (operatorFirst _ rfl) Bool.false_ne_true
          | operator symbol =>
              rw [Token.text_operator, Operator.toList_text] at isFirst
              cases isFirst
              exact RunKind.ofChar?_symbol symbol

/-- The tokens of a text are those that it spells, when no two operands are
neighbours. -/
theorem ofCharacters_eq
    (spelling : Spelling tokens characters)
    (lexical : ∀ token ∈ tokens, token.IsLexical)
    (chain : tokens.IsChain Derivation.Alternate) :
    Token.ofCharacters characters = tokens := by
  induction spelling with
  | filler skipped =>
      have skippedAll := Token.ofCharacters_filler_append skipped []
      rwa [List.append_nil, Token.ofCharacters] at skippedAll
  | token skipped following inductionHypothesis =>
      obtain ⟨firstLexical, othersLexical⟩ := List.forall_mem_cons.mp lexical
      obtain ⟨alternate, othersChain⟩ := List.isChain_cons.mp chain
      rw [List.append_assoc, Token.ofCharacters_filler_append skipped,
        Token.ofCharacters_text_append firstLexical,
        inductionHypothesis othersLexical othersChain]
      intro isOperand
      refine following.ofChar?_head_eq_none fun next isNext => ?_
      exact (alternate next isNext).resolve_left (by rw [isOperand]; exact Bool.false_ne_true)

end Spelling
end PostfixCalculator
