import PostfixCalculator.Calculation
import PostfixCalculator.Proofs.Conservation
import PostfixCalculator.Proofs.Spelling

/-!
# Writing tokens and reading them again

Tokens are written with a blank between neighbours, and a blank ends every
operand. So tokens that are written are read as themselves exactly if their operands
are written in digits or in small letters. Every token that is read from a text is
of this kind, and what a conversion makes of tokens is of this kind exactly if they
are: the operands stay, and what else is put out are operators, an opening
parenthesis that was never closed among them.

Hence a converted text can be written, read again and evaluated with the result
that it has at once.
-/

namespace PostfixCalculator

namespace Token

/-- A run at the start of a text is one of its operands. -/
theorem isLexical_operand_run
    {kind : RunKind}
    {first : Char}
    (starts : RunKind.ofChar? first = some kind)
    (rest : List Char) :
    (operand (String.ofList (first :: rest.takeWhile kind.contains))).IsLexical := by
  have isRun : kind.IsRun (String.ofList (first :: rest.takeWhile kind.contains)) :=
    RunKind.isRun_ofList_cons (RunKind.ofChar?_eq_some_iff.mp starts)
      fun _ present => List.mem_takeWhile_imp present
  cases kind with
  | digits => exact Or.inl isRun
  | letters => exact Or.inr isRun

/-- Every operand that is read is written in digits or in small letters. -/
theorem isLexical_of_mem_ofCharacters
    {characters : List Char}
    {token : Token}
    (present : token ∈ ofCharacters characters) :
    token.IsLexical := by
  fun_induction ofCharacters characters with
  | case1 => contradiction
  | case2 first rest kind starts inductionHypothesis =>
      rcases List.mem_cons.mp present with rfl | later
      · exact isLexical_operand_run starts rest
      · exact inductionHypothesis later
  | case3 first rest noRun symbol recognized inductionHypothesis =>
      rcases List.mem_cons.mp present with rfl | later
      · trivial
      · exact inductionHypothesis later
  | case4 first rest noRun unrecognized inductionHypothesis =>
      exact inductionHypothesis present

@[simp] theorem textOfList_singleton (token : Token) :
    textOfList [token] = token.text :=
  String.intercalate_singleton

@[simp] theorem textOfList_cons_cons (first second : Token) (others : List Token) :
    textOfList (first :: second :: others) =
      first.text ++ " " ++ textOfList (second :: others) :=
  String.intercalate_cons_cons

/-- A blank is no part of a token. -/
theorem ofCharacters_blank (rest : List Char) :
    ofCharacters (' ' :: rest) = ofCharacters rest :=
  @ofCharacters_filler_append [' '] (by decide) rest

/-- Tokens that are written with blanks between them are read as themselves. -/
theorem ofCharacters_textOfList
    {tokens : List Token}
    (lexical : ∀ token ∈ tokens, token.IsLexical) :
    ofCharacters (textOfList tokens).toList = tokens := by
  induction tokens with
  | nil => exact ofCharacters.eq_1
  | cons first others inductionHypothesis =>
      obtain ⟨firstLexical, othersLexical⟩ := List.forall_mem_cons.mp lexical
      cases others with
      | nil =>
          have stops : ∀ next ∈ ([] : List Char).head?, RunKind.ofChar? next = none :=
            fun next isNext => absurd isNext (Option.not_mem_none next)
          have alone := ofCharacters_text_append firstLexical fun _ => stops
          rwa [List.append_nil, ofCharacters.eq_1] at alone
      | cons second rest =>
          have written : (textOfList (first :: second :: rest)).toList =
              first.text.toList ++ ' ' :: (textOfList (second :: rest)).toList := by
            rw [textOfList_cons_cons, String.toList_append, String.toList_append,
              List.append_assoc]
            rfl
          have stops : ∀ next ∈ (' ' :: (textOfList (second :: rest)).toList).head?,
              RunKind.ofChar? next = none := by
            intro next isNext
            cases isNext
            rfl
          rw [written, ofCharacters_text_append firstLexical fun _ => stops,
            ofCharacters_blank, inductionHypothesis othersLexical]

/-- Tokens that are written are read as themselves. -/
theorem ofText_textOfList
    {tokens : List Token}
    (lexical : ∀ token ∈ tokens, token.IsLexical) :
    ofText (textOfList tokens) = tokens := by
  rw [ofText_eq_ofCharacters, ofCharacters_textOfList lexical]

/-- Every token of a text has its operand, if it is one, in digits or in small
letters. -/
theorem isLexical_of_mem_ofText
    {text : String}
    {token : Token}
    (present : token ∈ ofText text) :
    token.IsLexical := by
  rw [ofText_eq_ofCharacters] at present
  exact isLexical_of_mem_ofCharacters present

/-- Only the operands matter for whether tokens are lexical. -/
theorem forall_isLexical_iff {tokens : List Token} :
    (∀ token ∈ tokens, token.IsLexical) ↔ ∀ token ∈ operands tokens, token.IsLexical := by
  constructor
  · intro lexical token present
    exact lexical token (List.mem_of_mem_filter present)
  · intro lexical token present
    cases token with
    | operator symbol => trivial
    | operand lexeme => exact lexical _ (operand_mem_operands_iff.mpr present)

/-- What is converted has the same operands as before. -/
theorem forall_isLexical_convert_iff
    {tokens output : List Token}
    (converted : convert tokens = .ok output) :
    (∀ token ∈ output, token.IsLexical) ↔ ∀ token ∈ tokens, token.IsLexical := by
  rw [forall_isLexical_iff, operands_eq_of_convert converted, ← forall_isLexical_iff]

/-- Tokens that are written are read as themselves exactly if they are lexical. -/
theorem ofText_textOfList_iff {tokens : List Token} :
    ofText (textOfList tokens) = tokens ↔ ∀ token ∈ tokens, token.IsLexical := by
  constructor
  · intro same token present
    rw [← same] at present
    exact isLexical_of_mem_ofText present
  · exact ofText_textOfList

/-- Writing tokens and reading them gives them back exactly if their operands are
written in digits or in small letters, as those of every text are. This is so for
tokens that are converted in between exactly if it is so for the tokens themselves. -/
theorem ofText_textOfList_convert_iff (tokens : List Token) :
    (ofText (textOfList tokens) = tokens ↔ ∀ token ∈ tokens, token.IsLexical) ∧
    (∀ (text : String), ∀ token ∈ ofText text, token.IsLexical) ∧
    ∀ output, convert tokens = .ok output ->
      (ofText (textOfList output) = output ↔ ∀ token ∈ tokens, token.IsLexical) := by
  refine ⟨ofText_textOfList_iff, fun text token present => isLexical_of_mem_ofText present, ?_⟩
  intro output converted
  rw [ofText_textOfList_iff, forall_isLexical_convert_iff converted]

/-- An operand that holds a blank is lost when it is written, before and after a
conversion. -/
theorem ofText_textOfList_convert_iff_blankInOperand :
    convert [.operand "a b", .operator .opening] =
        .ok [.operand "a b", .operator .opening] ∧
      ¬(∀ token ∈ [Token.operand "a b", .operator .opening], token.IsLexical) ∧
      ofText (textOfList [.operand "a b", .operator .opening]) ≠
        [.operand "a b", .operator .opening] := by
  have converted : convert [.operand "a b", .operator .opening] =
      .ok [.operand "a b", .operator .opening] := rfl
  have notLexical : ¬∀ token ∈ [Token.operand "a b", .operator .opening], token.IsLexical := by
    decide
  obtain ⟨-, -, afterwards⟩ :=
    ofText_textOfList_convert_iff [.operand "a b", .operator .opening]
  exact ⟨converted, notLexical, fun same => notLexical ((afterwards _ converted).mp same)⟩

end Token

/-- A converted text that is written is read as it was. -/
theorem ofText_textOfList_of_convertText
    {text : String}
    {output : List Token}
    (converted : convertText text = .ok output) :
    Token.ofText (Token.textOfList output) = output :=
  Token.ofText_textOfList <|
    (Token.forall_isLexical_convert_iff converted).mpr fun _ => Token.isLexical_of_mem_ofText

/-- A converted text can be written and read again, and evaluated from its
written form with the same result. So calculating is converting, writing and
evaluating what is written, and nothing else can go wrong but the conversion. -/
theorem calculate_eq_evaluateText_textOfList (context : Context) (text : String) :
    (∀ output, convertText text = .ok output ->
      Token.ofText (Token.textOfList output) = output ∧
        evaluateText context (Token.textOfList output) = evaluate context output) ∧
    calculate context text =
      (convertText text >>= fun output => evaluateText context (Token.textOfList output)) := by
  have same : ∀ output, convertText text = .ok output ->
      evaluateText context (Token.textOfList output) = evaluate context output := by
    intro output converted
    rw [evaluateText, ofText_textOfList_of_convertText converted]
  refine ⟨fun output converted =>
    ⟨ofText_textOfList_of_convertText converted, same output converted⟩, ?_⟩
  unfold calculate
  cases converted : convertText text with
  | error fault => rfl
  | ok output =>
      rw [Run.ok_bind, Run.ok_bind]
      exact (same output converted).symm

/-- A text with neighbouring operands and a group that is not closed has such a
written form. -/
theorem calculate_eq_evaluateText_textOfList_openGroup :
    ∃ output, convertText "2x (3*" = .ok output ∧
      Token.textOfList output = "2 x 3 * (" ∧
      (Token.ofText (Token.textOfList output) = output ∧
        evaluateText .standard (Token.textOfList output) = evaluate .standard output) ∧
      calculate .standard "2x (3*" =
        (convertText "2x (3*" >>= fun output =>
          evaluateText .standard (Token.textOfList output)) := by
  have read : Token.ofText "2x (3*" =
      [.operand "2", .operand "x", .operator .opening, .operand "3",
        .operator (.binary .mul)] := by
    decide +kernel
  have converted : convertText "2x (3*" = .ok
      [.operand "2", .operand "x", .operand "3", .operator (.binary .mul),
        .operator .opening] := by
    rw [convertText, read]
    rfl
  obtain ⟨written, calculated⟩ :=
    calculate_eq_evaluateText_textOfList .standard "2x (3*"
  exact ⟨_, converted, by decide, written _ converted, calculated⟩

end PostfixCalculator
