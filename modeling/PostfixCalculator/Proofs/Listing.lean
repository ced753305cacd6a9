import PostfixCalculator.Proofs.QuotedText
import PostfixCalculator.Stack
import PostfixCalculator.Token
import Std.Data.String.ToInt

/-!
# Listings tell stacks apart

A listing shows the elements of a stack in brackets, with commas between them. It
determines the stack if each element, followed by a comma or the bracket, can be told
from every other one and its end found. Words without commas and brackets are of this
kind: numbers and the names of operators. A quoted text is too although it may contain
both, because the quote that ends it is found.
-/

namespace PostfixCalculator

/-! ## Words for operators and tokens -/

namespace Operator

/-- The operators in some order. -/
def all : List Operator :=
  [.opening, .closing, .binary .add, .binary .sub, .binary .mul, .binary .div, .binary .pow]

theorem mem_all (operator : Operator) : operator ∈ all := by
  cases operator with
  | opening => decide
  | closing => decide
  | binary operator => cases operator <;> decide

/-- Different operators have different names. -/
theorem name_injective : Function.Injective name := by
  have table : ∀ first ∈ all, ∀ second ∈ all, first.name = second.name -> first = second := by
    decide
  intro first second same
  exact table first (mem_all first) second (mem_all second) same

/-- The name of an operator is a word of letters. -/
theorem name_word (operator : Operator) :
    operator.name.toList ≠ [] ∧
      ∀ character ∈ operator.name.toList, character.isAlphanum = true := by
  have table : ∀ operator ∈ all, operator.name.toList ≠ [] ∧
      operator.name.toList.all Char.isAlphanum = true := by
    decide
  obtain ⟨nonempty, word⟩ := table operator (mem_all operator)
  exact ⟨nonempty, List.all_eq_true.mp word⟩

end Operator

namespace Token

theorem toList_inspect_operand (lexeme : String) :
    (inspect (.operand lexeme)).toList =
      "Operand(".toList ++ ((Text.quote lexeme).toList ++ [')']) := by
  rw [inspect, String.toList_append, String.toList_append, List.append_assoc]
  rfl

theorem toList_inspect_operator (symbol : Operator) :
    (inspect (.operator symbol)).toList =
      "Operator(".toList ++ (symbol.name.toList ++ [')']) := by
  rw [inspect, String.toList_append, String.toList_append, List.append_assoc]
  rfl

end Token

namespace Stack

/-! ## Elements that can be told apart -/

/-- Whether a character neither separates elements of a listing nor ends it. -/
def isInner (character : Char) : Bool :=
  character != ',' && character != ']'

/-- Letters and digits neither separate elements nor end a listing. -/
theorem isInner_of_isAlphanum
    {character : Char}
    (isAlphanum : character.isAlphanum = true) :
    isInner character = true := by
  rw [isInner, Bool.and_eq_true, bne_iff_ne, bne_iff_ne]
  constructor
  · rintro rfl
    exact absurd isAlphanum (by decide)
  · rintro rfl
    exact absurd isAlphanum (by decide)

/-- What can follow an element in a listing, or the end of a text. -/
def Separates (rest : List Char) : Prop :=
  ∀ next ∈ rest.head?, isInner next = false

theorem separates_cons
    {separator : Char}
    (outer : isInner separator = false)
    (rest : List Char) :
    Separates (separator :: rest) := by
  rintro next ⟨⟩
  exact outer

variable {Item : Type} {inspect : Item -> String}

/-- Elements that can be told apart in a listing. -/
structure IsListable (inspect : Item -> String) : Prop where
  /-- No element begins as the end of a listing does. -/
  exists_cons : ∀ item, ∃ start others,
    (inspect item).toList = start :: others ∧ start ≠ ']'
  /-- An element in a listing tells which it is and where it ends. -/
  append_inj : ∀ {first second : Item} {rest other : List Char},
    Separates rest -> Separates other ->
      (inspect first).toList ++ rest = (inspect second).toList ++ other ->
        first = second ∧ rest = other

/-- Different words without commas and brackets can be told apart. -/
theorem isListable_of_isInner
    (injective : Function.Injective inspect)
    (nonempty : ∀ item, (inspect item).toList ≠ [])
    (inner : ∀ item, ∀ character ∈ (inspect item).toList, isInner character = true) :
    IsListable inspect where
  exists_cons := by
    intro item
    obtain ⟨start, others, written⟩ := List.exists_cons_of_ne_nil (nonempty item)
    refine ⟨start, others, written, ?_⟩
    rintro rfl
    have startInner := inner item ']' (by rw [written]; exact List.mem_cons_self)
    exact absurd startInner (by decide)
  append_inj := by
    intro first second rest other separates separatesToo same
    obtain ⟨sameWord, sameRest⟩ :=
      Cut.append_inj_of_stops (inner first) separates (inner second) separatesToo same
    exact ⟨injective (String.toList_inj.mp sameWord), sameRest⟩

/-! ## Elements in brackets -/

/-- The elements of a listing behind the first. -/
def following (inspect : Item -> String) (items : List Item) : List Char :=
  items.flatMap fun item => ',' :: ' ' :: (inspect item).toList

@[simp] theorem following_cons (inspect : Item -> String) (item : Item) (items : List Item) :
    following inspect (item :: items) =
      ',' :: ' ' :: ((inspect item).toList ++ following inspect items) := rfl

/-- What is behind an element of a listing separates it from the next. -/
theorem separates_following (inspect : Item -> String) (items : List Item) (rest : List Char) :
    Separates (following inspect items ++ ']' :: rest) := by
  cases items with
  | nil => exact separates_cons rfl rest
  | cons item others => exact separates_cons rfl _

/-- The elements of a listing that is not empty. -/
theorem toList_intercalate_cons (inspect : Item -> String) (item : Item) (items : List Item) :
    (", ".intercalate ((item :: items).map inspect)).toList =
      (inspect item).toList ++ following inspect items := by
  induction items generalizing item with
  | nil =>
      rw [List.map_singleton, String.intercalate_singleton]
      exact (List.append_nil _).symm
  | cons next others inductionHypothesis =>
      have sameOthers := inductionHypothesis next
      rw [List.map_cons] at sameOthers
      rw [List.map_cons, List.map_cons, String.intercalate_cons_cons, String.toList_append,
        String.toList_append, sameOthers, following_cons, List.append_assoc]
      rfl

/-- The elements behind the first tell all of them. -/
theorem IsListable.following_append_inj
    (listable : IsListable inspect)
    {first second : List Item}
    {rest other : List Char}
    (same : following inspect first ++ ']' :: rest = following inspect second ++ ']' :: other) :
    first = second := by
  induction first generalizing second with
  | nil =>
      -- Where one list ends with the bracket and the other goes on, there is a comma instead.
      cases second with
      | nil => rfl
      | cons => exact absurd (List.cons.inj same).1 (by decide)
  | cons item items inductionHypothesis =>
      cases second with
      | nil => exact absurd (List.cons.inj same).1 (by decide)
      | cons next others =>
          simp only [following_cons, List.cons_append, List.append_assoc, List.cons.injEq,
            true_and] at same
          obtain ⟨sameItem, sameBehind⟩ := listable.append_inj
            (separates_following inspect items rest)
            (separates_following inspect others other) same
          rw [sameItem, inductionHypothesis sameBehind]

/-- The elements in brackets tell all of them. -/
theorem IsListable.intercalate_append_inj
    (listable : IsListable inspect)
    {first second : List Item}
    {rest other : List Char}
    (same : (", ".intercalate (first.map inspect)).toList ++ ']' :: rest =
      (", ".intercalate (second.map inspect)).toList ++ ']' :: other) :
    first = second := by
  cases first with
  | nil =>
      cases second with
      | nil => rfl
      | cons next others =>
          obtain ⟨start, behind, written, notBracket⟩ := listable.exists_cons next
          rw [toList_intercalate_cons, written] at same
          exact absurd (List.cons.inj same).1.symm notBracket
  | cons item items =>
      cases second with
      | nil =>
          obtain ⟨start, behind, written, notBracket⟩ := listable.exists_cons item
          rw [toList_intercalate_cons, written] at same
          exact absurd (List.cons.inj same).1 notBracket
      | cons next others =>
          rw [toList_intercalate_cons, toList_intercalate_cons, List.append_assoc,
            List.append_assoc] at same
          obtain ⟨sameItem, sameBehind⟩ := listable.append_inj
            (separates_following inspect items rest)
            (separates_following inspect others other) same
          rw [sameItem, listable.following_append_inj sameBehind]

/-! ## Elements of each kind -/

/-- An integer is written in digits, behind a sign if it is negative. -/
theorem isInner_of_mem_toString
    {number : Int}
    {character : Char}
    (present : character ∈ (toString number).toList) :
    isInner character = true := by
  have inner (count : Nat) (inDigits : character ∈ count.repr.toList) : isInner character = true := by
    rw [Nat.repr_eq_ofList_toDigits, String.toList_ofList] at inDigits
    have isDigit := Nat.isDigit_of_mem_toDigits (by decide) (by decide) inDigits
    exact isInner_of_isAlphanum (by rw [Char.isAlphanum, isDigit, Bool.or_true])
  rw [Int.toString_eq_repr, Int.repr_eq_if] at present
  split at present
  · exact inner _ present
  · rw [String.toList_append] at present
    rcases List.mem_append.mp present with isSign | inDigits
    · rw [List.mem_singleton.mp isSign]
      rfl
    · exact inner _ inDigits

theorem isListable_integer : IsListable (toString : Int -> String) := by
  apply isListable_of_isInner
  · intro first second same
    rwa [Int.toString_eq_repr, Int.toString_eq_repr, Int.repr_inj] at same
  · intro number
    rw [Int.toString_eq_repr, Int.repr_eq_if]
    split <;> simp
  · exact fun number character => isInner_of_mem_toString

/-- A quoted text ends with the quote that is not part of it. -/
theorem isListable_quote : IsListable Text.quote where
  exists_cons := by
    intro text
    exact ⟨'"', _, Text.toList_quote text, by decide⟩
  append_inj := by
    intro first second rest other _ _ same
    exact Text.quote_append_inj same

/-- An operator is shown by its name. -/
theorem isListable_name : IsListable Operator.name := by
  apply isListable_of_isInner
  · exact Operator.name_injective
  · intro operator
    exact operator.name_word.1
  · intro operator character present
    exact isInner_of_isAlphanum (operator.name_word.2 character present)

/-- A token is shown by its kind with the lexeme or the name in parentheses. -/
theorem isListable_inspect : IsListable Token.inspect where
  exists_cons := by
    intro token
    cases token with
    | operand lexeme => exact ⟨'O', _, Token.toList_inspect_operand lexeme, by decide⟩
    | operator symbol => exact ⟨'O', _, Token.toList_inspect_operator symbol, by decide⟩
  append_inj := by
    intro first second rest other _ _ same
    cases first with
    | operand lexeme =>
        cases second with
        | operand lexemeToo =>
            simp only [Token.toList_inspect_operand, List.append_assoc,
              List.append_cancel_left_eq] at same
            obtain ⟨sameLexeme, sameBehind⟩ := Text.quote_append_inj same
            exact ⟨congrArg Token.operand sameLexeme, (List.cons.inj sameBehind).2⟩
        | operator symbolToo =>
            simp [Token.toList_inspect_operand, Token.toList_inspect_operator] at same
    | operator symbol =>
        cases second with
        | operand lexemeToo =>
            simp [Token.toList_inspect_operand, Token.toList_inspect_operator] at same
        | operator symbolToo =>
            simp only [Token.toList_inspect_operator, List.append_assoc,
              List.append_cancel_left_eq] at same
            obtain ⟨sameName, sameRest⟩ := Cut.append_cons_inj_of_stops
              symbol.name_word.2 symbolToo.name_word.2 (by decide) same
            have sameSymbol := Operator.name_injective (String.toList_inj.mp sameName)
            exact ⟨congrArg Token.operator sameSymbol, sameRest⟩

/-! ## Equal listings -/

/-- Stacks with the same listing have the same elements in the same order. -/
theorem IsListable.toList_eq_of_listing_eq
    (listable : IsListable inspect)
    {first second : Stack Item}
    (same : first.listing inspect = second.listing inspect) :
    first.toList = second.toList := by
  have sameCharacters := congrArg String.toList same
  simp only [listing, String.toList_append, List.append_assoc] at sameCharacters
  exact listable.intercalate_append_inj (List.append_cancel_left sameCharacters)

/-- Two stacks are equal exactly if they have the same elements in the same order. -/
theorem beq_iff_toList_eq [BEq Item] [LawfulBEq Item] (first second : Stack Item) :
    (first == second) = true ↔ first.toList = second.toList := by
  rw [toList, toList, List.reverse_inj]
  exact beq_iff_eq (a := first.items)

/-- Stacks have the same listing exactly if they are equal, and that is to have the same
elements in the same order. -/
def IsFaithful [BEq Item] (inspect : Item -> String) : Prop :=
  ∀ first second : Stack Item,
    (first.listing inspect = second.listing inspect ↔ (first == second) = true) ∧
      ((first == second) = true ↔ first.toList = second.toList)

/-- Where elements can be told apart, stacks can. -/
theorem IsListable.isFaithful [BEq Item] [LawfulBEq Item] (listable : IsListable inspect) :
    IsFaithful inspect := by
  intro first second
  refine ⟨?_, beq_iff_toList_eq first second⟩
  rw [beq_iff_toList_eq first second]
  constructor
  · exact listable.toList_eq_of_listing_eq
  · intro sameElements
    rw [listing, listing, sameElements]

/-- Stacks of integers, of texts, of operators and of tokens have the same listing exactly
if they are equal, whatever characters the texts and the operands contain. -/
theorem listings_isFaithful :
    IsFaithful (toString : Int -> String) ∧ IsFaithful Text.quote ∧
      IsFaithful Operator.name ∧ IsFaithful Token.inspect := by
  refine ⟨?_, ?_, ?_, ?_⟩
  · exact isListable_integer.isFaithful
  · exact isListable_quote.isFaithful
  · exact isListable_name.isFaithful
  · exact isListable_inspect.isFaithful

end Stack
end PostfixCalculator
