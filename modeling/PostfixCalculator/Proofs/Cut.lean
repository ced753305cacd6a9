import Mathlib.Data.List.TakeWhile

/-!
# Cutting lists

A list is cut where a condition first fails: the items before the cut satisfy the
condition, and the first item after it, if there is one, does not. Every list has
such a cut, and only one.

A piece of a list that is cut somewhere lies on one side of the cut or across it.
-/

namespace PostfixCalculator
namespace Cut

variable {Item : Type} {condition : Item -> Bool} {taken kept : List Item}

/-- Where nothing starts that satisfies the condition, the cut is at once. -/
theorem takeWhile_dropWhile_of_stops (stops : ∀ first ∈ kept.head?, condition first = false) :
    kept.takeWhile condition = [] ∧ kept.dropWhile condition = kept := by
  cases kept with
  | nil => exact ⟨rfl, rfl⟩
  | cons first others =>
      have unsatisfied : ¬condition first = true := Bool.eq_false_iff.mp (stops first rfl)
      exact ⟨List.takeWhile_cons_of_neg unsatisfied, List.dropWhile_cons_of_neg unsatisfied⟩

/-- A list that is cut is taken and dropped up to the cut. -/
theorem takeWhile_dropWhile_append
    (satisfied : ∀ item ∈ taken, condition item = true)
    (stops : ∀ first ∈ kept.head?, condition first = false) :
    (taken ++ kept).takeWhile condition = taken ∧
      (taken ++ kept).dropWhile condition = kept := by
  obtain ⟨empty, all⟩ := takeWhile_dropWhile_of_stops stops
  rw [List.takeWhile_append_of_pos satisfied, List.dropWhile_append_of_pos satisfied, empty, all,
    List.append_nil]
  exact ⟨rfl, rfl⟩

/-- There is one way only to cut a list. -/
theorem append_inj_of_stops
    {takenToo keptToo : List Item}
    (satisfied : ∀ item ∈ taken, condition item = true)
    (stops : ∀ first ∈ kept.head?, condition first = false)
    (satisfiedToo : ∀ item ∈ takenToo, condition item = true)
    (stopsToo : ∀ first ∈ keptToo.head?, condition first = false)
    (same : taken ++ kept = takenToo ++ keptToo) :
    taken = takenToo ∧ kept = keptToo := by
  obtain ⟨takes, keeps⟩ := takeWhile_dropWhile_append satisfied stops
  obtain ⟨takesToo, keepsToo⟩ := takeWhile_dropWhile_append satisfiedToo stopsToo
  rw [same] at takes keeps
  exact ⟨takes.symm.trans takesToo, keeps.symm.trans keepsToo⟩

/-- Nor is there another way to cut it before an item that does not satisfy the condition. -/
theorem append_cons_inj_of_stops
    {last : Item}
    {takenToo keptToo : List Item}
    (satisfied : ∀ item ∈ taken, condition item = true)
    (satisfiedToo : ∀ item ∈ takenToo, condition item = true)
    (stops : condition last = false)
    (same : taken ++ last :: kept = takenToo ++ last :: keptToo) :
    taken = takenToo ∧ kept = keptToo := by
  have stopsThere (rest : List Item) :
      ∀ first ∈ (last :: rest).head?, condition first = false := by
    rintro first ⟨⟩
    exact stops
  obtain ⟨sameTaken, sameRest⟩ :=
    append_inj_of_stops satisfied (stopsThere kept) satisfiedToo (stopsThere keptToo) same
  exact ⟨sameTaken, (List.cons.inj sameRest).2⟩

/-- Every list can be cut. -/
theorem exists_cut (items : List Item) (condition : Item -> Bool) :
    ∃ taken kept, items = taken ++ kept ∧
      (∀ item ∈ taken, condition item = true) ∧
      ∀ first ∈ kept.head?, condition first = false := by
  refine ⟨items.takeWhile condition, items.dropWhile condition,
    List.takeWhile_append_dropWhile.symm, fun item present => List.mem_takeWhile_imp present, ?_⟩
  intro first isFirst
  have failed := List.head?_dropWhile_not condition items
  rw [isFirst] at failed
  simpa using failed

/-- Every list can be cut before the longest end of items that satisfy a condition. -/
theorem exists_cut_before_end (items : List Item) (condition : Item -> Bool) :
    ∃ kept taken, items = kept ++ taken ∧
      (∀ item ∈ taken, condition item = true) ∧
      ∀ last ∈ kept.getLast?, condition last = false := by
  obtain ⟨taken, kept, split, satisfied, stops⟩ := exists_cut items.reverse condition
  refine ⟨kept.reverse, taken.reverse, ?_, ?_, ?_⟩
  · rw [← List.reverse_append, ← split, List.reverse_reverse]
  · intro item present
    exact satisfied item (List.mem_reverse.mp present)
  · rwa [List.getLast?_reverse]

/-- A list can be cut on either side of each of its items. -/
theorem eq_take_append_cons_drop
    {items : List Item}
    {position : Nat}
    {item : Item}
    (found : items[position]? = some item) :
    items = items.take position ++ item :: items.drop (position + 1) := by
  obtain ⟨bound, rfl⟩ := List.getElem?_eq_some_iff.mp found
  rw [← List.drop_eq_getElem_cons bound, List.take_append_drop]

/-- The last of the items up to a position and with it is the one at it. -/
theorem getLast?_take_succ
    {items : List Item}
    {position : Nat}
    (within : position < items.length) :
    (items.take (position + 1)).getLast? = items[position]? := by
  rw [List.take_add_one, List.getElem?_eq_getElem within, Option.toList_some,
    List.getLast?_concat]

/-- What ends with some items ends with one of them. -/
theorem exists_getLast?_append {items : List Item} (nonempty : items ≠ []) (before : List Item) :
    ∃ last ∈ items, last ∈ (before ++ items).getLast? := by
  refine ⟨items.getLast nonempty, List.getLast_mem nonempty, ?_⟩
  rw [List.getLast?_append, List.getLast?_eq_some_getLast nonempty]
  rfl

/-- What starts with some items starts with one of them. -/
theorem exists_head?_append {items : List Item} (nonempty : items ≠ []) (behind : List Item) :
    ∃ first ∈ items, first ∈ (items ++ behind).head? := by
  refine ⟨items.head nonempty, List.head_mem nonempty, ?_⟩
  rw [List.head?_append, List.head?_eq_some_head nonempty]
  rfl

/-- A piece of a list in two parts is in the first part, or in the second, or is
itself cut where the list is. -/
theorem append_eq_append_append_cases
    {first second before piece behind : List Item}
    (same : first ++ second = before ++ piece ++ behind) :
    (∃ rest, first = before ++ piece ++ rest ∧ behind = rest ++ second) ∨
      (∃ lead, before = first ++ lead ∧ second = lead ++ piece ++ behind) ∨
        ∃ left right, left ≠ [] ∧ right ≠ [] ∧ piece = left ++ right ∧
          first = before ++ left ∧ second = right ++ behind := by
  rcases List.append_eq_append_iff.mp same with ⟨right, whole, rfl⟩ | inFirst
  · rcases List.append_eq_append_iff.mp whole with ⟨left, rfl, rfl⟩ | ⟨lead, rfl, rfl⟩
    · cases left with
      | nil => exact Or.inr (Or.inl ⟨[], by simp, rfl⟩)
      | cons next others =>
          cases right with
          | nil => exact Or.inl ⟨[], by simp, rfl⟩
          | cons after rest =>
              exact Or.inr (Or.inr ⟨next :: others, after :: rest, List.cons_ne_nil _ _,
                List.cons_ne_nil _ _, rfl, rfl, rfl⟩)
    · exact Or.inr (Or.inl ⟨lead, rfl, rfl⟩)
  · exact Or.inl inFirst

end Cut
end PostfixCalculator
