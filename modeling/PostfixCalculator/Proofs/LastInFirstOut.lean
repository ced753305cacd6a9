import Mathlib.Data.List.Infix
import PostfixCalculator.Proofs.StackHistory

/-!
# Last in, first out

Whatever was done with a stack, an attempt to take from it returns the newest element that
is left, and its size tells how much was put and taken.

Operations are balanced if no start of them takes more than it puts and all of them take
as many as they put. They leave every stack as it was. In balanced operations there is a
put before each attempt to take from which it is divided by balanced operations, and the
attempt returns what was put there.
-/

namespace PostfixCalculator
namespace Stack

variable {Item : Type}

/-- What an operation takes, if it does. -/
def takenBy (stack : Stack Item) : Operation Item -> List Item
  | .pop =>
      match stack.pop with
      | .ok (item, _) => [item]
      | .error _ => []
  | .push _ | .peek => []

/-- What some operations take, in their order. -/
def taken (stack : Stack Item) : List (Operation Item) -> List Item
  | [] => []
  | operation :: rest => stack.takenBy operation ++ (stack.perform operation).taken rest

/-! ## Numbers of operations -/

/-- The number of puts. -/
def pushes (operations : List (Operation Item)) : Nat :=
  operations.countP fun operation => operation matches .push _

/-- The number of attempts to take. -/
def pops (operations : List (Operation Item)) : Nat :=
  operations.countP fun operation => operation matches .pop

@[simp] theorem pushes_nil : pushes ([] : List (Operation Item)) = 0 := rfl

@[simp] theorem pops_nil : pops ([] : List (Operation Item)) = 0 := rfl

@[simp] theorem pushes_append (first second : List (Operation Item)) :
    pushes (first ++ second) = pushes first + pushes second :=
  List.countP_append

@[simp] theorem pops_append (first second : List (Operation Item)) :
    pops (first ++ second) = pops first + pops second :=
  List.countP_append

@[simp] theorem pushes_push_cons (item : Item) (rest : List (Operation Item)) :
    pushes (.push item :: rest) = pushes rest + 1 :=
  List.countP_cons_of_pos rfl

@[simp] theorem pops_push_cons (item : Item) (rest : List (Operation Item)) :
    pops (.push item :: rest) = pops rest :=
  List.countP_cons_of_neg Bool.false_ne_true

@[simp] theorem pushes_pop_cons (rest : List (Operation Item)) :
    pushes (.pop :: rest) = pushes rest :=
  List.countP_cons_of_neg Bool.false_ne_true

@[simp] theorem pops_pop_cons (rest : List (Operation Item)) :
    pops (.pop :: rest) = pops rest + 1 :=
  List.countP_cons_of_pos rfl

@[simp] theorem pushes_peek_cons (rest : List (Operation Item)) :
    pushes (.peek :: rest) = pushes rest :=
  List.countP_cons_of_neg Bool.false_ne_true

@[simp] theorem pops_peek_cons (rest : List (Operation Item)) :
    pops (.peek :: rest) = pops rest :=
  List.countP_cons_of_neg Bool.false_ne_true

/-- The numbers with one more put. -/
theorem counts_concat_push (done : List (Operation Item)) (item : Item) :
    pushes (done ++ [.push item]) = pushes done + 1 ∧
      pops (done ++ [.push item]) = pops done := by
  simp

/-- The numbers with one more attempt to take. -/
theorem counts_concat_pop (done : List (Operation Item)) :
    pushes (done ++ [.pop]) = pushes done ∧ pops (done ++ [.pop]) = pops done + 1 := by
  simp

/-- The numbers with one more look at the top. -/
theorem counts_concat_peek (done : List (Operation Item)) :
    pushes (done ++ [.peek]) = pushes done ∧ pops (done ++ [.peek]) = pops done := by
  simp

/-- The numbers before and after a put. -/
theorem counts_append_push_cons
    (before : List (Operation Item))
    (item : Item)
    (between : List (Operation Item)) :
    pushes (before ++ .push item :: between) = pushes before + (pushes between + 1) ∧
      pops (before ++ .push item :: between) = pops before + pops between := by
  simp

/-- An operation makes a stack larger by what it puts, and smaller by what it takes. -/
theorem size_perform (stack : Stack Item) (operation : Operation Item) :
    (stack.perform operation).size + (stack.takenBy operation).length =
      stack.size + pushes [operation] := by
  obtain ⟨items⟩ := stack
  cases operation with
  | push item => rfl
  | peek => rfl
  | pop => cases items <;> rfl

/-- The size is that at first and the number of puts, less what was taken. -/
theorem size_performAll (stack : Stack Item) (operations : List (Operation Item)) :
    (stack.performAll operations).size + (stack.taken operations).length =
      stack.size + pushes operations := by
  induction operations generalizing stack with
  | nil => rfl
  | cons operation rest inductionHypothesis =>
      have step := stack.size_perform operation
      have run := inductionHypothesis (stack.perform operation)
      have counts := pushes_append [operation] rest
      rw [List.singleton_append] at counts
      rw [taken, List.length_append, performAll, List.foldl_cons, ← performAll]
      omega

/-! ## Balanced operations -/

/-- No start of the operations takes more than it puts. -/
def IsCovered (operations : List (Operation Item)) : Prop :=
  ∀ start, start <+: operations -> pops start ≤ pushes start

/-- No start of the operations takes more than it puts, and all of them take as many as
they put. -/
structure IsBalanced (operations : List (Operation Item)) : Prop where
  covered : IsCovered operations
  pushes_eq_pops : pushes operations = pops operations

instance (operations : List (Operation Item)) : Decidable (IsCovered operations) :=
  decidable_of_iff (∀ start ∈ operations.inits, pops start ≤ pushes start)
    (by simp only [List.mem_inits, IsCovered])

instance (operations : List (Operation Item)) : Decidable (IsBalanced operations) :=
  decidable_of_iff (IsCovered operations ∧ pushes operations = pops operations)
    ⟨fun both => ⟨both.1, both.2⟩, fun balanced => ⟨balanced.covered, balanced.pushes_eq_pops⟩⟩

theorem IsCovered.of_append
    {first second : List (Operation Item)}
    (covered : IsCovered (first ++ second)) :
    IsCovered first := by
  intro start isStart
  exact covered start (isStart.trans (List.prefix_append first second))

/-- Operations that take no more than they put leave what was there before. -/
theorem IsCovered.exists_above
    {operations : List (Operation Item)}
    (covered : IsCovered operations)
    (stack : Stack Item) :
    ∃ above, stack.performAll operations = mk (above ++ stack.items) ∧
      above.length + pops operations = pushes operations := by
  induction operations using List.reverseRecOn with
  | nil => exact ⟨[], rfl, rfl⟩
  | append_singleton done operation inductionHypothesis =>
      obtain ⟨above, reached, height⟩ := inductionHypothesis covered.of_append
      have enough := covered _ List.prefix_rfl
      rw [performAll_append, reached]
      cases operation with
      | push item =>
          have counts := counts_concat_push done item
          exact ⟨item :: above, rfl, by rw [List.length_cons]; omega⟩
      | peek =>
          have counts := counts_concat_peek done
          exact ⟨above, rfl, by omega⟩
      | pop =>
          have counts := counts_concat_pop done
          cases above with
          | nil =>
              -- Nothing would be left above, so this attempt is not covered.
              rw [List.length_nil] at height
              omega
          | cons top below =>
              rw [List.length_cons] at height
              exact ⟨below, rfl, by omega⟩

/-- Balanced operations leave a stack as it was. -/
theorem IsBalanced.performAll_eq
    {operations : List (Operation Item)}
    (balanced : IsBalanced operations)
    (stack : Stack Item) :
    stack.performAll operations = stack := by
  obtain ⟨above, reached, height⟩ := balanced.covered.exists_above stack
  rw [balanced.pushes_eq_pops] at height
  have noneAbove : above = [] := List.eq_nil_of_length_eq_zero (by omega)
  rw [reached, noneAbove, List.nil_append]

/-- Where more is put than taken, there is a last put that rises above a height. -/
theorem exists_last_rise
    {operations : List (Operation Item)}
    {height : Nat}
    (rises : pops operations + height < pushes operations) :
    ∃ before item between, operations = before ++ .push item :: between ∧
      pushes before = pops before + height ∧ IsCovered between := by
  induction operations using List.reverseRecOn with
  | nil => exact absurd rises (Nat.not_lt_zero _)
  | append_singleton done operation inductionHypothesis =>
      by_cases earlier : pops done + height < pushes done
      · obtain ⟨before, item, between, rfl, level, covered⟩ := inductionHypothesis earlier
        refine ⟨before, item, between ++ [operation], by simp, level, ?_⟩
        intro start isStart
        rcases List.prefix_concat_iff.mp isStart with rfl | isEarlierStart
        · rw [List.append_assoc, List.cons_append] at rises
          have counts := counts_append_push_cons before item (between ++ [operation])
          omega
        · exact covered start isEarlierStart
      · -- The operations before do not rise above the height, so the last one does.
        cases operation with
        | push item =>
            have counts := counts_concat_push done item
            refine ⟨done, item, [], rfl, by omega, ?_⟩
            intro start isStart
            rw [List.prefix_nil.mp isStart]
            exact Nat.le_refl 0
        | pop =>
            have counts := counts_concat_pop done
            omega
        | peek =>
            have counts := counts_concat_peek done
            omega

/-- Each attempt to take among balanced operations has a put that it is divided from by
balanced operations. -/
theorem IsBalanced.exists_matching
    {done later : List (Operation Item)}
    (balanced : IsBalanced (done ++ .pop :: later)) :
    ∃ before item between, done = before ++ .push item :: between ∧ IsBalanced between := by
  have enough := balanced.covered (done ++ [.pop]) (by simp)
  have counts := counts_concat_pop done
  -- The put is the last one that rises to the height before the attempt.
  have rises : pops done + (pushes done - pops done - 1) < pushes done := by omega
  obtain ⟨before, item, between, rfl, level, covered⟩ := exists_last_rise rises
  have countsThere := counts_append_push_cons before item between
  have bound := covered between List.prefix_rfl
  exact ⟨before, item, between, rfl, covered, by omega⟩

/-- After a put and balanced operations, what was put is taken, and the stack is as it was
before the put. -/
theorem IsBalanced.pop_performAll
    {between : List (Operation Item)}
    (balanced : IsBalanced between)
    (stack : Stack Item)
    (before : List (Operation Item))
    (item : Item) :
    (stack.performAll (before ++ .push item :: between)).pop =
      .ok (item, stack.performAll before) := by
  rw [performAll_append, performAll, List.foldl_cons, ← performAll, balanced.performAll_eq]
  exact pop_push _ item

/-- The law of a stack, for any operations on it. -/
structure IsLastInFirstOut (start : Stack Item) (operations : List (Operation Item)) : Prop where
  /-- An attempt to take returns the newest element that is left. -/
  pop_ok : ∀ item, (∃ rest, (start.performAll operations).pop = .ok (item, rest)) ↔
    ∃ place, IsNewest (historyOf start operations) place ∧
      (historyOf start operations)[place]? = some (.push item)
  /-- It fails exactly if nothing is left. -/
  pop_error : ∀ fault, (start.performAll operations).pop = .error fault ↔
    fault = .emptyContainer ∧ ∀ place, ¬IsLeft (historyOf start operations) place
  /-- A failed attempt leaves the stack as it was. -/
  failed_pop : ∀ fault, (start.performAll operations).pop = .error fault ->
    start.performAll (operations ++ [.pop]) = start.performAll operations
  /-- What is seen on top is what the next attempt to take returns. -/
  peek : ∀ item, (start.performAll operations).peek? = some item ↔
    ∃ rest, (start.performAll operations).pop = .ok (item, rest)
  /-- The size is that at first and the number of puts, less what was taken. -/
  size : (start.performAll operations).size + (start.taken operations).length =
    start.size + pushes operations
  /-- Balanced operations leave the stack as it was. -/
  balanced : IsBalanced operations -> start.performAll operations = start
  /-- After a put and balanced operations, an attempt takes what was put. -/
  matching : ∀ before item between, operations = before ++ .push item :: between ->
    IsBalanced between ->
      (start.performAll operations).pop = .ok (item, start.performAll before)
  /-- Each attempt among balanced operations comes after such a put and takes it. -/
  exists_matching : IsBalanced operations -> ∀ done later, operations = done ++ .pop :: later ->
    ∃ before item between, done = before ++ .push item :: between ∧ IsBalanced between ∧
      (start.performAll done).pop = .ok (item, start.performAll before)

/-- Every stack is last in, first out, whatever it holds at first. -/
theorem isLastInFirstOut (start : Stack Item) (operations : List (Operation Item)) :
    IsLastInFirstOut start operations := by
  obtain ⟨places, holds⟩ := exists_holds_historyOf start operations
  exact
    { pop_ok := holds.exists_pop_iff
      pop_error := holds.pop_eq_error_iff
      failed_pop := by
        intro fault failed
        rw [performAll_append]
        exact perform_pop_of_error failed
      peek := fun item => peek?_eq_some_iff
      size := start.size_performAll operations
      balanced := fun balanced => balanced.performAll_eq start
      matching := by
        rintro before item between rfl betweenBalanced
        exact betweenBalanced.pop_performAll start before item
      exists_matching := by
        rintro balanced done later rfl
        obtain ⟨before, item, between, rfl, betweenBalanced⟩ := balanced.exists_matching
        exact ⟨before, item, between, rfl, betweenBalanced,
          betweenBalanced.pop_performAll start before item⟩ }

/-- Two elements that are put on a stack of one and taken again. -/
theorem isLastInFirstOut_twoPutAndTaken :
    IsBalanced [.push 1, .push 2, .pop, .pop] ∧
      (mk [7]).performAll [.push 1, .push 2, .pop, .pop] = mk [7] ∧
      ((mk [7]).performAll [.push 1, .push 2, .pop]).pop = .ok (1, mk [7]) := by
  have outer : IsBalanced [.push 1, .push 2, .pop, .pop] := by decide
  have inner : IsBalanced [.push 2, .pop] := by decide
  refine ⟨outer, ?_, ?_⟩
  · exact (isLastInFirstOut (mk [7]) _).balanced outer
  · exact (isLastInFirstOut (mk [7]) _).matching [] 1 _ rfl inner

end Stack
end PostfixCalculator
