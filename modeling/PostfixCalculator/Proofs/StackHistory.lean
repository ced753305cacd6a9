import Mathlib.Data.List.Forall2
import Mathlib.Data.List.Induction
import PostfixCalculator.Stack

/-!
# Which elements are left on a stack

A history is a sequence of operations on a stack. The history alone tells which put an
attempt to take belongs to: it is the last one before it that no earlier attempt belongs
to. The elements of the other puts are left.

The stack that a history leads to holds what is left, the newest on top. So an attempt to
take from it returns the newest element that is left, and fails exactly if there is none.
-/

namespace PostfixCalculator
namespace Stack

/-- What can be done with a stack. -/
inductive Operation (Item : Type)
  | push (item : Item)
  | pop
  | peek
  deriving DecidableEq, Repr

variable {Item : Type}

/-- The stack after an operation. To look at the top changes nothing, and neither does an
attempt to take that fails. -/
def perform (stack : Stack Item) : Operation Item -> Stack Item
  | .push item => stack.push item
  | .pop =>
      match stack.pop with
      | .ok (_, rest) => rest
      | .error _ => stack
  | .peek => stack

/-- The stack after some operations. -/
def performAll (stack : Stack Item) (operations : List (Operation Item)) : Stack Item :=
  operations.foldl perform stack

@[simp] theorem performAll_append (stack : Stack Item) (first second : List (Operation Item)) :
    stack.performAll (first ++ second) = (stack.performAll first).performAll second :=
  List.foldl_append

/-! ## One operation -/

/-- Taking succeeds exactly if there is a top. -/
theorem pop_eq_ok_iff {stack rest : Stack Item} {item : Item} :
    stack.pop = .ok (item, rest) ↔ stack.items = item :: rest.items := by
  obtain ⟨items⟩ := stack
  cases items with
  | nil => simp [pop]
  | cons top below =>
      obtain ⟨others⟩ := rest
      simp [pop]

/-- Taking fails exactly if there is nothing, and in one way. -/
theorem pop_eq_error_iff {stack : Stack Item} {fault : Fault} :
    stack.pop = .error fault ↔ fault = .emptyContainer ∧ stack.items = [] := by
  obtain ⟨items⟩ := stack
  cases items with
  | nil => simp [pop, eq_comm]
  | cons top below => simp [pop]

/-- The top that is seen is the one that would be taken. -/
theorem peek?_eq_some_iff {stack : Stack Item} {item : Item} :
    stack.peek? = some item ↔ ∃ rest, stack.pop = .ok (item, rest) := by
  constructor
  · exact exists_pop_of_peek?
  · rintro ⟨rest, taken⟩
    rw [peek?, pop_eq_ok_iff.mp taken, List.head?_cons]

/-- An attempt to take that fails leaves the stack as it was. -/
theorem perform_pop_of_error
    {stack : Stack Item}
    {fault : Fault}
    (failed : stack.pop = .error fault) :
    stack.perform .pop = stack := by
  rw [perform, failed]

/-! ## What is left -/

/-- The operation at a place of a history is a put. -/
def IsPut (history : List (Operation Item)) (place : Nat) : Prop :=
  ∃ item, history[place]? = some (.push item)

/-- The attempt at a time of a history takes what was put at a place: of the elements put
before, and not taken by an earlier attempt, it is the one put last. -/
def Takes (history : List (Operation Item)) (time place : Nat) : Prop :=
  history[time]? = some .pop ∧ place < time ∧ IsPut history place ∧
    (∀ earlier, earlier < time -> ¬Takes history earlier place) ∧
    ∀ later, place < later -> later < time -> IsPut history later ->
      ∃ earlier, ∃ _ : earlier < time, Takes history earlier later
termination_by time

/-- What was put at a place is not taken in the whole history. -/
def IsLeft (history : List (Operation Item)) (place : Nat) : Prop :=
  IsPut history place ∧ ∀ time, ¬Takes history time place

/-- What was put at a place is left, and nothing that was put later. -/
def IsNewest (history : List (Operation Item)) (place : Nat) : Prop :=
  IsLeft history place ∧ ∀ later, place < later -> ¬IsLeft history later

variable {history : List (Operation Item)} {operation : Operation Item} {time place : Nat}

theorem IsPut.lt_length (put : IsPut history place) : place < history.length := by
  obtain ⟨item, found⟩ := put
  exact (List.getElem?_eq_some_iff.mp found).1

theorem Takes.lt_length (takes : Takes history time place) : time < history.length := by
  rw [Takes] at takes
  exact (List.getElem?_eq_some_iff.mp takes.1).1

theorem Takes.place_lt (takes : Takes history time place) : place < time := by
  rw [Takes] at takes
  exact takes.2.1

theorem isPut_append_iff
    {more : List (Operation Item)}
    (within : place < history.length) :
    IsPut (history ++ more) place ↔ IsPut history place := by
  rw [IsPut, IsPut, List.getElem?_append_left within]

/-- Which put an attempt belongs to does not depend on what follows. -/
theorem takes_append_iff
    {more : List (Operation Item)}
    (within : time < history.length) :
    Takes (history ++ more) time place ↔ Takes history time place := by
  induction time using Nat.strongRecOn generalizing place with
  | ind time inductionHypothesis =>
      -- The earlier attempts tell which put this one belongs to, hence the induction on the time.
      have earlierTakes (earlier place : Nat) (before : earlier < time) :
          Takes (history ++ more) earlier place ↔ Takes history earlier place :=
        inductionHypothesis earlier before (Nat.lt_trans before within)
      rw [Takes, Takes, List.getElem?_append_left within]
      refine and_congr_right fun _ => and_congr_right fun before => ?_
      rw [isPut_append_iff (Nat.lt_trans before within)]
      refine and_congr_right fun _ => and_congr ?_ ?_
      · exact forall₂_congr fun earlier isEarlier =>
          not_congr (earlierTakes earlier place isEarlier)
      · refine forall₃_congr fun later isLater inTime => ?_
        rw [isPut_append_iff (Nat.lt_trans inTime within)]
        exact imp_congr_right fun _ => exists_congr fun earlier =>
          exists_congr fun isEarlier => earlierTakes earlier later isEarlier

/-- One more operation takes what was put at a place exactly if it is an attempt to take and
this is the newest element that is left. -/
theorem takes_length_iff :
    Takes (history ++ [operation]) history.length place ↔
      operation = .pop ∧ IsNewest history place := by
  have earlierTakes {earlier place : Nat} (before : earlier < history.length) :
      Takes (history ++ [operation]) earlier place ↔ Takes history earlier place :=
    takes_append_iff before
  rw [Takes, List.getElem?_concat_length, Option.some.injEq]
  refine and_congr_right fun _ => ?_
  constructor
  · rintro ⟨before, put, notEarlier, laterTaken⟩
    refine ⟨⟨(isPut_append_iff before).mp put, ?_⟩, ?_⟩
    · intro time takes
      exact notEarlier time takes.lt_length ((earlierTakes takes.lt_length).mpr takes)
    · rintro later isLater ⟨laterPut, laterLeft⟩
      obtain ⟨earlier, isEarlier, takes⟩ := laterTaken later isLater laterPut.lt_length
        ((isPut_append_iff laterPut.lt_length).mpr laterPut)
      exact laterLeft earlier ((earlierTakes isEarlier).mp takes)
  · rintro ⟨⟨put, left⟩, laterTaken⟩
    refine ⟨put.lt_length, (isPut_append_iff put.lt_length).mpr put, ?_, ?_⟩
    · intro earlier isEarlier takes
      exact left earlier ((earlierTakes isEarlier).mp takes)
    · intro later isLater within laterPut
      by_contra never
      refine laterTaken later isLater ⟨(isPut_append_iff within).mp laterPut, ?_⟩
      intro earlier takes
      exact never ⟨earlier, takes.lt_length, (earlierTakes takes.lt_length).mpr takes⟩

/-- What is left after one more operation was left and is not taken, or is put by it. -/
theorem isLeft_concat_iff :
    IsLeft (history ++ [operation]) place ↔
      (IsLeft history place ∧ ¬(operation = .pop ∧ IsNewest history place)) ∨
        (place = history.length ∧ ∃ item, operation = .push item) := by
  -- A place or a time is in the history before, or it is that of the operation.
  have lt_succ {time : Nat} (within : time < (history ++ [operation]).length) :
      time < history.length ∨ time = history.length := by
    rw [List.length_append, List.length_singleton] at within
    exact Nat.lt_succ_iff_lt_or_eq.mp within
  constructor
  · rintro ⟨put, left⟩
    rcases lt_succ put.lt_length with within | rfl
    · refine Or.inl ⟨⟨(isPut_append_iff within).mp put, ?_⟩, ?_⟩
      · intro time takes
        exact left time ((takes_append_iff takes.lt_length).mpr takes)
      · intro takesNewest
        exact left history.length (takes_length_iff.mpr takesNewest)
    · obtain ⟨item, found⟩ := put
      rw [List.getElem?_concat_length] at found
      exact Or.inr ⟨rfl, item, Option.some.inj found⟩
  · rintro (⟨⟨put, left⟩, notTaken⟩ | ⟨rfl, item, rfl⟩)
    · refine ⟨(isPut_append_iff put.lt_length).mpr put, ?_⟩
      intro time takes
      rcases lt_succ takes.lt_length with earlier | rfl
      · exact left time ((takes_append_iff earlier).mp takes)
      · exact notTaken (takes_length_iff.mp takes)
    · refine ⟨⟨item, List.getElem?_concat_length⟩, ?_⟩
      intro time takes
      have after := takes.place_lt
      rcases lt_succ takes.lt_length with earlier | rfl
      · omega
      · omega

/-- There is one newest element at most. -/
theorem IsNewest.unique
    {other : Nat}
    (newest : IsNewest history place)
    (newestToo : IsNewest history other) :
    place = other := by
  rcases Nat.lt_trichotomy place other with before | same | behind
  · exact absurd newestToo.1 (newest.2 other before)
  · exact same
  · exact absurd newest.1 (newestToo.2 place behind)

/-! ## What the stack holds -/

/-- A stack holds what is left of a history, from the newest on: the elements at these
places. -/
structure Holds
    (history : List (Operation Item))
    (places : List Nat)
    (stack : Stack Item) : Prop where
  newestFirst : places.Pairwise (· > ·)
  mem_iff : ∀ place, place ∈ places ↔ IsLeft history place
  items : List.Forall₂ (fun place item => history[place]? = some (.push item))
    places stack.items

namespace Holds

variable {places : List Nat} {stack : Stack Item}

/-- At first nothing is left. -/
theorem nil : Holds [] [] (empty : Stack Item) where
  newestFirst := .nil
  mem_iff := by
    intro place
    constructor
    · intro present
      exact absurd present List.not_mem_nil
    · rintro ⟨⟨item, found⟩, -⟩
      cases found
  items := .nil

/-- The elements are where they were put, whatever follows. -/
theorem items_append
    (holds : Holds history places stack)
    (more : List (Operation Item)) :
    List.Forall₂ (fun place item => (history ++ more)[place]? = some (.push item))
      places stack.items := by
  apply holds.items.imp
  intro place item found
  rw [List.getElem?_append_left (IsPut.lt_length ⟨item, found⟩), found]

/-- The first place is that of the newest element. -/
theorem isNewest
    {others : List Nat}
    (holds : Holds history (place :: others) stack) :
    IsNewest history place := by
  refine ⟨(holds.mem_iff place).mp List.mem_cons_self, ?_⟩
  intro later isLater isLeft
  rcases List.mem_cons.mp ((holds.mem_iff later).mpr isLeft) with rfl | inOthers
  · exact Nat.lt_irrefl later isLater
  · have older := (List.pairwise_cons.mp holds.newestFirst).1 later inOthers
    omega

/-- A put adds the newest element. -/
theorem push
    (holds : Holds history places stack)
    (item : Item) :
    Holds (history ++ [.push item]) (history.length :: places) (stack.push item) where
  newestFirst := by
    refine List.pairwise_cons.mpr ⟨?_, holds.newestFirst⟩
    intro place present
    exact ((holds.mem_iff place).mp present).1.lt_length
  mem_iff := by
    intro place
    rw [isLeft_concat_iff, List.mem_cons, holds.mem_iff]
    simp [or_comm]
  items := .cons List.getElem?_concat_length (holds.items_append _)

/-- To look at the top changes nothing. -/
theorem peek (holds : Holds history places stack) :
    Holds (history ++ [.peek]) places stack where
  newestFirst := holds.newestFirst
  mem_iff := by
    intro place
    rw [isLeft_concat_iff, holds.mem_iff]
    simp
  items := holds.items_append _

/-- An attempt to take where nothing is left changes nothing. -/
theorem pop_nil (holds : Holds history [] stack) :
    Holds (history ++ [.pop]) [] stack where
  newestFirst := holds.newestFirst
  mem_iff := by
    intro place
    have noneLeft := mt (holds.mem_iff place).mpr List.not_mem_nil
    rw [isLeft_concat_iff]
    simp [noneLeft]
  items := holds.items_append _

/-- Otherwise the newest element is taken. -/
theorem pop_cons
    {top : Item}
    {below : List Item}
    {others : List Nat}
    (holds : Holds history (place :: others) (Stack.mk (top :: below))) :
    Holds (history ++ [.pop]) others (Stack.mk below) where
  newestFirst := (List.pairwise_cons.mp holds.newestFirst).2
  mem_iff := by
    intro other
    have older := (List.pairwise_cons.mp holds.newestFirst).1
    have newest := holds.isNewest
    rw [isLeft_concat_iff, ← holds.mem_iff, List.mem_cons]
    constructor
    · intro inOthers
      refine Or.inl ⟨Or.inr inOthers, ?_⟩
      rintro ⟨-, newestToo⟩
      exact absurd (older other inOthers) (by rw [newest.unique newestToo]; exact Nat.lt_irrefl _)
    · rintro (⟨rfl | inOthers, notTaken⟩ | ⟨-, item, isPush⟩)
      · exact absurd ⟨rfl, newest⟩ notTaken
      · exact inOthers
      · cases isPush
  items := (List.forall₂_cons.mp (holds.items_append _)).2

/-- Each operation changes what the stack holds as it changes what is left. -/
theorem exists_perform
    (holds : Holds history places stack)
    (operation : Operation Item) :
    ∃ next, Holds (history ++ [operation]) next (stack.perform operation) := by
  cases operation with
  | push item => exact ⟨_, holds.push item⟩
  | peek => exact ⟨_, holds.peek⟩
  | pop =>
      obtain ⟨items⟩ := stack
      cases items with
      | nil =>
          obtain rfl := List.forall₂_nil_right_iff.mp holds.items
          exact ⟨_, holds.pop_nil⟩
      | cons top below =>
          obtain ⟨place, others, -, -, rfl⟩ := List.forall₂_cons_right_iff.mp holds.items
          exact ⟨_, holds.pop_cons⟩

/-- An attempt to take returns the newest element that is left. -/
theorem exists_pop_iff (holds : Holds history places stack) (item : Item) :
    (∃ rest, stack.pop = .ok (item, rest)) ↔
      ∃ place, IsNewest history place ∧ history[place]? = some (.push item) := by
  have items := holds.items
  constructor
  · rintro ⟨rest, taken⟩
    rw [pop_eq_ok_iff.mp taken] at items
    obtain ⟨place, others, found, -, rfl⟩ := List.forall₂_cons_right_iff.mp items
    exact ⟨place, holds.isNewest, found⟩
  · rintro ⟨place, newest, found⟩
    cases places with
    | nil => exact absurd ((holds.mem_iff place).mpr newest.1) List.not_mem_nil
    | cons first others =>
        obtain ⟨top, below, foundTop, -, isItems⟩ := List.forall₂_cons_left_iff.mp items
        rw [newest.unique holds.isNewest, foundTop] at found
        cases found
        exact ⟨Stack.mk below, pop_eq_ok_iff.mpr isItems⟩

/-- An attempt to take fails exactly if nothing is left. -/
theorem pop_eq_error_iff (holds : Holds history places stack) (fault : Fault) :
    stack.pop = .error fault ↔
      fault = .emptyContainer ∧ ∀ place, ¬IsLeft history place := by
  have items := holds.items
  rw [Stack.pop_eq_error_iff]
  refine and_congr_right fun _ => ?_
  constructor
  · intro isEmpty place isLeft
    rw [isEmpty] at items
    cases items
    exact absurd ((holds.mem_iff place).mpr isLeft) List.not_mem_nil
  · intro noneLeft
    cases places with
    | nil => exact List.forall₂_nil_left_iff.mp items
    | cons first others => exact absurd holds.isNewest.1 (noneLeft first)

end Holds

/-- The history of a stack that had elements before some operations. These count as put
from the bottom up. -/
def historyOf (start : Stack Item) (operations : List (Operation Item)) :
    List (Operation Item) :=
  start.toList.map .push ++ operations

/-- Its elements put from the bottom up make a stack. -/
theorem performAll_map_push (stack : Stack Item) :
    (empty : Stack Item).performAll (stack.toList.map .push) = stack := by
  obtain ⟨items⟩ := stack
  induction items with
  | nil => rfl
  | cons top below inductionHypothesis =>
      have inOrder : (mk (top :: below)).toList = (mk below).toList ++ [top] := List.reverse_cons
      rw [inOrder, List.map_append, performAll_append, inductionHypothesis]
      rfl

/-- The stack that a history leads to holds what is left of it. -/
theorem exists_holds (history : List (Operation Item)) :
    ∃ places, Holds history places ((empty : Stack Item).performAll history) := by
  induction history using List.reverseRecOn with
  | nil => exact ⟨[], .nil⟩
  | append_singleton done operation inductionHypothesis =>
      obtain ⟨places, holds⟩ := inductionHypothesis
      rw [performAll_append]
      exact holds.exists_perform operation

/-- After any operations, a stack holds what is left of its history. -/
theorem exists_holds_historyOf (start : Stack Item) (operations : List (Operation Item)) :
    ∃ places, Holds (historyOf start operations) places (start.performAll operations) := by
  have holds := exists_holds (historyOf start operations)
  rwa [historyOf, performAll_append, performAll_map_push] at holds

end Stack
end PostfixCalculator
