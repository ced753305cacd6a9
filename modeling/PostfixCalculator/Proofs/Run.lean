import Mathlib.Data.List.Induction
import PostfixCalculator.Run

/-!
# Taking a run apart

A run that succeeds has succeeded at every step, so it can be cut after any
number of items. A run over two lists in a row is a run over the second from
the state that the first has reached, and the first failure is the failure of
the whole.

What each step keeps is kept by a run: an invariant of the items and the state, a
view under which the steps are those of another run, and a change of the states, of the
items or of the failures that every step carries along.

A run visits a state for each item before the first that fails, and for all of them if
none does: where it stops is the number of states that it visits.
-/

namespace PostfixCalculator
namespace Run

variable {State Item Failure Result : Type}

@[simp] theorem ok_bind
    (state : State)
    (next : State -> Except Failure Result) :
    (Except.ok state >>= next) = next state := rfl

@[simp] theorem error_bind
    (failure : Failure)
    (next : State -> Except Failure Result) :
    (Except.error failure >>= next) = .error failure := rfl

@[simp] theorem map_ok
    (change : State -> Result)
    (state : State) :
    (Except.ok state : Except Failure State).map change = .ok (change state) := rfl

@[simp] theorem map_error
    (change : State -> Result)
    (failure : Failure) :
    (Except.error failure : Except Failure State).map change = .error failure := rfl

@[simp] theorem mapError_ok {OtherFailure : Type}
    (report : Failure -> OtherFailure)
    (state : State) :
    (Except.ok state).mapError report = .ok state := rfl

@[simp] theorem mapError_error {OtherFailure : Type}
    (report : Failure -> OtherFailure)
    (failure : Failure) :
    (Except.error failure : Except Failure State).mapError report =
      .error (report failure) := rfl

theorem mapError_id (computation : Except Failure State) :
    computation.mapError id = computation := by
  cases computation <;> rfl

/-- Nothing changes if the failure that a computation may have is left as it is. -/
theorem mapError_eq_self
    {computation : Except Failure State}
    {report : Failure -> Failure}
    (unchanged : ∀ failure, computation = .error failure -> report failure = failure) :
    computation.mapError report = computation := by
  cases computation with
  | error failure => rw [mapError_error, unchanged failure rfl]
  | ok state => rfl

/-- A computation with its result changed succeeds exactly if it does. -/
theorem map_eq_ok_iff
    {computation : Except Failure State}
    {change : State -> Result}
    {result : Result} :
    computation.map change = .ok result ↔
      ∃ state, computation = .ok state ∧ result = change state := by
  cases computation with
  | error failure => simp
  | ok state => simp [eq_comm]

/-- A computation with its result changed fails exactly as it does. -/
theorem map_eq_error_iff
    {computation : Except Failure State}
    {change : State -> Result}
    {failure : Failure} :
    computation.map change = .error failure ↔ computation = .error failure := by
  cases computation with
  | error other => simp
  | ok state => simp

/-- Two computations in a row succeed if the first yields something from which
the second succeeds. -/
theorem bind_eq_ok_iff
    {first : Except Failure State}
    {next : State -> Except Failure Result}
    {result : Result} :
    first >>= next = .ok result ↔
      ∃ state, first = .ok state ∧ next state = .ok result := by
  cases first with
  | error failure => simp
  | ok state => simp

/-- Two computations in a row fail as the first does, or as the second does from
what the first yields. -/
theorem bind_eq_error_iff
    {first : Except Failure State}
    {next : State -> Except Failure Result}
    {failure : Failure} :
    first >>= next = .error failure ↔
      first = .error failure ∨ ∃ state, first = .ok state ∧ next state = .error failure := by
  cases first with
  | error failure => simp
  | ok state => simp

/-- A run over a longer list takes one more step. -/
theorem foldlM_concat
    (step : State -> Item -> Except Failure State)
    (state : State)
    (items : List Item)
    (item : Item) :
    (items ++ [item]).foldlM step state =
      items.foldlM step state >>= fun reached => step reached item := by
  rw [List.foldlM_append]
  cases items.foldlM step state with
  | error failure => rfl
  | ok reached =>
      rw [ok_bind, ok_bind, List.foldlM_cons]
      cases step reached item <;> rfl

/-- What holds at first and is kept by every step that succeeds, holds of the
items and the state of a run that succeeds. -/
theorem foldlM_induction
    {motive : List Item -> State -> Prop}
    {step : State -> Item -> Except Failure State}
    {state reached : State}
    {items : List Item}
    (first : motive [] state)
    (keeps : ∀ done current item next, motive done current ->
      step current item = .ok next -> motive (done ++ [item]) next)
    (ran : items.foldlM step state = .ok reached) :
    motive items reached := by
  induction items using List.reverseRecOn generalizing reached with
  | nil =>
      cases ran
      exact first
  | append_singleton done item inductionHypothesis =>
      rw [foldlM_concat] at ran
      obtain ⟨current, ranBefore, accepted⟩ := bind_eq_ok_iff.mp ran
      exact keeps done current item reached (inductionHypothesis ranBefore) accepted

/-- If a view of the states turns every step that succeeds into a step of another
run, it turns a run that succeeds into a run. -/
theorem foldlM_ok_of_step {OtherState : Type}
    {step : State -> Item -> Except Failure State}
    {otherStep : OtherState -> Item -> Except Failure OtherState}
    {view : State -> OtherState}
    (turns : ∀ state item next, step state item = .ok next ->
      otherStep (view state) item = .ok (view next))
    {items : List Item}
    {state reached : State}
    (ran : items.foldlM step state = .ok reached) :
    items.foldlM otherStep (view state) = .ok (view reached) := by
  induction items generalizing state with
  | nil =>
      cases ran
      rfl
  | cons item rest inductionHypothesis =>
      obtain ⟨next, accepted, ran⟩ := bind_eq_ok_iff.mp ran
      rw [List.foldlM_cons, turns state item next accepted]
      exact inductionHypothesis ran

/-- If each step of a run, with the states, the item and the failure changed, is a step
of another run, then the whole run is so changed a run. -/
theorem foldlM_translated {OtherState OtherItem OtherFailure : Type}
    {step : State -> Item -> Except Failure State}
    {otherStep : OtherState -> OtherItem -> Except OtherFailure OtherState}
    {view : State -> OtherState}
    {write : Item -> OtherItem}
    {report : Failure -> OtherFailure}
    {items : List Item}
    (translated : ∀ state, ∀ item ∈ items,
      otherStep (view state) (write item) = ((step state item).map view).mapError report)
    (state : State) :
    (items.map write).foldlM otherStep (view state) =
      ((items.foldlM step state).map view).mapError report := by
  induction items generalizing state with
  | nil => rfl
  | cons item rest inductionHypothesis =>
      rw [List.map_cons, List.foldlM_cons, List.foldlM_cons,
        translated state item List.mem_cons_self]
      cases step state item with
      | error failure => rfl
      | ok next =>
          apply inductionHypothesis
          intro current other present
          exact translated current other (List.mem_cons_of_mem item present)

/-- A change of the state that each step carries along is carried along by a
whole run. -/
theorem foldlM_map
    {step : State -> Item -> Except Failure State}
    {change : State -> State}
    (carried : ∀ state item, step (change state) item = (step state item).map change)
    (items : List Item)
    (state : State) :
    items.foldlM step (change state) = (items.foldlM step state).map change := by
  have whole : (items.map id).foldlM step (change state) =
      ((items.foldlM step state).map change).mapError id := by
    apply foldlM_translated
    intro current item _
    rw [mapError_id, id_eq, carried]
  rwa [List.map_id, mapError_id] at whole

/-- Runs whose steps are the same are the same. -/
theorem foldlM_congr
    {step otherStep : State -> Item -> Except Failure State}
    {items : List Item}
    (same : ∀ state, ∀ item ∈ items, step state item = otherStep state item)
    (state : State) :
    items.foldlM step state = items.foldlM otherStep state := by
  have whole : (items.map id).foldlM step (id state) =
      ((items.foldlM otherStep state).map id).mapError id := by
    apply foldlM_translated
    intro current item present
    rw [mapError_id, Except.map_id, id_eq, id_eq, id_eq, same current item present]
  rwa [List.map_id, mapError_id, Except.map_id] at whole

/-- A run fails exactly if it reaches a state in which the next step fails. -/
theorem foldlM_eq_error_iff
    {step : State -> Item -> Except Failure State}
    {items : List Item}
    {state : State}
    {failure : Failure} :
    items.foldlM step state = .error failure ↔
      ∃ done item rest reached, items = done ++ item :: rest ∧
        done.foldlM step state = .ok reached ∧ step reached item = .error failure := by
  constructor
  · intro failed
    induction items generalizing state with
    | nil => cases failed
    | cons first others inductionHypothesis =>
        rcases bind_eq_error_iff.mp failed with refused | ⟨next, accepted, failedLater⟩
        · exact ⟨[], first, others, state, rfl, rfl, refused⟩
        · obtain ⟨done, item, rest, reached, rfl, ran, refused⟩ :=
            inductionHypothesis failedLater
          refine ⟨first :: done, item, rest, reached, rfl, ?_, refused⟩
          rw [List.foldlM_cons, accepted, ok_bind, ran]
  · rintro ⟨done, item, rest, reached, rfl, ran, refused⟩
    rw [List.foldlM_append, ran, ok_bind, List.foldlM_cons, refused, error_bind]

/-- The states that a run visits are those that it reaches over the starts of its
items. -/
theorem getElem?_visited_eq_some_iff
    {step : State -> Item -> Except Failure State}
    {items : List Item}
    {state reached : State}
    {position : Nat} :
    (visited step state items)[position]? = some reached ↔
      position < items.length ∧
        (items.take (position + 1)).foldlM step state = .ok reached := by
  induction items generalizing state position with
  | nil => simp
  | cons item rest inductionHypothesis =>
      rw [List.take_succ_cons, List.foldlM_cons]
      cases result : step state item with
      | error failure => simp [visited_cons_of_error result]
      | ok next =>
          rw [visited_cons_of_ok result, ok_bind]
          cases position with
          | zero => simp [pure, Except.pure]
          | succ position =>
              rw [List.getElem?_cons_succ, inductionHypothesis, List.length_cons,
                Nat.succ_lt_succ_iff]

/-- Each state that a run visits comes from the one before it, by the item at its
position. -/
theorem exists_step_of_getElem?_visited
    {step : State -> Item -> Except Failure State}
    {items : List Item}
    {state reached : State}
    {position : Nat}
    (isVisited : (visited step state items)[position]? = some reached) :
    ∃ previous item, (state :: visited step state items)[position]? = some previous ∧
      items[position]? = some item ∧ step previous item = .ok reached := by
  induction items generalizing state position with
  | nil => cases isVisited
  | cons item rest inductionHypothesis =>
      cases result : step state item with
      | error failure =>
          rw [visited_cons_of_error result] at isVisited
          cases isVisited
      | ok next =>
          rw [visited_cons_of_ok result] at isVisited ⊢
          cases position with
          | zero =>
              cases isVisited
              exact ⟨state, item, rfl, rfl, result⟩
          | succ position => exact inductionHypothesis isVisited

/-- A run gets to a position exactly if it visits as many states. -/
theorem exists_foldlM_take_iff
    {step : State -> Item -> Except Failure State}
    {items : List Item}
    {state : State}
    {position : Nat}
    (within : position ≤ items.length) :
    (∃ reached, (items.take position).foldlM step state = .ok reached) ↔
      position ≤ (visited step state items).length := by
  cases position with
  | zero => exact iff_of_true ⟨state, rfl⟩ (Nat.zero_le _)
  | succ position =>
      rw [Nat.succ_le_iff]
      constructor
      · rintro ⟨reached, ran⟩
        exact (List.getElem?_eq_some_iff.mp (getElem?_visited_eq_some_iff.mpr ⟨within, ran⟩)).1
      · intro visits
        exact ⟨_, (getElem?_visited_eq_some_iff.mp (List.getElem?_eq_getElem visits)).2⟩

/-- Where a run stops: before the first of its items that fails, or at their end where
none fails. -/
structure StopsAt (fails : Nat -> Prop) (length position : Nat) : Prop where
  within : position ≤ length
  noneBefore : ∀ earlier < position, ¬fails earlier
  failsThere : position < length -> fails position

/-- There is one place only where a run stops. -/
theorem StopsAt.unique
    {fails : Nat -> Prop}
    {length position other : Nat}
    (stops : StopsAt fails length position)
    (stopsToo : StopsAt fails length other) :
    position = other := by
  rcases Nat.lt_trichotomy position other with before | same | behind
  · exact absurd (stops.failsThere (Nat.lt_of_lt_of_le before stopsToo.within))
      (stopsToo.noneBefore position before)
  · exact same
  · exact absurd (stopsToo.failsThere (Nat.lt_of_lt_of_le behind stops.within))
      (stops.noneBefore other behind)

/-- A run in which nothing fails stops at the end. -/
theorem StopsAt.eq_length
    {fails : Nat -> Prop}
    {length position : Nat}
    (stops : StopsAt fails length position)
    (noneFails : ∀ position, ¬fails position) :
    position = length := by
  by_contra different
  have inside := Nat.lt_of_le_of_ne stops.within different
  exact noneFails position (stops.failsThere inside)

/-- A run that visits a state for each item before a position gets there, and goes on with
the item that is there. -/
theorem exists_next_of_le_length_visited
    {step : State -> Item -> Except Failure State}
    {items : List Item}
    {state : State}
    {position : Nat}
    (visits : position ≤ (visited step state items).length)
    (inside : position < items.length) :
    ∃ item reached, items[position]? = some item ∧
      (items.take position).foldlM step state = .ok reached ∧
      (items.take (position + 1)).foldlM step state = step reached item := by
  obtain ⟨reached, ran⟩ := (exists_foldlM_take_iff (Nat.le_of_lt inside)).mpr visits
  have found := List.getElem?_eq_getElem inside
  refine ⟨_, reached, found, ran, ?_⟩
  rw [List.take_add_one, found, Option.toList_some, foldlM_concat, ran, ok_bind]

/-- A run visits one state for each item before the first that fails, if the items that
fail are those that the states which it reaches refuse. -/
theorem stopsAt_length_visited
    {step : State -> Item -> Except Failure State}
    {items : List Item}
    {state : State}
    {fails : Nat -> Prop}
    (fails_iff : ∀ position item reached, items[position]? = some item ->
      (items.take position).foldlM step state = .ok reached ->
        (fails position ↔ ∃ failure, step reached item = .error failure)) :
    StopsAt fails items.length (visited step state items).length where
  within := length_visited_le step state items
  noneBefore := by
    intro earlier before failsEarlier
    have inside := Nat.lt_of_lt_of_le before (length_visited_le step state items)
    obtain ⟨item, reached, found, ran, goesOn⟩ :=
      exists_next_of_le_length_visited (Nat.le_of_lt before) inside
    obtain ⟨failure, refused⟩ := (fails_iff earlier item reached found ran).mp failsEarlier
    -- A state is visited after the item, and so it cannot be refused.
    obtain ⟨after, ranAfter⟩ := (exists_foldlM_take_iff inside).mpr before
    cases (goesOn.trans refused).symm.trans ranAfter
  failsThere := by
    intro inside
    obtain ⟨item, reached, found, ran, goesOn⟩ :=
      exists_next_of_le_length_visited (Nat.le_refl _) inside
    refine (fails_iff _ item reached found ran).mpr ?_
    cases result : step reached item with
    | error failure => exact ⟨failure, rfl⟩
    | ok after =>
        -- Otherwise one more state would be visited.
        have further := (exists_foldlM_take_iff inside).mp ⟨after, goesOn.trans result⟩
        exact absurd further (Nat.not_succ_le_self _)

end Run
end PostfixCalculator
