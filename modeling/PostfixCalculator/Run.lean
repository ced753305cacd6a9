/-!
# Runs that stop at the first failure

A run takes the items of a list one after the other, each changing a state or
failing. The result of a run is `List.foldlM`; this module adds the states that
a run visits on its way, which exist also for a run that fails.

The lemmas follow a run from its first item on; it visits at most one state for
each item.
-/

namespace PostfixCalculator
namespace Run

variable {State Item Failure : Type}

/-- The states after each item, up to the first item that fails. -/
def visited
    (step : State -> Item -> Except Failure State)
    (state : State) : List Item -> List State
  | [] => []
  | item :: rest =>
      match step state item with
      | .ok next => next :: visited step next rest
      | .error _ => []

@[simp] theorem visited_nil
    (step : State -> Item -> Except Failure State)
    (state : State) :
    visited step state [] = [] := rfl

theorem visited_cons_of_ok
    {step : State -> Item -> Except Failure State}
    {state next : State}
    {item : Item}
    (accepted : step state item = .ok next)
    (rest : List Item) :
    visited step state (item :: rest) = next :: visited step next rest := by
  simp [visited, accepted]

theorem visited_cons_of_error
    {step : State -> Item -> Except Failure State}
    {state : State}
    {failure : Failure}
    {item : Item}
    (refused : step state item = .error failure)
    (rest : List Item) :
    visited step state (item :: rest) = [] := by
  simp [visited, refused]

/-- A run visits at most one state for each item. -/
theorem length_visited_le
    (step : State -> Item -> Except Failure State)
    (state : State)
    (items : List Item) :
    (visited step state items).length ≤ items.length := by
  induction items generalizing state with
  | nil => simp
  | cons item rest inductionHypothesis =>
      cases result : step state item with
      | error failure => simp [visited_cons_of_error result]
      | ok next =>
          simpa [visited_cons_of_ok result] using inductionHypothesis next

end Run
end PostfixCalculator
