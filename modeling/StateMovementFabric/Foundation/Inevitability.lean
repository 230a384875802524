import Mathlib.Data.List.Basic

namespace StateMovementFabric
namespace Foundation

/-!
# Inevitable outcomes

A system whose parties move in any order reaches an outcome inevitably when every way of
going on ends, and ends in that outcome.  Nothing is assumed about fairness: a party that
can move and never does would be a run that does not end.
-/

section Inevitability

variable {State Act : Type} (step : State -> Act -> Option State)

/-- No party can move. -/
def Stuck (state : State) : Prop := forall act, step state act = none

/-- Every run from the state ends, in a state that meets the goal. -/
inductive Inevitable (goal : State -> Prop) : State -> Prop where
  | intro (state : State) (ends : Stuck step state -> goal state)
      (goesOn : forall act next, step state act = some next -> Inevitable goal next) :
      Inevitable goal state

variable {step} {goal : State -> Prop}

theorem Inevitable.step_of {state next : State} (inevitable : Inevitable step goal state) {act : Act}
    (moved : step state act = some next) : Inevitable step goal next := by
  cases inevitable with
  | intro _ _ goesOn => exact goesOn act next moved

theorem Inevitable.goal_of_stuck {state : State} (inevitable : Inevitable step goal state)
    (stuck : Stuck step state) : goal state := by
  cases inevitable with
  | intro _ ends _ => exact ends stuck

/-- A rank that falls with every move bounds all runs. -/
theorem inevitable_of_rank {invariant : Nat -> State -> Prop}
    (ends : forall rank state, invariant rank state -> Stuck step state -> goal state)
    (falls : forall rank state act next, invariant rank state -> step state act = some next ->
      exists lower, lower < rank ∧ invariant lower next)
    {rank : Nat} {state : State} (holds : invariant rank state) : Inevitable step goal state := by
  induction rank using Nat.strongRecOn generalizing state with
  | ind rank ih =>
      refine .intro state (ends rank state holds) fun act next moved => ?_
      rcases falls rank state act next holds moved with ⟨lower, below, kept⟩
      exact ih lower below kept

/-- The system in which only moves that meet a condition are made. -/
def restricted (condition : State -> Act -> Bool) (step : State -> Act -> Option State)
    (state : State) (act : Act) : Option State :=
  if condition state act then step state act else none

theorem restricted_eq_some {condition : State -> Act -> Bool} {state next : State} {act : Act} :
    restricted condition step state act = some next ↔
      condition state act = true ∧ step state act = some next := by
  unfold restricted
  split
  · rename_i meets
    exact ⟨fun moved => ⟨meets, moved⟩, fun both => both.2⟩
  · rename_i fails
    exact ⟨fun impossible => (by cases impossible), fun both => absurd both.1 fails⟩

/-- Take the moves of a list one after another. -/
def follow (step : State -> Act -> Option State) : State -> List Act -> Option State
  | state, [] => some state
  | state, act :: rest => (step state act).bind fun next => follow step next rest

/-- What every move keeps holds wherever the moves of a list lead. -/
theorem follow_invariant {invariant : State -> Prop}
    (keeps : forall state act next, invariant state -> step state act = some next -> invariant next)
    {state last : State} {acts : List Act} (holds : invariant state)
    (followed : follow step state acts = some last) : invariant last := by
  induction acts generalizing state with
  | nil =>
      cases followed
      exact holds
  | cons act rest ih =>
      rcases Option.bind_eq_some_iff.mp followed with ⟨next, moved, later⟩
      exact ih (keeps state act next holds moved) later

/-- One run that ends elsewhere is enough to make an outcome avoidable. -/
theorem not_inevitable_of_follow {state last : State} {acts : List Act}
    (followed : follow step state acts = some last) (stuck : Stuck step last)
    (missed : ¬ goal last) : ¬ Inevitable step goal state := by
  intro inevitable
  induction acts generalizing state with
  | nil =>
      cases followed
      exact missed (inevitable.goal_of_stuck stuck)
  | cons act rest ih =>
      rcases Option.bind_eq_some_iff.mp followed with ⟨next, moved, later⟩
      exact ih later (inevitable.step_of moved)

end Inevitability

end Foundation
end StateMovementFabric
