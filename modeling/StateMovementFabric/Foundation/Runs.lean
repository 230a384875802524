import Mathlib.Data.List.Basic
import Mathlib.Logic.Function.Iterate

namespace StateMovementFabric
namespace Foundation

/-!
# Runs

A system takes one action after another.  What every step keeps holds after every run;
what only some steps keep holds after the runs that are made of such steps.
-/

section Runs

variable {State Act : Type} (step : State -> Act -> State)

/-- The state after a list of actions. -/
def runFrom (state : State) (actions : List Act) : State := actions.foldl step state

/-- A condition on every action and on the state in which it is taken. -/
def everyStep (condition : State -> Act -> Bool) : State -> List Act -> Bool
  | _, [] => true
  | state, action :: rest => condition state action && everyStep condition (step state action) rest

variable {step} {condition : State -> Act -> Bool} {invariant : State -> Prop}

/-- What every step keeps that meets the condition holds after every run whose steps all
meet it. -/
theorem runFrom_invariant_of_everyStep {state : State} {actions : List Act}
    (meets : everyStep step condition state actions = true) (holds : invariant state)
    (keeps : forall state action, invariant state -> condition state action = true ->
      invariant (step state action)) : invariant (runFrom step state actions) := by
  induction actions generalizing state with
  | nil => exact holds
  | cons action rest ih =>
      rw [everyStep, Bool.and_eq_true] at meets
      exact ih meets.2 (keeps state action holds meets.1)

/-- Two conditions on every step are one. -/
theorem everyStep_and {also : State -> Act -> Bool} {state : State} {actions : List Act}
    (first : everyStep step condition state actions = true)
    (second : everyStep step also state actions = true) :
    everyStep step (fun state action => condition state action && also state action) state
      actions = true := by
  induction actions generalizing state with
  | nil => rfl
  | cons action rest ih =>
      rw [everyStep, Bool.and_eq_true] at first second ⊢
      exact ⟨Bool.and_eq_true_iff.mpr ⟨first.1, second.1⟩, ih first.2 second.2⟩

theorem everyStep_append (state : State) (first second : List Act) :
    everyStep step condition state (first ++ second) =
      (everyStep step condition state first &&
        everyStep step condition (runFrom step state first) second) := by
  induction first generalizing state with
  | nil => rfl
  | cons action rest ih =>
      change (_ && everyStep step condition _ (rest ++ second)) = _
      rw [ih, ← Bool.and_assoc]
      rfl

end Runs

/-! ## While loops that end -/

section Loops

variable {State : Type} (guard : State -> Bool) (step : State -> State)

/-- The loop takes so many steps and then stops in `last`. -/
structure Ends (state : State) (steps : Nat) (last : State) : Prop where
  reaches : step^[steps] state = last
  runs : forall earlier, earlier < steps -> guard (step^[earlier] state) = true
  stops : guard last = false

variable {guard step} {state last : State} {steps : Nat}

theorem ends_of_stopped (stopped : guard state = false) : Ends guard step state 0 state where
  reaches := rfl
  runs earlier impossible := absurd impossible (Nat.not_lt_zero earlier)
  stops := stopped

/-- One step in front of a loop that ends. -/
theorem Ends.cons (continues : guard state = true)
    (ends : Ends guard step (step state) steps last) :
    Ends guard step state (steps + 1) last where
  reaches := by
    rw [Function.iterate_succ_apply]
    exact ends.reaches
  runs earlier below := by
    cases earlier with
    | zero => exact continues
    | succ earlier =>
        rw [Function.iterate_succ_apply]
        exact ends.runs earlier (Nat.lt_of_succ_lt_succ below)
  stops := ends.stops

end Loops

end Foundation
end StateMovementFabric
