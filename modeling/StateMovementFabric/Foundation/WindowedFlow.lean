import Mathlib.Data.Nat.Basic

namespace StateMovementFabric
namespace Foundation

/-!
# Windowed flow control

A sender pushes items one after another and, whenever it has pushed a whole number of
windows, waits for one acknowledgement.  A receiver pulls the items in order and
acknowledges whenever it has pulled a whole number of windows.  The counters of the two
sides stay in phase.
-/

/-- How far the two sides are: items pushed and pulled, acknowledgements taken, and
whether the sender waits for one. -/
structure WindowedFlow where
  pushed : Nat := 0
  waiting : Bool := false
  taken : Nat := 0
  pulled : Nat := 0
  deriving DecidableEq, Repr

namespace WindowedFlow

variable (window : Nat)

/-- The acknowledgements that the receiver has sent. -/
def acked (flow : WindowedFlow) : Nat := flow.pulled / window

/-- The items that were pushed and not yet acknowledged. -/
def unacknowledged (flow : WindowedFlow) : Nat := flow.pushed - window * flow.acked window

def push (flow : WindowedFlow) : WindowedFlow :=
  { flow with pushed := flow.pushed + 1, waiting := (flow.pushed + 1) % window == 0 }

def take (flow : WindowedFlow) : WindowedFlow :=
  { flow with taken := flow.taken + 1, waiting := false }

def pull (flow : WindowedFlow) : WindowedFlow := { flow with pulled := flow.pulled + 1 }

/-- The receiver is behind the sender and the sender behind the acknowledgements; while it
waits, exactly one acknowledgement is due. -/
structure InPhase (flow : WindowedFlow) : Prop where
  behind : flow.pulled ≤ flow.pushed
  taken : flow.taken ≤ flow.acked window
  due : flow.taken + flow.waiting.toNat = flow.pushed / window
  full : flow.waiting = true -> flow.pushed % window = 0

variable {window}

theorem inPhase_start : InPhase window {} where
  behind := Nat.le_refl 0
  taken := Nat.zero_le _
  due := (Nat.zero_div window).symm
  full := nofun

variable {flow : WindowedFlow}

theorem succ_div_eq (window count : Nat) :
    (count + 1) / window = count / window + ((count + 1) % window == 0).toNat := by
  rw [Nat.succ_div]
  by_cases whole : window ∣ count + 1
  · rw [if_pos whole, Nat.mod_eq_zero_of_dvd whole]
    rfl
  · rw [if_neg whole]
    have rest : ((count + 1) % window == 0) = false :=
      beq_false_of_ne fun zero => whole (Nat.dvd_of_mod_eq_zero zero)
    rw [rest]
    rfl

/-- An acknowledgement is sent with the last item of a window. -/
theorem acked_pull (flow : WindowedFlow) :
    flow.pull.acked window = flow.acked window + ((flow.pulled + 1) % window == 0).toNat :=
  succ_div_eq window flow.pulled

theorem InPhase.push (inPhase : InPhase window flow) (free : flow.waiting = false) :
    InPhase window (flow.push window) where
  behind := Nat.le_succ_of_le inPhase.behind
  taken := inPhase.taken
  due := by
    have due := inPhase.due
    rw [free] at due
    change flow.taken + ((flow.pushed + 1) % window == 0).toNat = (flow.pushed + 1) / window
    rw [succ_div_eq, ← due]
    rfl
  full := fun waits => beq_iff_eq.mp waits

theorem InPhase.take (inPhase : InPhase window flow) (waits : flow.waiting = true)
    (arrived : flow.taken < flow.acked window) : InPhase window flow.take where
  behind := inPhase.behind
  taken := arrived
  due := by
    have due := inPhase.due
    rw [waits] at due
    exact due
  full := nofun

theorem InPhase.pull (inPhase : InPhase window flow) (sent : flow.pulled < flow.pushed) :
    InPhase window flow.pull where
  behind := sent
  taken := Nat.le_trans inPhase.taken (Nat.div_le_div_right (Nat.le_succ _))
  due := inPhase.due
  full := inPhase.full

/-- A sender that waits is never forgotten: an item is on its way to the receiver, or the
acknowledgement on its way back. -/
theorem InPhase.arrives (inPhase : InPhase window flow) (waits : flow.waiting = true)
    (emptied : flow.pulled = flow.pushed) : flow.taken < flow.acked window := by
  have due := inPhase.due
  rw [waits] at due
  change flow.taken < flow.pulled / window
  rw [emptied, ← due]
  exact Nat.lt_succ_self _

/-- No more than a window of items is ever unacknowledged. -/
theorem InPhase.unacknowledged_le (inPhase : InPhase window flow) (positive : 0 < window) :
    flow.unacknowledged window ≤ window := by
  have due := inPhase.due
  have taken := inPhase.taken
  have split := Nat.div_add_mod flow.pushed window
  have rest := Nat.mod_lt flow.pushed positive
  have reached : window * flow.taken ≤ window * flow.acked window := Nat.mul_le_mul_left window taken
  unfold unacknowledged
  cases waits : flow.waiting with
  | false =>
      rw [waits] at due
      change flow.taken + 0 = _ at due
      rw [← due, Nat.add_zero] at split
      omega
  | true =>
      rw [waits] at due
      change flow.taken + 1 = _ at due
      rw [← due, inPhase.full waits, Nat.mul_succ] at split
      omega

/-- A sender that does not wait has taken every acknowledgement. -/
theorem InPhase.acked_eq_taken (inPhase : InPhase window flow) (free : flow.waiting = false) :
    flow.acked window = flow.taken := by
  refine Nat.le_antisymm ?_ inPhase.taken
  have due := inPhase.due
  rw [free] at due
  change flow.pulled / window ≤ flow.taken
  calc flow.pulled / window ≤ flow.pushed / window := Nat.div_le_div_right inPhase.behind
    _ = flow.taken := due.symm

end WindowedFlow

end Foundation
end StateMovementFabric
