import StateMovementFabric.Foundation.Program
import Mathlib.Data.List.Perm.Subperm

namespace StateMovementFabric
namespace Foundation

/-!
# Threads

A thread is a program in execution: what it was started for, what it has done so
far, and what is left of it.  A guard that the program of a thread respects is
respected by the thread however its operations are answered, within what is possible,
and whatever else happens in between.
-/

structure Thread (signature : Signature) (Label α : Type) where
  call : Label
  history : Program.History signature
  program : Program signature α

namespace Thread

variable {signature : Signature} {Label α : Type}

def start (call : Label) (program : Program signature α) : Thread signature Label α :=
  ⟨call, [], program⟩

/-- The operation that the thread performs next, unless it has finished. -/
def pending (thread : Thread signature Label α) : Option signature.Op :=
  match thread.program with
  | .finish _ => none
  | .perform op _ => some op

/-- What a finished thread returned. -/
def result (thread : Thread signature Label α) : Option α :=
  match thread.program with
  | .finish value => some value
  | .perform _ _ => none

/-- The thread after its next operation. -/
def resume (thread : Thread signature Label α)
    (answer : forall op : signature.Op, signature.Reply op) : Thread signature Label α :=
  match thread.program with
  | .finish _ => thread
  | .perform op next =>
      { thread with
        history := thread.history ++ [⟨op, answer op⟩]
        program := next (answer op) }

@[simp] theorem resume_call (thread : Thread signature Label α)
    (answer : forall op : signature.Op, signature.Reply op) :
    (thread.resume answer).call = thread.call := by
  unfold resume
  split <;> rfl

theorem history_resume {thread : Thread signature Label α} {op : signature.Op}
    (pends : thread.pending = some op) (answer : forall op : signature.Op, signature.Reply op) :
    (thread.resume answer).history = thread.history ++ [⟨op, answer op⟩] := by
  unfold pending at pends
  unfold resume
  cases shape : thread.program with
  | finish value =>
      rw [shape] at pends
      cases pends
  | perform performed next =>
      rw [shape] at pends
      cases pends
      rfl

/-- The operation that the thread performs, or has performed, before any other. -/
def first (thread : Thread signature Label α) : Option signature.Op :=
  match thread.history with
  | [] => thread.pending
  | event :: _ => some event.op

theorem head_history (thread : Thread signature Label α) (begun : thread.history ≠ []) :
    thread.history.head?.map Event.op = thread.first := by
  unfold first
  cases history : thread.history with
  | nil => exact absurd history begun
  | cons event rest => rfl

@[simp] theorem resume_first (thread : Thread signature Label α)
    (answer : forall op : signature.Op, signature.Reply op) :
    (thread.resume answer).first = thread.first := by
  rcases thread with ⟨call, history, program⟩
  cases program with
  | finish value => rfl
  | perform op next => cases history <;> rfl

/-! ## Guards -/

/-- The rest of the thread respects the guard of its call. -/
def Follows (guard : Label -> Program.Guard signature) (thread : Thread signature Label α) : Prop :=
  Program.Guarded (guard thread.call) (fun _ _ => True) thread.history thread.program

variable {guard : Label -> Program.Guard signature} {thread : Thread signature Label α}

/-- What a thread does next is allowed. -/
theorem Follows.allowed (follows : thread.Follows guard) {op : signature.Op}
    (pends : thread.pending = some op) : guard thread.call thread.history op := by
  unfold Follows at follows
  unfold pending at pends
  cases shape : thread.program with
  | finish value =>
      rw [shape] at pends
      cases pends
  | perform performed next =>
      rw [shape] at pends follows
      cases pends
      exact follows.1

theorem Follows.resume (follows : thread.Follows guard)
    (answer : forall op : signature.Op, signature.Reply op)
    (possible : forall op, signature.Possible op (answer op)) :
    (thread.resume answer).Follows guard := by
  unfold Thread.resume
  cases shape : thread.program with
  | finish value => exact follows
  | perform op next =>
      unfold Follows at follows ⊢
      rw [shape] at follows
      exact follows.2 (answer op) (possible op)

/-! ## Results -/

/-- However the rest of the thread goes, it returns only what `done` allows. -/
def Ends (done : Label -> Program.History signature -> α -> Prop)
    (thread : Thread signature Label α) : Prop :=
  Program.Guarded (fun _ _ => True) (done thread.call) thread.history thread.program

theorem Ends.resume {done : Label -> Program.History signature -> α -> Prop}
    (ends : thread.Ends done) (answer : forall op : signature.Op, signature.Reply op)
    (possible : forall op, signature.Possible op (answer op)) : (thread.resume answer).Ends done := by
  unfold Thread.resume
  cases shape : thread.program with
  | finish value => exact ends
  | perform op next =>
      unfold Ends at ends ⊢
      rw [shape] at ends
      exact ends.2 (answer op) (possible op)

end Thread

/-! ## What all threads have done together -/

section Together

variable {α β : Type}

/-- One member has done more: so have all together. -/
theorem perm_flatMap_set (done : α -> List β) {members : List α} {index : Nat} {old new : α}
    {more : List β} (located : members[index]? = some old) (grown : done new = done old ++ more) :
    ((members.set index new).flatMap done).Perm (members.flatMap done ++ more) := by
  induction members generalizing index with
  | nil => cases located
  | cons first rest ih =>
      cases index with
      | zero =>
          cases located
          rw [List.set_cons_zero, List.flatMap_cons, List.flatMap_cons, grown, List.append_assoc,
            List.append_assoc]
          exact (List.perm_append_comm).append_left _
      | succ index =>
          rw [List.set_cons_succ, List.flatMap_cons, List.flatMap_cons, List.append_assoc]
          exact (ih located).append_left _

theorem subperm_flatMap {members : List α} {part all : α -> List β}
    (each : forall member, member ∈ members -> (part member).Subperm (all member)) :
    (members.flatMap part).Subperm (members.flatMap all) := by
  induction members with
  | nil => exact List.Subperm.refl []
  | cons first rest ih =>
      rw [List.flatMap_cons, List.flatMap_cons]
      exact (each first List.mem_cons_self).append
        (ih fun member inside => each member (List.mem_cons_of_mem first inside))

end Together

end Foundation
end StateMovementFabric
