import Mathlib.Data.List.Basic

namespace StateMovementFabric
namespace Foundation

/-!
# Programs that talk to their surroundings

A program is a tree: it has finished with a value, or it performs an operation and
continues with the reply.  Nothing is said here about what an operation does, only
which replies it may get, so a statement about a program holds for every sequence of
possible replies.

The history of a run is the list of operations performed so far with the replies
they got.  A guard says which operations may be performed after which history, and
`Guarded` that a program respects a guard whatever the replies are.
-/

/-- A set of operations, each with the type of its reply and the replies it can get. -/
structure Signature where
  Op : Type
  Reply : Op -> Type
  Possible : forall op : Op, Reply op -> Prop

inductive Program (signature : Signature) (α : Type) where
  | finish (value : α)
  | perform (op : signature.Op) (next : signature.Reply op -> Program signature α)

/-- An operation that was performed, and its reply. -/
structure Event (signature : Signature) where
  op : signature.Op
  reply : signature.Reply op

namespace Program

variable {signature : Signature} {α β : Type}

def bind : Program signature α -> (α -> Program signature β) -> Program signature β
  | finish value, next => next value
  | perform op rest, next => perform op (fun reply => (rest reply).bind next)

instance : Monad (Program signature) where
  pure := finish
  bind := bind

/-- The program that performs one operation and returns the reply. -/
def call (op : signature.Op) : Program signature (signature.Reply op) := perform op finish

/-! ## Interpretation -/

/-- Run a program in a world that answers every operation. -/
def interpret {World : Type}
    (respond : World -> forall op : signature.Op, World × signature.Reply op) :
    World -> Program signature α -> World × α
  | world, finish value => (world, value)
  | world, perform op next =>
      interpret respond (respond world op).1 (next (respond world op).2)

theorem interpret_bind {World : Type}
    (respond : World -> forall op : signature.Op, World × signature.Reply op) (world : World)
    (first : Program signature β) (next : β -> Program signature α) :
    interpret respond world (first >>= next) =
      interpret respond (interpret respond world first).1 (next (interpret respond world first).2) := by
  induction first generalizing world with
  | finish value => rfl
  | perform op rest ih => exact ih (respond world op).2 (respond world op).1

/-! ## Guards -/

abbrev History (signature : Signature) := List (Event signature)

abbrev Guard (signature : Signature) := History signature -> signature.Op -> Prop

/-- Every operation that the program performs after `past` is one the guard allows
there, and `done` holds when it finishes. -/
def Guarded (guard : Guard signature) (done : History signature -> α -> Prop) :
    History signature -> Program signature α -> Prop
  | past, finish value => done past value
  | past, perform op next =>
      guard past op ∧ forall reply, signature.Possible op reply ->
        Guarded guard done (past ++ [⟨op, reply⟩]) (next reply)

variable {guard : Guard signature} {done : History signature -> α -> Prop}

theorem guarded_call_bind {past : History signature} {op : signature.Op}
    {next : signature.Reply op -> Program signature α} :
    Guarded guard done past (call op >>= next) ↔
      guard past op ∧ forall reply, signature.Possible op reply ->
        Guarded guard done (past ++ [⟨op, reply⟩]) (next reply) :=
  Iff.rfl

/-- A sequence is guarded when its first part ends only where its second part may
begin. -/
theorem guarded_bind {past : History signature} {first : Program signature β}
    {next : β -> Program signature α}
    (begins : Guarded guard (fun later value => Guarded guard done later (next value)) past first) :
    Guarded guard done past (first >>= next) := by
  induction first generalizing past with
  | finish value => exact begins
  | perform op rest ih => exact ⟨begins.1, fun reply possible => ih reply (begins.2 reply possible)⟩

theorem Guarded.mono {weaker : History signature -> α -> Prop} {past : History signature}
    {program : Program signature α} (guarded : Guarded guard done past program)
    (implies : forall later value, done later value -> weaker later value) :
    Guarded guard weaker past program := by
  induction program generalizing past with
  | finish value => exact implies past value guarded
  | perform op rest ih => exact ⟨guarded.1, fun reply possible => ih reply (guarded.2 reply possible)⟩

/-- What the first part of a sequence establishes is what its second part may use. -/
theorem Guarded.bind {middle : History signature -> β -> Prop} {past : History signature}
    {first : Program signature β} {next : β -> Program signature α}
    (begins : Guarded guard middle past first)
    (continues : forall later value, middle later value -> Guarded guard done later (next value)) :
    Guarded guard done past (first >>= next) :=
  guarded_bind (begins.mono continues)

/-- What every event keeps can be used at every operation of a guarded program. -/
theorem Guarded.keeping {kept : History signature -> Prop} {past : History signature}
    {program : Program signature α}
    (guarded : Guarded guard done past program) (holds : kept past)
    (keeps : forall later event, kept later -> kept (later ++ [event])) :
    Guarded (fun later op => guard later op ∧ kept later) done past program := by
  induction program generalizing past with
  | finish value => exact guarded
  | perform op rest ih =>
      exact ⟨⟨guarded.1, holds⟩, fun reply possible =>
        ih reply (guarded.2 reply possible) (keeps past ⟨op, reply⟩ holds)⟩

/-- Nothing is asked of a program by the guard that allows everything. -/
theorem guarded_unrestricted {past : History signature} (program : Program signature α) :
    Guarded (fun _ _ => True) (fun _ _ => True) past program := by
  induction program generalizing past with
  | finish value => trivial
  | perform op rest ih => exact ⟨trivial, fun reply _ => ih reply⟩

/-- A stronger guard. -/
theorem Guarded.weaken {weaker : Guard signature} {past : History signature}
    {program : Program signature α} (guarded : Guarded guard done past program)
    (implies : forall later op, guard later op -> weaker later op) :
    Guarded weaker done past program := by
  induction program generalizing past with
  | finish value => exact guarded
  | perform op rest ih =>
      exact ⟨implies past op guarded.1, fun reply possible => ih reply (guarded.2 reply possible)⟩

end Program

end Foundation
end StateMovementFabric
