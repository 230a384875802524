import StateMovementFabric.Foundation.Program

namespace StateMovementFabric
namespace Foundation

/-!
# Executions under an assumption

An execution of a program is the list of the operations it performs with the replies they
get, up to its result.  What a program achieves often depends on what it is told: an
observer follows an execution, remembers what it needs, and says at every event whether the
reply was the expected one.  `Leads` is the weakest precondition of a program whose replies
are all as expected.
-/

namespace Program

variable {signature : Signature} {α β : Type}

/-- The complete executions of a program. -/
inductive Executes : Program signature α -> History signature -> α -> Prop where
  | finish (value : α) : Executes (.finish value) [] value
  | perform (op : signature.Op) (next : signature.Reply op -> Program signature α)
      (reply : signature.Reply op) (rest : History signature) (value : α)
      (continues : Executes (next reply) rest value) :
      Executes (.perform op next) (⟨op, reply⟩ :: rest) value

end Program

/-- What is remembered of an execution, and which events are expected. -/
structure Observer (signature : Signature) where
  State : Type
  after : State -> Event signature -> State
  expects : State -> Event signature -> Bool

namespace Observer

variable {signature : Signature} (observer : Observer signature)

/-- What is remembered at the end of an execution. -/
def remembered (state : observer.State) (history : Program.History signature) : observer.State :=
  history.foldl observer.after state

/-- Every event of an execution is expected. -/
def meets : observer.State -> Program.History signature -> Bool
  | _, [] => true
  | state, event :: rest => observer.expects state event && meets (observer.after state event) rest

end Observer

namespace Program

variable {signature : Signature} {α β : Type} (observer : Observer signature)

/-- As long as the replies are expected, the program ends where `done` holds. -/
def Leads (done : observer.State -> α -> Prop) : observer.State -> Program signature α -> Prop
  | state, finish value => done state value
  | state, perform op next =>
      forall reply, observer.expects state ⟨op, reply⟩ = true ->
        Leads done (observer.after state ⟨op, reply⟩) (next reply)

variable {observer} {done : observer.State -> α -> Prop} {state : observer.State}

theorem leads_call_bind {op : signature.Op} {next : signature.Reply op -> Program signature α} :
    Leads observer done state (call op >>= next) ↔
      forall reply, observer.expects state ⟨op, reply⟩ = true ->
        Leads observer done (observer.after state ⟨op, reply⟩) (next reply) :=
  Iff.rfl

/-- A sequence leads where its second part leads from where the first part ends. -/
theorem Leads.bind {middle : observer.State -> β -> Prop} {first : Program signature β}
    {next : β -> Program signature α} (begins : Leads observer middle state first)
    (continues : forall later value, middle later value ->
      Leads observer done later (next value)) :
    Leads observer done state (first >>= next) := by
  induction first generalizing state with
  | finish value => exact continues state value begins
  | perform op rest ih => exact fun reply expected => ih reply (begins reply expected)

theorem Leads.mono {weaker : observer.State -> α -> Prop} {program : Program signature α}
    (leads : Leads observer done state program)
    (implies : forall later value, done later value -> weaker later value) :
    Leads observer weaker state program := by
  induction program generalizing state with
  | finish value => exact implies state value leads
  | perform op rest ih => exact fun reply expected => ih reply (leads reply expected)

/-- What a program leads to holds at the end of every expected execution. -/
theorem Leads.done_of_executes {program : Program signature α} {history : History signature}
    {value : α} (leads : Leads observer done state program)
    (executes : Executes program history value) (meets : observer.meets state history = true) :
    done (observer.remembered state history) value := by
  induction executes generalizing state with
  | finish value => exact leads
  | perform op next reply rest value _ ih =>
      rw [Observer.meets, Bool.and_eq_true] at meets
      exact ih (leads reply meets.1) meets.2

/-! ## Possible ends -/

/-- There is an execution with expected replies that ends where `done` holds. -/
def May (observer : Observer signature) (done : observer.State -> α -> Prop) :
    observer.State -> Program signature α -> Prop
  | state, finish value => done state value
  | state, perform op next => exists reply, observer.expects state ⟨op, reply⟩ = true ∧
      May observer done (observer.after state ⟨op, reply⟩) (next reply)

theorem may_call_bind {op : signature.Op} {next : signature.Reply op -> Program signature α} :
    May observer done state (call op >>= next) ↔
      exists reply, observer.expects state ⟨op, reply⟩ = true ∧
        May observer done (observer.after state ⟨op, reply⟩) (next reply) :=
  Iff.rfl

theorem May.mono {weaker : observer.State -> α -> Prop} {program : Program signature α}
    (may : May observer done state program)
    (implies : forall later value, done later value -> weaker later value) :
    May observer weaker state program := by
  induction program generalizing state with
  | finish value => exact implies state value may
  | perform op rest ih =>
      rcases may with ⟨reply, expected, later⟩
      exact ⟨reply, expected, ih reply later⟩

theorem May.exists_execution {program : Program signature α}
    (may : May observer done state program) :
    exists history value, Executes program history value ∧ observer.meets state history = true ∧
      done (observer.remembered state history) value := by
  induction program generalizing state with
  | finish value => exact ⟨[], value, .finish value, rfl, may⟩
  | perform op next ih =>
      rcases may with ⟨reply, expected, later⟩
      rcases ih reply later with ⟨history, value, executes, meets, ends⟩
      refine ⟨⟨op, reply⟩ :: history, value, .perform op next reply history value executes, ?_, ends⟩
      rw [Observer.meets, Bool.and_eq_true]
      exact ⟨expected, meets⟩

/-! ## Computed executions -/

/-- The execution in which every operation gets the answer of `answer`. -/
def execution (answer : observer.State -> forall op : signature.Op, signature.Reply op) :
    observer.State -> Program signature α -> History signature × α
  | _, finish value => ([], value)
  | state, perform op next =>
      let event : Event signature := ⟨op, answer state op⟩
      let rest := execution answer (observer.after state event) (next event.reply)
      (event :: rest.1, rest.2)

theorem executes_execution
    (answer : observer.State -> forall op : signature.Op, signature.Reply op)
    (program : Program signature α) :
    Executes program (execution answer state program).1 (execution answer state program).2 := by
  induction program generalizing state with
  | finish value => exact .finish value
  | perform op next ih => exact .perform op next _ _ _ (ih _)

end Program

end Foundation
end StateMovementFabric
