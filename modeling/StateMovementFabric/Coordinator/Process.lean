import StateMovementFabric.Store.OpenStore
import StateMovementFabric.Foundation.Threads
import StateMovementFabric.Coordinator.Calls

namespace StateMovementFabric

open Foundation

/-!
# The coordinator process

Workers take movement ids from a queue and drive them; operator sessions submit,
cancel and reconcile at any time; a restart drops every thread and the queue, reads
the store back and runs recovery before anything else.  Threads share the store and
the queue only.  One step of the process is one operation of one thread, answered by
the store or by the environment, so that a run is an arbitrary interleaving.
-/

/-! ## The environment -/

/-- What becomes of a reserved response slot. -/
inductive Arrival where
  | frame (frame : Frame)
  | timeout
  | closed

/-- Everything outside the process that one operation may depend on. -/
structure Environment where
  outcomes : WriteOutcomes := noFailure
  now : Millis := 1
  movementId : MovementId := .zero
  attemptId : TransferAttemptId := .zero
  nonce : Nonce := .zero
  link : Option LinkId := none
  slot : Option Nat := none
  sent : Result Unit := .ok ()
  arrival : Arrival := .timeout
  registration : Option EndpointRegistration := none
  topology : TopologyGeneration := ⟨1⟩
  announced : Option (StateObjectDescriptor × Option EndpointId) := none
  evidence : Option (Result CompatibilityEvidence) := none
  compatibility : CompatibilityGeneration := ⟨0⟩

namespace Environment

/-- `await`.  The session reader delivers a frame to the slot of its own key only. -/
def awaited (environment : Environment) (key : PendingKey) (what : String) : Result Frame :=
  match environment.arrival with
  | .frame frame =>
      if pendingKey frame = some key then .ok frame
      else refuse .IO_TIMEOUT ("the endpoint did not answer " ++ what)
  | .timeout => refuse .IO_TIMEOUT ("the endpoint did not answer " ++ what)
  | .closed => refuse .CONNECTION_CLOSED "the endpoint session ended before it answered"

/-- `find_link`. -/
def foundLink (environment : Environment) (endpoint : EndpointId) : Result LinkId :=
  match environment.link with
  | some link => .ok link
  | none =>
      .error ⟨.ENDPOINT_NOT_LIVE, ascii "no live control session exists for " ++ endpoint.value⟩

/-- `reserve`. -/
def reserved (environment : Environment) (key : PendingKey) : Result Future :=
  match environment.slot with
  | some slot => .ok ⟨key, slot⟩
  | none => refuse .BUSY "an identical request is already in flight"

/-- `TopologyView::find`. -/
def registered (environment : Environment) : Result EndpointRegistration :=
  match environment.registration with
  | some registration => .ok registration
  | none => refuse .ENDPOINT_NOT_FOUND "endpoint is not registered"

/-- The reply to an operation. -/
def reply (environment : Environment) (store : OpenStore) : (op : CoordinatorOp) -> op.Reply
  | .storeGet id => store.get id
  | .storePut record => (store.put record environment.outcomes).2
  | .storeList limit => store.val.list limit 0
  | .unixMillis => environment.now
  | .newMovementId => environment.movementId
  | .newAttemptId => environment.attemptId
  | .newNonce => environment.nonce
  | .findLink endpoint => environment.foundLink endpoint
  | .reserve _ key => environment.reserved key
  | .release _ _ => ()
  | .push _ _ => environment.sent
  | .await _ future what => environment.awaited future.key what
  | .topologyFind _ => environment.registered
  | .topologyGeneration => environment.topology
  | .inventoryFind _ => environment.announced
  | .queryCompatibility _ _ => environment.evidence
  | .setCompatibilityGeneration _ => ()
  | .compatibilityGeneration => environment.compatibility
  | .count _ => ()
  | .enqueue _ => ()

theorem reply_possible (environment : Environment) (store : OpenStore) (op : CoordinatorOp) :
    op.Possible (environment.reply store op) := by
  cases op with
  | storeGet id => exact fun record found => OpenStore.id_of_get found
  | storeList limit => exact store.nodup_list limit 0
  | reserve link key =>
      intro future granted
      change environment.reserved key = .ok future at granted
      unfold reserved at granted
      split at granted
      · cases granted
        rfl
      · cases granted
  | await link future what =>
      intro frame delivered
      change environment.awaited future.key what = .ok frame at delivered
      unfold awaited at delivered
      split at delivered
      · split at delivered
        · cases delivered
          assumption
        · cases delivered
      · cases delivered
      · cases delivered
  | _ => trivial

end Environment

/-! ## The process -/

inductive Call where
  | drive (id : MovementId)
  | submit (request : SubmitMovement)
  | cancel (id : MovementId)
  | reconcile (id : MovementId)
  | recover

/-- What a call returns. -/
inductive Outcome where
  | driven (status : Result Unit)
  | accepted (answer : Result MovementAccepted)
  | changed (answer : Result MovementRecord)
  | recovered

def Call.program (config : CoordinatorConfig) : Call -> CoordinatorProgram Outcome
  | drive id => do return .driven (← driveMovement config id)
  | submit request => do return .accepted (← StateMovementFabric.submit config request)
  | cancel id => do return .changed (← StateMovementFabric.cancel id)
  | reconcile id => do return .changed (← StateMovementFabric.reconcile id)
  | recover => do
      recoverAfterRestart config
      return .recovered

def Call.isRecover : Call -> Bool
  | recover => true
  | _ => false

abbrev CoordinatorThread := Thread coordinatorSignature Call Outcome

/-- A record that `put` made durable, by which call and after which operations of it. -/
structure Snapshot where
  call : Call
  history : Program.History coordinatorSignature
  record : MovementRecord

/-- The process.  `log` and `issued` are not data of the process: they record what has
been persisted and which movement ids have been handed out. -/
structure Coordinator where
  store : OpenStore
  queue : List MovementId := []
  threads : List CoordinatorThread := []
  log : List Snapshot := []
  issued : List MovementId := []

namespace Coordinator

/-- A process that has just been started on a store. -/
def started (store : OpenStore) (queue : List MovementId) : Coordinator where
  store := store
  queue := queue
  issued := store.val.contents.order

/-- Recovery is still running. -/
def recovering (coordinator : Coordinator) : Bool :=
  coordinator.threads.any fun thread => thread.call.isRecover && thread.pending.isSome

/-- Start a thread, with what is then left of the queue. -/
def spawn (config : CoordinatorConfig) (coordinator : Coordinator) (call : Call)
    (queue : List MovementId) : Coordinator :=
  { coordinator with
    queue := queue
    threads := coordinator.threads ++ [Thread.start call (call.program config)] }

/-- Nothing starts before recovery is over. -/
def begin (config : CoordinatorConfig) (coordinator : Coordinator) (call : Call)
    (queue : List MovementId) : Coordinator :=
  if coordinator.recovering then coordinator else coordinator.spawn config call queue

/-- The store after an operation. -/
def storeAfter (store : OpenStore) (environment : Environment) : CoordinatorOp -> OpenStore
  | .storePut record => (store.put record environment.outcomes).1
  | _ => store

def queueAfter (queue : List MovementId) : CoordinatorOp -> List MovementId
  | .enqueue id => queue ++ [id]
  | _ => queue

/-- The snapshots that an operation persists. -/
def persisted (store : OpenStore) (environment : Environment) (thread : CoordinatorThread) :
    CoordinatorOp -> List Snapshot
  | .storePut record =>
      if store.val.persists record environment.outcomes then
        [⟨thread.call, thread.history, record⟩]
      else []
  | _ => []

def issuedBy (environment : Environment) : CoordinatorOp -> List MovementId
  | .newMovementId => [environment.movementId]
  | _ => []

/-- One operation of the thread at `index`. -/
def perform (coordinator : Coordinator) (index : Nat) (thread : CoordinatorThread)
    (environment : Environment) (op : CoordinatorOp) : Coordinator where
  store := storeAfter coordinator.store environment op
  queue := queueAfter coordinator.queue op
  threads := coordinator.threads.set index (thread.resume (environment.reply coordinator.store))
  log := coordinator.log ++ persisted coordinator.store environment thread op
  issued := coordinator.issued ++ issuedBy environment op

/-- The process after a restart: recovery is its only thread. -/
def reborn (config : CoordinatorConfig) (coordinator : Coordinator) : Coordinator :=
  { coordinator with
    store := coordinator.store.reload
    queue := []
    threads := [Thread.start .recover (Call.recover.program config)] }

end Coordinator

inductive Action where
  | submit (request : SubmitMovement)
  | cancel (id : MovementId)
  | reconcile (id : MovementId)
  | pickUp
  | run (index : Nat) (environment : Environment)
  | restart

namespace Coordinator

/-- The thread at `index` and the operation that it performs next. -/
def performing (coordinator : Coordinator) (index : Nat) :
    Option (CoordinatorThread × CoordinatorOp) :=
  coordinator.threads[index]?.bind fun thread => thread.pending.map fun op => (thread, op)

/-- The next operation of the thread at `index`, if there is one. -/
def resume (coordinator : Coordinator) (index : Nat) (environment : Environment) : Coordinator :=
  match coordinator.performing index with
  | none => coordinator
  | some (thread, op) => coordinator.perform index thread environment op

/-- One step of the process. -/
def step (config : CoordinatorConfig) (coordinator : Coordinator) : Action -> Coordinator
  | .submit request => coordinator.begin config (.submit request) coordinator.queue
  | .cancel id => coordinator.begin config (.cancel id) coordinator.queue
  | .reconcile id => coordinator.begin config (.reconcile id) coordinator.queue
  | .pickUp =>
      match coordinator.queue with
      | [] => coordinator
      | id :: rest => coordinator.begin config (.drive id) rest
  | .run index environment => coordinator.resume index environment
  | .restart => coordinator.reborn config

def run (config : CoordinatorConfig) (coordinator : Coordinator) (actions : List Action) :
    Coordinator :=
  actions.foldl (step config) coordinator

/-! ## What a step can do -/

/-- The call that an action starts, and the queue it leaves. -/
inductive Opens (coordinator : Coordinator) : Action -> Call -> List MovementId -> Prop where
  | submit (request : SubmitMovement) :
      Opens coordinator (.submit request) (.submit request) coordinator.queue
  | cancel (id : MovementId) : Opens coordinator (.cancel id) (.cancel id) coordinator.queue
  | reconcile (id : MovementId) :
      Opens coordinator (.reconcile id) (.reconcile id) coordinator.queue
  | pickUp (id : MovementId) (rest : List MovementId) (queued : coordinator.queue = id :: rest) :
      Opens coordinator .pickUp (.drive id) rest

/-- The four things a step can be. -/
inductive Steps (config : CoordinatorConfig) (coordinator : Coordinator) :
    Action -> Coordinator -> Prop where
  | idles (action : Action) : Steps config coordinator action coordinator
  | begins (action : Action) (call : Call) (rest : List MovementId)
      (opened : coordinator.Opens action call rest) (recovered : coordinator.recovering = false) :
      Steps config coordinator action (coordinator.spawn config call rest)
  | performs (index : Nat) (environment : Environment) (thread : CoordinatorThread)
      (op : CoordinatorOp) (located : coordinator.threads[index]? = some thread)
      (pends : thread.pending = some op) :
      Steps config coordinator (.run index environment)
        (coordinator.perform index thread environment op)
  | restarts : Steps config coordinator .restart (coordinator.reborn config)

variable {config : CoordinatorConfig} {rest : List MovementId} {call : Call}
  {coordinator : Coordinator} {index : Nat} {op : CoordinatorOp} {thread member : CoordinatorThread}
  {invariant : Coordinator -> Prop} {environment : Environment} {record : MovementRecord}
  {store : OpenStore}

theorem begin_steps {action : Action} (opened : coordinator.Opens action call rest) :
    Steps config coordinator action (coordinator.begin config call rest) := by
  unfold begin
  cases recovered : coordinator.recovering with
  | true => exact .idles action
  | false => exact .begins action call rest opened recovered

theorem performing_of_pending (located : coordinator.threads[index]? = some thread)
    (pends : thread.pending = some op) : coordinator.performing index = some (thread, op) := by
  unfold performing
  rw [located, Option.bind_some, pends, Option.map_some]

theorem performing_eq_some (found : coordinator.performing index = some (thread, op)) :
    coordinator.threads[index]? = some thread ∧ thread.pending = some op := by
  rcases Option.bind_eq_some_iff.mp found with ⟨located, present, performed⟩
  rcases Option.map_eq_some_iff.mp performed with ⟨pending, pends, same⟩
  cases same
  exact ⟨present, pends⟩

theorem resume_steps (config : CoordinatorConfig) (coordinator : Coordinator) (index : Nat)
    (environment : Environment) :
    Steps config coordinator (.run index environment) (coordinator.resume index environment) := by
  unfold resume
  cases performed : coordinator.performing index with
  | none => exact .idles (.run index environment)
  | some pair =>
      rcases performing_eq_some performed with ⟨located, pends⟩
      exact .performs index environment pair.1 pair.2 located pends

theorem step_steps (config : CoordinatorConfig) (coordinator : Coordinator) (action : Action) :
    Steps config coordinator action (coordinator.step config action) := by
  cases action with
  | submit request => exact begin_steps (.submit request)
  | cancel id => exact begin_steps (.cancel id)
  | reconcile id => exact begin_steps (.reconcile id)
  | pickUp =>
      unfold step
      cases queued : coordinator.queue with
      | nil => exact .idles .pickUp
      | cons id rest => exact begin_steps (.pickUp id rest queued)
  | run index environment => exact resume_steps config coordinator index environment
  | restart => exact .restarts

/-- What every step keeps holds after every run. -/
theorem run_invariant (keeps : forall coordinator action after, invariant coordinator ->
      Steps config coordinator action after -> invariant after) (holds : invariant coordinator)
    (actions : List Action) :
    invariant (coordinator.run config actions) := by
  induction actions generalizing coordinator with
  | nil => exact holds
  | cons action rest ih =>
      exact ih (keeps coordinator action _ holds (step_steps config coordinator action))

/-- A condition on the state before each step and on the action taken there. -/
def everyStep (config : CoordinatorConfig) (condition : Coordinator -> Action -> Bool) :
    Coordinator -> List Action -> Bool
  | _, [] => true
  | coordinator, action :: rest =>
      condition coordinator action && everyStep config condition (coordinator.step config action) rest

/-- What every step keeps that meets a condition holds after every run whose steps all
meet it. -/
theorem run_invariant_of_everyStep {condition : Coordinator -> Action -> Bool}
    (keeps : forall coordinator action after, invariant coordinator ->
      condition coordinator action = true -> Steps config coordinator action after ->
      invariant after) (holds : invariant coordinator) (actions : List Action)
    (meets : coordinator.everyStep config condition actions = true) :
    invariant (coordinator.run config actions) := by
  induction actions generalizing coordinator with
  | nil => exact holds
  | cons action rest ih =>
      rw [everyStep, Bool.and_eq_true] at meets
      exact ih (keeps coordinator action _ holds meets.1 (step_steps config coordinator action))
        meets.2

theorem everyStep_append (config : CoordinatorConfig) (condition : Coordinator -> Action -> Bool)
    (coordinator : Coordinator) (first second : List Action) :
    coordinator.everyStep config condition (first ++ second) =
      (coordinator.everyStep config condition first &&
        (coordinator.run config first).everyStep config condition second) := by
  induction first generalizing coordinator with
  | nil => rfl
  | cons action rest ih =>
      change (_ && everyStep config condition _ (rest ++ second)) = _
      rw [ih, ← Bool.and_assoc]
      rfl

theorem mem_threads_perform
    (inside : member ∈ (coordinator.perform index thread environment op).threads) :
    member ∈ coordinator.threads ∨ member = thread.resume (environment.reply coordinator.store) :=
  List.mem_or_eq_of_mem_set inside

theorem mem_threads_spawn (inside : member ∈ (coordinator.spawn config call rest).threads) :
    member ∈ coordinator.threads ∨ member = Thread.start call (call.program config) := by
  rcases List.mem_append.mp inside with earlier | last
  · exact Or.inl earlier
  · exact Or.inr (List.mem_singleton.mp last)

/-! ## Guarded calls -/

/-- The first operation of a call. -/
def firstOf (config : CoordinatorConfig) (call : Call) :
    Option CoordinatorOp :=
  (Thread.start call (call.program config)).first

/-- Every call respects its guard, so every thread does, and every durable write was
allowed where it was made.  A thread begins as its call does. -/
structure Disciplined (config : CoordinatorConfig)
    (guard : Call -> Program.Guard coordinatorSignature) (coordinator : Coordinator) : Prop where
  follows : forall thread, thread ∈ coordinator.threads -> thread.Follows guard
  first : forall thread, thread ∈ coordinator.threads -> thread.first = firstOf config thread.call
  allowed : forall snapshot, snapshot ∈ coordinator.log ->
    guard snapshot.call snapshot.history (.storePut snapshot.record)
  began : forall snapshot, snapshot ∈ coordinator.log -> snapshot.history ≠ [] ->
    snapshot.history.head?.map Event.op = firstOf config snapshot.call

theorem persisted_put (durable : store.val.persists record environment.outcomes = true)
    (thread : CoordinatorThread) :
    persisted store environment thread (.storePut record) =
      [⟨thread.call, thread.history, record⟩] :=
  if_pos durable

theorem persisted_put_of_not (lost : ¬store.val.persists record environment.outcomes = true)
    (thread : CoordinatorThread) : persisted store environment thread (.storePut record) = [] :=
  if_neg lost

theorem mem_persisted {snapshot : Snapshot}
    (member : snapshot ∈ persisted store environment thread op) :
    op = .storePut snapshot.record ∧ snapshot.call = thread.call ∧
      snapshot.history = thread.history ∧
      store.val.persists snapshot.record environment.outcomes = true := by
  cases op with
  | storePut record =>
      change snapshot ∈ (if store.val.persists record environment.outcomes then
        [⟨thread.call, thread.history, record⟩] else []) at member
      split at member
      · cases List.mem_singleton.mp member
        exact ⟨rfl, rfl, rfl, by assumption⟩
      · cases member
  | _ => cases member

theorem Disciplined.steps {guard : Call -> Program.Guard coordinatorSignature}
    (guarded : forall call, Program.Guarded (guard call) (fun _ _ => True) [] (call.program config))
    (coordinator : Coordinator) (action : Action) (after : Coordinator)
    (disciplined : coordinator.Disciplined config guard)
    (steps : Steps config coordinator action after) :
    after.Disciplined config guard := by
  cases steps with
  | idles => exact disciplined
  | begins _ call rest _ _ =>
      refine ⟨fun thread inside => ?_, fun thread inside => ?_, disciplined.allowed,
        disciplined.began⟩
      · rcases mem_threads_spawn inside with earlier | rfl
        · exact disciplined.follows thread earlier
        · exact guarded call
      · rcases mem_threads_spawn inside with earlier | rfl
        · exact disciplined.first thread earlier
        · rfl
  | performs index environment thread op located pends =>
      have present := List.mem_of_getElem? located
      refine ⟨fun member inside => ?_, fun member inside => ?_, fun snapshot inside => ?_,
        fun snapshot inside begun => ?_⟩
      · rcases mem_threads_perform inside with earlier | rfl
        · exact disciplined.follows member earlier
        · exact (disciplined.follows thread present).resume _
            (environment.reply_possible coordinator.store)
      · rcases mem_threads_perform inside with earlier | rfl
        · exact disciplined.first member earlier
        · rw [Thread.resume_first, Thread.resume_call]
          exact disciplined.first thread present
      · rcases List.mem_append.mp inside with earlier | added
        · exact disciplined.allowed snapshot earlier
        · rcases mem_persisted added with ⟨rfl, sameCall, sameHistory, _⟩
          rw [sameCall, sameHistory]
          exact (disciplined.follows thread present).allowed pends
      · rcases List.mem_append.mp inside with earlier | added
        · exact disciplined.began snapshot earlier begun
        · rcases mem_persisted added with ⟨rfl, sameCall, sameHistory, _⟩
          rw [sameHistory] at begun ⊢
          rw [sameCall, ← disciplined.first thread present]
          exact thread.head_history begun
  | restarts =>
      refine ⟨fun thread inside => ?_, fun thread inside => ?_, disciplined.allowed,
        disciplined.began⟩
      · cases List.mem_singleton.mp inside
        exact guarded .recover
      · cases List.mem_singleton.mp inside
        rfl

theorem disciplined_started (config : CoordinatorConfig)
    (guard : Call -> Program.Guard coordinatorSignature) (store : OpenStore)
    (queue : List MovementId) : (started store queue).Disciplined config guard :=
  ⟨fun _ inside => absurd inside List.not_mem_nil, fun _ inside => absurd inside List.not_mem_nil,
    fun _ inside => absurd inside List.not_mem_nil, fun _ inside => absurd inside List.not_mem_nil⟩

end Coordinator

/-! ## A smallest process -/

/-- The options under which the coordinator opens its store. -/
def CoordinatorConfig.storeOptions (config : CoordinatorConfig) : MovementStoreOptions where
  maxRecordBytes := 4194304
  maxHistoryRecords := config.policy.maxHistoryRecords
  retentionCompleted := 10

def defaultConfig : CoordinatorConfig where
  sharedSecret := ascii "secret"
  policy := {}

/-- A store in a new directory. -/
def newStore : OpenStore :=
  ⟨⟨defaultConfig.storeOptions, fileHeader, kFileHeaderBytes, 1, .empty⟩,
    StoreContents.consistent_empty⟩

/-- A new store into which one record has been put. -/
def storeHolding (record : MovementRecord) : OpenStore := (newStore.put record noFailure).1

/-- The next operation of a thread when no endpoint has a live session. -/
def Action.alone (index : Nat) : Action := .run index {}

end StateMovementFabric
