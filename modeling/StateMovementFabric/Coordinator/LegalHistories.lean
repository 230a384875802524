import StateMovementFabric.Coordinator.CallGuards

namespace StateMovementFabric

open Foundation

/-!
# The history of one movement

Worker and operator calls read a copy of the record, talk to the endpoints and write
the whole copy back.  The store takes any valid record: nobody compares the generation
of the copy with the one that is stored.  The durable snapshots of a movement are a
legal history in every run in which each write finds the generation that its call
last read or wrote, and there is a run of two calls in which they are not.
-/

/-! ## Legal histories -/

/-- From each snapshot to the next the step is legal, and a terminal state is final. -/
structure LegalHistory (records : List MovementRecord) : Prop where
  steps : records.IsChain LegalStep
  final : records.Pairwise fun earlier later =>
    isTerminal earlier.state = true -> later.state = earlier.state

/-- What a legal history says about any two of its snapshots. -/
structure Precedes (earlier later : MovementRecord) : Prop where
  generation : earlier.generation.value ≤ later.generation.value
  fenced : earlier.generation.value = later.generation.value -> earlier.state = later.state
  final : isTerminal earlier.state = true -> later.state = earlier.state

theorem LegalStep.precedes {before after : MovementRecord} (legal : LegalStep before after) :
    Precedes before after := by
  refine ⟨legal.generation, fun same => ?_, fun terminal => ?_⟩
  · by_contra differs
    exact absurd same (UInt64.ne_of_lt (legal.advances differs))
  · rcases legal.state with same | moved
    · exact same.symm
    · rw [not_isTerminal_of_checkTransition moved] at terminal
      cases terminal

theorem Precedes.trans {first second third : MovementRecord} (left : Precedes first second)
    (right : Precedes second third) : Precedes first third := by
  refine ⟨UInt64.le_trans left.generation right.generation, fun same => ?_, fun terminal => ?_⟩
  · have middle : first.generation.value = second.generation.value :=
      UInt64.le_antisymm left.generation (same ▸ right.generation)
    exact (left.fenced middle).trans (right.fenced (middle.symm.trans same))
  · have kept := left.final terminal
    exact (right.final (kept.symm ▸ terminal)).trans kept

instance : Trans Precedes Precedes Precedes := ⟨Precedes.trans⟩

variable {records : List MovementRecord} {record : MovementRecord}

theorem pairwise_precedes (steps : records.IsChain LegalStep) :
    records.Pairwise Precedes :=
  List.isChain_iff_pairwise.mp (steps.imp fun _ _ legal => legal.precedes)

theorem legalHistory_of_isChain (steps : records.IsChain LegalStep) : LegalHistory records :=
  ⟨steps, (pairwise_precedes steps).imp fun precedes => precedes.final⟩

/-- A snapshot with the generation of the last one has its state too. -/
theorem state_eq_of_generation_eq {base last : MovementRecord} (steps : records.IsChain LegalStep)
    (inside : base ∈ records) (current : records.getLast? = some last)
    (same : last.generation = base.generation) :
    last.state = base.state := by
  rcases List.getLast?_eq_some_iff.mp current with ⟨front, rfl⟩
  rcases List.mem_append.mp inside with earlier | final
  · have precedes := (List.pairwise_append.mp (pairwise_precedes steps)).2.2 base earlier last
      (List.mem_singleton_self last)
    exact (precedes.fenced (congrArg Generation.value same.symm)).symm
  · rw [List.mem_singleton.mp final]

/-! ## The history of a run -/

/-- The record that a store held for a movement, followed by the durable snapshots. -/
def historyOf (store : OpenStore) (log : List Snapshot) (id : MovementId) : List MovementRecord :=
  (store.get id).toOption.toList ++ (log.map Snapshot.record).filter fun record => record.id = id

theorem historyOf_append (store : OpenStore) (log more : List Snapshot) (id : MovementId) :
    historyOf store (log ++ more) id = historyOf store log id ++
      (more.map Snapshot.record).filter fun record => record.id = id := by
  unfold historyOf
  rw [List.map_append, List.filter_append, List.append_assoc]

theorem mem_historyOf_append {store : OpenStore} {log : List Snapshot} {id : MovementId}
    (inside : record ∈ historyOf store log id) (more : List Snapshot) :
    record ∈ historyOf store (log ++ more) id := by
  rw [historyOf_append]
  exact List.mem_append_left _ inside

/-- The actions of workers and operators on movements that exist. -/
def Action.operates : Action -> Bool
  | .cancel _ | .reconcile _ | .pickUp | .run _ _ => true
  | .submit _ | .restart => false

/-- A write finds, for its movement, the generation that its call last read or wrote. -/
def Coordinator.fenced (coordinator : Coordinator) : Action -> Bool
  | .run index _ =>
      match coordinator.performing index with
      | some (thread, .storePut record) =>
          match lastSnapshot thread.history, coordinator.store.get record.id with
          | some base, .ok stored => stored.generation == base.generation
          | _, _ => false
      | _ => true
  | _ => true

/-- A step of workers and operators on movements that exist, fenced if it is a write. -/
def Coordinator.operatesFenced (coordinator : Coordinator) (action : Action) : Bool :=
  action.operates && coordinator.fenced action

/-! ## The invariant -/

/-- The calls of workers and operators on movements that exist. -/
def Call.operates : Call -> Bool
  | .drive _ | .cancel _ | .reconcile _ => true
  | .submit _ | .recover => false

/-- Such a call writes legal successors of the version it holds. -/
theorem advances_of_operates {config : CoordinatorConfig} {call : Call}
    (operates : call.operates = true) {past : CoordinatorHistory}
    (may : callGuard config call past (.storePut record)) :
    Advances (fun _ => True) past record := by
  cases call with
  | drive id => exact (show DriverMay config past record from may).advances.weaken fun _ _ => trivial
  | cancel id => exact (show CancelMay past record from may).advances.weaken fun _ _ => trivial
  | reconcile id => exact (show ReconcileMay past record from may).advances.weaken fun _ _ => trivial
  | submit request => cases operates
  | recover => cases operates

/-- Along a fenced run: the history of every movement is legal, its last snapshot is the
stored record, and every call holds a snapshot of it. -/
structure Coherent (config : CoordinatorConfig) (store : OpenStore) (coordinator : Coordinator) :
    Prop where
  disciplined : coordinator.Disciplined config (callGuard config)
  operates : forall thread, thread ∈ coordinator.threads -> thread.call.operates = true
  steps : forall id, (historyOf store coordinator.log id).IsChain LegalStep
  current : forall id record, coordinator.store.get id = .ok record ->
    (historyOf store coordinator.log id).getLast? = some record
  read : forall thread, thread ∈ coordinator.threads -> forall base,
    lastSnapshot thread.history = some base -> base ∈ historyOf store coordinator.log base.id

theorem coherent_started (config : CoordinatorConfig) (store : OpenStore)
    (queue : List MovementId) : Coherent config store (.started store queue) := by
  have initially : forall id, historyOf store [] id = (store.get id).toOption.toList :=
    fun id => List.append_nil _
  refine ⟨Coordinator.disciplined_started config _ store queue, ?_, fun id => ?_, ?_, ?_⟩
  · exact fun _ inside => absurd inside List.not_mem_nil
  · change (historyOf store [] id).IsChain LegalStep
    rw [initially]
    cases store.get id with
    | error status => exact List.IsChain.nil
    | ok record => exact List.IsChain.singleton record
  · intro id record found
    change (historyOf store [] id).getLast? = some record
    rw [initially, show store.get id = .ok record from found]
    rfl
  · exact fun _ inside => absurd inside List.not_mem_nil

section Step

variable {config : CoordinatorConfig} {store : OpenStore} {coordinator : Coordinator}
variable {index : Nat} {thread : CoordinatorThread} {environment : Environment}

/-- An operation that persists nothing leaves every history as it is. -/
theorem Coherent.perform_unpersisted {op : CoordinatorOp} (coherent : Coherent config store coordinator)
    (located : coordinator.threads[index]? = some thread) (pends : thread.pending = some op)
    (nothing : Coordinator.persisted coordinator.store environment thread op = [])
    (kept : forall id record,
      (Coordinator.storeAfter coordinator.store environment op).get id = .ok record ->
        coordinator.store.get id = .ok record) :
    Coherent config store (coordinator.perform index thread environment op) := by
  have present := List.mem_of_getElem? located
  have log : (coordinator.perform index thread environment op).log = coordinator.log := by
    change coordinator.log ++ _ = coordinator.log
    rw [nothing, List.append_nil]
  refine ⟨?_, ?_, ?_, ?_, ?_⟩
  · exact coherent.disciplined.steps (guarded_call config) _ _ _
      (.performs index environment thread op located pends)
  · intro member inside
    rcases Coordinator.mem_threads_perform inside with earlier | rfl
    · exact coherent.operates member earlier
    · rw [Thread.resume_call]
      exact coherent.operates thread present
  · rw [log]
    exact coherent.steps
  · rw [log]
    exact fun id record found => coherent.current id record (kept id record found)
  · rw [log]
    intro member inside base last
    rcases Coordinator.mem_threads_perform inside with earlier | rfl
    · exact coherent.read member earlier base last
    rw [Thread.history_resume pends] at last
    rcases lastSnapshot_reply last with before | ⟨id, rfl, found⟩ | ⟨rfl, put⟩
    · exact coherent.read thread present base before
    · rw [OpenStore.id_of_get found]
      exact List.mem_of_getLast? (coherent.current id base found)
    · have durable := MovementStore.persists_of_put put
      rw [Coordinator.persisted_put durable] at nothing
      cases nothing

/-- A fenced write is a legal successor of the stored record: it succeeds the version that
its call holds, and the equal generations make that version the stored one. -/
theorem Coherent.fenced_put (coherent : Coherent config store coordinator)
    (located : coordinator.threads[index]? = some thread)
    (pends : thread.pending = some (.storePut record))
    (fenced : coordinator.fenced (.run index environment) = true) :
    exists stored, coordinator.store.get record.id = .ok stored ∧ LegalStep stored record := by
  have present := List.mem_of_getElem? located
  have may := (coherent.disciplined.follows thread present).allowed pends
  rcases (advances_of_operates (coherent.operates thread present) may).successor with
    ⟨base, last, id, legal, _⟩
  unfold Coordinator.fenced at fenced
  simp only [Coordinator.performing_of_pending located pends, last] at fenced
  cases found : coordinator.store.get record.id with
  | error status =>
      rw [found] at fenced
      cases fenced
  | ok stored =>
      rw [found] at fenced
      have same : stored.generation = base.generation := beq_iff_eq.mp fenced
      have read : base ∈ historyOf store coordinator.log record.id :=
        id ▸ coherent.read thread present base last
      have state := state_eq_of_generation_eq (coherent.steps record.id) read
        (coherent.current record.id stored found) same
      refine ⟨stored, rfl, ?_, ?_, ?_⟩
      · rw [state]
        exact legal.state
      · rw [same]
        exact legal.generation
      · rw [state, same]
        exact legal.advances

/-- A durable write that is fenced continues the history of its movement. -/
theorem Coherent.perform_persisted (coherent : Coherent config store coordinator)
    (located : coordinator.threads[index]? = some thread)
    (pends : thread.pending = some (.storePut record))
    (durable : coordinator.store.val.persists record environment.outcomes = true)
    (fenced : coordinator.fenced (.run index environment) = true) :
    Coherent config store (coordinator.perform index thread environment (.storePut record)) := by
  have present := List.mem_of_getElem? located
  have log : (coordinator.perform index thread environment (.storePut record)).log =
      coordinator.log ++ [⟨thread.call, thread.history, record⟩] := by
    change coordinator.log ++ _ = _
    rw [Coordinator.persisted_put durable]
  have mine : historyOf store (coordinator.log ++ [⟨thread.call, thread.history, record⟩]) record.id =
      historyOf store coordinator.log record.id ++ [record] := by
    rw [historyOf_append]
    simp
  have others : forall id, id ≠ record.id ->
      historyOf store (coordinator.log ++ [⟨thread.call, thread.history, record⟩]) id =
        historyOf store coordinator.log id := by
    intro id differs
    rw [historyOf_append]
    simp [differs.symm]
  rcases coherent.fenced_put located pends fenced with ⟨stored, found, legal⟩
  refine ⟨?_, ?_, ?_, ?_, ?_⟩
  · exact coherent.disciplined.steps (guarded_call config) _ _ _
      (.performs index environment thread (.storePut record) located pends)
  · intro member inside
    rcases Coordinator.mem_threads_perform inside with earlier | rfl
    · exact coherent.operates member earlier
    · rw [Thread.resume_call]
      exact coherent.operates thread present
  · intro id
    rw [log]
    by_cases same : id = record.id
    · rw [same, mine]
      apply (coherent.steps record.id).append (List.IsChain.singleton record)
      intro last isLast next isFirst
      rw [coherent.current record.id stored found] at isLast
      cases isLast
      cases isFirst
      exact legal
    · rw [others id same]
      exact coherent.steps id
  · intro id found after
    rw [log]
    rcases MovementStore.get_put after with ⟨_, same, rfl⟩ | ⟨other, before⟩
    · rw [same, mine]
      exact List.getLast?_concat ..
    · rw [others id (other durable)]
      exact coherent.current id found before
  · intro member inside base last
    rw [log]
    rcases Coordinator.mem_threads_perform inside with earlier | rfl
    · exact mem_historyOf_append (coherent.read member earlier base last) _
    rw [Thread.history_resume pends] at last
    rcases lastSnapshot_reply last with before | ⟨id, impossible, _⟩ | ⟨same, _⟩
    · exact mem_historyOf_append (coherent.read thread present base before) _
    · cases impossible
    · cases same
      rw [mine]
      exact List.mem_append_right _ (List.mem_singleton_self record)

end Step

theorem Coherent.steps_fenced {config : CoordinatorConfig} {store : OpenStore}
    {coordinator after : Coordinator} {action : Action} (coherent : Coherent config store coordinator)
    (steps : Coordinator.Steps config coordinator action after) (operates : action.operates = true)
    (fenced : coordinator.fenced action = true) : Coherent config store after := by
  cases steps with
  | idles => exact coherent
  | begins _ call rest opened _ =>
      refine ⟨coherent.disciplined.steps (guarded_call config) _ _ _
        (.begins _ call rest opened ‹_›), ?_, coherent.steps, coherent.current, ?_⟩
      · intro thread inside
        rcases Coordinator.mem_threads_spawn inside with earlier | rfl
        · exact coherent.operates thread earlier
        · cases opened with
          | submit request => cases operates
          | cancel id => rfl
          | reconcile id => rfl
          | pickUp id rest queued => rfl
      · intro thread inside base last
        rcases Coordinator.mem_threads_spawn inside with earlier | rfl
        · exact coherent.read thread earlier base last
        · cases last
  | performs index environment thread op located pends =>
      cases op with
      | storePut record =>
          by_cases durable : coordinator.store.val.persists record environment.outcomes = true
          · exact coherent.perform_persisted located pends durable fenced
          · apply coherent.perform_unpersisted located pends
            · exact Coordinator.persisted_put_of_not durable thread
            · intro id found after
              rcases MovementStore.get_put after with ⟨persisted, _, _⟩ | ⟨_, before⟩
              · exact absurd persisted durable
              · exact before
      | _ => exact coherent.perform_unpersisted located pends rfl fun _ _ found => found
  | restarts => cases operates

/-- In every run of workers and operators in which each write finds the generation that
its call last read or wrote, the history of every movement is legal. -/
theorem legalHistory_of_fenced (config : CoordinatorConfig) (store : OpenStore)
    (queue : List MovementId) (actions : List Action)
    (fenced : (Coordinator.started store queue).everyStep config Coordinator.operatesFenced actions =
      true)
    (id : MovementId) :
    LegalHistory (historyOf store ((Coordinator.started store queue).run config actions).log id) := by
  have coherent : Coherent config store ((Coordinator.started store queue).run config actions) := by
    refine Coordinator.run_invariant_of_everyStep ?_ (coherent_started config store queue) actions
      fenced
    intro coordinator action after coherent meets steps
    rw [Coordinator.operatesFenced, Bool.and_eq_true] at meets
    exact coherent.steps_fenced steps meets.1 meets.2
  exact legalHistory_of_isChain (coherent.steps id)

/-- An operator cancels an authorized movement that nobody drives. -/
def undisturbedCancel : List Action :=
  .cancel (.filled 1) :: List.replicate 5 (.alone 0)

theorem legalHistory_undisturbedCancel :
    (historyOf (storeHolding (oneByteMovement .AUTHORIZED))
      ((Coordinator.started (storeHolding (oneByteMovement .AUTHORIZED)) []).run defaultConfig
        undisturbedCancel).log (.filled 1)).map MovementRecord.state = [.AUTHORIZED, .CANCELLED] ∧
    LegalHistory (historyOf (storeHolding (oneByteMovement .AUTHORIZED))
      ((Coordinator.started (storeHolding (oneByteMovement .AUTHORIZED)) []).run defaultConfig
        undisturbedCancel).log (.filled 1)) :=
  ⟨by decide +kernel, legalHistory_of_fenced defaultConfig _ [] undisturbedCancel
    (by decide +kernel) (.filled 1)⟩

/-! ## A run that is not fenced -/

/-- The worker and an operator both read the authorized movement.  The worker finds no
live source and fails it; then the operator's copy, cancelled, is written over that. -/
def crossingCancel : List Action :=
  [.pickUp, .alone 0, .cancel (.filled 1), .alone 1] ++ List.replicate 3 (.alone 0) ++
    List.replicate 4 (.alone 1)

theorem states_crossingCancel :
    (historyOf (storeHolding (oneByteMovement .AUTHORIZED))
      ((Coordinator.started (storeHolding (oneByteMovement .AUTHORIZED)) [.filled 1]).run
        defaultConfig crossingCancel).log (.filled 1)).map MovementRecord.state =
      [.AUTHORIZED, .FAILED, .CANCELLED] := by
  decide +kernel

/-- A terminal snapshot is followed by another state. -/
theorem not_legalHistory_crossingCancel :
    crossingCancel.all Action.operates = true ∧
    ¬LegalHistory (historyOf (storeHolding (oneByteMovement .AUTHORIZED))
      ((Coordinator.started (storeHolding (oneByteMovement .AUTHORIZED)) [.filled 1]).run
        defaultConfig crossingCancel).log (.filled 1)) := by
  refine ⟨by decide, fun legal => ?_⟩
  have final : ((historyOf _ _ _).map MovementRecord.state).Pairwise
      (fun earlier later => isTerminal earlier = true -> later = earlier) :=
    List.pairwise_map.mpr legal.final
  rw [states_crossingCancel] at final
  revert final
  decide

end StateMovementFabric
