import StateMovementFabric.Coordinator.Schedule

namespace StateMovementFabric

open Foundation

/-!
# How an unknown outcome is resolved

A movement whose outcome is unknown is to be resolved by reconciliation alone, with a
report of the destination.  `drive`, recovery and `submit` never settle such a
movement: a driver does not start on one and is the only one that could make it so,
and recovery keeps it unknown.  `cancel` does: the transition table lets it.
-/

/-- The step writes this record as the end of a `reconcile` of its movement, in which the
destination has reported, and no marker if the movement did not take effect. -/
def ResolvedByReport (coordinator : Coordinator) (action : Action) (record : MovementRecord) :
    Prop :=
  exists index environment thread link report, action = .run index environment ∧
    coordinator.performing index = some (thread, .storePut record) ∧
    thread.call = .reconcile record.id ∧ Reported thread.history record link report ∧
    (record.state = .FAILED ∨ record.state = .CANCELLED -> report.markerPresent = false)

/-- Whenever the step takes a stored movement from an unknown outcome to a terminal state,
it does so with a report. -/
def ResolvesWithProof (config : CoordinatorConfig) (coordinator : Coordinator) (action : Action) :
    Prop :=
  forall id before after, coordinator.store.get id = .ok before ->
    before.state = .OUTCOME_UNKNOWN -> (coordinator.step config action).store.get id = .ok after ->
    isTerminal after.state = true -> ResolvedByReport coordinator action after

def Call.isCancel : Call -> Bool
  | .cancel _ => true
  | _ => false

variable {id : MovementId}

namespace Coordinator

/-- A cancellation is not written over an unknown outcome. -/
def cancelsKnown (coordinator : Coordinator) : Action -> Bool
  | .run index _ =>
      match coordinator.performing index with
      | some (thread, .storePut record) =>
          match thread.call.isCancel, coordinator.store.get record.id with
          | true, .ok stored => stored.state != .OUTCOME_UNKNOWN
          | _, _ => true
      | _ => true
  | _ => true

/-- New ids are fresh and no cancellation is written over an unknown outcome. -/
def leavesUnknown (coordinator : Coordinator) (action : Action) : Bool :=
  coordinator.issuesFresh action && coordinator.cancelsKnown action

/-! ## The invariant -/

/-- Everything the call has written was active. -/
def Unsettled (history : CoordinatorHistory) : Prop :=
  forall written reply, ⟨.storePut written, reply⟩ ∈ history -> isActive written.state = true

/-- Recovery, while it runs, is the only thread, and what it has listed and not yet written
is still stored in the listed state. -/
structure RecoversAlone (coordinator : Coordinator) (thread : CoordinatorThread) : Prop where
  alone : coordinator.threads = [thread]
  listed : forall limit (records : List MovementRecord), ⟨.storeList limit, records⟩ ∈ thread.history ->
    forall stored, stored ∈ records ->
      (forall written reply, ⟨.storePut written, reply⟩ ∈ thread.history ->
        written.id ≠ stored.id) ->
      forall found, coordinator.store.get stored.id = .ok found -> found.state = stored.state

/-- The movement that a driver holds as active is not stored with an unknown outcome. -/
def DrivesKnown (coordinator : Coordinator) (thread : CoordinatorThread) : Prop :=
  forall id, thread.call = .drive id -> Unsettled thread.history -> forall base,
    lastSnapshot thread.history = some base -> base.id = id -> isActive base.state = true ->
    forall found, coordinator.store.get id = .ok found -> found.state ≠ .OUTCOME_UNKNOWN

structure Watched (config : CoordinatorConfig) (coordinator : Coordinator) : Prop where
  scheduled : Scheduled config coordinator
  recovers : forall thread, thread ∈ coordinator.threads -> thread.call = .recover ->
    thread.pending.isSome = true -> RecoversAlone coordinator thread
  drives : forall thread, thread ∈ coordinator.threads -> DrivesKnown coordinator thread

theorem watched_started (config : CoordinatorConfig) (store : OpenStore) :
    Watched config (started store []) :=
  ⟨scheduled_started config store, fun _ inside => absurd inside List.not_mem_nil,
    fun _ inside => absurd inside List.not_mem_nil⟩

section Step

variable {config : CoordinatorConfig} {coordinator : Coordinator} {index : Nat}
variable {thread : CoordinatorThread} {environment : Environment}

variable {record : MovementRecord} {member : CoordinatorThread} {op : CoordinatorOp}

/-- A call that began by reading a movement is about that movement. -/
theorem Disciplined.id_of_opened (disciplined : coordinator.Disciplined config (callGuard config))
    (present : thread ∈ coordinator.threads) (opened : Opened thread.history record.id)
    (first : firstOf config thread.call = some (.storeGet id)) : record.id = id := by
  apply opened.eq
  rw [thread.head_history opened.ne_nil, disciplined.first thread present, first]

/-- A driver that writes holds an active version of the movement it drives. -/
theorem Watched.driver_put (watched : Watched config coordinator)
    (present : thread ∈ coordinator.threads) (drives : thread.call = .drive id)
    (pends : thread.pending = some (.storePut record)) :
    record.id = id ∧ forall found, coordinator.store.get id = .ok found ->
      found.state ≠ .OUTCOME_UNKNOWN := by
  have disciplined := watched.scheduled.disciplined
  have may : DriverMay config thread.history record := by
    have allowed := (disciplined.follows thread present).allowed pends
    rw [drives] at allowed
    exact allowed
  have mine : record.id = id := by
    apply disciplined.id_of_opened present may.advances.opened
    rw [drives]
    rfl
  rcases may.advances.successor with ⟨base, last, sameId, _, active⟩
  exact ⟨mine, watched.drives thread present id drives may.unsettled base last
    (sameId.trans mine) active⟩

/-- Only a driver and recovery write an unknown outcome. -/
theorem unknown_writers {call : Call} {past : CoordinatorHistory}
    (may : callGuard config call past (.storePut record))
    (unknown : record.state = .OUTCOME_UNKNOWN) :
    call = .recover ∨ exists id, call = .drive id := by
  cases call with
  | drive id => exact Or.inr ⟨id, rfl⟩
  | recover => exact Or.inl rfl
  | submit request =>
      rcases (show (record.state = .PLANNED ∨ record.state = .AUTHORIZED) ∧ _ from may).1 with
        state | state
      · rw [unknown] at state
        cases state
      · rw [unknown] at state
        cases state
  | cancel id =>
      have state := (show CancelMay past record from may).state
      rw [unknown] at state
      cases state
  | reconcile id =>
      rcases (show ReconcileMay past record from may).reported with
        ⟨_, _, _, ⟨state, _⟩ | ⟨state | state, _⟩⟩
      · rw [unknown] at state
        cases state
      · rw [unknown] at state
        cases state
      · rw [unknown] at state
        cases state

/-- While recovery runs, the thread that performs a step is recovery. -/
theorem Watched.recovery_performs (watched : Watched config coordinator)
    (located : coordinator.threads[index]? = some thread) (pends : thread.pending = some op)
    (inside : member ∈ (coordinator.perform index thread environment op).threads)
    (recover : member.call = .recover) (unfinished : member.pending.isSome = true) :
    RecoversAlone coordinator thread ∧
      member = thread.resume (environment.reply coordinator.store) ∧
      (coordinator.perform index thread environment op).threads = [member] := by
  have present := List.mem_of_getElem? located
  have running : exists runs, runs ∈ coordinator.threads ∧ runs.call = .recover ∧
      runs.pending.isSome = true := by
    rcases mem_threads_perform inside with earlier | rfl
    · exact ⟨member, earlier, recover, unfinished⟩
    · rw [Thread.resume_call] at recover
      exact ⟨thread, present, recover, by rw [pends]; rfl⟩
  rcases running with ⟨runs, runsInside, runsRecover, runsOn⟩
  have alone := watched.recovers runs runsInside runsRecover runsOn
  have same : thread = runs := by
    rw [alone.alone] at present
    exact List.mem_singleton.mp present
  cases same
  have atZero : index = 0 := by
    rw [alone.alone] at located
    have bound := (List.getElem?_eq_some_iff.mp located).1
    rw [List.length_singleton] at bound
    exact Nat.lt_one_iff.mp bound
  have after : (coordinator.perform index thread environment op).threads =
      [thread.resume (environment.reply coordinator.store)] := by
    change coordinator.threads.set index _ = _
    rw [alone.alone, atZero]
    rfl
  rw [after] at inside
  have isResumed := List.mem_singleton.mp inside
  exact ⟨alone, isResumed, after.trans (by rw [isResumed])⟩

/-- An operation of recovery keeps what it has listed. -/
theorem RecoversAlone.listed_perform (alone : RecoversAlone coordinator thread)
    (pends : thread.pending = some op) (limit : UInt32) (records : List MovementRecord)
    (event : ⟨.storeList limit, records⟩ ∈
      (thread.resume (environment.reply coordinator.store)).history) (stored : MovementRecord)
    (member : stored ∈ records) (unwritten : forall written reply, ⟨.storePut written, reply⟩ ∈
      (thread.resume (environment.reply coordinator.store)).history -> written.id ≠ stored.id)
    (found : MovementRecord)
    (after : (storeAfter coordinator.store environment op).get stored.id = .ok found) :
    found.state = stored.state := by
  rw [Thread.history_resume pends] at event unwritten
  have before : forall written reply, ⟨.storePut written, reply⟩ ∈ thread.history ->
      written.id ≠ stored.id :=
    fun written reply inside => unwritten written reply (List.mem_append_left _ inside)
  cases op with
  | storePut record =>
      have other : record.id ≠ stored.id :=
        unwritten record _ (List.mem_append_right _ (List.mem_singleton_self _))
      have kept : coordinator.store.get stored.id = .ok found := by
        rcases MovementStore.get_put after with ⟨_, same, _⟩ | ⟨_, earlier⟩
        · exact absurd same.symm other
        · exact earlier
      rcases List.mem_append.mp event with earlier | last
      · exact alone.listed limit records earlier stored member before found kept
      · cases List.mem_singleton.mp last
  | storeList bound =>
      rcases List.mem_append.mp event with earlier | last
      · exact alone.listed limit records earlier stored member before found after
      · cases List.mem_singleton.mp last
        have present : coordinator.store.get stored.id = .ok stored :=
          OpenStore.get_of_mem_list member
        cases present.symm.trans after
        rfl
  | _ =>
      rcases List.mem_append.mp event with earlier | last
      · exact alone.listed limit records earlier stored member before found after
      · cases List.mem_singleton.mp last

/-- A driver's own operation keeps its movement known, as long as the driver holds it as
active. -/
theorem Watched.drivesKnown_resume (watched : Watched config coordinator)
    (present : thread ∈ coordinator.threads) (pends : thread.pending = some op) (id : MovementId)
    (drives : thread.call = .drive id)
    (unsettled : Unsettled (thread.resume (environment.reply coordinator.store)).history)
    (base : MovementRecord)
    (last : lastSnapshot (thread.resume (environment.reply coordinator.store)).history = some base)
    (mine : base.id = id) (active : isActive base.state = true) (found : MovementRecord)
    (after : (storeAfter coordinator.store environment op).get id = .ok found) :
    found.state ≠ .OUTCOME_UNKNOWN := by
  rw [Thread.history_resume pends] at last unsettled
  have earlier : Unsettled thread.history :=
    fun written reply inside => unsettled written reply (List.mem_append_left _ inside)
  cases op with
  | storePut record =>
      have known := (watched.driver_put present drives pends).2
      rcases MovementStore.get_put after with ⟨_, _, rfl⟩ | ⟨_, before⟩
      · intro unknown
        have wrote := unsettled found _ (List.mem_append_right _ (List.mem_singleton_self _))
        rw [unknown] at wrote
        cases wrote
      · exact known found before
  | storeGet read =>
      change coordinator.store.get id = .ok found at after
      rcases lastSnapshot_reply last with held | ⟨_, same, stored⟩ | ⟨impossible, _⟩
      · exact watched.drives thread present id drives earlier base held mine active found after
      · cases same
        have asked : base.id = read := OpenStore.id_of_get stored
        rw [← asked, mine] at stored
        cases stored.symm.trans after
        intro unknown
        rw [unknown] at active
        cases active
      · cases impossible
  | _ =>
      rw [lastSnapshot_concat] at last
      exact watched.drives thread present id drives earlier base last mine active found after

/-- An operation of another thread does not make a driven movement unknown. -/
theorem Watched.drivesKnown_other (watched : Watched config coordinator)
    (located : coordinator.threads[index]? = some thread) (pends : thread.pending = some op)
    {other : Nat} (elsewhere : coordinator.threads[other]? = some member) (apart : index ≠ other) :
    DrivesKnown (coordinator.perform index thread environment op) member := by
  intro id drives unsettled base last mine active found after
  have present := List.mem_of_getElem? located
  have inside := List.mem_of_getElem? elsewhere
  have before := watched.drives member inside id drives unsettled base last mine active
  cases op with
  | storePut record =>
      rcases MovementStore.get_put after with ⟨_, same, rfl⟩ | ⟨_, kept⟩
      · intro unknown
        have allowed := (watched.scheduled.disciplined.follows thread present).allowed pends
        rcases unknown_writers allowed unknown with recover | ⟨driven, alsoDrives⟩
        · -- recovery is the only thread
          have alone := (watched.recovers thread present recover (by rw [pends]; rfl)).alone
          rw [alone] at inside
          cases List.mem_singleton.mp inside
          rw [recover] at drives
          cases drives
        · have own := (watched.driver_put present alsoDrives pends).1
          rw [← own, ← same] at alsoDrives
          exact apart (watched.scheduled.driver_unique located elsewhere alsoDrives drives)
      · exact before found kept
  | _ => exact before found after

/-- A terminal record is written over an unknown outcome by `reconcile` only. -/
theorem Watched.put_resolves (watched : Watched config coordinator) {before : MovementRecord}
    (located : coordinator.threads[index]? = some thread)
    (pends : thread.pending = some (.storePut record))
    (known : coordinator.cancelsKnown (.run index environment) = true)
    (found : coordinator.store.get record.id = .ok before)
    (unknown : before.state = .OUTCOME_UNKNOWN) (terminal : isTerminal record.state = true) :
    thread.call = .reconcile record.id ∧ exists link report,
      Reported thread.history record link report ∧
      (record.state = .FAILED ∨ record.state = .CANCELLED -> report.markerPresent = false) := by
  have present := List.mem_of_getElem? located
  have disciplined := watched.scheduled.disciplined
  have allowed := (disciplined.follows thread present).allowed pends
  cases calls : thread.call with
  | drive id =>
      have driven := watched.driver_put present calls pends
      rw [driven.1] at found
      exact absurd unknown (driven.2 before found)
  | submit request =>
      rw [calls] at allowed
      rcases (show (record.state = .PLANNED ∨ record.state = .AUTHORIZED) ∧ _ from allowed).1 with
        state | state
      · rw [state] at terminal
        cases terminal
      · rw [state] at terminal
        cases terminal
  | cancel id =>
      simp only [cancelsKnown, performing_of_pending located pends, calls, Call.isCancel, found,
        unknown] at known
      cases known
  | reconcile id =>
      rw [calls] at allowed
      have may : ReconcileMay thread.history record := allowed
      have mine : record.id = id := by
        apply disciplined.id_of_opened present may.advances.opened
        rw [calls]
        rfl
      rcases may.reported with ⟨link, report, reported, ⟨committed, _⟩ | ⟨_, absent⟩⟩
      · refine ⟨by rw [mine], link, report, reported, fun ended => ?_⟩
        rw [committed] at ended
        rcases ended with impossible | impossible
        · cases impossible
        · cases impossible
      · exact ⟨by rw [mine], link, report, reported, fun _ => absent⟩
  | recover =>
      rw [calls] at allowed
      rcases (show RecoveryMay thread.history record from allowed) with
        ⟨limit, visited, stored, rest, may⟩
      rcases may.target with ⟨_, planned⟩ | kept
      · have alone := watched.recovers thread present calls (by rw [pends]; rfl)
        have unvisited : stored.id ∉ visited.map MovementRecord.id := by
          have nodup := may.nodup
          rw [List.map_append, List.map_cons, List.nodup_append] at nodup
          exact fun inside => nodup.2.2 stored.id inside stored.id List.mem_cons_self rfl
        have same := alone.listed limit _ may.listed stored
          (List.mem_append_right _ List.mem_cons_self)
          (fun written reply event equal => unvisited (equal ▸ may.before written reply event))
          before (may.id ▸ found)
        rw [planned, unknown] at same
        cases same
      · rw [kept] at terminal
        cases terminal

theorem Watched.perform (watched : Watched config coordinator)
    (located : coordinator.threads[index]? = some thread) (pends : thread.pending = some op)
    (fresh : coordinator.issuesFresh (.run index environment) = true) :
    Watched config (coordinator.perform index thread environment op) := by
  have present := List.mem_of_getElem? located
  refine ⟨watched.scheduled.perform located pends fresh, ?_, ?_⟩
  · intro member inside recover unfinished
    rcases watched.recovery_performs located pends inside recover unfinished with
      ⟨alone, rfl, after⟩
    exact ⟨after, fun limit records event stored listed unwritten found =>
      alone.listed_perform pends limit records event stored listed unwritten found⟩
  · intro member inside
    rcases List.getElem?_of_mem inside with ⟨other, elsewhere⟩
    change (coordinator.threads.set index _)[other]? = some member at elsewhere
    rw [List.getElem?_set] at elsewhere
    by_cases apart : index = other
    · rw [if_pos apart] at elsewhere
      split at elsewhere
      · cases elsewhere
        intro id drives
        rw [Thread.resume_call] at drives
        exact watched.drivesKnown_resume present pends id drives
      · cases elsewhere
    · rw [if_neg apart] at elsewhere
      exact watched.drivesKnown_other located pends elsewhere apart

end Step

variable {action : Action}

theorem Watched.steps_leaving {config : CoordinatorConfig} {coordinator after : Coordinator}
    (watched : Watched config coordinator) (leaves : coordinator.leavesUnknown action = true)
    (steps : Steps config coordinator action after) :
    Watched config after := by
  have fresh := (Bool.and_eq_true_iff.mp leaves).1
  have scheduled := watched.scheduled.steps_fresh fresh steps
  cases steps with
  | idles => exact watched
  | begins _ call rest opened recovered =>
      refine ⟨scheduled, fun thread inside recover unfinished => ?_, fun thread inside => ?_⟩
      · rcases mem_threads_spawn inside with earlier | rfl
        · -- nothing starts while recovery runs
          have running : coordinator.recovering = true :=
            List.any_eq_true.mpr ⟨thread, earlier, by rw [recover, unfinished]; rfl⟩
          rw [recovered] at running
          cases running
        · cases opened <;> cases recover
      · rcases mem_threads_spawn inside with earlier | rfl
        · exact watched.drives thread earlier
        · intro id drives unsettled base last
          cases last
  | performs index environment thread op located pends => exact watched.perform located pends fresh
  | restarts =>
      refine ⟨scheduled, fun thread inside _ _ => ?_, fun thread inside id drives => ?_⟩
      · cases List.mem_singleton.mp inside
        exact ⟨rfl, fun _ _ event => absurd event List.not_mem_nil⟩
      · cases List.mem_singleton.mp inside
        cases drives

/-! ## The result -/

/-- A watched coordinator resolves an unknown outcome only with a report. -/
theorem Watched.resolvesWithProof {config : CoordinatorConfig} {coordinator : Coordinator}
    (watched : Watched config coordinator) (leaves : coordinator.leavesUnknown action = true) :
    ResolvesWithProof config coordinator action := by
  intro id before after found unknown changed terminal
  have steps := step_steps config coordinator action
  generalize coordinator.step config action = next at steps changed
  have unchanged : coordinator.store.get id = .ok after -> ResolvedByReport coordinator action after := by
    intro same
    cases found.symm.trans same
    rw [unknown] at terminal
    cases terminal
  cases steps with
  | idles => exact unchanged changed
  | begins => exact unchanged changed
  | restarts =>
      rcases OpenStore.get_reload changed with ⟨earlier, kept, same⟩
      cases found.symm.trans kept
      have state : after.eraseBound.state = before.eraseBound.state := congrArg _ same
      change after.state = before.state at state
      rw [state, unknown] at terminal
      cases terminal
  | performs index environment thread op located pends =>
      cases op with
      | storePut record =>
          rcases MovementStore.get_put changed with ⟨_, rfl, rfl⟩ | ⟨_, kept⟩
          · have known := (Bool.and_eq_true_iff.mp leaves).2
            rcases watched.put_resolves located pends known found unknown terminal with
              ⟨reconciles, link, report, reported, absent⟩
            exact ⟨index, environment, thread, link, report, rfl,
              performing_of_pending located pends, reconciles, reported, absent⟩
          · exact unchanged kept
      | _ => exact unchanged changed

end Coordinator

/-- In every run in which new ids are fresh and no cancellation is written over an unknown
outcome, every step resolves an unknown outcome only with a report of the destination. -/
theorem unknown_resolved_with_proof (config : CoordinatorConfig) (store : OpenStore)
    (actions : List Action)
    (leaves : (Coordinator.started store []).everyStep config Coordinator.leavesUnknown actions =
      true)
    (earlier later : List Action) (action : Action) (split : actions = earlier ++ action :: later) :
    ResolvesWithProof config ((Coordinator.started store []).run config earlier) action := by
  rw [split, Coordinator.everyStep_append, Bool.and_eq_true, Coordinator.everyStep,
    Bool.and_eq_true] at leaves
  have watched : ((Coordinator.started store []).run config earlier).Watched config :=
    Coordinator.run_invariant_of_everyStep
      (fun coordinator action after watched meets steps => watched.steps_leaving meets steps)
      (Coordinator.watched_started config store) earlier leaves.1
  exact watched.resolvesWithProof leaves.2.1

/-- The state in which a movement is stored. -/
def OpenStore.stateOf (store : OpenStore) (id : MovementId) : Option MovementState :=
  (store.get id).toOption.map MovementRecord.state

theorem OpenStore.get_of_stateOf {store : OpenStore} {state : MovementState}
    (stored : store.stateOf id = some state) :
    exists record, store.get id = .ok record ∧ record.state = state := by
  unfold stateOf at stored
  cases found : store.get id with
  | error status =>
      rw [found] at stored
      cases stored
  | ok record =>
      rw [found] at stored
      exact ⟨record, rfl, Option.some.inj stored⟩

/-- The destination has no marker for the movement. -/
def noMarker : Environment where
  link := some 0
  slot := some 0
  arrival := .frame (AuthorityReport.mk (.filled 1) .OK false false false false .zero 0 []).frame

/-- A reconciliation up to its write, and the write. -/
def reconcileThenWrite : List Action :=
  (.reconcile (.filled 1) :: List.replicate 7 (.run 0 noMarker)) ++ [.run 0 noMarker]

theorem unknown_resolved_reconcileThenWrite :
    ((Coordinator.started (storeHolding (oneByteMovement .OUTCOME_UNKNOWN)) []).run defaultConfig
      (.reconcile (.filled 1) :: List.replicate 7 (.run 0 noMarker))).store.stateOf (.filled 1) =
        some .OUTCOME_UNKNOWN ∧
    ((Coordinator.started (storeHolding (oneByteMovement .OUTCOME_UNKNOWN)) []).run defaultConfig
      reconcileThenWrite).store.stateOf (.filled 1) = some .FAILED ∧
    ResolvesWithProof defaultConfig
      ((Coordinator.started (storeHolding (oneByteMovement .OUTCOME_UNKNOWN)) []).run defaultConfig
        (.reconcile (.filled 1) :: List.replicate 7 (.run 0 noMarker))) (.run 0 noMarker) :=
  ⟨by decide +kernel, by decide +kernel,
    unknown_resolved_with_proof defaultConfig _ reconcileThenWrite (by decide +kernel) _ [] _ rfl⟩

/-! ## A cancellation of an unknown outcome -/

/-- The coordinator restarts while the movement is in flight, and an operator cancels it. -/
def cancelUnknown : List Action :=
  .restart :: List.replicate 3 (.alone 0) ++ .cancel (.filled 1) :: List.replicate 4 (.alone 1)

/-- The last operation of `cancel` takes the movement from an unknown outcome to
`CANCELLED` without any report. -/
theorem not_resolvesWithProof_cancelUnknown :
    (Coordinator.started (storeHolding (oneByteMovement .TRANSFERRING)) []).everyStep defaultConfig
      Coordinator.issuesFresh (cancelUnknown ++ [.alone 1]) = true ∧
    ¬ResolvesWithProof defaultConfig
      ((Coordinator.started (storeHolding (oneByteMovement .TRANSFERRING)) []).run defaultConfig
        cancelUnknown) (.alone 1) := by
  refine ⟨by decide +kernel, fun resolves => ?_⟩
  have unknown : ((Coordinator.started (storeHolding (oneByteMovement .TRANSFERRING)) []).run
      defaultConfig cancelUnknown).store.stateOf (.filled 1) = some .OUTCOME_UNKNOWN := by
    decide +kernel
  have cancelled : (((Coordinator.started (storeHolding (oneByteMovement .TRANSFERRING)) []).run
      defaultConfig cancelUnknown).step defaultConfig (.alone 1)).store.stateOf (.filled 1) =
        some .CANCELLED := by
    decide +kernel
  have writer : (((Coordinator.started (storeHolding (oneByteMovement .TRANSFERRING)) []).run
      defaultConfig cancelUnknown).performing 1).map (fun pair => pair.1.call.isCancel) =
        some true := by
    decide +kernel
  rcases OpenStore.get_of_stateOf unknown with ⟨before, found, wasUnknown⟩
  rcases OpenStore.get_of_stateOf cancelled with ⟨after, changed, isCancelled⟩
  have terminal : isTerminal after.state = true := by
    rw [isCancelled]
    rfl
  rcases resolves (.filled 1) before after found wasUnknown changed terminal with
    ⟨index, environment, thread, _, _, same, performing, reconciles, _, _⟩
  cases same
  rw [performing, Option.map_some, reconciles] at writer
  cases writer

end StateMovementFabric
