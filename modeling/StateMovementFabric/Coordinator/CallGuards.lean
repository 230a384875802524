import StateMovementFabric.Coordinator.DriverGuard

namespace StateMovementFabric

open Foundation Wire

/-!
# What the other calls may write

`cancel` writes `CANCELLED` over any version that it read unfinished.  `reconcile`
writes only over an unknown outcome, and only with a report of the destination behind
it.  `submit` writes and queues only the movement it has created, and recovery
revisits every listed movement at most once.
-/

/-! ## Cancellation -/

/-- What `cancel` may write. -/
structure CancelMay (past : CoordinatorHistory) (record : MovementRecord) : Prop where
  advances : Advances (fun state => isTerminal state = false) past record
  state : record.state = .CANCELLED

theorem guarded_notifyCancel {allowed : CoordinatorHistory -> MovementRecord -> Prop}
    {condition : CoordinatorHistory -> Prop} (stable : Stable condition) (record : MovementRecord)
    (endpoints : List EndpointId) {past : CoordinatorHistory} (holds : condition past) :
    Program.Guarded (putGuard allowed) (fun later _ => condition later) past
      (notifyCancel record endpoints) := by
  induction endpoints generalizing past with
  | nil => exact holds
  | cons endpoint rest ih =>
      refine guarded_quiet stable holds rfl fun found _ holds => ?_
      rcases found with status | link
      · exact ih holds
      · apply guarded_request stable holds
        · exact fun later _ holds => ih holds
        · exact fun before future what frame holds _ =>
            ih (stable before (.await link future what) (.ok frame) rfl holds)

theorem guarded_cancel (id : MovementId) :
    Program.Guarded (putGuard CancelMay) (fun _ _ => True) [] (cancel id) := by
  apply guarded_storeGet
  · exact fun _ => trivial
  rintro stored rfl
  dsimp only
  by_cases terminal : isTerminal stored.state = true
  · rw [if_pos terminal]
    trivial
  rw [if_neg terminal]
  have asked : Holds [⟨.storeGet stored.id, .ok stored⟩] { stored with cancelRequested := true } :=
    (holds_get stored).of_same rfl rfl rfl
  have unfinished : isTerminal ({ stored with cancelRequested := true } : MovementRecord).state =
      false := by
    simpa using terminal
  generalize { stored with cancelRequested := true } = record at asked unfinished ⊢
  refine (guarded_notifyCancel (stable_holds record) record _ asked).bind fun later _ holds => ?_
  refine guarded_quiet (stable_holds record) holds rfl fun now _ holds => ?_
  rcases applied : applyTransition record .CANCELLED
      (.deny .CANCELLED_BY_OPERATOR (ascii "cancelled by the operator")) .CANCELLED now with
    ⟨cancelled, status | ⟨⟩⟩
  · trivial
  dsimp only
  have moved := moved_of_applyTransition applied
  apply guarded_storePut
  · exact ⟨holds.advances moved.id moved.legalStep unfinished, moved.state⟩
  · exact fun _ => trivial
  · exact ⟨trivial, fun _ _ => trivial⟩

/-! ## Reconciliation -/

/-- The event is a live session found for this endpoint. -/
def foundSession (endpoint : EndpointId) (link : LinkId) (event : CoordinatorEvent) : Prop :=
  event = ⟨.findLink endpoint, .ok link⟩

/-- The event is the arrival of this report on this session. -/
def reportedOn (link : LinkId) (report : AuthorityReport) (event : CoordinatorEvent) : Prop :=
  exists future what frame, event = ⟨.await link future what, .ok frame⟩ ∧
    decodeMessage AuthorityReport.decode frame = .ok report

/-- A report about this movement that the destination sent during the call. -/
structure Reported (past : CoordinatorHistory) (record : MovementRecord) (link : LinkId)
    (report : AuthorityReport) : Prop where
  ordered : InOrder [foundSession record.destination link, reportedOn link report] past
  movement : report.movementId = record.id

/-- What `reconcile` may write. -/
structure ReconcileMay (past : CoordinatorHistory) (record : MovementRecord) : Prop where
  advances : Advances (fun state => state = .OUTCOME_UNKNOWN) past record
  reported : exists link report, Reported past record link report ∧
    (record.state = .COMMITTED ∧ markerIsMine report = true ∨
      (record.state = .FAILED ∨ record.state = .CANCELLED) ∧ report.markerPresent = false)

/-- The record is held at an unknown outcome, and the destination has reported. -/
structure Asked (record : MovementRecord) (link : LinkId) (report : AuthorityReport)
    (past : CoordinatorHistory) : Prop where
  holds : Holds past record
  unknown : record.state = .OUTCOME_UNKNOWN
  reported : Reported past record link report

theorem stable_inOrder (kinds : List (CoordinatorEvent -> Prop)) : Stable (InOrder kinds) :=
  fun _ _ _ _ ordered => ordered.later _

theorem stable_asked (record : MovementRecord) (link : LinkId) (report : AuthorityReport) :
    Stable (Asked record link report) := by
  intro past op reply quiet asked
  exact ⟨stable_holds record past op reply quiet asked.holds, asked.unknown,
    asked.reported.ordered.later _, asked.reported.movement⟩

variable {past : CoordinatorHistory}

variable {changed record stored : MovementRecord} {link : LinkId} {report : AuthorityReport}
  {limit : UInt32} {rest visited : List MovementRecord}

theorem Reported.of_moved {next : MovementState} (reported : Reported past record link report)
    (moved : record.Moved next changed) : Reported past changed link report :=
  ⟨moved.destination ▸ reported.ordered, reported.movement.trans moved.id.symm⟩

theorem guarded_reconcileCommitted (asked : Asked record link report past)
    (mine : markerIsMine report = true) :
    Program.Guarded (putGuard ReconcileMay) (fun _ _ => True) past
      (reconcileCommitted record report) := by
  refine guarded_quiet (stable_asked record link report) asked rfl fun now _ asked => ?_
  rcases applied : applyTransition record .COMMITTED
      (.allow .OK (ascii "reconciliation found a valid commit marker at the destination"))
      .RECONCILED now with ⟨changed, status | ⟨⟩⟩
  · trivial
  dsimp only
  have moved := moved_of_applyTransition applied
  have committed : record.Moved .COMMITTED { changed with
      commitMarkerDigest := report.markerDigest
      destinationVerifiedDigest := changed.object.contentDigest
      bytesTransferred := changed.object.totalBytes
      chunksVerified := changed.object.chunkCount } :=
    ⟨moved.id, moved.object, moved.destination, moved.state, moved.legal, moved.generation⟩
  apply guarded_storePut
  · exact ⟨asked.holds.advances committed.id committed.legalStep asked.unknown, link, report,
      asked.reported.of_moved committed, Or.inl ⟨committed.state, mine⟩⟩
  · exact fun _ => trivial
  · exact ⟨trivial, fun _ _ => trivial⟩

theorem guarded_reconcileAbsent (asked : Asked record link report past)
    (absent : report.markerPresent = false) :
    Program.Guarded (putGuard ReconcileMay) (fun _ _ => True) past (reconcileAbsent record) := by
  unfold reconcileAbsent
  generalize target : (if record.cancelRequested then MovementState.CANCELLED else .FAILED) = next
  have settled : next = .FAILED ∨ next = .CANCELLED := by
    rw [← target]
    split
    · exact Or.inr rfl
    · exact Or.inl rfl
  refine guarded_quiet (stable_asked record link report) asked rfl fun now _ asked => ?_
  split
  · trivial
  · rename_i resolved applied
    have moved := moved_of_applyTransition applied
    apply guarded_storePut
    · exact ⟨asked.holds.advances moved.id moved.legalStep asked.unknown, link, report,
        asked.reported.of_moved moved, Or.inr ⟨moved.state ▸ settled, absent⟩⟩
    · exact fun _ => trivial
    · exact ⟨trivial, fun _ _ => trivial⟩

theorem guarded_reconcile (id : MovementId) :
    Program.Guarded (putGuard ReconcileMay) (fun _ _ => True) [] (reconcile id) := by
  apply guarded_storeGet
  · exact fun _ => trivial
  rintro record rfl
  dsimp only
  by_cases known : record.state ≠ .OUTCOME_UNKNOWN
  · rw [if_pos known]
    trivial
  rw [if_neg known]
  have unknown := not_not.mp known
  refine guarded_quiet (stable_holds record) (holds_get record) rfl fun _ _ holds => ?_
  refine ⟨trivial, fun found _ => ?_⟩
  replace holds := stable_holds record _ (.findLink record.destination) found rfl holds
  rcases found with status | link
  · trivial
  have session : InOrder [foundSession record.destination link]
      (([] ++ [⟨.storeGet record.id, .ok record⟩] ++ [⟨.count .reconciliations, ()⟩]) ++
        [⟨.findLink record.destination, .ok link⟩]) :=
    InOrder.concat List.SublistForall₂.nil rfl
  apply guarded_request ((stable_holds record).and (stable_inOrder _)) ⟨holds, session⟩
  · exact fun _ _ _ => trivial
  intro before future what frame waiting keyed
  cases decoded : decodeMessage AuthorityReport.decode frame with
  | error status =>
      simp only [decoded]
      trivial
  | ok report =>
      simp only [decoded]
      have asked : Asked record link report (before ++ [⟨.await link future what, .ok frame⟩]) :=
        ⟨stable_holds record before (.await link future what) (.ok frame) rfl waiting.1, unknown,
          waiting.2.concat ⟨future, what, frame, rfl, decoded⟩,
          movementId_of_pendingKey keyed decoded⟩
      split
      · rename_i mine
        exact guarded_reconcileCommitted asked (Bool.and_eq_true_iff.mp mine).2
      · split
        · rename_i absent
          exact guarded_reconcileAbsent asked (by simpa using absent)
        · trivial

/-! ## Submission -/

/-- The movement ids that were issued to the call. -/
def issuedIn (history : CoordinatorHistory) : List MovementId :=
  history.filterMap fun
    | ⟨.newMovementId, id⟩ => some id
    | _ => none

/-- The movement ids that the call has queued. -/
def queuedIn (history : CoordinatorHistory) : List MovementId :=
  history.filterMap fun
    | ⟨.enqueue id, _⟩ => some id
    | _ => none

/-- `submit` writes and queues only what was issued to it, and queues once. -/
def submitGuard : Program.Guard coordinatorSignature
  | past, .storePut record =>
      (record.state = .PLANNED ∨ record.state = .AUTHORIZED) ∧ record.id ∈ issuedIn past
  | past, .enqueue id => id ∈ issuedIn past ∧ queuedIn past = []
  | _, _ => True

/-- Nothing has been queued yet, and these ids have been issued. -/
structure Submitting (ids : List MovementId) (past : CoordinatorHistory) : Prop where
  issued : issuedIn past = ids
  unqueued : queuedIn past = []

theorem Submitting.later {ids : List MovementId} (submitting : Submitting ids past)
    {event : CoordinatorEvent} (issues : issuedIn [event] = []) (queues : queuedIn [event] = []) :
    Submitting ids (past ++ [event]) := by
  constructor
  · rw [issuedIn, List.filterMap_append, ← issuedIn, ← issuedIn, issues, List.append_nil]
    exact submitting.issued
  · rw [queuedIn, List.filterMap_append, ← queuedIn, ← queuedIn, queues, List.append_nil]
    exact submitting.unqueued

theorem stable_submitting (ids : List MovementId) : Stable (Submitting ids) := by
  intro past op reply quiet submitting
  apply submitting.later
  · cases op <;> first | rfl | cases quiet
  · cases op <;> first | rfl | cases quiet

section Submit

variable {α : Type} {done : CoordinatorHistory -> α -> Prop} {ids : List MovementId}

theorem guarded_submit_quiet (submitting : Submitting ids past) {op : CoordinatorOp}
    (quiet : op.isQuiet = true) {next : op.Reply -> CoordinatorProgram α}
    (continues : forall reply, Submitting ids (past ++ [⟨op, reply⟩]) ->
      Program.Guarded submitGuard done (past ++ [⟨op, reply⟩]) (next reply)) :
    Program.Guarded submitGuard done past (ask op >>= next) := by
  refine ⟨?_, fun reply _ =>
    continues reply (stable_submitting ids past op reply quiet submitting)⟩
  cases op <;> first | trivial | cases quiet

theorem guarded_submit_put (submitting : Submitting [record.id] past)
    (state : record.state = .PLANNED ∨ record.state = .AUTHORIZED)
    {next : Result Unit -> CoordinatorProgram α}
    (refused : forall later status, Program.Guarded submitGuard done later (next (.error status)))
    (accepted : forall later, Submitting [record.id] later ->
      Program.Guarded submitGuard done later (next (.ok ()))) :
    Program.Guarded submitGuard done past (storePut record >>= next) := by
  refine ⟨⟨state, ?_⟩, fun reply _ => ?_⟩
  · rw [submitting.issued]
    exact List.mem_singleton_self record.id
  · rcases reply with status | ⟨⟩
    · exact refused _ status
    · exact accepted _ (submitting.later rfl rfl)

end Submit

theorem guarded_compatibilityNote (config : CoordinatorConfig) (object : StateObjectDescriptor)
    (destination : EndpointId) {ids : List MovementId} (submitting : Submitting ids past) :
    Program.Guarded submitGuard (fun later _ => Submitting ids later) past
      (compatibilityNote config object destination) := by
  unfold compatibilityNote
  refine guarded_submit_quiet submitting rfl fun published submitting => ?_
  rcases published with _ | status | evidence
  · exact submitting
  · dsimp only
    split
    · exact submitting
    · exact submitting
  · dsimp only
    split
    · split
      · exact submitting
      · exact submitting
    · refine guarded_submit_quiet submitting rfl fun _ submitting => ?_
      split
      · exact submitting
      · split
        · exact submitting
        · exact submitting

theorem guarded_authorize (note : Text) (planned : record.state = .PLANNED)
    (submitting : Submitting [record.id] past) :
    Program.Guarded submitGuard (fun _ _ => True) past (authorize record note) := by
  unfold authorize
  apply guarded_submit_put submitting (Or.inl planned)
  · exact fun _ _ => trivial
  intro later submitting
  refine guarded_submit_quiet submitting rfl fun now submitting => ?_
  split
  · exact ⟨trivial, fun _ _ => trivial⟩
  · rename_i authorized applied
    have moved := moved_of_applyTransition applied
    rw [← moved.id] at submitting
    apply guarded_submit_put submitting (Or.inr moved.state)
    · exact fun _ _ => trivial
    intro last submitting
    refine guarded_submit_quiet submitting rfl fun _ submitting => ?_
    refine ⟨⟨?_, submitting.unqueued⟩, fun _ _ => trivial⟩
    rw [submitting.issued]
    exact List.mem_singleton_self authorized.id

theorem of_created {planned : MovementRecord} {note : Text}
    (made : created planned note = .ok record) :
    record.id = planned.id ∧ record.state = planned.state := by
  rcases created_eq_ok made with ⟨_, chain, _, rfl⟩
  exact ⟨rfl, rfl⟩

theorem guarded_plan (config : CoordinatorConfig) (request : SubmitMovement)
    (object : StateObjectDescriptor) (submitting : Submitting [] past) :
    Program.Guarded submitGuard (fun _ _ => True) past (plan config request object) := by
  unfold plan
  refine guarded_submit_quiet submitting rfl fun source submitting => ?_
  rcases source with status | source
  · trivial
  refine guarded_submit_quiet submitting rfl fun destination submitting => ?_
  rcases destination with status | destination
  · trivial
  dsimp only
  split
  · trivial
  refine (guarded_compatibilityNote config object request.destination submitting).bind
    fun later decided submitting => ?_
  rcases decided with status | note
  · trivial
  refine ⟨trivial, fun id _ => ?_⟩
  replace submitting : Submitting [id] (later ++ [⟨.newMovementId, id⟩]) := by
    constructor
    · rw [issuedIn, List.filterMap_append, ← issuedIn, submitting.issued]
      rfl
    · rw [queuedIn, List.filterMap_append, ← queuedIn, submitting.unqueued]
      rfl
  refine guarded_submit_quiet submitting rfl fun compatibility submitting => ?_
  refine guarded_submit_quiet submitting rfl fun topology submitting => ?_
  refine guarded_submit_quiet submitting rfl fun now submitting => ?_
  split
  · trivial
  · rename_i record made
    have same := of_created made
    exact guarded_authorize note same.2 (same.1 ▸ submitting)

theorem guarded_submit (config : CoordinatorConfig) (request : SubmitMovement) :
    Program.Guarded submitGuard (fun _ _ => True) [] (submit config request) := by
  have fresh : Submitting [] [] := ⟨rfl, rfl⟩
  unfold submit
  split
  · trivial
  refine guarded_submit_quiet fresh rfl fun announced submitting => ?_
  split
  · trivial
  split
  · trivial
  · exact guarded_plan config request _ submitting

/-! ## Recovery -/

/-- What recovery may write: for a listed movement that was unfinished and that it has
not written before. -/
structure RecoverMay (past : CoordinatorHistory) (record : MovementRecord) (limit : UInt32)
    (visited : List MovementRecord) (stored : MovementRecord) (rest : List MovementRecord) :
    Prop where
  listed : ⟨.storeList limit, visited ++ stored :: rest⟩ ∈ past
  nodup : ((visited ++ stored :: rest).map MovementRecord.id).Nodup
  before : forall written reply, ⟨.storePut written, reply⟩ ∈ past ->
    written.id ∈ visited.map MovementRecord.id
  id : record.id = stored.id
  target : record.state = .FAILED ∧ stored.state = .PLANNED ∨ record.state = .OUTCOME_UNKNOWN

/-- The loop stands before the movements that are left. -/
structure Revisiting (limit : UInt32) (visited left : List MovementRecord)
    (past : CoordinatorHistory) : Prop where
  listed : ⟨.storeList limit, visited ++ left⟩ ∈ past
  nodup : ((visited ++ left).map MovementRecord.id).Nodup
  before : forall written reply, ⟨.storePut written, reply⟩ ∈ past ->
    written.id ∈ visited.map MovementRecord.id

theorem stable_revisiting (limit : UInt32) (visited left : List MovementRecord) :
    Stable (Revisiting limit visited left) := by
  intro past op reply quiet revisiting
  refine ⟨List.mem_append_left _ revisiting.listed, revisiting.nodup, ?_⟩
  intro written answer member
  rcases List.mem_append.mp member with earlier | last
  · exact revisiting.before written answer earlier
  · cases List.mem_singleton.mp last
    cases quiet

theorem Revisiting.skip (revisiting : Revisiting limit visited (stored :: rest) past) :
    Revisiting limit (visited ++ [stored]) rest past := by
  refine ⟨?_, ?_, fun written reply member => ?_⟩
  · rw [List.append_assoc]
    exact revisiting.listed
  · rw [List.append_assoc]
    exact revisiting.nodup
  · rw [List.map_append]
    exact List.mem_append_left _ (revisiting.before written reply member)

theorem Revisiting.wrote (revisiting : Revisiting limit visited (stored :: rest) past)
    (id : record.id = stored.id) (reply : Result Unit) :
    Revisiting limit (visited ++ [stored]) rest (past ++ [⟨.storePut record, reply⟩]) := by
  refine ⟨List.mem_append_left _ revisiting.skip.listed, revisiting.skip.nodup, ?_⟩
  intro written answer member
  rcases List.mem_append.mp member with earlier | last
  · exact revisiting.skip.before written answer earlier
  · cases List.mem_singleton.mp last
    rw [id, List.map_append]
    exact List.mem_append_right _ (List.mem_singleton_self stored.id)

/-- The guard of recovery. -/
def RecoveryMay (past : CoordinatorHistory) (record : MovementRecord) : Prop :=
  exists limit visited stored rest, RecoverMay past record limit visited stored rest

theorem of_recoveryTransition {now : Millis}
    (applied : recoveryTransition stored now = (changed, .ok ())) :
    changed.id = stored.id ∧
      (changed.state = .FAILED ∧ stored.state = .PLANNED ∨ changed.state = .OUTCOME_UNKNOWN) := by
  unfold recoveryTransition at applied
  split at applied
  · rename_i planned
    have moved := moved_of_applyTransition applied
    exact ⟨moved.id, Or.inl ⟨moved.state, planned⟩⟩
  · have moved := moved_of_applyTransition applied
    exact ⟨moved.id, Or.inr moved.state⟩

theorem guarded_revisit (left : List MovementRecord)
    (revisiting : Revisiting limit visited left past) :
    Program.Guarded (putGuard RecoveryMay) (fun _ _ => True) past (revisit left) := by
  induction left generalizing past visited with
  | nil => trivial
  | cons stored rest ih =>
      unfold revisit
      split
      · exact ih revisiting.skip
      · refine guarded_quiet (stable_revisiting limit visited (stored :: rest)) revisiting rfl
          fun now _ revisiting => ?_
        rcases applied : recoveryTransition stored now with ⟨changed, status | ⟨⟩⟩
        · exact ih revisiting.skip
        · have target := of_recoveryTransition applied
          apply guarded_persistWhen
          · exact fun _ => ⟨limit, visited, stored, rest, revisiting.listed, revisiting.nodup,
              revisiting.before, target.1, target.2⟩
          · exact ih revisiting.skip
          · exact fun reply => ih (revisiting.wrote target.1 reply)

theorem guarded_recoverAfterRestart (config : CoordinatorConfig) :
    Program.Guarded (putGuard RecoveryMay) (fun _ _ => True) [] (recoverAfterRestart config) := by
  refine ⟨trivial, fun listed nodup => ?_⟩
  have begins : Revisiting config.policy.maxHistoryRecords [] listed
      [⟨.storeList config.policy.maxHistoryRecords, listed⟩] := by
    refine ⟨List.mem_singleton_self _, nodup, ?_⟩
    intro written reply member
    cases List.mem_singleton.mp member
  exact guarded_revisit listed begins

/-! ## The guard of every call -/

def callGuard (config : CoordinatorConfig) : Call -> Program.Guard coordinatorSignature
  | .drive _ => putGuard (DriverMay config)
  | .submit _ => submitGuard
  | .cancel _ => putGuard CancelMay
  | .reconcile _ => putGuard ReconcileMay
  | .recover => putGuard RecoveryMay

theorem guarded_call (config : CoordinatorConfig) (call : Call) :
    Program.Guarded (callGuard config call) (fun _ _ => True) [] (call.program config) := by
  cases call with
  | drive id => exact (guarded_driveMovement config id).bind fun _ _ _ => trivial
  | submit request => exact (guarded_submit config request).bind fun _ _ _ => trivial
  | cancel id => exact (guarded_cancel id).bind fun _ _ _ => trivial
  | reconcile id => exact (guarded_reconcile id).bind fun _ _ _ => trivial
  | recover => exact (guarded_recoverAfterRestart config).bind fun _ _ _ => trivial

/-- In every run, every thread respects its guard and every durable write was allowed
where it was made. -/
theorem disciplined_run (config : CoordinatorConfig) (store : OpenStore) (queue : List MovementId)
    (actions : List Action) :
    ((Coordinator.started store queue).run config actions).Disciplined config
      (callGuard config) :=
  Coordinator.run_invariant (fun coordinator action after =>
    Coordinator.Disciplined.steps (guarded_call config) coordinator action after)
    (Coordinator.disciplined_started config (callGuard config) store queue) actions

end StateMovementFabric
