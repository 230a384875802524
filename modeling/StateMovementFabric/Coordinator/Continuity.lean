import StateMovementFabric.Coordinator.UnknownOutcomes

namespace StateMovementFabric

open Foundation Wire

/-!
# A call stays with the movement it read

`drive`, `cancel` and `reconcile` begin by reading one record.  Everything they write is
a version of the same movement, of the same object to the same destination, and what
they ask an endpoint to commit, or ask it about, is that object.  They send nothing
after they have settled the movement.  A submission sends nothing at all and writes
versions of one movement only.
-/

/-- A version of the movement that was read. -/
structure MovementRecord.Continues (record read : MovementRecord) : Prop where
  id : record.id = read.id
  object : record.object = read.object
  destination : record.destination = read.destination

namespace MovementRecord.Continues

variable {read record changed : MovementRecord}

theorem refl (read : MovementRecord) : read.Continues read := ⟨rfl, rfl, rfl⟩

/-- What a version and its successor agree in is what the first version has from the read one. -/
theorem trans (later : changed.Continues record) (earlier : record.Continues read) :
    changed.Continues read :=
  ⟨later.id.trans earlier.id, later.object.trans earlier.object,
    later.destination.trans earlier.destination⟩

theorem moved {next : MovementState} (continues : record.Continues read)
    (moved : record.Moved next changed) : changed.Continues read :=
  trans ⟨moved.id, moved.object, moved.destination⟩ continues

end MovementRecord.Continues

variable {now : Millis} {frame : Frame} {op : CoordinatorOp} {link : LinkId}
  {admitted : MovementState -> Prop}

theorem continues_of_recordAttemptStarted {record started : MovementRecord}
    {attempt : TransferAttemptId}
    (recorded : recordAttemptStarted record attempt now = (started, .ok ())) :
    started.Continues record := by
  unfold recordAttemptStarted at recorded
  split at recorded
  · cases recorded
  · cases advanced : record.generation.next with
    | error status =>
        rw [advanced] at recorded
        cases recorded
    | ok successor =>
        rw [advanced] at recorded
        cases congrArg Prod.fst recorded
        exact ⟨rfl, rfl, rfl⟩

/-- The two requests that name an object version. -/
def MessageType.namesVersion : MessageType -> Bool
  | .COMMIT_REQUEST | .AUTHORITY_QUERY => true
  | _ => false

/-- A commit request or an authority query is about the movement that was read. -/
structure SendsAbout (read : MovementRecord) (frame : Frame) : Prop where
  commit : frame.type = .COMMIT_REQUEST -> exists commit : CommitRequest, frame = commit.frame ∧
    commit.movementId = read.id ∧ commit.object = read.object
  query : frame.type = .AUTHORITY_QUERY ->
    frame = (AuthorityQuery.mk read.id read.object.objectId read.object.generation).frame

/-- Nothing is asked of any other frame. -/
theorem sendsAbout_other {read : MovementRecord} (other : frame.type.namesVersion = false) :
    SendsAbout read frame := by
  constructor
  · intro type
    rw [type] at other
    cases other
  · intro type
    rw [type] at other
    cases other

/-- The guard of a call that has read a movement. -/
def staysWith (read : MovementRecord) (past : CoordinatorHistory) : CoordinatorOp -> Prop
  | .storePut record => record.Continues read
  | .push _ frame => SendsAbout read frame ∧ Coordinator.Unsettled past
  | .enqueue _ => False
  | _ => True

/-- Neither writes nor sends nor queues. -/
def CoordinatorOp.isMute : CoordinatorOp -> Bool
  | storePut _ | push _ _ | enqueue _ => false
  | _ => true

theorem unsettled_concat {past : CoordinatorHistory} (unsettled : Coordinator.Unsettled past)
    (op : CoordinatorOp) (unwritten : forall record, op ≠ .storePut record) (reply : op.Reply) :
    Coordinator.Unsettled (past ++ [⟨op, reply⟩]) := by
  intro written answer member
  rcases List.mem_append.mp member with earlier | last
  · exact unsettled written answer earlier
  · cases List.mem_singleton.mp last
    exact absurd rfl (unwritten written)

theorem CoordinatorOp.ne_storePut_of_isMute (mute : op.isMute = true) (record : MovementRecord) :
    op ≠ .storePut record := by
  rintro rfl
  cases mute

/-- Before it has settled the movement, the program stays with it, and it ends as
described. -/
def Stays {α : Type} (read : MovementRecord) (done : CoordinatorHistory -> α -> Prop)
    (program : CoordinatorProgram α) : Prop :=
  forall past, Coordinator.Unsettled past -> Program.Guarded (staysWith read) done past program

/-! ## Rules -/

section Rules

variable {α β : Type} {read record : MovementRecord} {done : CoordinatorHistory -> α -> Prop}

theorem stays_pure {value : α}
    (holds : forall past, Coordinator.Unsettled past -> done past value) :
    Stays read done (pure value) :=
  holds

/-- The first part of a sequence leaves the movement unsettled wherever the second part
follows. -/
theorem Stays.bind {middle : CoordinatorHistory -> β -> Prop} {first : CoordinatorProgram β}
    {next : β -> CoordinatorProgram α} (begins : Stays read middle first)
    (continues : forall later value, middle later value ->
      Program.Guarded (staysWith read) done later (next value)) :
    Stays read done (first >>= next) :=
  fun past unsettled => (begins past unsettled).bind continues

theorem stays_ask {next : op.Reply -> CoordinatorProgram α} (mute : op.isMute = true)
    (continues : forall reply, Stays read done (next reply)) :
    Stays read done (ask op >>= next) := by
  intro past unsettled
  refine ⟨by cases op <;> trivial, fun reply _ => continues reply _ ?_⟩
  exact unsettled_concat unsettled op (CoordinatorOp.ne_storePut_of_isMute mute) reply

/-- A write that leaves the movement unsettled. -/
theorem stays_storePut {next : Result Unit -> CoordinatorProgram α}
    (same : record.Continues read) (active : isActive record.state = true)
    (continues : forall reply, Stays read done (next reply)) :
    Stays read done (storePut record >>= next) :=
  fun _ unsettled => ⟨same, fun reply _ => continues reply _ (unsettled_put unsettled active reply)⟩

/-- A write that may settle the movement, with nothing behind it but counting. -/
theorem stays_settle {next : Result Unit -> CoordinatorProgram α} (same : record.Continues read)
    (ends : forall reply, (exists value, next reply = pure value) ∨
      exists counter value, next reply = ask (.count counter) >>= fun _ => pure value) :
    Stays read (fun _ _ => True) (storePut record >>= next) := by
  refine fun past _ => ⟨same, fun reply _ => ?_⟩
  rcases ends reply with ⟨value, rest⟩ | ⟨counter, value, rest⟩
  · change Program.Guarded _ _ _ (next reply)
    rw [rest]
    trivial
  · change Program.Guarded _ _ _ (next reply)
    rw [rest]
    exact ⟨trivial, fun _ _ => trivial⟩

theorem stays_push {next : Result Unit -> CoordinatorProgram α} (about : SendsAbout read frame)
    (continues : forall reply, Stays read done (next reply)) :
    Stays read done (push link frame >>= next) :=
  fun _ unsettled => ⟨⟨about, unsettled⟩, fun reply _ =>
    continues reply _ (unsettled_concat unsettled (.push link frame) (fun _ => nofun) reply)⟩

theorem stays_request {key : PendingKey} {next : Result Frame -> CoordinatorProgram α}
    (about : SendsAbout read frame) (continues : forall reply, Stays read done (next reply)) :
    Stays read done (request link key frame >>= next) := by
  have asks : Stays read (fun later _ => Coordinator.Unsettled later) (request link key frame) := by
    unfold request
    apply stays_ask rfl
    intro reserved
    rcases reserved with status | future
    · exact stays_pure fun _ unsettled => unsettled
    apply stays_push about
    intro sent
    rcases sent with status | ⟨⟩
    · exact stays_ask rfl fun _ => stays_pure fun _ unsettled => unsettled
    · change Stays _ _ (ask (.await link future frame.type.name) >>= pure)
      exact stays_ask rfl fun _ => stays_pure fun _ unsettled => unsettled
  exact asks.bind fun later reply unsettled => continues reply later unsettled

end Rules

/-! ## The movement engine -/

section Drive

variable {config : CoordinatorConfig} {read record : MovementRecord}

theorem stays_fail (same : record.Continues read) (code : ReasonCode) (detail : Text)
    (state : MovementState) : Stays read (fun _ _ => True) (fail record code detail state) := by
  unfold fail
  apply stays_ask rfl
  intro now
  rcases applied : applyTransition record state (.deny code detail) (failKind state) now with
    ⟨ended, status | ⟨⟩⟩
  · exact stays_ask rfl fun _ => stays_pure fun _ _ => trivial
  · exact fun past _ => ⟨same.moved (moved_of_applyTransition applied), fun _ _ =>
      ⟨trivial, fun _ _ => trivial⟩⟩

/-- The attempt goes on only while the movement is unsettled, with what is described. -/
def Continuing {α : Type} (post : α -> Prop) (later : CoordinatorHistory) : Progress α -> Prop
  | .returned _ => True
  | .goOn value => post value ∧ Coordinator.Unsettled later

theorem stays_returned {α : Type} {post : α -> Prop} (result : Result Unit) :
    Stays read (Continuing post) (pure (.returned result)) :=
  stays_pure fun _ _ => trivial

theorem stays_returning_fail {α : Type} {post : α -> Prop} (same : record.Continues read)
    (code : ReasonCode) (detail : Text) (state : MovementState) :
    Stays read (Continuing post) (returning (fail record code detail state)) :=
  (stays_fail same code detail state).bind fun _ _ _ => trivial

/-- A verification leaves the movement unsettled whatever it finds. -/
theorem stays_unsettled {α : Type} (value : α) :
    Stays read (fun later _ => Coordinator.Unsettled later) (pure value) :=
  stays_pure fun _ unsettled => unsettled

theorem stays_askDestination (link : LinkId) (full : Bool) (index : UInt32) :
    Stays read (fun later _ => Coordinator.Unsettled later)
      (askDestination link record full index) := by
  unfold askDestination
  apply stays_request (sendsAbout_other rfl)
  intro answer
  rcases answer with status | answer
  · exact stays_unsettled _
  dsimp only
  split
  · exact stays_unsettled _
  · split
    · exact stays_unsettled _
    · split
      · exact stays_unsettled _
      · exact stays_unsettled _

theorem stays_probeSamples (link : LinkId) (indices : List UInt32) :
    Stays read (fun later _ => Coordinator.Unsettled later) (probeSamples link record indices) := by
  induction indices with
  | nil => exact stays_unsettled _
  | cons index rest ih =>
      refine (stays_askDestination link false index).bind fun later answer unsettled => ?_
      revert later
      change Stays _ _ _
      rcases answer with status | answer
      · exact stays_unsettled _
      dsimp only
      split
      · exact stays_unsettled _
      · exact stays_ask rfl fun _ => ih

theorem stays_verifyDestination :
    Stays read (fun later _ => Coordinator.Unsettled later) (verifyDestination config record) := by
  unfold verifyDestination
  apply stays_ask rfl
  intro found
  rcases found with status | link
  · exact stays_unsettled _
  refine (stays_askDestination link true 0).bind fun later answer unsettled => ?_
  revert later
  change Stays _ _ _
  rcases answer with status | full
  · exact stays_unsettled _
  dsimp only
  split
  · exact stays_unsettled _
  · split
    · exact stays_unsettled _
    · refine (stays_probeSamples link (sampleOf config record)).bind
        fun later outcome unsettled => ?_
      rcases outcome with status | ⟨⟩
      · exact unsettled
      · exact unsettled

theorem stays_deliverGrant (same : record.Continues read) (links : MovementLinks)
    (grant : TransferGrant) (endpoints : List EndpointId) :
    Stays read (Continuing fun _ => True) (deliverGrant links record grant endpoints) := by
  induction endpoints with
  | nil => exact stays_pure fun _ unsettled => ⟨trivial, unsettled⟩
  | cons endpoint rest ih =>
      unfold deliverGrant
      apply stays_request (sendsAbout_other rfl)
      intro answer
      rcases answer with status | answer
      · exact stays_returning_fail same _ _ _
      dsimp only
      split
      · exact stays_returning_fail same _ _ _
      · split
        · exact stays_returning_fail same _ _ _
        · exact ih

/-- A version of the movement in which it is unsettled. -/
structure MovementRecord.Pursues (record read : MovementRecord) : Prop where
  continues : record.Continues read
  active : isActive record.state = true

/-- What a completion leaves in hand. -/
def Completion.Stays (read : MovementRecord) : Completion -> Prop
  | .stale noted => noted.Pursues read
  | .mine _ => True

theorem stays_awaitCompletion (pursues : record.Pursues read) (link : LinkId)
    (attempt : TransferAttemptId) (future : Future) :
    Stays read (Continuing (Completion.Stays read))
      (awaitCompletion link attempt future record) := by
  have same := pursues.continues
  unfold awaitCompletion
  apply stays_ask rfl
  intro answer
  rcases answer with status | answer
  · exact stays_returning_fail same _ _ _
  dsimp only
  split
  · exact stays_returning_fail same _ _ _
  · split
    · exact stays_ask rfl fun now => stays_pure fun _ unsettled =>
        ⟨⟨⟨same.id, same.object, same.destination⟩, pursues.active⟩, unsettled⟩
    · exact stays_pure fun _ unsettled => ⟨trivial, unsettled⟩

theorem stays_awaitResult (pursues : record.Pursues read) (link : LinkId)
    (attempt : TransferAttemptId) (patience : Nat) (future : Future) :
    Stays read (Continuing fun pair => pair.1.Pursues read)
      (awaitResult link attempt patience future record) := by
  induction patience generalizing record future with
  | zero =>
      refine (stays_awaitCompletion pursues link attempt future).bind fun later heard kept => ?_
      rcases heard with result | ⟨noted⟩ | ⟨result⟩
      · trivial
      · exact stays_returning_fail kept.1.continues _ _ _ later kept.2
      · exact ⟨pursues, kept.2⟩
  | succ patience ih =>
      refine (stays_awaitCompletion pursues link attempt future).bind fun later heard kept => ?_
      rcases heard with result | ⟨noted⟩ | ⟨result⟩
      · trivial
      · refine stays_ask ?_ (fun reserved => ?_) later kept.2
        · rfl
        · rcases reserved with status | again
          · exact stays_returned _
          · exact ih kept.1 again
      · exact ⟨pursues, kept.2⟩

theorem stays_dispatch (pursues : record.Pursues read) (link : LinkId)
    (attempt : TransferAttemptId) (nonce : Nonce) (number : Nat) :
    Stays read (Continuing fun pair => pair.1.Pursues read)
      (dispatch link record attempt nonce number) := by
  have same := pursues.continues
  unfold dispatch
  apply stays_ask rfl
  intro reserved
  rcases reserved with status | future
  · exact stays_returned _
  apply stays_push (sendsAbout_other rfl)
  intro sent
  rcases sent with status | ⟨⟩
  · exact stays_ask rfl fun _ => stays_returning_fail same _ _ _
  apply stays_ask rfl
  intro now
  rcases applied : applyTransition record .TRANSFERRING
      (.allow .OK (ascii "attempt " ++ decimal number ++ ascii " dispatched"))
      .ATTEMPT_STARTED now with ⟨transferring, status | ⟨⟩⟩
  · dsimp only
    exact stays_ask rfl fun _ => stays_returned _
  · dsimp only
    have moved := moved_of_applyTransition applied
    have kept : transferring.Pursues read := ⟨same.moved moved, moved.state ▸ rfl⟩
    apply stays_storePut kept.continues kept.active
    intro reply
    rcases reply with status | ⟨⟩
    · exact stays_returned _
    · exact stays_awaitResult kept link attempt 3 future

theorem stays_commitBarrier (same : record.Continues read) (link : LinkId)
    (attempt : TransferAttemptId) :
    Stays read (fun _ _ => True) (commitBarrier link record attempt) := by
  unfold commitBarrier
  apply stays_request
  · exact ⟨fun _ => ⟨_, rfl, same.id, same.object⟩, fun type => by cases type⟩
  intro answer
  rcases answer with status | answer
  · exact stays_fail same _ _ _
  dsimp only
  split
  · exact stays_fail same _ _ _
  · split
    · exact stays_fail same _ _ _
    · split
      · exact stays_fail same _ _ _
      · apply stays_ask rfl
        intro now
        rcases applied : applyTransition record .COMMITTED
            (.allow .OK (ascii "the destination wrote and confirmed its commit marker"))
            .COMMITTED now with ⟨final, status | ⟨⟩⟩
        · exact stays_pure fun _ _ => trivial
        · dsimp only
          have moved := same.moved (moved_of_applyTransition applied)
          refine stays_settle ⟨moved.id, moved.object, moved.destination⟩ fun reply => ?_
          rcases reply with status | ⟨⟩
          · exact .inl ⟨_, rfl⟩
          · exact .inr ⟨_, _, rfl⟩

theorem stays_scheduleRetry (pursues : record.Pursues read) (code : ReasonCode) (detail : Text) :
    Stays read (fun later (noted : MovementRecord) =>
        noted.Pursues read ∧ Coordinator.Unsettled later)
      (scheduleRetry record code detail) := by
  have same := pursues.continues
  unfold scheduleRetry
  apply stays_ask rfl
  intro now
  have noted : (record.note .RETRY_SCHEDULED code now detail).Pursues read :=
    ⟨⟨same.id, same.object, same.destination⟩, pursues.active⟩
  exact stays_storePut noted.continues noted.active fun _ =>
    stays_pure fun _ unsettled => ⟨noted, unsettled⟩

/-- The next attempt starts from a version of the movement, still unsettled. -/
def AttemptEnd.Stays (read : MovementRecord) (later : CoordinatorHistory) : AttemptEnd -> Prop
  | .returned _ => True
  | .retry record => record.Pursues read ∧ Coordinator.Unsettled later

theorem stays_ending {program : CoordinatorProgram (Result Unit)}
    (stays : Stays read (fun _ _ => True) program) :
    Stays read (AttemptEnd.Stays read) (ending program) :=
  stays.bind fun _ _ _ => trivial

theorem stays_ended (result : Result Unit) :
    Stays read (AttemptEnd.Stays read) (pure (.returned result)) :=
  stays_pure fun _ _ => trivial

theorem stays_verifyAndCommit (pursues : record.Pursues read) (link : LinkId)
    (attempt : TransferAttemptId) (isLast : Bool) :
    Stays read (AttemptEnd.Stays read) (verifyAndCommit config link record attempt isLast) := by
  have same := pursues.continues
  refine stays_verifyDestination.bind fun later outcome unsettled => ?_
  revert later
  change Stays _ _ _
  rcases outcome with status | digest
  · cases isLast with
    | true => exact stays_ending (stays_fail same _ _ _)
    | false =>
        refine (stays_scheduleRetry pursues _ _).bind fun later noted kept => ?_
        exact ⟨trivial, fun _ _ =>
          ⟨kept.1, unsettled_concat kept.2 (.count .attemptsFailed) (fun _ => nofun) ()⟩⟩
  apply stays_ask rfl
  intro now
  rcases applied : applyTransition record .VERIFIED
      (.allow .OK (ascii ("the coordinator re-hashed stored bytes and they match the " ++
        "authorized content digest"))) .VERIFIED now with ⟨changed, status | ⟨⟩⟩
  · exact stays_ended _
  dsimp only
  have moved := moved_of_applyTransition applied
  have onward := same.moved moved
  have verified :
      ({ changed with sourceVerifiedDigest := digest } : MovementRecord).Continues read :=
    ⟨onward.id, onward.object, onward.destination⟩
  apply stays_storePut verified (moved.state ▸ rfl)
  intro reply
  rcases reply with status | ⟨⟩
  · exact stays_ended _
  dsimp only
  split
  · exact stays_ending (stays_fail verified _ _ _)
  · exact stays_ending (stays_commitBarrier verified link attempt)

theorem stays_useResult (pursues : record.Pursues read) (link : LinkId) (result : AttemptResult)
    (attempt : TransferAttemptId) (isLast : Bool) :
    Stays read (AttemptEnd.Stays read) (useResult config link record result attempt isLast) := by
  have same := pursues.continues
  unfold useResult
  split
  · exact stays_ending (stays_fail same _ _ _)
  split
  · have reported : ({ record with
        lastReason := result.code
        lastDetail := result.detail } : MovementRecord).Pursues read :=
      ⟨⟨same.id, same.object, same.destination⟩, pursues.active⟩
    cases isLast with
    | true => exact stays_ending (stays_fail reported.continues _ _ _)
    | false =>
        apply stays_ask rfl
        intro _
        exact (stays_scheduleRetry reported _ _).bind fun later noted kept => kept
  apply stays_ask rfl
  intro now
  rcases applied : applyTransition record .BYTES_ARRIVED
      (.allow .OK (ascii "the destination reports verified bytes (not authority)"))
      .BYTES_ARRIVED now with ⟨changed, status | ⟨⟩⟩
  · exact stays_ended _
  dsimp only
  have moved := moved_of_applyTransition applied
  have onward := same.moved moved
  have arrived : ({ changed with
      bytesTransferred := result.bytes
      chunksVerified := result.chunks
      destinationVerifiedDigest := result.verifiedDigest } : MovementRecord).Pursues read :=
    ⟨⟨onward.id, onward.object, onward.destination⟩, moved.state ▸ rfl⟩
  apply stays_storePut arrived.continues arrived.active
  intro reply
  rcases reply with status | ⟨⟩
  · exact stays_ended _
  · exact stays_verifyAndCommit arrived link attempt isLast

theorem stays_runAttempt (pursues : record.Pursues read) (links : MovementLinks)
    (attempt : TransferAttemptId) (number : Nat) (isLast : Bool) :
    Stays read (AttemptEnd.Stays read)
      (runAttempt config links record attempt number isLast) := by
  unfold runAttempt
  apply stays_ask rfl
  intro nonce
  apply stays_ask rfl
  intro now
  split
  · exact stays_ended _
  refine (stays_deliverGrant pursues.continues links _ _).bind fun later delivered kept => ?_
  rcases delivered with result | ⟨⟩
  · trivial
  refine ((stays_dispatch pursues links.destination attempt nonce number) later kept.2).bind
    fun later ended kept => ?_
  rcases ended with result | ⟨transferring, result⟩
  · trivial
  · exact stays_useResult kept.1 links.destination result attempt isLast later kept.2

theorem stays_attempts (pursues : record.Pursues read) (links : MovementLinks)
    (left number : Nat) :
    Stays read (fun _ _ => True) (attempts config links left number record) := by
  induction left generalizing number record with
  | zero => exact stays_fail pursues.continues _ _ _
  | succ left ih =>
      unfold attempts
      split
      · exact stays_fail pursues.continues _ _ _
      apply stays_ask rfl
      intro attempt
      apply stays_ask rfl
      intro now
      rcases recorded : recordAttemptStarted record attempt now with ⟨started, status | ⟨⟩⟩
      · exact stays_pure fun _ _ => trivial
      dsimp only
      have state := (restarted_of_recordAttemptStarted recorded).state
      have restarted : started.Pursues read :=
        ⟨(continues_of_recordAttemptStarted recorded).trans pursues.continues,
          state ▸ pursues.active⟩
      apply stays_storePut restarted.continues restarted.active
      intro reply
      rcases reply with status | ⟨⟩
      · exact stays_pure fun _ _ => trivial
      refine (stays_runAttempt restarted links attempt number (left == 0)).bind
        fun later ended kept => ?_
      cases ended with
      | returned result => trivial
      | retry retried => exact ih kept.1 (number + 1) later kept.2

theorem stays_revalidate (pursues : record.Pursues read) (links : MovementLinks) :
    Stays read (fun _ _ => True) (revalidate config links record) := by
  have same := pursues.continues
  unfold revalidate
  apply stays_ask rfl
  intro source
  apply stays_ask rfl
  intro destination
  rcases source with status | source
  · exact stays_fail same _ _ _
  rcases destination with status | destination
  · exact stays_fail same _ _ _
  dsimp only
  split
  · exact stays_fail same _ _ _
  · exact stays_attempts pursues links _ 1

end Drive

/-! ## The calls of an operator -/

section Operator

variable {read record : MovementRecord}

theorem stays_notifyCancel (endpoints : List EndpointId) :
    Stays read (fun later _ => Coordinator.Unsettled later) (notifyCancel record endpoints) := by
  induction endpoints with
  | nil => exact stays_unsettled _
  | cons endpoint rest ih =>
      unfold notifyCancel
      apply stays_ask rfl
      intro found
      rcases found with status | link
      · exact ih
      · exact stays_request (sendsAbout_other rfl) fun _ => ih

theorem stays_reconcileCommitted (same : record.Continues read) (report : AuthorityReport) :
    Stays read (fun _ _ => True) (reconcileCommitted record report) := by
  unfold reconcileCommitted
  apply stays_ask rfl
  intro now
  rcases applied : applyTransition record .COMMITTED
      (.allow .OK (ascii "reconciliation found a valid commit marker at the destination"))
      .RECONCILED now with ⟨changed, status | ⟨⟩⟩
  · exact stays_pure fun _ _ => trivial
  dsimp only
  have moved := same.moved (moved_of_applyTransition applied)
  refine stays_settle ⟨moved.id, moved.object, moved.destination⟩ fun reply => ?_
  rcases reply with status | ⟨⟩
  · exact .inl ⟨_, rfl⟩
  · exact .inr ⟨_, _, rfl⟩

theorem stays_reconcileAbsent (same : record.Continues read) :
    Stays read (fun _ _ => True) (reconcileAbsent record) := by
  unfold reconcileAbsent
  apply stays_ask rfl
  intro now
  split
  · exact stays_pure fun _ _ => trivial
  · rename_i resolved applied
    refine stays_settle (same.moved (moved_of_applyTransition applied)) fun reply => ?_
    rcases reply with status | ⟨⟩
    · exact .inl ⟨_, rfl⟩
    · exact .inr ⟨_, _, rfl⟩

end Operator

/-! ## Whole calls -/

/-- The record that a call read first. -/
def openingRecord (past : CoordinatorHistory) : Option MovementRecord :=
  match past.head? with
  | some ⟨.storeGet _, .ok record⟩ => some record
  | _ => none

theorem openingRecord_later {past : CoordinatorHistory} {read : MovementRecord}
    (opened : openingRecord past = some read) (event : CoordinatorEvent) :
    openingRecord (past ++ [event]) = some read := by
  cases past with
  | nil => cases opened
  | cons first rest => exact opened

/-- Nothing is written or sent before a record has been read and admitted, and then only
about it. -/
def readFirst (admitted : MovementState -> Prop) (past : CoordinatorHistory)
    (op : CoordinatorOp) : Prop :=
  op.isMute = true ∨ exists read, openingRecord past = some read ∧ admitted read.state ∧
    staysWith read past op

/-- What is sent is sent about the record that was read, before the movement is settled. -/
theorem readFirst_push {past : CoordinatorHistory}
    (allowed : readFirst admitted past (.push link frame)) :
    exists read, openingRecord past = some read ∧ admitted read.state ∧ SendsAbout read frame ∧
      Coordinator.Unsettled past := by
  rcases allowed with mute | sends
  · cases mute
  · exact sends

/-- What recovery writes is a version of a record that was listed. -/
def listedFirst (past : CoordinatorHistory) (op : CoordinatorOp) : Prop :=
  op.isMute = true ∨ exists record limit, exists listed : List MovementRecord, exists stored,
    op = .storePut record ∧ ⟨.storeList limit, listed⟩ ∈ past ∧ stored ∈ listed ∧
      record.Continues stored

/-- A submission sends nothing, and all that it writes are versions of one movement. -/
def plansOne (past : CoordinatorHistory) : CoordinatorOp -> Prop
  | .push _ _ => False
  | .storePut record => forall written reply, ⟨.storePut written, reply⟩ ∈ past ->
      record.Continues written
  | _ => True

def continuityGuard : Call -> Program.Guard coordinatorSignature
  | .drive _ => readFirst fun state => isActive state = true
  | .cancel _ => readFirst fun state => isTerminal state = false
  | .reconcile _ => readFirst fun state => state = .OUTCOME_UNKNOWN
  | .submit _ => plansOne
  | .recover => listedFirst

/-- A call that reads its movement first and stays with what it found, if it goes on. -/
theorem guarded_readFirst {α : Type} {id : MovementId}
    {next : Result MovementRecord -> CoordinatorProgram α}
    (missing : forall status, exists value, next (.error status) = pure value)
    (found : forall read, (exists value, next (.ok read) = pure value) ∨
      admitted read.state ∧ Stays read (fun _ _ => True) (next (.ok read))) :
    Program.Guarded (readFirst admitted) (fun _ _ => True) [] (storeGet id >>= next) := by
  refine Program.guarded_call_bind.mpr ⟨.inl rfl, fun reply _ => ?_⟩
  rcases reply with status | read
  · rcases missing status with ⟨value, ends⟩
    rw [ends]
    trivial
  rcases found read with ⟨value, ends⟩ | ⟨admits, stays⟩
  · rw [ends]
    trivial
  have keeps : forall later event, openingRecord later = some read ->
      openingRecord (later ++ [event]) = some read :=
    fun _ event opened => openingRecord_later opened event
  have opened : openingRecord [⟨.storeGet id, .ok read⟩] = some read := rfl
  have unsettled : Coordinator.Unsettled [⟨.storeGet id, .ok read⟩] := by
    intro written reply member
    cases List.mem_singleton.mp member
  exact (Program.Guarded.keeping (stays _ unsettled) opened keeps).weaken fun _ _ both =>
    .inr ⟨read, both.2, admits, both.1⟩

theorem guarded_driveMovement_readFirst (config : CoordinatorConfig) (id : MovementId) :
    Program.Guarded (readFirst fun state => isActive state = true) (fun _ _ => True) []
      (driveMovement config id) := by
  refine guarded_readFirst (fun _ => ⟨_, rfl⟩) fun read => ?_
  dsimp only
  by_cases settled : isTerminal read.state = true ∨ read.state = .OUTCOME_UNKNOWN
  · rw [if_pos settled]
    exact .inl ⟨_, rfl⟩
  rw [if_neg settled]
  have active : isActive read.state = true := by
    simpa [isActive] using settled
  have pursues : read.Pursues read := ⟨.refl read, active⟩
  refine .inr ⟨active, ?_⟩
  split
  · exact stays_fail pursues.continues _ _ _
  apply stays_ask rfl
  intro source
  rcases source with status | source
  · exact stays_fail pursues.continues _ _ _
  apply stays_ask rfl
  intro destination
  rcases destination with status | destination
  · exact stays_fail pursues.continues _ _ _
  · exact stays_revalidate pursues ⟨source, destination⟩

theorem guarded_cancel_readFirst (id : MovementId) :
    Program.Guarded (readFirst fun state => isTerminal state = false) (fun _ _ => True) []
      (cancel id) := by
  refine guarded_readFirst (fun _ => ⟨_, rfl⟩) fun read => ?_
  dsimp only
  by_cases terminal : isTerminal read.state = true
  · rw [if_pos terminal]
    exact .inl ⟨_, rfl⟩
  rw [if_neg terminal]
  refine .inr ⟨by simpa using terminal, ?_⟩
  have same : ({ read with cancelRequested := true } : MovementRecord).Continues read :=
    ⟨rfl, rfl, rfl⟩
  generalize { read with cancelRequested := true } = record at same ⊢
  refine (stays_notifyCancel _).bind fun later _ unsettled => ?_
  revert later
  change Stays _ _ _
  apply stays_ask rfl
  intro now
  rcases applied : applyTransition record .CANCELLED
      (.deny .CANCELLED_BY_OPERATOR (ascii "cancelled by the operator")) .CANCELLED now with
    ⟨cancelled, status | ⟨⟩⟩
  · exact stays_pure fun _ _ => trivial
  dsimp only
  refine stays_settle (same.moved (moved_of_applyTransition applied)) fun reply => ?_
  rcases reply with status | ⟨⟩
  · exact .inl ⟨_, rfl⟩
  · exact .inr ⟨_, _, rfl⟩

theorem guarded_reconcile_readFirst (id : MovementId) :
    Program.Guarded (readFirst fun state => state = .OUTCOME_UNKNOWN) (fun _ _ => True) []
      (reconcile id) := by
  refine guarded_readFirst (fun _ => ⟨_, rfl⟩) fun read => ?_
  have same := MovementRecord.Continues.refl read
  dsimp only
  by_cases known : read.state ≠ .OUTCOME_UNKNOWN
  · rw [if_pos known]
    exact .inl ⟨_, rfl⟩
  rw [if_neg known]
  refine .inr ⟨not_not.mp known, ?_⟩
  apply stays_ask rfl
  intro _
  apply stays_ask rfl
  intro found
  rcases found with status | link
  · exact stays_pure fun _ _ => trivial
  refine stays_request ⟨fun type => (by cases type), fun _ => rfl⟩ fun answer => ?_
  rcases answer with status | answer
  · exact stays_pure fun _ _ => trivial
  dsimp only
  split
  · exact stays_pure fun _ _ => trivial
  split
  · exact stays_reconcileCommitted same _
  split
  · exact stays_reconcileAbsent same
  · exact stays_pure fun _ _ => trivial

theorem continues_of_recoveryTransition {stored changed : MovementRecord}
    (applied : recoveryTransition stored now = (changed, .ok ())) : changed.Continues stored := by
  unfold recoveryTransition at applied
  split at applied
  · exact (MovementRecord.Continues.refl stored).moved (moved_of_applyTransition applied)
  · exact (MovementRecord.Continues.refl stored).moved (moved_of_applyTransition applied)

theorem guarded_revisit_listedFirst {past : CoordinatorHistory} {limit : UInt32}
    {listed : List MovementRecord} (records : List MovementRecord)
    (among : forall stored, stored ∈ records -> stored ∈ listed)
    (event : ⟨.storeList limit, listed⟩ ∈ past) :
    Program.Guarded listedFirst (fun _ _ => True) past (revisit records) := by
  induction records generalizing past with
  | nil => trivial
  | cons stored rest ih =>
      have others : forall other, other ∈ rest -> other ∈ listed :=
        fun other inside => among other (List.mem_cons_of_mem _ inside)
      unfold revisit
      split
      · exact ih others event
      · refine Program.guarded_call_bind.mpr ⟨.inl rfl, fun now _ => ?_⟩
        rcases applied : recoveryTransition stored now with ⟨changed, status | ⟨⟩⟩
        · exact ih others (List.mem_append_left _ event)
        · refine ⟨.inr ⟨changed, limit, listed, stored, rfl, List.mem_append_left _ event,
            among stored List.mem_cons_self, continues_of_recoveryTransition applied⟩, ?_⟩
          exact fun reply _ =>
            ih others (List.mem_append_left _ (List.mem_append_left _ event))

theorem guarded_recoverAfterRestart_listedFirst (config : CoordinatorConfig) :
    Program.Guarded listedFirst (fun _ _ => True) [] (recoverAfterRestart config) :=
  ⟨.inl rfl, fun listed _ =>
    guarded_revisit_listedFirst listed (fun _ inside => inside) (List.mem_singleton_self _)⟩

/-! ## Submission -/

/-- The call has written nothing yet. -/
def Unwritten (past : CoordinatorHistory) : Prop :=
  forall written reply, ⟨.storePut written, reply⟩ ∉ past

section Submission

variable {α : Type} {done : CoordinatorHistory -> α -> Prop} {past : CoordinatorHistory}

theorem guarded_plans_ask {next : op.Reply -> CoordinatorProgram α} (unwritten : Unwritten past)
    (mute : op.isMute = true) (continues : forall later reply, Unwritten later ->
      Program.Guarded plansOne done later (next reply)) :
    Program.Guarded plansOne done past (ask op >>= next) := by
  refine ⟨by cases op <;> trivial, fun reply _ => continues _ reply ?_⟩
  intro written answer member
  rcases List.mem_append.mp member with earlier | last
  · exact unwritten written answer earlier
  · cases List.mem_singleton.mp last
    cases mute

theorem guarded_compatibilityNote_plans (config : CoordinatorConfig)
    (object : StateObjectDescriptor) (destination : EndpointId) (unwritten : Unwritten past) :
    Program.Guarded plansOne (fun later _ => Unwritten later) past
      (compatibilityNote config object destination) := by
  unfold compatibilityNote
  refine guarded_plans_ask unwritten rfl fun later published unwritten => ?_
  rcases published with _ | status | evidence
  · exact unwritten
  · dsimp only
    split
    · exact unwritten
    · exact unwritten
  · dsimp only
    split
    · split
      · exact unwritten
      · exact unwritten
    · refine guarded_plans_ask unwritten rfl fun later _ unwritten => ?_
      split
      · exact unwritten
      · split
        · exact unwritten
        · exact unwritten

theorem guarded_authorize_plans {record : MovementRecord} (note : Text)
    (unwritten : Unwritten past) :
    Program.Guarded plansOne (fun _ _ => True) past (authorize record note) := by
  unfold authorize
  refine Program.guarded_call_bind.mpr
    ⟨fun written reply member => absurd member (unwritten written reply), fun reply _ => ?_⟩
  rcases reply with status | ⟨⟩
  · trivial
  refine Program.guarded_call_bind.mpr ⟨trivial, fun now _ => ?_⟩
  split
  · exact ⟨trivial, fun _ _ => trivial⟩
  · rename_i authorized applied
    refine Program.guarded_call_bind.mpr ⟨fun written reply member => ?_, fun reply _ => ?_⟩
    · have planned : written = record := by
        rcases List.mem_append.mp member with earlier | last
        · rcases List.mem_append.mp earlier with before | first
          · exact absurd before (unwritten written reply)
          · cases List.mem_singleton.mp first
            rfl
        · cases List.mem_singleton.mp last
      rw [planned]
      exact (MovementRecord.Continues.refl record).moved (moved_of_applyTransition applied)
    · rcases reply with status | ⟨⟩
      · trivial
      · exact ⟨trivial, fun _ _ => ⟨trivial, fun _ _ => trivial⟩⟩

theorem guarded_plan_plans (config : CoordinatorConfig) (request : SubmitMovement)
    (object : StateObjectDescriptor) (unwritten : Unwritten past) :
    Program.Guarded plansOne (fun _ _ => True) past (plan config request object) := by
  unfold plan
  refine guarded_plans_ask unwritten rfl fun later source unwritten => ?_
  rcases source with status | source
  · trivial
  refine guarded_plans_ask unwritten rfl fun later destination unwritten => ?_
  rcases destination with status | destination
  · trivial
  dsimp only
  split
  · trivial
  refine (guarded_compatibilityNote_plans config object request.destination unwritten).bind
    fun later decided unwritten => ?_
  rcases decided with status | note
  · trivial
  refine guarded_plans_ask unwritten rfl fun later id unwritten => ?_
  refine guarded_plans_ask unwritten rfl fun later compatibility unwritten => ?_
  refine guarded_plans_ask unwritten rfl fun later topology unwritten => ?_
  refine guarded_plans_ask unwritten rfl fun later now unwritten => ?_
  split
  · trivial
  · exact guarded_authorize_plans note unwritten

theorem guarded_submit_plans (config : CoordinatorConfig) (request : SubmitMovement) :
    Program.Guarded plansOne (fun _ _ => True) [] (submit config request) := by
  have unwritten : Unwritten [] := fun _ _ => List.not_mem_nil
  unfold submit
  split
  · trivial
  refine guarded_plans_ask unwritten rfl fun later announced unwritten => ?_
  split
  · trivial
  split
  · trivial
  · exact guarded_plan_plans config request _ unwritten

end Submission

theorem guarded_call_continuity (config : CoordinatorConfig) (call : Call) :
    Program.Guarded (continuityGuard call) (fun _ _ => True) [] (call.program config) := by
  cases call with
  | drive id => exact (guarded_driveMovement_readFirst config id).bind fun _ _ _ => trivial
  | submit request => exact (guarded_submit_plans config request).bind fun _ _ _ => trivial
  | cancel id => exact (guarded_cancel_readFirst id).bind fun _ _ _ => trivial
  | reconcile id => exact (guarded_reconcile_readFirst id).bind fun _ _ _ => trivial
  | recover =>
      exact (guarded_recoverAfterRestart_listedFirst config).bind fun _ _ _ => trivial

end StateMovementFabric
