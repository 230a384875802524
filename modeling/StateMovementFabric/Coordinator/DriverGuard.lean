import StateMovementFabric.Coordinator.Evidence

namespace StateMovementFabric

open Foundation Wire

/-!
# What the movement engine may write

`driveMovement` writes a record only as a legal successor of the version that it
holds, starts from a movement that is still in progress, writes nothing after it has
settled the movement, and writes `COMMITTED` only with all the evidence of the same
attempt behind it.
-/

/-- Neither settled nor unknown. -/
def isActive (state : MovementState) : Bool := !isTerminal state && state != .OUTCOME_UNKNOWN

/-! ## The evidence for a commit -/

/-- A full answer that names this movement and version and matches what was
authorized. -/
structure AnswersFull (record : MovementRecord) (answer : VerifyResponse) : Prop where
  code : answer.code = .OK
  movement : answer.movementId = record.id
  object : answer.objectId = record.object.objectId
  generation : answer.objectGeneration = record.object.generation
  digest : answer.storedDigest = record.object.contentDigest
  bytes : answer.storedBytes = record.object.totalBytes

/-- An answer for one sampled chunk whose payload has the planned length and hashes to
the digest it carries. -/
structure AnswersSample (record : MovementRecord) (index : UInt32) (answer : VerifyResponse) :
    Prop where
  code : answer.code = .OK
  movement : answer.movementId = record.id
  object : answer.objectId = record.object.objectId
  generation : answer.objectGeneration = record.object.generation
  payload : exists offset length, record.object.chunkOffset index = .ok offset ∧
    record.object.chunkLength index = .ok length ∧
    answer.chunkPayload.length = length.toNat ∧
    computeChunkDigest record.object.objectId record.object.generation index offset length
      answer.chunkPayload = answer.chunkDigest

/-- All that `driveMovement` has seen, within one attempt and in this order, when it
writes `COMMITTED`. -/
structure CommitEvidence (config : CoordinatorConfig) (record : MovementRecord)
    (past : CoordinatorHistory) (attempt : TransferAttemptId) (result : AttemptResult)
    (full : VerifyResponse) (samples : List VerifyResponse) (verified : MovementRecord)
    (committed : CommitResult) : Prop where
  ordered : SinceAttempt attempt
    ([received AttemptResult.decode result, received VerifyResponse.decode full] ++
      samples.map (received VerifyResponse.decode) ++
      [written verified, received CommitResult.decode committed]) past
  resultMovement : result.movementId = record.id
  resultAttempt : result.attempt = attempt
  resultState : result.state = .BYTES_ARRIVED
  answersFull : AnswersFull record full
  answersSamples : config.policy.verifySampleChunks = true ->
    List.Forall₂ (AnswersSample record) (sampleOf config record) samples
  verifiedMovement : verified.id = record.id
  verifiedState : verified.state = .VERIFIED
  commitCode : committed.code = .OK
  commitMovement : committed.movementId = record.id
  commitGeneration : committed.movementGeneration = verified.generation
  marker : record.commitMarkerDigest = committed.markerDigest

/-- What `driveMovement` may write. -/
structure DriverMay (config : CoordinatorConfig) (past : CoordinatorHistory)
    (record : MovementRecord) : Prop where
  advances : Advances (fun state => isActive state = true) past record
  unsettled : forall written reply, ⟨.storePut written, reply⟩ ∈ past -> isActive written.state
  evidence : record.state = .COMMITTED ->
    exists attempt result full samples verified committed,
      CommitEvidence config record past attempt result full samples verified committed

/-! ## The condition along the way -/

/-- The call holds an active record and has written only active ones. -/
structure Driving (record : MovementRecord) (past : CoordinatorHistory) : Prop where
  holds : Holds past record
  active : isActive record.state = true
  unsettled : forall written reply, ⟨.storePut written, reply⟩ ∈ past -> isActive written.state

theorem stable_driving (record : MovementRecord) : Stable (Driving record) := by
  intro past op reply quiet driving
  refine ⟨stable_holds record past op reply quiet driving.holds, driving.active, ?_⟩
  intro written answer member
  rcases List.mem_append.mp member with earlier | last
  · exact driving.unsettled written answer earlier
  · cases List.mem_singleton.mp last
    cases quiet

variable {record same : MovementRecord}

theorem Driving.of_same {past : CoordinatorHistory} (driving : Driving record past)
    (id : same.id = record.id) (state : same.state = record.state)
    (generation : same.generation = record.generation) : Driving same past :=
  ⟨driving.holds.of_same id state generation, state ▸ driving.active, driving.unsettled⟩

theorem unsettled_put {past : CoordinatorHistory}
    (unsettled : forall written reply, ⟨.storePut written, reply⟩ ∈ past -> isActive written.state)
    (active : isActive record.state = true) (answer : Result Unit) :
    forall written reply, ⟨.storePut written, reply⟩ ∈ past ++ [⟨.storePut record, answer⟩] ->
      isActive written.state := by
  intro written reply member
  rcases List.mem_append.mp member with earlier | last
  · exact unsettled written reply earlier
  · cases List.mem_singleton.mp last
    exact active

theorem Driving.wrote {next : MovementRecord} {past : CoordinatorHistory}
    (driving : Driving record past) (id : next.id = record.id)
    (active : isActive next.state = true) :
    Driving next (past ++ [⟨.storePut next, .ok ()⟩]) :=
  ⟨holds_put (id ▸ driving.holds.opened), active, unsettled_put driving.unsettled active _⟩

/-- A refused write of the record that is held changes nothing. -/
theorem Driving.refused {past : CoordinatorHistory} (driving : Driving record past)
    (status : Status) :
    Driving record (past ++ [⟨.storePut record, .error status⟩]) :=
  ⟨driving.holds.later fun _ => rfl, driving.active,
    unsettled_put driving.unsettled driving.active _⟩

/-- A successor that is not `COMMITTED` may be written. -/
theorem Driving.may {next : MovementRecord} {past : CoordinatorHistory}
    (driving : Driving record past) (config : CoordinatorConfig) (id : next.id = record.id)
    (legal : LegalStep record next) (uncommitted : next.state ≠ .COMMITTED) :
    DriverMay config past next :=
  ⟨driving.holds.advances id legal driving.active, driving.unsettled,
    fun committed => absurd committed uncommitted⟩

/-! ## Ending a movement -/

section Walk

variable {config : CoordinatorConfig} {past : CoordinatorHistory}

variable {α : Type} {state : MovementState} {program : CoordinatorProgram (Result Unit)}
  {attempt : TransferAttemptId} {kinds : List (CoordinatorEvent -> Prop)}
  {answer full : VerifyResponse} {index : UInt32} {object : StateObjectDescriptor}
  {samples : List VerifyResponse} {result : AttemptResult} {verified : MovementRecord}

theorem guarded_persistWhen {allowed : CoordinatorHistory -> MovementRecord -> Prop}
    {done : CoordinatorHistory -> α -> Prop} {applied : Bool} {next : Unit -> CoordinatorProgram α}
    (may : applied = true -> allowed past record)
    (kept : Program.Guarded (putGuard allowed) done past (next ()))
    (wrote : forall reply, Program.Guarded (putGuard allowed) done
      (past ++ [⟨.storePut record, reply⟩]) (next ())) :
    Program.Guarded (putGuard allowed) done past (persistWhen applied record >>= next) := by
  cases applied with
  | false => exact kept
  | true => exact ⟨may rfl, fun reply _ => wrote reply⟩

theorem guarded_fail (driving : Driving record past) (code : ReasonCode) (detail : Text)
    (uncommitted : state ≠ .COMMITTED) :
    Program.Guarded (putGuard (DriverMay config)) (fun _ _ => True) past
      (fail record code detail state) := by
  unfold fail
  refine guarded_quiet (stable_driving record) driving rfl fun now _ driving => ?_
  rcases applied : applyTransition record state (.deny code detail) (failKind state) now with
    ⟨ended, status | ⟨⟩⟩
  · exact ⟨trivial, fun _ _ => trivial⟩
  · have moved := moved_of_applyTransition applied
    apply guarded_persistWhen
    · exact fun _ => driving.may config moved.id moved.legalStep (moved.state ▸ uncommitted)
    · exact ⟨trivial, fun _ _ => trivial⟩
    · exact fun _ => ⟨trivial, fun _ _ => trivial⟩

/-- The condition on a step that lets the attempt go on. -/
def Onward {α : Type} (post : CoordinatorHistory -> α -> Prop) :
    CoordinatorHistory -> Progress α -> Prop
  | _, .returned _ => True
  | later, .goOn value => post later value

theorem guarded_returning {post : CoordinatorHistory -> α -> Prop}
    (guarded : Program.Guarded (putGuard (DriverMay config)) (fun _ _ => True) past program) :
    Program.Guarded (putGuard (DriverMay config)) (Onward post) past (returning program) :=
  guarded.bind fun _ _ _ => trivial

theorem guarded_returning_fail {post : CoordinatorHistory -> α -> Prop}
    (driving : Driving record past) (code : ReasonCode) (detail : Text)
    (uncommitted : state ≠ .COMMITTED) :
    Program.Guarded (putGuard (DriverMay config)) (Onward post) past
      (returning (fail record code detail state)) :=
  guarded_returning (guarded_fail driving code detail uncommitted)

/-! ## Independent verification -/

/-- The call is in an attempt: it holds the record and has seen these events. -/
def InAttempt (record : MovementRecord) (attempt : TransferAttemptId)
    (kinds : List (CoordinatorEvent -> Prop)) (past : CoordinatorHistory) : Prop :=
  Driving record past ∧ SinceAttempt attempt kinds past

theorem stable_inAttempt (record : MovementRecord) (attempt : TransferAttemptId)
    (kinds : List (CoordinatorEvent -> Prop)) : Stable (InAttempt record attempt kinds) :=
  (stable_driving record).and (stable_sinceAttempt attempt kinds)

/-- A message that arrives is one more event of the attempt. -/
theorem InAttempt.arrived (during : InAttempt record attempt kinds past) {decode : Decode α}
    {message : α} {link : LinkId} {future : Future} {what : String} {frame : Frame}
    (decoded : decodeMessage decode frame = .ok message) :
    InAttempt record attempt (kinds ++ [received decode message])
      (past ++ [⟨.await link future what, .ok frame⟩]) :=
  ⟨stable_driving record past (.await link future what) (.ok frame) rfl during.1,
    during.2.concat (fun impossible => by cases impossible) ⟨frame, rfl, decoded⟩⟩

theorem guarded_askDestination (during : InAttempt record attempt kinds past) (link : LinkId)
    (full : Bool) (index : UInt32) :
    Program.Guarded (putGuard (DriverMay config))
      (fun later answer => Driving record later ∧ forall response, answer = .ok response ->
        response.code = .OK ∧ response.movementId = record.id ∧
        response.objectId = record.object.objectId ∧
        response.objectGeneration = record.object.generation ∧
        InAttempt record attempt (kinds ++ [received VerifyResponse.decode response]) later)
      past (askDestination link record full index) := by
  apply guarded_request (stable_inAttempt record attempt kinds) during
  · intro later status during
    exact ⟨during.1, fun _ impossible => by cases impossible⟩
  · intro before future what frame during _
    have driving := stable_driving record before (.await link future what) (.ok frame) rfl during.1
    cases decoded : decodeMessage VerifyResponse.decode frame with
    | error status =>
        simp only [decoded]
        exact ⟨driving, fun _ impossible => by cases impossible⟩
    | ok response =>
        simp only [decoded]
        by_cases foreign : response.movementId ≠ record.id ∨
            response.objectId ≠ record.object.objectId ∨
            response.objectGeneration ≠ record.object.generation
        · rw [if_pos foreign]
          exact ⟨driving, fun _ impossible => by cases impossible⟩
        rw [if_neg foreign]
        by_cases denied : response.code ≠ .OK
        · rw [if_pos denied]
          exact ⟨driving, fun _ impossible => by cases impossible⟩
        rw [if_neg denied]
        refine ⟨driving, fun same returned => ?_⟩
        cases returned
        simp only [not_or, not_not] at foreign denied
        exact ⟨denied, foreign.1, foreign.2.1, foreign.2.2, during.arrived decoded⟩

theorem checkSample_eq_ok :
    checkSample object index answer = .ok () ↔
      exists offset length, object.chunkOffset index = .ok offset ∧
        object.chunkLength index = .ok length ∧ answer.chunkPayload.length = length.toNat ∧
        computeChunkDigest object.objectId object.generation index offset length
          answer.chunkPayload = answer.chunkDigest := by
  constructor
  · intro checked
    rcases bind_eq_ok.mp checked with ⟨offset, atOffset, checked⟩
    rcases bind_eq_ok.mp checked with ⟨length, ofLength, checked⟩
    rcases check_bind_eq_ok.mp checked with ⟨sized, hashed⟩
    exact ⟨offset, length, atOffset, ofLength, by simpa using sized, by simpa using hashed⟩
  · rintro ⟨offset, length, atOffset, ofLength, sized, hashed⟩
    simp [checkSample, atOffset, ofLength, sized, hashed]

theorem guarded_probeSamples (link : LinkId) (indices : List UInt32)
    (during : InAttempt record attempt kinds past) :
    Program.Guarded (putGuard (DriverMay config))
      (fun later outcome => Driving record later ∧ (outcome = .ok () -> exists samples,
        List.Forall₂ (AnswersSample record) indices samples ∧
        InAttempt record attempt (kinds ++ samples.map (received VerifyResponse.decode)) later))
      past (probeSamples link record indices) := by
  induction indices generalizing past kinds with
  | nil =>
      refine ⟨during.1, fun _ => ⟨[], List.Forall₂.nil, ?_⟩⟩
      rw [List.map_nil, List.append_nil]
      exact during
  | cons index rest ih =>
      refine (guarded_askDestination during link false index).bind fun later answer asked => ?_
      rcases answer with status | answer
      · exact ⟨asked.1, fun impossible => by cases impossible⟩
      rcases asked.2 answer rfl with ⟨code, movement, object, generation, during⟩
      cases checked : checkSample record.object index answer with
      | error status =>
          simp only [checked]
          exact ⟨asked.1, fun impossible => by cases impossible⟩
      | ok _ =>
          simp only [checked]
          refine guarded_quiet (stable_inAttempt record attempt _) during rfl fun _ _ during => ?_
          refine (ih during).mono fun last outcome probed => ⟨probed.1, fun passed => ?_⟩
          rcases probed.2 passed with ⟨samples, answers, during⟩
          refine ⟨answer :: samples, List.Forall₂.cons ?_ answers, ?_⟩
          · exact ⟨code, movement, object, generation, checkSample_eq_ok.mp checked⟩
          · rw [List.map_cons, List.append_cons]
            exact during

theorem checkFull_eq_ok :
    checkFull object answer = .ok () ↔
      answer.storedDigest = object.contentDigest ∧ answer.storedBytes = object.totalBytes := by
  simp only [checkFull, check_bind_eq_ok, refuseWhen_eq_ok, bne_eq_false_iff_eq]

/-- What `verifyDestination` has seen when it succeeds. -/
structure Verification (config : CoordinatorConfig) (record : MovementRecord)
    (full : VerifyResponse) (samples : List VerifyResponse) : Prop where
  full : AnswersFull record full
  samples : config.policy.verifySampleChunks = true ->
    List.Forall₂ (AnswersSample record) (sampleOf config record) samples

theorem guarded_verifyDestination (during : InAttempt record attempt kinds past) :
    Program.Guarded (putGuard (DriverMay config))
      (fun later outcome => Driving record later ∧ forall digest, outcome = .ok digest ->
        exists full samples, Verification config record full samples ∧
          InAttempt record attempt (kinds ++ [received VerifyResponse.decode full] ++
            samples.map (received VerifyResponse.decode)) later)
      past (verifyDestination config record) := by
  unfold verifyDestination
  refine guarded_quiet (stable_inAttempt record attempt kinds) during rfl fun found _ during => ?_
  rcases found with status | link
  · exact ⟨during.1, fun _ impossible => by cases impossible⟩
  refine (guarded_askDestination during link true 0).bind fun later answer asked => ?_
  rcases answer with status | full
  · exact ⟨asked.1, fun _ impossible => by cases impossible⟩
  rcases asked.2 full rfl with ⟨code, movement, object, generation, during⟩
  cases checked : checkFull record.object full with
  | error status =>
      simp only [checked]
      exact ⟨asked.1, fun _ impossible => by cases impossible⟩
  | ok _ =>
      simp only [checked]
      have matching := checkFull_eq_ok.mp checked
      have answers : AnswersFull record full :=
        ⟨code, movement, object, generation, matching.1, matching.2⟩
      cases sampling : config.policy.verifySampleChunks with
      | false =>
          refine ⟨asked.1, fun _ _ => ⟨full, [], ⟨answers, fun on => ?_⟩, ?_⟩⟩
          · rw [sampling] at on
            cases on
          · rw [List.map_nil, List.append_nil]
            exact during
      | true =>
          refine (guarded_probeSamples link (sampleOf config record) during).bind
            fun last outcome probed => ?_
          rcases outcome with status | ⟨⟩
          · exact ⟨probed.1, fun _ impossible => by cases impossible⟩
          · rcases probed.2 rfl with ⟨samples, answered, during⟩
            exact ⟨probed.1, fun _ _ => ⟨full, samples, ⟨answers, fun _ => answered⟩, during⟩⟩

/-! ## The steps of an attempt -/

theorem guarded_deliverGrant (links : MovementLinks) (grant : TransferGrant)
    (endpoints : List EndpointId) (during : InAttempt record attempt kinds past) :
    Program.Guarded (putGuard (DriverMay config))
      (Onward fun later _ => InAttempt record attempt kinds later) past
      (deliverGrant links record grant endpoints) := by
  have stable := stable_inAttempt record attempt kinds
  induction endpoints generalizing past with
  | nil => exact during
  | cons endpoint rest ih =>
      apply guarded_request stable during
      · intro later status during
        exact guarded_returning_fail during.1 _ _ (by decide)
      · intro before future what frame during _
        replace during := stable before (.await (if endpoint = record.source then links.source
          else links.destination) future what) (.ok frame) rfl during
        cases decoded : decodeMessage GrantAck.decode frame with
        | error status =>
            simp only [decoded]
            exact guarded_returning_fail during.1 _ _ (by decide)
        | ok ack =>
            simp only [decoded]
            by_cases denied : ack.code ≠ .OK
            · rw [if_pos denied]
              exact guarded_returning_fail during.1 _ _ (by decide)
            · rw [if_neg denied]
              exact ih during

/-- An accepted result names the movement and the attempt, and the call still holds the
same version. -/
structure Accepted (record : MovementRecord) (attempt : TransferAttemptId)
    (later : CoordinatorHistory) (held : MovementRecord) (result : AttemptResult) : Prop where
  id : held.id = record.id
  object : held.object = record.object
  movement : result.movementId = record.id
  mine : result.attempt = attempt
  during : InAttempt held attempt [received AttemptResult.decode result] later

/-- What the call holds after a completion: a stale one leaves only a note. -/
def Heard (record : MovementRecord) (attempt : TransferAttemptId) (later : CoordinatorHistory) :
    Completion -> Prop
  | .stale noted => noted.id = record.id ∧ noted.object = record.object ∧
      InAttempt noted attempt [] later
  | .mine result => Accepted record attempt later record result

theorem guarded_awaitCompletion (link : LinkId) (future : Future)
    (during : InAttempt record attempt [] past) :
    Program.Guarded (putGuard (DriverMay config)) (Onward (Heard record attempt)) past
      (awaitCompletion link attempt future record) := by
  have stable := stable_inAttempt record attempt []
  unfold awaitCompletion
  apply guarded_await stable during
  · intro later status during
    exact guarded_returning_fail during.1 _ _ (by decide)
  intro frame _
  have waited := stable past (.await link future "the attempt result") (.ok frame) rfl during
  cases decoded : decodeMessage AttemptResult.decode frame with
  | error status =>
      simp only [decoded]
      exact guarded_returning_fail waited.1 _ _ (by decide)
  | ok result =>
      simp only [decoded]
      by_cases foreign : result.movementId ≠ record.id ∨ result.attempt ≠ attempt
      · rw [if_pos foreign]
        refine guarded_quiet stable waited rfl fun now _ waited => ?_
        exact ⟨rfl, rfl, waited.1.of_same rfl rfl rfl, waited.2⟩
      · rw [if_neg foreign]
        simp only [not_or, not_not] at foreign
        exact ⟨rfl, rfl, foreign.1, foreign.2, during.arrived decoded⟩

theorem guarded_awaitResult (link : LinkId) (patience : Nat) (future : Future)
    (during : InAttempt record attempt [] past) :
    Program.Guarded (putGuard (DriverMay config))
      (Onward fun later pair => Accepted record attempt later pair.1 pair.2) past
      (awaitResult link attempt patience future record) := by
  induction patience generalizing past future record with
  | zero =>
      refine (guarded_awaitCompletion link future during).bind fun later heard done => ?_
      cases heard with
      | returned => trivial
      | goOn completion =>
          cases completion with
          | mine result => exact done
          | stale noted => exact guarded_returning_fail done.2.2.1 _ _ (by decide)
  | succ patience ih =>
      refine (guarded_awaitCompletion link future during).bind fun later heard done => ?_
      cases heard with
      | returned => trivial
      | goOn completion =>
          cases completion with
          | mine result => exact done
          | stale noted =>
              refine guarded_quiet (stable_inAttempt noted attempt []) done.2.2 rfl
                fun reserved _ during => ?_
              rcases reserved with status | again
              · trivial
              · refine (ih again during).mono fun last outcome accepted => ?_
                cases outcome with
                | returned => trivial
                | goOn pair =>
                    exact ⟨accepted.id.trans done.1, accepted.object.trans done.2.1,
                      accepted.movement.trans done.1, accepted.mine, accepted.during⟩

/-- A write of an active record, whatever it is one of. -/
theorem InAttempt.wrote {next : MovementRecord} (during : InAttempt record attempt kinds past)
    (id : next.id = record.id) (active : isActive next.state = true) :
    InAttempt next attempt kinds (past ++ [⟨.storePut next, .ok ()⟩]) ∧
      InAttempt next attempt (kinds ++ [written next]) (past ++ [⟨.storePut next, .ok ()⟩]) := by
  have driving : Driving next (past ++ [⟨.storePut next, .ok ()⟩]) :=
    during.1.wrote id active
  constructor
  · exact ⟨driving, during.2.later fun impossible => by cases impossible⟩
  · exact ⟨driving, during.2.concat (fun impossible => by cases impossible) rfl⟩

theorem guarded_dispatch (link : LinkId) (nonce : Nonce) (number : Nat)
    (during : InAttempt record attempt [] past) :
    Program.Guarded (putGuard (DriverMay config))
      (Onward fun later pair => Accepted record attempt later pair.1 pair.2) past
      (dispatch link record attempt nonce number) := by
  have stable := stable_inAttempt record attempt []
  unfold dispatch
  refine guarded_quiet stable during rfl fun reserved _ during => ?_
  rcases reserved with status | future
  · trivial
  refine guarded_quiet stable during rfl fun sent _ during => ?_
  rcases sent with status | ⟨⟩
  · refine guarded_quiet stable during rfl fun _ _ during => ?_
    exact guarded_returning_fail during.1 _ _ (by decide)
  refine guarded_quiet stable during rfl fun now _ during => ?_
  rcases applied : applyTransition record .TRANSFERRING
      (.allow .OK (ascii "attempt " ++ decimal number ++ ascii " dispatched"))
      .ATTEMPT_STARTED now with ⟨transferring, status | ⟨⟩⟩
  · dsimp only
    exact ⟨trivial, fun _ _ => trivial⟩
  · dsimp only
    have moved := moved_of_applyTransition applied
    apply guarded_storePut
    · exact during.1.may config moved.id moved.legalStep (moved.state ▸ by decide)
    · exact fun _ => trivial
    · refine (guarded_awaitResult link 3 future (during.wrote moved.id (moved.state ▸ rfl)).1).mono
        fun later outcome accepted => ?_
      cases outcome with
      | returned => trivial
      | goOn pair =>
          exact ⟨accepted.id.trans moved.id, accepted.object.trans moved.object,
            accepted.movement.trans moved.id, accepted.mine, accepted.during⟩

/-! ## The end of an attempt -/

/-- The condition on the record that the next attempt starts from. -/
def Retries : CoordinatorHistory -> AttemptEnd -> Prop
  | _, .returned _ => True
  | later, .retry record => Driving record later

theorem guarded_ending
    (guarded : Program.Guarded (putGuard (DriverMay config)) (fun _ _ => True) past program) :
    Program.Guarded (putGuard (DriverMay config)) Retries past (ending program) :=
  guarded.bind fun _ _ _ => trivial

theorem guarded_ending_fail (driving : Driving record past) (code : ReasonCode) (detail : Text)
    (uncommitted : state ≠ .COMMITTED) :
    Program.Guarded (putGuard (DriverMay config)) Retries past
      (ending (fail record code detail state)) :=
  guarded_ending (guarded_fail driving code detail uncommitted)

theorem legalStep_of_same (state : same.state = record.state)
    (generation : same.generation = record.generation) : LegalStep record same where
  state := Or.inl state.symm
  generation := generation ▸ UInt64.le_refl _
  advances := fun differs => absurd state.symm differs

theorem guarded_scheduleRetry (driving : Driving record past) (code : ReasonCode) (detail : Text) :
    Program.Guarded (putGuard (DriverMay config)) (fun later noted => Driving noted later) past
      (scheduleRetry record code detail) := by
  unfold scheduleRetry
  refine guarded_quiet (stable_driving record) driving rfl fun now _ driving => ?_
  generalize same : record.note .RETRY_SCHEDULED code now detail = noted
  have id : noted.id = record.id := by rw [← same]; rfl
  have state : noted.state = record.state := by rw [← same]; rfl
  have generation : noted.generation = record.generation := by rw [← same]; rfl
  have held := driving.of_same id state generation
  apply guarded_storePut
  · apply driving.may config id (legalStep_of_same state generation)
    intro committed
    have active := held.active
    rw [committed] at active
    cases active
  · exact fun status => held.refused status
  · exact held.wrote rfl held.active

theorem AnswersFull.of_same (answers : AnswersFull record answer) (id : same.id = record.id)
    (object : same.object = record.object) : AnswersFull same answer where
  code := answers.code
  movement := id ▸ answers.movement
  object := object ▸ answers.object
  generation := object ▸ answers.generation
  digest := object ▸ answers.digest
  bytes := object ▸ answers.bytes

theorem AnswersSample.of_same (answers : AnswersSample record index answer)
    (id : same.id = record.id) (object : same.object = record.object) :
    AnswersSample same index answer where
  code := answers.code
  movement := id ▸ answers.movement
  object := object ▸ answers.object
  generation := object ▸ answers.generation
  payload := object ▸ answers.payload

theorem Verification.of_same (verification : Verification config record full samples)
    (id : same.id = record.id) (object : same.object = record.object) :
    Verification config same full samples := by
  refine ⟨verification.full.of_same id object, fun sampling => ?_⟩
  have sampled : sampleOf config same = sampleOf config record := by
    unfold sampleOf
    rw [id, object]
  rw [sampled]
  exact (verification.samples sampling).imp fun _ _ answers => answers.of_same id object

/-- The evidence that has been gathered when the commit barrier is reached. -/
structure AtBarrier (config : CoordinatorConfig) (verified : MovementRecord)
    (attempt : TransferAttemptId) (past : CoordinatorHistory) (result : AttemptResult)
    (full : VerifyResponse) (samples : List VerifyResponse) : Prop where
  during : InAttempt verified attempt
    ([received AttemptResult.decode result] ++ [received VerifyResponse.decode full] ++
      samples.map (received VerifyResponse.decode) ++ [written verified]) past
  movement : result.movementId = verified.id
  mine : result.attempt = attempt
  arrived : result.state = .BYTES_ARRIVED
  verification : Verification config verified full samples
  state : verified.state = .VERIFIED

/-- The commit result completes the evidence. -/
theorem AtBarrier.evidence {final : MovementRecord}
    (barrier : AtBarrier config verified attempt past result full samples)
    {committed : CommitResult} {later : CoordinatorHistory} (during : InAttempt verified attempt
      (([received AttemptResult.decode result] ++ [received VerifyResponse.decode full] ++
        samples.map (received VerifyResponse.decode) ++ [written verified]) ++
        [received CommitResult.decode committed]) later) (id : final.id = verified.id)
    (object : final.object = verified.object) (code : committed.code = .OK)
    (movement : committed.movementId = verified.id)
    (generation : committed.movementGeneration = verified.generation)
    (marker : final.commitMarkerDigest = committed.markerDigest) :
    CommitEvidence config final later attempt result full samples verified committed := by
  have verification := barrier.verification.of_same id object
  refine ⟨?_, id ▸ barrier.movement, barrier.mine, barrier.arrived, verification.full,
    verification.samples, id.symm, barrier.state, code, id ▸ movement, generation, marker⟩
  have ordered := during.2
  simp only [List.append_assoc, List.cons_append, List.nil_append] at ordered ⊢
  exact ordered

theorem guarded_commitBarrier (link : LinkId)
    (barrier : AtBarrier config verified attempt past result full samples) :
    Program.Guarded (putGuard (DriverMay config)) (fun _ _ => True) past
      (commitBarrier link verified attempt) := by
  have stable := stable_inAttempt verified attempt
    ([received AttemptResult.decode result] ++ [received VerifyResponse.decode full] ++
      samples.map (received VerifyResponse.decode) ++ [written verified])
  unfold commitBarrier
  apply guarded_request stable barrier.during
  · intro later status during
    exact guarded_fail during.1 _ _ (by decide)
  intro before future what frame during _
  have waited := stable before (.await link future what) (.ok frame) rfl during
  cases decoded : decodeMessage CommitResult.decode frame with
  | error status =>
      simp only [decoded]
      exact guarded_fail waited.1 _ _ (by decide)
  | ok committed =>
      simp only [decoded]
      have heard : InAttempt verified attempt _
          (before ++ [⟨.await link future what, .ok frame⟩]) := during.arrived decoded
      by_cases foreign : committed.movementId ≠ verified.id ∨
          committed.movementGeneration ≠ verified.generation
      · rw [if_pos foreign]
        exact guarded_fail waited.1 _ _ (by decide)
      rw [if_neg foreign]
      by_cases denied : committed.code ≠ .OK
      · rw [if_pos denied]
        exact guarded_fail waited.1 _ _ (by decide)
      rw [if_neg denied]
      simp only [not_or, not_not] at foreign denied
      refine guarded_quiet (stable_inAttempt _ _ _) heard rfl fun now _ heard => ?_
      rcases applied : applyTransition verified .COMMITTED
          (.allow .OK (ascii "the destination wrote and confirmed its commit marker"))
          .COMMITTED now with ⟨final, status | ⟨⟩⟩
      · trivial
      · dsimp only
        have moved := moved_of_applyTransition applied
        have marked : verified.Moved .COMMITTED
            { final with commitMarkerDigest := committed.markerDigest } :=
          ⟨moved.id, moved.object, moved.destination, moved.state, moved.legal, moved.generation⟩
        apply guarded_storePut
        · refine ⟨heard.1.holds.advances marked.id marked.legalStep heard.1.active,
            heard.1.unsettled, fun _ => ?_⟩
          exact ⟨attempt, result, full, samples, verified, committed,
            barrier.evidence heard moved.id moved.object denied foreign.1 foreign.2 rfl⟩
        · exact fun _ => trivial
        · exact ⟨trivial, fun _ _ => trivial⟩

theorem guarded_verifyAndCommit (link : LinkId) (isLast : Bool)
    (movement : result.movementId = record.id) (mine : result.attempt = attempt)
    (arrived : result.state = .BYTES_ARRIVED)
    (during : InAttempt record attempt [received AttemptResult.decode result] past) :
    Program.Guarded (putGuard (DriverMay config)) Retries past
      (verifyAndCommit config link record attempt isLast) := by
  refine (guarded_verifyDestination during).bind fun later outcome done => ?_
  rcases outcome with status | digest
  · cases isLast with
    | true => exact guarded_ending_fail done.1 _ _ (by decide)
    | false =>
        refine (guarded_scheduleRetry done.1 _ _).bind fun last noted driving => ?_
        refine guarded_quiet (stable_driving noted) driving rfl fun _ _ driving => ?_
        exact driving
  rcases done.2 digest rfl with ⟨full, samples, verification, during⟩
  refine guarded_quiet (stable_inAttempt _ _ _) during rfl fun now _ during => ?_
  rcases applied : applyTransition record .VERIFIED
      (.allow .OK (ascii ("the coordinator re-hashed stored bytes and they match the " ++
        "authorized content digest"))) .VERIFIED now with ⟨changed, status | ⟨⟩⟩
  · trivial
  dsimp only
  have moved := moved_of_applyTransition applied
  have verified : record.Moved .VERIFIED { changed with sourceVerifiedDigest := digest } :=
    ⟨moved.id, moved.object, moved.destination, moved.state, moved.legal, moved.generation⟩
  have active : isActive ({ changed with sourceVerifiedDigest := digest } : MovementRecord).state =
      true := verified.state ▸ rfl
  apply guarded_storePut
  · exact during.1.may config verified.id verified.legalStep (verified.state ▸ by decide)
  · exact fun _ => trivial
  have wrote := during.wrote verified.id active
  dsimp only
  split
  · exact guarded_ending_fail wrote.1.1 _ _ (by decide)
  · exact guarded_ending (guarded_commitBarrier link ⟨wrote.2, movement.trans verified.id.symm, mine,
      arrived, verification.of_same verified.id verified.object, verified.state⟩)

theorem guarded_useResult {base : MovementRecord} (link : LinkId) (isLast : Bool)
    (accepted : Accepted base attempt past record result) :
    Program.Guarded (putGuard (DriverMay config)) Retries past
      (useResult config link record result attempt isLast) := by
  have driving := accepted.during.1
  unfold useResult
  by_cases cancelled : result.state = .CANCELLED
  · rw [if_pos cancelled]
    exact guarded_ending_fail driving _ _ (by decide)
  rw [if_neg cancelled]
  by_cases failed : result.state ≠ .BYTES_ARRIVED
  · rw [if_pos failed]
    have reported : Driving { record with lastReason := result.code, lastDetail := result.detail }
      past := driving.of_same rfl rfl rfl
    cases isLast with
    | true => exact guarded_ending_fail reported _ _ (by decide)
    | false =>
        refine guarded_quiet (stable_driving _) reported rfl fun _ _ reported => ?_
        exact (guarded_scheduleRetry reported _ _).bind fun last noted driving => driving
  rw [if_neg failed]
  refine guarded_quiet (stable_inAttempt _ _ _) accepted.during rfl fun now _ during => ?_
  rcases applied : applyTransition record .BYTES_ARRIVED
      (.allow .OK (ascii "the destination reports verified bytes (not authority)"))
      .BYTES_ARRIVED now with ⟨changed, status | ⟨⟩⟩
  · trivial
  dsimp only
  have moved := moved_of_applyTransition applied
  have arrived : record.Moved .BYTES_ARRIVED { changed with
      bytesTransferred := result.bytes
      chunksVerified := result.chunks
      destinationVerifiedDigest := result.verifiedDigest } :=
    ⟨moved.id, moved.object, moved.destination, moved.state, moved.legal, moved.generation⟩
  apply guarded_storePut
  · exact during.1.may config arrived.id arrived.legalStep (arrived.state ▸ by decide)
  · exact fun _ => trivial
  · have movement := accepted.movement.trans (accepted.id.symm.trans arrived.id.symm)
    exact guarded_verifyAndCommit link isLast movement accepted.mine (not_not.mp failed)
      (during.wrote arrived.id (arrived.state ▸ rfl)).1

/-! ## The whole call -/

theorem guarded_runAttempt (links : MovementLinks) (number : Nat) (isLast : Bool)
    (during : InAttempt record attempt [] past) :
    Program.Guarded (putGuard (DriverMay config)) Retries past
      (runAttempt config links record attempt number isLast) := by
  have stable := stable_inAttempt record attempt []
  unfold runAttempt
  refine guarded_quiet stable during rfl fun nonce _ during => ?_
  refine guarded_quiet stable during rfl fun now _ during => ?_
  rcases (grantFor record attempt nonce now).sign config.sharedSecret with status | grant
  · trivial
  refine (guarded_deliverGrant links grant _ during).bind fun later delivered during => ?_
  rcases delivered with result | ⟨⟩
  · trivial
  refine (guarded_dispatch links.destination nonce number during).bind
    fun last dispatched accepted => ?_
  rcases dispatched with result | ⟨transferring, result⟩
  · trivial
  · exact guarded_useResult links.destination isLast accepted

theorem guarded_attempts (links : MovementLinks) (left number : Nat)
    (driving : Driving record past) :
    Program.Guarded (putGuard (DriverMay config)) (fun _ _ => True) past
      (attempts config links left number record) := by
  induction left generalizing past number record with
  | zero => exact guarded_fail driving _ _ (by decide)
  | succ left ih =>
      unfold attempts
      split
      · exact guarded_fail driving _ _ (by decide)
      · refine ⟨trivial, fun attempt _ => ?_⟩
        have begun : InAttempt record attempt [] (past ++ [⟨.newAttemptId, attempt⟩]) := by
          refine ⟨⟨?_, driving.active, ?_⟩, sinceAttempt_begins past attempt⟩
          · exact driving.holds.later fun _ => rfl
          · intro written reply member
            rcases List.mem_append.mp member with earlier | last
            · exact driving.unsettled written reply earlier
            · cases List.mem_singleton.mp last
        refine guarded_quiet (stable_inAttempt _ _ _) begun rfl fun now _ begun => ?_
        rcases recorded : recordAttemptStarted record attempt now with ⟨started, status | ⟨⟩⟩
        · trivial
        dsimp only
        have restarted := restarted_of_recordAttemptStarted recorded
        have active : isActive started.state = true := restarted.state ▸ driving.active
        apply guarded_storePut
        · apply begun.1.may config restarted.id restarted.legalStep
          intro committed
          rw [committed] at active
          cases active
        · exact fun _ => trivial
        · refine (guarded_runAttempt links number (left == 0) (begun.wrote restarted.id active).1).bind
            fun later ended retries => ?_
          cases ended with
          | returned result => trivial
          | retry retried => exact ih (number + 1) retries

theorem guarded_driveMovement (config : CoordinatorConfig) (id : MovementId) :
    Program.Guarded (putGuard (DriverMay config)) (fun _ _ => True) [] (driveMovement config id) := by
  apply guarded_storeGet
  · exact fun _ => trivial
  rintro record rfl
  dsimp only
  by_cases settled : isTerminal record.state = true ∨ record.state = .OUTCOME_UNKNOWN
  · rw [if_pos settled]
    trivial
  rw [if_neg settled]
  have driving : Driving record [⟨.storeGet record.id, .ok record⟩] := by
    refine ⟨holds_get record, ?_, ?_⟩
    · simpa [isActive] using settled
    · intro written reply member
      cases List.mem_singleton.mp member
  have stable := stable_driving record
  split
  · exact guarded_fail driving _ _ (by decide)
  refine guarded_quiet stable driving rfl fun source _ driving => ?_
  rcases source with status | source
  · exact guarded_fail driving _ _ (by decide)
  refine guarded_quiet stable driving rfl fun destination _ driving => ?_
  rcases destination with status | destination
  · exact guarded_fail driving _ _ (by decide)
  refine guarded_quiet stable driving rfl fun currentSource _ driving => ?_
  refine guarded_quiet stable driving rfl fun currentDestination _ driving => ?_
  rcases currentSource with status | currentSource
  · exact guarded_fail driving _ _ (by decide)
  rcases currentDestination with status | currentDestination
  · exact guarded_fail driving _ _ (by decide)
  simp only
  split
  · exact guarded_fail driving _ _ (by decide)
  · exact guarded_attempts ⟨source, destination⟩ _ 1 driving

end Walk

end StateMovementFabric
