import StateMovementFabric.Foundation.Executions
import StateMovementFabric.Core.Transitions
import StateMovementFabric.Coordinator.CommitSafety
import StateMovementFabric.Coordinator.Verification

namespace StateMovementFabric

open Foundation Wire

/-!
# Retries

A movement whose first attempts fail at the destination should be committed by the first
attempt that goes well.  What goes well is said of the surroundings only: the store takes
every record, the links and the clock work, the endpoints answer as they are asked to.  What
the coordinator makes of it is left to `driveMovement`.
-/

/-! ## What the surroundings do -/

/-- What is remembered of a call: the attempts and the persisted records, the latest first,
a nonce that no grant was made of yet, and the frame that was sent last. -/
structure Course where
  attempts : List TransferAttemptId := []
  kept : List MovementRecord := []
  nonce : Option Nonce := none
  asked : Option Frame := none

namespace Course

def after (course : Course) : CoordinatorEvent -> Course
  | ⟨.newAttemptId, attempt⟩ => { course with attempts := attempt :: course.attempts }
  | ⟨.newNonce, nonce⟩ => { course with nonce := some nonce }
  | ⟨.unixMillis, _⟩ => { course with nonce := none }
  | ⟨.push _ frame, _⟩ => { course with asked := some frame }
  | ⟨.storePut record, .ok ()⟩ => { course with kept := record :: course.kept }
  | _ => course

/-- The record that was persisted last. -/
def latest (course : Course) (record : MovementRecord) : MovementRecord :=
  course.kept.head?.getD record

/-- A grant that is made now can be signed. -/
def signs (config : CoordinatorConfig) (now : Millis) :
    Option Nonce -> List TransferAttemptId -> List MovementRecord -> Bool
  | some nonce, attempt :: _, started :: _ =>
      succeeded ((grantFor started attempt nonce now).sign config.sharedSecret)
  | _, _, _ => true

/-- The clock works. -/
def ticks (config : CoordinatorConfig) (course : Course) (now : Millis) : Bool :=
  decide (0 < now) && signs config now course.nonce course.attempts course.kept

/-- What the attempt that is running reports: the first ones that they failed, the others
that the bytes have arrived. -/
def verdict (failures : Nat) (course : Course) : MovementState :=
  if course.attempts.length ≤ failures then .FAILED else .BYTES_ARRIVED

def reports (record : MovementRecord) (failures : Nat) (course : Course) (result : AttemptResult) :
    Bool :=
  result.movementId == record.id && course.attempts.head? == some result.attempt &&
    result.state == course.verdict failures

/-- A probe is answered as the object demands. -/
def proves (record : MovementRecord) (course : Course) (index : Option UInt32)
    (response : VerifyResponse) : Bool :=
  response.movementId == record.id && response.objectId == record.object.objectId &&
    response.objectGeneration == record.object.generation && response.code == .OK &&
    (course.asked != some (verifyQuestion (course.latest record) true 0).frame ||
      succeeded (checkFull record.object response)) &&
    index.all fun index =>
      course.asked != some (verifyQuestion (course.latest record) false index).frame ||
        succeeded (checkSample record.object index response)

/-- The commit is confirmed. -/
def confirms (record : MovementRecord) (course : Course) (committed : CommitResult) : Bool :=
  committed.movementId == record.id &&
    committed.movementGeneration == (course.latest record).generation && committed.code == .OK

/-- A decoded answer passes a check. -/
def answers {α : Type} (decode : Decode α) (check : α -> Bool) (frame : Frame) : Bool :=
  match decodeMessage decode frame with
  | .ok message => check message
  | .error _ => false

/-- The endpoint answers what it was asked. -/
def fits (record : MovementRecord) (failures : Nat) (course : Course) (key : PendingKey)
    (frame : Frame) : Bool :=
  match key.type with
  | .GRANT_ACK => answers GrantAck.decode (fun ack => ack.code == .OK) frame
  | .ATTEMPT_RESULT => answers AttemptResult.decode (course.reports record failures) frame
  | .VERIFY_RESPONSE => answers VerifyResponse.decode (course.proves record key.index) frame
  | .COMMIT_RESULT => answers CommitResult.decode (course.confirms record) frame
  | _ => true

/-- The endpoint is registered in the incarnation that the movement was authorized for. -/
def isRegistered (record : MovementRecord) (endpoint : EndpointId)
    (registration : EndpointRegistration) : Bool :=
  (endpoint != record.source || registration.incarnation.retag == record.sourceIncarnation) &&
    (endpoint != record.destination ||
      registration.incarnation.retag == record.destinationIncarnation)

/-- What is expected of the surroundings when the first `failures` attempts fail at the
destination and everything else succeeds. -/
def expects (config : CoordinatorConfig) (record : MovementRecord) (failures : Nat)
    (course : Course) : CoordinatorEvent -> Bool
  | ⟨.storeGet _, .ok found⟩ => decide (found = record)
  | ⟨.storeGet _, .error _⟩ => false
  | ⟨.storePut _, saved⟩ => succeeded (saved : Result Unit)
  | ⟨.unixMillis, now⟩ => course.ticks config now
  | ⟨.findLink _, .ok _⟩ => true
  | ⟨.findLink _, .error _⟩ => false
  | ⟨.topologyFind endpoint, .ok registration⟩ => isRegistered record endpoint registration
  | ⟨.topologyFind _, .error _⟩ => false
  | ⟨.reserve _ key, .ok future⟩ => future.key == key
  | ⟨.reserve _ _, .error _⟩ => false
  | ⟨.push _ _, sent⟩ => succeeded (sent : Result Unit)
  | ⟨.await _ future _, .ok frame⟩ => course.fits record failures future.key frame
  | ⟨.await _ _ _, .error _⟩ => false
  | _ => true

/-- A record in state `COMMITTED` was persisted, with so many attempts. -/
def Commits (course : Course) (count : Nat) : Prop :=
  exists final, final ∈ course.kept ∧ final.state = .COMMITTED ∧ final.attemptCount.toNat = count

end Course

/-- The observer of a call whose first `failures` attempts fail at the destination. -/
def retrying (config : CoordinatorConfig) (record : MovementRecord) (failures : Nat) :
    Observer coordinatorSignature :=
  ⟨Course, Course.after, Course.expects config record failures⟩

/-- A movement that was authorized and not attempted yet, with room for the events and the
generations of the attempts. -/
structure MovementRecord.Ready (record : MovementRecord) (failures : Nat) : Prop where
  state : record.state = .AUTHORIZED
  cancelRequested : record.cancelRequested = false
  attemptCount : record.attemptCount = 0
  generation : record.generation.value.toNat + 2 * failures + 5 < 2 ^ 64
  provenance : record.provenance.events.length + 3 * failures + 5 ≤ record.provenance.bound

section Walk

variable {config : CoordinatorConfig} {record current : MovementRecord} {failures : Nat}
  {course : Course} {link : LinkId}

/-! ## Questions and answers -/

theorem decoded_of_answers {α : Type} {decode : Decode α} {check : α -> Bool} {frame : Frame}
    (answered : Course.answers decode check frame = true) :
    exists message, decodeMessage decode frame = .ok message ∧ check message = true := by
  unfold Course.answers at answered
  split at answered
  · rename_i message decoded
    exact ⟨message, decoded, answered⟩
  · cases answered

theorem positive_of_ticks {now : Millis} (ticks : course.ticks config now = true) : 0 < now :=
  of_decide_eq_true (Bool.and_eq_true_iff.mp ticks).1

/-- A request gets an answer that fits. -/
theorem leads_request (key : PendingKey) (question : Frame) :
    Program.Leads (retrying config record failures)
      (fun later answer => exists frame, answer = .ok frame ∧
        later = { course with asked := some question } ∧
        Course.fits record failures later key frame = true)
      course (request link key question) := by
  unfold request
  refine Program.leads_call_bind.mpr ?_
  rintro (status | future) expected
  · cases expected
  · have same : future.key = key := eq_of_beq expected
    refine Program.leads_call_bind.mpr ?_
    rintro (status | sent) expected
    · cases expected
    · rintro (status | frame) expected
      · cases expected
      · exact ⟨frame, rfl, rfl, same ▸ expected⟩

/-- The grant reaches the endpoints. -/
theorem leads_deliverGrant (links : MovementLinks) (grant : TransferGrant)
    (endpoints : List EndpointId) :
    Program.Leads (retrying config record failures)
      (fun later progress => progress = .goOn () ∧ later.attempts = course.attempts ∧
        later.kept = course.kept)
      course (deliverGrant links current grant endpoints) := by
  induction endpoints generalizing course with
  | nil => exact ⟨rfl, rfl, rfl⟩
  | cons endpoint rest ih =>
      refine (leads_request _ _).bind ?_
      rintro later answer ⟨frame, rfl, rfl, fits⟩
      rcases decoded_of_answers fits with ⟨ack, decoded, accepted⟩
      dsimp only
      rw [decoded]
      dsimp only
      rw [if_neg (not_not.mpr (eq_of_beq accepted))]
      have delivered := @ih { course with asked := some (GrantTransfer.mk grant).frame }
      exact delivered

theorem ok_of_succeeded {result : Result Unit} (success : succeeded result = true) :
    result = .ok () := by
  cases result with
  | error status => cases success
  | ok value => rfl

/-- The destination answers a probe. -/
theorem leads_askDestination (latest : course.latest record = current)
    (id : current.id = record.id) (object : current.object = record.object) (full : Bool)
    (index : UInt32) :
    Program.Leads (retrying config record failures)
      (fun later answer => exists response, answer = .ok response ∧
        later = { course with asked := some (verifyQuestion current full index).frame } ∧
        (full = true -> index = 0 -> checkFull current.object response = .ok ()) ∧
        (full = false -> checkSample current.object index response = .ok ()))
      course (askDestination link current full index) := by
  refine (leads_request _ _).bind ?_
  rintro later answer ⟨frame, rfl, rfl, fits⟩
  rcases decoded_of_answers fits with ⟨response, decoded, proves⟩
  change Course.proves record { course with
    asked := some (verifyQuestion current full index).frame } (some index) response = true at proves
  have unchanged : Course.latest { course with
      asked := some (verifyQuestion current full index).frame } record = current := latest
  simp only [Course.proves, unchanged, Bool.and_eq_true, Bool.or_eq_true, beq_iff_eq, bne_iff_ne,
    Option.all_some, ← object, ← id] at proves
  rcases proves with ⟨⟨⟨⟨⟨movement, objectId⟩, generation⟩, code⟩, whole⟩, sample⟩
  dsimp only
  rw [decoded]
  dsimp only
  rw [if_neg (by simp only [movement, objectId, generation, ne_eq, not_true_eq_false, or_self,
    not_false_eq_true]), if_neg (not_not.mpr code)]
  refine ⟨response, rfl, rfl, ?_, ?_⟩
  · rintro rfl rfl
    exact ok_of_succeeded (whole.resolve_left (not_not.mpr rfl))
  · rintro rfl
    exact ok_of_succeeded (sample.resolve_left (not_not.mpr rfl))

/-- The sampled chunks come back as they should. -/
theorem leads_probeSamples (latest : course.latest record = current)
    (id : current.id = record.id) (object : current.object = record.object)
    (sample : List UInt32) :
    Program.Leads (retrying config record failures)
      (fun later verdict => verdict = .ok () ∧ later.attempts = course.attempts ∧
        later.kept = course.kept)
      course (probeSamples link current sample) := by
  induction sample generalizing course with
  | nil => exact ⟨rfl, rfl, rfl⟩
  | cons index rest ih =>
      refine (leads_askDestination latest id object false index).bind ?_
      rintro later answer ⟨response, rfl, rfl, _, sampled⟩
      dsimp only
      rw [sampled rfl]
      refine Program.leads_call_bind.mpr ?_
      intro counted expected
      have probed := @ih { course with
        asked := some (verifyQuestion current false index).frame } latest
      exact probed

theorem leads_verifyDestination (latest : course.latest record = current)
    (id : current.id = record.id) (object : current.object = record.object) :
    Program.Leads (retrying config record failures)
      (fun later verdict => (exists digest, verdict = .ok digest) ∧
        later.attempts = course.attempts ∧ later.kept = course.kept)
      course (verifyDestination config current) := by
  refine Program.leads_call_bind.mpr ?_
  rintro (status | link) expected
  · cases expected
  · refine (leads_askDestination latest id object true 0).bind ?_
    rintro later answer ⟨response, rfl, rfl, whole, _⟩
    dsimp only
    rw [whole rfl rfl]
    dsimp only
    split
    · exact ⟨⟨_, rfl⟩, rfl, rfl⟩
    · have probed := @leads_probeSamples config record current failures { course with
        asked := some (verifyQuestion current true 0).frame } link latest id object
        (sampleOf config current)
      refine probed.bind ?_
      rintro last verdict ⟨rfl, attempts, kept⟩
      exact ⟨⟨_, rfl⟩, attempts, kept⟩

/-! ## The record along the way -/

/-- The record of a movement after `spent` changes. -/
structure MovementRecord.Along (record current : MovementRecord) (state : MovementState)
    (count : UInt32) (spent : Nat) : Prop where
  id : current.id = record.id
  object : current.object = record.object
  state : current.state = state
  cancelRequested : current.cancelRequested = false
  attemptCount : current.attemptCount = count
  generation : current.generation.value.toNat = record.generation.value.toNat + spent
  events : current.provenance.events.length = record.provenance.events.length + spent
  bound : current.provenance.bound = record.provenance.bound

/-- A text that every provenance chain with room takes. -/
def isPlain (detail : Text) : Bool :=
  decide (detail.length ≤ kMaxDetailBytes) && isValidUtf8 detail

variable {state : MovementState} {count : UInt32} {spent : Nat} {now : Millis}

theorem MovementRecord.Ready.along (ready : record.Ready failures) :
    record.Along record .AUTHORIZED 0 0 :=
  ⟨rfl, rfl, ready.state, ready.cancelRequested, ready.attemptCount, rfl, rfl, rfl⟩

theorem MovementRecord.Along.takes (along : record.Along current state count spent)
    (ready : record.Ready failures) (few : spent < 5) (positive : 0 < now) {detail : Text}
    (short : isPlain detail = true) : current.provenance.takes now detail = true := by
  rw [isPlain, Bool.and_eq_true, decide_eq_true_eq] at short
  rw [ProvenanceChain.takes_iff, along.events, along.bound]
  have room := ready.provenance
  exact ⟨by omega, positive, short.1, .inr short.2⟩

theorem MovementRecord.Along.successor (along : record.Along current state count spent)
    (ready : record.Ready failures) (few : spent < 5) :
    exists successor, current.generation.next = .ok successor ∧
      successor.value.toNat = record.generation.value.toNat + (spent + 1) := by
  have room := ready.generation
  have remaining : current.generation.value ≠ 18446744073709551615 := by
    intro exhausted
    have number := along.generation
    rw [exhausted] at number
    change 18446744073709551615 = _ at number
    omega
  rcases Generation.exists_next_iff.mpr remaining with ⟨successor, advanced⟩
  refine ⟨successor, advanced, ?_⟩
  rw [Generation.next_toNat advanced, along.generation]
  omega

/-- A legal transition succeeds while there is room. -/
theorem MovementRecord.Along.transition (along : record.Along current state count spent)
    (ready : record.Ready failures) (few : spent < 5) (next : MovementState)
    (legal : checkTransition state next = .ok ()) (positive : 0 < now)
    (decision : MovementDecision) (kind : ProvenanceEventKind)
    (short : isPlain decision.detail = true) :
    exists changed, applyTransition current next decision kind now = (changed, .ok ()) ∧
      record.Along changed next count (spent + 1) := by
  rcases along.successor ready few with ⟨successor, advanced, number⟩
  rcases applyTransition_of_takes (along.state ▸ legal) advanced
    (along.takes ready few positive short) with ⟨longer, events, bound, applied⟩
  exact ⟨_, applied, along.id, along.object, rfl, along.cancelRequested, along.attemptCount, number,
    events.trans (congrArg (· + 1) along.events), bound.trans along.bound⟩

/-- So does the record of an attempt. -/
theorem MovementRecord.Along.attempt (along : record.Along current state count spent)
    (ready : record.Ready failures) (few : spent < 5) (running : isTerminal state = false)
    (positive : 0 < now) (attempt : TransferAttemptId)
    (short : isPlain (ascii "attempt " ++ decimal (count + 1).toNat) = true) :
    exists started, recordAttemptStarted current attempt now = (started, .ok ()) ∧
      record.Along started state (count + 1) (spent + 1) := by
  rcases along.successor ready few with ⟨successor, advanced, number⟩
  rcases recordAttemptStarted_of_takes (along.state ▸ running) advanced
    (along.takes ready few positive (along.attemptCount ▸ short)) with
    ⟨longer, events, bound, started⟩
  exact ⟨_, started, along.id, along.object, along.state, along.cancelRequested,
    congrArg (· + 1) along.attemptCount, number, events.trans (congrArg (· + 1) along.events),
    bound.trans along.bound⟩

/-! ## An attempt -/

variable {attempt : TransferAttemptId} {future : Future}

theorem leads_awaitResult (running : course.attempts.head? = some attempt)
    (id : current.id = record.id) (awaits : future.key.type = .ATTEMPT_RESULT) (patience : Nat) :
    Program.Leads (retrying config record failures)
      (fun later progress => exists result, progress = .goOn (current, result) ∧ later = course ∧
        result.state = course.verdict failures)
      course (awaitResult link attempt patience future current) := by
  have completes : Program.Leads (retrying config record failures)
      (fun later progress => exists result, progress = .goOn (.mine result) ∧ later = course ∧
        result.state = course.verdict failures)
      course (awaitCompletion link attempt future current) := by
    refine Program.leads_call_bind.mpr ?_
    rintro (status | frame) expected
    · cases expected
    · change Course.fits record failures course future.key frame = true at expected
      rw [Course.fits, awaits] at expected
      rcases decoded_of_answers expected with ⟨result, decoded, reports⟩
      simp only [Course.reports, running, Bool.and_eq_true, beq_iff_eq, Option.some.injEq] at reports
      rcases reports with ⟨⟨movement, same⟩, state⟩
      dsimp only
      rw [decoded]
      dsimp only
      rw [if_neg (by simp only [movement, id, same, ne_eq, not_true_eq_false, or_self,
        not_false_eq_true])]
      exact ⟨result, rfl, rfl, state⟩
  cases patience with
  | zero =>
      refine completes.bind ?_
      rintro later progress ⟨result, rfl, rfl, state⟩
      exact ⟨result, rfl, rfl, state⟩
  | succ patience =>
      refine completes.bind ?_
      rintro later progress ⟨result, rfl, rfl, state⟩
      exact ⟨result, rfl, rfl, state⟩

/-- The first attempt is dispatched and reports. -/
theorem leads_dispatch (along : record.Along current .AUTHORIZED count spent)
    (ready : record.Ready failures) (few : spent < 5)
    (running : course.attempts.head? = some attempt) (nonce : Nonce) {number : Nat}
    (short : isPlain (ascii "attempt " ++ decimal number ++ ascii " dispatched") = true) :
    Program.Leads (retrying config record failures)
      (fun later progress => exists transferring result, progress = .goOn (transferring, result) ∧
        record.Along transferring .TRANSFERRING count (spent + 1) ∧
        later.attempts = course.attempts ∧ later.kept = transferring :: course.kept ∧
        result.state = course.verdict failures)
      course (dispatch link current attempt nonce number) := by
  refine Program.leads_call_bind.mpr ?_
  rintro (status | future) reserved
  · cases reserved
  · have awaits : future.key.type = .ATTEMPT_RESULT := congrArg PendingKey.type (eq_of_beq reserved)
    refine Program.leads_call_bind.mpr ?_
    rintro (status | sent) expected
    · cases expected
    · refine Program.leads_call_bind.mpr ?_
      intro (now : Millis) ticks
      have positive := positive_of_ticks ticks
      rcases along.transition ready few .TRANSFERRING (by decide) positive
        (.allow .OK (ascii "attempt " ++ decimal number ++ ascii " dispatched")) .ATTEMPT_STARTED
        short with ⟨transferring, applied, moved⟩
      rw [applied]
      refine Program.leads_call_bind.mpr ?_
      rintro (status | saved) expected
      · cases expected
      · have awaited := @leads_awaitResult config record transferring failures { course with
          kept := transferring :: course.kept, nonce := none
          asked := some (ExecuteMovement.mk current.id current.generation attempt nonce.asDigest
            current.source).frame } link attempt future running moved.id awaits 3
        refine awaited.mono ?_
        rintro later progress ⟨result, rfl, rfl, state⟩
        exact ⟨transferring, result, rfl, moved, rfl, rfl, state⟩

/-- A record that is being transferred cannot be dispatched again. -/
theorem leads_dispatch_transferring (state : current.state = .TRANSFERRING) (nonce : Nonce)
    (number : Nat) :
    Program.Leads (retrying config record failures)
      (fun later progress => (exists result, progress = .returned result) ∧
        later.kept = course.kept)
      course (dispatch link current attempt nonce number) := by
  refine Program.leads_call_bind.mpr ?_
  rintro (status | future) reserved
  · cases reserved
  · refine Program.leads_call_bind.mpr ?_
    rintro (status | sent) expected
    · cases expected
    · refine Program.leads_call_bind.mpr ?_
      intro now ticks
      have illegal : exists status, checkTransition current.state .TRANSFERRING = .error status := by
        rw [state]
        exact ⟨_, rfl⟩
      rcases illegal with ⟨status, illegal⟩
      unfold applyTransition
      rw [illegal]
      refine Program.leads_call_bind.mpr ?_
      intro released expected
      exact ⟨⟨_, rfl⟩, rfl⟩

theorem leads_commitBarrier (along : record.Along current .VERIFIED count spent)
    (ready : record.Ready failures) (few : spent < 5) (latest : course.latest record = current) :
    Program.Leads (retrying config record failures)
      (fun later _ => exists final, later.kept = final :: course.kept ∧ final.state = .COMMITTED ∧
        final.attemptCount = count)
      course (commitBarrier link current attempt) := by
  refine (leads_request _ _).bind ?_
  rintro later answer ⟨frame, rfl, rfl, fits⟩
  rcases decoded_of_answers fits with ⟨committed, decoded, confirms⟩
  have unchanged : Course.latest { course with asked := some (CommitRequest.mk current.id
      current.generation attempt current.object current.source).frame } record = current := latest
  simp only [Course.confirms, unchanged, Bool.and_eq_true, beq_iff_eq, ← along.id] at confirms
  rcases confirms with ⟨⟨movement, generation⟩, code⟩
  dsimp only
  rw [decoded]
  dsimp only
  rw [if_neg (by simp only [movement, generation, ne_eq, not_true_eq_false, or_self,
    not_false_eq_true]), if_neg (not_not.mpr code)]
  refine Program.leads_call_bind.mpr ?_
  intro (now : Millis) ticks
  have positive := positive_of_ticks ticks
  rcases along.transition ready few .COMMITTED (by decide) positive
    (.allow .OK (ascii "the destination wrote and confirmed its commit marker")) .COMMITTED
    (by decide +kernel) with ⟨final, applied, moved⟩
  rw [applied]
  refine Program.leads_call_bind.mpr ?_
  rintro (status | saved) expected
  · cases expected
  · refine Program.leads_call_bind.mpr ?_
    intro counted expected
    exact ⟨_, rfl, moved.state, moved.attemptCount⟩

theorem leads_verifyAndCommit (along : record.Along current .BYTES_ARRIVED count spent)
    (ready : record.Ready failures) (few : spent + 1 < 5) (latest : course.latest record = current)
    (isLast : Bool) :
    Program.Leads (retrying config record failures)
      (fun later progress => (exists result, progress = .returned result) ∧
        exists final, final ∈ later.kept ∧ final.state = .COMMITTED ∧ final.attemptCount = count)
      course (verifyAndCommit config link current attempt isLast) := by
  refine (leads_verifyDestination latest along.id along.object).bind ?_
  rintro later verdict ⟨⟨digest, rfl⟩, attempts, kept⟩
  refine Program.leads_call_bind.mpr ?_
  intro (now : Millis) ticks
  have positive := positive_of_ticks ticks
  rcases along.transition ready (Nat.lt_of_succ_lt few) .VERIFIED (by decide) positive
    (.allow .OK (ascii ("the coordinator re-hashed stored bytes and they match the " ++
      "authorized content digest"))) .VERIFIED (by decide +kernel) with ⟨changed, applied, moved⟩
  rw [applied]
  refine Program.leads_call_bind.mpr ?_
  rintro (status | saved) expected
  · cases expected
  · dsimp only
    rw [if_neg (Bool.eq_false_iff.mp moved.cancelRequested)]
    have verified : record.Along { changed with sourceVerifiedDigest := digest } .VERIFIED count
        (spent + 1) :=
      ⟨moved.id, moved.object, moved.state, moved.cancelRequested, moved.attemptCount,
        moved.generation, moved.events, moved.bound⟩
    have committed := @leads_commitBarrier config record { changed with
      sourceVerifiedDigest := digest } failures { later with
        kept := { changed with sourceVerifiedDigest := digest } :: later.kept, nonce := none } link
      count (spent + 1) attempt verified ready few rfl
    refine committed.bind ?_
    rintro last result ⟨final, kept, state, counted⟩
    exact ⟨⟨result, rfl⟩, final, kept ▸ List.mem_cons_self, state, counted⟩

/-- An attempt gets as far as its dispatch. -/
theorem leads_runAttempt {number : Nat} {isLast : Bool} {links : MovementLinks}
    {earlier : List TransferAttemptId} {others : List MovementRecord}
    {middle : Course -> Progress (MovementRecord × AttemptResult) -> Prop}
    {done : Course -> AttemptEnd -> Prop} (running : course.attempts = attempt :: earlier)
    (latest : course.kept = current :: others)
    (dispatched : forall (later : Course) nonce, later.attempts = course.attempts ->
      later.kept = course.kept ->
      Program.Leads (retrying config record failures) middle later
        (dispatch links.destination current attempt nonce number))
    (returns : forall later result, middle later (.returned result) ->
      done later (.returned result))
    (goesOn : forall later transferring result, middle later (.goOn (transferring, result)) ->
      Program.Leads (retrying config record failures) done later
        (useResult config links.destination transferring result attempt isLast)) :
    Program.Leads (retrying config record failures) done course
      (runAttempt config links current attempt number isLast) := by
  refine Program.leads_call_bind.mpr ?_
  intro (nonce : Nonce) _
  refine Program.leads_call_bind.mpr ?_
  intro (now : Millis) ticks
  have signs : succeeded ((grantFor current attempt nonce now).sign config.sharedSecret) = true := by
    have ticked : Course.signs config now (some nonce) course.attempts course.kept = true :=
      (Bool.and_eq_true_iff.mp ticks).2
    rw [running, latest] at ticked
    exact ticked
  cases signed : (grantFor current attempt nonce now).sign config.sharedSecret with
  | error status =>
      rw [signed] at signs
      cases signs
  | ok grant =>
      dsimp only
      refine (leads_deliverGrant links grant _).bind ?_
      rintro later progress ⟨rfl, attempts, kept⟩
      refine (dispatched later nonce attempts kept).bind ?_
      rintro last progress reached
      cases progress with
      | returned result => exact returns last result reached
      | goOn value => exact goesOn last value.1 value.2 reached

/-- The bytes have arrived, and the movement is committed. -/
theorem leads_useResult_arrived (along : record.Along current .TRANSFERRING count spent)
    (ready : record.Ready failures) (few : spent + 2 < 5) {result : AttemptResult}
    (arrived : result.state = .BYTES_ARRIVED) (isLast : Bool) :
    Program.Leads (retrying config record failures)
      (fun later progress => (exists result, progress = .returned result) ∧
        exists final, final ∈ later.kept ∧ final.state = .COMMITTED ∧ final.attemptCount = count)
      course (useResult config link current result attempt isLast) := by
  unfold useResult
  rw [arrived, if_neg (by decide), if_neg (by decide)]
  refine Program.leads_call_bind.mpr ?_
  intro (now : Millis) ticks
  have positive := positive_of_ticks ticks
  rcases along.transition ready (by omega) .BYTES_ARRIVED (by decide) positive
    (.allow .OK (ascii "the destination reports verified bytes (not authority)")) .BYTES_ARRIVED
    (by decide +kernel) with ⟨changed, applied, moved⟩
  rw [applied]
  refine Program.leads_call_bind.mpr ?_
  rintro (status | saved) expected
  · cases expected
  · have arrived : record.Along { changed with
        bytesTransferred := result.bytes
        chunksVerified := result.chunks
        destinationVerifiedDigest := result.verifiedDigest } .BYTES_ARRIVED count (spent + 1) :=
      ⟨moved.id, moved.object, moved.state, moved.cancelRequested, moved.attemptCount,
        moved.generation, moved.events, moved.bound⟩
    exact leads_verifyAndCommit arrived ready few rfl isLast

/-- The attempt failed and is not the last: nothing but notes of it is kept. -/
theorem leads_useResult_failed (state : current.state = .TRANSFERRING)
    (uncancelled : current.cancelRequested = false) {result : AttemptResult}
    (failed : result.state = .FAILED) :
    Program.Leads (retrying config record failures)
      (fun later progress => exists retried, progress = .retry retried ∧
        retried.state = .TRANSFERRING ∧ retried.cancelRequested = false ∧
        later.kept = retried :: course.kept)
      course (useResult config link current result attempt false) := by
  unfold useResult
  rw [failed, if_neg (by decide), if_pos (by decide)]
  refine Program.leads_call_bind.mpr ?_
  intro counted expected
  unfold scheduleRetry
  refine Program.leads_call_bind.mpr ?_
  intro (now : Millis) ticks
  refine Program.leads_call_bind.mpr ?_
  rintro (status | saved) expected
  · cases expected
  · exact ⟨_, rfl, state, uncancelled, rfl⟩

/-- The second attempt of a movement whose first one failed ends before it has begun. -/
theorem leads_attempts_transferring (state : current.state = .TRANSFERRING)
    (uncancelled : current.cancelRequested = false) (links : MovementLinks) (left number : Nat) :
    Program.Leads (retrying config record failures)
      (fun later _ => forall final, final ∈ later.kept ->
        final ∈ course.kept ∨ final.state = .TRANSFERRING)
      course (attempts config links (left + 1) number current) := by
  unfold attempts
  rw [if_neg (Bool.eq_false_iff.mp uncancelled)]
  refine Program.leads_call_bind.mpr ?_
  intro (attempt : TransferAttemptId) _
  refine Program.leads_call_bind.mpr ?_
  intro (now : Millis) ticks
  split
  · exact fun final inside => .inl inside
  · rename_i started recorded
    have same : started.state = .TRANSFERRING :=
      (restarted_of_recordAttemptStarted recorded).state.trans state
    refine Program.leads_call_bind.mpr ?_
    rintro (status | saved) expected
    · cases expected
    · have ran := @leads_runAttempt config record started failures { course with
          attempts := attempt :: course.attempts, kept := started :: course.kept, nonce := none }
        attempt number (left == 0) links course.attempts course.kept
        (fun later progress => (exists result, progress = .returned result) ∧
          later.kept = started :: course.kept)
        (fun later progress => (exists result, progress = .returned result) ∧
          later.kept = started :: course.kept) rfl rfl
        (fun later nonce _ kept => (leads_dispatch_transferring same nonce number).mono
          fun _ _ ended => ⟨ended.1, ended.2.trans kept⟩)
        (fun _ result ended => ⟨⟨result, rfl⟩, ended.2⟩)
        (fun _ _ _ ended => nomatch ended.1)
      refine ran.bind ?_
      rintro later progress ⟨⟨result, rfl⟩, kept⟩ final inside
      rw [kept] at inside
      rcases List.mem_cons.mp inside with rfl | earlier
      · exact .inr same
      · exact .inl earlier

/-! ## The call -/

section First

variable {started : MovementRecord} {links : MovementLinks}
  (along : record.Along started .AUTHORIZED 1 1) (ready : record.Ready failures)
  (running : course.attempts = [attempt]) (kept : course.kept = [started])

include along ready running kept

/-- The first attempt is dispatched, and reports that it failed if any is to fail. -/
theorem leads_dispatch_first (nonce : Nonce) :
    Program.Leads (retrying config record failures)
      (fun later progress => exists transferring result,
        progress = .goOn (transferring, result) ∧
        record.Along transferring .TRANSFERRING 1 2 ∧ later.kept = [transferring, started] ∧
        result.state = if failures = 0 then .BYTES_ARRIVED else .FAILED)
      course (dispatch link started attempt nonce 1) := by
  refine (leads_dispatch along ready (by decide) (by rw [running]; rfl) nonce
    (by decide +kernel)).mono ?_
  rintro later progress ⟨transferring, result, rfl, moved, _, persisted, state⟩
  refine ⟨transferring, result, rfl, moved, persisted.trans (congrArg _ kept), state.trans ?_⟩
  rw [Course.verdict, running]
  by_cases smooth : failures = 0
  · rw [if_pos smooth, smooth]
    rfl
  · rw [if_neg smooth]
    exact if_pos (Nat.one_le_iff_ne_zero.mpr smooth)

theorem leads_runAttempt_arrived (smooth : failures = 0) (isLast : Bool) :
    Program.Leads (retrying config record failures)
      (fun later progress => (exists result, progress = .returned result) ∧ later.Commits 1)
      course (runAttempt config links started attempt 1 isLast) := by
  refine leads_runAttempt running kept (fun later nonce attempts persisted =>
    leads_dispatch_first along ready (attempts.trans running) (persisted.trans kept) nonce) ?_ ?_
  · rintro later result ⟨_, _, reached, _⟩
    cases reached
  · rintro later transferring result ⟨_, _, reached, moved, _, state⟩
    cases reached
    rw [if_pos smooth] at state
    refine (leads_useResult_arrived moved ready (by decide) state isLast).mono ?_
    rintro last progress ⟨returned, final, inside, committed, counted⟩
    exact ⟨returned, final, inside, committed, by rw [counted]; rfl⟩

theorem leads_runAttempt_failed (rough : failures ≠ 0) :
    Program.Leads (retrying config record failures)
      (fun later progress => exists retried, progress = .retry retried ∧
        retried.state = .TRANSFERRING ∧ retried.cancelRequested = false ∧
        forall final, final ∈ later.kept -> final.state ≠ .COMMITTED)
      course (runAttempt config links started attempt 1 false) := by
  refine leads_runAttempt running kept (fun later nonce attempts persisted =>
    leads_dispatch_first along ready (attempts.trans running) (persisted.trans kept) nonce) ?_ ?_
  · rintro later result ⟨_, _, reached, _⟩
    cases reached
  · rintro later transferring result ⟨_, _, reached, moved, persisted, state⟩
    cases reached
    rw [if_neg rough] at state
    refine (leads_useResult_failed moved.state moved.cancelRequested state).mono ?_
    rintro last progress ⟨retried, rfl, transferred, uncancelled, retriedKept⟩
    refine ⟨retried, rfl, transferred, uncancelled, ?_⟩
    intro final inside
    rw [retriedKept, persisted] at inside
    have states : final.state = .TRANSFERRING ∨ final.state = .AUTHORIZED := by
      simp only [List.mem_cons, List.not_mem_nil, or_false] at inside
      rcases inside with rfl | rfl | rfl
      · exact .inl transferred
      · exact .inl moved.state
      · exact .inr along.state
    rcases states with state | state <;> rw [state] <;> decide

end First

/-- A movement is committed by its first attempt or not at all. -/
theorem leads_attempts (ready : record.Ready failures) (fresh : course.attempts = [])
    (empty : course.kept = []) (links : MovementLinks) {left : Nat} (again : failures ≤ left) :
    Program.Leads (retrying config record failures)
      (fun later _ => later.Commits (failures + 1) ↔ failures = 0)
      course (attempts config links (left + 1) 1 record) := by
  unfold attempts
  rw [if_neg (Bool.eq_false_iff.mp ready.cancelRequested)]
  refine Program.leads_call_bind.mpr ?_
  intro (attempt : TransferAttemptId) _
  refine Program.leads_call_bind.mpr ?_
  intro (now : Millis) ticks
  rcases ready.along.attempt ready (by decide) (by decide) (positive_of_ticks ticks) attempt
    (by decide +kernel) with ⟨started, recorded, along⟩
  rw [recorded]
  refine Program.leads_call_bind.mpr ?_
  rintro (status | saved) expected
  · cases expected
  · have running : attempt :: course.attempts = [attempt] := by rw [fresh]
    have kept : started :: course.kept = [started] := by rw [empty]
    by_cases smooth : failures = 0
    · refine (leads_runAttempt_arrived along ready running kept smooth _).bind ?_
      rintro later progress ⟨⟨result, rfl⟩, commits⟩
      rw [smooth]
      exact iff_of_true commits rfl
    · rcases left with _ | left
      · exact absurd (Nat.le_zero.mp again) smooth
      · refine (leads_runAttempt_failed along ready running kept smooth).bind ?_
        rintro later progress ⟨retried, rfl, transferring, uncancelled, uncommitted⟩
        refine (leads_attempts_transferring transferring uncancelled links left 2).mono ?_
        rintro last result persisted
        refine iff_of_false ?_ smooth
        rintro ⟨final, inside, committed, _⟩
        rcases persisted final inside with earlier | state
        · exact uncommitted final earlier committed
        · rw [state] at committed
          cases committed

theorem leads_driveMovement (ready : record.Ready failures)
    (permitted : failures < config.policy.maxAttempts.toNat) :
    Program.Leads (retrying config record failures)
      (fun later _ => later.Commits (failures + 1) ↔ failures = 0)
      ({} : Course) (driveMovement config record.id) := by
  refine Program.leads_call_bind.mpr ?_
  rintro (status | found) expected
  · cases expected
  · have same : found = record := of_decide_eq_true expected
    subst same
    dsimp only
    rw [ready.state, if_neg (by decide), if_neg (Bool.eq_false_iff.mp ready.cancelRequested)]
    refine Program.leads_call_bind.mpr ?_
    rintro (status | source) expected
    · cases expected
    · refine Program.leads_call_bind.mpr ?_
      rintro (status | destination) expected
      · cases expected
      · refine Program.leads_call_bind.mpr ?_
        rintro (status | atSource) sourceLive
        · cases sourceLive
        · refine Program.leads_call_bind.mpr ?_
          rintro (status | atDestination) destinationLive
          · cases destinationLive
          · have sourceSame : atSource.incarnation.retag = found.sourceIncarnation := by
              change Course.isRegistered found found.source atSource = true at sourceLive
              simp only [Course.isRegistered, bne_self_eq_false, Bool.false_or, Bool.and_eq_true,
                beq_iff_eq] at sourceLive
              exact sourceLive.1
            have destinationSame :
                atDestination.incarnation.retag = found.destinationIncarnation := by
              change Course.isRegistered found found.destination atDestination = true at destinationLive
              simp only [Course.isRegistered, bne_self_eq_false, Bool.false_or, Bool.and_eq_true,
                beq_iff_eq] at destinationLive
              exact destinationLive.2
            dsimp only
            rw [if_neg (by simp only [sourceSame, destinationSame, ne_eq, not_true_eq_false, or_self,
              not_false_eq_true])]
            rcases many : config.policy.maxAttempts.toNat with _ | left
            · rw [many] at permitted
              cases permitted
            · rw [many] at permitted
              exact leads_attempts ready rfl rfl ⟨source, destination⟩ (Nat.le_of_lt_succ permitted)

end Walk

/-- A call whose first `failures` attempts fail at the destination, and whose next one finds
everything in order, persists the committed movement exactly when no attempt has failed. -/
theorem commits_iff_noFailure (config : CoordinatorConfig) (record : MovementRecord)
    (failures : Nat) (permitted : failures < config.policy.maxAttempts.toNat)
    (ready : record.Ready failures) (history : Program.History coordinatorSignature)
    (result : Result Unit)
    (executes : Program.Executes (driveMovement config record.id) history result)
    (expected : (retrying config record failures).meets {} history = true) :
    ((retrying config record failures).remembered {} history).Commits (failures + 1) ↔
      failures = 0 :=
  (leads_driveMovement ready permitted).done_of_executes executes expected

/-! ## A movement whose first attempt fails -/

theorem ready_oneByteMovement (failures : Nat) (few : failures ≤ 80) :
    (oneByteMovement .AUTHORIZED).Ready failures where
  state := rfl
  cancelRequested := rfl
  attemptCount := rfl
  generation := by
    change 1 + 2 * failures + 5 < 2 ^ 64
    omega
  provenance := by
    change 0 + 3 * failures + 5 ≤ 256
    omega

/-- The frame that answers the last question of a call about the one-byte movement. -/
def answerTo (failures : Nat) (course : Course) : MessageType -> Frame
  | .ATTEMPT_RESULT =>
      (AttemptResult.mk (.filled 1) ⟨3⟩ (.filled 5) (course.verdict failures) .OK [] oneByteDigest 1 1
        .zero).frame
  | .VERIFY_RESPONSE => probeAnswer [1]
  | .COMMIT_RESULT => commitConfirmed
  | _ => grantAcknowledged

/-- Surroundings in which everything works but the first attempts. -/
def working (failures : Nat) (course : Course) : (op : CoordinatorOp) -> op.Reply
  | .storeGet _ => .ok (oneByteMovement .AUTHORIZED)
  | .storePut _ => .ok ()
  | .storeList _ => []
  | .unixMillis => (1 : Millis)
  | .newMovementId => .filled 1
  | .newAttemptId => .filled 5
  | .newNonce => .filled 6
  | .findLink _ => .ok (0 : Nat)
  | .reserve _ key => .ok ⟨key, 0⟩
  | .release _ _ => ()
  | .push _ _ => .ok ()
  | .await _ future _ => .ok (answerTo failures course future.key.type)
  | .topologyFind endpoint =>
      .ok { endpoint := endpoint
            incarnation := ⟨endpoint, if endpoint = endpointA then .filled 1 else .filled 2, ⟨1⟩⟩
            live := true }
  | .topologyGeneration => ⟨1⟩
  | .inventoryFind _ => none
  | .queryCompatibility _ _ => none
  | .setCompatibilityGeneration _ => ()
  | .compatibilityGeneration => ⟨1⟩
  | .count _ => ()
  | .enqueue _ => ()

/-- The call about the one-byte movement in these surroundings. -/
def workingExecution (failures : Nat) : Program.History coordinatorSignature × Result Unit :=
  @Program.execution _ _ (retrying defaultConfig (oneByteMovement .AUTHORIZED) failures)
    (working failures) {} (driveMovement defaultConfig (oneByteMovement .AUTHORIZED).id)

theorem executes_workingExecution (failures : Nat) :
    Program.Executes (driveMovement defaultConfig (oneByteMovement .AUTHORIZED).id)
      (workingExecution failures).1 (workingExecution failures).2 := by
  unfold workingExecution
  exact Program.executes_execution _ _

/-- Without a failure the movement is committed. -/
theorem commits_iff_noFailure_smooth :
    ((retrying defaultConfig (oneByteMovement .AUTHORIZED) 0).remembered {}
      (workingExecution 0).1).Commits 1 :=
  (commits_iff_noFailure defaultConfig (oneByteMovement .AUTHORIZED) 0 (by decide)
    (ready_oneByteMovement 0 (by decide)) _ _ (executes_workingExecution 0)
    (by decide +kernel)).mpr rfl

/-- The first of three permitted attempts fails, and everything works in the second. -/
theorem not_commits_afterFailure :
    1 < defaultConfig.policy.maxAttempts.toNat ∧ (oneByteMovement .AUTHORIZED).Ready 1 ∧
      (retrying defaultConfig (oneByteMovement .AUTHORIZED) 1).meets {} (workingExecution 1).1 =
        true ∧
      Program.Executes (driveMovement defaultConfig (oneByteMovement .AUTHORIZED).id)
        (workingExecution 1).1 (workingExecution 1).2 ∧
      ¬((retrying defaultConfig (oneByteMovement .AUTHORIZED) 1).remembered {}
        (workingExecution 1).1).Commits 2 := by
  have permitted : 1 < defaultConfig.policy.maxAttempts.toNat := by decide
  have ready := ready_oneByteMovement 1 (by decide)
  have expected : (retrying defaultConfig (oneByteMovement .AUTHORIZED) 1).meets {}
      (workingExecution 1).1 = true := by
    decide +kernel
  have executes := executes_workingExecution 1
  refine ⟨permitted, ready, expected, executes, ?_⟩
  intro commits
  exact absurd (((leads_driveMovement ready permitted).done_of_executes executes expected).mp commits)
    (by decide)

end StateMovementFabric
