import StateMovementFabric.Coordinator.Surroundings

namespace StateMovementFabric

open Wire

/-!
# The movement engine

`driveMovement` takes one authorized movement through its attempts.  The steps of an
attempt are functions of their own here, in the order of the source; each returns
how the call ends, or what the next step needs.  The record is the call's private
copy throughout.
-/

/-! ## Ending a movement -/

/-- Write the record if the transition was applied; the status of the write is not
looked at. -/
def persistWhen (applied : Bool) (record : MovementRecord) : CoordinatorProgram Unit :=
  if applied then do
    let _ ← storePut record
    return ()
  else return ()

def failKind : MovementState -> ProvenanceEventKind
  | .CANCELLED => .CANCELLED
  | .SUPERSEDED => .SUPERSEDED
  | _ => .FAILED

def failCounter : MovementState -> Counter
  | .CANCELLED => .movementsCancelled
  | .SUPERSEDED => .movementsSuperseded
  | _ => .movementsFailed

/-- The `fail` of `drive_movement`. -/
def fail (record : MovementRecord) (code : ReasonCode) (detail : Text) (state : MovementState) :
    CoordinatorProgram (Result Unit) := do
  let now ← unixMillis
  let ended := applyTransition record state (.deny code detail) (failKind state) now
  persistWhen (succeeded ended.2) ended.1
  count (failCounter state)
  return ended.2

/-- `record.provenance.append(kind, record.state, record.generation, ...)` with the
status ignored. -/
def MovementRecord.note (record : MovementRecord) (kind : ProvenanceEventKind) (code : ReasonCode)
    (now : Millis) (detail : Text) : MovementRecord :=
  let event := record.provenance.nextEvent kind record.state record.generation code now detail
  { record with provenance := (appendOrKeep record.provenance event).1 }

/-- How a step of an attempt ends: the call returns, or the attempt goes on. -/
inductive Progress (α : Type) where
  | returned (result : Result Unit)
  | goOn (value : α)

/-- Let the call return what `program` returns. -/
def returning {α : Type} (program : CoordinatorProgram (Result Unit)) :
    CoordinatorProgram (Progress α) := do
  let result ← program
  return .returned result

/-! ## Independent verification -/

/-- The `ask` of `verify_destination`. -/
def askDestination (link : LinkId) (record : MovementRecord) (full : Bool) (index : UInt32) :
    CoordinatorProgram (Result VerifyResponse) := do
  let question : VerifyRequest :=
    ⟨record.id, record.generation, record.object.objectId, record.object.generation, full, index,
      record.object.chunkBytes⟩
  match ← request link (.verifyResponse record.id index) question.frame with
  | .error status => return .error status
  | .ok answer =>
      match decodeMessage VerifyResponse.decode answer with
      | .error status => return .error status
      | .ok response =>
          if response.movementId ≠ record.id ∨ response.objectId ≠ record.object.objectId ∨
              response.objectGeneration ≠ record.object.generation then
            return refuse .STALE_ATTEMPT
              "a verification response named a different movement or object version"
          else if response.code ≠ .OK then
            return .error ⟨response.code, ascii "the destination refused a verification probe"⟩
          else return .ok response

/-- The checks on one sampled chunk. -/
def checkSample (object : StateObjectDescriptor) (index : UInt32) (answer : VerifyResponse) :
    Result Unit := do
  let offset ← object.chunkOffset index
  let length ← object.chunkLength index
  refuseWhen (answer.chunkPayload.length != length.toNat) .BYTE_COUNT_MISMATCH
    "a sampled chunk came back with the wrong length"
  refuseWhen (computeChunkDigest object.objectId object.generation index offset length
      answer.chunkPayload != answer.chunkDigest) .CHUNK_DIGEST_MISMATCH
    "a sampled chunk does not hash to the digest the destination reported"

/-- The loop over the sampled chunks. -/
def probeSamples (link : LinkId) (record : MovementRecord) :
    List UInt32 -> CoordinatorProgram (Result Unit)
  | [] => return .ok ()
  | index :: rest => do
      match ← askDestination link record false index with
      | .error status => return .error status
      | .ok answer =>
          match checkSample record.object index answer with
          | .error status => return .error status
          | .ok () =>
              count .verificationProbes
              probeSamples link record rest

/-- The checks on the full-content answer. -/
def checkFull (object : StateObjectDescriptor) (answer : VerifyResponse) : Result Unit := do
  refuseWhen (answer.storedDigest != object.contentDigest) .CONTENT_DIGEST_MISMATCH
    "the destination's own full-content digest does not match the authorized one"
  refuseWhen (answer.storedBytes != object.totalBytes) .BYTE_COUNT_MISMATCH
    "the destination reports a different stored byte count"

/-- The chunks that are read back. -/
def sampleOf (config : CoordinatorConfig) (record : MovementRecord) : List UInt32 :=
  verificationSample record.id record.object.chunkCount
    (if config.verifySampleChunks == 0 then 1 else config.verifySampleChunks)

/-- `verify_destination`. -/
def verifyDestination (config : CoordinatorConfig) (record : MovementRecord) :
    CoordinatorProgram (Result Digest) := do
  match ← findLink record.destination with
  | .error status => return .error status
  | .ok link =>
      match ← askDestination link record true 0 with
      | .error status => return .error status
      | .ok full =>
          match checkFull record.object full with
          | .error status => return .error status
          | .ok () =>
              if !config.policy.verifySampleChunks then return .ok full.storedDigest
              else
                match ← probeSamples link record (sampleOf config record) with
                | .error status => return .error status
                | .ok () => return .ok full.storedDigest

/-! ## The steps of an attempt -/

/-- The links of one movement. -/
structure MovementLinks where
  source : LinkId
  destination : LinkId

/-- The grant of one attempt, before it is signed. -/
def grantFor (record : MovementRecord) (attempt : TransferAttemptId) (nonce : Nonce)
    (now : Millis) : TransferGrant where
  movementId := record.id
  movementGeneration := record.generation
  attempt := attempt
  object := record.object
  source := record.source
  sourceIncarnation := record.sourceIncarnation
  destination := record.destination
  destinationIncarnation := record.destinationIncarnation
  policyGeneration := record.policyGeneration
  grantNonce := nonce
  maxBytes := record.object.totalBytes
  maxChunks := record.object.chunkCount
  issuedUnixMillis := now
  effectClass := if record.repeatable then .REPEATABLE else .NON_REPEATABLE
  signature := .zero

/-- Deliver the grant to each endpoint in turn. -/
def deliverGrant (links : MovementLinks) (record : MovementRecord) (grant : TransferGrant) :
    List EndpointId -> CoordinatorProgram (Progress Unit)
  | [] => return .goOn ()
  | endpoint :: rest => do
      let link := if endpoint = record.source then links.source else links.destination
      match ← request link (.grantAck grant.grantNonce.asDigest) (GrantTransfer.mk grant).frame with
      | .error status =>
          returning (fail record status.code
            (ascii "the grant could not be delivered: " ++ status.message) .FAILED)
      | .ok answer =>
          match decodeMessage GrantAck.decode answer with
          | .error status => returning (fail record status.code status.message .FAILED)
          | .ok ack =>
              if ack.code ≠ .OK then returning (fail record ack.code ack.detail .FAILED)
              else deliverGrant links record grant rest

/-- A completion that arrived: one that names another movement or attempt, which is
noted in the record, or the result of this attempt. -/
inductive Completion where
  | stale (noted : MovementRecord)
  | mine (result : AttemptResult)

/-- Wait for one completion. -/
def awaitCompletion (link : LinkId) (attempt : TransferAttemptId) (future : Future)
    (record : MovementRecord) : CoordinatorProgram (Progress Completion) := do
  match ← await link future "the attempt result" with
  | .error status =>
      returning (fail record status.code
        (ascii "the destination never reported an outcome: " ++ status.message) .OUTCOME_UNKNOWN)
  | .ok answer =>
      match decodeMessage AttemptResult.decode answer with
      | .error status => returning (fail record status.code status.message .OUTCOME_UNKNOWN)
      | .ok result =>
          if result.movementId ≠ record.id ∨ result.attempt ≠ attempt then do
            let now ← unixMillis
            return .goOn (.stale (record.note .STALE_REJECTED .STALE_ATTEMPT now
              (ascii "discarded a completion that names a different movement or attempt")))
          else return .goOn (.mine result)

/-- Wait for the result of this attempt.  Stale completions are waited past, at most
`patience` of them. -/
def awaitResult (link : LinkId) (attempt : TransferAttemptId) :
    Nat -> Future -> MovementRecord -> CoordinatorProgram (Progress (MovementRecord × AttemptResult))
  | 0, future, record => do
      match ← awaitCompletion link attempt future record with
      | .returned result => return .returned result
      | .goOn (.mine result) => return .goOn (record, result)
      | .goOn (.stale noted) =>
          returning (fail noted .STALE_ATTEMPT
            (ascii "only stale completions arrived for this attempt") .OUTCOME_UNKNOWN)
  | patience + 1, future, record => do
      match ← awaitCompletion link attempt future record with
      | .returned result => return .returned result
      | .goOn (.mine result) => return .goOn (record, result)
      | .goOn (.stale noted) =>
          match ← reserve link (.attemptResult record.id) with
          | .error status => return .returned (.error status)
          | .ok again => awaitResult link attempt patience again noted

/-- Start the transfer and wait for its result. -/
def dispatch (link : LinkId) (record : MovementRecord) (attempt : TransferAttemptId)
    (nonce : Nonce) (number : Nat) :
    CoordinatorProgram (Progress (MovementRecord × AttemptResult)) := do
  match ← reserve link (.attemptResult record.id) with
  | .error status => return .returned (.error status)
  | .ok future =>
      let execute : ExecuteMovement :=
        ⟨record.id, record.generation, attempt, nonce.asDigest, record.source⟩
      match ← push link execute.frame with
      | .error status =>
          release link (.attemptResult record.id)
          returning (fail record status.code status.message .FAILED)
      | .ok () =>
          let now ← unixMillis
          match applyTransition record .TRANSFERRING
              (.allow .OK (ascii "attempt " ++ decimal number ++ ascii " dispatched"))
              .ATTEMPT_STARTED now with
          | (_, .error status) =>
              release link (.attemptResult record.id)
              return .returned (.error status)
          | (transferring, .ok ()) =>
              match ← storePut transferring with
              | .error status => return .returned (.error status)
              | .ok () => awaitResult link attempt 3 future transferring

/-- What follows one attempt. -/
inductive AttemptEnd where
  | returned (result : Result Unit)
  | retry (record : MovementRecord)

/-- Let the call return what `program` returns. -/
def ending (program : CoordinatorProgram (Result Unit)) : CoordinatorProgram AttemptEnd := do
  let result ← program
  return .returned result

/-- The commit barrier. -/
def commitBarrier (link : LinkId) (record : MovementRecord) (attempt : TransferAttemptId) :
    CoordinatorProgram (Result Unit) := do
  let commit : CommitRequest :=
    ⟨record.id, record.generation, attempt, record.object, record.source⟩
  match ← request link (.commitResult record.id) commit.frame with
  | .error status =>
      -- the commit may or may not have happened
      fail record status.code
        (ascii "the commit barrier was requested but not answered: " ++ status.message ++
          ascii "; reconcile before retrying") .OUTCOME_UNKNOWN
  | .ok answer =>
      match decodeMessage CommitResult.decode answer with
      | .error status => fail record status.code status.message .OUTCOME_UNKNOWN
      | .ok committed =>
          if committed.movementId ≠ record.id ∨
              committed.movementGeneration ≠ record.generation then
            fail record .STALE_MOVEMENT_GENERATION
              (ascii "the commit result answered a different movement generation")
              .OUTCOME_UNKNOWN
          else if committed.code ≠ .OK then
            fail record committed.code committed.detail .FAILED
          else do
            let now ← unixMillis
            match applyTransition record .COMMITTED
                (.allow .OK (ascii "the destination wrote and confirmed its commit marker"))
                .COMMITTED now with
            | (_, .error status) => return .error status
            | (final, .ok ()) =>
                match ← storePut { final with commitMarkerDigest := committed.markerDigest } with
                | .error status => return .error status
                | .ok () =>
                    count .movementsCommitted
                    return .ok ()

/-- The attempt failed and another one is permitted. -/
def scheduleRetry (record : MovementRecord) (code : ReasonCode) (detail : Text) :
    CoordinatorProgram MovementRecord := do
  let now ← unixMillis
  let noted := record.note .RETRY_SCHEDULED code now detail
  let _ ← storePut noted
  return noted

/-- The bytes have arrived: verify them and cross the commit barrier. -/
def verifyAndCommit (config : CoordinatorConfig) (link : LinkId) (record : MovementRecord)
    (attempt : TransferAttemptId) (isLast : Bool) : CoordinatorProgram AttemptEnd := do
  match ← verifyDestination config record with
  | .error status =>
      if isLast then
        ending (fail record status.code
          (ascii "independent verification failed on the last permitted attempt: " ++
            status.message) .FAILED)
      else do
        let noted ← scheduleRetry record status.code
          (ascii "independent verification refused the bytes: " ++ status.message)
        count .attemptsFailed
        return .retry noted
  | .ok digest =>
      let now ← unixMillis
      match applyTransition record .VERIFIED
          (.allow .OK (ascii ("the coordinator re-hashed stored bytes and they match the " ++
            "authorized content digest"))) .VERIFIED now with
      | (_, .error status) => return .returned (.error status)
      | (changed, .ok ()) =>
          let verified := { changed with sourceVerifiedDigest := digest }
          match ← storePut verified with
          | .error status => return .returned (.error status)
          | .ok () =>
              if verified.cancelRequested then
                ending (fail verified .CANCELLED_BY_OPERATOR
                  (ascii "cancelled at the commit barrier") .CANCELLED)
              else ending (commitBarrier link verified attempt)

/-- What the result of the attempt leads to. -/
def useResult (config : CoordinatorConfig) (link : LinkId) (record : MovementRecord)
    (result : AttemptResult) (attempt : TransferAttemptId) (isLast : Bool) :
    CoordinatorProgram AttemptEnd :=
  if result.state = .CANCELLED then ending (fail record result.code result.detail .CANCELLED)
  else if result.state ≠ .BYTES_ARRIVED then
    let reported := { record with lastReason := result.code, lastDetail := result.detail }
    if isLast then
      ending (fail reported result.code
        (ascii "the last permitted attempt failed: " ++ result.detail) .FAILED)
    else do
      count .attemptsFailed
      let noted ← scheduleRetry reported result.code (ascii "retrying after: " ++ result.detail)
      return .retry noted
  else do
    let now ← unixMillis
    match applyTransition record .BYTES_ARRIVED
        (.allow .OK (ascii "the destination reports verified bytes (not authority)"))
        .BYTES_ARRIVED now with
    | (_, .error status) => return .returned (.error status)
    | (changed, .ok ()) =>
        let arrived := { changed with
          bytesTransferred := result.bytes
          chunksVerified := result.chunks
          destinationVerifiedDigest := result.verifiedDigest }
        match ← storePut arrived with
        | .error status => return .returned (.error status)
        | .ok () => verifyAndCommit config link arrived attempt isLast

/-- One attempt after it has been recorded. -/
def runAttempt (config : CoordinatorConfig) (links : MovementLinks) (record : MovementRecord)
    (attempt : TransferAttemptId) (number : Nat) (isLast : Bool) :
    CoordinatorProgram AttemptEnd := do
  let nonce ← newNonce
  let now ← unixMillis
  match (grantFor record attempt nonce now).sign config.sharedSecret with
  | .error status => return .returned (.error status)
  | .ok grant =>
      match ← deliverGrant links record grant [record.source, record.destination] with
      | .returned result => return .returned result
      | .goOn () =>
          match ← dispatch links.destination record attempt nonce number with
          | .returned result => return .returned result
          | .goOn (transferring, result) =>
              useResult config links.destination transferring result attempt isLast

/-- The loop over the permitted attempts, with the number of attempts left and the
number of this one. -/
def attempts (config : CoordinatorConfig) (links : MovementLinks) :
    Nat -> Nat -> MovementRecord -> CoordinatorProgram (Result Unit)
  | 0, _, record => fail record .ATTEMPT_EXHAUSTED (ascii "no attempts remain") .FAILED
  | left + 1, number, record =>
      if record.cancelRequested then
        fail record .CANCELLED_BY_OPERATOR (ascii "cancelled between attempts") .CANCELLED
      else do
        let attempt ← newAttemptId
        let now ← unixMillis
        match recordAttemptStarted record attempt now with
        | (_, .error status) => return .error status
        | (started, .ok ()) =>
            match ← storePut started with
            | .error status => return .error status
            | .ok () =>
                match ← runAttempt config links started attempt number (left == 0) with
                | .returned result => return result
                | .retry retried => attempts config links left (number + 1) retried

/-! ## The call -/

/-- The incarnations of the authorization must still be the live ones. -/
def revalidate (config : CoordinatorConfig) (links : MovementLinks) (record : MovementRecord) :
    CoordinatorProgram (Result Unit) := do
  let currentSource ← topologyFind record.source
  let currentDestination ← topologyFind record.destination
  match currentSource, currentDestination with
  | .ok source, .ok destination =>
      if source.incarnation.retag ≠ record.sourceIncarnation ∨
          destination.incarnation.retag ≠ record.destinationIncarnation then
        fail record .STALE_INCARNATION
          (ascii "an endpoint restarted after the movement was authorized") .SUPERSEDED
      else attempts config links config.policy.maxAttempts.toNat 1 record
  | _, _ => fail record .STALE_INCARNATION (ascii "an endpoint left the topology") .FAILED

/-- `drive_movement`. -/
def driveMovement (config : CoordinatorConfig) (id : MovementId) :
    CoordinatorProgram (Result Unit) := do
  match ← storeGet id with
  | .error status => return .error status
  | .ok record =>
      if isTerminal record.state ∨ record.state = .OUTCOME_UNKNOWN then return .ok ()
      else if record.cancelRequested then
        fail record .CANCELLED_BY_OPERATOR (ascii "cancelled before the transfer started")
          .CANCELLED
      else
        match ← findLink record.source with
        | .error status => fail record .ENDPOINT_NOT_LIVE status.message .FAILED
        | .ok source =>
            match ← findLink record.destination with
            | .error status => fail record .ENDPOINT_NOT_LIVE status.message .FAILED
            | .ok destination => revalidate config ⟨source, destination⟩ record

end StateMovementFabric
