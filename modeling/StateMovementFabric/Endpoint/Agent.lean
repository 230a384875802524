import StateMovementFabric.Core.Policy
import StateMovementFabric.Endpoint.ObjectStore

namespace StateMovementFabric

open Wire

/-!
# The endpoint agent

An endpoint handles the control messages of its coordinator one at a time, runs the
transfers it was told to execute, and publishes objects of its own.  One step is one
message, the end of one transfer, or one publication.
-/

/-- The parts of `EndpointAgentConfig` that the handlers read. -/
structure EndpointConfig where
  endpointId : EndpointId
  sharedSecret : Bytes
  policy : MovementPolicy := {}
  maxDataSessions : UInt32 := 8
  maxConcurrentMovements : UInt32 := 4

structure GrantEntry where
  grant : TransferGrant
  consumed : Bool := false
  receivedUnixMillis : Millis
  deriving DecidableEq

/-- `cancellations` holds the flag of a movement, if there is one; `transfers` the
attempts that were started and have not ended. -/
structure EndpointAgent where
  config : EndpointConfig
  incarnation : EndpointIncarnation
  policyGeneration : PolicyGeneration
  store : ObjectStore
  grants : List (Nonce × GrantEntry)
  cancellations : MovementId -> Option Bool
  transfers : List (TransferGrant × TransferAttemptId)

/-- What one step of the agent may depend on: the file system, the clock, the random
ids and the number of data sessions in progress. -/
structure AgentEnvironment where
  io : StoreIo := {}
  now : Millis := 1
  movementId : MovementId := .zero
  activeSessions : UInt32 := 0

/-- What a handler leaves: the agent, the frames it sent, and the status it returns. -/
structure Handled where
  agent : EndpointAgent
  replies : List Frame
  status : Result Unit

namespace EndpointAgent

/-- Answer with one frame. -/
def answering (agent : EndpointAgent) (frame : Frame) (status : Result Unit) : Handled :=
  ⟨agent, [frame], status⟩

/-- Return a status without an answer. -/
def refusing (agent : EndpointAgent) (code : ReasonCode) (message : String) : Handled :=
  ⟨agent, [], refuse code message⟩

/-! ## Grants and transfers -/

def findGrant (agent : EndpointAgent) (nonce : Nonce) : Option GrantEntry :=
  agent.grants.lookup nonce

/-- `insert_or_assign`. -/
def recordGrant (agent : EndpointAgent) (entry : GrantEntry) : EndpointAgent :=
  { agent with
    grants := (agent.grants.filter fun known => known.1 != entry.grant.grantNonce) ++
      [(entry.grant.grantNonce, entry)] }

def checkGrant (agent : EndpointAgent) (grant : TransferGrant) : Result Unit := do
  grant.verifySignature agent.config.sharedSecret
  grant.validate
  refuseWhen (grant.policyGeneration != agent.policyGeneration) .STALE_POLICY_GENERATION
    "the grant was issued under a different policy generation"
  refuseWhen (grant.source != agent.config.endpointId &&
      grant.destination != agent.config.endpointId) .AUTHORITY_MISMATCH
    "the grant does not involve this endpoint"
  refuseWhen (agent.grants.length ≥ (agent.config.policy.maxMovementsInFlight * 2).toNat)
    .RESOURCE_EXHAUSTED "too many live transfer grants"

/-- `on_grant`. -/
def onGrant (agent : EndpointAgent) (environment : AgentEnvironment) (grant : TransferGrant) :
    Handled :=
  match agent.checkGrant grant with
  | .error status => ⟨agent, [], .error status⟩
  | .ok () =>
      let recorded := agent.recordGrant ⟨grant, false, environment.now⟩
      recorded.answering (GrantAck.mk grant.grantNonce.asDigest .OK (ascii "grant recorded")).frame
        (.ok ())

/-- The checks of `on_execute`: the grant that the request refers to. -/
def grantToExecute (agent : EndpointAgent) (environment : AgentEnvironment)
    (message : ExecuteMovement) : Result TransferGrant :=
  match agent.findGrant (.fromDigest message.nonce) with
  | none => refuse .AUTHORITY_MISMATCH "no grant matches that nonce"
  | some entry => do
      refuseWhen (entry.grant.destination != agent.config.endpointId) .NOT_AUTHORIZED
        "this endpoint is not the destination of the grant"
      refuseWhen (entry.grant.movementId != message.movementId ||
          entry.grant.attempt != message.attempt) .AUTHORITY_MISMATCH
        "the execute request does not match the grant"
      refuseWhen (environment.activeSessions ≥
          agent.config.maxConcurrentMovements + agent.config.maxDataSessions) .RESOURCE_EXHAUSTED
        "too many concurrent movements"
      return entry.grant

/-- `on_execute`.  A new flag takes the place of an earlier one, raised or not. -/
def onExecute (agent : EndpointAgent) (environment : AgentEnvironment)
    (message : ExecuteMovement) : Handled :=
  match agent.grantToExecute environment message with
  | .error status => ⟨agent, [], .error status⟩
  | .ok grant =>
      ⟨{ agent with
          cancellations := Function.update agent.cancellations message.movementId (some false)
          transfers := agent.transfers ++ [(grant, message.attempt)] }, [], .ok ()⟩

/-- `report_attempt_result`. -/
def attemptResult (grant : TransferGrant) (attempt : TransferAttemptId) (state : MovementState)
    (code : ReasonCode) (detail : Text) (verifiedDigest : Digest) (bytes : UInt64)
    (chunks : UInt32) : Frame :=
  (AttemptResult.mk grant.movementId grant.movementGeneration attempt state code detail
    verifiedDigest bytes chunks .zero).frame

/-- What `execute_movement_worker` reports when `run_transfer` returns an error. -/
def attemptFailed (grant : TransferGrant) (attempt : TransferAttemptId) (status : Status) : Frame :=
  attemptResult grant attempt (if status.code = .CANCELLED_BY_OPERATOR then .CANCELLED else .FAILED)
    status.code status.message .zero 0 0

/-- The end of `run_transfer`, once all bytes are staged: they are promoted only if they
hash to the authorized digest. -/
def settleTransfer (store : ObjectStore) (io : StoreIo) (grant : TransferGrant)
    (staged : Bytes) : ObjectStore × Result Unit :=
  let filled := { store with
    staging := Function.update store.staging grant.movementId
      (some ⟨some staged, ((store.staging grant.movementId).bind StagingDirectory.journal)⟩) }
  if sha256 staged ≠ grant.object.contentDigest then
    ((filled.discardStaging io grant.movementId).1,
      refuse .CONTENT_DIGEST_MISMATCH
        "the received bytes do not hash to the authorized content digest")
  else filled.promoteStaging io grant.movementId grant.object

/-- A transfer ends: `received` is what the data session came to, all bytes staged or a
failure. -/
def transferEnds (agent : EndpointAgent) (environment : AgentEnvironment) (index : Nat)
    (received : Result Bytes) : Handled :=
  match agent.transfers[index]? with
  | none => ⟨agent, [], .ok ()⟩
  | some (grant, attempt) =>
      let ended := { agent with transfers := agent.transfers.eraseIdx index }
      match received with
      | .error status => ended.answering (attemptFailed grant attempt status) (.error status)
      | .ok staged =>
          let settled := settleTransfer ended.store environment.io grant staged
          let left := { ended with store := settled.1 }
          match settled.2 with
          | .error status => left.answering (attemptFailed grant attempt status) (.error status)
          | .ok () =>
              left.answering (attemptResult grant attempt .BYTES_ARRIVED .OK
                (ascii "bytes arrived and verified locally") grant.object.contentDigest
                grant.object.totalBytes grant.object.chunkCount) (.ok ())

/-! ## The commit barrier -/

/-- The marker that `on_commit_request` writes. -/
def markerFor (agent : EndpointAgent) (environment : AgentEnvironment) (message : CommitRequest)
    (storedBytes : UInt64) : CommitMarker :=
  CommitMarker.sealed
    { movementId := message.movementId
      movementGeneration := message.movementGeneration
      object := message.object
      source := message.source
      destination := agent.config.endpointId
      destinationIncarnation := agent.incarnation.retag
      contentDigest := message.object.contentDigest
      storedBytes := storedBytes
      storedChunks := message.object.chunkCount
      committedUnixMillis := environment.now
      markerDigest := .zero }

/-- The checks of `on_commit_request`: the number of bytes that are placed. -/
def checkCommit (agent : EndpointAgent) (environment : AgentEnvironment)
    (message : CommitRequest) : Result UInt64 :=
  let version := message.object.version
  if agent.cancellations message.movementId = some true then
    refuse .MOVEMENT_CANCELLED "the movement was cancelled before the commit barrier"
  else if !agent.store.objectPresent version then
    refuse .OBJECT_NOT_FOUND "no bytes are placed for that object version"
  else
    match agent.store.digestObject environment.io version with
    | .error status => .error status
    | .ok (digest, storedBytes) => do
        refuseWhen (digest != message.object.contentDigest) .CONTENT_DIGEST_MISMATCH
          "the stored bytes no longer hash to the authorized content digest"
        refuseWhen (storedBytes != message.object.totalBytes) .BYTE_COUNT_MISMATCH
          "the stored byte count changed before commit"
        return storedBytes

/-- The `reject` of `on_commit_request`. -/
def rejectCommit (agent : EndpointAgent) (message : CommitRequest) (status : Status) : Handled :=
  agent.answering (CommitResult.mk message.movementId message.movementGeneration status.code .zero
    status.message).frame (.error status)

/-- `on_commit_request`. -/
def onCommitRequest (agent : EndpointAgent) (environment : AgentEnvironment)
    (message : CommitRequest) : Handled :=
  match agent.checkCommit environment message with
  | .error status => agent.rejectCommit message status
  | .ok storedBytes =>
      let marker := agent.markerFor environment message storedBytes
      match agent.store.writeCommitMarker environment.io marker with
      | (store, .error status) => { agent with store := store }.rejectCommit message status
      | (store, .ok ()) =>
          { agent with store := store }.answering
            (CommitResult.mk message.movementId message.movementGeneration .OK marker.markerDigest
              (ascii "commit marker written")).frame (.ok ())

/-! ## Verification and authority -/

/-- The answer of `on_verify_request` before a chunk is read. -/
def verifyAnswer (message : VerifyRequest) (code : ReasonCode) : VerifyResponse where
  movementId := message.movementId
  objectId := message.objectId
  objectGeneration := message.objectGeneration
  code := code
  storedDigest := .zero
  storedBytes := 0
  storedChunks := 0
  chunkIndex := 0
  chunkDigest := .zero
  chunkPayload := []

/-- The chunk that `on_verify_request` reads: its offset, length and bytes, and the size
of the object. -/
def readChunk (agent : EndpointAgent) (io : StoreIo) (message : VerifyRequest) :
    Result (UInt64 × UInt64 × Bytes × UInt64) :=
  let version : ObjectVersion := ⟨message.objectId, message.objectGeneration⟩
  match checkedMul message.chunkIndex.toUInt64 message.chunkBytes with
  | none => refuse .SIZE_OVERFLOW "chunk offset computation overflowed"
  | some offset => do
      let size ← agent.store.objectSize version
      if offset ≥ size then
        refuse .CHUNK_INDEX_OUT_OF_RANGE "that chunk lies beyond the stored object"
      else
        let length := min message.chunkBytes (size - offset)
        let bytes ← agent.store.readRange io version offset length message.chunkBytes
        return (offset, length, bytes, size)

/-- `on_verify_request`. -/
def verifyResponse (agent : EndpointAgent) (io : StoreIo) (message : VerifyRequest) :
    VerifyResponse :=
  let version : ObjectVersion := ⟨message.objectId, message.objectGeneration⟩
  if !agent.store.objectPresent version then verifyAnswer message .OBJECT_VERSION_NOT_FOUND
  else if message.fullDigestRequested then
    match agent.store.digestObject io version with
    | .error status => verifyAnswer message status.code
    | .ok (digest, storedBytes) =>
        { verifyAnswer message .OK with storedDigest := digest, storedBytes := storedBytes }
  else
    match agent.readChunk io message with
    | .error status => verifyAnswer message status.code
    | .ok (offset, length, bytes, size) =>
        { verifyAnswer message .OK with
          chunkIndex := message.chunkIndex
          chunkPayload := bytes
          chunkDigest := computeChunkDigest message.objectId message.objectGeneration
            message.chunkIndex offset length bytes
          storedBytes := size }

/-- `on_authority_query`: the store's view becomes the report.  The movement that the
marker names is not part of it. -/
def authorityReport (agent : EndpointAgent) (io : StoreIo) (message : AuthorityQuery) :
    AuthorityReport :=
  let authority := agent.store.authority io ⟨message.objectId, message.objectGeneration⟩
  { movementId := message.movementId
    code := authority.code
    bytesPresent := authority.bytesPresent ||
      agent.store.objectPresent ⟨message.objectId, message.objectGeneration⟩
    verified := authority.markerPresent && authority.authoritative
    markerPresent := authority.markerPresent
    authoritative := authority.authoritative
    markerDigest := authority.markerDigest
    storedBytes := authority.storedBytes
    detail := authority.detail }

/-! ## Cleanup and cancellation -/

/-- `cancellation_flag`: a data session looks its flag up, and creates one that is missing. -/
def fetchFlag (agent : EndpointAgent) (id : MovementId) : EndpointAgent :=
  { agent with
    cancellations := Function.update agent.cancellations id
      (some ((agent.cancellations id).getD false)) }

/-- `clear_cancellation`. -/
def clearCancellation (agent : EndpointAgent) (id : MovementId) : EndpointAgent :=
  { agent with cancellations := Function.update agent.cancellations id none }

/-- The worker of a transfer learns that the source refused its resume point, and clears
the flag of the movement on its way out. -/
def resumeRefused (agent : EndpointAgent) (index : Nat) : EndpointAgent :=
  match agent.transfers[index]? with
  | none => agent
  | some (grant, _) => agent.clearCancellation grant.movementId

/-- `on_cleanup_request`. -/
def onCleanupRequest (agent : EndpointAgent) (environment : AgentEnvironment)
    (message : CleanupRequest) : Handled :=
  let cleaned := agent.store.cleanup environment.io ⟨message.movementId, message.quarantine⟩
  let left := { agent with
    store := cleaned.1
    grants := agent.grants.filter fun known => known.2.grant.movementId != message.movementId
    cancellations := Function.update agent.cancellations message.movementId none }
  let result : CleanupResult :=
    match cleaned.2 with
    | .ok (bytes, entries) => ⟨message.movementId, .OK, bytes, entries, ascii "staging removed"⟩
    | .error status => ⟨message.movementId, status.code, 0, 0, status.message⟩
  left.answering result.frame (.ok ())

/-- `on_cancel`. -/
def onCancel (agent : EndpointAgent) (message : CancelRequest) : Handled :=
  { agent with
    cancellations := Function.update agent.cancellations message.movementId (some true) }.answering
      (CancelAck.mk message.movementId message.movementGeneration .OK
        (ascii "cancellation recorded")).frame (.ok ())

/-! ## Dispatch -/

/-- Decode a message and hand it to its handler. -/
def decoding {α : Type} (agent : EndpointAgent) (decode : Decode α) (frame : Frame)
    (handler : α -> Handled) : Handled :=
  match decodeMessage decode frame with
  | .error status => ⟨agent, [], .error status⟩
  | .ok message => handler message

/-- `handle_control`.  A shutdown request ends the agent and is not modelled. -/
def handleControl (agent : EndpointAgent) (environment : AgentEnvironment) (frame : Frame) :
    Handled :=
  match frame.type with
  | .GRANT_TRANSFER =>
      agent.decoding GrantTransfer.decode frame fun message =>
        agent.onGrant environment message.grant
  | .EXECUTE_MOVEMENT =>
      agent.decoding ExecuteMovement.decode frame (agent.onExecute environment)
  | .COMMIT_REQUEST =>
      agent.decoding CommitRequest.decode frame (agent.onCommitRequest environment)
  | .VERIFY_REQUEST =>
      agent.decoding VerifyRequest.decode frame fun message =>
        agent.answering (agent.verifyResponse environment.io message).frame (.ok ())
  | .AUTHORITY_QUERY =>
      agent.decoding AuthorityQuery.decode frame fun message =>
        agent.answering (agent.authorityReport environment.io message).frame (.ok ())
  | .CLEANUP_REQUEST =>
      agent.decoding CleanupRequest.decode frame (agent.onCleanupRequest environment)
  | .CANCEL => agent.decoding CancelRequest.decode frame agent.onCancel
  | .HEARTBEAT =>
      agent.answering ⟨.HEARTBEAT_ACK, domain "SMF-MSG-HEARTBEAT-ACK-v1"⟩ (.ok ())
  | .ANNOUNCE_ACK | .GRANT_ACK | .CANCEL_ACK | .SHUTDOWN_ACK | .ERROR => ⟨agent, [], .ok ()⟩
  | type =>
      agent.refusing .PROTOCOL_UNKNOWN_MESSAGE
        ("the endpoint does not accept " ++ type.name ++ " on the coordinator link")

/-- One turn of `control_reader_loop`: a status that is not a success is sent back too. -/
def handle (agent : EndpointAgent) (environment : AgentEnvironment) (frame : Frame) :
    EndpointAgent × List Frame :=
  let handled := agent.handleControl environment frame
  match handled.status with
  | .ok () => (handled.agent, handled.replies)
  | .error status =>
      (handled.agent, handled.replies ++ [(ErrorMessage.mk status.code status.message).frame])

/-- The control session ends: grants and cancellations go with it. -/
def sessionEnds (agent : EndpointAgent) : EndpointAgent :=
  { agent with grants := [], cancellations := fun _ => none }

/-! ## Publication -/

/-- What `publish_bytes` and `publish_file` are asked to publish. -/
structure Publication where
  kind : StateKind
  name : Text
  generation : StateGeneration
  contents : Bytes
  producer : Text
  repeatable : Bool

/-- The segmentation of a published object. -/
def publishedChunkBytes (policy : MovementPolicy) : UInt64 :=
  min policy.maxChunkBytes (max policy.minChunkBytes 1048576)

def localOrigin : EndpointId := ⟨ascii "local-origin", .inr (by decide +kernel)⟩

/-- The descriptor of a publication. -/
def describePublication (agent : EndpointAgent) (environment : AgentEnvironment)
    (tooLarge : String) (publication : Publication) : Result StateObjectDescriptor := do
  refuseWhen (publication.contents.length > agent.config.policy.maxObjectBytes.toNat)
    .POLICY_VIOLATION tooLarge
  let descriptor ← StateObjectDescriptor.create publication.kind publication.name
    publication.generation (sha256 publication.contents) (UInt64.ofNat publication.contents.length)
    (publishedChunkBytes agent.config.policy) environment.now publication.producer
  return { descriptor with repeatable := publication.repeatable }

/-- The marker of a local publication, under a new movement id. -/
def publicationMarker (agent : EndpointAgent) (environment : AgentEnvironment)
    (object : StateObjectDescriptor) : CommitMarker :=
  CommitMarker.sealed
    { movementId := environment.movementId
      movementGeneration := ⟨1⟩
      object := object
      source := localOrigin
      destination := agent.config.endpointId
      destinationIncarnation := agent.incarnation.retag
      contentDigest := object.contentDigest
      storedBytes := object.totalBytes
      storedChunks := object.chunkCount
      committedUnixMillis := environment.now
      markerDigest := .zero }

/-- `finalize_publication`: the bytes take their place before the marker is written. -/
def finalizePublication (agent : EndpointAgent) (environment : AgentEnvironment)
    (object : StateObjectDescriptor) (contents : Bytes) : EndpointAgent × Result Unit :=
  let placed := agent.store.place environment.io object.version contents
  if !environment.io.renamed then
    ({ agent with store := placed }, refuse .STORE_IO_ERROR "could not place the object bytes")
  else
    let written := placed.writeCommitMarker environment.io
      (agent.publicationMarker environment object)
    ({ agent with store := written.1 }, written.2)

/-- The shape of both publication paths. -/
def publish (agent : EndpointAgent) (environment : AgentEnvironment) (tooLarge : String)
    (publication : Publication) : EndpointAgent × Result Unit :=
  match agent.describePublication environment tooLarge publication with
  | .error status => (agent, .error status)
  | .ok object =>
      if !environment.io.directories then
        (agent, refuse .STORE_IO_ERROR "could not create the object directory")
      else
        match environment.io.imported with
        | .error status => (agent, .error status)
        | .ok () => agent.finalizePublication environment object publication.contents

def publishBytes (agent : EndpointAgent) (environment : AgentEnvironment)
    (publication : Publication) : EndpointAgent × Result Unit :=
  agent.publish environment "the payload exceeds the configured object bound" publication

def publishFile (agent : EndpointAgent) (environment : AgentEnvironment)
    (publication : Publication) : EndpointAgent × Result Unit :=
  agent.publish environment "the file exceeds the configured object bound" publication

end EndpointAgent

end StateMovementFabric
