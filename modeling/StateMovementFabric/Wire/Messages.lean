import StateMovementFabric.Wire.Frame

namespace StateMovementFabric

open Wire CanonicalDecoder CanonicalEncoder

/-!
# Control messages

The messages that the coordinator and the endpoints exchange about one movement.
Each has a check, a list of encoded fields and a reader of the same fields; a
reader ends with the check.
-/

namespace Wire

/-- The shape of every `decode`: domain string, fields, check. -/
def readMessage {α : Type} (domainName : String) (fields : Decode α) (validate : α -> Result Unit) :
    Decode α := do
  checkDomain domainName
  let message ← fields
  check (validate message)
  return message

end Wire

/-! ## Grants -/

inductive EffectClass where
  | REPEATABLE | NON_REPEATABLE
  deriving DecidableEq, Repr

namespace EffectClass

def toUInt8 : EffectClass -> UInt8
  | REPEATABLE => 0
  | NON_REPEATABLE => 1

def read : Decode EffectClass := do
  let raw ← u8
  if raw == 0 then return REPEATABLE
  else if raw == 1 then return NON_REPEATABLE
  else fail .PROTOCOL_CANONICAL_VIOLATION "effect class is not recognized"

end EffectClass

structure TransferGrant where
  movementId : MovementId
  movementGeneration : MovementGeneration
  attempt : TransferAttemptId
  object : StateObjectDescriptor
  source : EndpointId
  sourceIncarnation : SourceIncarnation
  destination : EndpointId
  destinationIncarnation : DestinationIncarnation
  policyGeneration : PolicyGeneration
  grantNonce : Nonce
  maxBytes : UInt64
  maxChunks : UInt32
  issuedUnixMillis : Millis
  effectClass : EffectClass
  signature : Digest
  deriving DecidableEq

namespace TransferGrant

def validate (grant : TransferGrant) : Result Unit := do
  refuseWhen grant.movementId.isZero .INVALID_ID "transfer grant requires a movement id"
  requireGeneration grant.movementGeneration "movement generation"
  refuseWhen grant.attempt.isZero .INVALID_ID "transfer grant requires a transfer attempt id"
  grant.object.validate
  requireEndpoint grant.source "grant source"
  requireEndpoint grant.destination "grant destination"
  refuseWhen (grant.source == grant.destination) .SELF_MOVEMENT
    "a transfer grant must move bytes between two endpoints"
  requireIncarnation grant.sourceIncarnation grant.source "source incarnation"
  requireIncarnation grant.destinationIncarnation grant.destination "destination incarnation"
  requireGeneration grant.policyGeneration "policy generation"
  refuseWhen grant.grantNonce.isZero .INVALID_ID "transfer grant requires a nonce"
  refuseWhen (grant.maxBytes == 0) .INVALID_SIZE "transfer grant requires a non-zero byte budget"
  refuseWhen (grant.maxChunks == 0) .INVALID_SIZE
    "transfer grant requires a non-zero chunk budget"
  refuseWhen (grant.issuedUnixMillis ≤ 0) .INVALID_ARGUMENT
    "transfer grant requires an issue timestamp"
  refuseWhen grant.signature.isZero .INVALID_DIGEST "transfer grant is not signed"

def encodeUnsigned (grant : TransferGrant) : Bytes :=
  [grant.movementId.encode, u64 grant.movementGeneration.value,
    grant.attempt.encode, grant.object.encode, text grant.source.value,
    MovementRecord.encodeIncarnation grant.sourceIncarnation,
    text grant.destination.value,
    MovementRecord.encodeIncarnation grant.destinationIncarnation,
    u64 grant.policyGeneration.value, grant.grantNonce.encode,
    u64 grant.maxBytes, u32 grant.maxChunks,
    i64 grant.issuedUnixMillis,
    u8 grant.effectClass.toUInt8].flatten

def encode (grant : TransferGrant) : Bytes :=
  [grant.encodeUnsigned, digest grant.signature].flatten

def decode : Decode TransferGrant := do
  let movementId ← FixedId.decode
  let movementGeneration ← readGeneration
  let attempt ← FixedId.decode
  let object ← StateObjectDescriptor.decode
  let source ← readEndpoint
  let sourceIncarnation ← readIncarnation
  let destination ← readEndpoint
  let destinationIncarnation ← readIncarnation
  let policyGeneration ← readGeneration
  let grantNonce ← FixedId.decode
  let maxBytes ← u64
  let maxChunks ← u32
  let issuedUnixMillis ← i64
  let effectClass ← EffectClass.read
  let signature ← digest
  let grant : TransferGrant :=
    ⟨movementId, movementGeneration, attempt, object, source, sourceIncarnation, destination,
      destinationIncarnation, policyGeneration, grantNonce, maxBytes, maxChunks, issuedUnixMillis,
      effectClass, signature⟩
  check grant.validate
  return grant

/-- `compute_signature`. -/
def computeSignature (grant : TransferGrant) (key : Bytes) : Digest :=
  canonicalMac key [domain "SMF-TRANSFER-GRANT-v1", grant.encodeUnsigned].flatten

/-- `sign`: the signed grant, if it passes its check. -/
def sign (grant : TransferGrant) (key : Bytes) : Result TransferGrant := do
  let signed := { grant with signature := grant.computeSignature key }
  signed.validate
  return signed

/-- `verify_signature`. -/
def verifySignature (grant : TransferGrant) (key : Bytes) : Result Unit := do
  grant.validate
  refuseWhen (grant.computeSignature key != grant.signature) .PROTOCOL_AUTH_FAILED
    "transfer grant signature did not verify"

end TransferGrant

structure GrantTransfer where
  grant : TransferGrant
  deriving DecidableEq

namespace GrantTransfer

def encode (message : GrantTransfer) : Bytes :=
  [domain "SMF-MSG-GRANT-TRANSFER-v1", message.grant.encode].flatten

def decode : Decode GrantTransfer :=
  readMessage "SMF-MSG-GRANT-TRANSFER-v1" (do return ⟨← TransferGrant.decode⟩)
    (fun message => message.grant.validate)

def frame (message : GrantTransfer) : Frame := ⟨.GRANT_TRANSFER, message.encode⟩

end GrantTransfer

structure GrantAck where
  nonce : Digest
  code : ReasonCode
  detail : Text
  deriving DecidableEq

namespace GrantAck

def validate (message : GrantAck) : Result Unit := do
  requireDigest message.nonce "grant nonce"
  requireBound message.detail kMaxDetailBytes "detail"

def encode (message : GrantAck) : Bytes :=
  [domain "SMF-MSG-GRANT-ACK-v1", digest message.nonce,
    writeReason message.code, text message.detail].flatten

def decode : Decode GrantAck :=
  readMessage "SMF-MSG-GRANT-ACK-v1"
    (do return ⟨← digest, ← readReason, ← readDetail⟩) validate

def frame (message : GrantAck) : Frame := ⟨.GRANT_ACK, message.encode⟩

end GrantAck

/-! ## One attempt -/

structure ExecuteMovement where
  movementId : MovementId
  movementGeneration : MovementGeneration
  attempt : TransferAttemptId
  nonce : Digest
  source : EndpointId
  deriving DecidableEq

namespace ExecuteMovement

def validate (message : ExecuteMovement) : Result Unit := do
  refuseWhen message.movementId.isZero .INVALID_ID "execute movement requires a movement id"
  requireGeneration message.movementGeneration "movement generation"
  refuseWhen message.attempt.isZero .INVALID_ID
    "execute movement requires a transfer attempt id"
  requireDigest message.nonce "execute movement nonce"
  requireEndpoint message.source "execute movement source"

def encode (message : ExecuteMovement) : Bytes :=
  [domain "SMF-MSG-EXECUTE-MOVEMENT-v1", message.movementId.encode,
    u64 message.movementGeneration.value, message.attempt.encode,
    digest message.nonce, text message.source.value].flatten

def decode : Decode ExecuteMovement :=
  readMessage "SMF-MSG-EXECUTE-MOVEMENT-v1"
    (do return ⟨← FixedId.decode, ← readGeneration, ← FixedId.decode, ← digest,
      ← readEndpoint⟩) validate

def frame (message : ExecuteMovement) : Frame := ⟨.EXECUTE_MOVEMENT, message.encode⟩

end ExecuteMovement

structure AttemptResult where
  movementId : MovementId
  movementGeneration : MovementGeneration
  attempt : TransferAttemptId
  state : MovementState
  code : ReasonCode
  detail : Text
  verifiedDigest : Digest
  bytes : UInt64
  chunks : UInt32
  markerDigest : Digest
  deriving DecidableEq

namespace AttemptResult

def validate (message : AttemptResult) : Result Unit := do
  refuseWhen message.movementId.isZero .INVALID_ID "attempt result requires a movement id"
  requireGeneration message.movementGeneration "movement generation"
  refuseWhen message.attempt.isZero .INVALID_ID "attempt result requires a transfer attempt id"
  requireBound message.detail kMaxDetailBytes "detail"

def encode (message : AttemptResult) : Bytes :=
  [domain "SMF-MSG-ATTEMPT-RESULT-v1", message.movementId.encode,
    u64 message.movementGeneration.value, message.attempt.encode,
    u8 message.state.toUInt8, writeReason message.code,
    text message.detail, digest message.verifiedDigest,
    u64 message.bytes, u32 message.chunks,
    digest message.markerDigest].flatten

def decode : Decode AttemptResult :=
  readMessage "SMF-MSG-ATTEMPT-RESULT-v1"
    (do return ⟨← FixedId.decode, ← readGeneration, ← FixedId.decode, ← readMovementState,
      ← readReason, ← readDetail, ← digest, ← u64,
      ← u32, ← digest⟩) validate

def frame (message : AttemptResult) : Frame := ⟨.ATTEMPT_RESULT, message.encode⟩

end AttemptResult

structure CancelRequest where
  movementId : MovementId
  movementGeneration : MovementGeneration
  deriving DecidableEq

namespace CancelRequest

def validate (message : CancelRequest) : Result Unit := do
  refuseWhen message.movementId.isZero .INVALID_ID "cancel request requires a movement id"
  requireGeneration message.movementGeneration "movement generation"

def encode (message : CancelRequest) : Bytes :=
  [domain "SMF-MSG-CANCEL-REQUEST-v1", message.movementId.encode,
    u64 message.movementGeneration.value].flatten

def decode : Decode CancelRequest :=
  readMessage "SMF-MSG-CANCEL-REQUEST-v1" (do return ⟨← FixedId.decode, ← readGeneration⟩) validate

def frame (message : CancelRequest) : Frame := ⟨.CANCEL, message.encode⟩

end CancelRequest

structure CancelAck where
  movementId : MovementId
  movementGeneration : MovementGeneration
  code : ReasonCode
  detail : Text
  deriving DecidableEq

namespace CancelAck

def validate (message : CancelAck) : Result Unit := do
  refuseWhen message.movementId.isZero .INVALID_ID "cancel ack requires a movement id"
  requireGeneration message.movementGeneration "movement generation"
  requireBound message.detail kMaxDetailBytes "detail"

def encode (message : CancelAck) : Bytes :=
  [domain "SMF-MSG-CANCEL-ACK-v1", message.movementId.encode,
    u64 message.movementGeneration.value, writeReason message.code,
    text message.detail].flatten

def decode : Decode CancelAck :=
  readMessage "SMF-MSG-CANCEL-ACK-v1"
    (do return ⟨← FixedId.decode, ← readGeneration, ← readReason, ← readDetail⟩) validate

def frame (message : CancelAck) : Frame := ⟨.CANCEL_ACK, message.encode⟩

end CancelAck

/-! ## Commit and verification -/

structure CommitRequest where
  movementId : MovementId
  movementGeneration : MovementGeneration
  attempt : TransferAttemptId
  object : StateObjectDescriptor
  source : EndpointId
  deriving DecidableEq

namespace CommitRequest

def validate (message : CommitRequest) : Result Unit := do
  refuseWhen message.movementId.isZero .INVALID_ID "commit request requires a movement id"
  requireGeneration message.movementGeneration "movement generation"
  refuseWhen message.attempt.isZero .INVALID_ID "commit request requires a transfer attempt id"
  message.object.validate

def encode (message : CommitRequest) : Bytes :=
  [domain "SMF-MSG-COMMIT-REQUEST-v1", message.movementId.encode,
    u64 message.movementGeneration.value, message.attempt.encode,
    message.object.encode, text message.source.value].flatten

/-- The source is optional here. -/
def decode : Decode CommitRequest :=
  readMessage "SMF-MSG-COMMIT-REQUEST-v1"
    (do
      let movementId ← FixedId.decode
      let movementGeneration ← readGeneration
      let attempt ← FixedId.decode
      let object ← StateObjectDescriptor.decode
      let name ← text kMaxEndpointIdBytes
      let source ← check (ProvenanceEvent.decodeActor name)
      return ⟨movementId, movementGeneration, attempt, object, source⟩) validate

def frame (message : CommitRequest) : Frame := ⟨.COMMIT_REQUEST, message.encode⟩

end CommitRequest

structure CommitResult where
  movementId : MovementId
  movementGeneration : MovementGeneration
  code : ReasonCode
  markerDigest : Digest
  detail : Text
  deriving DecidableEq

namespace CommitResult

def validate (message : CommitResult) : Result Unit := do
  refuseWhen message.movementId.isZero .INVALID_ID "commit result requires a movement id"
  requireGeneration message.movementGeneration "movement generation"
  requireBound message.detail kMaxDetailBytes "detail"

def encode (message : CommitResult) : Bytes :=
  [domain "SMF-MSG-COMMIT-RESULT-v1", message.movementId.encode,
    u64 message.movementGeneration.value, writeReason message.code,
    digest message.markerDigest, text message.detail].flatten

def decode : Decode CommitResult :=
  readMessage "SMF-MSG-COMMIT-RESULT-v1"
    (do return ⟨← FixedId.decode, ← readGeneration, ← readReason, ← digest,
      ← readDetail⟩) validate

def frame (message : CommitResult) : Frame := ⟨.COMMIT_RESULT, message.encode⟩

end CommitResult

structure VerifyRequest where
  movementId : MovementId
  movementGeneration : MovementGeneration
  objectId : StateObjectId
  objectGeneration : StateGeneration
  fullDigestRequested : Bool
  chunkIndex : UInt32
  chunkBytes : UInt64
  deriving DecidableEq

namespace VerifyRequest

def validate (message : VerifyRequest) : Result Unit := do
  refuseWhen message.movementId.isZero .INVALID_ID "verify request requires a movement id"
  requireGeneration message.movementGeneration "movement generation"
  refuseWhen message.objectId.isZero .INVALID_ID "verify request requires a state object id"
  requireGeneration message.objectGeneration "state object generation"

def encode (message : VerifyRequest) : Bytes :=
  [domain "SMF-MSG-VERIFY-REQUEST-v1", message.movementId.encode,
    u64 message.movementGeneration.value, message.objectId.encode,
    u64 message.objectGeneration.value,
    boolean message.fullDigestRequested,
    u32 message.chunkIndex, u64 message.chunkBytes].flatten

def decode : Decode VerifyRequest :=
  readMessage "SMF-MSG-VERIFY-REQUEST-v1"
    (do return ⟨← FixedId.decode, ← readGeneration, ← FixedId.decode, ← readGeneration,
      ← boolean, ← u32, ← u64⟩) validate

def frame (message : VerifyRequest) : Frame := ⟨.VERIFY_REQUEST, message.encode⟩

end VerifyRequest

structure VerifyResponse where
  movementId : MovementId
  objectId : StateObjectId
  objectGeneration : StateGeneration
  code : ReasonCode
  storedDigest : Digest
  storedBytes : UInt64
  storedChunks : UInt32
  chunkIndex : UInt32
  chunkDigest : Digest
  chunkPayload : Bytes
  deriving DecidableEq

namespace VerifyResponse

def validate (message : VerifyResponse) : Result Unit := do
  refuseWhen message.movementId.isZero .INVALID_ID "verify response requires a movement id"
  refuseWhen message.objectId.isZero .INVALID_ID "verify response requires a state object id"
  requireGeneration message.objectGeneration "state object generation"
  refuseWhen (message.chunkPayload.length > kMaxWireChunkBytes) .INVALID_SIZE
    "verify response payload exceeds the chunk bound"

def encode (message : VerifyResponse) : Bytes :=
  [domain "SMF-MSG-VERIFY-RESPONSE-v1", message.movementId.encode, message.objectId.encode,
    u64 message.objectGeneration.value, writeReason message.code,
    digest message.storedDigest, u64 message.storedBytes,
    u32 message.storedChunks, u32 message.chunkIndex,
    digest message.chunkDigest,
    blob message.chunkPayload].flatten

def decode : Decode VerifyResponse :=
  readMessage "SMF-MSG-VERIFY-RESPONSE-v1"
    (do return ⟨← FixedId.decode, ← FixedId.decode, ← readGeneration, ← readReason,
      ← digest, ← u64, ← u32,
      ← u32, ← digest,
      ← blob kMaxWireChunkBytes⟩) validate

def frame (message : VerifyResponse) : Frame := ⟨.VERIFY_RESPONSE, message.encode⟩

end VerifyResponse

/-! ## Authority and cleanup -/

structure AuthorityQuery where
  movementId : MovementId
  objectId : StateObjectId
  objectGeneration : StateGeneration
  deriving DecidableEq

namespace AuthorityQuery

def validate (message : AuthorityQuery) : Result Unit := do
  refuseWhen message.movementId.isZero .INVALID_ID "authority query requires a movement id"
  refuseWhen message.objectId.isZero .INVALID_ID "authority query requires a state object id"
  requireGeneration message.objectGeneration "state object generation"

def encode (message : AuthorityQuery) : Bytes :=
  [domain "SMF-MSG-AUTHORITY-QUERY-v1", message.movementId.encode, message.objectId.encode,
    u64 message.objectGeneration.value].flatten

def decode : Decode AuthorityQuery :=
  readMessage "SMF-MSG-AUTHORITY-QUERY-v1"
    (do return ⟨← FixedId.decode, ← FixedId.decode, ← readGeneration⟩) validate

def frame (message : AuthorityQuery) : Frame := ⟨.AUTHORITY_QUERY, message.encode⟩

end AuthorityQuery

structure AuthorityReport where
  movementId : MovementId
  code : ReasonCode
  bytesPresent : Bool
  verified : Bool
  markerPresent : Bool
  authoritative : Bool
  markerDigest : Digest
  storedBytes : UInt64
  detail : Text
  deriving DecidableEq

namespace AuthorityReport

def validate (message : AuthorityReport) : Result Unit := do
  refuseWhen message.movementId.isZero .INVALID_ID "authority report requires a movement id"
  requireBound message.detail kMaxDetailBytes "detail"

def encode (message : AuthorityReport) : Bytes :=
  [domain "SMF-MSG-AUTHORITY-REPORT-v1", message.movementId.encode, writeReason message.code,
    boolean message.bytesPresent, boolean message.verified,
    boolean message.markerPresent,
    boolean message.authoritative,
    digest message.markerDigest, u64 message.storedBytes,
    text message.detail].flatten

def decode : Decode AuthorityReport :=
  readMessage "SMF-MSG-AUTHORITY-REPORT-v1"
    (do return ⟨← FixedId.decode, ← readReason, ← boolean,
      ← boolean, ← boolean, ← boolean,
      ← digest, ← u64, ← readDetail⟩) validate

def frame (message : AuthorityReport) : Frame := ⟨.AUTHORITY_REPORT, message.encode⟩

end AuthorityReport

structure CleanupRequest where
  movementId : MovementId
  quarantine : Bool
  deriving DecidableEq

namespace CleanupRequest

def validate (message : CleanupRequest) : Result Unit :=
  refuseWhen message.movementId.isZero .INVALID_ID "cleanup request requires a movement id"

def encode (message : CleanupRequest) : Bytes :=
  [domain "SMF-MSG-CLEANUP-REQUEST-v1", message.movementId.encode,
    boolean message.quarantine].flatten

def decode : Decode CleanupRequest :=
  readMessage "SMF-MSG-CLEANUP-REQUEST-v1"
    (do return ⟨← FixedId.decode, ← boolean⟩) validate

end CleanupRequest

structure CleanupResult where
  movementId : MovementId
  code : ReasonCode
  bytesRemoved : UInt64
  entriesRemoved : UInt32
  detail : Text
  deriving DecidableEq

namespace CleanupResult

def validate (message : CleanupResult) : Result Unit := do
  refuseWhen message.movementId.isZero .INVALID_ID "cleanup result requires a movement id"
  requireBound message.detail kMaxDetailBytes "detail"

def encode (message : CleanupResult) : Bytes :=
  [domain "SMF-MSG-CLEANUP-RESULT-v1", message.movementId.encode, writeReason message.code,
    u64 message.bytesRemoved, u32 message.entriesRemoved,
    text message.detail].flatten

def decode : Decode CleanupResult :=
  readMessage "SMF-MSG-CLEANUP-RESULT-v1"
    (do return ⟨← FixedId.decode, ← readReason, ← u64, ← u32,
      ← readDetail⟩) validate

def frame (message : CleanupResult) : Frame := ⟨.CLEANUP_RESULT, message.encode⟩

end CleanupResult

/-! ## Errors -/

structure ErrorMessage where
  code : ReasonCode
  detail : Text
  deriving DecidableEq

namespace ErrorMessage

def validate (message : ErrorMessage) : Result Unit :=
  requireBound message.detail kMaxDetailBytes "detail"

def encode (message : ErrorMessage) : Bytes :=
  [domain "SMF-MSG-ERROR-MESSAGE-v1", writeReason message.code, text message.detail].flatten

def decode : Decode ErrorMessage :=
  readMessage "SMF-MSG-ERROR-MESSAGE-v1" (do return ⟨← readReason, ← readDetail⟩) validate

def frame (message : ErrorMessage) : Frame := ⟨.ERROR, message.encode⟩

end ErrorMessage

/-! ## Submission -/

structure SubmitMovement where
  objectId : StateObjectId
  objectGeneration : StateGeneration
  source : EndpointId
  destination : EndpointId
  deriving DecidableEq

namespace SubmitMovement

def validate (message : SubmitMovement) : Result Unit := do
  refuseWhen message.objectId.isZero .INVALID_ID "submit movement requires a state object id"
  requireGeneration message.objectGeneration "state object generation"
  requireEndpoint message.source "submit movement source"
  requireEndpoint message.destination "submit movement destination"
  refuseWhen (message.source == message.destination) .SELF_MOVEMENT
    "source and destination endpoints are the same"

end SubmitMovement

structure MovementAccepted where
  movementId : MovementId
  state : MovementState
  code : ReasonCode
  detail : Text
  deriving DecidableEq

/-! ## Routing -/

/-- The key under which a reply is matched with its waiter: the message type, the
identity it answers for, and for a verification reply the chunk. -/
structure PendingKey where
  type : MessageType
  subject : Bytes
  index : Option UInt32
  deriving DecidableEq

namespace PendingKey

def grantAck (nonce : Digest) : PendingKey := ⟨.GRANT_ACK, nonce.bytes, none⟩
def attemptResult (id : MovementId) : PendingKey := ⟨.ATTEMPT_RESULT, id.bytes, none⟩
def commitResult (id : MovementId) : PendingKey := ⟨.COMMIT_RESULT, id.bytes, none⟩
def verifyResponse (id : MovementId) (index : UInt32) : PendingKey :=
  ⟨.VERIFY_RESPONSE, id.bytes, some index⟩
def authorityReport (id : MovementId) : PendingKey := ⟨.AUTHORITY_REPORT, id.bytes, none⟩
def cleanupResult (id : MovementId) : PendingKey := ⟨.CLEANUP_RESULT, id.bytes, none⟩
def cancelAck (id : MovementId) : PendingKey := ⟨.CANCEL_ACK, id.bytes, none⟩

end PendingKey

/-- The key of a decoded message, if the payload decodes. -/
def keyOf {α : Type} (decode : Decode α) (key : α -> PendingKey) (frame : Frame) :
    Option PendingKey :=
  match decodeMessage decode frame with
  | .ok message => some (key message)
  | .error _ => none

/-- The key that `deliver` computes for a frame, if it is one that can be waited for. -/
def pendingKey (frame : Frame) : Option PendingKey :=
  match frame.type with
  | .GRANT_ACK => keyOf GrantAck.decode (fun message => .grantAck message.nonce) frame
  | .ATTEMPT_RESULT =>
      keyOf AttemptResult.decode (fun message => .attemptResult message.movementId) frame
  | .COMMIT_RESULT =>
      keyOf CommitResult.decode (fun message => .commitResult message.movementId) frame
  | .VERIFY_RESPONSE =>
      keyOf VerifyResponse.decode
        (fun message => .verifyResponse message.movementId message.chunkIndex) frame
  | .AUTHORITY_REPORT =>
      keyOf AuthorityReport.decode (fun message => .authorityReport message.movementId) frame
  | .CLEANUP_RESULT =>
      keyOf CleanupResult.decode (fun message => .cleanupResult message.movementId) frame
  | .CANCEL_ACK => keyOf CancelAck.decode (fun message => .cancelAck message.movementId) frame
  | .TOPOLOGY_REPORT => some ⟨.TOPOLOGY_REPORT, [], none⟩
  | .POLICY_REPORT => some ⟨.POLICY_REPORT, [], none⟩
  | .HEARTBEAT_ACK => some ⟨.HEARTBEAT_ACK, [], none⟩
  | _ => none

theorem keyOf_eq_some {α : Type} {decode : Decode α} {key : α -> PendingKey} {frame : Frame}
    {found : PendingKey} (keyed : keyOf decode key frame = some found) :
    exists message, decodeMessage decode frame = .ok message ∧ key message = found := by
  unfold keyOf at keyed
  cases decoded : decodeMessage decode frame with
  | error status =>
      rw [decoded] at keyed
      cases keyed
  | ok message =>
      rw [decoded] at keyed
      exact ⟨message, rfl, Option.some.inj keyed⟩

/-- A frame is matched with a waiter for its own type only. -/
theorem type_of_pendingKey {frame : Frame} {key : PendingKey}
    (keyed : pendingKey frame = some key) : key.type = frame.type := by
  unfold pendingKey at keyed
  split at keyed
  all_goals first
    | (rcases keyOf_eq_some keyed with ⟨_, _, rfl⟩
       exact Eq.symm (by assumption))
    | (cases keyed
       exact Eq.symm (by assumption))
    | cases keyed

/-- A report that is delivered to a waiter for one movement is about that movement. -/
theorem movementId_of_pendingKey {frame : Frame} {id : MovementId} {report : AuthorityReport}
    (keyed : pendingKey frame = some (.authorityReport id))
    (decoded : decodeMessage AuthorityReport.decode frame = .ok report) :
    report.movementId = id := by
  have type : MessageType.AUTHORITY_REPORT = frame.type := type_of_pendingKey keyed
  unfold pendingKey at keyed
  rw [← type] at keyed
  rcases keyOf_eq_some keyed with ⟨message, same, key⟩
  cases decoded.symm.trans same
  exact FixedId.ext (congrArg PendingKey.subject key)

end StateMovementFabric
