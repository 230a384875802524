import StateMovementFabric.Core.Policy
import StateMovementFabric.Core.Topology
import StateMovementFabric.Core.Codes
import StateMovementFabric.Wire.Messages

namespace StateMovementFabric

open Wire CanonicalDecoder CanonicalEncoder

/-!
# Registration and administration

The messages by which endpoints register and announce their objects, and those by which
an operator submits, lists and inspects movements.
-/

namespace Wire

def kMaxWireHostBytes : Nat := 255
def kMaxWireContractBytes : Nat := 128
def kMaxWireListLimit : Nat := 1024
def kMaxMovementSummaries : Nat := 256

/-! ## Checks, writers and readers -/

/-- The role byte of a session: 1 is an endpoint, 2 an operator. -/
def requireRole (role : UInt8) : Result Unit :=
  refuseWhen (role != 1 && role != 2) .PROTOCOL_CANONICAL_VIOLATION
    "session role is not recognized"

def requireAddress (address : SocketAddress) (allowUnset : Bool) (what : String) : Result Unit :=
  if allowUnset && address.host.isEmpty && address.port == 0 then .ok ()
  else do
    refuseNaming address.host.isEmpty .INVALID_ADDRESS what " requires a host"
    refuseNaming (address.host.length > kMaxWireHostBytes) .INVALID_ADDRESS what
      " host exceeds the wire bound"
    refuseNaming (address.port == 0) .INVALID_ADDRESS what " requires a port"

def writeAddress (address : SocketAddress) : Bytes :=
  [text address.host, u16 address.port].flatten

def readAddress : Decode SocketAddress := do
  return ⟨← text kMaxWireHostBytes, ← u16⟩

/-- The role byte, checked where it is read. -/
def readRole : Decode UInt8 := do
  let role ← u8
  check (requireRole role)
  return role

def writeRegistration (registration : EndpointRegistration) : Bytes :=
  [text registration.endpoint.value,
    MovementRecord.encodeIncarnation registration.incarnation,
    writeAddress registration.serviceAddress, writeAddress registration.dataAddress,
    text registration.contract,
    digest registration.capabilityDigest,
    i64 registration.registeredUnixMillis,
    boolean registration.live].flatten

def readRegistration : Decode EndpointRegistration := do
  return ⟨← readEndpoint, ← readIncarnation, ← readAddress, ← readAddress,
    ← text kMaxWireContractBytes, ← digest,
    ← i64, ← boolean⟩

/-- A counted list. -/
def readList {α : Type} (maxCount : Nat) (decode : Decode α) : Decode (List α) := do
  let count ← CanonicalDecoder.count maxCount
  repeated decode count

def writeList {α : Type} (encode : α -> Bytes) (values : List α) : Bytes :=
  u32 (UInt32.ofNat values.length) ++ values.flatMap encode

/-- The same check for every member of a list. -/
def validateAll {α : Type} (validate : α -> Result Unit) : List α -> Result Unit
  | [] => .ok ()
  | first :: rest => do
      validate first
      validateAll validate rest

end Wire

/-! ## Registration -/

structure PeerIdentityHint where
  endpoint : EndpointId
  boot : BootId
  epoch : IncarnationEpoch
  role : UInt8
  contract : Text
  capabilityDigest : Digest
  deriving DecidableEq

namespace PeerIdentityHint

def validate (message : PeerIdentityHint) : Result Unit := do
  requireEndpoint message.endpoint "peer endpoint"
  refuseWhen message.boot.isZero .INVALID_ID "peer boot id must not be zero"
  requireGeneration message.epoch "peer incarnation epoch"
  requireRole message.role
  refuseWhen message.contract.isEmpty .ENDPOINT_CONTRACT_MISMATCH
    "peer contract must not be empty"
  requireBound message.contract kMaxWireContractBytes "peer contract"
  requireDigest message.capabilityDigest "peer capability digest"

def encode (message : PeerIdentityHint) : Bytes :=
  [domain "SMF-MSG-PEER-IDENTITY-HINT-v1", text message.endpoint.value,
    message.boot.encode, u64 message.epoch.value,
    u8 message.role, text message.contract,
    digest message.capabilityDigest].flatten

def decode : Decode PeerIdentityHint :=
  readMessage "SMF-MSG-PEER-IDENTITY-HINT-v1"
    (do return ⟨← readEndpoint, ← FixedId.decode, ← readGeneration, ← readRole,
      ← text kMaxWireContractBytes, ← digest⟩) validate

end PeerIdentityHint

structure RegisterRequest where
  identity : PeerIdentityHint
  serviceAddress : SocketAddress
  dataAddress : SocketAddress
  inventoryDigest : Digest
  deriving DecidableEq

namespace RegisterRequest

def validate (message : RegisterRequest) : Result Unit := do
  message.identity.validate
  requireAddress message.serviceAddress false "service address"
  requireAddress message.dataAddress true "data address"
  requireDigest message.inventoryDigest "inventory digest"

def encode (message : RegisterRequest) : Bytes :=
  [domain "SMF-MSG-REGISTER-REQUEST-v1", message.identity.encode,
    writeAddress message.serviceAddress, writeAddress message.dataAddress,
    digest message.inventoryDigest].flatten

def decode : Decode RegisterRequest :=
  readMessage "SMF-MSG-REGISTER-REQUEST-v1"
    (do return ⟨← PeerIdentityHint.decode, ← readAddress, ← readAddress,
      ← digest⟩) validate

end RegisterRequest

structure RegisterAck where
  topologyGeneration : TopologyGeneration
  policyGeneration : PolicyGeneration
  coordinator : EndpointIncarnation
  policyDigest : Digest
  maxInflightChunks : UInt32
  maxChunkBytes : UInt64
  maxObjectBytes : UInt64
  ioBudgetMillis : UInt32
  transferBudgetMillis : UInt32
  deriving DecidableEq

namespace RegisterAck

def validate (message : RegisterAck) : Result Unit := do
  requireGeneration message.topologyGeneration "topology generation"
  requireGeneration message.policyGeneration "policy generation"
  refuseWhen (!message.coordinator.isSet) .STALE_INCARNATION
    "registration ack requires a coordinator incarnation"
  requireDigest message.policyDigest "policy digest"
  refuseWhen (message.maxInflightChunks == 0) .INVALID_POLICY
    "registration ack requires a non-zero in-flight bound"
  refuseWhen (message.maxChunkBytes == 0) .INVALID_POLICY
    "registration ack requires a non-zero chunk bound"
  refuseWhen (message.maxObjectBytes == 0) .INVALID_POLICY
    "registration ack requires a non-zero object bound"
  refuseWhen (message.ioBudgetMillis == 0) .INVALID_POLICY
    "registration ack requires a non-zero io budget"
  refuseWhen (message.transferBudgetMillis == 0) .INVALID_POLICY
    "registration ack requires a non-zero transfer budget"

def encode (message : RegisterAck) : Bytes :=
  [domain "SMF-MSG-REGISTER-ACK-v1", u64 message.topologyGeneration.value,
    u64 message.policyGeneration.value,
    MovementRecord.encodeIncarnation message.coordinator,
    digest message.policyDigest,
    u32 message.maxInflightChunks, u64 message.maxChunkBytes,
    u64 message.maxObjectBytes, u32 message.ioBudgetMillis,
    u32 message.transferBudgetMillis].flatten

def decode : Decode RegisterAck :=
  readMessage "SMF-MSG-REGISTER-ACK-v1"
    (do return ⟨← readGeneration, ← readGeneration, ← readIncarnation,
      ← digest, ← u32, ← u64,
      ← u64, ← u32, ← u32⟩) validate

end RegisterAck

structure AnnounceObject where
  descriptor : StateObjectDescriptor
  deriving DecidableEq

namespace AnnounceObject

def validate (message : AnnounceObject) : Result Unit := message.descriptor.validate

def encode (message : AnnounceObject) : Bytes :=
  [domain "SMF-MSG-ANNOUNCE-OBJECT-v1", message.descriptor.encode].flatten

def decode : Decode AnnounceObject :=
  readMessage "SMF-MSG-ANNOUNCE-OBJECT-v1" (do return ⟨← StateObjectDescriptor.decode⟩) validate

end AnnounceObject

/-! ## A code and a text -/

/-- The answers that consist of a code and a text. -/
structure CodedAnswer where
  code : ReasonCode
  detail : Text
  deriving DecidableEq

namespace CodedAnswer

def validate (message : CodedAnswer) : Result Unit :=
  requireBound message.detail kMaxDetailBytes "detail"

def encode (domainName : String) (message : CodedAnswer) : Bytes :=
  [domain domainName, writeReason message.code, text message.detail].flatten

def decode (domainName : String) : Decode CodedAnswer :=
  readMessage domainName (do return ⟨← readReason, ← readDetail⟩) validate

end CodedAnswer

abbrev AnnounceAck := CodedAnswer

def AnnounceAck.encode (message : AnnounceAck) : Bytes :=
  CodedAnswer.encode "SMF-MSG-ANNOUNCE-ACK-v1" message

def AnnounceAck.decode : Decode AnnounceAck := CodedAnswer.decode "SMF-MSG-ANNOUNCE-ACK-v1"

abbrev ShutdownAck := CodedAnswer

def ShutdownAck.encode (message : ShutdownAck) : Bytes :=
  CodedAnswer.encode "SMF-MSG-SHUTDOWN-ACK-v1" message

def ShutdownAck.decode : Decode ShutdownAck := CodedAnswer.decode "SMF-MSG-SHUTDOWN-ACK-v1"

/-! ## Messages without fields -/

/-- The domain string is the whole message. -/
structure BareRequest where
  deriving DecidableEq

namespace BareRequest

def validate (_ : BareRequest) : Result Unit := .ok ()

def encode (domainName : String) (_ : BareRequest) : Bytes := [domain domainName].flatten

def decode (domainName : String) : Decode BareRequest :=
  readMessage domainName (do return ⟨⟩) validate

end BareRequest

abbrev TopologyRequest := BareRequest

def TopologyRequest.encode (message : TopologyRequest) : Bytes :=
  BareRequest.encode "SMF-MSG-TOPOLOGY-REQUEST-v1" message

def TopologyRequest.decode : Decode TopologyRequest :=
  BareRequest.decode "SMF-MSG-TOPOLOGY-REQUEST-v1"

abbrev PolicyRequest := BareRequest

def PolicyRequest.encode (message : PolicyRequest) : Bytes :=
  BareRequest.encode "SMF-MSG-POLICY-REQUEST-v1" message

def PolicyRequest.decode : Decode PolicyRequest := BareRequest.decode "SMF-MSG-POLICY-REQUEST-v1"

abbrev ShutdownRequest := BareRequest

def ShutdownRequest.encode (message : ShutdownRequest) : Bytes :=
  BareRequest.encode "SMF-MSG-SHUTDOWN-REQUEST-v1" message

def ShutdownRequest.decode : Decode ShutdownRequest :=
  BareRequest.decode "SMF-MSG-SHUTDOWN-REQUEST-v1"

/-! ## Messages that name one movement -/

structure MovementReference where
  movementId : MovementId
  deriving DecidableEq

namespace MovementReference

def validate (what : String) (message : MovementReference) : Result Unit :=
  refuseNaming message.movementId.isZero .INVALID_ID what " requires a movement id"

def encode (domainName : String) (message : MovementReference) : Bytes :=
  [domain domainName, message.movementId.encode].flatten

def decode (domainName what : String) : Decode MovementReference :=
  readMessage domainName (do return ⟨← FixedId.decode⟩) (validate what)

end MovementReference

abbrev QueryMovement := MovementReference

def QueryMovement.validate (message : QueryMovement) : Result Unit :=
  MovementReference.validate "query movement" message

def QueryMovement.encode (message : QueryMovement) : Bytes :=
  MovementReference.encode "SMF-MSG-QUERY-MOVEMENT-v1" message

def QueryMovement.decode : Decode QueryMovement :=
  MovementReference.decode "SMF-MSG-QUERY-MOVEMENT-v1" "query movement"

abbrev CancelMovement := MovementReference

def CancelMovement.validate (message : CancelMovement) : Result Unit :=
  MovementReference.validate "cancel movement" message

def CancelMovement.encode (message : CancelMovement) : Bytes :=
  MovementReference.encode "SMF-MSG-CANCEL-MOVEMENT-v1" message

def CancelMovement.decode : Decode CancelMovement :=
  MovementReference.decode "SMF-MSG-CANCEL-MOVEMENT-v1" "cancel movement"

abbrev ReconcileMovement := MovementReference

def ReconcileMovement.validate (message : ReconcileMovement) : Result Unit :=
  MovementReference.validate "reconcile movement" message

def ReconcileMovement.encode (message : ReconcileMovement) : Bytes :=
  MovementReference.encode "SMF-MSG-RECONCILE-MOVEMENT-v1" message

def ReconcileMovement.decode : Decode ReconcileMovement :=
  MovementReference.decode "SMF-MSG-RECONCILE-MOVEMENT-v1" "reconcile movement"

abbrev ProvenanceRequest := MovementReference

def ProvenanceRequest.validate (message : ProvenanceRequest) : Result Unit :=
  MovementReference.validate "provenance request" message

def ProvenanceRequest.encode (message : ProvenanceRequest) : Bytes :=
  MovementReference.encode "SMF-MSG-PROVENANCE-REQUEST-v1" message

def ProvenanceRequest.decode : Decode ProvenanceRequest :=
  MovementReference.decode "SMF-MSG-PROVENANCE-REQUEST-v1" "provenance request"

/-! ## Submission and status -/

namespace SubmitMovement

def encode (message : SubmitMovement) : Bytes :=
  [domain "SMF-MSG-SUBMIT-MOVEMENT-v1", message.objectId.encode,
    u64 message.objectGeneration.value,
    text message.source.value,
    text message.destination.value].flatten

def decode : Decode SubmitMovement :=
  readMessage "SMF-MSG-SUBMIT-MOVEMENT-v1"
    (do return ⟨← FixedId.decode, ← readGeneration, ← readEndpoint, ← readEndpoint⟩) validate

end SubmitMovement

namespace MovementAccepted

def validate (message : MovementAccepted) : Result Unit := do
  refuseWhen message.movementId.isZero .INVALID_ID "movement accepted requires a movement id"
  requireBound message.detail kMaxDetailBytes "detail"

def encode (message : MovementAccepted) : Bytes :=
  [domain "SMF-MSG-MOVEMENT-ACCEPTED-v1", message.movementId.encode,
    u8 message.state.toUInt8, writeReason message.code,
    text message.detail].flatten

def decode : Decode MovementAccepted :=
  readMessage "SMF-MSG-MOVEMENT-ACCEPTED-v1"
    (do return ⟨← FixedId.decode, ← readMovementState, ← readReason, ← readDetail⟩) validate

end MovementAccepted

structure MovementStatus where
  record : MovementRecord
  deriving DecidableEq

namespace MovementStatus

def validate (message : MovementStatus) : Result Unit := message.record.validate

def encode (message : MovementStatus) : Bytes :=
  [domain "SMF-MSG-MOVEMENT-STATUS-v1", message.record.encode].flatten

def decode : Decode MovementStatus :=
  readMessage "SMF-MSG-MOVEMENT-STATUS-v1" (do return ⟨← MovementRecord.decode⟩) validate

end MovementStatus

structure ListMovements where
  limit : UInt32
  offset : UInt32
  deriving DecidableEq

namespace ListMovements

def validate (message : ListMovements) : Result Unit :=
  refuseWhen (message.limit == 0 || message.limit.toNat > kMaxWireListLimit)
    .PROTOCOL_BOUNDS_EXCEEDED "list movements requires a page size inside the wire bound"

def encode (message : ListMovements) : Bytes :=
  [domain "SMF-MSG-LIST-MOVEMENTS-v1", u32 message.limit,
    u32 message.offset].flatten

def decode : Decode ListMovements :=
  readMessage "SMF-MSG-LIST-MOVEMENTS-v1"
    (do return ⟨← u32, ← u32⟩) validate

end ListMovements

structure MovementSummary where
  movementId : MovementId
  state : MovementState
  objectId : StateObjectId
  objectGeneration : StateGeneration
  source : EndpointId
  destination : EndpointId
  lastReason : ReasonCode
  attemptCount : UInt32
  bytesTransferred : UInt64
  deriving DecidableEq

namespace MovementSummary

def validate (message : MovementSummary) : Result Unit := do
  refuseWhen message.movementId.isZero .INVALID_ID "movement summary requires a movement id"
  refuseWhen message.objectId.isZero .INVALID_ID "movement summary requires a state object id"
  requireGeneration message.objectGeneration "state object generation"
  requireEndpoint message.source "movement summary source"
  requireEndpoint message.destination "movement summary destination"
  refuseWhen (message.source == message.destination) .SELF_MOVEMENT
    "source and destination endpoints are the same"

def encode (message : MovementSummary) : Bytes :=
  [domain "SMF-MSG-MOVEMENT-SUMMARY-v1", message.movementId.encode,
    u8 message.state.toUInt8, message.objectId.encode,
    u64 message.objectGeneration.value,
    text message.source.value, text message.destination.value,
    writeReason message.lastReason, u32 message.attemptCount,
    u64 message.bytesTransferred].flatten

def decode : Decode MovementSummary :=
  readMessage "SMF-MSG-MOVEMENT-SUMMARY-v1"
    (do return ⟨← FixedId.decode, ← readMovementState, ← FixedId.decode, ← readGeneration,
      ← readEndpoint, ← readEndpoint, ← readReason, ← u32,
      ← u64⟩) validate

end MovementSummary

structure MovementList where
  movements : List MovementSummary
  deriving DecidableEq

namespace MovementList

def validate (message : MovementList) : Result Unit := do
  refuseWhen (message.movements.length > kMaxMovementSummaries) .PROTOCOL_BOUNDS_EXCEEDED
    "movement list exceeds the wire bound"
  validateAll MovementSummary.validate message.movements

def encode (message : MovementList) : Bytes :=
  [domain "SMF-MSG-MOVEMENT-LIST-v1",
    writeList MovementSummary.encode message.movements].flatten

def decode : Decode MovementList :=
  readMessage "SMF-MSG-MOVEMENT-LIST-v1"
    (do return ⟨← readList kMaxMovementSummaries MovementSummary.decode⟩) validate

end MovementList

/-! ## Inspection -/

structure ProvenanceReport where
  movementId : MovementId
  code : ReasonCode
  events : List ProvenanceEvent
  deriving DecidableEq

namespace ProvenanceReport

/-- The loop of `validate` over the events: each is valid, and numbered by its place. -/
def validateEvents : Nat -> List ProvenanceEvent -> Result Unit
  | _, [] => .ok ()
  | place, event :: rest => do
      event.validate
      refuseWhen (event.sequence != UInt64.ofNat place + 1) .STORE_RECORD_INVALID
        "provenance report is not contiguous or is out of order"
      validateEvents (place + 1) rest

def validate (message : ProvenanceReport) : Result Unit := do
  refuseWhen message.movementId.isZero .INVALID_ID "provenance report requires a movement id"
  refuseWhen (message.events.length > kMaxProvenanceEvents) .HISTORY_LIMIT_REACHED
    "provenance report exceeds the wire bound"
  validateEvents 0 message.events

def encode (message : ProvenanceReport) : Bytes :=
  [domain "SMF-MSG-PROVENANCE-REPORT-v1", message.movementId.encode, writeReason message.code,
    writeList ProvenanceEvent.encode message.events].flatten

def decode : Decode ProvenanceReport :=
  readMessage "SMF-MSG-PROVENANCE-REPORT-v1"
    (do return ⟨← FixedId.decode, ← readReason,
      ← readList kMaxProvenanceEvents ProvenanceEvent.decode⟩) validate

end ProvenanceReport

structure TopologyReport where
  topologyGeneration : TopologyGeneration
  coordinator : EndpointIncarnation
  endpoints : List EndpointRegistration
  deriving DecidableEq

namespace TopologyReport

def validate (message : TopologyReport) : Result Unit := do
  requireGeneration message.topologyGeneration "topology generation"
  refuseWhen (!message.coordinator.isSet) .STALE_INCARNATION
    "topology report requires a coordinator incarnation"
  refuseWhen (message.endpoints.length > kMaxEndpoints) .PROTOCOL_BOUNDS_EXCEEDED
    "topology report exceeds the wire bound"
  validateAll EndpointRegistration.validate message.endpoints

def encode (message : TopologyReport) : Bytes :=
  [domain "SMF-MSG-TOPOLOGY-REPORT-v1", u64 message.topologyGeneration.value,
    MovementRecord.encodeIncarnation message.coordinator,
    writeList writeRegistration message.endpoints].flatten

def decode : Decode TopologyReport :=
  readMessage "SMF-MSG-TOPOLOGY-REPORT-v1"
    (do return ⟨← readGeneration, ← readIncarnation,
      ← readList kMaxEndpoints readRegistration⟩) validate

end TopologyReport

namespace MovementPolicy

def encode (policy : MovementPolicy) : Bytes :=
  [u32 policy.maxAttempts, u32 policy.maxInflightChunks,
    u64 policy.minChunkBytes, u64 policy.maxChunkBytes,
    u64 policy.maxObjectBytes, u64 policy.maxMovementBytes,
    u32 policy.maxEndpoints, u32 policy.maxSessions,
    u32 policy.maxMovementsInFlight,
    u32 policy.maxProvenanceEvents,
    u32 policy.maxHistoryRecords, u64 policy.maxStoreBytes,
    u64 policy.maxStagingBytesPerEndpoint,
    boolean policy.allowResume,
    boolean policy.requireCompatibilityEvidence,
    boolean policy.allowUnknownKind,
    boolean policy.verifySampleChunks,
    u32 policy.verifySampleChunksCount,
    u32 policy.ioBudgetMillis,
    u32 policy.transferBudgetMillis].flatten

def decode : Decode MovementPolicy := do
  let policy : MovementPolicy :=
    ⟨← u32, ← u32, ← u64,
      ← u64, ← u64, ← u64,
      ← u32, ← u32, ← u32,
      ← u32, ← u32, ← u64,
      ← u64, ← boolean, ← boolean,
      ← boolean, ← boolean, ← u32,
      ← u32, ← u32⟩
  check policy.validate
  return policy

end MovementPolicy

structure PolicySet where
  generation : PolicyGeneration
  policy : MovementPolicy
  deriving DecidableEq

namespace PolicySet

def validate (set : PolicySet) : Result Unit := do
  refuseWhen (!set.generation.isSet) .INVALID_GENERATION "policy generation must be non-zero"
  set.policy.validate

def encode (set : PolicySet) : Bytes :=
  [u64 set.generation.value, set.policy.encode].flatten

def decode : Decode PolicySet := do
  let set : PolicySet := ⟨← readGeneration, ← MovementPolicy.decode⟩
  check set.validate
  return set

end PolicySet

structure PolicyReport where
  policy : PolicySet
  policyDigest : Digest
  deriving DecidableEq

namespace PolicyReport

def validate (message : PolicyReport) : Result Unit := do
  message.policy.validate
  requireDigest message.policyDigest "policy digest"

def encode (message : PolicyReport) : Bytes :=
  [domain "SMF-MSG-POLICY-REPORT-v1", message.policy.encode,
    digest message.policyDigest].flatten

def decode : Decode PolicyReport :=
  readMessage "SMF-MSG-POLICY-REPORT-v1"
    (do return ⟨← PolicySet.decode, ← digest⟩) validate

end PolicyReport

end StateMovementFabric
