import StateMovementFabric.Core.Movement

namespace StateMovementFabric

open CanonicalDecoder CanonicalEncoder

/-!
# Frames and the shared parts of the message codecs

A frame is a message type and the canonical encoding of one message.  The checks
and the bounded readers here are the ones that the message codecs are built from.
-/

inductive MessageType where
  | INVALID
  | HELLO | HELLO_ACK | HELLO_REJECT
  | REGISTER | REGISTER_ACK | ANNOUNCE_OBJECT | ANNOUNCE_ACK | HEARTBEAT | HEARTBEAT_ACK
  | GRANT_TRANSFER | GRANT_ACK | EXECUTE_MOVEMENT | ATTEMPT_RESULT | CANCEL | CANCEL_ACK
  | COMMIT_REQUEST | COMMIT_RESULT | VERIFY_REQUEST | VERIFY_RESPONSE | AUTHORITY_QUERY
  | AUTHORITY_REPORT | CLEANUP_REQUEST | CLEANUP_RESULT
  | DATA_BEGIN | DATA_BEGIN_ACK | DATA_CHUNK | DATA_CHUNK_ACK | DATA_END | DATA_RESULT
  | DATA_ABORT
  | SUBMIT_MOVEMENT | MOVEMENT_ACCEPTED | QUERY_MOVEMENT | MOVEMENT_STATUS | LIST_MOVEMENTS
  | MOVEMENT_LIST | CANCEL_MOVEMENT | RECONCILE_MOVEMENT | PROVENANCE_REQUEST
  | PROVENANCE_REPORT | TOPOLOGY_REQUEST | TOPOLOGY_REPORT | POLICY_REQUEST | POLICY_REPORT
  | SHUTDOWN | SHUTDOWN_ACK
  | ERROR
  deriving DecidableEq, Repr

/-- `to_string`. -/
def MessageType.name : MessageType -> String
  | INVALID => "INVALID" | HELLO => "HELLO" | HELLO_ACK => "HELLO_ACK"
  | HELLO_REJECT => "HELLO_REJECT" | REGISTER => "REGISTER" | REGISTER_ACK => "REGISTER_ACK"
  | ANNOUNCE_OBJECT => "ANNOUNCE_OBJECT" | ANNOUNCE_ACK => "ANNOUNCE_ACK"
  | HEARTBEAT => "HEARTBEAT" | HEARTBEAT_ACK => "HEARTBEAT_ACK"
  | GRANT_TRANSFER => "GRANT_TRANSFER" | GRANT_ACK => "GRANT_ACK"
  | EXECUTE_MOVEMENT => "EXECUTE_MOVEMENT" | ATTEMPT_RESULT => "ATTEMPT_RESULT"
  | CANCEL => "CANCEL" | CANCEL_ACK => "CANCEL_ACK" | COMMIT_REQUEST => "COMMIT_REQUEST"
  | COMMIT_RESULT => "COMMIT_RESULT" | VERIFY_REQUEST => "VERIFY_REQUEST"
  | VERIFY_RESPONSE => "VERIFY_RESPONSE" | AUTHORITY_QUERY => "AUTHORITY_QUERY"
  | AUTHORITY_REPORT => "AUTHORITY_REPORT" | CLEANUP_REQUEST => "CLEANUP_REQUEST"
  | CLEANUP_RESULT => "CLEANUP_RESULT" | DATA_BEGIN => "DATA_BEGIN"
  | DATA_BEGIN_ACK => "DATA_BEGIN_ACK" | DATA_CHUNK => "DATA_CHUNK"
  | DATA_CHUNK_ACK => "DATA_CHUNK_ACK" | DATA_END => "DATA_END" | DATA_RESULT => "DATA_RESULT"
  | DATA_ABORT => "DATA_ABORT" | SUBMIT_MOVEMENT => "SUBMIT_MOVEMENT"
  | MOVEMENT_ACCEPTED => "MOVEMENT_ACCEPTED" | QUERY_MOVEMENT => "QUERY_MOVEMENT"
  | MOVEMENT_STATUS => "MOVEMENT_STATUS" | LIST_MOVEMENTS => "LIST_MOVEMENTS"
  | MOVEMENT_LIST => "MOVEMENT_LIST" | CANCEL_MOVEMENT => "CANCEL_MOVEMENT"
  | RECONCILE_MOVEMENT => "RECONCILE_MOVEMENT" | PROVENANCE_REQUEST => "PROVENANCE_REQUEST"
  | PROVENANCE_REPORT => "PROVENANCE_REPORT" | TOPOLOGY_REQUEST => "TOPOLOGY_REQUEST"
  | TOPOLOGY_REPORT => "TOPOLOGY_REPORT" | POLICY_REQUEST => "POLICY_REQUEST"
  | POLICY_REPORT => "POLICY_REPORT" | SHUTDOWN => "SHUTDOWN" | SHUTDOWN_ACK => "SHUTDOWN_ACK"
  | ERROR => "ERROR"

/-- `Frame`: the type in the header, and the payload. -/
structure Frame where
  type : MessageType
  payload : Bytes
  deriving DecidableEq

namespace Wire

def kMaxWireChunkBytes : Nat := 1048576
def kMaxWireDomainBytes : Nat := 64

/-! ## Checks -/

/-- `Status(code, std::string(what) + ending)`. -/
def refuseNaming (bad : Bool) (code : ReasonCode) (what ending : String) : Result Unit :=
  refuseWhen bad code (what ++ ending)

def requireBound (value : Text) (bound : Nat) (what : String) : Result Unit := do
  refuseNaming (value.length > bound) .INVALID_SIZE what " exceeds the wire bound"
  refuseNaming (!value.isEmpty && !isValidUtf8 value) .INVALID_UTF8 what " is not valid UTF-8"

def requireDigest (value : Digest) (what : String) : Result Unit :=
  refuseNaming value.isZero .INVALID_DIGEST what " must not be zero"

def requireEndpoint (value : EndpointId) (what : String) : Result Unit :=
  refuseNaming (value.isEmpty || !isValidEndpointName value.value) .INVALID_ID what
    " is not a valid endpoint id"

def requireGeneration {tag : GenerationTag} (value : Generation tag) (what : String) :
    Result Unit :=
  refuseNaming (!value.isSet) .INVALID_GENERATION what " must be non-zero"

def requireIncarnation {tag : IncarnationTag} (value : Incarnation tag) (expected : EndpointId)
    (what : String) : Result Unit := do
  refuseNaming (!value.isSet) .STALE_INCARNATION what " is not complete"
  refuseNaming (value.endpoint != expected) .STALE_INCARNATION what
    " names a different endpoint than the message does"

/-! ## Writers and bounded readers -/

/-- The domain string every message starts with. -/
def domain (name : String) : Bytes := text (ascii name)

def writeReason (code : ReasonCode) : Bytes := u16 (UInt16.ofNat code.toNat)

def checkDomain (expected : String) : Decode Unit := do
  let found ← text kMaxWireDomainBytes
  if found ≠ ascii expected then
    fail .PROTOCOL_CANONICAL_VIOLATION
      "message domain string is not the expected one"
  else return ()

def readEndpoint : Decode EndpointId := do
  let raw ← text kMaxEndpointIdBytes
  if raw.isEmpty then fail .INVALID_ID "endpoint id must not be empty"
  else check (EndpointId.parse raw)

def readDetail : Decode Text := text kMaxDetailBytes

/-- Only the named codes are accepted from a peer. -/
def readReason : Decode ReasonCode := do
  let raw ← u16
  if raw.toNat > ReasonCode.NO_EVIDENCE.toNat then
    fail .PROTOCOL_CANONICAL_VIOLATION "reason code is outside the known range"
  else return .ofUInt16 raw

def readMovementState : Decode MovementState := do
  let raw ← u8
  match MovementState.ofUInt8 raw with
  | some state => return state
  | none =>
      fail .PROTOCOL_CANONICAL_VIOLATION "movement state is not recognized"

def readGeneration {tag : GenerationTag} : Decode (Generation tag) := do
  let raw ← u64
  return ⟨raw⟩

def readIncarnation {tag : IncarnationTag} : Decode (Incarnation tag) := do
  let endpoint ← readEndpoint
  let boot ← FixedId.decode
  let epoch ← readGeneration
  return ⟨endpoint, boot, epoch⟩

/-- `decode_message<T>`: the payload is exactly one message. -/
def decodeMessage {α : Type} (decode : Decode α) (frame : Frame) : Result α :=
  decodeAll (do
    let message ← decode
    requireEnd
    return message) frame.payload
    { maxBlobBytes :=
        if frame.payload.length > kMaxChunkBytes then frame.payload.length else kMaxChunkBytes
      maxTextBytes := kMaxObjectNameBytes
      maxInputBytes := frame.payload.length + 1 }

end Wire

end StateMovementFabric
