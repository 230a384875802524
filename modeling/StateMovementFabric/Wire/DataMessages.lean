import StateMovementFabric.Wire.Messages

namespace StateMovementFabric

open Wire CanonicalDecoder CanonicalEncoder

/-!
# Data-plane messages

What a destination and a source exchange on the data session of one attempt.
-/

/-- The two fields for a resumption are part of the message in memory only: neither
`encode` nor `decode` knows them. -/
structure DataBegin where
  nonce : Digest
  movementId : MovementId
  movementGeneration : MovementGeneration
  attempt : TransferAttemptId
  object : StateObjectDescriptor
  destination : EndpointId
  destinationIncarnation : DestinationIncarnation
  resumeFromChunk : UInt32 := 0
  resumeFromOffset : UInt64 := 0
  deriving DecidableEq

namespace DataBegin

def validate (message : DataBegin) : Result Unit := do
  requireDigest message.nonce "data begin nonce"
  refuseWhen message.movementId.isZero .INVALID_ID "data begin requires a movement id"
  requireGeneration message.movementGeneration "movement generation"
  refuseWhen message.attempt.isZero .INVALID_ID "data begin requires a transfer attempt id"
  message.object.validate
  requireEndpoint message.destination "data begin destination"
  requireIncarnation message.destinationIncarnation message.destination "destination incarnation"

def encode (message : DataBegin) : Bytes :=
  [domain "SMF-MSG-DATA-BEGIN-v1", digest message.nonce,
    message.movementId.encode, u64 message.movementGeneration.value,
    message.attempt.encode, message.object.encode,
    text message.destination.value,
    MovementRecord.encodeIncarnation message.destinationIncarnation].flatten

def decode : Decode DataBegin :=
  readMessage "SMF-MSG-DATA-BEGIN-v1"
    (do return { nonce := ← digest, movementId := ← FixedId.decode
                 movementGeneration := ← readGeneration, attempt := ← FixedId.decode
                 object := ← StateObjectDescriptor.decode, destination := ← readEndpoint
                 destinationIncarnation := ← readIncarnation }) validate

def frame (message : DataBegin) : Frame := ⟨.DATA_BEGIN, message.encode⟩

end DataBegin

structure DataBeginAck where
  nonce : Digest
  code : ReasonCode
  resumeFromChunk : UInt32
  resumeFromOffset : UInt64
  detail : Text
  deriving DecidableEq

namespace DataBeginAck

def validate (message : DataBeginAck) : Result Unit := do
  requireDigest message.nonce "data begin ack nonce"
  requireBound message.detail kMaxDetailBytes "detail"

def encode (message : DataBeginAck) : Bytes :=
  [domain "SMF-MSG-DATA-BEGIN-ACK-v1", digest message.nonce,
    writeReason message.code, u32 message.resumeFromChunk,
    u64 message.resumeFromOffset, text message.detail].flatten

def decode : Decode DataBeginAck :=
  readMessage "SMF-MSG-DATA-BEGIN-ACK-v1"
    (do return ⟨← digest, ← readReason, ← u32,
      ← u64, ← readDetail⟩) validate

def frame (message : DataBeginAck) : Frame := ⟨.DATA_BEGIN_ACK, message.encode⟩

end DataBeginAck

structure DataChunk where
  movementId : MovementId
  attempt : TransferAttemptId
  chunkIndex : UInt32
  chunkOffset : UInt64
  chunkLength : UInt64
  chunkDigest : Digest
  payload : Bytes
  deriving DecidableEq

namespace DataChunk

def validate (message : DataChunk) : Result Unit := do
  refuseWhen message.movementId.isZero .INVALID_ID "data chunk requires a movement id"
  refuseWhen message.attempt.isZero .INVALID_ID "data chunk requires a transfer attempt id"
  refuseWhen (message.payload.length > kMaxWireChunkBytes) .INVALID_SIZE
    "data chunk payload exceeds the chunk bound"
  refuseWhen (message.chunkLength != UInt64.ofNat message.payload.length) .INVALID_SIZE
    "data chunk length does not match the payload it carries"

def encode (message : DataChunk) : Bytes :=
  [domain "SMF-MSG-DATA-CHUNK-v1", message.movementId.encode, message.attempt.encode,
    u32 message.chunkIndex, u64 message.chunkOffset,
    u64 message.chunkLength, digest message.chunkDigest,
    blob message.payload].flatten

def decode : Decode DataChunk :=
  readMessage "SMF-MSG-DATA-CHUNK-v1"
    (do return ⟨← FixedId.decode, ← FixedId.decode, ← u32,
      ← u64, ← u64, ← digest,
      ← blob kMaxWireChunkBytes⟩) validate

def frame (message : DataChunk) : Frame := ⟨.DATA_CHUNK, message.encode⟩

end DataChunk

structure DataChunkAck where
  movementId : MovementId
  attempt : TransferAttemptId
  highestContiguousIndex : UInt32
  duplicatesIgnored : UInt32
  deriving DecidableEq

namespace DataChunkAck

def validate (message : DataChunkAck) : Result Unit := do
  refuseWhen message.movementId.isZero .INVALID_ID "data chunk ack requires a movement id"
  refuseWhen message.attempt.isZero .INVALID_ID "data chunk ack requires a transfer attempt id"

def encode (message : DataChunkAck) : Bytes :=
  [domain "SMF-MSG-DATA-CHUNK-ACK-v1", message.movementId.encode, message.attempt.encode,
    u32 message.highestContiguousIndex,
    u32 message.duplicatesIgnored].flatten

def decode : Decode DataChunkAck :=
  readMessage "SMF-MSG-DATA-CHUNK-ACK-v1"
    (do return ⟨← FixedId.decode, ← FixedId.decode, ← u32,
      ← u32⟩) validate

def frame (message : DataChunkAck) : Frame := ⟨.DATA_CHUNK_ACK, message.encode⟩

end DataChunkAck

structure DataEnd where
  movementId : MovementId
  attempt : TransferAttemptId
  totalChunks : UInt32
  totalBytes : UInt64
  contentDigest : Digest
  deriving DecidableEq

namespace DataEnd

def validate (message : DataEnd) : Result Unit := do
  refuseWhen message.movementId.isZero .INVALID_ID "data end requires a movement id"
  refuseWhen message.attempt.isZero .INVALID_ID "data end requires a transfer attempt id"
  refuseWhen (message.totalBytes > 0 && message.contentDigest.isZero) .INVALID_DIGEST
    "data end requires the digest of what was sent"

def encode (message : DataEnd) : Bytes :=
  [domain "SMF-MSG-DATA-END-v1", message.movementId.encode, message.attempt.encode,
    u32 message.totalChunks, u64 message.totalBytes,
    digest message.contentDigest].flatten

def decode : Decode DataEnd :=
  readMessage "SMF-MSG-DATA-END-v1"
    (do return ⟨← FixedId.decode, ← FixedId.decode, ← u32,
      ← u64, ← digest⟩) validate

def frame (message : DataEnd) : Frame := ⟨.DATA_END, message.encode⟩

end DataEnd

structure DataResult where
  movementId : MovementId
  attempt : TransferAttemptId
  code : ReasonCode
  storedDigest : Digest
  storedBytes : UInt64
  storedChunks : UInt32
  markerDigest : Digest
  detail : Text
  deriving DecidableEq

namespace DataResult

def validate (message : DataResult) : Result Unit := do
  refuseWhen message.movementId.isZero .INVALID_ID "data result requires a movement id"
  refuseWhen message.attempt.isZero .INVALID_ID "data result requires a transfer attempt id"
  requireBound message.detail kMaxDetailBytes "detail"

def encode (message : DataResult) : Bytes :=
  [domain "SMF-MSG-DATA-RESULT-v1", message.movementId.encode, message.attempt.encode,
    writeReason message.code, digest message.storedDigest,
    u64 message.storedBytes, u32 message.storedChunks,
    digest message.markerDigest, text message.detail].flatten

def decode : Decode DataResult :=
  readMessage "SMF-MSG-DATA-RESULT-v1"
    (do return ⟨← FixedId.decode, ← FixedId.decode, ← readReason, ← digest,
      ← u64, ← u32, ← digest,
      ← readDetail⟩) validate

def frame (message : DataResult) : Frame := ⟨.DATA_RESULT, message.encode⟩

end DataResult

structure DataAbort where
  movementId : MovementId
  attempt : TransferAttemptId
  code : ReasonCode
  detail : Text
  deriving DecidableEq

namespace DataAbort

def validate (message : DataAbort) : Result Unit := do
  refuseWhen message.movementId.isZero .INVALID_ID "data abort requires a movement id"
  refuseWhen message.attempt.isZero .INVALID_ID "data abort requires a transfer attempt id"
  requireBound message.detail kMaxDetailBytes "detail"

def encode (message : DataAbort) : Bytes :=
  [domain "SMF-MSG-DATA-ABORT-v1", message.movementId.encode, message.attempt.encode,
    writeReason message.code, text message.detail].flatten

def decode : Decode DataAbort :=
  readMessage "SMF-MSG-DATA-ABORT-v1"
    (do return ⟨← FixedId.decode, ← FixedId.decode, ← readReason, ← readDetail⟩) validate

def frame (message : DataAbort) : Frame := ⟨.DATA_ABORT, message.encode⟩

end DataAbort

end StateMovementFabric
