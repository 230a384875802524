import Mathlib.Data.Finmap
import StateMovementFabric.Core.Movement
import StateMovementFabric.Foundation.LogScan

namespace StateMovementFabric

open Foundation CanonicalDecoder CanonicalEncoder

/-!
# The movement store

The store is an append-only log file and an index of it in memory.  Every change
appends one checksummed, numbered record before the index is touched; opening a
store replays the log.  The file is modelled byte by byte, because what a crash
or a failed write leaves behind is decided by bytes.
-/

structure CoordinatorPersistentState where
  epoch : IncarnationEpoch
  policyGeneration : PolicyGeneration
  compatibilityGeneration : CompatibilityGeneration
  topologyGeneration : TopologyGeneration
  policyDigest : Digest
  lastSavedUnixMillis : Millis
  deriving DecidableEq

namespace CoordinatorPersistentState

def encode (state : CoordinatorPersistentState) : Bytes :=
  [u64 state.epoch.value, u64 state.policyGeneration.value,
    u64 state.compatibilityGeneration.value,
    u64 state.topologyGeneration.value,
    digest state.policyDigest,
    i64 state.lastSavedUnixMillis].flatten

def decode : Decode CoordinatorPersistentState := do
  let epoch ← u64
  let policyGeneration ← u64
  let compatibilityGeneration ← u64
  let topologyGeneration ← u64
  let policyDigest ← digest
  let lastSavedUnixMillis ← i64
  if epoch == 0 then
    fail .STORE_RECORD_INVALID "persisted coordinator epoch must be non-zero"
  else
    return ⟨⟨epoch⟩, ⟨policyGeneration⟩, ⟨compatibilityGeneration⟩, ⟨topologyGeneration⟩,
      policyDigest, lastSavedUnixMillis⟩

end CoordinatorPersistentState

/-- The options that decide what is stored and what is kept. -/
structure MovementStoreOptions where
  maxRecordBytes : UInt32
  maxHistoryRecords : UInt32
  retentionCompleted : UInt32
  deriving DecidableEq, Repr

structure StoreRecoveryReport where
  created : Bool
  partialTailTruncated : Bool
  truncatedBytes : Nat
  recordsRead : Nat
  recordsApplied : Nat
  movementsLoaded : Nat
  deriving DecidableEq, Repr

/-! ## The index -/

/-- What the store knows in memory: the records by id, their ids oldest first, and
the coordinator state. -/
structure StoreContents where
  records : Finmap (fun _ : MovementId => MovementRecord)
  order : List MovementId
  coordinatorState : Option CoordinatorPersistentState
  deriving DecidableEq

namespace StoreContents

def empty : StoreContents := ⟨∅, [], none⟩

/-- `records_.size()`. -/
def size (contents : StoreContents) : Nat := contents.records.keys.card

/-- `insert_or_assign`, and an entry in the order for an id that is new. -/
def insertRecord (contents : StoreContents) (record : MovementRecord) : StoreContents :=
  { contents with
    records := contents.records.insert record.id record
    order := if record.id ∈ contents.records then contents.order
      else contents.order ++ [record.id] }

/-- `records_.erase(id)` together with the erasure of `id` from the order. -/
def removeRecord (contents : StoreContents) (id : MovementId) : StoreContents :=
  { contents with
    records := contents.records.erase id
    order := contents.order.filter (fun other => other != id) }

/-- The record of an id is present and terminal. -/
def holdsTerminal (contents : StoreContents) (id : MovementId) : Bool :=
  match contents.records.lookup id with
  | some record => isTerminal record.state
  | none => false

end StoreContents

/-! ## Records of the log -/

/-- The three kinds of record a log holds. -/
inductive LogRecord where
  | movement (record : MovementRecord)
  | coordinatorState (state : CoordinatorPersistentState)
  | retire (id : MovementId)
  deriving DecidableEq

namespace LogRecord

def type : LogRecord -> UInt8
  | movement _ => 1
  | coordinatorState _ => 2
  | retire _ => 3

def payload : LogRecord -> Bytes
  | movement record => record.encode
  | coordinatorState state => state.encode
  | retire id => id.encode

end LogRecord

/-- The decoding half of `apply_record`. -/
def decodeRecord (options : MovementStoreOptions) (type : UInt8) (payload : Bytes) :
    Result LogRecord :=
  let limits : DecodeLimits :=
    ⟨options.maxRecordBytes.toNat, kMaxTextBytes, options.maxRecordBytes.toNat + 65536⟩
  match type.toNat with
  | 1 =>
      decodeAll (do
        let record ← MovementRecord.decode
        requireEnd
        return .movement record) payload limits
  | 2 =>
      decodeAll (do
        let state ← CoordinatorPersistentState.decode
        requireEnd
        return .coordinatorState state) payload limits
  | 3 =>
      decodeAll (do
        let id ← FixedId.decode
        requireEnd
        return .retire id) payload limits
  | _ => refuse .STORE_RECORD_INVALID "store record type is not recognized"

/-- The effect of a decoded record on the index.  Retiring an id that is not
present changes nothing. -/
def StoreContents.apply (contents : StoreContents) : LogRecord -> StoreContents
  | .movement record => contents.insertRecord record
  | .coordinatorState state => { contents with coordinatorState := some state }
  | .retire id => if id ∈ contents.records then contents.removeRecord id else contents

/-- `apply_record`. -/
def applyRecord (options : MovementStoreOptions) (contents : StoreContents) (type : UInt8)
    (payload : Bytes) : Result StoreContents :=
  (decodeRecord options type payload).map contents.apply

/-! ## The file format -/

def kMovementStoreFormatVersion : Nat := 1
def kFileMagic : Bytes := ascii "SMFMST01"
def kRecordMagic : Bytes := ascii "SMFR"
def kFileHeaderBytes : Nat := 96
def kRecordHeaderBytes : Nat := 56

/-- The first 64 bytes of the file header. -/
def fileHeaderFront : Bytes :=
  kFileMagic ++ storeLe kMovementStoreFormatVersion 2 ++ List.replicate 2 0 ++
    storeLe kFileHeaderBytes 4 ++ List.replicate 48 0

def fileHeader : Bytes := fileHeaderFront ++ (sha256 fileHeaderFront).bytes

/-- The first 24 bytes of a record header. -/
def recordHeaderFront (type : UInt8) (sequence : UInt64) (payloadLength : Nat) : Bytes :=
  kRecordMagic ++ [UInt8.ofNat kMovementStoreFormatVersion, type] ++ List.replicate 2 0 ++
    storeLe sequence.toNat 8 ++ storeLe payloadLength 4 ++ List.replicate 4 0

/-- `record_checksum`. -/
def recordChecksum (front payload : Bytes) : Digest :=
  ((Sha256.initial.update front).update payload).finalize

/-- A record header followed by its payload. -/
def recordFrame (type : UInt8) (sequence : UInt64) (payload : Bytes) : Bytes :=
  let front := recordHeaderFront type sequence payload.length
  front ++ (recordChecksum front payload).bytes ++ payload

/-- The bytes `start .. start + width`. -/
def slice (bytes : Bytes) (start width : Nat) : Bytes := (bytes.drop start).take width

/-! ## Opening a store -/

/-- What recovery has read so far. -/
structure RecoveryState where
  sequence : UInt64
  recordsRead : Nat
  contents : StoreContents

/-- One round of the recovery loop on the unread part of the file. -/
def recoverStep (options : MovementStoreOptions) (state : RecoveryState) (unread : Bytes) :
    ScanStep RecoveryState Status :=
  if unread.length < kRecordHeaderBytes then .torn
  else if unread.take 4 ≠ kRecordMagic then
    .refused (.of .STORE_CORRUPT "store record magic does not match")
  else if (unread.getD 4 0).toNat ≠ kMovementStoreFormatVersion then
    .refused (.of .STORE_VERSION_UNSUPPORTED "store record version is not supported")
  else if loadLe (slice unread 6 2) ≠ 0 ∨ loadLe (slice unread 20 4) ≠ 0 then
    .refused (.of .STORE_RECORD_INVALID "store record reserved fields are non-zero")
  else
    let payloadLength := loadLe (slice unread 16 4)
    if payloadLength > options.maxRecordBytes.toNat then
      .refused (.of .STORE_OVERSIZED "store record declares an oversized payload")
    else if payloadLength > unread.length - kRecordHeaderBytes then .torn
    else
      let payload := slice unread kRecordHeaderBytes payloadLength
      if (recordChecksum (unread.take 24) payload).bytes ≠ slice unread 24 32 then
        -- a damaged final record cannot be told from a torn write
        if kRecordHeaderBytes + payloadLength ≥ unread.length then .torn
        else .refused (.of .STORE_CHECKSUM_MISMATCH "store record checksum mismatch")
      else
        let sequence := UInt64.ofNat (loadLe (slice unread 8 8))
        if sequence ≤ state.sequence then
          .refused
            (.of .STORE_RECORD_INVALID "store record sequence is not strictly increasing")
        else
          match applyRecord options state.contents (unread.getD 5 0) payload with
          | .error status => .refused status
          | .ok contents =>
              .consumed (kRecordHeaderBytes + payloadLength)
                ⟨sequence, state.recordsRead + 1, contents⟩

/-- The checks on the header of an existing file. -/
def checkFileHeader (file : Bytes) : Result Unit := do
  refuseWhen (file.length < kFileHeaderBytes) .STORE_TRUNCATED "store file header is incomplete"
  refuseWhen (file.take 8 != kFileMagic) .STORE_CORRUPT "store file magic does not match"
  refuseWhen (loadLe (slice file 8 2) != kMovementStoreFormatVersion) .STORE_VERSION_UNSUPPORTED
    "store file format version is not supported"
  refuseWhen (loadLe (slice file 12 4) != kFileHeaderBytes) .STORE_CORRUPT
    "store file header size is not recognised"
  refuseWhen ((sha256 (file.take 64)).bytes != slice file 64 32) .STORE_CHECKSUM_MISMATCH
    "store file header checksum mismatch"

/-- An open store: its options, the bytes of its file, where the next record goes
and what number it gets, and the index. -/
structure MovementStore where
  options : MovementStoreOptions
  file : Bytes
  appendOffset : Nat
  nextSequence : UInt64
  contents : StoreContents
  deriving DecidableEq

/-- The checks `open` makes on its options. -/
def MovementStoreOptions.validate (options : MovementStoreOptions) : Result Unit := do
  refuseWhen (options.maxRecordBytes == 0 || options.maxRecordBytes.toNat > 67108864)
    .INVALID_ARGUMENT "max_record_bytes is outside the supported range"
  refuseWhen (options.maxHistoryRecords == 0) .INVALID_ARGUMENT
    "max_history_records must be non-zero"

/-- The store that is open once recovery has scanned the file.  A torn tail is cut
off the file. -/
def openedStore (options : MovementStoreOptions) (disk : Bytes)
    (scanned : Scanned RecoveryState) : MovementStore :=
  let offset := kFileHeaderBytes + scanned.length
  { options := options
    file := if scanned.torn then disk.take offset else disk
    appendOffset := offset
    nextSequence := scanned.state.sequence + 1
    contents := scanned.state.contents }

/-- What `open` reports of the recovery. -/
def recoveryReport (created : Bool) (disk : Bytes) (scanned : Scanned RecoveryState) :
    StoreRecoveryReport where
  created := created
  partialTailTruncated := scanned.torn
  truncatedBytes := if scanned.torn then disk.length - (kFileHeaderBytes + scanned.length) else 0
  recordsRead := scanned.state.recordsRead
  recordsApplied := scanned.state.recordsRead
  movementsLoaded := scanned.state.contents.size

/-- `MovementStore::open` on the bytes of the log file; no bytes stand for a file
that is missing or empty. -/
def openStore (options : MovementStoreOptions) (file : Bytes) :
    Result (MovementStore × StoreRecoveryReport) := do
  options.validate
  let created := file.isEmpty
  let disk := if created then fileHeader else file
  if !created then checkFileHeader disk
  let unread := disk.drop kFileHeaderBytes
  let scanned ← scan (recoverStep options) unread.length ⟨0, 0, .empty⟩ unread
  return (openedStore options disk scanned, recoveryReport created disk scanned)

end StateMovementFabric
