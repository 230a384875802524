import StateMovementFabric.Core.Ids

namespace StateMovementFabric

open CanonicalDecoder CanonicalEncoder

/-!
# State objects

A descriptor names one immutable version of an object: its canonical identity,
its generation, the digest of its bytes and how those bytes are cut into chunks.
-/

inductive StateKind where
  | UNKNOWN | MODEL | ADAPTER | TENSOR | KV | PREFIX | CHECKPOINT | ARTIFACT | GENERIC_BLOB
  deriving DecidableEq, Repr

namespace StateKind

def toUInt8 : StateKind -> UInt8
  | UNKNOWN => 0
  | MODEL => 1
  | ADAPTER => 2
  | TENSOR => 3
  | KV => 4
  | PREFIX => 5
  | CHECKPOINT => 6
  | ARTIFACT => 7
  | GENERIC_BLOB => 8

def ofUInt8 (value : UInt8) : Option StateKind :=
  [UNKNOWN, MODEL, ADAPTER, TENSOR, KV, PREFIX, CHECKPOINT, ARTIFACT, GENERIC_BLOB][value.toNat]?

end StateKind

/-- `derive_state_object_id`. -/
def deriveStateObjectId (kind : StateKind) (name : Text) : Result StateObjectId :=
  if name.isEmpty then refuse .INVALID_ARGUMENT "state object name must not be empty"
  else if name.length > 4096 then
    refuse .INVALID_ARGUMENT "state object name exceeds the maximum length"
  else if !isValidUtf8 name then refuse .INVALID_UTF8 "state object name is not valid UTF-8"
  else .ok (.fromDigest (canonicalDigest
    [text (ascii "SMF-STATE-OBJECT-ID-v1"), u8 kind.toUInt8,
      text name].flatten))

/-- `compute_chunk_digest`: binds a payload to the slot it is claimed to occupy. -/
def computeChunkDigest (objectId : StateObjectId) (generation : StateGeneration)
    (chunkIndex : UInt32) (chunkOffset chunkLength : UInt64) (payload : Bytes) : Digest :=
  canonicalDigest
    [text (ascii "SMF-CHUNK-v1"), digest objectId.asDigest,
      u64 generation.value, u32 chunkIndex,
      u64 chunkOffset, u64 chunkLength,
      blob payload].flatten

structure StateObjectDescriptor where
  objectId : StateObjectId
  kind : StateKind
  name : Text
  generation : StateGeneration
  contentDigest : Digest
  totalBytes : UInt64
  chunkBytes : UInt64
  chunkCount : UInt32
  createdUnixMillis : Millis
  producer : Text
  repeatable : Bool
  deriving DecidableEq

namespace StateObjectDescriptor

/-- `ceil_div`, with the wrap-around of the 64-bit sum. -/
def ceilDiv (numerator denominator : UInt64) : UInt64 := (numerator + denominator - 1) / denominator

/-- The chunk count the sizes call for. -/
def expectedChunks (totalBytes chunkBytes : UInt64) : UInt64 :=
  if totalBytes == 0 then 0 else ceilDiv totalBytes chunkBytes

/-- The identity part of `validate`: the id is the canonical one of kind and name. -/
def validateIdentity (object : StateObjectDescriptor) : Result Unit := do
  refuseWhen object.objectId.isZero .INVALID_ID "state object id must not be zero"
  refuseWhen object.name.isEmpty .INVALID_ARGUMENT "state object name must not be empty"
  refuseWhen (object.name.length > kMaxObjectNameBytes) .INVALID_ARGUMENT
    "state object name exceeds the maximum length"
  refuseWhen (!isValidUtf8 object.name) .INVALID_UTF8 "state object name is not valid UTF-8"
  refuseWhen (object.name.length > kMaxTextBytes) .INVALID_ARGUMENT
    "state object name exceeds the text bound"
  let derived ← deriveStateObjectId object.kind object.name
  refuseWhen (derived != object.objectId) .INVALID_ID
    "state object id does not match the canonical identity of its kind and name"

/-- The size part of `validate`: bounds, and the chunk count the sizes call for. -/
def validateSizes (object : StateObjectDescriptor) : Result Unit := do
  refuseWhen (object.totalBytes.toNat > kMaxObjectBytes) .INVALID_SIZE
    "state object exceeds the maximum supported size"
  refuseWhen (object.chunkBytes.toNat < kMinChunkBytes || object.chunkBytes.toNat > kMaxChunkBytes)
    .INVALID_SIZE "chunk size is outside the supported range"
  refuseWhen (object.chunkBytes == 0) .INVALID_SIZE "chunk size must not be zero"
  let expected := expectedChunks object.totalBytes object.chunkBytes
  refuseWhen (expected.toNat > kMaxChunksPerObject) .INVALID_SIZE
    "state object would require too many chunks"
  refuseWhen (expected != object.chunkCount.toUInt64) .INVALID_SIZE
    "chunk count is inconsistent with the total size and chunk size"

/-- `validate`. -/
def validate (object : StateObjectDescriptor) : Result Unit := do
  object.validateIdentity
  refuseWhen (!object.generation.isSet) .INVALID_GENERATION "state generation must be non-zero"
  refuseWhen object.contentDigest.isZero .INVALID_DIGEST "content digest must not be zero"
  object.validateSizes
  refuseWhen (object.producer.length > kMaxTextBytes) .INVALID_ARGUMENT
    "producer string exceeds the text bound"
  refuseWhen (!object.producer.isEmpty && !isValidUtf8 object.producer) .INVALID_UTF8
    "producer string is not valid UTF-8"

/-- `create`.  The chunk count is narrowed to 32 bits before it is checked, and the
division is by zero when the chunk size is. -/
def create (kind : StateKind) (name : Text) (generation : StateGeneration) (contentDigest : Digest)
    (totalBytes chunkBytes : UInt64) (createdUnixMillis : Millis) (producer : Text) :
    Result StateObjectDescriptor := do
  let objectId ← deriveStateObjectId kind name
  let descriptor : StateObjectDescriptor :=
    { objectId := objectId
      kind := kind
      name := name
      generation := generation
      contentDigest := contentDigest
      totalBytes := totalBytes
      chunkBytes := chunkBytes
      chunkCount := (expectedChunks totalBytes chunkBytes).toUInt32
      createdUnixMillis := createdUnixMillis
      producer := producer
      repeatable := true }
  descriptor.validate
  return descriptor

/-- `chunk_offset`. -/
def chunkOffset (object : StateObjectDescriptor) (index : UInt32) : Result UInt64 :=
  if index ≥ object.chunkCount then
    refuse .CHUNK_INDEX_OUT_OF_RANGE "chunk index is outside the object"
  else
    match checkedMul index.toUInt64 object.chunkBytes with
    | none => refuse .SIZE_OVERFLOW "chunk offset computation overflowed"
    | some offset =>
        if offset ≥ object.totalBytes then
          refuse .CHUNK_INDEX_OUT_OF_RANGE "chunk offset is beyond the object"
        else .ok offset

/-- `chunk_length`. -/
def chunkLength (object : StateObjectDescriptor) (index : UInt32) : Result UInt64 := do
  let offset ← object.chunkOffset index
  let remaining := object.totalBytes - offset
  return if remaining < object.chunkBytes then remaining else object.chunkBytes

def encode (object : StateObjectDescriptor) : Bytes :=
  [digest object.objectId.asDigest, u8 object.kind.toUInt8,
    text object.name, u64 object.generation.value,
    digest object.contentDigest, u64 object.totalBytes,
    u64 object.chunkBytes, u32 object.chunkCount,
    i64 object.createdUnixMillis, text object.producer,
    boolean object.repeatable].flatten

def decode : Decode StateObjectDescriptor := do
  let objectId ← digest
  let rawKind ← u8
  let kind ← match StateKind.ofUInt8 rawKind with
    | some kind => pure kind
    | none => fail .INVALID_STATE_KIND "state kind is not recognized"
  let name ← text kMaxObjectNameBytes
  let generation ← u64
  let contentDigest ← digest
  let totalBytes ← u64
  let chunkBytes ← u64
  let chunkCount ← u32
  let createdUnixMillis ← i64
  let producer ← text kMaxTextBytes
  let repeatable ← boolean
  let object : StateObjectDescriptor :=
    { objectId := .fromDigest objectId
      kind := kind
      name := name
      generation := ⟨generation⟩
      contentDigest := contentDigest
      totalBytes := totalBytes
      chunkBytes := chunkBytes
      chunkCount := chunkCount
      createdUnixMillis := createdUnixMillis
      producer := producer
      repeatable := repeatable }
  check object.validate
  return object

theorem length_encode (object : StateObjectDescriptor) :
    object.encode.length = 118 + object.name.length + object.producer.length := by
  simp only [encode, List.flatten_cons, List.flatten_nil, List.length_append, List.length_nil,
    length_digest, length_u8, length_text,
    length_u64, length_u32, length_i64,
    length_boolean]
  omega

/-- The texts of a valid descriptor are within the bounds of the codec. -/
theorem texts_of_validate {object : StateObjectDescriptor} (valid : object.validate = .ok ()) :
    (isValidUtf8 object.name = true ∧ object.name.length ≤ 4096) ∧
      isValidUtf8 object.producer = true ∧ object.producer.length ≤ 4096 := by
  rw [validate] at valid
  rcases check_bind_eq_ok.mp valid with ⟨identity, valid⟩
  rcases check_bind_eq_ok.mp valid with ⟨_, valid⟩
  rcases check_bind_eq_ok.mp valid with ⟨_, valid⟩
  rcases check_bind_eq_ok.mp valid with ⟨_, valid⟩
  rcases check_bind_eq_ok.mp valid with ⟨producerShort, producer⟩
  rw [validateIdentity] at identity
  rcases check_bind_eq_ok.mp identity with ⟨_, identity⟩
  rcases check_bind_eq_ok.mp identity with ⟨_, identity⟩
  rcases check_bind_eq_ok.mp identity with ⟨_, identity⟩
  rcases check_bind_eq_ok.mp identity with ⟨name, identity⟩
  rcases check_bind_eq_ok.mp identity with ⟨nameShort, _⟩
  simp only [refuseWhen_eq_ok, Bool.not_eq_false', decide_eq_false_iff_not, gt_iff_lt, Nat.not_lt,
    kMaxTextBytes] at producerShort name nameShort
  refine ⟨⟨name, nameShort⟩, ?_, producerShort⟩
  rw [refuseWhen_eq_ok, Bool.and_eq_false_iff, Bool.not_eq_false', Bool.not_eq_false'] at producer
  rcases producer with empty | valid
  · rw [List.isEmpty_iff.mp empty]
    rfl
  · exact valid

/-- A valid descriptor is read back. -/
theorem reads_decode {limits : DecodeLimits} (texts : 4096 ≤ limits.maxTextBytes)
    (blobs : 4096 ≤ limits.maxBlobBytes) {object : StateObjectDescriptor}
    (valid : object.validate = .ok ()) : Reads limits decode object.encode object := by
  rcases texts_of_validate valid with ⟨⟨name, nameLength⟩, producer, producerLength⟩
  have readsName : Reads limits (text kMaxObjectNameBytes)
      (text object.name) object.name :=
    .text name (by simp only [kMaxObjectNameBytes]; omega) (by omega)
  have readsProducer : Reads limits (text kMaxTextBytes)
      (text object.producer) object.producer :=
    .text producer (by simp only [kMaxTextBytes]; omega) (by omega)
  have kind : StateKind.ofUInt8 object.kind.toUInt8 = some object.kind := by
    cases object.kind <;> rfl
  rw [encode, decode]
  simp only [List.flatten_cons, List.flatten_nil]
  refine .bind (.digest _) (.bind (.u8 _) ?_)
  simp only [kind, pure_bind]
  refine .bind readsName (.bind (.u64 _) (.bind (.digest _) (.bind (.u64 _) (.bind (.u64 _)
    (.bind (.u32 _) (.bind (.i64 _) (.bind readsProducer (.bind (.boolean _) ?_))))))))
  exact .checked valid (.pure object)

end StateObjectDescriptor

end StateMovementFabric
