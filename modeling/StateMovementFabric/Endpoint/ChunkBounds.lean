import StateMovementFabric.Coordinator.Calls
import StateMovementFabric.Endpoint.FlowControl

namespace StateMovementFabric

open Foundation Wire

/-!
# Chunk bounds along the path

A policy bounds the chunks of the objects that may be moved, a descriptor bounds its own,
every stream bounds its frames, and every message bounds the payload it carries.  A chunk
reaches the other side only where all four agree.
-/

/-- The frame bound of a session. -/
def MovementPolicy.frameBound (policy : MovementPolicy) : UInt32 :=
  (policy.maxChunkBytes + 65536).toUInt32

/-- The frame fits into the stream, and the receiver reads the message from it. -/
def Passes {α : Type} (policy : MovementPolicy) (decode : Decode α) (frame : Frame)
    (message : α) : Prop :=
  frame.payload.length ≤ policy.frameBound.toNat ∧ decodeMessage decode frame = .ok message

/-- A policy and an object that a coordinator accepts together. -/
structure Admissible (policy : MovementPolicy) (object : StateObjectDescriptor) : Prop where
  allowed : policy.validate = .ok ()
  valid : object.validate = .ok ()
  bounds : checkBounds policy object = .ok ()

/-- The question of the coordinator about one chunk. -/
def chunkQuestion (grant : TransferGrant) (index : UInt32) : VerifyRequest :=
  ⟨grant.movementId, grant.movementGeneration, grant.object.objectId, grant.object.generation,
    false, index, grant.object.chunkBytes⟩

/-- Every chunk passes, whatever its bytes are: from the source to the destination, and
from the destination to the coordinator that verifies it. -/
def ChunksPass (policy : MovementPolicy) (grant : TransferGrant) : Prop :=
  forall index offset length payload, grant.object.chunkOffset index = .ok offset ->
    grant.object.chunkLength index = .ok length -> List.length payload = UInt64.toNat length ->
    Passes policy DataChunk.decode (Serve.servedChunk grant index offset length payload).frame
        (Serve.servedChunk grant index offset length payload) ∧
      forall (agent : EndpointAgent) (io : StoreIo) (size : UInt64),
        agent.store.objectPresent grant.object.version = true ->
        agent.readChunk io (chunkQuestion grant index) = .ok (offset, length, payload, size) ->
        Passes policy VerifyResponse.decode
          (agent.verifyResponse io (chunkQuestion grant index)).frame
          (agent.verifyResponse io (chunkQuestion grant index))

section Bounds

variable {policy : MovementPolicy} {grant : TransferGrant}

variable {object : StateObjectDescriptor} {index : UInt32} {length offset : UInt64}
  {payload : Bytes}

/-- The policy bounds the chunk size, and the frame bound leaves room for the rest. -/
theorem Admissible.chunkBytes_le (admissible : Admissible policy object) :
    object.chunkBytes.toNat ≤ policy.maxChunkBytes.toNat ∧
      policy.frameBound.toNat = policy.maxChunkBytes.toNat + 65536 := by
  have bounds := admissible.bounds
  have valid := admissible.allowed
  unfold checkBounds at bounds
  rcases refuseWhen_bind_eq_ok.mp bounds with ⟨_, bounds⟩
  rw [refuseWhen_eq_ok, Bool.or_eq_false_iff] at bounds
  have below : object.chunkBytes ≤ policy.maxChunkBytes :=
    UInt64.not_lt.mp (of_decide_eq_false bounds.2)
  have most : policy.maxChunkBytes.toNat ≤ 67108864 :=
    (MovementPolicy.bounded_of_validate valid).mostChunk
  refine ⟨UInt64.le_iff_toNat_le.mp below, ?_⟩
  have sum : (policy.maxChunkBytes + 65536).toNat = policy.maxChunkBytes.toNat + 65536 := by
    rw [UInt64.toNat_add]
    exact Nat.mod_eq_of_lt (by change _ + 65536 < _; omega)
  rw [MovementPolicy.frameBound, UInt64.toNat_toUInt32, sum]
  exact Nat.mod_eq_of_lt (by omega)

/-- A chunk is no longer than the chunk size and than the object. -/
theorem chunkLength_le_min (found : object.chunkLength index = .ok length) :
    length.toNat ≤ min object.chunkBytes.toNat object.totalBytes.toNat := by
  refine Nat.le_min.mpr ⟨UInt64.le_iff_toNat_le.mp (StateObjectDescriptor.chunkLength_le found), ?_⟩
  rcases bind_eq_ok.mp found with ⟨offset, placed, found⟩
  have inside : offset ≤ object.totalBytes := by
    unfold StateObjectDescriptor.chunkOffset at placed
    split at placed
    · cases placed
    · split at placed
      · cases placed
      · split at placed
        · cases placed
        · cases placed
          exact UInt64.le_of_lt (UInt64.not_le.mp (by assumption))
  have rest : (object.totalBytes - offset).toNat ≤ object.totalBytes.toNat := by
    rw [UInt64.toNat_sub_of_le _ _ inside]
    exact Nat.sub_le _ _
  cases found
  split
  · exact rest
  · rename_i whole
    exact Nat.le_trans (UInt64.le_iff_toNat_le.mp (UInt64.not_lt.mp whole)) rest

/-- The first chunk is as long as the bounds allow. -/
theorem chunkLength_zero (valid : object.validate = .ok ()) (filled : 0 < object.totalBytes.toNat) :
    exists length, object.chunkOffset 0 = .ok 0 ∧ object.chunkLength 0 = .ok length ∧
      length.toNat = min object.chunkBytes.toNat object.totalBytes.toNat := by
  have sized := StateObjectDescriptor.sized_of_validate valid
  have least := sized.least
  have some_chunk : (0 : UInt32) < object.chunkCount := by
    rw [UInt32.lt_iff_toNat_lt, sized.count]
    exact Nat.div_pos (by omega) (by omega)
  refine ⟨_, ?_, StateObjectDescriptor.chunkLength_eq sized some_chunk, ?_⟩
  · rw [StateObjectDescriptor.chunkOffset_eq sized some_chunk]
    change Except.ok (UInt64.ofNat (object.plannedBytes 0)) = _
    rw [StateObjectDescriptor.plannedBytes_zero]
    rfl
  · rw [StateObjectDescriptor.toNat_plannedLength sized]
    have split := object.plannedBytes_add_plannedLength 0
    rw [StateObjectDescriptor.plannedBytes_zero, Nat.zero_add] at split
    change object.plannedLength 0 = _
    rw [split, StateObjectDescriptor.plannedBytes, Nat.one_mul]

/-- What a chunk message adds to its payload. -/
theorem length_encode_dataChunk (chunk : DataChunk) :
    chunk.encode.length ≤ 65536 + chunk.payload.length := by
  have name : (domain "SMF-MSG-DATA-CHUNK-v1").length = 29 := by decide +kernel
  simp only [DataChunk.encode, List.flatten_cons, List.flatten_nil, List.length_append,
    List.length_nil, name, FixedId.length_encode, CanonicalEncoder.length_u32,
    CanonicalEncoder.length_u64, CanonicalEncoder.length_digest, CanonicalEncoder.length_blob]
  omega

theorem length_encode_verifyResponse (response : VerifyResponse) :
    response.encode.length ≤ 65536 + response.chunkPayload.length := by
  have name : (domain "SMF-MSG-VERIFY-RESPONSE-v1").length = 34 := by decide +kernel
  have code : (writeReason response.code).length = 2 := storeLe_length _ _
  simp only [VerifyResponse.encode, List.flatten_cons, List.flatten_nil, List.length_append,
    List.length_nil, name, code, FixedId.length_encode, CanonicalEncoder.length_u32,
    CanonicalEncoder.length_u64, CanonicalEncoder.length_digest, CanonicalEncoder.length_blob]
  omega

/-- The answer to a question about a chunk that was read. -/
theorem verifyResponse_of_readChunk {agent : EndpointAgent} {io : StoreIo} {size : UInt64}
    (present : agent.store.objectPresent grant.object.version = true)
    (found : agent.readChunk io (chunkQuestion grant index) = .ok (offset, length, payload, size)) :
    (agent.verifyResponse io (chunkQuestion grant index)).movementId = grant.movementId ∧
      (agent.verifyResponse io (chunkQuestion grant index)).objectId = grant.object.objectId ∧
      (agent.verifyResponse io (chunkQuestion grant index)).objectGeneration =
        grant.object.generation ∧
      (agent.verifyResponse io (chunkQuestion grant index)).code = .OK ∧
      (agent.verifyResponse io (chunkQuestion grant index)).chunkPayload = payload := by
  have answer : agent.verifyResponse io (chunkQuestion grant index) =
      { EndpointAgent.verifyAnswer (chunkQuestion grant index) .OK with
        chunkIndex := index
        chunkPayload := payload
        chunkDigest := computeChunkDigest grant.object.objectId grant.object.generation index offset
          length payload
        storedBytes := size } := by
    unfold EndpointAgent.verifyResponse
    rw [found]
    change (if (!agent.store.objectPresent grant.object.version) = true then _ else _) = _
    rw [present]
    rfl
  rw [answer]
  exact ⟨rfl, rfl, rfl, rfl, rfl⟩

theorem identified_of_validate (granted : grant.validate = .ok ()) :
    grant.movementId.isZero = false ∧ grant.attempt.isZero = false := by
  rcases refuseWhen_bind_eq_ok.mp granted with ⟨movement, granted⟩
  rcases check_bind_eq_ok.mp granted with ⟨_, granted⟩
  rcases refuseWhen_bind_eq_ok.mp granted with ⟨attempt, _⟩
  exact ⟨movement, attempt⟩

/-- The message for a chunk is accepted exactly if its payload is within the bound. -/
theorem decode_servedChunk_iff (granted : grant.validate = .ok ())
    (counted : payload.length = length.toNat) :
    decodeMessage DataChunk.decode (Serve.servedChunk grant index offset length payload).frame =
        .ok (Serve.servedChunk grant index offset length payload) ↔
      payload.length ≤ kMaxWireChunkBytes := by
  rcases identified_of_validate granted with ⟨movement, attempt⟩
  have same : (length != UInt64.ofNat payload.length) = false := by
    rw [counted, UInt64.ofNat_toNat, bne_self_eq_false]
  rw [decodeMessage_eq_ok fun _ roomy => DataChunk.codes roomy]
  simp only [DataChunk.validate, Serve.servedChunk, refuseWhen_bind_eq_ok, refuseWhen_eq_ok, movement,
    attempt, same, decide_eq_false_iff_not, gt_iff_lt, Nat.not_lt, true_and, and_true]
  exact and_iff_left rfl

/-- All chunks pass exactly if none is longer than a message may carry. -/
theorem chunksPass_iff (policy : MovementPolicy) (grant : TransferGrant)
    (admissible : Admissible policy grant.object) (granted : grant.validate = .ok ()) :
    ChunksPass policy grant ↔
      min grant.object.chunkBytes.toNat grant.object.totalBytes.toNat ≤ kMaxWireChunkBytes := by
  constructor
  · intro passes
    by_contra long
    have filled : 0 < grant.object.totalBytes.toNat := by omega
    rcases chunkLength_zero admissible.valid filled with ⟨length, placed, found, longest⟩
    have counted : (List.replicate length.toNat (0 : Byte)).length = length.toNat :=
      List.length_replicate
    rcases passes 0 0 length _ placed found counted with ⟨⟨_, decoded⟩, _⟩
    rw [decode_servedChunk_iff granted counted, counted, longest] at decoded
    exact long decoded
  · intro short index offset length payload placed found counted
    rcases admissible.chunkBytes_le with ⟨allowed, bound⟩
    rcases identified_of_validate granted with ⟨movement, _⟩
    rcases StateObjectDescriptor.named_of_validate admissible.valid with ⟨id, generation, _⟩
    have least := chunkLength_le_min found
    have carried : payload.length ≤ kMaxWireChunkBytes := by omega
    have fits : payload.length + 65536 ≤ policy.frameBound.toNat := by omega
    refine ⟨⟨?_, (decode_servedChunk_iff granted counted).mpr carried⟩, ?_⟩
    · have size := length_encode_dataChunk (Serve.servedChunk grant index offset length payload)
      change List.length (DataChunk.encode _) ≤ _
      change _ ≤ 65536 + payload.length at size
      omega
    · intro agent io size present read
      rcases verifyResponse_of_readChunk present read with
        ⟨sameMovement, sameId, sameGeneration, favourable, samePayload⟩
      have checked : (agent.verifyResponse io (chunkQuestion grant index)).validate = .ok () := by
        rw [VerifyResponse.validate_eq_ok, sameMovement, sameId, sameGeneration, samePayload]
        exact ⟨movement, id, generation, carried⟩
      refine ⟨?_, VerifyResponse.decode_frame favourable checked⟩
      have length := length_encode_verifyResponse (agent.verifyResponse io (chunkQuestion grant index))
      rw [samePayload] at length
      change List.length (VerifyResponse.encode _) ≤ _
      omega

/-- The largest chunks that a policy may allow. -/
def widePolicy : MovementPolicy := { maxChunkBytes := 67108864 }

/-- An object of two mebibytes, in one chunk. -/
def wideObject : StateObjectDescriptor :=
  { oneByteObject with totalBytes := 2097152, chunkBytes := 2097152, chunkCount := 1 }

def wideGrant : TransferGrant :=
  { threeChunkGrant with
    object := wideObject, maxBytes := 2097152, maxChunks := 1, signature := oneByteDigest }

/-- The policy and the object are accepted, and the only chunk does not pass. -/
theorem not_chunksPass_wide :
    Admissible widePolicy wideGrant.object ∧ wideGrant.validate = .ok () ∧
      ¬ ChunksPass widePolicy wideGrant := by
  have admissible : Admissible widePolicy wideGrant.object :=
    ⟨by decide, by decide +kernel, by decide⟩
  have granted : wideGrant.validate = .ok () := by decide +kernel
  refine ⟨admissible, granted, fun passes => ?_⟩
  have counted : (List.replicate (2097152 : UInt64).toNat (0 : Byte)).length =
      (2097152 : UInt64).toNat := List.length_replicate
  rcases passes 0 0 2097152 _ (by decide) (by decide) counted with ⟨⟨_, decoded⟩, _⟩
  rw [decode_servedChunk_iff granted counted, counted] at decoded
  exact absurd decoded (by decide)

/-- The chunks of a small object pass under the default policy. -/
theorem chunksPass_threeChunks :
    ChunksPass { minChunkBytes := 1024 } { threeChunkGrant with signature := oneByteDigest } :=
  (chunksPass_iff { minChunkBytes := 1024 } { threeChunkGrant with signature := oneByteDigest }
    ⟨by decide, by decide +kernel, by decide⟩ (by decide +kernel)).mpr (by decide)

end Bounds

end StateMovementFabric
