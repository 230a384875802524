import StateMovementFabric.Wire.RoundTrips
import StateMovementFabric.Coordinator.DriverGuard

namespace StateMovementFabric

open Foundation Wire

/-!
# What independent verification establishes

`verifyDestination` asks the destination for its full-content digest and for a sample
of chunks.  The destination here is any function from questions to frames, and the
network delivers every question and every answer.

Each sampled chunk is held against a digest that comes in the same answer.  Nothing
ties it to the content digest of the object, so an answer with other bytes of the
right length passes: verification is sound for exactly the records that no destination
can answer for, or whose sampled chunks are empty.
-/

/-! ## A conversation with one destination -/

/-- The destination's answer to the frame it was sent last. -/
def answerOf (destination : VerifyRequest -> Frame) : Option Frame -> Arrival
  | none => .timeout
  | some asked =>
      match decodeMessage VerifyRequest.decode asked with
      | .error _ => .timeout
      | .ok question => .frame (destination question)

/-- A network in which every slot is free and every message is delivered. -/
def conversing (destination : VerifyRequest -> Frame) (sent : Option Frame) : Environment :=
  { link := some 0, slot := some 0, arrival := answerOf destination sent }

/-- The replies of such a network.  Its state is the frame that was pushed last. -/
def conversation (destination : VerifyRequest -> Frame) (sent : Option Frame)
    (op : CoordinatorOp) : Option Frame × op.Reply :=
  (match op with
    | .push _ frame => some frame
    | _ => sent,
    (conversing destination sent).reply newStore op)

/-- What `verify_destination` returns when it talks to `destination`. -/
def verified (config : CoordinatorConfig) (record : MovementRecord)
    (destination : VerifyRequest -> Frame) : Result Digest :=
  (Program.interpret (conversation destination) none (verifyDestination config record)).2

/-- The question about one chunk, or about the whole object. -/
def verifyQuestion (record : MovementRecord) (full : Bool) (index : UInt32) : VerifyRequest :=
  ⟨record.id, record.generation, record.object.objectId, record.object.generation, full, index,
    record.object.chunkBytes⟩

/-- An answer that `ask` accepts. -/
structure AcceptedAnswer (record : MovementRecord) (index : UInt32) (frame : Frame)
    (response : VerifyResponse) : Prop where
  keyed : pendingKey frame = some (.verifyResponse record.id index)
  decoded : decodeMessage VerifyResponse.decode frame = .ok response
  movement : response.movementId = record.id
  object : response.objectId = record.object.objectId
  generation : response.objectGeneration = record.object.generation
  code : response.code = .OK

variable {full : Bool} {index : UInt32}

section Conversation

variable {config : CoordinatorConfig} {record : MovementRecord}
  {destination : VerifyRequest -> Frame} {sent : Option Frame} {link : LinkId}

theorem interpret_request (key : PendingKey) (frame : Frame) :
    Program.interpret (conversation destination) sent (request link key frame) =
      (some frame, (conversing destination (some frame)).awaited key frame.type.name) :=
  rfl

theorem awaited_eq_ok {key : PendingKey} {what : String} {question : VerifyRequest}
    {frame : Frame} :
    (conversing destination (some question.frame)).awaited key what = .ok frame ↔
      question.validate = .ok () ∧ destination question = frame ∧ pendingKey frame = some key := by
  have answer : (conversing destination (some question.frame)).arrival =
      answerOf destination (some question.frame) := rfl
  rw [Environment.awaited, answer, answerOf, VerifyRequest.decode_frame]
  cases question.validate with
  | error status => simp [Except.map, refuse]
  | ok passed =>
      by_cases keyed : pendingKey (destination question) = some key
      · simp only [Except.map, if_pos keyed, true_and]
        constructor
        · intro same
          cases same
          exact ⟨rfl, keyed⟩
        · rintro ⟨rfl, _⟩
          rfl
      · simp only [Except.map, if_neg keyed, true_and, refuse]
        constructor
        · intro impossible
          cases impossible
        · rintro ⟨rfl, found⟩
          exact absurd found keyed

theorem ask_eq_ok {response : VerifyResponse} :
    (Program.interpret (conversation destination) sent
      (askDestination link record full index)).2 = .ok response ↔
      (verifyQuestion record full index).validate = .ok () ∧
        AcceptedAnswer record index (destination (verifyQuestion record full index)) response := by
  have step : Program.interpret (conversation destination) sent
      (askDestination link record full index) = _ :=
    Program.interpret_bind (conversation destination) sent
      (request link (.verifyResponse record.id index) (verifyQuestion record full index).frame) _
  rw [step, interpret_request]
  cases answered : (conversing destination
      (some (verifyQuestion record full index).frame)).awaited (.verifyResponse record.id index)
      (verifyQuestion record full index).frame.type.name with
  | error status =>
      constructor
      · intro impossible
        cases impossible
      · rintro ⟨valid, accepted⟩
        cases answered.symm.trans (awaited_eq_ok.mpr ⟨valid, rfl, accepted.keyed⟩)
  | ok frame =>
      rcases awaited_eq_ok.mp answered with ⟨valid, rfl, keyed⟩
      cases decoded : decodeMessage VerifyResponse.decode
          (destination (verifyQuestion record full index)) with
      | error status =>
          simp only [decoded]
          constructor
          · intro impossible
            cases impossible
          · rintro ⟨_, accepted⟩
            cases decoded.symm.trans accepted.decoded
      | ok answer =>
          simp only [decoded]
          by_cases other : answer.movementId ≠ record.id ∨
              answer.objectId ≠ record.object.objectId ∨
              answer.objectGeneration ≠ record.object.generation
          · rw [if_pos other]
            constructor
            · intro impossible
              cases impossible
            · rintro ⟨_, accepted⟩
              cases decoded.symm.trans accepted.decoded
              rcases other with movement | object | generation
              · exact absurd accepted.movement movement
              · exact absurd accepted.object object
              · exact absurd accepted.generation generation
          · rw [if_neg other]
            by_cases refused : answer.code ≠ .OK
            · rw [if_pos refused]
              constructor
              · intro impossible
                cases impossible
              · rintro ⟨_, accepted⟩
                cases decoded.symm.trans accepted.decoded
                exact absurd accepted.code refused
            · rw [if_neg refused]
              simp only [not_or, ne_eq, not_not] at other refused
              constructor
              · intro same
                cases same
                exact ⟨valid, keyed, decoded, other.1, other.2.1, other.2.2, refused⟩
              · rintro ⟨_, accepted⟩
                cases decoded.symm.trans accepted.decoded
                rfl

/-- The answer to one sampled question passes. -/
def SamplePasses (record : MovementRecord) (destination : VerifyRequest -> Frame)
    (index : UInt32) : Prop :=
  exists response, (verifyQuestion record false index).validate = .ok () ∧
    AcceptedAnswer record index (destination (verifyQuestion record false index)) response ∧
    checkSample record.object index response = .ok ()

theorem probe_eq_ok {indices : List UInt32} :
    (Program.interpret (conversation destination) sent (probeSamples link record indices)).2 =
        .ok () ↔ forall index, index ∈ indices -> SamplePasses record destination index := by
  induction indices generalizing sent with
  | nil => exact ⟨fun _ index inside => absurd inside List.not_mem_nil, fun _ => rfl⟩
  | cons index rest ih =>
      have step : Program.interpret (conversation destination) sent
          (probeSamples link record (index :: rest)) = _ :=
        Program.interpret_bind (conversation destination) sent
          (askDestination link record false index) _
      rw [step, List.forall_mem_cons]
      cases answered : (Program.interpret (conversation destination) sent
          (askDestination link record false index)).2 with
      | error status =>
          constructor
          · intro impossible
            cases impossible
          · rintro ⟨⟨response, valid, accepted, _⟩, _⟩
            cases answered.symm.trans (ask_eq_ok.mpr ⟨valid, accepted⟩)
      | ok response =>
          rcases ask_eq_ok.mp answered with ⟨valid, accepted⟩
          cases checked : checkSample record.object index response with
          | error status =>
              simp only [checked]
              constructor
              · intro impossible
                cases impossible
              · rintro ⟨⟨other, _, also, passes⟩, _⟩
                cases accepted.decoded.symm.trans also.decoded
                cases checked.symm.trans passes
          | ok passed =>
              simp only [checked]
              constructor
              · intro probed
                exact ⟨⟨response, valid, accepted, checked⟩, ih.mp probed⟩
              · rintro ⟨_, others⟩
                exact ih.mpr others

theorem verified_eq_ok {digest : Digest} (sampling : config.policy.verifySampleChunks = true) :
    verified config record destination = .ok digest ↔
      exists full, (verifyQuestion record true 0).validate = .ok () ∧
        AcceptedAnswer record 0 (destination (verifyQuestion record true 0)) full ∧
        checkFull record.object full = .ok () ∧ full.storedDigest = digest ∧
        forall index, index ∈ sampleOf config record -> SamplePasses record destination index := by
  have step : verified config record destination =
      (Program.interpret (conversation destination) none (askDestination 0 record true 0 >>= _)).2 :=
    rfl
  rw [step, Program.interpret_bind]
  cases answered : (Program.interpret (conversation destination) none
      (askDestination 0 record true 0)).2 with
  | error status =>
      constructor
      · intro impossible
        cases impossible
      · rintro ⟨full, valid, accepted, _⟩
        cases answered.symm.trans (ask_eq_ok.mpr ⟨valid, accepted⟩)
  | ok full =>
      rcases ask_eq_ok.mp answered with ⟨valid, accepted⟩
      cases checked : checkFull record.object full with
      | error status =>
          simp only [checked]
          constructor
          · intro impossible
            cases impossible
          · rintro ⟨other, _, also, passes, _⟩
            cases accepted.decoded.symm.trans also.decoded
            cases checked.symm.trans passes
      | ok passed =>
          simp only [checked, sampling, Bool.not_true, Bool.false_eq_true, if_false]
          rw [Program.interpret_bind]
          cases probed : (Program.interpret (conversation destination)
              (Program.interpret (conversation destination) none
                (askDestination 0 record true 0)).1
              (probeSamples 0 record (sampleOf config record))).2 with
          | error status =>
              constructor
              · intro impossible
                cases impossible
              · rintro ⟨_, _, _, _, _, samples⟩
                cases probed.symm.trans (probe_eq_ok.mpr samples)
          | ok finished =>
              have samples := probe_eq_ok.mp probed
              constructor
              · intro same
                cases same
                exact ⟨full, valid, accepted, checked, rfl, samples⟩
              · rintro ⟨other, _, also, _, rfl, _⟩
                cases accepted.decoded.symm.trans also.decoded
                rfl

end Conversation

/-! ## Soundness -/

/-- The payload that came back for a chunk is that chunk of the content. -/
def ReturnsChunk (record : MovementRecord) (destination : VerifyRequest -> Frame)
    (index : UInt32) (content : Bytes) : Prop :=
  exists response offset length,
    decodeMessage VerifyResponse.decode (destination (verifyQuestion record false index)) =
      .ok response ∧
    record.object.chunkOffset index = .ok offset ∧ record.object.chunkLength index = .ok length ∧
    response.chunkPayload = (content.drop offset.toNat).take length.toNat

/-- Whatever the destination answers, a verification that succeeds has read back the
chunks of every content that the record could be about. -/
def VerificationSound (config : CoordinatorConfig) (record : MovementRecord) : Prop :=
  forall destination digest, verified config record destination = .ok digest ->
    forall index, index ∈ sampleOf config record -> forall content : Bytes,
      content.length = record.object.totalBytes.toNat ->
      sha256 content = record.object.contentDigest -> ReturnsChunk record destination index content

/-- The records that a destination can answer for with bytes of its own choice: the
question is well formed, the sampled chunks exist and fit in an answer, one of them is
not empty, and there is a content to be wrong about. -/
structure Spoofable (config : CoordinatorConfig) (record : MovementRecord) : Prop where
  asked : (verifyQuestion record true 0).validate = .ok ()
  fits : forall index, index ∈ sampleOf config record ->
    exists length, record.object.chunkLength index = .ok length ∧
      length.toNat ≤ kMaxWireChunkBytes
  inhabited : exists index length, index ∈ sampleOf config record ∧
    record.object.chunkLength index = .ok length ∧ 0 < length.toNat
  content : exists content : Bytes, content.length = record.object.totalBytes.toNat ∧
    sha256 content = record.object.contentDigest

/-- An answer whose payload is one byte repeated, with a digest that fits the payload. -/
def forgery (object : StateObjectDescriptor) (byte : Byte) (question : VerifyRequest) :
    VerifyResponse :=
  let offset := valueOr 0 (object.chunkOffset question.chunkIndex)
  let length := valueOr 0 (object.chunkLength question.chunkIndex)
  let payload := if question.fullDigestRequested then [] else List.replicate length.toNat byte
  { movementId := question.movementId
    objectId := question.objectId
    objectGeneration := question.objectGeneration
    code := .OK
    storedDigest := object.contentDigest
    storedBytes := object.totalBytes
    storedChunks := object.chunkCount
    chunkIndex := question.chunkIndex
    chunkDigest := computeChunkDigest object.objectId object.generation question.chunkIndex offset
      length payload
    chunkPayload := payload }

section Forgery

variable {config : CoordinatorConfig} {record : MovementRecord} {byte : Byte}

variable {length : UInt64}

theorem forgery_payload (ofLength : record.object.chunkLength index = .ok length) :
    (forgery record.object byte (verifyQuestion record false index)).chunkPayload =
      List.replicate length.toNat byte := by
  change List.replicate (valueOr 0 (record.object.chunkLength index)).toNat byte = _
  rw [ofLength]
  rfl

theorem accepted_forgery (asked : (verifyQuestion record true 0).validate = .ok ())
    (fits : full = true ∨ exists length, record.object.chunkLength index = .ok length ∧
      length.toNat ≤ kMaxWireChunkBytes) :
    AcceptedAnswer record index
      (forgery record.object byte (verifyQuestion record full index)).frame
      (forgery record.object byte (verifyQuestion record full index)) := by
  rcases VerifyRequest.validate_eq_ok.mp asked with ⟨movement, _, object, generation⟩
  have short : (forgery record.object byte (verifyQuestion record full index)).chunkPayload.length ≤
      kMaxWireChunkBytes := by
    cases full with
    | true => exact Nat.zero_le _
    | false =>
        rcases fits with impossible | ⟨length, ofLength, bounded⟩
        · cases impossible
        · rw [forgery_payload ofLength, List.length_replicate]
          exact bounded
  have decoded : decodeMessage VerifyResponse.decode
      (forgery record.object byte (verifyQuestion record full index)).frame =
        .ok (forgery record.object byte (verifyQuestion record full index)) :=
    VerifyResponse.decode_frame rfl
      (VerifyResponse.validate_eq_ok.mpr ⟨movement, object, generation, short⟩)
  refine ⟨?_, decoded, rfl, rfl, rfl, rfl⟩
  change keyOf VerifyResponse.decode _
    (forgery record.object byte (verifyQuestion record full index)).frame = _
  rw [keyOf, decoded]
  rfl

theorem samplePasses_forgery (asked : (verifyQuestion record true 0).validate = .ok ())
    (ofLength : record.object.chunkLength index = .ok length)
    (bounded : length.toNat ≤ kMaxWireChunkBytes) :
    SamplePasses record (fun question => (forgery record.object byte question).frame) index := by
  rcases bind_eq_ok.mp ofLength with ⟨offset, atOffset, _⟩
  refine ⟨_, VerifyRequest.validate_eq_ok.mpr (VerifyRequest.validate_eq_ok.mp asked),
    accepted_forgery asked (.inr ⟨length, ofLength, bounded⟩), ?_⟩
  refine checkSample_eq_ok.mpr ⟨offset, length, atOffset, ofLength, ?_, ?_⟩
  · rw [forgery_payload ofLength, List.length_replicate]
  · change _ = computeChunkDigest record.object.objectId record.object.generation index
      (valueOr 0 (record.object.chunkOffset index)) (valueOr 0 (record.object.chunkLength index)) _
    rw [atOffset, ofLength]
    rfl

theorem verified_forgery (spoofable : Spoofable config record)
    (sampling : config.policy.verifySampleChunks = true) :
    verified config record (fun question => (forgery record.object byte question).frame) =
      .ok record.object.contentDigest := by
  refine (verified_eq_ok sampling).mpr ⟨forgery record.object byte (verifyQuestion record true 0),
    spoofable.asked, accepted_forgery spoofable.asked (.inl rfl), ?_, rfl, fun index inside => ?_⟩
  · exact checkFull_eq_ok.mpr ⟨rfl, rfl⟩
  · rcases spoofable.fits index inside with ⟨length, ofLength, bounded⟩
    exact samplePasses_forgery spoofable.asked ofLength bounded

end Forgery

/-- Two bytes in a row are different. -/
theorem byte_ne_succ (byte : Byte) : byte ≠ byte + 1 := by
  intro same
  have values := congrArg UInt8.toNat same
  rw [UInt8.toNat_add] at values
  have bound := byte.toNat_lt
  change byte.toNat = (byte.toNat + 1) % 256 at values
  omega

theorem not_verificationSound_of_spoofable {config : CoordinatorConfig} {record : MovementRecord}
    (sampling : config.policy.verifySampleChunks = true) (spoofable : Spoofable config record) :
    ¬VerificationSound config record := by
  intro sound
  rcases spoofable.inhabited with ⟨index, length, inside, ofLength, positive⟩
  rcases spoofable.fits index inside with ⟨bound, also, bounded⟩
  cases ofLength.symm.trans also
  rcases spoofable.content with ⟨content, total, digest⟩
  rcases bind_eq_ok.mp ofLength with ⟨offset, atOffset, _⟩
  -- any byte will do that differs from the first one of the chunk
  let wrong : Byte := ((content.drop offset.toNat).take length.toNat).headD 0 + 1
  have fooled : verified config record (fun question => (forgery record.object wrong question).frame) =
      .ok record.object.contentDigest := verified_forgery spoofable sampling
  rcases sound _ _ fooled index inside content total digest with
    ⟨response, offset', length', decoded, atOffset', ofLength', returned⟩
  cases atOffset.symm.trans atOffset'
  cases ofLength.symm.trans ofLength'
  have accepted := (accepted_forgery spoofable.asked (.inr ⟨length, ofLength, bounded⟩) :
    AcceptedAnswer record index (forgery record.object wrong (verifyQuestion record false index)).frame _)
  cases decoded.symm.trans accepted.decoded
  rw [forgery_payload ofLength] at returned
  have heads := congrArg (fun bytes : Bytes => bytes.headD 0) returned
  have front : (List.replicate length.toNat wrong).headD 0 = wrong := by
    cases size : length.toNat with
    | zero => omega
    | succ shorter => rfl
  exact byte_ne_succ _ (heads.symm.trans front)

/-- An accepted answer to a sampled question carries a chunk of the right length, and
no more than fits in an answer. -/
theorem SamplePasses.sized {record : MovementRecord} {destination : VerifyRequest -> Frame}
    (passes : SamplePasses record destination index) :
    exists response offset length,
      decodeMessage VerifyResponse.decode (destination (verifyQuestion record false index)) =
        .ok response ∧
      record.object.chunkOffset index = .ok offset ∧
      record.object.chunkLength index = .ok length ∧
      response.chunkPayload.length = length.toNat ∧ length.toNat ≤ kMaxWireChunkBytes := by
  rcases passes with ⟨response, _, accepted, checked⟩
  rcases checkSample_eq_ok.mp checked with ⟨offset, length, atOffset, ofLength, sized, _⟩
  have bounded := (VerifyResponse.validate_eq_ok.mp
    (validate_of_decodeMessage accepted.decoded)).2.2.2
  exact ⟨response, offset, length, accepted.decoded, atOffset, ofLength, sized, sized ▸ bounded⟩

theorem verificationSound_of_not_spoofable {config : CoordinatorConfig} {record : MovementRecord}
    (sampling : config.policy.verifySampleChunks = true)
    (safe : ¬Spoofable config record) : VerificationSound config record := by
  intro destination digest succeeded index inside content total hashes
  rcases (verified_eq_ok sampling).mp succeeded with ⟨_, asked, _, _, _, samples⟩
  rcases (samples index inside).sized with ⟨response, offset, length, decoded, atOffset, ofLength,
    sized, _⟩
  have empty : length.toNat = 0 := by
    by_contra positive
    refine safe ⟨asked, fun other member => ?_, ⟨index, length, inside, ofLength, by omega⟩,
      content, total, hashes⟩
    rcases (samples other member).sized with ⟨_, _, bound, _, _, known, _, bounded⟩
    exact ⟨bound, known, bounded⟩
  refine ⟨response, offset, length, decoded, atOffset, ofLength, ?_⟩
  rw [empty] at sized ⊢
  rw [List.take_zero]
  exact List.eq_nil_of_length_eq_zero sized

/-- Verification is sound for exactly the records that cannot be spoofed. -/
theorem verificationSound_iff_not_spoofable (config : CoordinatorConfig) (record : MovementRecord)
    (sampling : config.policy.verifySampleChunks = true) :
    VerificationSound config record ↔ ¬Spoofable config record := by
  constructor
  · intro sound spoofable
    exact not_verificationSound_of_spoofable sampling spoofable sound
  · exact verificationSound_of_not_spoofable sampling

/-- A movement of an object without a byte. -/
def emptyMovement : MovementRecord :=
  { oneByteMovement .BYTES_ARRIVED with
    object := { oneByteObject with totalBytes := 0, chunkCount := 0 } }

theorem verificationSound_emptyMovement :
    defaultConfig.policy.verifySampleChunks = true ∧ VerificationSound defaultConfig emptyMovement := by
  refine ⟨rfl, (verificationSound_iff_not_spoofable defaultConfig emptyMovement rfl).mpr ?_⟩
  intro spoofable
  rcases spoofable.inhabited with ⟨index, length, inside, _⟩
  cases inside

/-- The object is the byte `1`.  A destination that holds the byte `2` and reports the
digest of `1` passes, without any collision of the digests. -/
theorem not_verificationSound_oneByteMovement :
    sha256 [2] ≠ oneByteDigest ∧
      ¬VerificationSound defaultConfig (oneByteMovement .BYTES_ARRIVED) := by
  have passes : verified defaultConfig (oneByteMovement .BYTES_ARRIVED)
      (fun question => (forgery oneByteObject 2 question).frame) = .ok oneByteDigest := by
    decide +kernel
  have sampled : (0 : UInt32) ∈ sampleOf defaultConfig (oneByteMovement .BYTES_ARRIVED) := by
    decide +kernel
  have hashes : sha256 [1] = oneByteDigest := by decide +kernel
  have returned : (decodeMessage VerifyResponse.decode (forgery oneByteObject 2
      (verifyQuestion (oneByteMovement .BYTES_ARRIVED) false 0)).frame).map
        VerifyResponse.chunkPayload = .ok [2] := by
    decide +kernel
  refine ⟨by decide +kernel, ?_⟩
  intro sound
  rcases sound _ _ passes 0 sampled [1] rfl hashes with
    ⟨response, offset, length, decoded, atOffset, ofLength, slice⟩
  cases atOffset
  cases ofLength
  rw [decoded] at returned
  change Except.ok response.chunkPayload = _ at returned
  rw [slice] at returned
  cases returned

end StateMovementFabric
