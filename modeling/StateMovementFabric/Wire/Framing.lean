import StateMovementFabric.Wire.Frame

namespace StateMovementFabric

open Foundation

/-!
# Frames on the wire

A frame on the wire is a header of forty bytes and a payload.  A `FrameCodec` numbers
what it sends, expects the numbers of what it receives one after another, and, once it
holds a session key, puts a truncated HMAC over the first 24 header bytes and the
payload into every frame that it sends.
-/

/-! ## Message types -/

/-- The value of the enumerator. -/
def MessageType.value : MessageType -> UInt16
  | INVALID => 0 | HELLO => 1 | HELLO_ACK => 2 | HELLO_REJECT => 3
  | REGISTER => 10 | REGISTER_ACK => 11 | ANNOUNCE_OBJECT => 12 | ANNOUNCE_ACK => 13
  | HEARTBEAT => 14 | HEARTBEAT_ACK => 15
  | GRANT_TRANSFER => 20 | GRANT_ACK => 21 | EXECUTE_MOVEMENT => 22 | ATTEMPT_RESULT => 23
  | CANCEL => 24 | CANCEL_ACK => 25
  | COMMIT_REQUEST => 30 | COMMIT_RESULT => 31 | VERIFY_REQUEST => 32 | VERIFY_RESPONSE => 33
  | AUTHORITY_QUERY => 34 | AUTHORITY_REPORT => 35 | CLEANUP_REQUEST => 36 | CLEANUP_RESULT => 37
  | DATA_BEGIN => 40 | DATA_BEGIN_ACK => 41 | DATA_CHUNK => 42 | DATA_CHUNK_ACK => 43
  | DATA_END => 44 | DATA_RESULT => 45 | DATA_ABORT => 46
  | SUBMIT_MOVEMENT => 50 | MOVEMENT_ACCEPTED => 51 | QUERY_MOVEMENT => 52
  | MOVEMENT_STATUS => 53 | LIST_MOVEMENTS => 54 | MOVEMENT_LIST => 55 | CANCEL_MOVEMENT => 56
  | RECONCILE_MOVEMENT => 57 | PROVENANCE_REQUEST => 58 | PROVENANCE_REPORT => 59
  | TOPOLOGY_REQUEST => 60 | TOPOLOGY_REPORT => 61 | POLICY_REQUEST => 62 | POLICY_REPORT => 63
  | SHUTDOWN => 64 | SHUTDOWN_ACK => 65
  | ERROR => 99

/-- The enumerators, in the order of their values. -/
def MessageType.all : List MessageType := [
  .INVALID, .HELLO, .HELLO_ACK, .HELLO_REJECT, .REGISTER, .REGISTER_ACK, .ANNOUNCE_OBJECT,
  .ANNOUNCE_ACK, .HEARTBEAT, .HEARTBEAT_ACK, .GRANT_TRANSFER, .GRANT_ACK, .EXECUTE_MOVEMENT,
  .ATTEMPT_RESULT, .CANCEL, .CANCEL_ACK, .COMMIT_REQUEST, .COMMIT_RESULT, .VERIFY_REQUEST,
  .VERIFY_RESPONSE, .AUTHORITY_QUERY, .AUTHORITY_REPORT, .CLEANUP_REQUEST, .CLEANUP_RESULT,
  .DATA_BEGIN, .DATA_BEGIN_ACK, .DATA_CHUNK, .DATA_CHUNK_ACK, .DATA_END, .DATA_RESULT,
  .DATA_ABORT, .SUBMIT_MOVEMENT, .MOVEMENT_ACCEPTED, .QUERY_MOVEMENT, .MOVEMENT_STATUS,
  .LIST_MOVEMENTS, .MOVEMENT_LIST, .CANCEL_MOVEMENT, .RECONCILE_MOVEMENT, .PROVENANCE_REQUEST,
  .PROVENANCE_REPORT, .TOPOLOGY_REQUEST, .TOPOLOGY_REPORT, .POLICY_REQUEST, .POLICY_REPORT,
  .SHUTDOWN, .SHUTDOWN_ACK, .ERROR]

/-- `static_cast<MessageType>`. -/
def MessageType.cast (value : UInt16) : Option MessageType :=
  MessageType.all.find? fun type => type.value == value

theorem MessageType.cast_value (type : MessageType) :
    MessageType.cast type.value = some type := by
  cases type <;> rfl

theorem MessageType.value_injective : Function.Injective MessageType.value := by
  intro first second same
  have found := MessageType.cast_value first
  rw [same, MessageType.cast_value] at found
  exact (Option.some.inj found).symm

/-- `message_type_from_value`. -/
def messageTypeFromValue (value : UInt16) : Option MessageType :=
  if value == 0 then none
  else if value == 99 then some .ERROR
  else if value ≥ 1 && value ≤ 3 then MessageType.cast value
  else if value ≥ 10 && value ≤ 15 then MessageType.cast value
  else if value ≥ 20 && value ≤ 25 then MessageType.cast value
  else if value ≥ 30 && value ≤ 37 then MessageType.cast value
  else if value ≥ 40 && value ≤ 46 then MessageType.cast value
  else if value ≥ 50 && value ≤ 65 then MessageType.cast value
  else none

theorem messageTypeFromValue_value {type : MessageType} (valid : type ≠ .INVALID) :
    messageTypeFromValue type.value = some type := by
  cases type <;> first | rfl | exact absurd rfl valid

/-- `is_handshake_message`. -/
def isHandshakeMessage (type : MessageType) : Bool :=
  type == .HELLO || type == .HELLO_ACK || type == .HELLO_REJECT

/-! ## Headers -/

def kProtocolVersion : UInt8 := 1
def kFrameMagic : Bytes := [0x53, 0x4D, 0x46, 0x31]
def kFrameHeaderBytes : Nat := 40
def kFrameAuthTagBytes : Nat := 16

/-- `FrameFlag::AUTHENTICATED`. -/
def kAuthenticated : UInt8 := 0x01

def kKnownFlags : UInt8 := kAuthenticated ||| 0x02 ||| 0x04

structure FrameHeader where
  version : UInt8 := kProtocolVersion
  flags : UInt8 := 0
  type : MessageType := .INVALID
  payloadLength : UInt32 := 0
  sequence : UInt64 := 0
  authTag : Digest := .zero
  deriving DecidableEq

namespace FrameHeader

/-- `(header.flags & AUTHENTICATED) != 0`. -/
def authenticated (header : FrameHeader) : Bool := header.flags &&& kAuthenticated != 0

/-- The header bytes in front of the tag.  The two reserved fields are zero. -/
def covered (header : FrameHeader) : Bytes :=
  kFrameMagic ++ [header.version, header.flags] ++ [0, 0] ++ storeLe header.type.value.toNat 2 ++
    [0, 0] ++ storeLe header.payloadLength.toNat 4 ++ storeLe header.sequence.toNat 8

theorem length_covered (header : FrameHeader) : header.covered.length = 24 := by
  simp [covered, kFrameMagic]

end FrameHeader

/-- `encode_frame_header`. -/
def encodeFrameHeader (header : FrameHeader) : Bytes :=
  header.covered ++ header.authTag.bytes.take kFrameAuthTagBytes

theorem length_encodeFrameHeader (header : FrameHeader) :
    (encodeFrameHeader header).length = kFrameHeaderBytes := by
  simp [encodeFrameHeader, header.length_covered, header.authTag.width, kFrameAuthTagBytes,
    kFrameHeaderBytes]

theorem take_encodeFrameHeader (header : FrameHeader) :
    (encodeFrameHeader header).take 24 = header.covered := by
  rw [encodeFrameHeader, ← header.length_covered, List.take_left]

/-- A tag of `kFrameAuthTagBytes` bytes, held in a digest whose other bytes are zero. -/
def tagDigest (raw : Bytes) : Digest :=
  ⟨(raw.take kFrameAuthTagBytes ++ List.replicate 32 0).take 32, by simp⟩

/-- The header with its tag cut to the width that travels. -/
def FrameHeader.cut (header : FrameHeader) : FrameHeader :=
  { header with authTag := tagDigest (header.authTag.bytes.take kFrameAuthTagBytes) }

/-- `decode_frame_header`. -/
def decodeFrameHeader (input : Bytes) (maxPayloadBytes : UInt32) : Result FrameHeader := do
  refuseWhen (input.length != kFrameHeaderBytes) .PROTOCOL_TRUNCATED
    "frame header is not the fixed size"
  refuseWhen (input.take 4 != kFrameMagic) .PROTOCOL_MAGIC_MISMATCH "frame magic does not match"
  let version := input.getD 4 0
  refuseWhen (version != kProtocolVersion) .PROTOCOL_VERSION_MISMATCH
    "frame protocol version is not supported"
  let flags := input.getD 5 0
  refuseWhen (flags &&& ~~~kKnownFlags != 0) .PROTOCOL_FLAGS_INVALID
    "frame carries unknown flag bits"
  refuseWhen (loadLe ((input.drop 6).take 2) != 0 || loadLe ((input.drop 10).take 2) != 0)
    .PROTOCOL_RESERVED_NONZERO "frame reserved fields must be zero"
  -- Two bytes are never above `0xFFFF`, so the range check of the source cannot fail.
  match messageTypeFromValue (UInt16.ofNat (loadLe ((input.drop 8).take 2))) with
  | none => refuse .PROTOCOL_UNKNOWN_MESSAGE "frame message type is not recognized"
  | some type =>
      let payloadLength := loadLe ((input.drop 12).take 4)
      refuseWhen (payloadLength > maxPayloadBytes.toNat) .PROTOCOL_PAYLOAD_TOO_LARGE
        "frame declares a payload longer than the permitted bound"
      let sequence := loadLe ((input.drop 16).take 8)
      refuseWhen (sequence == 0) .PROTOCOL_CANONICAL_VIOLATION
        "frame sequence numbers start at one"
      return { version, flags, type, payloadLength := .ofNat payloadLength,
               sequence := .ofNat sequence, authTag := tagDigest (input.drop 24) }

/-! ## The codec -/

/-- `frame_auth_tag`. -/
def frameAuthTag (sessionKey : Bytes) (header : FrameHeader) (payload : Bytes) : Digest :=
  (((HmacSha256.start sessionKey).update ((encodeFrameHeader header).take 24)).update
    payload).finalize

/-- The comparison of the truncated tags in `FrameCodec::verify`. -/
def tagMatches (key : Digest) (header : FrameHeader) (payload : Bytes) : Bool :=
  (frameAuthTag key.bytes header payload).bytes.take kFrameAuthTagBytes ==
    header.authTag.bytes.take kFrameAuthTagBytes

/-- A header and the payload behind it. -/
structure WireFrame where
  header : FrameHeader
  payload : Bytes
  deriving DecidableEq

namespace WireFrame

def bytes (frame : WireFrame) : Bytes := encodeFrameHeader frame.header ++ frame.payload

/-- The two frames have the same 24 header bytes and the same payload, so that one tag
serves both. -/
def sameText (first second : WireFrame) : Bool :=
  first.header.covered == second.header.covered && first.payload == second.payload

/-- What a message handler sees of a frame. -/
def content (frame : WireFrame) : MessageType × UInt8 × Bytes :=
  (frame.header.type, frame.header.flags, frame.payload)

end WireFrame

/-- `FrameCodec`. -/
structure FrameCodec where
  key : Option Digest := none
  sendSequence : UInt64 := 1
  expectedSequence : UInt64 := 1
  deriving DecidableEq

namespace FrameCodec

/-- At most 32 bytes of a key, filled up with zeros. -/
def sessionKey (key : Bytes) : Digest := ⟨(key ++ List.replicate 32 0).take 32, by simp⟩

theorem sessionKey_digest (key : Digest) : sessionKey key.bytes = key := by
  apply Digest.ext_bytes
  exact (List.take_append_of_le_length (le_of_eq key.width.symm)).trans
    (List.take_of_length_le (le_of_eq key.width))

/-- `FrameCodec::set_session_key`. -/
def setSessionKey (codec : FrameCodec) (key : Bytes) : FrameCodec :=
  { codec with key := some (sessionKey key) }

/-- The frame that `encode` builds. -/
def outgoing (codec : FrameCodec) (type : MessageType) (flags : UInt8) (payload : Bytes) :
    WireFrame :=
  let header : FrameHeader :=
    { flags, type, payloadLength := .ofNat payload.length, sequence := codec.sendSequence }
  match codec.key with
  | none => ⟨header, payload⟩
  | some key =>
      let marked := { header with flags := flags ||| kAuthenticated }
      ⟨{ marked with authTag := frameAuthTag key.bytes marked payload }, payload⟩

/-- `FrameCodec::encode`, and the codec that it leaves. -/
def encode (codec : FrameCodec) (type : MessageType) (flags : UInt8) (payload : Bytes)
    (maxPayloadBytes : UInt32) : Result (Bytes × FrameCodec) := do
  refuseWhen (payload.length > maxPayloadBytes.toNat) .PROTOCOL_PAYLOAD_TOO_LARGE
    "outbound payload exceeds the frame bound"
  if isHandshakeMessage type then
    refuseWhen codec.key.isSome .PROTOCOL_STATE_VIOLATION
      "handshake messages are only exchanged before the session is keyed"
  else
    refuseWhen codec.key.isNone .PROTOCOL_HANDSHAKE_REQUIRED
      "a session must be authenticated before any other message is sent"
  return ((codec.outgoing type flags payload).bytes,
    { codec with sendSequence := codec.sendSequence + 1 })

/-- The part of `verify` that looks at the type, the flag and the tag. -/
def admits (codec : FrameCodec) (header : FrameHeader) (payload : Bytes) : Result Unit :=
  if isHandshakeMessage header.type then
    refuseWhen header.authenticated .PROTOCOL_STATE_VIOLATION
      "handshake messages must not be marked authenticated"
  else do
    refuseWhen (!header.authenticated) .PROTOCOL_HANDSHAKE_REQUIRED
      "unauthenticated frame arrived outside the handshake"
    match codec.key with
    | none =>
        refuse .PROTOCOL_HANDSHAKE_REQUIRED
          "authenticated frame arrived before the session key was established"
    | some key =>
        refuseWhen (!tagMatches key header payload) .PROTOCOL_AUTH_FAILED
          "frame authentication tag did not verify"

/-- `FrameCodec::verify`: the codec that an accepted frame leaves.  A refused frame
leaves the codec as it was. -/
def verify (codec : FrameCodec) (header : FrameHeader) (payload : Bytes)
    (maxPayloadBytes : UInt32) : Result FrameCodec := do
  refuseWhen (payload.length > maxPayloadBytes.toNat) .PROTOCOL_PAYLOAD_TOO_LARGE
    "received payload exceeds the frame bound"
  refuseWhen (payload.length != header.payloadLength.toNat) .PROTOCOL_TRUNCATED
    "received payload length does not match the declared length"
  codec.admits header payload
  refuseWhen (header.sequence < codec.expectedSequence) .PROTOCOL_SEQUENCE_REPLAY
    "frame sequence number has already been consumed"
  refuseWhen (header.sequence > codec.expectedSequence) .PROTOCOL_SEQUENCE_REGRESSION
    "frame sequence number skipped ahead of the expected value"
  return { codec with expectedSequence := codec.expectedSequence + 1 }

end FrameCodec

/-- `derive_session_key`: one key for both directions. -/
def deriveSessionKey (secret : Bytes) (clientNonce serverNonce : Nonce) : Digest :=
  canonicalMac secret
    [CanonicalEncoder.text (ascii "SMF-SESSION-v1"), clientNonce.encode, serverNonce.encode].flatten

/-! ## What the codec accepts and sends -/

/-- The 24 header bytes determine the fields that they hold. -/
theorem FrameHeader.fields_of_covered {first second : FrameHeader}
    (same : first.covered = second.covered) :
    first.flags = second.flags ∧ first.type = second.type ∧ first.sequence = second.sequence := by
  have numbers := same
  simp only [FrameHeader.covered, kFrameMagic, List.append_assoc, List.cons_append,
    List.nil_append, List.cons.injEq, true_and] at numbers
  rcases numbers with ⟨-, flags, rest⟩
  rcases List.append_inj rest (by simp) with ⟨type, rest⟩
  simp only [List.cons.injEq, true_and] at rest
  rcases List.append_inj rest (by simp) with ⟨-, sequence⟩
  refine ⟨flags, MessageType.value_injective (UInt16.toNat_inj.mp ?_), UInt64.toNat_inj.mp ?_⟩
  · have value := congrArg loadLe type
    rwa [loadLe_storeLe_of_lt first.type.value.toNat_lt,
      loadLe_storeLe_of_lt second.type.value.toNat_lt] at value
  · have value := congrArg loadLe sequence
    rwa [loadLe_storeLe_of_lt first.sequence.toNat_lt,
      loadLe_storeLe_of_lt second.sequence.toNat_lt] at value

namespace FrameCodec

variable {codec next : FrameCodec} {header : FrameHeader} {payload : Bytes} {type : MessageType}
  {flags : UInt8} {bytes : Bytes} {maxPayloadBytes : UInt32} {key : Digest}

/-- What a keyed codec lets through before it looks at the sequence number. -/
theorem admits_eq_ok (keyed : codec.key = some key) :
    codec.admits header payload = .ok () ↔
      if isHandshakeMessage header.type then header.authenticated = false
      else header.authenticated = true ∧ tagMatches key header payload = true := by
  rw [admits, keyed]
  cases isHandshakeMessage header.type with
  | true => simp
  | false => simp [check_bind_eq_ok]

/-- `verify` accepts the frame with the expected number, if it is as long as it says and
is let through. -/
theorem verify_eq_ok :
    codec.verify header payload maxPayloadBytes = .ok next ↔
      payload.length ≤ maxPayloadBytes.toNat ∧ payload.length = header.payloadLength.toNat ∧
        codec.admits header payload = .ok () ∧ header.sequence = codec.expectedSequence ∧
        { codec with expectedSequence := codec.expectedSequence + 1 } = next := by
  rw [verify]
  have between : ¬ header.sequence < codec.expectedSequence ∧
      ¬ codec.expectedSequence < header.sequence ↔ header.sequence = codec.expectedSequence := by
    rw [UInt64.lt_iff_toNat_lt, UInt64.lt_iff_toNat_lt, ← UInt64.toNat_inj]
    omega
  rw [← between]
  simp [check_bind_eq_ok, and_assoc, pure, Except.pure]

/-- What a keyed codec sends. -/
theorem encode_eq_ok (keyed : codec.key = some key) :
    codec.encode type flags payload maxPayloadBytes = .ok (bytes, next) ↔
      payload.length ≤ maxPayloadBytes.toNat ∧ isHandshakeMessage type = false ∧
        (codec.outgoing type flags payload).bytes = bytes ∧
        { codec with sendSequence := codec.sendSequence + 1 } = next := by
  rw [encode, keyed]
  cases isHandshakeMessage type with
  | true =>
      constructor
      · intro sent
        have refused := (check_bind_eq_ok.mp (refuseWhen_bind_eq_ok.mp sent).2).1
        cases refused
      · rintro ⟨-, impossible, -⟩
        cases impossible
  | false => simp [check_bind_eq_ok, pure, Except.pure]

theorem encode_leaves (encoded : codec.encode type flags payload maxPayloadBytes = .ok (bytes, next)) :
    { codec with sendSequence := codec.sendSequence + 1 } = next := by
  rw [encode] at encoded
  rcases check_bind_eq_ok.mp encoded with ⟨-, encoded⟩
  split at encoded
  · cases (check_bind_eq_ok.mp encoded).2
    rfl
  · cases (check_bind_eq_ok.mp encoded).2
    rfl

theorem authenticated_or (flags : UInt8) : (flags ||| kAuthenticated) &&& kAuthenticated ≠ 0 := by
  have bits : forall low : Fin 256,
      (UInt8.ofNat low.val ||| kAuthenticated) &&& kAuthenticated ≠ 0 := by decide +kernel
  have flag := bits ⟨flags.toNat, flags.toNat_lt⟩
  rwa [UInt8.ofNat_toNat] at flag

/-- A frame that a keyed codec sends passes the check of its own tag: the tag is not
among the bytes that it covers. -/
theorem admits_outgoing {sender : FrameCodec} (sends : sender.key = some key)
    (keyed : codec.key = some key) (later : isHandshakeMessage type = false) :
    codec.admits (sender.outgoing type flags payload).header payload = .ok () := by
  rw [admits_eq_ok keyed, outgoing, sends]
  simp only [later, Bool.false_eq_true, if_false]
  constructor
  · simp [FrameHeader.authenticated, authenticated_or]
  · simp only [tagMatches, beq_iff_eq]
    rfl

theorem sequence_outgoing (codec : FrameCodec) (type : MessageType) (flags : UInt8)
    (payload : Bytes) :
    (codec.outgoing type flags payload).header.sequence = codec.sendSequence := by
  rw [outgoing]
  cases codec.key <;> rfl

theorem payloadLength_outgoing (codec : FrameCodec) (type : MessageType) (flags : UInt8)
    (payload : Bytes) :
    (codec.outgoing type flags payload).header.payloadLength = .ofNat payload.length := by
  rw [outgoing]
  cases codec.key <;> rfl

/-- A peer with the same key accepts what a keyed codec sends, if it carries the number
that the peer expects. -/
theorem verify_outgoing {sender : FrameCodec} (sends : sender.key = some key)
    (keyed : codec.key = some key) (inStep : sender.sendSequence = codec.expectedSequence)
    (later : isHandshakeMessage type = false) (bounded : payload.length ≤ maxPayloadBytes.toNat) :
    codec.verify (sender.outgoing type flags payload).header payload maxPayloadBytes =
      .ok { codec with expectedSequence := codec.expectedSequence + 1 } := by
  have fits : payload.length < 2 ^ 32 := Nat.lt_of_le_of_lt bounded maxPayloadBytes.toNat_lt
  rw [verify_eq_ok, payloadLength_outgoing, sequence_outgoing, UInt32.toNat_ofNat_of_lt' fits]
  exact ⟨bounded, rfl, admits_outgoing sends keyed later, inStep, rfl⟩

end FrameCodec

/-! ## Reading a header back -/

theorem tagDigest_bytes (tag : Digest) :
    (tagDigest (tag.bytes.take kFrameAuthTagBytes)).bytes.take kFrameAuthTagBytes =
      tag.bytes.take kFrameAuthTagBytes := by
  simp [tagDigest, kFrameAuthTagBytes, List.take_append, List.take_take, tag.width]

/-- A header that names a message and declares no more than the bound is read back as it was,
with the tag cut to its width, if it has a number. -/
theorem decodeFrameHeader_encode {header : FrameHeader} {maxPayloadBytes : UInt32}
    (version : header.version = kProtocolVersion) (flags : header.flags &&& ~~~kKnownFlags = 0)
    (type : header.type ≠ .INVALID)
    (bounded : header.payloadLength.toNat ≤ maxPayloadBytes.toNat) :
    decodeFrameHeader (encodeFrameHeader header) maxPayloadBytes =
      if header.sequence = 0 then
        refuse .PROTOCOL_CANONICAL_VIOLATION "frame sequence numbers start at one"
      else .ok header.cut := by
  -- The fields behind the literal bytes, each as long as its width.
  have split : encodeFrameHeader header =
      0x53 :: 0x4D :: 0x46 :: 0x31 :: header.version :: header.flags :: 0 :: 0 ::
        (storeLe header.type.value.toNat 2 ++ (0 :: 0 ::
          (storeLe header.payloadLength.toNat 4 ++ (storeLe header.sequence.toNat 8 ++
            header.authTag.bytes.take kFrameAuthTagBytes)))) := by
    simp [encodeFrameHeader, FrameHeader.covered, kFrameMagic]
  have typeField : loadLe (storeLe header.type.value.toNat 2) = header.type.value.toNat :=
    loadLe_storeLe_of_lt header.type.value.toNat_lt
  have lengthField : loadLe (storeLe header.payloadLength.toNat 4) = header.payloadLength.toNat :=
    loadLe_storeLe_of_lt header.payloadLength.toNat_lt
  have sequenceField : loadLe (storeLe header.sequence.toNat 8) = header.sequence.toNat :=
    loadLe_storeLe_of_lt header.sequence.toNat_lt
  have past (value : Nat) {width count : Nat} (filled : width ≤ count) :
      (storeLe value width).drop count = [] :=
    List.drop_eq_nil_of_le (by rwa [storeLe_length])
  rw [decodeFrameHeader, length_encodeFrameHeader, split]
  by_cases numbered : header.sequence = 0
  · rw [if_pos numbered]
    have zeroField : loadLe (storeLe header.sequence.toNat 8) = 0 := by
      rw [sequenceField, numbered]
      rfl
    simp [kFrameMagic, List.take_append, List.drop_append, loadLe, past, typeField, lengthField,
      zeroField, messageTypeFromValue_value type, version, flags, Nat.not_lt.mpr bounded, refuse,
      refuseWhen]
  · rw [if_neg numbered]
    have positive : (header.sequence.toNat == 0) = false :=
      beq_eq_false_iff_ne.mpr fun zero => numbered (UInt64.toNat_inj.mp zero)
    simp [FrameHeader.cut, kFrameMagic, List.take_append, List.drop_append, loadLe, past, typeField,
      lengthField, sequenceField, messageTypeFromValue_value type, version, flags, positive,
      Nat.not_lt.mpr bounded, pure, Except.pure]

/-- Cutting the tag to its width changes no verdict. -/
theorem tagMatches_cut (key : Digest) (header : FrameHeader) (payload : Bytes) :
    tagMatches key header.cut payload = tagMatches key header payload := by
  simp only [tagMatches, FrameHeader.cut, tagDigest_bytes]
  rw [frameAuthTag, frameAuthTag, take_encodeFrameHeader, take_encodeFrameHeader]
  rfl

end StateMovementFabric
