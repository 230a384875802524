import StateMovementFabric.Core.Codec

namespace StateMovementFabric

/-!
# Identities and generations

Identifiers of different roles have the same shape but are never
interchangeable, so the role is part of the type, as the tag parameter of the
C++ templates is.  An identifier carries the proof of its width and an endpoint
name the proof that it passed the name check.
-/

inductive IdTag where
  | stateObject | movement | transferAttempt | boot | session | nonce
  deriving DecidableEq, Repr

/-- `FixedId<Tag, N>`. -/
@[ext]
structure FixedId (tag : IdTag) (width : Nat) where
  bytes : Bytes
  bytes_length : bytes.length = width
  deriving DecidableEq

abbrev StateObjectId := FixedId .stateObject 32
abbrev MovementId := FixedId .movement 16
abbrev TransferAttemptId := FixedId .transferAttempt 16
abbrev BootId := FixedId .boot 16
abbrev SessionId := FixedId .session 16
abbrev Nonce := FixedId .nonce 32

namespace FixedId

variable {tag : IdTag} {width : Nat}

/-- The default-constructed identifier, all bytes zero. -/
def zero : FixedId tag width := ⟨List.replicate width 0, by simp⟩

instance : Inhabited (FixedId tag width) := ⟨zero⟩

/-- An identifier made of one byte repeated. -/
def filled (byte : Byte) : FixedId tag width := ⟨List.replicate width byte, by simp⟩

/-- `from_bytes`. -/
def fromBytes (raw : Bytes) : Result (FixedId tag width) :=
  if width_ok : raw.length = width then .ok ⟨raw, width_ok⟩
  else refuse .INVALID_ID "identifier has the wrong width"

/-- `from_digest` at the digest's own width. -/
def fromDigest (digest : Digest) : FixedId tag 32 := ⟨digest.bytes, digest.width⟩

/-- `Digest(id.bytes())` at the digest's own width. -/
def asDigest (id : FixedId tag 32) : Digest := ⟨id.bytes, id.bytes_length⟩

def isZero (id : FixedId tag width) : Bool := id.bytes.foldl (· ||| ·) 0 == 0

def encode (id : FixedId tag width) : Bytes := CanonicalEncoder.blob id.bytes

@[simp] theorem length_encode (id : FixedId tag width) : id.encode.length = 8 + width := by
  rw [encode, CanonicalEncoder.length_blob, id.bytes_length]

def decode : Decode (FixedId tag width) := do
  let raw ← CanonicalDecoder.blob width
  if raw.length ≠ width then
    CanonicalDecoder.fail .PROTOCOL_CANONICAL_VIOLATION "identifier field has the wrong width"
  else CanonicalDecoder.check (fromBytes raw)

/-- An identifier is read back whenever the limits admit its width. -/
theorem reads_decode {limits : DecodeLimits} (id : FixedId tag width)
    (admitted : width ≤ limits.maxBlobBytes) (short : width < 18446744073709551616) :
    Reads limits decode id.encode id := by
  have bounded : id.bytes.length ≤ min width limits.maxBlobBytes := by
    rw [id.bytes_length]
    omega
  have raw : Reads limits (CanonicalDecoder.blob width) id.encode id.bytes :=
    Reads.blob bounded (by rw [id.bytes_length]; exact short)
  have parsed : (fromBytes id.bytes : Result (FixedId tag width)) = .ok id := by
    rw [fromBytes, dif_pos id.bytes_length]
  have next : Reads limits
      (if id.bytes.length ≠ width then
        CanonicalDecoder.fail .PROTOCOL_CANONICAL_VIOLATION "identifier field has the wrong width"
      else CanonicalDecoder.check (fromBytes id.bytes)) [] id := by
    rw [if_neg (not_not.mpr id.bytes_length)]
    exact Reads.check parsed
  rw [← List.append_nil id.encode]
  unfold decode
  exact Reads.bind raw next

end FixedId

/-! ## Generations -/

inductive GenerationTag where
  | state | movement | compatibility | topology | policy | epoch
  deriving DecidableEq, Repr

/-- `Generation<Tag>`; zero is the unset value. -/
structure Generation (tag : GenerationTag) where
  value : UInt64
  deriving DecidableEq, Repr

abbrev StateGeneration := Generation .state
abbrev MovementGeneration := Generation .movement
abbrev CompatibilityGeneration := Generation .compatibility
abbrev TopologyGeneration := Generation .topology
abbrev PolicyGeneration := Generation .policy
abbrev IncarnationEpoch := Generation .epoch

namespace Generation

variable {tag : GenerationTag}

instance : Inhabited (Generation tag) := ⟨⟨0⟩⟩

def isSet (generation : Generation tag) : Bool := generation.value != 0

/-- The checked successor. -/
def next (generation : Generation tag) : Result (Generation tag) :=
  if generation.value == 18446744073709551615 then
    refuse .SIZE_OVERFLOW "generation space exhausted"
  else .ok ⟨generation.value + 1⟩

/-- A successor that is not refused is larger by exactly one. -/
theorem next_toNat {generation successor : Generation tag}
    (advanced : generation.next = .ok successor) :
    successor.value.toNat = generation.value.toNat + 1 := by
  unfold next at advanced
  split at advanced
  · cases advanced
  · rename_i below
    have atMost : generation.value.toNat ≠ 18446744073709551615 := by
      intro same
      apply below
      rw [beq_iff_eq]
      exact UInt64.toNat_inj.mp same
    have bound := generation.value.toNat_lt
    cases advanced
    rw [UInt64.toNat_add]
    change (generation.value.toNat + 1) % 2 ^ 64 = generation.value.toNat + 1
    exact Nat.mod_eq_of_lt (by omega)

end Generation

/-! ## Endpoints and their incarnations -/

/-- `is_name_byte`: ASCII letters, digits, `.`, `_` and `-`. -/
def isNameByte (byte : Byte) : Bool :=
  (0x30 ≤ byte && byte ≤ 0x39) || (0x61 ≤ byte && byte ≤ 0x7a) || (0x41 ≤ byte && byte ≤ 0x5a) ||
    byte == 0x2e || byte == 0x5f || byte == 0x2d

/-- `EndpointId::is_valid`. -/
def isValidEndpointName (text : Text) : Bool :=
  !text.isEmpty && text.length ≤ kMaxEndpointIdBytes && text.headD 0 != 0x2d &&
    text.headD 0 != 0x2e && text.all isNameByte

/-- `EndpointId`: empty when default-constructed, a checked name otherwise. -/
structure EndpointId where
  value : Text
  checked : value = [] ∨ isValidEndpointName value = true
  deriving DecidableEq

namespace EndpointId

instance : Inhabited EndpointId := ⟨⟨[], .inl rfl⟩⟩

def isEmpty (endpoint : EndpointId) : Bool := endpoint.value.isEmpty

/-- `EndpointId::parse`. -/
def parse (text : Text) : Result EndpointId :=
  if text.isEmpty then refuse .INVALID_ID "endpoint id must not be empty"
  else if text.length > kMaxEndpointIdBytes then
    refuse .INVALID_ID "endpoint id exceeds the maximum length"
  else if text.headD 0 == 0x2d || text.headD 0 == 0x2e then
    refuse .INVALID_ID "endpoint id must not start with '-' or '.'"
  else if valid : isValidEndpointName text = true then .ok ⟨text, .inr valid⟩
  else
    refuse .INVALID_ID
      "endpoint id may only contain ASCII letters, digits, '.', '_', and '-'"

theorem valid_of_named {endpoint : EndpointId} (named : endpoint.isEmpty = false) :
    isValidEndpointName endpoint.value = true := by
  rcases endpoint.checked with empty | valid
  · rw [isEmpty, empty] at named
    cases named
  · exact valid

/-- A name that is not empty parses as itself. -/
theorem parse_value {endpoint : EndpointId} (named : endpoint.isEmpty = false) :
    parse endpoint.value = .ok endpoint := by
  have valid := valid_of_named named
  have parts := valid
  simp only [isValidEndpointName, Bool.and_eq_true, Bool.not_eq_true', bne_iff_ne, ne_eq,
    decide_eq_true_eq] at parts
  rcases parts with ⟨⟨⟨⟨inhabited, short⟩, dash⟩, dot⟩, _⟩
  have first : ¬(endpoint.value.headD 0 == 0x2d || endpoint.value.headD 0 == 0x2e) = true := by
    rw [Bool.or_eq_true, beq_iff_eq, beq_iff_eq]
    exact not_or.mpr ⟨dash, dot⟩
  rw [parse, if_neg (by simp [inhabited]), if_neg (Nat.not_lt.mpr short), if_neg first,
    dif_pos valid]

theorem toNat_lt_of_isNameByte {byte : Byte} (name : isNameByte byte = true) :
    byte.toNat < 0x80 := by
  simp only [isNameByte, Bool.or_eq_true, Bool.and_eq_true, decide_eq_true_eq, beq_iff_eq,
    UInt8.le_iff_toNat_le] at name
  rcases name with ((((digit | lower) | upper) | rfl) | rfl) | rfl
  · have bound : byte.toNat ≤ 57 := digit.2
    omega
  · have bound : byte.toNat ≤ 122 := lower.2
    omega
  · have bound : byte.toNat ≤ 90 := upper.2
    omega
  · decide
  · decide
  · decide

/-- Endpoint names are ASCII. -/
theorem isValidUtf8_value (endpoint : EndpointId) : isValidUtf8 endpoint.value = true := by
  apply isValidUtf8_of_ascii
  intro byte inside
  rcases endpoint.checked with empty | valid
  · rw [empty] at inside
    cases inside
  · simp only [isValidEndpointName, Bool.and_eq_true] at valid
    exact toNat_lt_of_isNameByte (List.all_eq_true.mp valid.2 byte inside)

theorem length_value (endpoint : EndpointId) : endpoint.value.length ≤ kMaxEndpointIdBytes := by
  rcases endpoint.checked with empty | valid
  · rw [empty]
    exact Nat.zero_le _
  · simp only [isValidEndpointName, Bool.and_eq_true, decide_eq_true_eq] at valid
    exact valid.1.1.1.2

end EndpointId

inductive IncarnationTag where
  | source | destination | endpoint
  deriving DecidableEq, Repr

/-- `Incarnation<Tag>`: one process instance of an endpoint. -/
structure Incarnation (tag : IncarnationTag) where
  endpoint : EndpointId
  boot : BootId
  epoch : IncarnationEpoch
  deriving DecidableEq, Inhabited

abbrev SourceIncarnation := Incarnation .source
abbrev DestinationIncarnation := Incarnation .destination
abbrev EndpointIncarnation := Incarnation .endpoint

namespace Incarnation

variable {tag : IncarnationTag}

def isSet (incarnation : Incarnation tag) : Bool :=
  !incarnation.endpoint.isEmpty && !incarnation.boot.isZero && incarnation.epoch.isSet

/-- The explicit conversion between roles. -/
def retag {other : IncarnationTag} (incarnation : Incarnation tag) : Incarnation other :=
  ⟨incarnation.endpoint, incarnation.boot, incarnation.epoch⟩

end Incarnation

end StateMovementFabric
