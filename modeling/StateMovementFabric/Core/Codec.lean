import StateMovementFabric.Core.Digest

namespace StateMovementFabric

open Foundation

/-!
# The canonical encoding

Every durable record and every message is a sequence of fixed-width
little-endian integers, length-prefixed byte strings and raw digests.  An
`encode` function is the list of its fields in the order of the source, flattened.
A decoder consumes its input from the front and refuses at the first field that is
not there.
-/

/-! ## Encoding -/

namespace CanonicalEncoder

def u8 (value : UInt8) : Bytes := [value]
def boolean (value : Bool) : Bytes := [if value then 1 else 0]
def u16 (value : UInt16) : Bytes := storeLe value.toNat 2
def u32 (value : UInt32) : Bytes := storeLe value.toNat 4
def u64 (value : UInt64) : Bytes := storeLe value.toNat 8
def i64 (value : Int64) : Bytes := storeLe value.toUInt64.toNat 8
def blob (value : Bytes) : Bytes := storeLe value.length 8 ++ value
def text (value : Text) : Bytes := storeLe value.length 8 ++ value
def digest (value : Digest) : Bytes := value.bytes

section Lengths

@[simp] theorem length_u8 (value : UInt8) : (u8 value).length = 1 := rfl

@[simp] theorem length_boolean (value : Bool) : (boolean value).length = 1 := rfl

@[simp] theorem length_u16 (value : UInt16) : (u16 value).length = 2 := storeLe_length _ _

@[simp] theorem length_u32 (value : UInt32) : (u32 value).length = 4 := storeLe_length _ _

@[simp] theorem length_u64 (value : UInt64) : (u64 value).length = 8 := storeLe_length _ _

@[simp] theorem length_i64 (value : Int64) : (i64 value).length = 8 := storeLe_length _ _

@[simp] theorem length_blob (value : Bytes) : (blob value).length = 8 + value.length := by
  rw [blob, List.length_append, storeLe_length]

@[simp] theorem length_text (value : Text) : (text value).length = 8 + value.length :=
  length_blob value

@[simp] theorem length_digest (value : Digest) : (digest value).length = 32 := value.width

end Lengths

end CanonicalEncoder

/-- `canonical_digest`. -/
def canonicalDigest (encoded : Bytes) : Digest := sha256 encoded

/-- `canonical_mac`. -/
def canonicalMac (key encoded : Bytes) : Digest := hmacSha256 key encoded

/-! ## Decoding -/

structure DecodeLimits where
  maxBlobBytes : Nat := 1048576
  maxTextBytes : Nat := 65536
  maxInputBytes : Nat := 8388608
  deriving DecidableEq, Repr

/-- `CanonicalDecoder`: the input that has not been consumed yet, the limits, and
whether the whole input was over the limit to begin with. -/
structure CanonicalDecoder where
  remaining : Bytes
  limits : DecodeLimits
  overLimit : Bool
  deriving DecidableEq, Repr

/-- A computation that reads from a decoder and may refuse. -/
abbrev Decode (α : Type) := StateT CanonicalDecoder (Except Status) α

namespace CanonicalDecoder

def start (input : Bytes) (limits : DecodeLimits) : CanonicalDecoder :=
  ⟨input, limits, decide (input.length > limits.maxInputBytes)⟩

/-- Stop decoding with a status. -/
def fail {α : Type} (code : ReasonCode) (message : String) : Decode α :=
  fun _ => refuse code message

/-- Run a check whose failure stops the decoding. -/
def check {α : Type} (result : Result α) : Decode α :=
  fun decoder => result.map (fun value => (value, decoder))

/-- `bounds_failure`. -/
def boundsFailure {α : Type} (overLimit : Bool) (what : String) : Result α :=
  if overLimit then
    refuse .PROTOCOL_BOUNDS_EXCEEDED "decoded buffer exceeds the configured input limit"
  else refuse .PROTOCOL_TRUNCATED what

/-- The next `width` bytes of a field named in the truncation message. -/
def fixed (width : Nat) (what : String) : Decode Bytes := fun decoder =>
  if decoder.overLimit || decoder.remaining.length < width then boundsFailure decoder.overLimit what
  else .ok (decoder.remaining.take width,
    { decoder with remaining := decoder.remaining.drop width })

def u8 : Decode UInt8 := do
  let raw ← fixed 1 "u8 read past the end of the buffer"
  return raw.headD 0

def boolean : Decode Bool := do
  let raw ← u8
  if raw > 1 then
    fail .PROTOCOL_CANONICAL_VIOLATION "boolean must be encoded as exactly 0x00 or 0x01"
  else return raw == 1

def u16 : Decode UInt16 := do
  let raw ← fixed 2 "u16 read past the end of the buffer"
  return UInt16.ofNat (loadLe raw)

def u32 : Decode UInt32 := do
  let raw ← fixed 4 "u32 read past the end of the buffer"
  return UInt32.ofNat (loadLe raw)

def u64 : Decode UInt64 := do
  let raw ← fixed 8 "u64 read past the end of the buffer"
  return UInt64.ofNat (loadLe raw)

def i64 : Decode Int64 := do
  let raw ← u64
  return raw.toInt64

/-- A length-prefixed byte string.  The declared length is held against both
bounds before a byte of the payload is touched. -/
def blob (maxBytes : Nat) : Decode Bytes := do
  let length ← u64
  let decoder ← get
  if length.toNat > min maxBytes decoder.limits.maxBlobBytes then
    fail .PROTOCOL_BOUNDS_EXCEEDED "declared blob length exceeds the permitted maximum"
  else if length.toNat > decoder.remaining.length then
    fail .PROTOCOL_TRUNCATED "declared blob length exceeds the remaining input"
  else
    set { decoder with remaining := decoder.remaining.drop length.toNat }
    return decoder.remaining.take length.toNat

def text (maxBytes : Nat) : Decode Text := do
  let decoder ← get
  let raw ← blob (min maxBytes decoder.limits.maxTextBytes)
  if isValidUtf8 raw then return raw
  else fail .INVALID_UTF8 "text field is not valid UTF-8"

/-- A raw digest; the message for a short input is the digest's own. -/
def digest : Decode Digest := do
  let raw ← fixed 32 "digest requires 32 bytes"
  check (Digest.fromBytes raw)

/-- A collection count, refused above `maxCount`. -/
def count (maxCount : Nat) : Decode Nat := do
  let raw ← u32
  if raw.toNat > maxCount then
    fail .PROTOCOL_BOUNDS_EXCEEDED "declared collection count exceeds the maximum"
  else return raw.toNat

/-- `require_end`: every byte was consumed. -/
def requireEnd : Decode Unit := do
  let decoder ← get
  if decoder.overLimit then
    fail .PROTOCOL_BOUNDS_EXCEEDED "decoded buffer exceeds the configured input limit"
  else if decoder.remaining.isEmpty then return ()
  else fail .PROTOCOL_TRAILING_GARBAGE "message carried unconsumed trailing bytes"

end CanonicalDecoder

/-- Run a decoding on a whole input. -/
def decodeAll {α : Type} (decode : Decode α) (input : Bytes) (limits : DecodeLimits) : Result α :=
  (decode.run (.start input limits)).map Prod.fst

/-! ## Round trips -/

/-- A decoding that consumes exactly `encoded` from the front of any input within
the limits, and returns `value`. -/
def Reads {α : Type} (limits : DecodeLimits) (decode : Decode α) (encoded : Bytes) (value : α) :
    Prop :=
  forall rest, decode.run ⟨encoded ++ rest, limits, false⟩ = .ok (value, ⟨rest, limits, false⟩)

namespace Reads

variable {α β : Type} {limits : DecodeLimits}

theorem pure (value : α) : Reads limits (Pure.pure value : Decode α) [] value := by
  intro rest
  rfl

/-- Fields that are read one after the other are written one after the other. -/
theorem bind {first : Decode α} {next : α -> Decode β} {front back : Bytes} {value : α}
    {result : β} (readsFirst : Reads limits first front value)
    (readsNext : Reads limits (next value) back result) :
    Reads limits (first >>= next) (front ++ back) result := by
  intro rest
  rw [StateT.run_bind, List.append_assoc, readsFirst (back ++ rest)]
  exact readsNext rest

theorem check {result : Result α} {value : α} (passed : result = .ok value) :
    Reads limits (CanonicalDecoder.check result) [] value := by
  intro rest
  rw [passed]
  rfl

/-- A check that passes consumes nothing. -/
theorem checked {result : Result α} {next : α -> Decode β} {back : Bytes} {value : α}
    {outcome : β} (passed : result = .ok value) (readsNext : Reads limits (next value) back outcome) :
    Reads limits (CanonicalDecoder.check result >>= next) back outcome :=
  bind (check passed) readsNext

theorem fixed {front : Bytes} {width : Nat} (wide : front.length = width) (what : String) :
    Reads limits (CanonicalDecoder.fixed width what) front front := by
  intro rest
  have enough : ¬(front ++ rest).length < width := by
    rw [List.length_append]
    omega
  change (if false || decide ((front ++ rest).length < width) then _ else _) = _
  rw [Bool.false_or, decide_eq_false enough]
  simp only [Bool.false_eq_true, if_false, List.take_left' wide, List.drop_left' wide]

theorem u64 (value : UInt64) :
    Reads limits CanonicalDecoder.u64 (CanonicalEncoder.u64 value) value := by
  have back : UInt64.ofNat (loadLe (CanonicalEncoder.u64 value)) = value := by
    rw [CanonicalEncoder.u64, loadLe_storeLe_of_lt value.toNat_lt, UInt64.ofNat_toNat]
  have wide : (CanonicalEncoder.u64 value).length = 8 := storeLe_length _ _
  intro rest
  rw [CanonicalDecoder.u64, StateT.run_bind, fixed wide _ rest]
  change Except.ok (UInt64.ofNat (loadLe (CanonicalEncoder.u64 value)), _) = _
  rw [back]

/-- A byte string within both bounds is read back. -/
theorem blob {value : Bytes} {maxBytes : Nat}
    (bounded : value.length ≤ min maxBytes limits.maxBlobBytes)
    (short : value.length < 18446744073709551616) :
    Reads limits (CanonicalDecoder.blob maxBytes) (CanonicalEncoder.blob value) value := by
  intro rest
  have prefixed : CanonicalEncoder.blob value =
      CanonicalEncoder.u64 (UInt64.ofNat value.length) ++ value := by
    rw [CanonicalEncoder.blob, CanonicalEncoder.u64, UInt64.toNat_ofNat_of_lt' short]
  have declared : (UInt64.ofNat value.length).toNat = value.length :=
    UInt64.toNat_ofNat_of_lt' short
  have within : ¬value.length > min maxBytes limits.maxBlobBytes := by omega
  have present : ¬value.length > (value ++ rest).length := by
    rw [List.length_append]
    omega
  rw [prefixed, List.append_assoc, CanonicalDecoder.blob, StateT.run_bind, u64 _ (value ++ rest)]
  change (if (UInt64.ofNat value.length).toNat > min maxBytes limits.maxBlobBytes then _
    else if (UInt64.ofNat value.length).toNat > (value ++ rest).length then _ else _ :
      Decode Bytes).run ⟨value ++ rest, limits, false⟩ = _
  rw [declared, if_neg within, if_neg present, List.drop_left, List.take_left]
  rfl

theorem u8 (value : UInt8) : Reads limits CanonicalDecoder.u8 (CanonicalEncoder.u8 value) value := by
  intro rest
  have wide : (CanonicalEncoder.u8 value).length = 1 := rfl
  rw [CanonicalDecoder.u8, StateT.run_bind, fixed wide _ rest]
  rfl

theorem boolean (value : Bool) :
    Reads limits CanonicalDecoder.boolean (CanonicalEncoder.boolean value) value := by
  intro rest
  rw [CanonicalDecoder.boolean, StateT.run_bind]
  cases value with
  | false =>
      rw [show CanonicalEncoder.boolean false = CanonicalEncoder.u8 0 from rfl, u8 0 rest]
      rfl
  | true =>
      rw [show CanonicalEncoder.boolean true = CanonicalEncoder.u8 1 from rfl, u8 1 rest]
      rfl

theorem u16 (value : UInt16) :
    Reads limits CanonicalDecoder.u16 (CanonicalEncoder.u16 value) value := by
  have back : UInt16.ofNat (loadLe (CanonicalEncoder.u16 value)) = value := by
    rw [CanonicalEncoder.u16, loadLe_storeLe_of_lt value.toNat_lt, UInt16.ofNat_toNat]
  have wide : (CanonicalEncoder.u16 value).length = 2 := storeLe_length _ _
  intro rest
  rw [CanonicalDecoder.u16, StateT.run_bind, fixed wide _ rest]
  change Except.ok (UInt16.ofNat (loadLe (CanonicalEncoder.u16 value)), _) = _
  rw [back]

theorem u32 (value : UInt32) :
    Reads limits CanonicalDecoder.u32 (CanonicalEncoder.u32 value) value := by
  have back : UInt32.ofNat (loadLe (CanonicalEncoder.u32 value)) = value := by
    rw [CanonicalEncoder.u32, loadLe_storeLe_of_lt value.toNat_lt, UInt32.ofNat_toNat]
  have wide : (CanonicalEncoder.u32 value).length = 4 := storeLe_length _ _
  intro rest
  rw [CanonicalDecoder.u32, StateT.run_bind, fixed wide _ rest]
  change Except.ok (UInt32.ofNat (loadLe (CanonicalEncoder.u32 value)), _) = _
  rw [back]

theorem digest (value : Digest) :
    Reads limits CanonicalDecoder.digest (CanonicalEncoder.digest value) value := by
  have parsed : Digest.fromBytes value.bytes = .ok value := by
    rw [Digest.fromBytes, dif_pos value.width]
  intro rest
  rw [CanonicalDecoder.digest, StateT.run_bind, CanonicalEncoder.digest,
    fixed value.width _ rest]
  change (CanonicalDecoder.check (Digest.fromBytes value.bytes)).run _ = _
  rw [parsed]
  rfl

theorem i64 (value : Int64) :
    Reads limits CanonicalDecoder.i64 (CanonicalEncoder.i64 value) value := by
  intro rest
  have written : CanonicalEncoder.i64 value = CanonicalEncoder.u64 value.toUInt64 := rfl
  rw [CanonicalDecoder.i64, StateT.run_bind, written, u64 _ rest]
  rfl

/-- A text within the bounds that is valid UTF-8 is read back. -/
theorem text {value : Text} {maxBytes : Nat} (valid : isValidUtf8 value = true)
    (bounded : value.length ≤ min (min maxBytes limits.maxTextBytes) limits.maxBlobBytes)
    (short : value.length < 18446744073709551616) :
    Reads limits (CanonicalDecoder.text maxBytes) (CanonicalEncoder.text value) value := by
  intro rest
  have written : CanonicalEncoder.text value = CanonicalEncoder.blob value := rfl
  rw [CanonicalDecoder.text, StateT.run_bind, StateT.run_get, pure_bind, StateT.run_bind, written,
    blob bounded short rest]
  simp only [Bind.bind, Except.bind, valid, if_true]
  rfl

end Reads

/-- Decoding a whole input that holds exactly what is read. -/
theorem decodeAll_of_reads {α β : Type} {limits : DecodeLimits} {decode : Decode α}
    {encoded : Bytes} {value : α} (reads : Reads limits decode encoded value)
    (small : encoded.length ≤ limits.maxInputBytes) (wrap : α -> β) :
    decodeAll (do
      let found ← decode
      CanonicalDecoder.requireEnd
      return wrap found) encoded limits = .ok (wrap value) := by
  have started : CanonicalDecoder.start encoded limits = ⟨encoded ++ [], limits, false⟩ := by
    rw [CanonicalDecoder.start, List.append_nil, decide_eq_false (by omega)]
  rw [decodeAll, started, StateT.run_bind, reads []]
  rfl

end StateMovementFabric
