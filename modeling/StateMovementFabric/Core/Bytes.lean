import Mathlib.Data.UInt
import StateMovementFabric.Foundation.LittleEndian

namespace StateMovementFabric

/-!
# Bytes, text and structural bounds

The C++ code moves `std::vector<Byte>` and `std::string` values.  Both are byte
strings here, because a `std::string` may hold bytes that are not UTF-8 and the
validators have to be able to reject them.  The literals of the source are
ASCII, so `ascii` writes them as text without going through an encoder.
-/

abbrev Byte := UInt8
abbrev Bytes := List Byte

/-- A `std::string`: bytes, with no promise about their encoding. -/
abbrev Text := List Byte

/-- A milliseconds timestamp, `std::int64_t`. -/
abbrev Millis := Int64

/-- The text of an ASCII literal of the source. -/
def ascii (literal : String) : Text :=
  literal.toList.map (fun character => UInt8.ofNat character.toNat)

/-- `std::to_string` of an unsigned value. -/
def decimal (value : Nat) : Text := ascii (toString value)

/-! ## Structural bounds -/

def kMaxObjectNameBytes : Nat := 4096
def kMaxEndpointIdBytes : Nat := 63
def kMaxTextBytes : Nat := 4096
def kMaxDetailBytes : Nat := 1024
def kMaxProvenanceEvents : Nat := 256
def kMaxChunksPerObject : Nat := 16777216
def kMaxAttemptsHardLimit : Nat := 64
def kMinChunkBytes : Nat := 1024
def kMaxChunkBytes : Nat := 67108864
def kMaxObjectBytes : Nat := 1099511627776

/-! ## UTF-8 -/

/-- A continuation byte `10xxxxxx`. -/
def isContinuation (byte : Byte) : Bool := byte.toNat &&& 0xC0 == 0x80

/-- The code point accumulated over a lead byte's payload bits and its
continuation bytes, six bits at a time. -/
def codePoint (lead : Nat) (continuation : List Byte) : Nat :=
  continuation.foldl (fun point byte => (point <<< 6) ||| (byte.toNat &&& 0x3F)) lead

/-- The checks after a multi-byte sequence has been read: continuation bytes,
no overlong form, nothing above `U+10FFFF`, no surrogate. -/
def validSequence (lead least : Nat) (continuation : List Byte) : Bool :=
  let point := codePoint lead continuation
  continuation.all isContinuation && least ≤ point && point ≤ 0x10FFFF &&
    !(0xD800 ≤ point && point ≤ 0xDFFF)

/-- Strict UTF-8 validation.  A sequence whose continuation bytes run past the
end of the input is rejected before any of them is read. -/
def isValidUtf8 : Bytes -> Bool
  | [] => true
  | lead :: rest =>
      let value := lead.toNat
      if value < 0x80 then isValidUtf8 rest
      else if value &&& 0xE0 == 0xC0 then
        match rest with
        | first :: tail => validSequence (value &&& 0x1F) 0x80 [first] && isValidUtf8 tail
        | [] => false
      else if value &&& 0xF0 == 0xE0 then
        match rest with
        | first :: second :: tail =>
            validSequence (value &&& 0x0F) 0x800 [first, second] && isValidUtf8 tail
        | _ => false
      else if value &&& 0xF8 == 0xF0 then
        match rest with
        | first :: second :: third :: tail =>
            validSequence (value &&& 0x07) 0x10000 [first, second, third] && isValidUtf8 tail
        | _ => false
      else false

/-- ASCII text is valid. -/
theorem isValidUtf8_of_ascii {text : Text} (plain : forall byte, byte ∈ text -> byte.toNat < 0x80) :
    isValidUtf8 text = true := by
  induction text with
  | nil => rfl
  | cons lead rest ih =>
      unfold isValidUtf8
      simp only [if_pos (plain lead List.mem_cons_self)]
      exact ih fun byte inside => plain byte (List.mem_cons_of_mem lead inside)

example : isValidUtf8 [0x61, 0xC3, 0xA9] = true := by decide
example : isValidUtf8 [0xC0, 0x80] = false := by decide

theorem plain_append {first second : Text} (plainFirst : forall byte, byte ∈ first -> byte.toNat < 0x80)
    (plainSecond : forall byte, byte ∈ second -> byte.toNat < 0x80) :
    forall byte, byte ∈ first ++ second -> byte.toNat < 0x80 := by
  intro byte inside
  rcases List.mem_append.mp inside with inside | inside
  · exact plainFirst byte inside
  · exact plainSecond byte inside

/-! Decimal numbers are plain text, and those of 64 bits have twenty digits at most. -/

theorem plain_decimal (value : Nat) : forall byte, byte ∈ decimal value -> byte.toNat < 0x80 := by
  intro byte inside
  have listed : byte ∈ (Nat.toDigits 10 value).map fun character => UInt8.ofNat character.toNat := by
    rw [← String.toList_ofList (l := Nat.toDigits 10 value)]
    exact inside
  rcases List.mem_map.mp listed with ⟨character, digit, rfl⟩
  have bounds := Nat.isDigit_of_mem_toDigits (by decide) (Nat.le_refl 10) digit
  rw [Char.isDigit, Bool.and_eq_true, decide_eq_true_eq, decide_eq_true_eq] at bounds
  have small : character.toNat ≤ 57 := bounds.2
  rw [UInt8.toNat_ofNat']
  omega

theorem length_decimal_le (value : UInt64) : (decimal value.toNat).length ≤ 20 := by
  have digits : (decimal value.toNat).length = (Nat.toDigits 10 value.toNat).length := by
    unfold decimal ascii
    rw [List.length_map, ← String.toList_ofList (l := Nat.toDigits 10 value.toNat)]
    rfl
  rw [digits, Nat.length_toDigits_le_iff (by decide) (by decide)]
  exact Nat.lt_of_lt_of_le value.toNat_lt (by decide)

/-! ## Checked arithmetic -/

/-- `checked_add`: the sum, unless it wraps around 64 bits. -/
def checkedAdd (a b : UInt64) : Option UInt64 :=
  if a.toNat > 18446744073709551615 - b.toNat then none else some (a + b)

/-- `checked_mul`: the product, unless it wraps around 64 bits. -/
def checkedMul (a b : UInt64) : Option UInt64 :=
  if a.toNat ≠ 0 ∧ b.toNat > 18446744073709551615 / a.toNat then none else some (a * b)

end StateMovementFabric
