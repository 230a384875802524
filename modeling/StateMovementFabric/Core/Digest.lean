import StateMovementFabric.Core.Status

namespace StateMovementFabric

/-!
# SHA-256 and HMAC-SHA-256

The hash is computed here exactly as the incremental C++ hasher computes it, so
that record checksums, chunk digests and marker digests are values and not
assumptions.  Nothing below relies on the hash being collision free.
-/

/-- A digest: exactly 32 bytes. -/
structure Digest where
  bytes : Bytes
  width : bytes.length = 32
  deriving DecidableEq

namespace Digest

/-- The default-constructed digest, all bytes zero. -/
def zero : Digest := ⟨List.replicate 32 0, by decide⟩

instance : Inhabited Digest := ⟨zero⟩

/-- `Digest::from_bytes`. -/
def fromBytes (raw : Bytes) : Result Digest :=
  if width : raw.length = 32 then .ok ⟨raw, width⟩
  else refuse .INVALID_DIGEST "digest requires exactly 32 bytes"

/-- `Digest::is_zero`: the disjunction of all bytes is zero. -/
def isZero (digest : Digest) : Bool :=
  digest.bytes.foldl (· ||| ·) 0 == 0

theorem ext_bytes {a b : Digest} (same : a.bytes = b.bytes) : a = b := by
  cases a
  cases b
  cases same
  rfl

end Digest

/-! ## The compression function -/

def kRoundConstants : List UInt32 := [
  0x428a2f98, 0x71374491, 0xb5c0fbcf, 0xe9b5dba5, 0x3956c25b, 0x59f111f1, 0x923f82a4,
  0xab1c5ed5, 0xd807aa98, 0x12835b01, 0x243185be, 0x550c7dc3, 0x72be5d74, 0x80deb1fe,
  0x9bdc06a7, 0xc19bf174, 0xe49b69c1, 0xefbe4786, 0x0fc19dc6, 0x240ca1cc, 0x2de92c6f,
  0x4a7484aa, 0x5cb0a9dc, 0x76f988da, 0x983e5152, 0xa831c66d, 0xb00327c8, 0xbf597fc7,
  0xc6e00bf3, 0xd5a79147, 0x06ca6351, 0x14292967, 0x27b70a85, 0x2e1b2138, 0x4d2c6dfc,
  0x53380d13, 0x650a7354, 0x766a0abb, 0x81c2c92e, 0x92722c85, 0xa2bfe8a1, 0xa81a664b,
  0xc24b8b70, 0xc76c51a3, 0xd192e819, 0xd6990624, 0xf40e3585, 0x106aa070, 0x19a4c116,
  0x1e376c08, 0x2748774c, 0x34b0bcb5, 0x391c0cb3, 0x4ed8aa4a, 0x5b9cca4f, 0x682e6ff3,
  0x748f82ee, 0x78a5636f, 0x84c87814, 0x8cc70208, 0x90befffa, 0xa4506ceb, 0xbef9a3f7,
  0xc67178f2]

/-- The eight chaining words, and the eight working variables of a compression. -/
structure HashWords where
  a : UInt32
  b : UInt32
  c : UInt32
  d : UInt32
  e : UInt32
  f : UInt32
  g : UInt32
  h : UInt32
  deriving DecidableEq, Repr

def kInitialState : HashWords :=
  ⟨0x6a09e667, 0xbb67ae85, 0x3c6ef372, 0xa54ff53a, 0x510e527f, 0x9b05688c, 0x1f83d9ab,
    0x5be0cd19⟩

def rotr (value shift : UInt32) : UInt32 := (value >>> shift) ||| (value <<< (32 - shift))

def loadBe32 (p0 p1 p2 p3 : Byte) : UInt32 :=
  (p0.toUInt32 <<< 24) ||| (p1.toUInt32 <<< 16) ||| (p2.toUInt32 <<< 8) ||| p3.toUInt32

def storeBe32 (value : UInt32) : Bytes :=
  [(value >>> 24).toUInt8, (value >>> 16).toUInt8, (value >>> 8).toUInt8, value.toUInt8]

/-- The words of a block, in order. -/
def blockWords : Bytes -> List UInt32
  | p0 :: p1 :: p2 :: p3 :: rest => loadBe32 p0 p1 p2 p3 :: blockWords rest
  | _ => []

/-- The schedule loop.  The words computed so far are kept latest first, so that
`w[i - k]` is entry `k - 1`. -/
def scheduleWords : Nat -> List UInt32 -> List UInt32
  | 0, w => w
  | steps + 1, w =>
      let w15 := w.getD 14 0
      let w2 := w.getD 1 0
      let s0 := rotr w15 7 ^^^ rotr w15 18 ^^^ (w15 >>> 3)
      let s1 := rotr w2 17 ^^^ rotr w2 19 ^^^ (w2 >>> 10)
      scheduleWords steps ((w.getD 15 0 + s0 + w.getD 6 0 + s1) :: w)

/-- One round over the working variables. -/
def compressRound (v : HashWords) (input : UInt32 × UInt32) : HashWords :=
  let s1 := rotr v.e 6 ^^^ rotr v.e 11 ^^^ rotr v.e 25
  let ch := (v.e &&& v.f) ^^^ ((~~~v.e) &&& v.g)
  let temp1 := v.h + s1 + ch + input.1 + input.2
  let s0 := rotr v.a 2 ^^^ rotr v.a 13 ^^^ rotr v.a 22
  let maj := (v.a &&& v.b) ^^^ (v.a &&& v.c) ^^^ (v.b &&& v.c)
  let temp2 := s0 + maj
  ⟨temp1 + temp2, v.a, v.b, v.c, v.d + temp1, v.e, v.f, v.g⟩

/-- `Sha256::compress`. -/
def compress (state : HashWords) (block : Bytes) : HashWords :=
  let w := (scheduleWords 48 (blockWords block).reverse).reverse
  let v := (kRoundConstants.zip w).foldl compressRound state
  ⟨state.a + v.a, state.b + v.b, state.c + v.c, state.d + v.d, state.e + v.e, state.f + v.f,
    state.g + v.g, state.h + v.h⟩

/-- The chaining words written out, most significant byte first. -/
def HashWords.digest (words : HashWords) : Digest :=
  ⟨storeBe32 words.a ++ storeBe32 words.b ++ storeBe32 words.c ++ storeBe32 words.d ++
      storeBe32 words.e ++ storeBe32 words.f ++ storeBe32 words.g ++ storeBe32 words.h, rfl⟩

/-! ## The incremental hasher -/

/-- `Sha256`.  `buffer` holds the first `buffered_` bytes of the C++ buffer; the
bytes behind them are never read. -/
structure Sha256 where
  state : HashWords
  buffer : Bytes
  total : UInt64
  deriving DecidableEq, Repr

namespace Sha256

/-- `Sha256::reset`. -/
def initial : Sha256 := ⟨kInitialState, [], 0⟩

/-- The loop that compresses whole blocks straight from the input, and what it
leaves over. -/
def compressBlocks : Nat -> HashWords -> Bytes -> HashWords × Bytes
  | 0, state, data => (state, data)
  | blocks + 1, state, data => compressBlocks blocks (compress state (data.take 64)) (data.drop 64)

/-- The bytes that complete a partly filled buffer. -/
def fillBuffer (hasher : Sha256) (data : Bytes) : HashWords × Bytes × Bytes :=
  if hasher.buffer.isEmpty then (hasher.state, [], data)
  else
    let need := 64 - hasher.buffer.length
    let filled := hasher.buffer ++ data.take need
    if filled.length == 64 then (compress hasher.state filled, [], data.drop need)
    else (hasher.state, filled, data.drop need)

/-- `Sha256::update`. -/
def update (hasher : Sha256) (data : Bytes) : Sha256 :=
  let (state, buffer, rest) := hasher.fillBuffer data
  let (state, remaining) := compressBlocks (rest.length / 64) state rest
  { state := state
    buffer := if remaining.isEmpty then buffer else remaining
    total := hasher.total + UInt64.ofNat data.length }

/-- The zero padding loop, which stops at 56 buffered bytes.  A block holds 64
bytes, so the loop body runs fewer than 64 times. -/
def padZeros : Nat -> Sha256 -> Sha256
  | 0, hasher => hasher
  | fuel + 1, hasher =>
      if hasher.buffer.length == 56 then hasher else padZeros fuel (hasher.update [0x00])

/-- The message length in bits, most significant byte first. -/
def lengthBytes (bitLength : UInt64) : Bytes :=
  (List.range 8).map (fun i => (bitLength >>> UInt64.ofNat ((7 - i) * 8)).toUInt8)

/-- `Sha256::finalize`; the hasher itself is left reset. -/
def finalize (hasher : Sha256) : Digest :=
  let bitLength := hasher.total * 8
  let padded := padZeros 64 (hasher.update [0x80])
  (padded.update (lengthBytes bitLength)).state.digest

end Sha256

/-- `sha256`. -/
def sha256 (data : Bytes) : Digest := (Sha256.initial.update data).finalize

example : (sha256 (ascii "abc")).bytes.take 8 =
    [0xba, 0x78, 0x16, 0xbf, 0x8f, 0x01, 0xcf, 0xea] := by
  decide +kernel

/-! ## HMAC -/

/-- `HmacSha256`: the inner hasher, already fed with the inner pad, and the outer
pad. -/
structure HmacSha256 where
  inner : Sha256
  opad : Bytes
  deriving DecidableEq, Repr

namespace HmacSha256

/-- A key of more than one block is replaced by its digest; a shorter one is
filled up with zeros. -/
def keyBlock (key : Bytes) : Bytes :=
  let reduced := if key.length > 64 then (sha256 key).bytes else key
  reduced ++ List.replicate (64 - reduced.length) 0

/-- The constructor. -/
def start (key : Bytes) : HmacSha256 :=
  { inner := Sha256.initial.update ((keyBlock key).map (· ^^^ 0x36))
    opad := (keyBlock key).map (· ^^^ 0x5C) }

def update (mac : HmacSha256) (data : Bytes) : HmacSha256 :=
  { mac with inner := mac.inner.update data }

def finalize (mac : HmacSha256) : Digest :=
  ((Sha256.initial.update mac.opad).update mac.inner.finalize.bytes).finalize

end HmacSha256

/-- `hmac_sha256`. -/
def hmacSha256 (key data : Bytes) : Digest := ((HmacSha256.start key).update data).finalize

end StateMovementFabric
