import Mathlib.Data.List.Sort
import StateMovementFabric.Core.StateObject

namespace StateMovementFabric

/-!
# The verification sample

Which chunks the coordinator reads back is derived from the movement identity, so
that a probe sequence can be reproduced.
-/

namespace VerificationSample

/-- The first eight bytes of the seed, least significant first. -/
def startMixer (seed : Digest) : UInt64 := UInt64.ofNat (Foundation.loadLe (seed.bytes.take 8))

/-- The output function of the mixer. -/
def mixed (mixer : UInt64) : UInt64 :=
  let first := (mixer ^^^ (mixer >>> 30)) * 0xBF58476D1CE4E5B9
  let second := (first ^^^ (first >>> 27)) * 0x94D049BB133111EB
  second ^^^ (second >>> 31)

/-- The loop over at most `rounds` draws.  The set is kept in order and without
repetition, as `std::set` keeps it. -/
def draw (chunkCount sampleCount : UInt32) : Nat -> UInt64 -> List UInt32 -> List UInt32
  | 0, _, unique => unique
  | rounds + 1, mixer, unique =>
      if unique.length < sampleCount.toNat then
        let next := mixer + 0x9E3779B97F4A7C15
        let index := (mixed next % chunkCount.toUInt64).toUInt32
        let larger := if index ∈ unique then unique else unique.orderedInsert (· ≤ ·) index
        draw chunkCount sampleCount rounds next larger
      else unique

end VerificationSample

/-- `verification_sample`. -/
def verificationSample (movementId : MovementId) (chunkCount sampleCount : UInt32) : List UInt32 :=
  if chunkCount == 0 || sampleCount == 0 then []
  else if sampleCount ≥ chunkCount then (List.range chunkCount.toNat).map UInt32.ofNat
  else
    let seed := sha256 movementId.bytes
    VerificationSample.draw chunkCount sampleCount (sampleCount * 16).toNat
      (VerificationSample.startMixer seed) []

end StateMovementFabric
