import StateMovementFabric.Core.Ids

namespace StateMovementFabric

/-!
# Movement policy

The bounds and switches that one coordinator runs under.  A policy is checked
once, when the coordinator starts.
-/

def kMaxEndpoints : Nat := 4096

structure MovementPolicy where
  maxAttempts : UInt32 := 3
  maxInflightChunks : UInt32 := 8
  minChunkBytes : UInt64 := 4096
  maxChunkBytes : UInt64 := 1048576
  maxObjectBytes : UInt64 := 68719476736
  maxMovementBytes : UInt64 := 68719476736
  maxEndpoints : UInt32 := 256
  maxSessions : UInt32 := 256
  maxMovementsInFlight : UInt32 := 1024
  maxProvenanceEvents : UInt32 := 64
  maxHistoryRecords : UInt32 := 200000
  maxStoreBytes : UInt64 := 268435456
  maxStagingBytesPerEndpoint : UInt64 := 8589934592
  allowResume : Bool := true
  requireCompatibilityEvidence : Bool := true
  allowUnknownKind : Bool := true
  verifySampleChunks : Bool := true
  verifySampleChunksCount : UInt32 := 4
  ioBudgetMillis : UInt32 := 30000
  transferBudgetMillis : UInt32 := 600000
  deriving DecidableEq, Repr

namespace MovementPolicy

/-- The value lies outside `least .. most`. -/
def outside (value least most : Nat) : Bool := value < least || value > most

/-- `validate`. -/
def validate (policy : MovementPolicy) : Result Unit := do
  refuseWhen (outside policy.maxAttempts.toNat 1 kMaxAttemptsHardLimit) .INVALID_POLICY
    "max_attempts must be between 1 and the hard limit"
  refuseWhen (outside policy.maxInflightChunks.toNat 1 1024) .INVALID_POLICY
    "max_inflight_chunks must be between 1 and 1024"
  refuseWhen (outside policy.minChunkBytes.toNat kMinChunkBytes kMaxChunkBytes) .INVALID_POLICY
    "min_chunk_bytes is outside the supported range"
  refuseWhen (outside policy.maxChunkBytes.toNat policy.minChunkBytes.toNat kMaxChunkBytes)
    .INVALID_POLICY "max_chunk_bytes is outside the supported range"
  refuseWhen (outside policy.maxObjectBytes.toNat 1 kMaxObjectBytes) .INVALID_POLICY
    "max_object_bytes is outside the supported range"
  refuseWhen (outside policy.maxMovementBytes.toNat 1 kMaxObjectBytes) .INVALID_POLICY
    "max_movement_bytes is outside the supported range"
  refuseWhen (outside policy.maxEndpoints.toNat 1 kMaxEndpoints) .INVALID_POLICY
    "max_endpoints is outside the supported range"
  refuseWhen (outside policy.maxSessions.toNat 1 8192) .INVALID_POLICY
    "max_sessions is outside the supported range"
  refuseWhen (outside policy.maxMovementsInFlight.toNat 1 100000) .INVALID_POLICY
    "max_movements_in_flight is outside the supported range"
  refuseWhen (outside policy.maxProvenanceEvents.toNat 1 kMaxProvenanceEvents) .INVALID_POLICY
    "max_provenance_events is outside the supported range"
  refuseWhen (outside policy.maxHistoryRecords.toNat 1 10000000) .INVALID_POLICY
    "max_history_records is outside the supported range"
  refuseWhen (policy.maxStoreBytes.toNat < 1048576) .INVALID_POLICY
    "max_store_bytes is implausibly small"
  refuseWhen (policy.maxStagingBytesPerEndpoint < policy.maxChunkBytes) .INVALID_POLICY
    "staging budget must be able to hold at least one chunk"
  refuseWhen (outside policy.verifySampleChunksCount.toNat 1 64) .INVALID_POLICY
    "verify_sample_chunks_count is outside the supported range"
  refuseWhen (outside policy.ioBudgetMillis.toNat 1 3600000) .INVALID_POLICY
    "io_budget_millis is outside the supported range"
  refuseWhen (outside policy.transferBudgetMillis.toNat 1 86400000) .INVALID_POLICY
    "transfer_budget_millis is outside the supported range"

/-- What `validate` says about chunks, endpoints and provenance. -/
structure Bounded (policy : MovementPolicy) : Prop where
  leastChunk : kMinChunkBytes ≤ policy.minChunkBytes.toNat
  chunks : policy.minChunkBytes.toNat ≤ policy.maxChunkBytes.toNat
  mostChunk : policy.maxChunkBytes.toNat ≤ kMaxChunkBytes
  endpoints : 1 ≤ policy.maxEndpoints.toNat ∧ policy.maxEndpoints.toNat ≤ kMaxEndpoints
  provenance : 1 ≤ policy.maxProvenanceEvents.toNat

theorem outside_eq_false {value least most : Nat} :
    outside value least most = false ↔ least ≤ value ∧ value ≤ most := by
  rw [outside, Bool.or_eq_false_iff, decide_eq_false_iff_not, decide_eq_false_iff_not, Nat.not_lt,
    Nat.not_lt]

theorem bounded_of_validate {policy : MovementPolicy} (valid : policy.validate = .ok ()) :
    policy.Bounded := by
  simp only [validate, check_bind_eq_ok, refuseWhen_eq_ok, outside_eq_false] at valid
  rcases valid with ⟨_, _, ⟨leastChunk, _⟩, ⟨chunks, mostChunk⟩, _, _, endpoints, _, _,
    ⟨provenance, _⟩, _⟩
  exact ⟨leastChunk, chunks, mostChunk, endpoints, provenance⟩

example : ({} : MovementPolicy).validate = .ok () := by decide

end MovementPolicy

end StateMovementFabric
