import StateMovementFabric.Core.StateObject

namespace StateMovementFabric

open CanonicalDecoder CanonicalEncoder

/-!
# Provenance

Every accepted step of a movement leaves one event behind.  The chain is
append-only, numbered from one without gaps, bounded, and every event in it has
passed its own check; the type carries those facts, because `append` is the only
way a chain grows and it makes all four checks.
-/

inductive MovementState where
  | PLANNED | AUTHORIZED | TRANSFERRING | BYTES_ARRIVED | VERIFIED | COMMITTED | CANCELLED
  | FAILED | OUTCOME_UNKNOWN | SUPERSEDED
  deriving DecidableEq, Repr

namespace MovementState

def all : List MovementState :=
  [PLANNED, AUTHORIZED, TRANSFERRING, BYTES_ARRIVED, VERIFIED, COMMITTED, CANCELLED, FAILED,
    OUTCOME_UNKNOWN, SUPERSEDED]

def toUInt8 (state : MovementState) : UInt8 := UInt8.ofNat state.ctorIdx

def ofUInt8 (value : UInt8) : Option MovementState := all[value.toNat]?

/-- `to_string`. -/
def name : MovementState -> String
  | PLANNED => "PLANNED"
  | AUTHORIZED => "AUTHORIZED"
  | TRANSFERRING => "TRANSFERRING"
  | BYTES_ARRIVED => "BYTES_ARRIVED"
  | VERIFIED => "VERIFIED"
  | COMMITTED => "COMMITTED"
  | CANCELLED => "CANCELLED"
  | FAILED => "FAILED"
  | OUTCOME_UNKNOWN => "OUTCOME_UNKNOWN"
  | SUPERSEDED => "SUPERSEDED"

end MovementState

inductive ProvenanceEventKind where
  | CREATED | AUTHORIZED | GRANT_ISSUED | ATTEMPT_STARTED | PROGRESS | BYTES_ARRIVED | VERIFIED
  | COMMIT_REQUESTED | COMMITTED | CANCELLED | FAILED | OUTCOME_UNKNOWN | SUPERSEDED | RECONCILED
  | RETRY_SCHEDULED | STALE_REJECTED | CLEANED | QUARANTINED
  deriving DecidableEq, Repr

namespace ProvenanceEventKind

def all : List ProvenanceEventKind :=
  [CREATED, AUTHORIZED, GRANT_ISSUED, ATTEMPT_STARTED, PROGRESS, BYTES_ARRIVED, VERIFIED,
    COMMIT_REQUESTED, COMMITTED, CANCELLED, FAILED, OUTCOME_UNKNOWN, SUPERSEDED, RECONCILED,
    RETRY_SCHEDULED, STALE_REJECTED, CLEANED, QUARANTINED]

def toUInt8 (kind : ProvenanceEventKind) : UInt8 := UInt8.ofNat kind.ctorIdx

def ofUInt8 (value : UInt8) : Option ProvenanceEventKind := all[value.toNat]?

end ProvenanceEventKind

structure ProvenanceEvent where
  sequence : UInt64
  unixMillis : Millis
  kind : ProvenanceEventKind
  state : MovementState
  movementGeneration : MovementGeneration
  reason : ReasonCode
  actor : EndpointId
  actorBoot : BootId
  actorEpoch : IncarnationEpoch
  attempt : TransferAttemptId
  evidence : Digest
  detail : Text
  deriving DecidableEq

namespace ProvenanceEvent

def validate (event : ProvenanceEvent) : Result Unit := do
  refuseWhen (event.sequence == 0) .STORE_RECORD_INVALID "provenance sequence must start at one"
  refuseWhen (event.unixMillis ≤ 0) .STORE_RECORD_INVALID "provenance event requires a timestamp"
  refuseWhen (!event.movementGeneration.isSet) .INVALID_GENERATION
    "provenance event requires a movement generation"
  refuseWhen (event.detail.length > kMaxDetailBytes) .STORE_RECORD_INVALID
    "provenance detail exceeds the text bound"
  refuseWhen (!event.detail.isEmpty && !isValidUtf8 event.detail) .INVALID_UTF8
    "provenance detail is not valid UTF-8"

def encode (event : ProvenanceEvent) : Bytes :=
  [u64 event.sequence, i64 event.unixMillis,
    u8 event.kind.toUInt8, u8 event.state.toUInt8,
    u64 event.movementGeneration.value,
    u16 (UInt16.ofNat event.reason.toNat),
    text event.actor.value, event.actorBoot.encode,
    u64 event.actorEpoch.value, event.attempt.encode,
    digest event.evidence, text event.detail].flatten

/-- The actor is optional: an empty name is kept as the empty endpoint. -/
def decodeActor (name : Text) : Result EndpointId :=
  if name.isEmpty then .ok default else EndpointId.parse name

def decode : Decode ProvenanceEvent := do
  let sequence ← u64
  let unixMillis ← i64
  let rawKind ← u8
  let kind ← match ProvenanceEventKind.ofUInt8 rawKind with
    | some kind => pure kind
    | none => fail .STORE_RECORD_INVALID "provenance kind is not recognized"
  let rawState ← u8
  let state ← match MovementState.ofUInt8 rawState with
    | some state => pure state
    | none =>
        fail .STORE_RECORD_INVALID "provenance movement state is not recognized"
  let generation ← u64
  let reason ← u16
  let actorName ← text kMaxEndpointIdBytes
  let actor ← check (decodeActor actorName)
  let actorBoot ← FixedId.decode
  let actorEpoch ← u64
  let attempt ← FixedId.decode
  let evidence ← digest
  let detail ← text kMaxDetailBytes
  let event : ProvenanceEvent :=
    { sequence := sequence
      unixMillis := unixMillis
      kind := kind
      state := state
      movementGeneration := ⟨generation⟩
      reason := .ofUInt16 reason
      actor := actor
      actorBoot := actorBoot
      actorEpoch := ⟨actorEpoch⟩
      attempt := attempt
      evidence := evidence
      detail := detail }
  check event.validate
  return event

end ProvenanceEvent

/-! ## The chain -/

structure ProvenanceChain where
  events : List ProvenanceEvent
  bound : Nat
  numbered : events.map (fun event => event.sequence.toNat) = List.range' 1 events.length
  checked : forall event, event ∈ events -> event.validate = .ok ()
  bound_le : bound ≤ kMaxProvenanceEvents
  length_le : events.length ≤ kMaxProvenanceEvents
  deriving DecidableEq

namespace ProvenanceChain

/-- The default-constructed chain. -/
def empty : ProvenanceChain :=
  ⟨[], kMaxProvenanceEvents, rfl, by simp, Nat.le_refl _, Nat.zero_le _⟩

instance : Inhabited ProvenanceChain := ⟨empty⟩

theorem ext_events {a b : ProvenanceChain} (sameEvents : a.events = b.events)
    (sameBound : a.bound = b.bound) : a = b := by
  cases a
  cases b
  cases sameEvents
  cases sameBound
  rfl

/-- `next_sequence`. -/
def nextSequence (chain : ProvenanceChain) : UInt64 := UInt64.ofNat chain.events.length + 1

theorem nextSequence_toNat (chain : ProvenanceChain) :
    chain.nextSequence.toNat = chain.events.length + 1 := by
  have short : chain.events.length ≤ 256 := chain.length_le
  rw [nextSequence, UInt64.toNat_add, UInt64.toNat_ofNat']
  change (chain.events.length % 2 ^ 64 + 1) % 2 ^ 64 = chain.events.length + 1
  omega

/-- The chain with one more event, once all checks of `append` have passed. -/
def push (chain : ProvenanceChain) (event : ProvenanceEvent)
    (room : chain.events.length < chain.bound) (next : event.sequence = chain.nextSequence)
    (valid : event.validate = .ok ()) : ProvenanceChain where
  events := chain.events ++ [event]
  bound := chain.bound
  numbered := by
    simp [chain.numbered, next, chain.nextSequence_toNat, List.range'_concat, Nat.add_comm]
  checked := by
    intro other member
    rcases List.mem_append.mp member with earlier | last
    · exact chain.checked other earlier
    · rw [List.mem_singleton.mp last]
      exact valid
  bound_le := chain.bound_le
  length_le := by
    have := chain.bound_le
    simp only [List.length_append, List.length_singleton]
    omega

/-- `append(ProvenanceEvent)`.  An event without a number is given the next one. -/
def append (chain : ProvenanceChain) (event : ProvenanceEvent) : Result ProvenanceChain :=
  if room : chain.events.length < chain.bound then
    let numberedEvent :=
      if event.sequence == 0 then { event with sequence := chain.nextSequence } else event
    if next : numberedEvent.sequence = chain.nextSequence then
      match valid : numberedEvent.validate with
      | .ok () => .ok (chain.push numberedEvent room next valid)
      | .error status => .error status
    else
      refuse .STORE_RECORD_INVALID "provenance events must be appended with contiguous sequences"
  else
    refuse .HISTORY_LIMIT_REACHED
      "provenance bound reached; the movement's history is already complete"

/-- The event that the two callers of `append` build: numbered next, with no
actor and no evidence. -/
def nextEvent (chain : ProvenanceChain) (kind : ProvenanceEventKind) (state : MovementState)
    (generation : MovementGeneration) (reason : ReasonCode) (now : Millis) (detail : Text) :
    ProvenanceEvent where
  sequence := chain.nextSequence
  unixMillis := now
  kind := kind
  state := state
  movementGeneration := generation
  reason := reason
  actor := default
  actorBoot := default
  actorEpoch := default
  attempt := default
  evidence := default
  detail := detail

/-- `append(kind, state, generation, reason, now, detail)`. -/
def appendEvent (chain : ProvenanceChain) (kind : ProvenanceEventKind) (state : MovementState)
    (generation : MovementGeneration) (reason : ReasonCode) (now : Millis) (detail : Text) :
    Result ProvenanceChain :=
  chain.append (chain.nextEvent kind state generation reason now detail)

/-- `set_bound`: the bound is clamped to `1 .. 256`. -/
def setBound (chain : ProvenanceChain) (bound : Nat) : ProvenanceChain :=
  { chain with
    bound := if bound == 0 then 1 else min bound kMaxProvenanceEvents
    bound_le := by split <;> simp [kMaxProvenanceEvents] }

def encode (chain : ProvenanceChain) : Bytes :=
  u32 (UInt32.ofNat chain.events.length) ++
    chain.events.flatMap ProvenanceEvent.encode

/-- The decoding loop: the number of events left, and the chain so far. -/
def decodeEvents : Nat -> ProvenanceChain -> Decode ProvenanceChain
  | 0, chain => pure chain
  | left + 1, chain => do
      let event ← ProvenanceEvent.decode
      if event.sequence.toNat ≠ chain.events.length + 1 then
        fail .STORE_RECORD_INVALID
          "provenance chain is not contiguous or is out of order"
      else
        let longer ← check (chain.append event)
        decodeEvents left longer

def decode : Decode ProvenanceChain := do
  let count ← CanonicalDecoder.count kMaxProvenanceEvents
  let chain ← decodeEvents count empty
  if chain.events.length > chain.bound then
    fail .STORE_RECORD_INVALID "provenance chain exceeds its bound"
  else return chain

end ProvenanceChain

end StateMovementFabric
