import StateMovementFabric.Core.Provenance

namespace StateMovementFabric

/-!
# The movement state machine

A movement record is a value that its owners copy, change and write back.  The
transition table says which changes of state are legal, and `applyTransition` is
the only function that changes a state: it advances the movement generation by
one and appends one provenance event for every accepted transition.
-/

open MovementState CanonicalDecoder CanonicalEncoder

/-- `kTransitions`, the complete transition relation. -/
def kTransitions : List (MovementState × MovementState) := [
  (PLANNED, AUTHORIZED), (PLANNED, CANCELLED), (PLANNED, FAILED), (PLANNED, SUPERSEDED),
  (AUTHORIZED, TRANSFERRING), (AUTHORIZED, CANCELLED), (AUTHORIZED, FAILED),
  (AUTHORIZED, SUPERSEDED), (AUTHORIZED, OUTCOME_UNKNOWN),
  (TRANSFERRING, BYTES_ARRIVED), (TRANSFERRING, CANCELLED), (TRANSFERRING, FAILED),
  (TRANSFERRING, SUPERSEDED), (TRANSFERRING, OUTCOME_UNKNOWN),
  -- a retry after the bytes arrived but failed independent verification
  (BYTES_ARRIVED, TRANSFERRING),
  (BYTES_ARRIVED, VERIFIED), (BYTES_ARRIVED, CANCELLED), (BYTES_ARRIVED, FAILED),
  (BYTES_ARRIVED, SUPERSEDED), (BYTES_ARRIVED, OUTCOME_UNKNOWN),
  (VERIFIED, COMMITTED), (VERIFIED, CANCELLED), (VERIFIED, FAILED), (VERIFIED, SUPERSEDED),
  (VERIFIED, OUTCOME_UNKNOWN),
  -- an unknown outcome is resolved only by reconciliation
  (OUTCOME_UNKNOWN, COMMITTED), (OUTCOME_UNKNOWN, FAILED), (OUTCOME_UNKNOWN, CANCELLED),
  (OUTCOME_UNKNOWN, SUPERSEDED)]

/-- `is_terminal`. -/
def isTerminal : MovementState -> Bool
  | COMMITTED | CANCELLED | FAILED | SUPERSEDED => true
  | _ => false

/-- `is_committed`. -/
def isCommitted (state : MovementState) : Bool := state == COMMITTED

/-- `check_transition`. -/
def checkTransition (source target : MovementState) : Result Unit :=
  if isTerminal source then
    .error ⟨.ALREADY_TERMINAL, ascii ("movement is already terminal in state " ++ source.name)⟩
  else if kTransitions.contains (source, target) then .ok ()
  else .error ⟨.ILLEGAL_TRANSITION, ascii ("cannot move from " ++ source.name ++ " to " ++ target.name)⟩

variable {source target next : MovementState} {now : Millis}

/-- No transition leaves a terminal state. -/
theorem not_isTerminal_of_checkTransition (legal : checkTransition source target = .ok ()) :
    isTerminal source = false := by
  cases source <;> first | rfl | cases legal

/-- Every listed transition changes the state. -/
theorem ne_of_checkTransition (legal : checkTransition source target = .ok ()) :
    source ≠ target := by
  rintro rfl
  revert legal
  cases source <;> decide

/-- `MovementDecision`. -/
structure MovementDecision where
  allowed : Bool
  code : ReasonCode
  detail : Text
  deriving DecidableEq, Repr

namespace MovementDecision

def allow (code : ReasonCode) (detail : Text) : MovementDecision := ⟨true, code, detail⟩
def deny (code : ReasonCode) (detail : Text) : MovementDecision := ⟨false, code, detail⟩

end MovementDecision

structure MovementRecord where
  id : MovementId
  generation : MovementGeneration
  object : StateObjectDescriptor
  source : EndpointId
  destination : EndpointId
  sourceIncarnation : SourceIncarnation
  destinationIncarnation : DestinationIncarnation
  compatibilityGeneration : CompatibilityGeneration
  compatibilityEvidence : Digest
  topologyGeneration : TopologyGeneration
  policyGeneration : PolicyGeneration
  state : MovementState
  lastReason : ReasonCode
  lastDetail : Text
  attempt : TransferAttemptId
  attemptCount : UInt32
  bytesTransferred : UInt64
  chunksVerified : UInt32
  sourceVerifiedDigest : Digest
  destinationVerifiedDigest : Digest
  commitMarkerDigest : Digest
  createdUnixMillis : Millis
  updatedUnixMillis : Millis
  repeatable : Bool
  cancelRequested : Bool
  provenance : ProvenanceChain
  deriving DecidableEq

variable {record changed : MovementRecord}

namespace MovementRecord

/-- `validate`, which every record passes before it is stored. -/
def validate (record : MovementRecord) : Result Unit := do
  refuseWhen record.id.isZero .INVALID_ID "movement id must not be zero"
  refuseWhen (!record.generation.isSet) .INVALID_GENERATION "movement generation must be non-zero"
  record.object.validate
  refuseWhen (record.source.isEmpty || record.destination.isEmpty) .INVALID_ID
    "movement must name a source and a destination"
  refuseWhen (record.source == record.destination) .SELF_MOVEMENT
    "source and destination endpoints are the same"
  refuseWhen (!record.sourceIncarnation.isSet || !record.destinationIncarnation.isSet)
    .STALE_INCARNATION "movement must bind both endpoint incarnations"
  refuseWhen (record.sourceIncarnation.endpoint != record.source) .STALE_INCARNATION
    "source incarnation names a different endpoint"
  refuseWhen (record.destinationIncarnation.endpoint != record.destination) .STALE_INCARNATION
    "destination incarnation names a different endpoint"
  refuseWhen (!record.topologyGeneration.isSet || !record.policyGeneration.isSet)
    .INVALID_GENERATION
    "movement must record the topology and policy generations it was decided under"
  refuseWhen (record.attemptCount.toNat > kMaxAttemptsHardLimit) .ATTEMPT_EXHAUSTED
    "movement records more attempts than are permitted"
  refuseWhen (record.chunksVerified > record.object.chunkCount) .STORE_RECORD_INVALID
    "movement claims more verified chunks than exist"
  refuseWhen (isCommitted record.state && record.commitMarkerDigest.isZero)
    .COMMIT_MARKER_INVALID "a committed movement must record the digest of its commit marker"
  refuseWhen (record.lastDetail.length > kMaxDetailBytes) .INVALID_ARGUMENT
    "movement detail exceeds the text bound"

/-- What `validate` checks. -/
structure Valid (record : MovementRecord) : Prop where
  id : record.id.isZero = false
  generation : record.generation.isSet = true
  object : record.object.validate = .ok ()
  source : record.source.isEmpty = false
  destination : record.destination.isEmpty = false
  distinct : record.source ≠ record.destination
  sourceSet : record.sourceIncarnation.isSet = true
  destinationSet : record.destinationIncarnation.isSet = true
  sourceEndpoint : record.sourceIncarnation.endpoint = record.source
  destinationEndpoint : record.destinationIncarnation.endpoint = record.destination
  topology : record.topologyGeneration.isSet = true
  policy : record.policyGeneration.isSet = true
  attempts : record.attemptCount.toNat ≤ kMaxAttemptsHardLimit
  chunks : record.chunksVerified ≤ record.object.chunkCount
  marker : record.state = COMMITTED -> record.commitMarkerDigest.isZero = false
  detail : record.lastDetail.length ≤ kMaxDetailBytes

theorem validate_eq_ok : record.validate = .ok () ↔ record.Valid := by
  simp only [validate, check_bind_eq_ok, refuseWhen_eq_ok, isCommitted, Bool.not_eq_false',
    Bool.or_eq_false_iff, Bool.and_eq_false_imp, bne_eq_false_iff_eq, beq_eq_false_iff_ne,
    beq_iff_eq, decide_eq_false_iff_not, not_lt, gt_iff_lt]
  constructor
  · rintro ⟨id, generation, object, ⟨source, destination⟩, distinct, ⟨sourceSet, destinationSet⟩,
      sourceEndpoint, destinationEndpoint, ⟨topology, policy⟩, attempts, chunks, marker, detail⟩
    exact ⟨id, generation, object, source, destination, distinct, sourceSet, destinationSet,
      sourceEndpoint, destinationEndpoint, topology, policy, attempts,
      UInt32.not_lt.mp chunks, marker, detail⟩
  · intro valid
    exact ⟨valid.id, valid.generation, valid.object, ⟨valid.source, valid.destination⟩,
      valid.distinct, ⟨valid.sourceSet, valid.destinationSet⟩, valid.sourceEndpoint,
      valid.destinationEndpoint, ⟨valid.topology, valid.policy⟩, valid.attempts,
      UInt32.not_lt.mpr valid.chunks, valid.marker, valid.detail⟩

/-- The three fields an incarnation is stored as. -/
def encodeIncarnation {tag : IncarnationTag} (incarnation : Incarnation tag) : Bytes :=
  [text incarnation.endpoint.value, incarnation.boot.encode,
    u64 incarnation.epoch.value].flatten

def encode (record : MovementRecord) : Bytes :=
  [record.id.encode, u64 record.generation.value, record.object.encode,
    text record.source.value, text record.destination.value,
    encodeIncarnation record.sourceIncarnation, encodeIncarnation record.destinationIncarnation,
    u64 record.compatibilityGeneration.value,
    digest record.compatibilityEvidence,
    u64 record.topologyGeneration.value,
    u64 record.policyGeneration.value, u8 record.state.toUInt8,
    u16 (UInt16.ofNat record.lastReason.toNat),
    text record.lastDetail, record.attempt.encode,
    u32 record.attemptCount, u64 record.bytesTransferred,
    u32 record.chunksVerified,
    digest record.sourceVerifiedDigest,
    digest record.destinationVerifiedDigest,
    digest record.commitMarkerDigest,
    i64 record.createdUnixMillis, i64 record.updatedUnixMillis,
    boolean record.repeatable, boolean record.cancelRequested,
    record.provenance.encode].flatten

end MovementRecord

/-- `Incarnation::make`. -/
def Incarnation.make {tag : IncarnationTag} (endpoint : EndpointId) (boot : BootId)
    (epoch : IncarnationEpoch) : Result (Incarnation tag) := do
  refuseWhen (!epoch.isSet) .INVALID_GENERATION "incarnation epoch must be non-zero"
  refuseWhen endpoint.isEmpty .INVALID_ID "incarnation endpoint must not be empty"
  refuseWhen boot.isZero .INVALID_ID "incarnation boot id must not be zero"
  return ⟨endpoint, boot, epoch⟩

namespace MovementRecord

/-- A stored endpoint name. -/
def decodeEndpoint : Decode EndpointId := do
  let name ← text kMaxEndpointIdBytes
  check (EndpointId.parse name)

/-- The fields of both incarnations.  All six are read before any is checked. -/
def decodeIncarnations : Decode (SourceIncarnation × DestinationIncarnation) := do
  let sourceName ← text kMaxEndpointIdBytes
  let sourceBoot ← FixedId.decode
  let sourceEpoch ← u64
  let destinationName ← text kMaxEndpointIdBytes
  let destinationBoot ← FixedId.decode
  let destinationEpoch ← u64
  let sourceParsed ← check (EndpointId.parse sourceName)
  let destinationParsed ← check (EndpointId.parse destinationName)
  let source ← check (Incarnation.make sourceParsed sourceBoot ⟨sourceEpoch⟩)
  let destination ←
    check (Incarnation.make destinationParsed destinationBoot ⟨destinationEpoch⟩)
  return (source, destination)

def decodeState : Decode MovementState := do
  let raw ← u8
  match MovementState.ofUInt8 raw with
  | some state => return state
  | none =>
      fail .STORE_RECORD_INVALID "recorded movement state is not recognized"

def decode : Decode MovementRecord := do
  let id ← FixedId.decode
  let generation ← u64
  let object ← StateObjectDescriptor.decode
  let source ← decodeEndpoint
  let destination ← decodeEndpoint
  let incarnations ← decodeIncarnations
  let compatibilityGeneration ← u64
  let compatibilityEvidence ← digest
  let topologyGeneration ← u64
  let policyGeneration ← u64
  let state ← decodeState
  let lastReason ← u16
  let lastDetail ← text kMaxDetailBytes
  let attempt ← FixedId.decode
  let attemptCount ← u32
  let bytesTransferred ← u64
  let chunksVerified ← u32
  let sourceVerifiedDigest ← digest
  let destinationVerifiedDigest ← digest
  let commitMarkerDigest ← digest
  let createdUnixMillis ← i64
  let updatedUnixMillis ← i64
  let repeatable ← boolean
  let cancelRequested ← boolean
  let provenance ← ProvenanceChain.decode
  let record : MovementRecord :=
    { id := id
      generation := ⟨generation⟩
      object := object
      source := source
      destination := destination
      sourceIncarnation := incarnations.1
      destinationIncarnation := incarnations.2
      compatibilityGeneration := ⟨compatibilityGeneration⟩
      compatibilityEvidence := compatibilityEvidence
      topologyGeneration := ⟨topologyGeneration⟩
      policyGeneration := ⟨policyGeneration⟩
      state := state
      lastReason := .ofUInt16 lastReason
      lastDetail := lastDetail
      attempt := attempt
      attemptCount := attemptCount
      bytesTransferred := bytesTransferred
      chunksVerified := chunksVerified
      sourceVerifiedDigest := sourceVerifiedDigest
      destinationVerifiedDigest := destinationVerifiedDigest
      commitMarkerDigest := commitMarkerDigest
      createdUnixMillis := createdUnixMillis
      updatedUnixMillis := updatedUnixMillis
      repeatable := repeatable
      cancelRequested := cancelRequested
      provenance := provenance }
  check record.validate
  return record

/-- The record as the encoding sees it.  The bound of the provenance chain is the
one field that is not stored; a decoded chain has the default bound. -/
def eraseBound (record : MovementRecord) : MovementRecord :=
  { record with provenance := record.provenance.setBound kMaxProvenanceEvents }

end MovementRecord

/-! ## Transitions -/

/-- The chain after an append whose status is returned to the caller: a refused
event leaves the chain as it was. -/
def appendOrKeep (chain : ProvenanceChain) (event : ProvenanceEvent) :
    ProvenanceChain × Result Unit :=
  match chain.append event with
  | .ok longer => (longer, .ok ())
  | .error status => (chain, .error status)

/-- `apply_transition`.  The record is changed in place, so the changed record is
returned next to the status: a refused transition still leaves a note of itself
behind, and a full provenance chain is reported after the state has changed. -/
def applyTransition (record : MovementRecord) (next : MovementState) (decision : MovementDecision)
    (kind : ProvenanceEventKind) (now : Millis) : MovementRecord × Result Unit :=
  match checkTransition record.state next with
  | .error legality =>
      let event := record.provenance.nextEvent .STALE_REJECTED record.state record.generation
        legality.code now legality.message
      ({ record with
          lastReason := legality.code
          lastDetail := legality.message
          provenance := (appendOrKeep record.provenance event).1 }, .error legality)
  | .ok () =>
      match record.generation.next with
      | .error status => (record, .error status)
      | .ok advanced =>
          let event :=
            record.provenance.nextEvent kind next advanced decision.code now decision.detail
          let appended := appendOrKeep record.provenance event
          ({ record with
              generation := advanced
              state := next
              lastReason := decision.code
              lastDetail := decision.detail
              updatedUnixMillis := now
              provenance := appended.1 }, appended.2)

/-- The effect of an accepted transition on the fields that identify a version. -/
structure MovementRecord.Moved (record : MovementRecord) (next : MovementState)
    (changed : MovementRecord) : Prop where
  id : changed.id = record.id
  object : changed.object = record.object
  destination : changed.destination = record.destination
  state : changed.state = next
  legal : checkTransition record.state next = .ok ()
  generation : record.generation.next = .ok changed.generation

theorem moved_of_applyTransition {decision : MovementDecision} {kind : ProvenanceEventKind}
    (applied : applyTransition record next decision kind now = (changed, .ok ())) :
    record.Moved next changed := by
  unfold applyTransition at applied
  cases legal : checkTransition record.state next with
  | error status =>
      rw [legal] at applied
      cases applied
  | ok _ =>
      rw [legal] at applied
      cases advanced : record.generation.next with
      | error status =>
          rw [advanced] at applied
          cases applied
      | ok successor =>
          rw [advanced] at applied
          cases congrArg Prod.fst applied
          exact ⟨rfl, rfl, rfl, rfl, legal, advanced⟩

/-- `record_attempt_started`. -/
def recordAttemptStarted (record : MovementRecord) (attempt : TransferAttemptId) (now : Millis) :
    MovementRecord × Result Unit :=
  if isTerminal record.state then
    (record, refuse .ALREADY_TERMINAL "movement is already terminal")
  else
    match record.generation.next with
    | .error status => (record, .error status)
    | .ok advanced =>
        let attemptCount := record.attemptCount + 1
        let event :=
          { record.provenance.nextEvent .ATTEMPT_STARTED record.state advanced .OK now
              (ascii "attempt " ++ decimal attemptCount.toNat) with attempt := attempt }
        let appended := appendOrKeep record.provenance event
        ({ record with
            generation := advanced
            attempt := attempt
            attemptCount := attemptCount
            updatedUnixMillis := now
            provenance := appended.1 }, appended.2)

/-- The effect of a recorded attempt on the fields that identify a version. -/
structure MovementRecord.Restarted (record changed : MovementRecord) : Prop where
  id : changed.id = record.id
  object : changed.object = record.object
  state : changed.state = record.state
  generation : record.generation.next = .ok changed.generation

theorem restarted_of_recordAttemptStarted {attempt : TransferAttemptId}
    (recorded : recordAttemptStarted record attempt now = (changed, .ok ())) :
    record.Restarted changed := by
  unfold recordAttemptStarted at recorded
  split at recorded
  · cases recorded
  · cases advanced : record.generation.next with
    | error status =>
        rw [advanced] at recorded
        cases recorded
    | ok successor =>
        rw [advanced] at recorded
        cases congrArg Prod.fst recorded
        exact ⟨rfl, rfl, rfl, advanced⟩

/-! ## Legal histories -/

/-- From one snapshot of a movement to the next: the state stays or moves along a listed
transition, and the generation grows with every change of state. -/
structure LegalStep (before after : MovementRecord) : Prop where
  state : before.state = after.state ∨ checkTransition before.state after.state = .ok ()
  generation : before.generation.value ≤ after.generation.value
  advances : before.state ≠ after.state -> before.generation.value < after.generation.value

theorem Generation.lt_of_next {tag : GenerationTag} {generation successor : Generation tag}
    (advanced : generation.next = .ok successor) : generation.value < successor.value := by
  rw [UInt64.lt_iff_toNat_lt, Generation.next_toNat advanced]
  exact Nat.lt_succ_self _

theorem MovementRecord.Moved.legalStep (moved : record.Moved next changed) :
    LegalStep record changed where
  state := Or.inr (moved.state ▸ moved.legal)
  generation := UInt64.le_of_lt (Generation.lt_of_next moved.generation)
  advances := fun _ => Generation.lt_of_next moved.generation

theorem MovementRecord.Restarted.legalStep (restarted : record.Restarted changed) :
    LegalStep record changed where
  state := Or.inl restarted.state.symm
  generation := UInt64.le_of_lt (Generation.lt_of_next restarted.generation)
  advances := fun _ => Generation.lt_of_next restarted.generation

/-- `evaluate_supersession`. -/
def evaluateSupersession (record : MovementRecord) (current : StateObjectDescriptor) :
    MovementDecision :=
  if current.objectId != record.object.objectId then
    .deny .STALE_STATE_GENERATION (ascii "source announced a different state object")
  else if current.generation.value > record.object.generation.value then
    .deny .MOVEMENT_SUPERSEDED
      (ascii "source state generation advanced from " ++
        decimal record.object.generation.value.toNat ++ ascii " to " ++
        decimal current.generation.value.toNat)
  else if current.contentDigest != record.object.contentDigest then
    .deny .STALE_STATE_GENERATION (ascii "source content digest changed for the same generation")
  else .allow .OK []

/-! ## A smallest movement

One byte, one chunk, two endpoints.  It is the input at which later modules
evaluate the definitions. -/

/-- The canonical identity of the blob named `o`. -/
def oneByteObjectId : StateObjectId :=
  ⟨[
    0x35, 0x7d, 0x41, 0x91, 0x82, 0x4c, 0x06, 0x3b, 0xa7, 0x13, 0xe1, 0x66,
    0x4f, 0x4b, 0xb9, 0xf7, 0x0c, 0x37, 0xe2, 0x5c, 0xcc, 0x4e, 0x28, 0xcf,
    0x28, 0x0a, 0xfd, 0xf2, 0x72, 0xe2, 0x0e, 0x4e], rfl⟩

/-- The digest of the byte `1`. -/
def oneByteDigest : Digest :=
  ⟨[
    0x4b, 0xf5, 0x12, 0x2f, 0x34, 0x45, 0x54, 0xc5, 0x3b, 0xde, 0x2e, 0xbb,
    0x8c, 0xd2, 0xb7, 0xe3, 0xd1, 0x60, 0x0a, 0xd6, 0x31, 0xc3, 0x85, 0xa5,
    0xd7, 0xcc, 0xe2, 0x3c, 0x77, 0x85, 0x45, 0x9a], rfl⟩

/-- The object whose only byte is `1`. -/
def oneByteObject : StateObjectDescriptor where
  objectId := oneByteObjectId
  kind := .GENERIC_BLOB
  name := ascii "o"
  generation := ⟨1⟩
  contentDigest := oneByteDigest
  totalBytes := 1
  chunkBytes := 1024
  chunkCount := 1
  createdUnixMillis := 1
  producer := []
  repeatable := true

def endpointA : EndpointId := ⟨ascii "a", .inr (by decide)⟩
def endpointB : EndpointId := ⟨ascii "b", .inr (by decide)⟩

/-- A movement of that object from `a` to `b`, in a given state. -/
def oneByteMovement (state : MovementState) : MovementRecord where
  id := .filled 1
  generation := ⟨1⟩
  object := oneByteObject
  source := endpointA
  destination := endpointB
  sourceIncarnation := ⟨endpointA, .filled 1, ⟨1⟩⟩
  destinationIncarnation := ⟨endpointB, .filled 2, ⟨1⟩⟩
  compatibilityGeneration := ⟨1⟩
  compatibilityEvidence := .zero
  topologyGeneration := ⟨1⟩
  policyGeneration := ⟨1⟩
  state := state
  lastReason := .OK
  lastDetail := []
  attempt := .zero
  attemptCount := 0
  bytesTransferred := 0
  chunksVerified := 0
  sourceVerifiedDigest := .zero
  destinationVerifiedDigest := .zero
  commitMarkerDigest := .zero
  createdUnixMillis := 1
  updatedUnixMillis := 1
  repeatable := true
  cancelRequested := false
  provenance := .empty

example : (oneByteMovement .PLANNED).validate = .ok () := by decide +kernel

end StateMovementFabric
