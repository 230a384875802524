import StateMovementFabric.Wire.RoundTrips

namespace StateMovementFabric

open CanonicalDecoder CanonicalEncoder

/-!
# Commit markers

A commit marker is what makes the bytes of an object version authoritative at an
endpoint.  It names the movement that brought them, and is sealed with a digest over
all its other fields.
-/

structure CommitMarker where
  movementId : MovementId
  movementGeneration : MovementGeneration
  object : StateObjectDescriptor
  source : EndpointId
  destination : EndpointId
  destinationIncarnation : DestinationIncarnation
  contentDigest : Digest
  storedBytes : UInt64
  storedChunks : UInt32
  committedUnixMillis : Millis
  markerDigest : Digest
  deriving DecidableEq

namespace CommitMarker

/-- The binding part of `validate`: which movement, which endpoints. -/
def validateBinding (marker : CommitMarker) : Result Unit := do
  refuseWhen marker.movementId.isZero .COMMIT_MARKER_INVALID "commit marker requires a movement id"
  refuseWhen (!marker.movementGeneration.isSet) .COMMIT_MARKER_INVALID
    "commit marker requires a movement generation"
  marker.object.validate
  refuseWhen (marker.source.isEmpty || marker.destination.isEmpty) .COMMIT_MARKER_INVALID
    "commit marker must name both endpoints"
  refuseWhen (marker.source == marker.destination) .SELF_MOVEMENT
    "commit marker names the same endpoint twice"
  refuseWhen (!marker.destinationIncarnation.isSet) .STALE_INCARNATION
    "commit marker requires a destination incarnation"
  refuseWhen (marker.destinationIncarnation.endpoint != marker.destination) .STALE_INCARNATION
    "commit marker destination incarnation names a different endpoint"

/-- `validate`. -/
def validate (marker : CommitMarker) : Result Unit := do
  marker.validateBinding
  refuseWhen marker.contentDigest.isZero .COMMIT_MARKER_INVALID
    "commit marker requires a content digest"
  refuseWhen (marker.contentDigest != marker.object.contentDigest) .COMMIT_MARKER_INVALID
    "commit marker content digest does not match the object descriptor"
  refuseWhen (marker.storedBytes != marker.object.totalBytes) .COMMIT_MARKER_INVALID
    "commit marker byte count does not match the object descriptor"
  refuseWhen (marker.storedChunks != marker.object.chunkCount) .COMMIT_MARKER_INVALID
    "commit marker chunk count does not match the object descriptor"
  refuseWhen (marker.committedUnixMillis ≤ 0) .COMMIT_MARKER_INVALID
    "commit marker requires a timestamp"
  refuseWhen marker.markerDigest.isZero .COMMIT_MARKER_INVALID "commit marker is not sealed"

/-- The fields that the seal covers, in the order in which they are written. -/
def sealedFields (marker : CommitMarker) : List Bytes :=
  [marker.movementId.encode, u64 marker.movementGeneration.value,
    marker.object.encode, text marker.source.value,
    text marker.destination.value,
    text marker.destinationIncarnation.endpoint.value,
    marker.destinationIncarnation.boot.encode,
    u64 marker.destinationIncarnation.epoch.value,
    digest marker.contentDigest, u64 marker.storedBytes,
    u32 marker.storedChunks, i64 marker.committedUnixMillis]

/-- The domain string of markers. -/
def domain : Bytes := text (ascii "SMF-COMMIT-MARKER-v1")

/-- `compute_digest`. -/
def computeDigest (marker : CommitMarker) : Digest :=
  canonicalDigest (domain :: marker.sealedFields).flatten

/-- `seal`. -/
def sealed (marker : CommitMarker) : CommitMarker :=
  { marker with markerDigest := marker.computeDigest }

def encode (marker : CommitMarker) : Bytes :=
  (marker.sealedFields ++ [digest marker.markerDigest]).flatten

def decode : Decode CommitMarker := do
  let movementId ← FixedId.decode
  let movementGeneration ← u64
  let object ← StateObjectDescriptor.decode
  let source ← MovementRecord.decodeEndpoint
  let destination ← MovementRecord.decodeEndpoint
  let incarnationName ← text kMaxEndpointIdBytes
  let boot ← FixedId.decode
  let epoch ← u64
  let endpoint ← check (EndpointId.parse incarnationName)
  let incarnation ← check (Incarnation.make endpoint boot ⟨epoch⟩)
  let contentDigest ← digest
  let storedBytes ← u64
  let storedChunks ← u32
  let committedUnixMillis ← i64
  let markerDigest ← digest
  let marker : CommitMarker :=
    ⟨movementId, ⟨movementGeneration⟩, object, source, destination, incarnation, contentDigest,
      storedBytes, storedChunks, committedUnixMillis, markerDigest⟩
  check marker.validate
  return marker

/-! ## Reading back -/

/-- What a valid marker says about the fields whose readers make checks. -/
structure Bound (marker : CommitMarker) : Prop where
  object : marker.object.validate = .ok ()
  source : marker.source.isEmpty = false
  destination : marker.destination.isEmpty = false
  incarnation : marker.destinationIncarnation.isSet = true
  content : marker.contentDigest = marker.object.contentDigest
  stored : marker.storedBytes = marker.object.totalBytes

theorem bound_of_validate {marker : CommitMarker} (valid : marker.validate = .ok ()) :
    marker.Bound := by
  rcases check_bind_eq_ok.mp valid with ⟨binding, valid⟩
  rcases check_bind_eq_ok.mp valid with ⟨_, valid⟩
  rcases check_bind_eq_ok.mp valid with ⟨content, valid⟩
  rcases check_bind_eq_ok.mp valid with ⟨stored, _⟩
  rcases check_bind_eq_ok.mp binding with ⟨_, binding⟩
  rcases check_bind_eq_ok.mp binding with ⟨_, binding⟩
  rcases check_bind_eq_ok.mp binding with ⟨object, binding⟩
  rcases check_bind_eq_ok.mp binding with ⟨named, binding⟩
  rcases check_bind_eq_ok.mp binding with ⟨_, binding⟩
  rcases check_bind_eq_ok.mp binding with ⟨incarnation, _⟩
  rw [refuseWhen_eq_ok, Bool.or_eq_false_iff] at named
  rw [refuseWhen_eq_ok, Bool.not_eq_false'] at incarnation
  rw [refuseWhen_eq_ok, bne_eq_false_iff_eq] at content stored
  exact ⟨object, named.1, named.2, incarnation, content, stored⟩

theorem make_eq_ok {tag : IncarnationTag} {incarnation : Incarnation tag}
    (isSet : incarnation.isSet = true) :
    Incarnation.make incarnation.endpoint incarnation.boot incarnation.epoch = .ok incarnation := by
  simp only [Incarnation.isSet, Bool.and_eq_true, Bool.not_eq_true'] at isSet
  rcases isSet with ⟨⟨endpoint, boot⟩, epoch⟩
  simp [Incarnation.make, endpoint, boot, epoch]

section Limits

variable {limits : DecodeLimits}

theorem reads_endpointName (texts : 4096 ≤ limits.maxTextBytes) (blobs : 4096 ≤ limits.maxBlobBytes)
    (endpoint : EndpointId) :
    Reads limits (text kMaxEndpointIdBytes)
      (text endpoint.value) endpoint.value := by
  have length : endpoint.value.length ≤ 63 := endpoint.length_value
  refine .text endpoint.isValidUtf8_value ?_ (by omega)
  simp only [kMaxEndpointIdBytes]
  omega

theorem reads_endpoint (texts : 4096 ≤ limits.maxTextBytes) (blobs : 4096 ≤ limits.maxBlobBytes)
    {endpoint : EndpointId} (named : endpoint.isEmpty = false) :
    Reads limits MovementRecord.decodeEndpoint (text endpoint.value) endpoint := by
  rw [← List.append_nil (text endpoint.value)]
  exact .bind (reads_endpointName texts blobs endpoint) (.check (EndpointId.parse_value named))

/-- A valid marker is read back. -/
theorem reads_decode (texts : 4096 ≤ limits.maxTextBytes) (blobs : 4096 ≤ limits.maxBlobBytes)
    {marker : CommitMarker} (valid : marker.validate = .ok ()) :
    Reads limits decode marker.encode marker := by
  have bound := bound_of_validate valid
  have incarnationNamed : marker.destinationIncarnation.endpoint.isEmpty = false := by
    have isSet := bound.incarnation
    simp only [Incarnation.isSet, Bool.and_eq_true, Bool.not_eq_true'] at isSet
    exact isSet.1.1
  rw [encode, sealedFields, decode]
  simp only [List.cons_append, List.nil_append, List.flatten_cons, List.flatten_nil]
  refine .bind (FixedId.reads_decode _ (by omega) (by decide)) (.bind (.u64 _)
    (.bind (StateObjectDescriptor.reads_decode texts blobs bound.object)
    (.bind (reads_endpoint texts blobs bound.source)
    (.bind (reads_endpoint texts blobs bound.destination)
    (.bind (reads_endpointName texts blobs _)
    (.bind (FixedId.reads_decode _ (by omega) (by decide)) (.bind (.u64 _) ?_)))))))
  refine .checked (EndpointId.parse_value incarnationNamed)
    (.checked (make_eq_ok bound.incarnation) ?_)
  refine .bind (.digest _) (.bind (.u64 _) (.bind (.u32 _) (.bind (.i64 _) (.bind (.digest _) ?_))))
  exact .checked valid (.pure marker)

end Limits

end CommitMarker

end StateMovementFabric
