import StateMovementFabric.Endpoint.Authority

namespace StateMovementFabric

open Foundation

/-!
# Commit markers are written once

A writer looks for a marker that is already there before it files its own, and files it
where it can make nothing of what it finds.  That the first marker stays therefore rests
on every filed marker being one that a later writer reads: whatever its fields are, it
survives its own encoding, the bound on the size of the file, and its own checks.
-/

namespace CommitMarker

/-- The bytes that the seal is computed over. -/
def preimage (marker : CommitMarker) : Bytes := (domain :: marker.sealedFields).flatten

/-- The two seals are no collision of the hash function. -/
def NoCollision (first second : CommitMarker) : Prop :=
  first.computeDigest = second.computeDigest -> first.preimage = second.preimage

end CommitMarker

namespace ObjectStore

/-- What becomes of the two steps that put a marker file in its place.  A call that is cut
off in the middle has one of the same effects, and nobody sees its result. -/
structure ReplaceOutcome where
  directories : Bool := true
  replaced : Result Unit := .ok ()

def ReplaceOutcome.io (outcome : ReplaceOutcome) : StoreIo :=
  { directories := outcome.directories, replaced := outcome.replaced }

inductive MarkerCall where
  | write (outcome : ReplaceOutcome) (marker : CommitMarker)
  | read (version : ObjectVersion)

/-- The store after one call. -/
def afterCall (store : ObjectStore) : MarkerCall -> ObjectStore
  | .write outcome marker => (store.writeCommitMarker outcome.io marker).1
  | .read _ => store

/-- The version has this marker, as `write_commit_marker` files it. -/
structure Marked (store : ObjectStore) (version : ObjectVersion) (marker : CommitMarker) : Prop where
  file : store.markers version = some (markerFile marker)
  filed : Filed version marker

/-- The marker of a version is read back, an equal one is accepted again, and any other
valid one for the version is refused; neither write touches a file. -/
structure WrittenOnce (store : ObjectStore) (version : ObjectVersion) (marker : CommitMarker) :
    Prop where
  read : store.readCommitMarker {} version = .ok marker
  again : forall outcome repeated, Filed version (toFile repeated) ->
    (toFile repeated).markerDigest = marker.markerDigest ->
    store.writeCommitMarker (ReplaceOutcome.io outcome) repeated = (store, .ok ())
  other : forall outcome other, Filed version (toFile other) -> toFile other ≠ marker ->
    (toFile other).NoCollision marker ->
    store.writeCommitMarker (ReplaceOutcome.io outcome) other =
      (store, refuse .COMMIT_ALREADY_EXISTS
        "a different commit marker already exists for this object version")

variable {store : ObjectStore} {version : ObjectVersion} {marker : CommitMarker}

/-- A later writer recognizes the marker that is in place. -/
theorem Marked.existing (marked : store.Marked version marker) (outcome : ReplaceOutcome) :
    store.existingMarker outcome.io version = some marker :=
  existingMarker_of_filed rfl marked.file marked.filed

/-- What `write_commit_marker` does where there is a marker already. -/
theorem Marked.write (marked : store.Marked version marker) (outcome : ReplaceOutcome)
    {written : CommitMarker} (filed : Filed version (toFile written)) :
    store.writeCommitMarker outcome.io written =
      if marker.markerDigest = (toFile written).markerDigest then (store, .ok ())
      else
        (store, refuse .COMMIT_ALREADY_EXISTS
          "a different commit marker already exists for this object version") := by
  unfold writeCommitMarker
  dsimp only
  rw [if_neg (not_not.mpr filed.sealed), filed.valid]
  dsimp only
  rw [filed.version, marked.existing outcome]

/-- No call moves a marker that is in place. -/
theorem Marked.afterCall (marked : store.Marked version marker) (call : MarkerCall) :
    (store.afterCall call).Marked version marker := by
  cases call with
  | read other => exact marked
  | write outcome written =>
      refine ⟨?_, marked.filed⟩
      change (store.writeCommitMarker outcome.io written).1.markers version = _
      rcases store.writeCommitMarker_cases outcome.io written with same | ⟨filed, absent, installed⟩
      · rw [same]
        exact marked.file
      · rw [installed, markers_install, if_neg ?_]
        · exact marked.file
        · intro here
          rw [filed.version] at here
          subst here
          rw [marked.existing outcome] at absent
          cases absent

theorem Marked.run (marked : store.Marked version marker) (calls : List MarkerCall) :
    (runFrom ObjectStore.afterCall store calls).Marked version marker := by
  induction calls generalizing store with
  | nil => exact marked
  | cons call rest ih => exact ih (marked.afterCall call)

/-- Two filed markers with the same seal are the same, unless the hash collides. -/
theorem eq_of_markerDigest_eq {other : CommitMarker} (filed : Filed version marker)
    (alsoFiled : Filed version other) (distinct : marker.NoCollision other)
    (same : marker.markerDigest = other.markerDigest) : marker = other := by
  have preimages : marker.preimage = other.preimage := by
    apply distinct
    rw [← filed.sealed, ← alsoFiled.sealed, same]
  have file (marker : CommitMarker) :
      markerFile marker = marker.preimage ++ CanonicalEncoder.digest marker.markerDigest := by
    simp only [markerFile, CommitMarker.encode, CommitMarker.preimage, List.flatten_append,
      List.flatten_cons, List.flatten_nil, List.append_nil, List.append_assoc]
  apply markerFile_inj filed alsoFiled
  rw [file, file, preimages, same]

theorem Marked.writtenOnce (marked : store.Marked version marker) :
    store.WrittenOnce version marker := by
  constructor
  · rw [readCommitMarker, marked.file]
    exact readMarkerFile_markerFile marked.filed
  · intro outcome repeated filed same
    rw [marked.write outcome filed, if_pos same.symm]
  · intro outcome other filed different distinct
    rw [marked.write outcome filed, if_neg]
    intro same
    exact different (eq_of_markerDigest_eq filed marked.filed distinct same.symm)

/-- A call that changes the marker files has filed its own marker. -/
theorem marked_of_installed {io : StoreIo} {written : CommitMarker}
    (installs : (store.writeCommitMarker io written).1.markers ≠ store.markers) :
    (store.writeCommitMarker io written).1.Marked written.object.version (toFile written) := by
  rcases store.writeCommitMarker_cases io written with same | ⟨filed, _, installed⟩
  · rw [same] at installs
    exact absurd rfl installs
  · refine ⟨?_, filed⟩
    rw [installed, markers_install, if_pos filed.version.symm]

/-- Whatever the calls before and after it, a write that installs a marker for a version
is the last one that does. -/
theorem writtenOnce_of_installed (store : ObjectStore) (before later : List MarkerCall)
    (outcome : ReplaceOutcome) (marker : CommitMarker)
    (installs : ((runFrom ObjectStore.afterCall store before).writeCommitMarker outcome.io
      marker).1.markers ≠ (runFrom ObjectStore.afterCall store before).markers) :
    (runFrom ObjectStore.afterCall store (before ++ .write outcome marker :: later)).WrittenOnce
      marker.object.version (toFile marker) := by
  have marked := (marked_of_installed installs).run later
  rw [runFrom, List.foldl_append]
  exact marked.writtenOnce

/-! A marker for the one-byte object, written twice. -/

def oneByteMarker : CommitMarker where
  movementId := .filled 1
  movementGeneration := ⟨5⟩
  object := oneByteObject
  source := endpointA
  destination := endpointB
  destinationIncarnation := ⟨endpointB, .filled 2, ⟨1⟩⟩
  contentDigest := oneByteDigest
  storedBytes := 1
  storedChunks := 1
  committedUnixMillis := 1
  markerDigest := .zero

/-- A store without files. -/
def noFiles : ObjectStore := ⟨ascii "root", true, fun _ => none, fun _ => none, fun _ => none⟩

theorem writtenOnce_oneByteMarker :
    (runFrom ObjectStore.afterCall noFiles
      [.write {} oneByteMarker, .write {} { oneByteMarker with movementId := .filled 2 }]).WrittenOnce
      oneByteObject.version (toFile oneByteMarker) := by
  refine writtenOnce_of_installed noFiles [] _ {} oneByteMarker ?_
  intro unchanged
  rw [runFrom, List.foldl_nil] at unchanged
  have filed : ((noFiles.writeCommitMarker (ReplaceOutcome.io {}) oneByteMarker).1.markers
      oneByteObject.version).isSome = true := by
    decide +kernel
  rw [unchanged] at filed
  cases filed

end ObjectStore

end StateMovementFabric
