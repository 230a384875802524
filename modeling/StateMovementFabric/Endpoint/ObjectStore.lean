import Mathlib.Logic.Function.Basic
import StateMovementFabric.Endpoint.CommitMarker

namespace StateMovementFabric

open CanonicalDecoder CanonicalEncoder

/-!
# The object store of an endpoint

The placed bytes of an object version, its commit marker and the staging directory of
a movement are separate files.  The state here is the content of these files; what the
file system does to one operation is given with the operation.
-/

/-- The key under which bytes and markers are filed. -/
structure ObjectVersion where
  objectId : StateObjectId
  generation : StateGeneration
  deriving DecidableEq

def StateObjectDescriptor.version (object : StateObjectDescriptor) : ObjectVersion :=
  ⟨object.objectId, object.generation⟩

/-- The files of one staging directory. -/
structure StagingDirectory where
  data : Option Bytes
  journal : Option Bytes
  deriving DecidableEq

structure ObjectStore where
  root : Text
  allowResume : Bool
  objects : ObjectVersion -> Option Bytes
  markers : ObjectVersion -> Option Bytes
  staging : MovementId -> Option StagingDirectory

/-- What the file system does to one operation. -/
structure StoreIo where
  /-- Opening and reading a marker file. -/
  marker : Result Unit := .ok ()
  /-- Opening and reading a data file. -/
  data : Result Unit := .ok ()
  /-- `create_directories`. -/
  directories : Bool := true
  /-- `atomic_replace_file` of a marker. -/
  replaced : Result Unit := .ok ()
  /-- Writing and syncing the file that is to be published. -/
  imported : Result Unit := .ok ()
  /-- Removing the previous data file. -/
  removed : Bool := true
  /-- Renaming a file or directory into place. -/
  renamed : Bool := true
  /-- `sync_existing_file` of the promoted data. -/
  synced : Result Unit := .ok ()

namespace ObjectStore

/-! ## Paths -/

/-- `to_hex`. -/
def toHex (bytes : Bytes) : Text :=
  let digit (value : UInt8) : UInt8 := if value < 10 then 0x30 + value else 0x57 + value
  bytes.flatMap fun byte : Byte => [digit (byte >>> 4), digit (byte &&& 0x0f)]

def commitMarkerPath (store : ObjectStore) (version : ObjectVersion) : Text :=
  store.root ++ ascii "/commits/" ++ toHex version.objectId.bytes ++ ascii "/" ++
    decimal version.generation.value.toNat ++ ascii ".marker"

def objectDataPath (store : ObjectStore) (version : ObjectVersion) : Text :=
  store.root ++ ascii "/objects/" ++ toHex version.objectId.bytes ++ ascii "/" ++
    decimal version.generation.value.toNat ++ ascii "/data"

/-- `FileHandle::open` of a file that is not there. -/
def couldNotOpen {α : Type} (path : Text) : Result α :=
  .error ⟨.STORE_IO_ERROR, ascii "could not open " ++ path⟩

/-! ## Placed objects -/

def objectPresent (store : ObjectStore) (version : ObjectVersion) : Bool :=
  (store.objects version).isSome

def objectSize (store : ObjectStore) (version : ObjectVersion) : Result UInt64 :=
  match store.objects version with
  | some bytes => .ok (UInt64.ofNat bytes.length)
  | none => refuse .OBJECT_VERSION_NOT_FOUND "no bytes are placed for that version"

/-- `digest_object`: the digest and the number of bytes. -/
def digestObject (store : ObjectStore) (io : StoreIo) (version : ObjectVersion) :
    Result (Digest × UInt64) :=
  match store.objects version with
  | none => couldNotOpen (store.objectDataPath version)
  | some bytes => do
      io.data
      return (sha256 bytes, UInt64.ofNat bytes.length)

/-- `read_range`. -/
def readRange (store : ObjectStore) (io : StoreIo) (version : ObjectVersion)
    (offset length maxLength : UInt64) : Result Bytes :=
  if length > maxLength then
    refuse .PROTOCOL_BOUNDS_EXCEEDED "requested range exceeds the permitted bound"
  else
    match store.objects version with
    | none => couldNotOpen (store.objectDataPath version)
    | some bytes => do
        io.data
        match checkedAdd offset length with
        | none => refuse .CHUNK_INDEX_OUT_OF_RANGE "requested range lies outside the object"
        | some stop =>
            if stop > UInt64.ofNat bytes.length then
              refuse .CHUNK_INDEX_OUT_OF_RANGE "requested range lies outside the object"
            else return (bytes.drop offset.toNat).take length.toNat

/-! ## Commit markers -/

/-- The largest marker file that is read. -/
def kMaxMarkerFileBytes : Nat := 1048576

/-- The domain string and the marker behind it. -/
def decodeMarker : Decode CommitMarker := do
  let domain ← text kMaxTextBytes
  if domain ≠ ascii "SMF-COMMIT-MARKER-v1" then
    CanonicalDecoder.fail .COMMIT_MARKER_INVALID "commit marker domain does not match"
  else CommitMarker.decode

def markerFile (marker : CommitMarker) : Bytes := CommitMarker.domain ++ marker.encode

/-- The marker that `write_commit_marker` finds in place, if it can make sense of one. -/
def existingMarker (store : ObjectStore) (io : StoreIo) (version : ObjectVersion) :
    Option CommitMarker :=
  match store.markers version, io.marker with
  | some file, .ok () =>
      if file.length = 0 ∨ file.length > kMaxMarkerFileBytes then none
      else (decodeAll decodeMarker file {}).toOption
  | _, _ => none

/-- `atomic_replace_file` of a marker that succeeds. -/
def install (store : ObjectStore) (marker : CommitMarker) : ObjectStore :=
  { store with
    markers := Function.update store.markers marker.object.version (some (markerFile marker)) }

/-- The marker to file: sealed, if the caller has not done so. -/
def toFile (marker : CommitMarker) : CommitMarker :=
  if marker.markerDigest.isZero then marker.sealed else marker

/-- `write_commit_marker`. -/
def writeCommitMarker (store : ObjectStore) (io : StoreIo) (marker : CommitMarker) :
    ObjectStore × Result Unit :=
  let filed := toFile marker
  if filed.markerDigest ≠ filed.computeDigest then
    (store, refuse .COMMIT_MARKER_INVALID "commit marker digest does not match its fields")
  else
    match filed.validate with
    | .error status => (store, .error status)
    | .ok () =>
        match store.existingMarker io filed.object.version with
        | some existing =>
            -- an idempotent repeat of the same commit is a success
            if existing.markerDigest = filed.markerDigest then (store, .ok ())
            else
              (store, refuse .COMMIT_ALREADY_EXISTS
                "a different commit marker already exists for this object version")
        | none =>
            if !io.directories then
              (store, refuse .STORE_IO_ERROR "could not create the commit directory")
            else
              match io.replaced with
              | .error status => (store, .error status)
              | .ok () => (store.install filed, .ok ())

/-- `read_commit_marker` on the content of the file. -/
def readMarkerFile (file : Bytes) (version : ObjectVersion) : Result CommitMarker := do
  refuseWhen (file.length == 0 || file.length > kMaxMarkerFileBytes) .COMMIT_MARKER_INVALID
    "commit marker has an implausible size"
  let marker ← decodeAll (do
    let found ← decodeMarker
    requireEnd
    return found) file {}
  refuseWhen (marker.markerDigest != marker.computeDigest) .COMMIT_MARKER_INVALID
    "commit marker digest does not match its own fields"
  refuseWhen (marker.object.version != version) .COMMIT_MARKER_INVALID
    "commit marker is filed under the wrong object version"
  return marker

/-- `read_commit_marker`. -/
def readCommitMarker (store : ObjectStore) (io : StoreIo) (version : ObjectVersion) :
    Result CommitMarker :=
  match store.markers version with
  | none => couldNotOpen (store.commitMarkerPath version)
  | some file => do
      io.marker
      readMarkerFile file version

def commitMarkerPresent (store : ObjectStore) (version : ObjectVersion) : Bool :=
  (store.markers version).isSome

/-! ## Authority -/

/-- `ObjectAuthority`. -/
structure Authority where
  version : ObjectVersion
  movementId : MovementId
  bytesPresent : Bool
  markerPresent : Bool
  markerValid : Bool
  authoritative : Bool
  markerDigest : Digest
  storedBytes : UInt64
  code : ReasonCode
  detail : Text
  deriving DecidableEq

/-- `authority` when the marker cannot be read. -/
def unmarked (store : ObjectStore) (version : ObjectVersion) (status : Status) : Authority where
  version := version
  movementId := .zero
  bytesPresent := store.objectPresent version
  markerPresent := store.commitMarkerPresent version
  markerValid := false
  authoritative := false
  markerDigest := .zero
  storedBytes := 0
  code := if store.commitMarkerPresent version then status.code else .OBJECT_VERSION_NOT_FOUND
  detail :=
    if store.commitMarkerPresent version then status.toText
    else ascii ("no commit marker exists for this object version, so any bytes present " ++
      "there are staged residue and not reusable authority")

/-- How `authority` judges the bytes under a marker that was read. -/
def judge (bytesPresent : Bool) (storedBytes : UInt64) (marker : CommitMarker) :
    Bool × ReasonCode × String :=
  if !bytesPresent then
    (false, .OBJECT_NOT_FOUND, "a commit marker exists but the object bytes are missing")
  else if storedBytes ≠ marker.storedBytes then
    (false, .BYTE_COUNT_MISMATCH, "stored byte count does not match the commit marker")
  else (true, .OK, "commit marker verified and stored byte count matches")

/-- `authority`. -/
def authority (store : ObjectStore) (io : StoreIo) (version : ObjectVersion) : Authority :=
  match store.readCommitMarker io version with
  | .error status => store.unmarked version status
  | .ok marker =>
      let storedBytes := valueOr 0 (store.objectSize version)
      let judgement := judge (store.objectPresent version) storedBytes marker
      { version := version
        movementId := marker.movementId
        bytesPresent := store.objectPresent version
        markerPresent := true
        markerValid := true
        authoritative := judgement.1
        markerDigest := marker.markerDigest
        storedBytes := storedBytes
        code := judgement.2.1
        detail := ascii judgement.2.2 }

/-! ## Placing bytes -/

/-- Put a file into the place of a version's data: the previous data is removed first,
so a rename that fails leaves nothing there. -/
def place (store : ObjectStore) (io : StoreIo) (version : ObjectVersion) (bytes : Bytes) :
    ObjectStore :=
  if io.renamed then { store with objects := Function.update store.objects version (some bytes) }
  else if io.removed then { store with objects := Function.update store.objects version none }
  else store

/-- `discard_staging`. -/
def discardStaging (store : ObjectStore) (io : StoreIo) (id : MovementId) :
    ObjectStore × Result Unit :=
  if io.removed then ({ store with staging := Function.update store.staging id none }, .ok ())
  else (store, refuse .CLEANUP_FAILED "could not remove the staging directory")

/-- `promote_staging`. -/
def promoteStaging (store : ObjectStore) (io : StoreIo) (id : MovementId)
    (object : StateObjectDescriptor) : ObjectStore × Result Unit :=
  match (store.staging id).bind StagingDirectory.data with
  | none => (store, refuse .OBJECT_NOT_FOUND "no staged bytes exist to promote")
  | some bytes =>
      if !io.directories then
        (store, refuse .STORE_IO_ERROR "could not create the object directory")
      else if store.objectPresent object.version && !io.removed then
        (store, refuse .STORE_IO_ERROR "could not clear the previous object data")
      else if !io.renamed then
        (store.place io object.version bytes,
          refuse .STORE_IO_ERROR "could not promote the staged bytes")
      else
        let placed := store.place io object.version bytes
        match io.synced with
        | .error status =>
            ({ placed with
                staging := Function.update placed.staging id
                  ((placed.staging id).map fun directory => { directory with data := none }) },
              .error status)
        | .ok () => ({ placed with staging := Function.update placed.staging id none }, .ok ())

/-! ## Cleanup -/

/-- The fields of `CleanupTarget` that the endpoint sets. -/
structure CleanupTarget where
  movementId : MovementId
  quarantine : Bool := false

/-- `cleanup` of a staging directory: the bytes and the entries that were removed.
Residue that is moved aside leaves this store as residue that is deleted does. -/
def cleanup (store : ObjectStore) (io : StoreIo) (target : CleanupTarget) :
    ObjectStore × Result (UInt64 × UInt32) :=
  match store.staging target.movementId with
  | none => (store, .ok (0, 0))
  | some directory =>
      let staged := UInt64.ofNat (directory.data.getD []).length
      let cleaned := { store with staging := Function.update store.staging target.movementId none }
      if target.quarantine then
        if !io.directories then
          (store, refuse .CLEANUP_FAILED "could not create the quarantine area")
        else if !io.renamed then
          (store, refuse .CLEANUP_FAILED "could not quarantine the staged bytes")
        else (cleaned, .ok (staged, 1))
      else if !io.removed then (store, refuse .CLEANUP_FAILED "could not remove the staged bytes")
      else (cleaned, .ok (staged, 1))

/-! ## What is filed -/

/-- A marker as `write_commit_marker` installs it. -/
structure Filed (version : ObjectVersion) (marker : CommitMarker) : Prop where
  valid : marker.validate = .ok ()
  sealed : marker.markerDigest = marker.computeDigest
  version : marker.object.version = version

variable {marker : CommitMarker} {version : ObjectVersion} {store : ObjectStore} {io : StoreIo}

theorem length_markerFile_le (valid : marker.validate = .ok ()) :
    (markerFile marker).length ≤ kMaxMarkerFileBytes := by
  have bound := CommitMarker.bound_of_validate valid
  rcases StateObjectDescriptor.texts_of_validate bound.object with ⟨⟨_, name⟩, _, producer⟩
  have source : marker.source.value.length ≤ 63 := marker.source.length_value
  have destination : marker.destination.value.length ≤ 63 := marker.destination.length_value
  have incarnation : marker.destinationIncarnation.endpoint.value.length ≤ 63 :=
    marker.destinationIncarnation.endpoint.length_value
  have domain : (ascii "SMF-COMMIT-MARKER-v1").length = 20 := by decide +kernel
  simp only [markerFile, CommitMarker.domain, CommitMarker.encode, CommitMarker.sealedFields,
    List.cons_append, List.nil_append, List.flatten_cons, List.flatten_nil, List.length_append,
    List.length_nil, length_digest, length_text,
    length_u64, length_u32, length_i64,
    FixedId.length_encode, StateObjectDescriptor.length_encode, domain, kMaxMarkerFileBytes]
  omega

theorem length_markerFile_pos (marker : CommitMarker) : (markerFile marker).length ≠ 0 := by
  rw [markerFile, CommitMarker.domain, List.length_append, length_text]
  omega

theorem reads_decodeMarker (valid : marker.validate = .ok ()) :
    Reads {} decodeMarker (markerFile marker) marker := by
  have domain : Reads {} (text kMaxTextBytes) CommitMarker.domain
      (ascii "SMF-COMMIT-MARKER-v1") :=
    .text (by decide +kernel) (by decide +kernel) (by decide +kernel)
  rw [markerFile, decodeMarker]
  refine .bind domain ?_
  simp only [ne_eq, not_true_eq_false, if_false]
  exact CommitMarker.reads_decode (by decide) (by decide) valid

/-- A filed marker is read back as it is. -/
theorem readMarkerFile_markerFile (filed : Filed version marker) :
    readMarkerFile (markerFile marker) version = .ok marker := by
  have short := length_markerFile_le filed.valid
  have sizeFits : ((markerFile marker).length == 0 ||
      decide ((markerFile marker).length > kMaxMarkerFileBytes)) = false := by
    rw [Bool.or_eq_false_iff, beq_eq_false_iff_ne, decide_eq_false_iff_not]
    exact ⟨length_markerFile_pos marker, Nat.not_lt.mpr short⟩
  have decoded : decodeAll (do
      let found ← decodeMarker
      requireEnd
      return found) (markerFile marker) {} = .ok marker :=
    decodeAll_of_reads (reads_decodeMarker filed.valid) (Nat.le_trans short (by decide)) id
  have sealed : (marker.markerDigest != marker.computeDigest) = false :=
    bne_eq_false_iff_eq.mpr filed.sealed
  have version : (marker.object.version != version) = false :=
    bne_eq_false_iff_eq.mpr filed.version
  rw [readMarkerFile, sizeFits]
  simp only [refuseWhen_false, ok_bind, decoded, sealed, version]
  rfl

/-- Every marker file was written by `write_commit_marker`. -/
def Wellfiled (store : ObjectStore) : Prop :=
  forall version file, store.markers version = some file ->
    exists marker, file = markerFile marker ∧ Filed version marker

theorem readCommitMarker_eq_ok (wellfiled : store.Wellfiled) :
    store.readCommitMarker io version = .ok marker ↔
      io.marker = .ok () ∧ store.markers version = some (markerFile marker) ∧
        Filed version marker := by
  rw [readCommitMarker]
  cases found : store.markers version with
  | none => simp [couldNotOpen]
  | some file =>
      rcases wellfiled version file found with ⟨written, rfl, filed⟩
      change (io.marker >>= fun _ => readMarkerFile (markerFile written) version) = _ ↔ _
      rw [check_bind_eq_ok, readMarkerFile_markerFile filed]
      constructor
      · rintro ⟨readable, same⟩
        cases same
        exact ⟨readable, rfl, filed⟩
      · rintro ⟨readable, same, other⟩
        refine ⟨readable, ?_⟩
        have readSame := readMarkerFile_markerFile other
        rw [← Option.some.inj same, readMarkerFile_markerFile filed] at readSame
        exact readSame

theorem existingMarker_of_filed (readable : io.marker = .ok ())
    (found : store.markers version = some (markerFile marker)) (filed : Filed version marker) :
    store.existingMarker io version = some marker := by
  have short := length_markerFile_le filed.valid
  have sizeFits : ¬((markerFile marker).length = 0 ∨
      (markerFile marker).length > kMaxMarkerFileBytes) :=
    not_or.mpr ⟨length_markerFile_pos marker, Nat.not_lt.mpr short⟩
  have decoded : decodeAll decodeMarker (markerFile marker) {} = .ok marker := by
    have started : start (markerFile marker) {} =
        ⟨markerFile marker ++ [], {}, false⟩ := by
      rw [start, List.append_nil, decide_eq_false]
      exact Nat.not_lt.mpr (Nat.le_trans short (by decide))
    rw [decodeAll, started, reads_decodeMarker filed.valid []]
    rfl
  rw [existingMarker, found, readable]
  simp only [if_neg sizeFits, decoded]
  rfl

/-- What `write_commit_marker` can do to the store: nothing, or install the marker where
it finds none. -/
theorem writeCommitMarker_cases (store : ObjectStore) (io : StoreIo) (marker : CommitMarker) :
    (store.writeCommitMarker io marker).1 = store ∨
      Filed marker.object.version (toFile marker) ∧
        store.existingMarker io marker.object.version = none ∧
        store.writeCommitMarker io marker = (store.install (toFile marker), .ok ()) := by
  have version : (toFile marker).object.version = marker.object.version := by
    rw [toFile]
    split <;> rfl
  unfold writeCommitMarker
  dsimp only
  split
  · exact .inl rfl
  · rename_i sealed
    split
    · exact .inl rfl
    · rename_i valid
      rw [version]
      split
      · split
        · exact .inl rfl
        · exact .inl rfl
      · rename_i absent
        split
        · exact .inl rfl
        · split
          · exact .inl rfl
          · exact .inr ⟨⟨valid, not_not.mp sealed, version⟩, absent, rfl⟩

theorem Wellfiled.install (wellfiled : store.Wellfiled)
    (filed : Filed marker.object.version marker) :
    (store.install marker).Wellfiled := by
  intro version file found
  by_cases here : version = marker.object.version
  · subst here
    change Function.update store.markers marker.object.version _ _ = _ at found
    rw [Function.update_self] at found
    exact ⟨marker, (Option.some.inj found).symm, filed⟩
  · change Function.update store.markers marker.object.version _ _ = _ at found
    rw [Function.update_of_ne here] at found
    exact wellfiled version file found

end ObjectStore

end StateMovementFabric
