import StateMovementFabric.Endpoint.Runs

namespace StateMovementFabric

open Foundation Wire

/-!
# Authority and the bytes it is about

The bytes of a version and its marker are two files.  Every marker is written over bytes
that hash to the digest it records.  Bytes that are placed later are not compared with a
marker that is already there, and `authority` compares their length only.
-/

variable {marker : CommitMarker} {store : ObjectStore} {version : ObjectVersion}

namespace ObjectStore

/-- Whenever a version is reported as authoritative, its bytes hash to the digest that its
marker records. -/
def AuthorityMeansBytes (store : ObjectStore) : Prop :=
  forall io version, (store.authority io version).authoritative = true ->
    exists bytes marker, store.objects version = some bytes ∧
      store.readCommitMarker io version = .ok marker ∧ sha256 bytes = marker.contentDigest

/-- Authority is a marker that reads, over bytes of the recorded length. -/
theorem authoritative_iff {io : StoreIo} :
    (store.authority io version).authoritative = true ↔
      exists marker bytes, store.readCommitMarker io version = .ok marker ∧
        store.objects version = some bytes ∧ UInt64.ofNat bytes.length = marker.storedBytes := by
  unfold authority
  cases read : store.readCommitMarker io version with
  | error status => simp only [unmarked]; simp
  | ok marker =>
      dsimp only
      cases held : store.objects version with
      | none => simp only [judge, objectPresent, held, Option.isSome_none]; simp
      | some bytes =>
          simp only [judge, objectPresent, objectSize, held, valueOr, Option.isSome_some]
          by_cases same : UInt64.ofNat bytes.length = marker.storedBytes
          · simp [same]
          · simp [same]

/-- Bytes of the length that a marker records hash to the digest that it records. -/
def Paired (store : ObjectStore) : Prop :=
  forall version bytes marker, store.objects version = some bytes ->
    store.markers version = some (markerFile marker) -> Filed version marker ->
    UInt64.ofNat bytes.length = marker.storedBytes -> sha256 bytes = marker.contentDigest

theorem Paired.authorityMeansBytes (paired : store.Paired) (wellfiled : store.Wellfiled) :
    store.AuthorityMeansBytes := by
  intro io version authoritative
  rcases authoritative_iff.mp authoritative with ⟨marker, bytes, read, held, length⟩
  rcases (readCommitMarker_eq_ok wellfiled).mp read with ⟨_, found, filed⟩
  exact ⟨bytes, marker, held, read, paired version bytes marker held found filed length⟩

@[simp] theorem contentDigest_toFile (marker : CommitMarker) :
    (toFile marker).contentDigest = marker.contentDigest := by
  unfold toFile
  split <;> rfl

@[simp] theorem movementId_toFile (marker : CommitMarker) :
    (toFile marker).movementId = marker.movementId := by
  unfold toFile
  split <;> rfl

theorem markers_install (store : ObjectStore) (marker : CommitMarker) (version : ObjectVersion) :
    (store.install marker).markers version =
      if version = marker.object.version then some (markerFile marker) else store.markers version :=
  Function.update_apply ..

/-- Two markers with one file are one marker. -/
theorem markerFile_inj {other : CommitMarker} (filed : Filed version marker)
    (alsoFiled : Filed version other) (same : markerFile marker = markerFile other) :
    marker = other := by
  have back := readMarkerFile_markerFile alsoFiled
  rw [← same, readMarkerFile_markerFile filed] at back
  cases back
  rfl

/-- A marker may be filed over bytes that hash to its digest. -/
theorem Paired.install (paired : store.Paired) (filed : Filed marker.object.version marker)
    (hashes : forall bytes, store.objects marker.object.version = some bytes ->
      sha256 bytes = marker.contentDigest) : (store.install marker).Paired := by
  intro version bytes found held file other length
  rw [markers_install] at file
  split at file
  · rename_i here
    subst here
    rw [← markerFile_inj filed other (Option.some.inj file)]
    exact hashes bytes held
  · exact paired version bytes found held file other length

end ObjectStore

namespace EndpointAgent

/-- Bytes that are placed under a marker have the digest that it records, or are not of
the length that it records. -/
def agreesWithMarker (agent : EndpointAgent) (action : AgentAction) : Bool :=
  match agent.placed action with
  | none => true
  | some (version, bytes) =>
      match agent.store.readCommitMarker {} version with
      | .error _ => true
      | .ok marker =>
          sha256 bytes == marker.contentDigest || UInt64.ofNat bytes.length != marker.storedBytes

variable {action : AgentAction} {agent : EndpointAgent} {bytes : Bytes}
  {environment : AgentEnvironment}

theorem sha256_of_agreesWithMarker (agrees : agent.agreesWithMarker action = true)
    (wellfiled : agent.store.Wellfiled) (places : agent.placed action = some (version, bytes))
    (found : agent.store.markers version = some (ObjectStore.markerFile marker))
    (filed : ObjectStore.Filed version marker)
    (length : UInt64.ofNat bytes.length = marker.storedBytes) :
    sha256 bytes = marker.contentDigest := by
  have read : agent.store.readCommitMarker {} version = .ok marker :=
    (ObjectStore.readCommitMarker_eq_ok wellfiled).mpr ⟨rfl, found, filed⟩
  unfold agreesWithMarker at agrees
  simp only [places, read, Bool.or_eq_true, beq_iff_eq, bne_iff_ne] at agrees
  exact agrees.resolve_right (not_not.mpr length)

/-- The checks of the commit barrier: the placed bytes hash to the requested digest. -/
theorem sha256_of_checkCommit {message : CommitRequest} {storedBytes : UInt64}
    (checked : agent.checkCommit environment message = .ok storedBytes)
    (held : agent.store.objects message.object.version = some bytes) :
    sha256 bytes = message.object.contentDigest := by
  unfold checkCommit at checked
  dsimp only at checked
  split at checked
  · cases checked
  split at checked
  · cases checked
  unfold ObjectStore.digestObject at checked
  rw [held] at checked
  dsimp only at checked
  cases readable : environment.io.data with
  | error status =>
      rw [readable] at checked
      cases checked
  | ok _ =>
      rw [readable] at checked
      have digest := (refuseWhen_bind_eq_ok.mp checked).1
      exact bne_eq_false_iff_eq.mp digest

theorem contentDigest_of_published {object : StateObjectDescriptor} {contents : Bytes}
    (publishes : agent.published action = some (environment, object, contents)) :
    object.contentDigest = sha256 contents := by
  rcases Option.bind_eq_some_iff.mp publishes with ⟨⟨_, tooLarge, publication⟩, _, described⟩
  rcases Option.map_eq_some_iff.mp described with ⟨made, okay, same⟩
  cases same
  have described : agent.describePublication environment tooLarge publication = .ok object :=
    toOption_eq_some.mp okay
  unfold describePublication at described
  rcases refuseWhen_bind_eq_ok.mp described with ⟨_, described⟩
  rcases bind_eq_ok.mp described with ⟨descriptor, created, described⟩
  cases described
  rcases bind_eq_ok.mp created with ⟨objectId, _, created⟩
  rcases check_bind_eq_ok.mp created with ⟨_, created⟩
  cases created
  rfl

/-! ## Steps and runs -/

/-- Every marker file is well formed, and bytes of the recorded length have the recorded
digest. -/
structure Sound (agent : EndpointAgent) : Prop where
  wellfiled : agent.store.Wellfiled
  paired : agent.store.Paired

theorem Vacant.sound (vacant : agent.Vacant) : agent.Sound := by
  refine ⟨vacant.wellfiled, ?_⟩
  intro version bytes marker held
  rw [vacant.objects version] at held
  cases held

theorem paired_congr {other : ObjectStore} (paired : store.Paired)
    (objects : other.objects = store.objects) (markers : other.markers = store.markers) :
    other.Paired := by
  intro version bytes marker held found
  rw [objects] at held
  rw [markers] at found
  exact paired version bytes marker held found

theorem Sound.step (sound : agent.Sound) (agrees : agent.agreesWithMarker action = true) :
    (agent.step action).Sound := by
  refine ⟨wellfiled_step sound.wellfiled action, ?_⟩
  have effect := effect_step agent action
  generalize (agent.step action).store = after at effect ⊢
  cases effect with
  | answers environment frame _ handled =>
      cases handled with
      | keeps _ objects markers => exact paired_congr sound.paired objects markers
      | commits message storedBytes marker _ _ checked made filed _ =>
          apply sound.paired.install (filed.version ▸ filed)
          intro bytes held
          rw [filed.version] at held
          rw [sha256_of_checkCommit checked held, made, ObjectStore.contentDigest_toFile]
          rfl
  | keeps _ _ objects markers => exact paired_congr sound.paired objects markers
  | places _ version bytes _ planned refilled markers =>
      intro other held marker present found filed length
      rw [markers] at found
      rcases refilled other with same | ⟨rfl, replaced | lost⟩
      · rw [same] at present
        exact sound.paired other held marker present found filed length
      · rw [replaced] at present
        cases present
        exact sha256_of_agreesWithMarker agrees sound.wellfiled planned found filed length
      · rw [lost] at present
        cases present
  | publishes _ environment object contents marker _ planned made filed _ objects markers =>
      intro other held found present file back length
      rw [markers, ObjectStore.markers_install, filed.version] at file
      rw [objects, Function.update_apply] at present
      by_cases here : other = object.version
      · rw [if_pos here] at file present
        cases present
        have same := ObjectStore.markerFile_inj filed (here ▸ back) (Option.some.inj file)
        rw [← same, made, ObjectStore.contentDigest_toFile]
        exact (contentDigest_of_published planned).symm
      · rw [if_neg here] at file present
        exact sound.paired other held found present file back length

/-- In every run of an endpoint in which bytes that are placed under a marker agree with
it, authority means the right bytes. -/
theorem authorityMeansBytes_run (agent : EndpointAgent) (vacant : agent.Vacant)
    (actions : List AgentAction) (agrees : everyStep step agreesWithMarker agent actions = true) :
    (agent.run actions).store.AuthorityMeansBytes := by
  have sound : (agent.run actions).Sound :=
    runFrom_invariant_of_everyStep agrees vacant.sound fun _ _ sound meets => sound.step meets
  exact sound.paired.authorityMeansBytes sound.wellfiled

/-! ## Two publications of one version -/

/-- Publish some bytes as the first generation of the object `o`. -/
def publishing (contents : Bytes) : AgentAction :=
  .publishBytes { movementId := .filled 3 } ⟨.GENERIC_BLOB, ascii "o", ⟨1⟩, contents, [], true⟩

/-- The version that is published. -/
def publishedVersion : ObjectVersion := ⟨oneByteObjectId, ⟨1⟩⟩

theorem authorityMeansBytes_published :
    ((newAgent.run [publishing [1]]).store.authority {} publishedVersion).authoritative = true ∧
      (newAgent.run [publishing [1]]).store.AuthorityMeansBytes :=
  ⟨by decide +kernel, authorityMeansBytes_run newAgent vacant_newAgent _ (by decide +kernel)⟩

/-- The second publication is refused, after its bytes have taken the place of the first. -/
theorem not_authorityMeansBytes_publishedOther :
    ¬(newAgent.run [publishing [1], publishing [2]]).store.AuthorityMeansBytes := by
  intro means
  have reached : ((newAgent.run [publishing [1], publishing [2]]).store.authority {}
        publishedVersion).authoritative = true ∧
      (newAgent.run [publishing [1], publishing [2]]).store.objects publishedVersion = some [2] ∧
      ((newAgent.run [publishing [1], publishing [2]]).store.readCommitMarker {}
        publishedVersion).toOption.map CommitMarker.contentDigest = some oneByteDigest := by
    decide +kernel
  rcases means {} publishedVersion reached.1 with ⟨bytes, marker, found, read, hashes⟩
  rw [reached.2.1] at found
  cases found
  have recorded : some marker.contentDigest = some oneByteDigest := by
    rw [← reached.2.2, read]
    rfl
  have same : sha256 [2] = oneByteDigest := hashes.trans (Option.some.inj recorded)
  exact absurd same (by decide +kernel)

end EndpointAgent

end StateMovementFabric
