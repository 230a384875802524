import StateMovementFabric.Endpoint.StagingRuns

namespace StateMovementFabric

open Foundation StateObjectDescriptor StagingSite

/-!
# What a new attempt makes of the residue

The staging directory of a movement may hold any journal next to any bytes.  `begin`
decides from the journal alone that it resumes, and only then holds the bytes against it.
Bytes that do not support the journal end the attempt with an error, but neither file is
removed, so that every later attempt meets the same residue and ends in the same way.
-/

/-! ## Journals that were loaded -/

theorem StagingJournal.validate_of_decode {journal : StagingJournal}
    {before after : CanonicalDecoder} (decoded : decode.run before = .ok (journal, after)) :
    journal.validate = .ok () := by
  unfold decode at decoded
  rcases run_bind_eq_ok.mp decoded with ⟨movementId, _, _, decoded⟩
  rcases run_bind_eq_ok.mp decoded with ⟨generation, _, _, decoded⟩
  rcases run_bind_eq_ok.mp decoded with ⟨attempt, _, _, decoded⟩
  rcases run_bind_eq_ok.mp decoded with ⟨object, _, _, decoded⟩
  rcases run_bind_eq_ok.mp decoded with ⟨verifiedChunks, _, _, decoded⟩
  rcases run_bind_eq_ok.mp decoded with ⟨verifiedBytes, _, _, decoded⟩
  rcases run_bind_eq_ok.mp decoded with ⟨count, _, _, decoded⟩
  rcases run_bind_eq_ok.mp decoded with ⟨chunkDigests, _, _, decoded⟩
  rcases run_bind_eq_ok.mp decoded with ⟨checked, _, valid, decoded⟩
  cases decoded
  exact (run_check_eq_ok.mp valid).1

namespace ObjectStore

theorem validate_of_loadJournal {store : ObjectStore} {io : StoreIo} {id : MovementId}
    {journal : StagingJournal} (loaded : store.loadJournal io id = .ok journal) :
    journal.validate = .ok () := by
  unfold loadJournal at loaded
  split at loaded
  · cases loaded
  · rcases check_bind_eq_ok.mp loaded with ⟨_, loaded⟩
    rcases check_bind_eq_ok.mp loaded with ⟨_, loaded⟩
    rcases bind_eq_ok.mp loaded with ⟨found, decoded, loaded⟩
    rcases check_bind_eq_ok.mp loaded with ⟨_, same⟩
    cases same
    rcases map_eq_ok.mp decoded with ⟨⟨_, rest⟩, ran, rfl⟩
    rcases run_bind_eq_ok.mp ran with ⟨read, between, file, ran⟩
    rcases run_bind_eq_ok.mp ran with ⟨_, _, _, ran⟩
    cases ran
    unfold StagingJournal.decodeFile at file
    rcases run_bind_eq_ok.mp file with ⟨domain, _, _, body⟩
    split at body
    · cases body
    · exact StagingJournal.validate_of_decode body

/-- The journal is all that `load_journal` depends on. -/
theorem loadJournal_congr {store other : ObjectStore} {io : StoreIo} {id : MovementId}
    (same : (store.staging id).bind StagingDirectory.journal =
      (other.staging id).bind StagingDirectory.journal) :
    store.loadJournal io id = other.loadJournal io id := by
  unfold loadJournal
  rw [same]

theorem journal_createStaging (store : ObjectStore) (id : MovementId) :
    ((store.createStaging id).staging id).bind StagingDirectory.journal =
      (store.staging id).bind StagingDirectory.journal := by
  rw [staging_createStaging]
  cases store.staging id with
  | none => rfl
  | some directory => rfl

theorem stagedData_setStagedData (store : ObjectStore) (id : MovementId) (data : Bytes) :
    (store.setStagedData id data).stagedData id = data := by
  change ((Function.update store.staging id _ id).bind StagingDirectory.data).getD [] = _
  rw [Function.update_self]
  rfl

end ObjectStore

namespace StagingWriter

theorem resumePoint_congr {store other : ObjectStore} {io : StoreIo} {id : MovementId}
    {object : StateObjectDescriptor}
    (same : (store.staging id).bind StagingDirectory.journal =
      (other.staging id).bind StagingDirectory.journal) :
    resumePoint store io id object = resumePoint other io id object := by
  unfold resumePoint
  rw [ObjectStore.loadJournal_congr same]

/-- What is known of the journal that `begin` continues from. -/
structure ResumesFrom (store : ObjectStore) (id : MovementId) (object : StateObjectDescriptor)
    (stored : StagingJournal) : Prop where
  loaded : store.loadJournal {} id = .ok stored
  begun : 0 < stored.verifiedChunks.toNat
  few : stored.verifiedChunks.toNat ≤ object.chunkCount.toNat
  bytes : stored.verifiedBytes = .ofNat (object.plannedBytes stored.verifiedChunks.toNat)

/-- Staged state that fits is cut like the planned object. -/
theorem segmentation_of_checkResumeCompatible {planned staged : StateObjectDescriptor}
    (compatible : checkResumeCompatible planned staged = .ok ()) :
    planned.chunkBytes = staged.chunkBytes ∧ planned.chunkCount = staged.chunkCount ∧
      planned.totalBytes = staged.totalBytes := by
  simp only [checkResumeCompatible, refuseWhen_bind_eq_ok, refuseWhen_eq_ok,
    bne_eq_false_iff_eq] at compatible
  exact compatible.2.2.2

/-- A journal that `begin` continues from was loaded, fits and counts a chunk. -/
theorem resumePoint_eq_some {store : ObjectStore} {io : StoreIo} {id : MovementId}
    {object : StateObjectDescriptor} {stored : StagingJournal}
    (resumes : resumePoint store io id object = some stored) :
    store.loadJournal io id = .ok stored ∧ checkResumeCompatible object stored.object = .ok () ∧
      0 < stored.verifiedChunks.toNat := by
  unfold resumePoint at resumes
  split at resumes
  · cases resumes
  · rename_i journal loaded
    split_ifs at resumes with usable
    cases resumes
    rw [Bool.and_eq_true, decide_eq_true_eq] at usable
    refine ⟨loaded, ?_, UInt32.lt_iff_toNat_lt.mp usable.2⟩
    cases checked : checkResumeCompatible object stored.object with
    | ok _ => rfl
    | error status =>
        rw [checked] at usable
        cases usable.1

theorem resumesFrom_of_resumePoint {store : ObjectStore} {id : MovementId}
    {object : StateObjectDescriptor} {stored : StagingJournal}
    (resumes : resumePoint store {} id object = some stored) :
    ResumesFrom store id object stored := by
  rcases resumePoint_eq_some resumes with ⟨loaded, compatible, counted⟩
  rcases segmentation_of_checkResumeCompatible compatible with ⟨chunkBytes, chunkCount, totalBytes⟩
  have valid := StagingJournal.validate_eq_ok.mp (ObjectStore.validate_of_loadJournal loaded)
  refine ⟨loaded, counted, ?_, ?_⟩
  · rw [chunkCount]
    exact valid.2.2.2.1
  · rw [valid.2.2.2.2.2]
    unfold plannedBytes
    rw [chunkBytes, totalBytes]

/-! ## Holding the bytes against the journal -/

/-- The first `count` chunks are in the file, with the journalled digests. -/
def Supports (object : StateObjectDescriptor) (data : Bytes) (digests : List Digest)
    (count : Nat) : Prop :=
  object.plannedBytes count ≤ data.length ∧ forall place, place < count ->
    plannedDigest object place (StagingSite.slice object data place) = digests.getD place .zero

instance (object : StateObjectDescriptor) (data : Bytes) (digests : List Digest) (count : Nat) :
    Decidable (Supports object data digests count) :=
  inferInstanceAs (Decidable (_ ∧ forall place, place < count -> _))

/-- On a file that is long enough, reading the prefix back fails on a digest only. -/
theorem exists_rehash_iff {object : StateObjectDescriptor} (sized : object.Sized) {data : Bytes}
    (digests : List Digest) {left : Nat} (index : UInt32) (running : Sha256)
    (inside : index.toNat + left ≤ object.chunkCount.toNat)
    (long : object.plannedBytes (index.toNat + left) ≤ data.length) :
    (exists result, rehash object data digests left index
        (.ofNat (object.plannedBytes index.toNat)) running = .ok result) ↔
      forall place, index.toNat ≤ place -> place < index.toNat + left ->
        plannedDigest object place (StagingSite.slice object data place) = digests.getD place .zero := by
  induction left generalizing index running with
  | zero =>
      refine iff_of_true ⟨running, rfl⟩ ?_
      intro place above below
      omega
  | succ left ih =>
      have bound := object.chunkCount.toNat_lt
      have below : index < object.chunkCount := by
        rw [UInt32.lt_iff_toNat_lt]
        omega
      have next : (index + 1).toNat = index.toNat + 1 := by
        rw [UInt32.toNat_add]
        exact Nat.mod_eq_of_lt (by change index.toNat + 1 < _; omega)
      have sum : UInt64.ofNat (object.plannedBytes index.toNat) +
          UInt64.ofNat (object.plannedLength index.toNat) =
          UInt64.ofNat (object.plannedBytes (index + 1).toNat) := by
        rw [← UInt64.ofNat_add, plannedBytes_add_plannedLength, next]
      have whole : (StagingSite.slice object data index.toNat).length = object.plannedLength index.toNat := by
        have stop : object.plannedBytes index.toNat + object.plannedLength index.toNat = _ :=
          plannedBytes_add_plannedLength index.toNat
        have inFile := object.plannedBytes_mono
          (show index.toNat + 1 ≤ index.toNat + (left + 1) by omega)
        rw [StagingSite.slice, List.length_take, List.length_drop]
        omega
      have digest : plannedDigest object index.toNat (StagingSite.slice object data index.toNat) =
          chunkDigestOf object index (.ofNat (object.plannedBytes index.toNat))
            (.ofNat (object.plannedLength index.toNat)) (StagingSite.slice object data index.toNat) := by
        rw [plannedDigest, UInt32.ofNat_toNat]
      have later := ih (index + 1) (running.update (StagingSite.slice object data index.toNat)) (by omega)
        (by rw [next, Nat.add_right_comm]; exact long)
      rw [rehash, chunkLength_eq sized below, ok_bind]
      dsimp only
      rw [toNat_plannedBytes sized, toNat_plannedLength sized, sum]
      change (exists result, (refuseWhen ((StagingSite.slice object data index.toNat).length != _) _ _ >>=
        fun _ => refuseWhen _ _ _ >>= fun _ => rehash object data _ left (index + 1) _
          (Sha256.update _ (StagingSite.slice object data index.toNat))) = _) ↔ _
      simp only [refuseWhen_bind_eq_ok, bne_eq_false_iff_eq, whole, true_and, exists_and_left]
      rw [later, next]
      constructor
      · rintro ⟨here, rest⟩ place above under
        by_cases first : place = index.toNat
        · rw [first, digest]
          exact here
        · exact rest place (by omega) (by omega)
      · intro each
        refine ⟨?_, fun place above under => each place (by omega) (by omega)⟩
        rw [← each index.toNat (Nat.le_refl _) (by omega), digest]
        rfl

section Begin

variable {store : ObjectStore} {id : MovementId} {generation : MovementGeneration}
  {attempt : TransferAttemptId} {object : StateObjectDescriptor} {stored : StagingJournal}

/-- A resumed attempt leaves the files as they are; a missing data file is created. -/
theorem resume_store (journaling : Bool) :
    (resume store {} id generation attempt object journaling stored).1 =
      store.setStagedData id (store.stagedData id) := rfl

theorem journal_of_resume {journaling : Bool} {writer : StagingWriter}
    (resumed : (resume store {} id generation attempt object journaling stored).2 = .ok writer) :
    writer.journal = { stored with movementGeneration := generation, attempt := attempt } := by
  rcases check_bind_eq_ok.mp resumed with ⟨_, resumed⟩
  rcases bind_eq_ok.mp resumed with ⟨running, _, same⟩
  cases same
  rfl

theorem exists_resume_iff (sized : object.Sized) (journaling : Bool)
    (found : ResumesFrom store id object stored) :
    (exists writer,
        (resume store {} id generation attempt object journaling stored).2 = .ok writer) ↔
      Supports object (store.stagedData id) stored.chunkDigests stored.verifiedChunks.toNat := by
  have long_iff : decide ((store.stagedData id).length < stored.verifiedBytes.toNat) = false ↔
      object.plannedBytes stored.verifiedChunks.toNat ≤ (store.stagedData id).length := by
    rw [found.bytes, toNat_plannedBytes sized, decide_eq_false_iff_not, Nat.not_lt]
  have start : (0 : UInt32).toNat + stored.verifiedChunks.toNat = stored.verifiedChunks.toNat :=
    Nat.zero_add _
  have rehashed (long : object.plannedBytes stored.verifiedChunks.toNat ≤
      (store.stagedData id).length) :=
    exists_rehash_iff sized stored.chunkDigests 0 .initial (start.trans_le found.few)
      (start.symm ▸ long)
  change (exists writer, (refuseWhen _ _ _ >>= fun _ => rehash object _ _ _ 0 0 .initial >>=
    fun running => _) = .ok writer) ↔ _
  constructor
  · rintro ⟨writer, resumed⟩
    rcases refuseWhen_bind_eq_ok.mp resumed with ⟨long, resumed⟩
    rcases bind_eq_ok.mp resumed with ⟨running, ran, _⟩
    refine ⟨long_iff.mp long, fun place below => ?_⟩
    refine (rehashed (long_iff.mp long)).mp ⟨running, ?_⟩ place (Nat.zero_le _) (start.symm ▸ below)
    rw [show (0 : UInt32).toNat = 0 from rfl, plannedBytes_zero]
    exact ran
  · rintro ⟨long, each⟩
    rcases (rehashed long).mpr fun place _ below => each place (start ▸ below) with ⟨running, ran⟩
    rw [show (0 : UInt32).toNat = 0 from rfl, plannedBytes_zero] at ran
    exact ⟨_, refuseWhen_bind_eq_ok.mpr
      ⟨long_iff.mpr long, bind_eq_ok.mpr ⟨running, ran, rfl⟩⟩⟩

/-- A clean start fails only where its first journal would not be valid. -/
theorem startClean_cases (valid : object.validate = .ok ()) (journaling : Bool) :
    ((journaling = true -> id.isZero = false ∧ generation.isSet = true) ∧
        exists writer, (startClean store {} id generation attempt object journaling).2 =
            .ok writer ∧ writer.journal.verifiedChunks = 0 ∧
          (((startClean store {} id generation attempt object journaling).1.staging id).bind
            StagingDirectory.data) = some []) ∨
      ¬(journaling = true -> id.isZero = false ∧ generation.isSet = true) ∧
        exists status, (startClean store {} id generation attempt object journaling).2 =
          .error status := by
  let opened : ObjectStore :=
    { store with staging := Function.update store.staging id none }.setStagedData id []
  let journal : StagingJournal :=
    { movementId := id, movementGeneration := generation, attempt := attempt, object := object }
  have empty : (opened.staging id).bind StagingDirectory.data = some [] := by
    change Option.bind (Function.update (Function.update store.staging id none) id _ id) _ = _
    rw [Function.update_self]
    rfl
  have valid_iff : journal.validate = .ok () ↔ id.isZero = false ∧ generation.isSet = true := by
    rw [StagingJournal.validate_eq_ok]
    constructor
    · rintro ⟨named, numbered, _⟩
      exact ⟨named, numbered⟩
    · rintro ⟨named, numbered⟩
      refine ⟨named, numbered, valid, Nat.zero_le _, rfl, ?_⟩
      change (0 : UInt64) = .ofNat (object.plannedBytes 0)
      rw [plannedBytes_zero]
      rfl
  have cleared : store.discardStaging {} id =
      ({ store with staging := Function.update store.staging id none }, .ok ()) := rfl
  rw [startClean, cleared]
  dsimp only
  cases journaling with
  | false => exact .inl ⟨fun impossible => (by cases impossible), _, rfl, rfl, empty⟩
  | true =>
      rw [if_pos rfl]
      cases checked : journal.validate with
      | error status =>
          have failed : opened.saveJournal {} journal = (opened, .error status) := by
            rw [ObjectStore.saveJournal, checked]
          rw [failed]
          refine .inr ⟨fun both => ?_, status, rfl⟩
          cases checked.symm.trans (valid_iff.mpr (both rfl))
      | ok _ =>
          have saved : opened.saveJournal {} journal =
              ({ opened with
                  staging := Function.update opened.staging id
                    (some { (opened.staging id).getD ⟨none, none⟩ with
                      journal := some journal.file }) }, .ok ()) := by
            rw [ObjectStore.saveJournal, checked]
            rfl
          rw [saved]
          refine .inl ⟨fun _ => valid_iff.mp checked, _, rfl, rfl, ?_⟩
          change (Function.update opened.staging id _ id).bind StagingDirectory.data = _
          rw [Function.update_self]
          cases found : opened.staging id with
          | none =>
              rw [found] at empty
              cases empty
          | some directory =>
              rw [found] at empty
              exact empty

end Begin

/-! ## Whole attempts -/

section Recovery

variable (store : ObjectStore) (id : MovementId) (generation : MovementGeneration)
  (attempt : TransferAttemptId) (object : StateObjectDescriptor)

/-- Attempts on this object keep a journal. -/
def journals : Bool := store.allowResume && object.chunkCount.toNat ≤ kMaxResumeJournalChunks

/-- `begin`, with no failure of the file system, returns a writer that stands behind
chunks which are on disk as journalled, or one that starts on an empty file. -/
def Recovers : Prop :=
  let begun := begin store {} id generation attempt object
  exists writer, begun.2 = .ok writer ∧
    ((exists stored, store.loadJournal {} id = .ok stored ∧
        writer.journal.verifiedChunks = stored.verifiedChunks ∧
        0 < stored.verifiedChunks.toNat ∧
        Supports object (begun.1.stagedData id) stored.chunkDigests
          stored.verifiedChunks.toNat) ∨
      writer.journal.verifiedChunks = 0 ∧
        (begun.1.staging id).bind StagingDirectory.data = some [])

/-- A usable journal is supported by the staged bytes; without one, the movement has an id
and a generation for a new journal. -/
def Recoverable : Prop :=
  journals store object = true ->
    (forall stored, resumePoint store {} id object = some stored ->
      Supports object (store.stagedData id) stored.chunkDigests stored.verifiedChunks.toNat) ∧
    (resumePoint store {} id object = none -> id.isZero = false ∧ generation.isSet = true)

variable {store id generation attempt object}

theorem begin_of_resumePoint {stored : StagingJournal} (valid : object.validate = .ok ())
    (journalled : journals store object = true)
    (resumes : resumePoint store {} id object = some stored) :
    begin store {} id generation attempt object =
      resume (store.createStaging id) {} id generation attempt object true stored := by
  have created : resumePoint (store.createStaging id) {} id object = some stored := by
    rw [resumePoint_congr (store.journal_createStaging id), resumes]
  unfold journals at journalled
  simp [begin, valid, journalled, created]

theorem begin_of_no_resumePoint (valid : object.validate = .ok ())
    (fresh : journals store object = true -> resumePoint store {} id object = none) :
    begin store {} id generation attempt object =
      startClean (store.createStaging id) {} id generation attempt object
        (journals store object) := by
  rw [← resumePoint_congr (store.journal_createStaging id)] at fresh
  unfold journals at fresh ⊢
  cases journalled : store.allowResume && decide (object.chunkCount.toNat ≤ _) with
  | false => simp [begin, valid, journalled]
  | true => simp [begin, valid, journalled, fresh journalled]

/-- A new attempt recovers exactly from the residue that supports its own journal. -/
theorem recovers_iff_recoverable (valid : object.validate = .ok ()) :
    Recovers store id generation attempt object ↔ Recoverable store id generation object := by
  have sized := sized_of_validate valid
  by_cases resumed : journals store object = true ∧ (resumePoint store {} id object).isSome
  · rcases resumed with ⟨journalled, some⟩
    rcases Option.isSome_iff_exists.mp some with ⟨stored, resumes⟩
    have found := resumesFrom_of_resumePoint resumes
    have foundCreated : ResumesFrom (store.createStaging id) id object stored :=
      { found with
        loaded := (ObjectStore.loadJournal_congr (store.journal_createStaging id)).trans
          found.loaded }
    have supported : (exists writer, (resume (store.createStaging id) {} id generation attempt object
        true stored).2 = .ok writer) ↔ _ := exists_resume_iff sized true foundCreated
    rw [stagedData_createStaging] at supported
    have recoverable_iff : Recoverable store id generation object ↔
        Supports object (store.stagedData id) stored.chunkDigests stored.verifiedChunks.toNat := by
      constructor
      · intro recoverable
        exact (recoverable journalled).1 stored resumes
      · intro supports _
        refine ⟨fun other same => ?_, fun none => ?_⟩
        · cases resumes.symm.trans same
          exact supports
        · cases resumes.symm.trans none
    unfold Recovers
    rw [recoverable_iff, begin_of_resumePoint valid journalled resumes]
    constructor
    · rintro ⟨writer, returned, _⟩
      exact supported.mp ⟨writer, returned⟩
    · intro supports
      rcases supported.mpr supports with ⟨writer, returned⟩
      refine ⟨writer, returned, .inl ⟨stored, found.loaded, ?_, found.begun, ?_⟩⟩
      · rw [journal_of_resume returned]
      · rw [resume_store, ObjectStore.stagedData_setStagedData, stagedData_createStaging]
        exact supports
  · have fresh : journals store object = true -> resumePoint store {} id object = none := by
      intro journalled
      rw [← Option.not_isSome_iff_eq_none]
      exact fun some => resumed ⟨journalled, some⟩
    have recoverable_iff : Recoverable store id generation object ↔
        (journals store object = true -> id.isZero = false ∧ generation.isSet = true) := by
      constructor
      · intro recoverable journalled
        exact (recoverable journalled).2 (fresh journalled)
      · intro named journalled
        refine ⟨fun stored resumes => ?_, fun _ => named journalled⟩
        cases (fresh journalled).symm.trans resumes
    unfold Recovers
    rw [recoverable_iff, begin_of_no_resumePoint valid fresh]
    rcases @startClean_cases (store.createStaging id) id generation attempt object valid
        (journals store object) with ⟨named, writer, returned, first, empty⟩ | ⟨unnamed, status, failed⟩
    · exact iff_of_true ⟨writer, returned, .inr ⟨first, empty⟩⟩ named
    · refine iff_of_false ?_ unnamed
      rintro ⟨writer, returned, _⟩
      cases failed.symm.trans returned

end Recovery

/-! A journal that counts the only chunk, and no bytes. -/

def journalAhead : ObjectStore :=
  let journal : StagingJournal :=
    { movementId := .filled 1, movementGeneration := ⟨1⟩, attempt := .filled 5
      object := oneByteObject, verifiedChunks := 1, verifiedBytes := 1
      chunkDigests := [plannedDigest oneByteObject 0 [1]] }
  { unstaged with
    staging := Function.update unstaged.staging (.filled 1) (some ⟨none, some journal.file⟩) }

theorem not_recovers_journalAhead :
    oneByteObject.validate = .ok () ∧
      ¬Recovers journalAhead (.filled 1) ⟨1⟩ (.filled 6) oneByteObject := by
  have begun : oneByteObject.validate = .ok () ∧
      succeeded (begin journalAhead {} (.filled 1) ⟨1⟩ (.filled 6) oneByteObject).2 = false := by
    decide +kernel
  refine ⟨begun.1, ?_⟩
  rintro ⟨writer, returned, _⟩
  have fails := begun.2
  rw [returned] at fails
  cases fails

theorem recovers_unstaged : Recovers unstaged (.filled 1) ⟨1⟩ (.filled 5) oneByteObject := by
  have nothing : resumePoint unstaged {} (.filled 1) oneByteObject = none := rfl
  refine (recovers_iff_recoverable (by decide +kernel)).mpr fun _ => ⟨?_, fun _ => by decide⟩
  intro stored resumes
  cases nothing.symm.trans resumes

end StagingWriter

end StateMovementFabric
