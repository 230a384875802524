import StateMovementFabric.Endpoint.Resumption

namespace StateMovementFabric

open Foundation StateObjectDescriptor

/-!
# Journals

A journal is written by `save_journal` and read by `load_journal`, and the reader has bounds
of its own: a size of the file, the limits of the decoder, a number of chunk digests.  A
writer that counts chunks of a planned object stays within all of them, so that what it has
saved can be loaded again.  Which file operations fail is left open in every call.
-/

/-! ## The byte account -/

/-- The chunks of a valid object are a partition of its bytes, and a valid journal of such an
object counts the bytes of its first chunks, again without leaving 64 bits. -/
theorem partitioned_of_validate {object : StateObjectDescriptor}
    (valid : object.validate = .ok ()) :
    object.Partitioned ∧ forall journal : StagingJournal, journal.object = object ->
      journal.validate = .ok () ->
        journal.verifiedBytes.toNat =
            min (journal.verifiedChunks.toNat * object.chunkBytes.toNat) object.totalBytes.toNat ∧
          forall chunks, chunks < journal.verifiedChunks.toNat -> exists expected length : UInt64,
            StagingJournal.addLengths object chunks 0 0 = .ok expected ∧
              object.chunkLength (.ofNat chunks) = .ok length ∧
              expected.toNat + length.toNat < 2 ^ 64 := by
  have sized := sized_of_validate valid
  refine ⟨sized.partitioned, ?_⟩
  rintro journal rfl journalValid
  rcases StagingJournal.validate_eq_ok.mp journalValid with ⟨-, -, -, few, -, bytes⟩
  refine ⟨?_, ?_⟩
  · rw [bytes, toNat_plannedBytes sized]
    rfl
  · intro chunks below
    have bound := journal.object.chunkCount.toNat_lt
    have same : (UInt32.ofNat chunks).toNat = chunks :=
      UInt32.toNat_ofNat_of_lt' (show chunks < 2 ^ 32 by omega)
    have inside : UInt32.ofNat chunks < journal.object.chunkCount := by
      rw [UInt32.lt_iff_toNat_lt, same]
      omega
    refine ⟨_, _, StagingJournal.addLengths_zero sized (by omega),
      chunkLength_eq sized inside, ?_⟩
    have total := sized.total
    have planned : journal.object.plannedBytes (chunks + 1) ≤ _ := plannedBytes_le_total _
    rw [toNat_plannedBytes sized, toNat_plannedLength sized, same, plannedBytes_add_plannedLength]
    omega

theorem partitioned_oneByteObject :
    oneByteObject.validate = .ok () ∧ oneByteObject.Partitioned := by
  have valid : oneByteObject.validate = .ok () := by decide +kernel
  exact ⟨valid, (partitioned_of_validate valid).1⟩

/-! ## Saving and loading -/

/-- A journal that was saved is found in the directory of its movement. -/
theorem ObjectStore.loadJournal_of_saveJournal {store saved : ObjectStore} {io readIo : StoreIo}
    {journal : StagingJournal} (stored : store.saveJournal io journal = (saved, .ok ()))
    (few : journal.object.chunkCount.toNat ≤ kMaxResumeJournalChunks)
    (readable : readIo.data = .ok ()) :
    saved.loadJournal readIo journal.movementId = .ok journal := by
  rw [saveJournal] at stored
  cases valid : journal.validate with
  | error status =>
      rw [valid] at stored
      cases stored
  | ok checked =>
      cases checked
      rcases StagingJournal.validate_eq_ok.mp valid with ⟨-, -, -, chunks, digests, -⟩
      rw [valid] at stored
      dsimp only at stored
      split at stored
      · cases stored
      · split at stored
        · cases stored
        · cases stored
          refine loadJournal_of_file ?_ readable valid ?_
          · dsimp only
            rw [Function.update_self]
            rfl
          · rw [digests]
            exact Nat.le_trans chunks few

/-- `load_journal` returns the journal of the movement that it was asked for. -/
theorem ObjectStore.movementId_of_loadJournal {store : ObjectStore} {io : StoreIo}
    {id : MovementId} {journal : StagingJournal} (loaded : store.loadJournal io id = .ok journal) :
    journal.movementId = id := by
  unfold loadJournal at loaded
  split at loaded
  · cases loaded
  · rcases check_bind_eq_ok.mp loaded with ⟨_, loaded⟩
    rcases check_bind_eq_ok.mp loaded with ⟨_, loaded⟩
    rcases bind_eq_ok.mp loaded with ⟨found, _, loaded⟩
    rcases refuseWhen_bind_eq_ok.mp loaded with ⟨same, returned⟩
    cases returned
    exact bne_eq_false_iff_eq.mp same

/-! ## Runs of appends -/

/-- One call of `append`, with what becomes of its file operations. -/
structure AppendCall where
  io : StoreIo := {}
  index : UInt32
  offset : UInt64
  payload : Bytes
  chunkDigest : Digest

/-- A writer and the store that it writes to. -/
structure Receiver where
  writer : StagingWriter
  store : ObjectStore

namespace Receiver

/-- The receiver after a call of `append`, whatever the call returned. -/
def step (receiver : Receiver) (call : AppendCall) : Receiver :=
  let left := receiver.writer.append receiver.store call.io call.index call.offset call.payload
    call.chunkDigest
  ⟨left.1, left.2.1⟩

/-- What `save_journal` reports in a call of `append` that comes to it. -/
def saved (receiver : Receiver) (call : AppendCall) : Option (Result Unit) :=
  let writer := receiver.writer
  match writer.checkChunk call.index call.offset call.payload call.chunkDigest with
  | .error _ => none
  | .ok length =>
      if call.index < writer.journal.verifiedChunks then none
      else if call.index ≠ writer.journal.verifiedChunks then none
      else
        match call.io.data with
        | .error _ => none
        | .ok () =>
            if writer.journaling then
              some ((writer.writeStaged receiver.store call.offset call.payload).saveJournal
                call.io (writer.advance call.payload length call.chunkDigest).journal).2
            else none

/-- The journal of a writer names its movement and has a bounded number of chunks to count. -/
structure Journals (id : MovementId) (receiver : Receiver) : Prop where
  movement : receiver.writer.journal.movementId = id
  few : receiver.writer.journal.object.chunkCount.toNat ≤ kMaxResumeJournalChunks

section Steps

variable {receiver : Receiver} {call : AppendCall} {id : MovementId}

/-- No call changes what the journal is about. -/
theorem journal_step :
    (receiver.step call).writer.journal.movementId = receiver.writer.journal.movementId ∧
      (receiver.step call).writer.journal.object = receiver.writer.journal.object := by
  unfold step StagingWriter.append StagingWriter.writeNext
  dsimp only
  split
  · exact ⟨rfl, rfl⟩
  · split
    · exact ⟨rfl, rfl⟩
    · split
      · exact ⟨rfl, rfl⟩
      · split
        · exact ⟨rfl, rfl⟩
        · split
          · split <;> exact ⟨rfl, rfl⟩
          · exact ⟨rfl, rfl⟩

theorem Journals.step (journals : Journals id receiver) : Journals id (receiver.step call) := by
  rcases @journal_step receiver call with ⟨movement, object⟩
  constructor
  · rw [movement]
    exact journals.movement
  · rw [object]
    exact journals.few

/-- A save that is reported to have succeeded is the one that the receiver is left with. -/
theorem saveJournal_of_saved (reported : receiver.saved call = some (.ok ())) :
    exists written : ObjectStore,
      written.saveJournal call.io (receiver.step call).writer.journal =
        ((receiver.step call).store, .ok ()) := by
  unfold saved at reported
  dsimp only at reported
  split at reported
  · cases reported
  · rename_i length checked
    by_cases duplicate : call.index < receiver.writer.journal.verifiedChunks
    · rw [if_pos duplicate] at reported
      cases reported
    by_cases ahead : call.index ≠ receiver.writer.journal.verifiedChunks
    · rw [if_neg duplicate, if_pos ahead] at reported
      cases reported
    rw [if_neg duplicate, if_neg ahead] at reported
    split at reported
    · cases reported
    · rename_i works
      split_ifs at reported with journaling
      cases stored : (receiver.writer.writeStaged receiver.store call.offset
          call.payload).saveJournal call.io
          (receiver.writer.advance call.payload length call.chunkDigest).journal with
      | mk left result =>
          rw [stored] at reported
          cases reported
          refine ⟨receiver.writer.writeStaged receiver.store call.offset call.payload, ?_⟩
          simp only [Receiver.step, StagingWriter.append, checked, duplicate, ahead, if_false,
            StagingWriter.writeNext, works, journaling, if_true, stored]

/-- So it is along every run. -/
theorem Journals.run (journals : Journals id receiver) (calls : List AppendCall) :
    Journals id (runFrom Receiver.step receiver calls) := by
  induction calls generalizing receiver with
  | nil => exact journals
  | cons call rest ih => exact ih journals.step

/-- After a save that succeeded the journal can be loaded, and is the writer's. -/
theorem Journals.load (journals : Journals id receiver)
    (reported : receiver.saved call = some (.ok ())) {readIo : StoreIo}
    (readable : readIo.data = .ok ()) :
    (receiver.step call).store.loadJournal readIo id = .ok (receiver.step call).writer.journal := by
  rcases saveJournal_of_saved reported with ⟨written, stored⟩
  have after : Journals id (receiver.step call) := journals.step
  have loaded := ObjectStore.loadJournal_of_saveJournal stored after.few readable
  rw [after.movement] at loaded
  exact loaded

end Steps

end Receiver

/-! ## Writers that were begun -/

namespace StagingWriter

/-- `begin` starts from scratch and keeps a journal. -/
def startsJournal (store : ObjectStore) (io : StoreIo) (id : MovementId)
    (object : StateObjectDescriptor) : Bool :=
  store.allowResume && object.chunkCount.toNat ≤ kMaxResumeJournalChunks &&
    (resumePoint (store.createStaging id) io id object).isNone

section Beginnings

variable {store begun : ObjectStore} {io : StoreIo} {id : MovementId}
  {generation : MovementGeneration} {attempt : TransferAttemptId} {object : StateObjectDescriptor}
  {writer : StagingWriter}

/-- A writer that starts from scratch has an empty journal of its movement, which is on disk if
the writer keeps one. -/
theorem startClean_eq_ok {journaling : Bool}
    (begins : startClean store io id generation attempt object journaling = (begun, .ok writer)) :
    writer.journal.movementId = id ∧ writer.journal.object = object ∧
      (journaling = true -> exists opened : ObjectStore,
        opened.saveJournal io writer.journal = (begun, .ok ())) := by
  unfold startClean at begins
  split at begins
  · cases begins
  · split at begins
    · cases begins
    · dsimp only at begins
      split_ifs at begins with keeps
      · split at begins
        · cases begins
        · rename_i saved stored
          cases begins
          exact ⟨rfl, rfl, fun _ => ⟨_, stored⟩⟩
      · cases begins
        exact ⟨rfl, rfl, fun journaling => absurd journaling keeps⟩

/-- A writer that resumes continues the journal of its movement. -/
theorem resume_eq_ok {journaling : Bool} {stored : StagingJournal}
    (begins : resume store io id generation attempt object journaling stored =
      (begun, .ok writer)) :
    writer.journal.movementId = stored.movementId ∧ writer.journal.object = stored.object := by
  unfold resume at begins
  split at begins
  · cases begins
  · rcases Prod.mk.inj begins with ⟨-, returned⟩
    rcases refuseWhen_bind_eq_ok.mp returned with ⟨-, returned⟩
    rcases bind_eq_ok.mp returned with ⟨running, -, returned⟩
    cases returned
    exact ⟨rfl, rfl⟩

/-- Every writer that `begin` returns keeps the journal of its movement. -/
theorem begin_eq_ok (few : object.chunkCount.toNat ≤ kMaxResumeJournalChunks)
    (begins : StagingWriter.begin store io id generation attempt object = (begun, .ok writer)) :
    Receiver.Journals id ⟨writer, begun⟩ ∧
      (startsJournal store io id object = true -> exists opened : ObjectStore,
        opened.saveJournal io writer.journal = (begun, .ok ())) := by
  unfold StagingWriter.begin at begins
  split at begins
  · cases begins
  · dsimp only at begins
    split_ifs at begins with directories journaling
    · cases begins
    · split at begins
      · rename_i stored resumes
        rcases resumePoint_eq_some resumes with ⟨loaded, compatible, -⟩
        rcases resume_eq_ok begins with ⟨movement, planned⟩
        refine ⟨⟨?_, ?_⟩, ?_⟩
        · rw [movement]
          exact ObjectStore.movementId_of_loadJournal loaded
        · rw [planned, ← (segmentation_of_checkResumeCompatible compatible).2.1]
          exact few
        · intro starts
          rw [startsJournal, resumes, Bool.and_eq_true] at starts
          cases starts.2
      · rcases startClean_eq_ok begins with ⟨movement, planned, keeps⟩
        exact ⟨⟨movement, planned ▸ few⟩, fun _ => keeps journaling⟩
    · rcases startClean_eq_ok begins with ⟨movement, planned, -⟩
      refine ⟨⟨movement, planned ▸ few⟩, ?_⟩
      intro starts
      rw [startsJournal, Bool.and_eq_true] at starts
      exact absurd starts.1 journaling

/-- Whatever a writer saves, when it is begun or in any call of any run of appends, is loaded
as the journal that it has in memory. -/
theorem loadJournal_after_save
    (few : object.chunkCount.toNat ≤ kMaxResumeJournalChunks)
    (begins : StagingWriter.begin store io id generation attempt object = (begun, .ok writer))
    {readIo : StoreIo} (readable : readIo.data = .ok ()) :
    (startsJournal store io id object = true ->
      begun.loadJournal readIo id = .ok writer.journal) ∧
    forall (calls : List AppendCall) (call : AppendCall) (receiver : Receiver),
      receiver = runFrom Receiver.step ⟨writer, begun⟩ calls ->
        receiver.saved call = some (.ok ()) ->
          (receiver.step call).store.loadJournal readIo id =
            .ok (receiver.step call).writer.journal := by
  rcases begin_eq_ok few begins with ⟨journals, starts⟩
  constructor
  · intro fresh
    rcases starts fresh with ⟨opened, stored⟩
    have loaded := ObjectStore.loadJournal_of_saveJournal stored journals.few readable
    rw [show writer.journal.movementId = id from journals.movement] at loaded
    exact loaded
  · rintro calls call receiver rfl reported
    exact (journals.run calls).load reported readable

end Beginnings

/-- The only chunk of the small object. -/
def onlyChunk : AppendCall where
  index := 0
  offset := 0
  payload := [1]
  chunkDigest := StagingSite.plannedDigest oneByteObject 0 [1]

theorem loadJournal_after_onlyChunk :
    exists (begun : ObjectStore) (writer : StagingWriter),
      StagingWriter.begin StagingSite.unstaged {} (.filled 1) ⟨1⟩ (.filled 5) oneByteObject =
          (begun, .ok writer) ∧
        (Receiver.mk writer begun).saved onlyChunk = some (.ok ()) ∧
        ((Receiver.mk writer begun).step onlyChunk).store.loadJournal {} (.filled 1) =
          .ok ((Receiver.mk writer begun).step onlyChunk).writer.journal := by
  have runs : ((StagingWriter.begin StagingSite.unstaged {} (.filled 1) ⟨1⟩ (.filled 5)
      oneByteObject).2.toOption.map fun writer =>
        (Receiver.mk writer (StagingWriter.begin StagingSite.unstaged {} (.filled 1) ⟨1⟩
          (.filled 5) oneByteObject).1).saved onlyChunk) = some (some (.ok ())) := by
    decide +kernel
  cases begins : StagingWriter.begin StagingSite.unstaged {} (.filled 1) ⟨1⟩ (.filled 5)
      oneByteObject with
  | mk begun result =>
      rw [begins] at runs
      cases result with
      | error status => cases runs
      | ok writer =>
          have reported := Option.some.inj runs
          refine ⟨begun, writer, rfl, reported, ?_⟩
          exact (loadJournal_after_save (by decide) begins rfl).2 [] onlyChunk _ rfl reported

end StagingWriter

end StateMovementFabric
