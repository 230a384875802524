import StateMovementFabric.Core.Hashing
import StateMovementFabric.Core.Segmentation
import StateMovementFabric.Endpoint.ObjectStore

namespace StateMovementFabric

open CanonicalDecoder CanonicalEncoder

/-!
# Staging

A transfer is received into the staging directory of its movement.  Progress is kept
three times: as the bytes of the data file, in a journal that names the digest of every
accepted chunk, and in the running hash of the writer.  A writer that finds a usable
journal reads the bytes back before it continues behind them.
-/

/-! ## Journals -/

/-- `check_resume_compatible`. -/
def checkResumeCompatible (planned staged : StateObjectDescriptor) : Result Unit := do
  refuseWhen (planned.objectId != staged.objectId) .RESUME_INCOMPATIBLE
    "staged state belongs to a different state object"
  refuseWhen (planned.generation != staged.generation) .RESUME_INCOMPATIBLE
    "staged state belongs to a different state generation"
  refuseWhen (planned.contentDigest != staged.contentDigest) .RESUME_INCOMPATIBLE
    "staged state was produced from different content"
  refuseWhen (planned.chunkBytes != staged.chunkBytes) .RESUME_INCOMPATIBLE
    "staged state used a different chunk size"
  refuseWhen (planned.chunkCount != staged.chunkCount) .RESUME_INCOMPATIBLE
    "staged state used a different segmentation"
  refuseWhen (planned.totalBytes != staged.totalBytes) .RESUME_INCOMPATIBLE
    "staged state has a different total size"

structure StagingJournal where
  movementId : MovementId
  movementGeneration : MovementGeneration
  attempt : TransferAttemptId
  object : StateObjectDescriptor
  verifiedChunks : UInt32 := 0
  verifiedBytes : UInt64 := 0
  chunkDigests : List Digest := []
  deriving DecidableEq

/-- Objects with more chunks are not journalled. -/
def kMaxResumeJournalChunks : Nat := 65536

/-- The largest journal file that is read. -/
def kMaxJournalFileBytes : Nat := 4194304

namespace StagingJournal

/-- The loop of `validate`: the bytes of the next `left` chunks on top of `expected`. -/
def addLengths (object : StateObjectDescriptor) : Nat -> UInt32 -> UInt64 -> Result UInt64
  | 0, _, expected => .ok expected
  | left + 1, index, expected => do
      let length ← object.chunkLength index
      match checkedAdd expected length with
      | none => refuse .SIZE_OVERFLOW "staging journal byte accounting overflowed"
      | some next => addLengths object left (index + 1) next

/-- `StagingJournal::validate`. -/
def validate (journal : StagingJournal) : Result Unit := do
  refuseWhen journal.movementId.isZero .STORE_RECORD_INVALID
    "staging journal requires a movement id"
  refuseWhen (!journal.movementGeneration.isSet) .STORE_RECORD_INVALID
    "staging journal requires a generation"
  journal.object.validate
  refuseWhen (journal.verifiedChunks > journal.object.chunkCount) .STORE_RECORD_INVALID
    "staging journal claims more chunks than exist"
  refuseWhen (journal.chunkDigests.length != journal.verifiedChunks.toNat) .STORE_RECORD_INVALID
    "staging journal chunk digest count does not match the verified prefix"
  let expectedBytes ← addLengths journal.object journal.verifiedChunks.toNat 0 0
  refuseWhen (expectedBytes != journal.verifiedBytes) .STORE_RECORD_INVALID
    "staging journal byte count is inconsistent with its verified prefix"

def encode (journal : StagingJournal) : Bytes :=
  [journal.movementId.encode, u64 journal.movementGeneration.value,
    journal.attempt.encode, journal.object.encode, u32 journal.verifiedChunks,
    u64 journal.verifiedBytes,
    u32 (UInt32.ofNat journal.chunkDigests.length),
    journal.chunkDigests.flatMap digest].flatten

def decode : Decode StagingJournal := do
  let movementId ← FixedId.decode
  let generation ← u64
  let attempt ← FixedId.decode
  let object ← StateObjectDescriptor.decode
  let verifiedChunks ← u32
  let verifiedBytes ← u64
  let count ← CanonicalDecoder.count kMaxResumeJournalChunks
  let chunkDigests ← repeated digest count
  let journal : StagingJournal :=
    { movementId := movementId
      movementGeneration := ⟨generation⟩
      attempt := attempt
      object := object
      verifiedChunks := verifiedChunks
      verifiedBytes := verifiedBytes
      chunkDigests := chunkDigests }
  check journal.validate
  return journal

/-- The content of the journal file. -/
def file (journal : StagingJournal) : Bytes :=
  text (ascii "SMF-STAGING-JOURNAL-v1") ++ journal.encode

/-- The domain string and the journal behind it. -/
def decodeFile : Decode StagingJournal := do
  let domain ← text kMaxTextBytes
  if domain ≠ ascii "SMF-STAGING-JOURNAL-v1" then
    CanonicalDecoder.fail .STORE_CORRUPT "staging journal domain does not match"
  else decode

end StagingJournal

namespace ObjectStore

/-- `create_directories` of a staging directory. -/
def createStaging (store : ObjectStore) (id : MovementId) : ObjectStore :=
  { store with
    staging := Function.update store.staging id (some ((store.staging id).getD ⟨none, none⟩)) }

/-- Replace the data file of a staging directory. -/
def setStagedData (store : ObjectStore) (id : MovementId) (data : Bytes) : ObjectStore :=
  { store with
    staging := Function.update store.staging id
      (some { (store.staging id).getD ⟨none, none⟩ with data := some data }) }

def stagedData (store : ObjectStore) (id : MovementId) : Bytes :=
  ((store.staging id).bind StagingDirectory.data).getD []

/-- `load_journal`. -/
def loadJournal (store : ObjectStore) (io : StoreIo) (id : MovementId) : Result StagingJournal :=
  match (store.staging id).bind StagingDirectory.journal with
  | none => refuse .NOT_FOUND "no staging journal exists for that movement"
  | some file => do
      io.data
      refuseWhen (file.length == 0 || file.length > kMaxJournalFileBytes) .STORE_OVERSIZED
        "staging journal has an implausible size"
      let journal ← decodeAll (do
        let found ← StagingJournal.decodeFile
        requireEnd
        return found) file {}
      refuseWhen (journal.movementId != id) .STORE_RECORD_INVALID
        "staging journal belongs to a different movement"
      return journal

/-- `save_journal`. -/
def saveJournal (store : ObjectStore) (io : StoreIo) (journal : StagingJournal) :
    ObjectStore × Result Unit :=
  match journal.validate with
  | .error status => (store, .error status)
  | .ok () =>
      if !io.directories then
        (store, refuse .STORE_IO_ERROR "could not create the staging directory")
      else
        match io.replaced with
        | .error status => (store.createStaging journal.movementId, .error status)
        | .ok () =>
            ({ store with
                staging := Function.update store.staging journal.movementId
                  (some { (store.staging journal.movementId).getD ⟨none, none⟩ with
                    journal := some journal.file }) }, .ok ())

end ObjectStore

/-! ## The writer -/

/-- `StagingWriter`.  The file that it holds open is the data file of the movement's
staging directory. -/
structure StagingWriter where
  journal : StagingJournal
  running : Sha256 := .initial
  journaling : Bool
  isOpen : Bool := true
  completed : Bool := false
  finalized : Bool := false

/-- What `append` returns of `ResumeState`. -/
structure ResumeState where
  descriptor : StateObjectDescriptor
  verifiedChunks : UInt32
  verifiedBytes : UInt64
  deriving DecidableEq

namespace StagingWriter

/-- The digest of a chunk in its place. -/
def chunkDigestOf (object : StateObjectDescriptor) (index : UInt32) (offset length : UInt64)
    (payload : Bytes) : Digest :=
  computeChunkDigest object.objectId object.generation index offset length payload

/-- The journal that `begin` continues from: it can be read, fits the object and has at
least one chunk. -/
def resumePoint (store : ObjectStore) (io : StoreIo) (id : MovementId)
    (object : StateObjectDescriptor) : Option StagingJournal :=
  match store.loadJournal io id with
  | .error _ => none
  | .ok stored =>
      if succeeded (checkResumeCompatible object stored.object) && stored.verifiedChunks > 0 then
        some stored
      else none

/-- The loop of `begin` that reads the verified prefix back: the next `left` chunks, held
against their digests and fed to the hash. -/
def rehash (object : StateObjectDescriptor) (data : Bytes) (digests : List Digest) :
    Nat -> UInt32 -> UInt64 -> Sha256 -> Result Sha256
  | 0, _, _, running => .ok running
  | left + 1, index, offset, running => do
      let length ← object.chunkLength index
      let buffer := (data.drop offset.toNat).take length.toNat
      refuseWhen (buffer.length != length.toNat) .RESUME_INCOMPATIBLE
        "the staged file ended inside the verified prefix"
      refuseWhen (chunkDigestOf object index offset length buffer !=
          digests.getD index.toNat .zero) .RESUME_INCOMPATIBLE
        "the staged bytes do not match the journalled chunk digest"
      rehash object data digests left (index + 1) (offset + length) (running.update buffer)

/-- `begin` on a journal.  A data file that is missing is created empty. -/
def resume (store : ObjectStore) (io : StoreIo) (id : MovementId)
    (generation : MovementGeneration) (attempt : TransferAttemptId)
    (object : StateObjectDescriptor) (journaling : Bool) (stored : StagingJournal) :
    ObjectStore × Result StagingWriter :=
  match io.data with
  | .error status => (store, .error status)
  | .ok () =>
      let data := store.stagedData id
      let opened := store.setStagedData id data
      let journal := { stored with movementGeneration := generation, attempt := attempt }
      (opened, do
        refuseWhen (data.length < journal.verifiedBytes.toNat) .RESUME_INCOMPATIBLE
          "the staged file is shorter than the journal claims"
        let running ← rehash object data journal.chunkDigests journal.verifiedChunks.toNat 0 0
          .initial
        return { journal := journal, running := running, journaling := journaling })

/-- `begin` from scratch. -/
def startClean (store : ObjectStore) (io : StoreIo) (id : MovementId)
    (generation : MovementGeneration) (attempt : TransferAttemptId)
    (object : StateObjectDescriptor) (journaling : Bool) : ObjectStore × Result StagingWriter :=
  match store.discardStaging io id with
  | (left, .error status) => (left, .error status)
  | (cleared, .ok ()) =>
      match io.data with
      | .error status => (cleared.createStaging id, .error status)
      | .ok () =>
          let opened := cleared.setStagedData id []
          let journal : StagingJournal :=
            { movementId := id
              movementGeneration := generation
              attempt := attempt
              object := object }
          let writer : StagingWriter := { journal := journal, journaling := journaling }
          if journaling then
            match opened.saveJournal io journal with
            | (left, .error status) => (left, .error status)
            | (saved, .ok ()) => (saved, .ok writer)
          else (opened, .ok writer)

/-- `StagingWriter::begin`. -/
def begin (store : ObjectStore) (io : StoreIo) (id : MovementId)
    (generation : MovementGeneration) (attempt : TransferAttemptId)
    (object : StateObjectDescriptor) : ObjectStore × Result StagingWriter :=
  match object.validate with
  | .error status => (store, .error status)
  | .ok () =>
      let journaling := store.allowResume && object.chunkCount.toNat ≤ kMaxResumeJournalChunks
      if !io.directories then
        (store, refuse .STORE_IO_ERROR "could not create the staging directory")
      else
        let created := store.createStaging id
        match if journaling then resumePoint created io id object else none with
        | some stored => resume created io id generation attempt object journaling stored
        | none => startClean created io id generation attempt object journaling

/-- The checks of `append` on the chunk itself: its planned length. -/
def checkChunk (writer : StagingWriter) (index : UInt32) (offset : UInt64) (payload : Bytes)
    (chunkDigest : Digest) : Result UInt64 := do
  let object := writer.journal.object
  refuseWhen (!writer.isOpen) .INTERNAL_ERROR "staging writer is not open"
  refuseWhen writer.finalized .ALREADY_TERMINAL "staging writer already finished"
  refuseWhen (index ≥ object.chunkCount) .CHUNK_INDEX_OUT_OF_RANGE
    "chunk index is outside the object"
  let expectedOffset ← object.chunkOffset index
  refuseWhen (offset != expectedOffset) .CHUNK_OUT_OF_ORDER
    "chunk offset does not match the planned segmentation"
  let expectedLength ← object.chunkLength index
  refuseWhen (payload.length != expectedLength.toNat) .BYTE_COUNT_MISMATCH
    "chunk payload length does not match the planned chunk length"
  refuseWhen (chunkDigestOf object index offset expectedLength payload != chunkDigest)
    .CHUNK_DIGEST_MISMATCH "the received chunk does not hash to the digest it carries"
  return expectedLength

/-- A chunk that is already there is accepted only if it is the same chunk. -/
def checkDuplicate (writer : StagingWriter) (store : ObjectStore) (io : StoreIo) (index : UInt32)
    (offset length : UInt64) (chunkDigest : Digest) : Result Unit := do
  let object := writer.journal.object
  refuseWhen (writer.journaling &&
      writer.journal.chunkDigests.getD index.toNat .zero != chunkDigest) .CHUNK_CONFLICT
    "a replayed chunk does not match the digest already recorded for its index"
  io.data
  let buffer := ((store.stagedData writer.journal.movementId).drop offset.toNat).take length.toNat
  refuseWhen (buffer.length != length.toNat) .CHUNK_CONFLICT
    "stored bytes ended inside the replayed chunk"
  refuseWhen (chunkDigestOf object index offset length buffer != chunkDigest) .CHUNK_CONFLICT
    "a replayed chunk does not match the bytes already stored for its index"

/-- The writer once a chunk is written behind the others. -/
def advance (writer : StagingWriter) (payload : Bytes) (length : UInt64) (chunkDigest : Digest) :
    StagingWriter :=
  { writer with
    running := writer.running.update payload
    journal := { writer.journal with
      verifiedChunks := writer.journal.verifiedChunks + 1
      verifiedBytes := writer.journal.verifiedBytes + length
      chunkDigests :=
        if writer.journaling then writer.journal.chunkDigests ++ [chunkDigest]
        else writer.journal.chunkDigests } }

def resumeState (writer : StagingWriter) : ResumeState :=
  ⟨writer.journal.object, writer.journal.verifiedChunks, writer.journal.verifiedBytes⟩

/-- A write at an offset of a file; a gap in front of it is filled with zeros. -/
def writeAt (file : Bytes) (offset : Nat) (bytes : Bytes) : Bytes :=
  (file ++ List.replicate (offset - file.length) 0).take offset ++ bytes ++
    file.drop (offset + bytes.length)

/-- The store after `bytes` were written at `offset` of the staged file. -/
def writeStaged (writer : StagingWriter) (store : ObjectStore) (offset : UInt64) (bytes : Bytes) :
    ObjectStore :=
  store.setStagedData writer.journal.movementId
    (writeAt (store.stagedData writer.journal.movementId) offset.toNat bytes)

/-- The end of `append`: the next chunk is written, hashed and journalled.  The journal is
saved last, so a journal that cannot be saved leaves a writer that has moved on. -/
def writeNext (writer : StagingWriter) (store : ObjectStore) (io : StoreIo) (offset : UInt64)
    (payload : Bytes) (length : UInt64) (chunkDigest : Digest) :
    StagingWriter × ObjectStore × Result ResumeState :=
  match io.data with
  | .error status => (writer, store, .error status)
  | .ok () =>
      let written := writer.writeStaged store offset payload
      let next := writer.advance payload length chunkDigest
      if writer.journaling then
        match written.saveJournal io next.journal with
        | (left, .error status) => (next, left, .error status)
        | (saved, .ok ()) => (next, saved, .ok next.resumeState)
      else (next, written, .ok next.resumeState)

/-- `StagingWriter::append`. -/
def append (writer : StagingWriter) (store : ObjectStore) (io : StoreIo) (index : UInt32)
    (offset : UInt64) (payload : Bytes) (chunkDigest : Digest) :
    StagingWriter × ObjectStore × Result ResumeState :=
  match writer.checkChunk index offset payload chunkDigest with
  | .error status => (writer, store, .error status)
  | .ok length =>
      if index < writer.journal.verifiedChunks then
        (writer, store,
          (writer.checkDuplicate store io index offset length chunkDigest).map
            fun _ => writer.resumeState)
      else if index ≠ writer.journal.verifiedChunks then
        (writer, store,
          refuse .CHUNK_OUT_OF_ORDER "chunks must arrive in order; this one skips ahead")
      else writer.writeNext store io offset payload length chunkDigest

/-- `StagingWriter::finish`.  The hash is taken before the file is flushed. -/
def finish (writer : StagingWriter) (io : StoreIo) : StagingWriter × Result Digest :=
  if !writer.isOpen then (writer, refuse .INTERNAL_ERROR "staging writer is not open")
  else if writer.journal.verifiedChunks ≠ writer.journal.object.chunkCount ∨
      writer.journal.verifiedBytes ≠ writer.journal.object.totalBytes then
    (writer, refuse .TRANSFER_INCOMPLETE "the staged bytes do not cover the whole object")
  else
    match io.synced with
    | .error status => ({ writer with running := .initial }, .error status)
    | .ok () =>
        ({ writer with running := .initial, isOpen := false, completed := true },
          .ok writer.running.finalize)

/-- `StagingWriter::promote`. -/
def promote (writer : StagingWriter) (store : ObjectStore) (io : StoreIo) :
    StagingWriter × ObjectStore × Result Unit :=
  if !writer.completed then
    (writer, store, refuse .TRANSFER_INCOMPLETE
      "the staged transfer is not complete, so there is nothing to promote")
  else
    match store.promoteStaging io writer.journal.movementId writer.journal.object with
    | (left, .error status) => (writer, left, .error status)
    | (placed, .ok ()) => ({ writer with finalized := true }, placed, .ok ())

/-- `StagingWriter::abort`. -/
def abort (writer : StagingWriter) : StagingWriter := { writer with isOpen := false }

end StagingWriter

/-! ## Reading a journal back -/

variable {journal : StagingJournal}

namespace StagingJournal

open StateObjectDescriptor

variable {object : StateObjectDescriptor}

/-- The byte account of the first chunks is the planned one. -/
theorem addLengths_eq (sized : object.Sized) (left : Nat) {index : UInt32}
    (inside : index.toNat + left ≤ object.chunkCount.toNat) :
    addLengths object left index (.ofNat (object.plannedBytes index.toNat)) =
      .ok (.ofNat (object.plannedBytes (index.toNat + left))) := by
  induction left generalizing index with
  | zero => rfl
  | succ left ih =>
      have below : index < object.chunkCount := by
        rw [UInt32.lt_iff_toNat_lt]
        omega
      have bound := object.chunkCount.toNat_lt
      have next : (index + 1).toNat = index.toNat + 1 := toNat_succ_of_lt (by omega)
      have total := sized.total
      have planned : object.plannedBytes (index.toNat + 1) ≤ _ := plannedBytes_le_total _
      have sum : object.plannedBytes index.toNat + _ = _ := plannedBytes_add_plannedLength _
      have added : checkedAdd (.ofNat (object.plannedBytes index.toNat))
          (.ofNat (object.plannedLength index.toNat)) =
          some (.ofNat (object.plannedBytes (index + 1).toNat)) := by
        rw [checkedAdd, toNat_plannedBytes sized, toNat_plannedLength sized,
          if_neg (by omega), ← UInt64.ofNat_add, sum, next]
      rw [addLengths, chunkLength_eq sized below, ok_bind, added]
      change addLengths object left (index + 1) _ = _
      rw [ih (by omega), next, Nat.add_right_comm, Nat.add_assoc]

theorem addLengths_zero (sized : object.Sized) {chunks : Nat}
    (few : chunks ≤ object.chunkCount.toNat) :
    addLengths object chunks 0 0 = .ok (.ofNat (object.plannedBytes chunks)) := by
  have counted := addLengths_eq sized chunks
    (show (0 : UInt32).toNat + chunks ≤ object.chunkCount.toNat by
      change 0 + chunks ≤ _
      omega)
  change addLengths object chunks 0 (.ofNat (object.plannedBytes 0)) =
    .ok (.ofNat (object.plannedBytes (0 + chunks))) at counted
  rw [plannedBytes_zero, Nat.zero_add] at counted
  exact counted

/-- What a valid journal says. -/
theorem validate_eq_ok :
    journal.validate = .ok () ↔
      journal.movementId.isZero = false ∧ journal.movementGeneration.isSet = true ∧
        journal.object.validate = .ok () ∧
        journal.verifiedChunks.toNat ≤ journal.object.chunkCount.toNat ∧
        journal.chunkDigests.length = journal.verifiedChunks.toNat ∧
        journal.verifiedBytes = .ofNat (journal.object.plannedBytes journal.verifiedChunks.toNat) := by
  rw [validate, refuseWhen_bind_eq_ok, refuseWhen_bind_eq_ok, check_bind_eq_ok,
    refuseWhen_bind_eq_ok, refuseWhen_bind_eq_ok, Bool.not_eq_false', decide_eq_false_iff_not,
    bne_eq_false_iff_eq, gt_iff_lt, UInt32.lt_iff_toNat_lt, Nat.not_lt]
  constructor
  · rintro ⟨named, numbered, object, few, counted, bytes⟩
    rw [addLengths_zero (sized_of_validate object) few, ok_bind, refuseWhen_eq_ok,
      bne_eq_false_iff_eq] at bytes
    exact ⟨named, numbered, object, few, counted, bytes.symm⟩
  · rintro ⟨named, numbered, object, few, counted, bytes⟩
    refine ⟨named, numbered, object, few, counted, ?_⟩
    rw [addLengths_zero (sized_of_validate object) few, ok_bind, refuseWhen_eq_ok,
      bne_eq_false_iff_eq, bytes]

theorem reads_decode {limits : DecodeLimits} (texts : 4096 ≤ limits.maxTextBytes)
    (blobs : 4096 ≤ limits.maxBlobBytes) (valid : journal.validate = .ok ())
    (short : journal.chunkDigests.length ≤ kMaxResumeJournalChunks) :
    Reads limits decode journal.encode journal := by
  have object : journal.object.validate = .ok () := (validate_eq_ok.mp valid).2.2.1
  have digests : Codes limits Any digest digest Any := .digest
  have repeated := (digests.repeated journal.chunkDigests.length).reads journal.chunkDigests rfl
    fun _ _ => trivial
  have count : Reads limits (CanonicalDecoder.count kMaxResumeJournalChunks)
      (u32 (UInt32.ofNat journal.chunkDigests.length))
      journal.chunkDigests.length := (Codes.count (by decide)).reads _ trivial short
  rw [encode, decode]
  simp only [List.flatten_cons, List.flatten_nil]
  exact .bind (journal.movementId.reads_decode (by omega) (by omega)) (.bind (.u64 _)
    (.bind (journal.attempt.reads_decode (by omega) (by omega))
    (.bind (StateObjectDescriptor.reads_decode texts blobs object) (.bind (.u32 _) (.bind (.u64 _)
    (.bind count (.bind repeated (.checked valid (.pure journal)))))))))

theorem length_file_le (valid : journal.validate = .ok ())
    (short : journal.chunkDigests.length ≤ kMaxResumeJournalChunks) :
    journal.file.length ≤ kMaxJournalFileBytes := by
  have object : journal.object.validate = .ok () := (validate_eq_ok.mp valid).2.2.1
  rcases texts_of_validate object with ⟨⟨-, name⟩, -, producer⟩
  have domain : (ascii "SMF-STAGING-JOURNAL-v1").length = 22 := by decide +kernel
  have digests : (journal.chunkDigests.flatMap digest).length =
      32 * journal.chunkDigests.length := by
    induction journal.chunkDigests with
    | nil => rfl
    | cons first rest ih =>
        rw [List.flatMap_cons, List.length_append, ih, List.length_cons,
          length_digest]
        omega
  simp only [kMaxResumeJournalChunks] at short
  simp only [file, encode, List.flatten_cons, List.flatten_nil, List.length_append,
    List.length_nil, length_text, length_u64,
    length_u32, FixedId.length_encode, StateObjectDescriptor.length_encode,
    domain, digests, kMaxJournalFileBytes]
  omega

end StagingJournal

namespace ObjectStore

/-- A journal that was saved is loaded as it is. -/
theorem loadJournal_of_file {store : ObjectStore} {io : StoreIo}
    (found : (store.staging journal.movementId).bind StagingDirectory.journal = some journal.file)
    (readable : io.data = .ok ()) (valid : journal.validate = .ok ())
    (short : journal.chunkDigests.length ≤ kMaxResumeJournalChunks) :
    store.loadJournal io journal.movementId = .ok journal := by
  have bounded := StagingJournal.length_file_le valid short
  have nonempty : journal.file.length ≠ 0 := by
    rw [StagingJournal.file, List.length_append, length_text]
    omega
  have domain : Reads {} (text kMaxTextBytes)
      (text (ascii "SMF-STAGING-JOURNAL-v1")) (ascii "SMF-STAGING-JOURNAL-v1") :=
    .text (by decide +kernel) (by decide +kernel) (by decide +kernel)
  have reads : Reads {} StagingJournal.decodeFile journal.file journal := by
    rw [StagingJournal.file, StagingJournal.decodeFile]
    refine .bind domain ?_
    simp only [ne_eq, not_true_eq_false, if_false]
    exact StagingJournal.reads_decode (by decide) (by decide) valid short
  have decoded : decodeAll (do
      let found ← StagingJournal.decodeFile
      requireEnd
      return found) journal.file {} = .ok journal :=
    decodeAll_of_reads reads (Nat.le_trans bounded (by decide)) id
  have fits : (journal.file.length == 0 || decide (journal.file.length > kMaxJournalFileBytes)) =
      false := by
    rw [Bool.or_eq_false_iff, beq_eq_false_iff_ne, decide_eq_false_iff_not]
    exact ⟨nonempty, Nat.not_lt.mpr bounded⟩
  rw [loadJournal, found]
  simp only [readable, ok_bind, fits, refuseWhen_false, decoded, bne_self_eq_false]
  rfl

end ObjectStore

end StateMovementFabric
