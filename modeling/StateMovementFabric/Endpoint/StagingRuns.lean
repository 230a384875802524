import StateMovementFabric.Endpoint.Staging
import StateMovementFabric.Foundation.Runs

namespace StateMovementFabric

open Foundation StateObjectDescriptor

/-!
# Attempts of one movement

A movement is received in attempts.  Each opens a writer, appends what arrives in
whatever order, and ends with `finish`, with `abort` or with a crash.  A crash leaves a
prefix of the chunk that was being written, and the journal from before or after that
chunk; it may also leave the journal ahead of the bytes.  Whatever happened before, a
digest that `finish` returns is the digest of a file that consists of accepted chunks.
-/

/-- A chunk that passed the checks of `append`, as it was given to it. -/
structure AcceptedChunk where
  index : UInt32
  offset : UInt64
  payload : Bytes
  deriving DecidableEq

/-- The endpoint's store, the one writer of the movement, and the chunks that were
accepted so far. -/
structure StagingSite where
  store : ObjectStore
  writer : Option StagingWriter := none
  accepted : List AcceptedChunk := []

inductive StagingAction where
  | begin (generation : MovementGeneration) (attempt : TransferAttemptId)
  | append (index : UInt32) (offset : UInt64) (payload : Bytes) (chunkDigest : Digest)
  | crash (index : UInt32) (offset : UInt64) (payload : Bytes) (chunkDigest : Digest)
      (written : Nat) (journalled : Bool)
  | finish
  | abort

/-- What a crash in the middle of `append` leaves: `written` bytes of a new chunk, and
with `journalled` the journal that counts it. -/
def StagingWriter.interrupted (writer : StagingWriter) (store : ObjectStore) (index : UInt32)
    (offset : UInt64) (payload : Bytes) (chunkDigest : Digest) (written : Nat)
    (journalled : Bool) : ObjectStore × List AcceptedChunk :=
  match writer.checkChunk index offset payload chunkDigest with
  | .error _ => (store, [])
  | .ok length =>
      if index ≠ writer.journal.verifiedChunks then (store, [])
      else
        let partly := writer.writeStaged store offset (payload.take written)
        let left :=
          if writer.journaling && journalled then
            (partly.saveJournal {} (writer.advance payload length chunkDigest).journal).1
          else partly
        (left, [⟨index, offset, payload⟩])

namespace StagingSite

/-- One action on the staging directory of `id`, which receives `object`. -/
def step (id : MovementId) (object : StateObjectDescriptor) (site : StagingSite) :
    StagingAction -> StagingSite
  | .begin generation attempt =>
      match StagingWriter.begin site.store {} id generation attempt object with
      | (store, .ok writer) => { site with store := store, writer := some writer }
      | (store, .error _) => { site with store := store, writer := none }
  | .append index offset payload chunkDigest =>
      match site.writer with
      | none => site
      | some writer =>
          match writer.append site.store {} index offset payload chunkDigest with
          | (next, store, .ok _) =>
              { store := store
                writer := some next
                accepted := site.accepted ++ [⟨index, offset, payload⟩] }
          | (next, store, .error _) => { site with store := store, writer := some next }
  | .crash index offset payload chunkDigest written journalled =>
      match site.writer with
      | none => site
      | some writer =>
          let left := writer.interrupted site.store index offset payload chunkDigest written
            journalled
          { store := left.1, writer := none, accepted := site.accepted ++ left.2 }
  | .finish => { site with writer := site.writer.map fun writer => (writer.finish {}).1 }
  | .abort => { site with writer := site.writer.map StagingWriter.abort }

/-- A transfer is begun for a movement that has a generation, as a valid grant has. -/
def numbered (_ : StagingSite) : StagingAction -> Bool
  | .begin generation _ => generation.isSet
  | _ => true

/-- The bytes in the place of a chunk. -/
def slice (object : StateObjectDescriptor) (data : Bytes) (place : Nat) : Bytes :=
  (data.drop (object.plannedBytes place)).take (object.plannedLength place)

/-- The digest of a chunk in its planned place. -/
def plannedDigest (object : StateObjectDescriptor) (place : Nat) (payload : Bytes) : Digest :=
  StagingWriter.chunkDigestOf object (.ofNat place) (.ofNat (object.plannedBytes place))
    (.ofNat (object.plannedLength place)) payload

/-- No collision: when staged bytes are read back, bytes with the digest of an accepted
chunk are that chunk. -/
def collisionFree (id : MovementId) (object : StateObjectDescriptor) (site : StagingSite) :
    StagingAction -> Bool
  | .begin _ _ =>
      site.accepted.all fun chunk =>
        let found := slice object (site.store.stagedData id) chunk.index.toNat
        plannedDigest object chunk.index.toNat found !=
            plannedDigest object chunk.index.toNat chunk.payload ||
          found == chunk.payload
  | _ => true

/-! ## What a file consists of -/

/-- The first chunks of the object, each of its planned length and accepted for its
planned place. -/
structure Chunked (object : StateObjectDescriptor) (accepted : List AcceptedChunk)
    (payloads : List Bytes) : Prop where
  few : payloads.length ≤ object.chunkCount.toNat
  each : forall place payload, payloads[place]? = some payload ->
    payload.length = object.plannedLength place ∧
      exists chunk, chunk ∈ accepted ∧ chunk.index.toNat = place ∧
        chunk.offset.toNat = object.plannedBytes place ∧ chunk.payload = payload

/-- The staged file of `id` is the whole object, made of accepted chunks in order, and
`digest` is its digest. -/
def Intact (id : MovementId) (object : StateObjectDescriptor) (site : StagingSite)
    (digest : Digest) : Prop :=
  exists data payloads, (site.store.staging id).bind StagingDirectory.data = some data ∧
    data.length = object.totalBytes.toNat ∧ data = payloads.flatten ∧
    payloads.length = object.chunkCount.toNat ∧ Chunked object site.accepted payloads ∧
    digest = sha256 data

section Chunks

variable {object : StateObjectDescriptor} {accepted more : List AcceptedChunk}
  {payloads : List Bytes}

theorem chunked_nil : Chunked object accepted [] := by
  refine ⟨Nat.zero_le _, ?_⟩
  intro place payload found
  cases found

theorem Chunked.mono (chunked : Chunked object accepted payloads) :
    Chunked object (accepted ++ more) payloads := by
  refine ⟨chunked.few, ?_⟩
  intro place payload found
  rcases chunked.each place payload found with ⟨length, chunk, member, facts⟩
  exact ⟨length, chunk, List.mem_append_left more member, facts⟩

/-- The bytes of the first chunks. -/
theorem Chunked.length_take (chunked : Chunked object accepted payloads) {count : Nat}
    (inside : count ≤ payloads.length) :
    (payloads.take count).flatten.length = object.plannedBytes count := by
  induction count with
  | zero => rw [List.take_zero, plannedBytes_zero]; rfl
  | succ count ih =>
      have here : payloads[count]? = some payloads[count] := List.getElem?_eq_getElem inside
      rw [List.take_succ_eq_append_getElem inside, List.flatten_append, List.length_append,
        ih (Nat.le_of_succ_le inside), List.flatten_singleton, (chunked.each _ _ here).1,
        plannedBytes_add_plannedLength]

theorem Chunked.length_flatten (chunked : Chunked object accepted payloads) :
    payloads.flatten.length = object.plannedBytes payloads.length := by
  have whole := chunked.length_take (Nat.le_refl _)
  rwa [List.take_length] at whole

theorem Chunked.concat (chunked : Chunked object accepted payloads) {chunk : AcceptedChunk}
    (room : payloads.length < object.chunkCount.toNat) (index : chunk.index.toNat = payloads.length)
    (offset : chunk.offset.toNat = object.plannedBytes payloads.length)
    (length : chunk.payload.length = object.plannedLength payloads.length) :
    Chunked object (accepted ++ [chunk]) (payloads ++ [chunk.payload]) := by
  refine ⟨?_, ?_⟩
  · rw [List.length_append, List.length_singleton]
    exact room
  · intro place payload found
    by_cases earlier : place < payloads.length
    · rw [List.getElem?_append_left earlier] at found
      exact chunked.mono.each place payload found
    · rw [List.getElem?_append_right (Nat.not_lt.mp earlier), List.getElem?_singleton] at found
      split at found
      · rename_i last
        cases found
        have here : place = payloads.length := by omega
        subst here
        exact ⟨length, chunk, List.mem_append_right accepted List.mem_cons_self, index, offset, rfl⟩
      · cases found

end Chunks

/-! ## What a journal describes -/

/-- The digests of the chunks in their places. -/
def digestsOf (object : StateObjectDescriptor) (payloads : List Bytes) : List Digest :=
  payloads.mapIdx (plannedDigest object)

/-- The journal counts the chunks. -/
structure Counts (id : MovementId) (object : StateObjectDescriptor) (payloads : List Bytes)
    (journal : StagingJournal) : Prop where
  movementId : journal.movementId = id
  chunks : journal.verifiedChunks.toNat = payloads.length
  bytes : journal.verifiedBytes = .ofNat (object.plannedBytes payloads.length)
  object : journal.object = object

/-- The journal is one that was saved for the chunks. -/
structure Describes (id : MovementId) (object : StateObjectDescriptor) (payloads : List Bytes)
    (journal : StagingJournal) : Prop where
  counts : Counts id object payloads journal
  valid : journal.validate = .ok ()
  digests : journal.chunkDigests = digestsOf object payloads
  short : payloads.length ≤ kMaxResumeJournalChunks

variable {store : ObjectStore}

section Journals

variable {id : MovementId} {object : StateObjectDescriptor} {payloads : List Bytes}
  {journal : StagingJournal} {accepted : List AcceptedChunk} {data : Bytes}

theorem length_digestsOf : (digestsOf object payloads).length = payloads.length := List.length_mapIdx

theorem digestsOf_concat (payload : Bytes) :
    digestsOf object (payloads ++ [payload]) =
      digestsOf object payloads ++ [plannedDigest object payloads.length payload] :=
  List.mapIdx_concat

/-- A journal that counts the chunks and has their digests can be saved. -/
theorem Counts.describes (counts : Counts id object payloads journal)
    (named : journal.movementId.isZero = false) (numbered : journal.movementGeneration.isSet = true)
    (valid : object.validate = .ok ()) (few : payloads.length ≤ object.chunkCount.toNat)
    (digests : journal.chunkDigests = digestsOf object payloads)
    (short : object.chunkCount.toNat ≤ kMaxResumeJournalChunks) :
    Describes id object payloads journal := by
  refine ⟨counts, ?_, digests, Nat.le_trans few short⟩
  rw [StagingJournal.validate_eq_ok, counts.object, counts.chunks, counts.bytes, digests,
    length_digestsOf]
  exact ⟨named, numbered, valid, few, rfl, rfl⟩

theorem Describes.load (describes : Describes id object payloads journal)
    (found : (store.staging id).bind StagingDirectory.journal = some journal.file) :
    store.loadJournal {} id = .ok journal := by
  have movementId := describes.counts.movementId
  subst movementId
  refine ObjectStore.loadJournal_of_file found rfl describes.valid ?_
  rw [describes.digests, length_digestsOf]
  exact describes.short

/-- Reading a described prefix back succeeds only on the chunks themselves, if no other
bytes have their digests. -/
theorem rehash_of_chunked (sized : object.Sized) (chunked : Chunked object accepted payloads)
    (distinct : forall place payload, payloads[place]? = some payload ->
      plannedDigest object place (slice object data place) = plannedDigest object place payload ->
      slice object data place = payload)
    {left : Nat} {index : UInt32} {result : Sha256}
    (place : index.toNat + left = payloads.length)
    (front : data.take (object.plannedBytes index.toNat) = (payloads.take index.toNat).flatten)
    (ran : StagingWriter.rehash object data (digestsOf object payloads) left index
      (.ofNat (object.plannedBytes index.toNat))
      (Sha256.absorbed (payloads.take index.toNat).flatten) = .ok result) :
    result = Sha256.absorbed payloads.flatten ∧
      data.take (object.plannedBytes payloads.length) = payloads.flatten := by
  induction left generalizing index with
  | zero =>
      cases ran
      have whole : index.toNat = payloads.length := place
      rw [whole, List.take_length] at front ⊢
      exact ⟨rfl, front⟩
  | succ left ih =>
      have inside : index.toNat < payloads.length := by omega
      have few := chunked.few
      have bound := object.chunkCount.toNat_lt
      have below : index < object.chunkCount := by
        rw [UInt32.lt_iff_toNat_lt]
        omega
      have next : (index + 1).toNat = index.toNat + 1 := by
        rw [UInt32.toNat_add]
        exact Nat.mod_eq_of_lt (by change index.toNat + 1 < _; omega)
      have here : payloads[index.toNat]? = some payloads[index.toNat] :=
        List.getElem?_eq_getElem inside
      rw [StagingWriter.rehash, chunkLength_eq sized below, ok_bind] at ran
      dsimp only at ran
      rw [toNat_plannedBytes sized, toNat_plannedLength sized] at ran
      change (refuseWhen ((slice object data index.toNat).length != _) _ _ >>= fun _ =>
        refuseWhen _ _ _ >>= fun _ => StagingWriter.rehash object data _ left (index + 1) _
          (Sha256.update _ (slice object data index.toNat))) = _ at ran
      rw [refuseWhen_bind_eq_ok, refuseWhen_bind_eq_ok, bne_eq_false_iff_eq,
        bne_eq_false_iff_eq] at ran
      rcases ran with ⟨-, digest, ran⟩
      -- The digest of the journal is the one of the accepted chunk.
      have same : slice object data index.toNat = payloads[index.toNat] := by
        apply distinct _ _ here
        rw [List.getD_eq_getElem?_getD, digestsOf, List.getElem?_mapIdx, here,
          Option.map_some, Option.getD_some] at digest
        rw [← digest, plannedDigest, UInt32.ofNat_toNat]
        rfl
      have grown : (payloads.take index.toNat).flatten ++ payloads[index.toNat] =
          (payloads.take (index + 1).toNat).flatten := by
        rw [next, List.take_succ_eq_append_getElem inside, List.flatten_append,
          List.flatten_singleton]
      have sum : UInt64.ofNat (object.plannedBytes index.toNat) +
          UInt64.ofNat (object.plannedLength index.toNat) =
          UInt64.ofNat (object.plannedBytes (index + 1).toNat) := by
        rw [← UInt64.ofNat_add, plannedBytes_add_plannedLength, next]
      rw [Sha256.update_absorbed, same, grown, sum] at ran
      apply ih (by omega) _ ran
      rw [← grown, ← front, ← same, slice, next, ← plannedBytes_add_plannedLength,
        List.take_add]

end Journals

/-! ## Between attempts and within one -/

/-- What is left for a later attempt: a journal that describes accepted chunks, and at
most one more chunk in the data file. -/
def Resumable (id : MovementId) (object : StateObjectDescriptor) (accepted : List AcceptedChunk)
    (directory : StagingDirectory) : Prop :=
  forall file, directory.journal = some file -> exists journal payloads,
    file = journal.file ∧ Describes id object payloads journal ∧
      Chunked object accepted payloads ∧
      (directory.data.getD []).length ≤ object.plannedBytes (payloads.length + 1)

/-- An open writer behind `payloads`: the data file starts with them, the hash has seen
them, and the journal, if there is one, describes them. -/
structure Writing (id : MovementId) (object : StateObjectDescriptor)
    (accepted : List AcceptedChunk) (directory : StagingDirectory) (writer : StagingWriter)
    (payloads : List Bytes) (data : Bytes) : Prop where
  chunked : Chunked object accepted payloads
  counts : Counts id object payloads writer.journal
  file : directory.data = some data
  front : data.take (object.plannedBytes payloads.length) = payloads.flatten
  room : data.length ≤ object.plannedBytes (payloads.length + 1)
  running : writer.running = Sha256.absorbed payloads.flatten
  journalled : writer.journaling = true ->
    object.chunkCount.toNat ≤ kMaxResumeJournalChunks ∧
      Describes id object payloads writer.journal ∧
      exists journal, directory.journal = some journal.file ∧ Describes id object payloads journal
  unjournalled : writer.journaling = false -> directory.journal = none

/-- What every step keeps. -/
structure Kept (id : MovementId) (object : StateObjectDescriptor) (site : StagingSite) :
    Prop where
  resumable : forall directory, site.store.staging id = some directory ->
    Resumable id object site.accepted directory
  writing : forall writer, site.writer = some writer -> writer.isOpen = true ->
    exists directory payloads data, site.store.staging id = some directory ∧
      Writing id object site.accepted directory writer payloads data

section Invariant

variable {id : MovementId} {object : StateObjectDescriptor} {accepted more : List AcceptedChunk}
  {directory : StagingDirectory} {writer : StagingWriter} {payloads : List Bytes} {data : Bytes}

theorem Resumable.mono (resumable : Resumable id object accepted directory) :
    Resumable id object (accepted ++ more) directory := by
  intro file found
  rcases resumable file found with ⟨journal, payloads, same, describes, chunked, room⟩
  exact ⟨journal, payloads, same, describes, chunked.mono, room⟩

theorem resumable_of_none (absent : directory.journal = none) :
    Resumable id object accepted directory := by
  intro file found
  rw [absent] at found
  cases found

theorem Writing.mono (writing : Writing id object accepted directory writer payloads data) :
    Writing id object (accepted ++ more) directory writer payloads data :=
  { writing with chunked := writing.chunked.mono }

/-- A later attempt can continue from the journal of a writer, whatever is behind the
chunks in the data file. -/
theorem Writing.leaves (writing : Writing id object accepted directory writer payloads data)
    {left : StagingDirectory} (journal : left.journal = directory.journal)
    (room : (left.data.getD []).length ≤ object.plannedBytes (payloads.length + 1)) :
    Resumable id object accepted left := by
  cases journaling : writer.journaling with
  | false => exact resumable_of_none (journal.trans (writing.unjournalled journaling))
  | true =>
      rcases writing.journalled journaling with ⟨-, -, saved, found, describes⟩
      intro file same
      rw [journal, found, Option.some.injEq] at same
      exact ⟨saved, payloads, same.symm, describes, writing.chunked, room⟩

theorem Writing.resumable (writing : Writing id object accepted directory writer payloads data) :
    Resumable id object accepted directory := by
  apply writing.leaves rfl
  rw [writing.file]
  exact writing.room

/-- The data file reaches at least to the end of the chunks. -/
theorem Writing.reaches (writing : Writing id object accepted directory writer payloads data) :
    object.plannedBytes payloads.length ≤ data.length := by
  have front := congrArg List.length writing.front
  rw [List.length_take, writing.chunked.length_flatten] at front
  omega

/-- A writer that covers the whole object has the whole object in its file. -/
theorem Writing.intact (writing : Writing id object accepted directory writer payloads data)
    (sized : object.Sized) (whole : payloads.length = object.chunkCount.toNat) :
    data = payloads.flatten ∧ data.length = object.totalBytes.toNat := by
  have reaches := writing.reaches
  have room := writing.room
  have bound : object.plannedBytes (payloads.length + 1) ≤ _ := plannedBytes_le_total _
  have front := writing.front
  rw [whole, sized.plannedBytes_count] at reaches front
  have length : data.length = object.totalBytes.toNat := by omega
  rw [List.take_of_length_le (Nat.le_of_eq length)] at front
  exact ⟨front, length⟩

end Invariant

/-! ## Writing a chunk -/

section Chunk

variable {id : MovementId} {object : StateObjectDescriptor} {accepted : List AcceptedChunk}
  {directory : StagingDirectory} {writer : StagingWriter} {payloads : List Bytes} {data : Bytes}
  {index : UInt32} {offset length : UInt64} {payload : Bytes} {chunkDigest : Digest}

variable {bytes file : Bytes}

theorem writeAt_of_le {offset : Nat} (inside : offset ≤ file.length) :
    StagingWriter.writeAt file offset bytes =
      file.take offset ++ bytes ++ file.drop (offset + bytes.length) := by
  rw [StagingWriter.writeAt, Nat.sub_eq_zero_of_le inside, List.replicate_zero, List.append_nil]

theorem length_writeAt_le {offset bound : Nat} (inside : offset ≤ file.length)
    (short : file.length ≤ bound) (fits : offset + bytes.length ≤ bound) :
    (StagingWriter.writeAt file offset bytes).length ≤ bound := by
  rw [writeAt_of_le inside, List.length_append, List.length_append, List.length_take,
    List.length_drop]
  omega

theorem take_writeAt {offset : Nat} (inside : offset ≤ file.length) :
    (StagingWriter.writeAt file offset bytes).take (offset + bytes.length) =
      file.take offset ++ bytes := by
  have length : (file.take offset ++ bytes).length = offset + bytes.length := by
    rw [List.length_append, List.length_take, Nat.min_eq_left inside]
  rw [writeAt_of_le inside, ← length, List.take_left]

/-- What `append` checks of a chunk. -/
structure Fitting (object : StateObjectDescriptor) (index : UInt32) (offset : UInt64)
    (payload : Bytes) (chunkDigest : Digest) (length : UInt64) : Prop where
  inside : index < object.chunkCount
  starts : offset = .ofNat (object.plannedBytes index.toNat)
  plans : length = .ofNat (object.plannedLength index.toNat)
  fills : payload.length = object.plannedLength index.toNat
  digest : chunkDigest = plannedDigest object index.toNat payload

theorem isOpen_of_checkChunk
    (checked : writer.checkChunk index offset payload chunkDigest = .ok length) :
    writer.isOpen = true := by
  rw [StagingWriter.checkChunk] at checked
  simpa using (refuseWhen_bind_eq_ok.mp checked).1

theorem fitting_of_checkChunk (sized : object.Sized) (target : writer.journal.object = object)
    (checked : writer.checkChunk index offset payload chunkDigest = .ok length) :
    Fitting object index offset payload chunkDigest length := by
  subst target
  rw [StagingWriter.checkChunk] at checked
  rcases refuseWhen_bind_eq_ok.mp checked with ⟨-, checked⟩
  rcases refuseWhen_bind_eq_ok.mp checked with ⟨-, checked⟩
  rcases refuseWhen_bind_eq_ok.mp checked with ⟨outside, checked⟩
  have inside : index < writer.journal.object.chunkCount :=
    UInt32.not_le.mp (of_decide_eq_false outside)
  rw [chunkOffset_eq sized inside, ok_bind, refuseWhen_bind_eq_ok, bne_eq_false_iff_eq,
    chunkLength_eq sized inside, ok_bind, refuseWhen_bind_eq_ok, bne_eq_false_iff_eq,
    toNat_plannedLength sized, refuseWhen_bind_eq_ok, bne_eq_false_iff_eq] at checked
  rcases checked with ⟨starts, fills, digest, returned⟩
  cases returned
  refine ⟨inside, starts, rfl, fills, ?_⟩
  rw [plannedDigest, UInt32.ofNat_toNat, ← starts, digest]

/-- The writer and the directory once the next chunk is written and journalled. -/
theorem Writing.advance (sized : object.Sized) (valid : object.validate = .ok ())
    (writing : Writing id object accepted directory writer payloads data)
    (fitting : Fitting object index offset payload chunkDigest length)
    (next : index = writer.journal.verifiedChunks) :
    Counts id object (payloads ++ [payload]) (writer.advance payload length chunkDigest).journal ∧
      Chunked object (accepted ++ [⟨index, offset, payload⟩]) (payloads ++ [payload]) ∧
      (writer.journaling = true -> Describes id object (payloads ++ [payload])
        (writer.advance payload length chunkDigest).journal) := by
  have inside := UInt32.lt_iff_toNat_lt.mp fitting.inside
  have place : index.toNat = payloads.length := by rw [next, writing.counts.chunks]
  have bound := object.chunkCount.toNat_lt
  have counts : Counts id object (payloads ++ [payload])
      (writer.advance payload length chunkDigest).journal := by
    refine ⟨writing.counts.movementId, ?_, ?_, writing.counts.object⟩
    · change (writer.journal.verifiedChunks + 1).toNat = _
      rw [UInt32.toNat_add, writing.counts.chunks, List.length_append, List.length_singleton]
      exact Nat.mod_eq_of_lt (by change payloads.length + 1 < _; omega)
    · change writer.journal.verifiedBytes + length = _
      rw [writing.counts.bytes, fitting.plans, place, ← UInt64.ofNat_add,
        plannedBytes_add_plannedLength, List.length_append, List.length_singleton]
  have chunked : Chunked object (accepted ++ [⟨index, offset, payload⟩]) (payloads ++ [payload]) := by
    apply writing.chunked.concat (place ▸ inside) place
    · change offset.toNat = _
      rw [fitting.starts, toNat_plannedBytes sized, place]
    · change payload.length = _
      rw [fitting.fills, place]
  refine ⟨counts, chunked, ?_⟩
  intro journaling
  rcases writing.journalled journaling with ⟨short, describes, -⟩
  rcases StagingJournal.validate_eq_ok.mp describes.valid with ⟨named, numbered, -⟩
  refine counts.describes named numbered valid chunked.few ?_ short
  change (if writer.journaling then writer.journal.chunkDigests ++ [chunkDigest] else _) = _
  rw [if_pos journaling, describes.digests, digestsOf_concat, fitting.digest, place]

/-- Where the next chunk goes is inside the file or right behind it, and it fits. -/
theorem Writing.fits (sized : object.Sized)
    (writing : Writing id object accepted directory writer payloads data)
    (fitting : Fitting object index offset payload chunkDigest length)
    (next : index = writer.journal.verifiedChunks) :
    offset.toNat = object.plannedBytes payloads.length ∧ offset.toNat ≤ data.length ∧
      offset.toNat + payload.length = object.plannedBytes (payloads.length + 1) := by
  have place : index.toNat = payloads.length := by rw [next, writing.counts.chunks]
  have start : offset.toNat = object.plannedBytes payloads.length := by
    rw [fitting.starts, toNat_plannedBytes sized, place]
  refine ⟨start, start ▸ writing.reaches, ?_⟩
  rw [start, fitting.fills, place, plannedBytes_add_plannedLength]

end Chunk

/-! ## One step -/

section Steps

variable {id : MovementId} {object : StateObjectDescriptor} {site : StagingSite}
  {directory : StagingDirectory} {writer : StagingWriter} {payloads : List Bytes} {data : Bytes}
  {index : UInt32} {offset length : UInt64} {payload : Bytes} {chunkDigest : Digest}

theorem stagedData_of (store : ObjectStore) (found : store.staging id = some directory) :
    store.stagedData id = directory.data.getD [] := by
  rw [ObjectStore.stagedData, found]
  rfl

theorem staging_setStagedData (store : ObjectStore) (found : store.staging id = some directory)
    (data : Bytes) :
    (store.setStagedData id data).staging id = some { directory with data := some data } := by
  change Function.update store.staging id _ id = _
  rw [Function.update_self, found]
  rfl

/-- A journal that describes something is saved. -/
theorem saveJournal_of_describes {journal : StagingJournal}
    (describes : Describes id object payloads journal) (found : store.staging id = some directory) :
    (store.saveJournal {} journal).2 = .ok () ∧
      (store.saveJournal {} journal).1.staging id =
        some { directory with journal := some journal.file } := by
  have movementId := describes.counts.movementId
  subst movementId
  rw [ObjectStore.saveJournal, describes.valid]
  refine ⟨rfl, ?_⟩
  change Function.update store.staging journal.movementId _ _ = _
  rw [Function.update_self, found]
  rfl

/-- The staged file after the next chunk, or a part of it, was written. -/
theorem Writing.staging_writeStaged (store : ObjectStore) {accepted : List AcceptedChunk}
    (writing : Writing id object accepted directory writer payloads data)
    (found : store.staging id = some directory) (bytes : Bytes) :
    (writer.writeStaged store offset bytes).staging id =
      some { directory with data := some (StagingWriter.writeAt data offset.toNat bytes) } := by
  rw [StagingWriter.writeStaged, writing.counts.movementId, stagedData_of store found, writing.file]
  exact staging_setStagedData store found _

/-- The next chunk is written, hashed and journalled. -/
theorem Writing.writeNext (sized : object.Sized) (valid : object.validate = .ok ())
    (found : site.store.staging id = some directory)
    (writing : Writing id object site.accepted directory writer payloads data)
    (fitting : Fitting object index offset payload chunkDigest length)
    (next : index = writer.journal.verifiedChunks) :
    exists left directory, writer.writeNext site.store {} offset payload length chunkDigest =
        (writer.advance payload length chunkDigest, left,
          .ok (writer.advance payload length chunkDigest).resumeState) ∧
      left.staging id = some directory ∧
      Writing id object (site.accepted ++ [⟨index, offset, payload⟩]) directory
        (writer.advance payload length chunkDigest) (payloads ++ [payload])
        (StagingWriter.writeAt data offset.toNat payload) := by
  rcases writing.advance sized valid fitting next with ⟨counts, chunked, describes⟩
  rcases writing.fits sized fitting next with ⟨start, inside, stop⟩
  have written : (writer.writeStaged site.store offset payload).staging id = _ :=
    writing.staging_writeStaged site.store found payload
  have front : (StagingWriter.writeAt data offset.toNat payload).take
      (object.plannedBytes (payloads ++ [payload]).length) = (payloads ++ [payload]).flatten := by
    rw [List.length_append, List.length_singleton, ← stop, take_writeAt inside, start,
      writing.front, List.flatten_append, List.flatten_singleton]
  have room : (StagingWriter.writeAt data offset.toNat payload).length ≤
      object.plannedBytes ((payloads ++ [payload]).length + 1) := by
    apply length_writeAt_le inside
    · exact Nat.le_trans writing.room (plannedBytes_mono (by simp))
    · rw [stop]
      exact plannedBytes_mono (by simp)
  have running : (writer.advance payload length chunkDigest).running =
      Sha256.absorbed (payloads ++ [payload]).flatten := by
    change writer.running.update payload = _
    rw [writing.running, Sha256.update_absorbed, List.flatten_append, List.flatten_singleton]
  rw [StagingWriter.writeNext]
  dsimp only
  cases journaling : writer.journaling with
  | false =>
      refine ⟨_, _, rfl, written, chunked, counts, rfl, front, room, running, ?_, ?_⟩
      · intro impossible
        cases journaling.symm.trans impossible
      · intro _
        exact writing.unjournalled journaling
  | true =>
      rcases saveJournal_of_describes (describes journaling) written with ⟨succeeds, saved⟩
      generalize (writer.writeStaged site.store offset payload).saveJournal {}
        (writer.advance payload length chunkDigest).journal = outcome at succeeds saved
      rcases outcome with ⟨left, result⟩
      cases succeeds
      refine ⟨left, _, rfl, saved, chunked, counts, rfl, front, room, running, ?_, ?_⟩
      · intro _
        exact ⟨(writing.journalled journaling).1, describes journaling, _, rfl, describes journaling⟩
      · intro impossible
        cases journaling.symm.trans impossible

/-- What one call of `append` does: it refuses and changes nothing, accepts a chunk that
is there already, or writes the next one. -/
theorem Kept.append (sized : object.Sized) (valid : object.validate = .ok ())
    (kept : Kept id object site) :
    Kept id object (site.step id object (.append index offset payload chunkDigest)) := by
  rw [step]
  split
  · exact kept
  · rename_i writer current
    have unchanged (more : List AcceptedChunk) : Kept id object
        ⟨site.store, some writer, site.accepted ++ more⟩ := by
      refine ⟨fun directory found => (kept.resumable directory found).mono, ?_⟩
      intro same current isOpen
      cases current
      rcases kept.writing writer ‹_› isOpen with ⟨directory, payloads, data, found, writing⟩
      exact ⟨directory, payloads, data, found, writing.mono⟩
    have same : Kept id object ⟨site.store, some writer, site.accepted⟩ := by
      have plain := unchanged []
      rwa [List.append_nil] at plain
    rw [StagingWriter.append]
    cases checked : writer.checkChunk index offset payload chunkDigest with
    | error status => exact same
    | ok length =>
        rcases kept.writing writer current (isOpen_of_checkChunk checked) with
          ⟨directory, payloads, data, found, writing⟩
        have fitting := fitting_of_checkChunk sized writing.counts.object checked
        dsimp only
        split_ifs with earlier skips
        · cases writer.checkDuplicate site.store {} index offset length chunkDigest with
          | error status => exact same
          | ok passed => exact unchanged _
        · exact same
        · rcases writing.writeNext sized valid found fitting (not_not.mp skips) with
            ⟨left, directory, written, found, writing⟩
          rw [written]
          refine ⟨fun other foundOther => ?_, ?_⟩
          · cases found.symm.trans foundOther
            exact writing.resumable
          · intro other current _
            cases current
            exact ⟨directory, _, _, found, writing⟩

/-- A crash leaves something that can be resumed. -/
theorem Kept.crash (sized : object.Sized) (valid : object.validate = .ok ())
    (kept : Kept id object site) (written : Nat) (journalled : Bool) :
    Kept id object
      (site.step id object (.crash index offset payload chunkDigest written journalled)) := by
  rw [step]
  split
  · exact kept
  · rename_i writer current
    have closed (store : ObjectStore) (more : List AcceptedChunk)
        (resumable : forall directory, store.staging id = some directory ->
          Resumable id object (site.accepted ++ more) directory) :
        Kept id object ⟨store, none, site.accepted ++ more⟩ :=
      ⟨resumable, fun _ impossible => by cases impossible⟩
    have same : Kept id object ⟨site.store, none, site.accepted ++ []⟩ :=
      closed site.store [] fun directory found => (kept.resumable directory found).mono
    rw [StagingWriter.interrupted]
    cases checked : writer.checkChunk index offset payload chunkDigest with
    | error status => exact same
    | ok length =>
        rcases kept.writing writer current (isOpen_of_checkChunk checked) with
          ⟨directory, payloads, data, found, writing⟩
        have fitting := fitting_of_checkChunk sized writing.counts.object checked
        dsimp only
        by_cases skips : index ≠ writer.journal.verifiedChunks
        · rw [if_pos skips]
          exact same
        · rw [if_neg skips]
          have next := not_not.mp skips
          rcases writing.advance sized valid fitting next with ⟨counts, chunked, describes⟩
          rcases writing.fits sized fitting next with ⟨start, inside, stop⟩
          have partly : (writer.writeStaged site.store offset (payload.take written)).staging id =
              _ := writing.staging_writeStaged site.store found (payload.take written)
          have room : (StagingWriter.writeAt data offset.toNat (payload.take written)).length ≤
              object.plannedBytes (payloads.length + 1) := by
            apply length_writeAt_le inside writing.room
            rw [← stop, List.length_take]
            omega
          apply closed
          intro left foundLeft
          -- With the new journal one more chunk is described, otherwise the same ones.
          by_cases ahead : (writer.journaling && journalled) = true
          · rw [if_pos ahead] at foundLeft
            have described := describes (Bool.and_eq_true_iff.mp ahead).1
            rw [(saveJournal_of_describes described partly).2] at foundLeft
            cases foundLeft
            intro file same
            cases same
            refine ⟨_, _, rfl, described, chunked, Nat.le_trans room (plannedBytes_mono ?_)⟩
            simp
          · rw [if_neg ahead, partly] at foundLeft
            cases foundLeft
            exact Resumable.mono (writing.leaves rfl room)

/-! ### Opening a writer -/

theorem staging_createStaging (store : ObjectStore) :
    (store.createStaging id).staging id = some ((store.staging id).getD ⟨none, none⟩) :=
  Function.update_self ..

theorem stagedData_createStaging (store : ObjectStore) :
    (store.createStaging id).stagedData id = store.stagedData id := by
  rw [stagedData_of _ (staging_createStaging store), ObjectStore.stagedData]
  cases store.staging id with
  | none => rfl
  | some directory => rfl

theorem Kept.created (kept : Kept id object site) :
    Resumable id object site.accepted ((site.store.staging id).getD ⟨none, none⟩) := by
  cases found : site.store.staging id with
  | none => exact resumable_of_none rfl
  | some directory => exact kept.resumable directory found

variable {stored : StagingJournal} {attempt : TransferAttemptId} {generation : MovementGeneration}

/-- The journal that a writer continues from is the one that was left. -/
theorem Resumable.resumePoint {accepted : List AcceptedChunk}
    (found : store.staging id = some directory) (resumable : Resumable id object accepted directory)
    (resumes : StagingWriter.resumePoint store {} id object = some stored) :
    exists payloads, directory.journal = some stored.file ∧ Describes id object payloads stored ∧
      Chunked object accepted payloads ∧
      (directory.data.getD []).length ≤ object.plannedBytes (payloads.length + 1) := by
  rw [StagingWriter.resumePoint] at resumes
  cases journal : directory.journal with
  | none =>
      rw [ObjectStore.loadJournal, found, Option.bind_some, journal] at resumes
      cases resumes
  | some file =>
      rcases resumable file journal with ⟨left, payloads, rfl, describes, chunked, room⟩
      have loaded : store.loadJournal {} id = .ok left := by
        apply describes.load
        rw [found, Option.bind_some, journal]
      rw [loaded] at resumes
      dsimp only at resumes
      split_ifs at resumes
      cases resumes
      exact ⟨payloads, rfl, describes, chunked, room⟩

theorem distinct_of_collisionFree (chunked : Chunked object site.accepted payloads)
    (free : site.collisionFree id object (.begin generation attempt) = true) {place : Nat}
    (found : payloads[place]? = some payload)
    (same : plannedDigest object place (slice object (site.store.stagedData id) place) =
      plannedDigest object place payload) :
    slice object (site.store.stagedData id) place = payload := by
  rcases (chunked.each place payload found).2 with ⟨chunk, member, rfl, -, rfl⟩
  have distinct := List.all_eq_true.mp free chunk member
  simpa [same] using distinct

/-- A store and the outcome of `begin` that every step may leave. -/
structure Opens (id : MovementId) (object : StateObjectDescriptor)
    (accepted : List AcceptedChunk) (opened : ObjectStore × Result StagingWriter) : Prop where
  resumable : forall directory, opened.1.staging id = some directory ->
    Resumable id object accepted directory
  writing : forall writer, opened.2 = .ok writer -> exists directory payloads data,
    opened.1.staging id = some directory ∧
      Writing id object accepted directory writer payloads data

theorem Opens.kept (opens : Opens id object site.accepted
      (StagingWriter.begin site.store {} id generation attempt object)) :
    Kept id object (site.step id object (.begin generation attempt)) := by
  rw [step]
  generalize StagingWriter.begin site.store {} id generation attempt object = begun at opens ⊢
  rcases begun with ⟨store, result⟩
  cases result with
  | error status =>
      refine ⟨opens.resumable, ?_⟩
      intro writer impossible
      cases impossible
  | ok opened =>
      refine ⟨opens.resumable, ?_⟩
      intro writer current _
      cases current
      exact opens.writing opened rfl

theorem opens_of_error {accepted : List AcceptedChunk} {status : Status}
    (resumable : forall directory, store.staging id = some directory ->
      Resumable id object accepted directory) :
    Opens id object accepted (store, .error status) := by
  refine ⟨resumable, ?_⟩
  intro writer impossible
  cases impossible

/-- A clean start: an empty file and, if there is one, a journal without chunks. -/
theorem opens_startClean {accepted : List AcceptedChunk} (store : ObjectStore)
    (generation : MovementGeneration) (attempt : TransferAttemptId) {journaling : Bool}
    (short : journaling = true -> object.chunkCount.toNat ≤ kMaxResumeJournalChunks) :
    Opens id object accepted
      (StagingWriter.startClean store {} id generation attempt object journaling) := by
  let opened : ObjectStore :=
    { store with staging := Function.update store.staging id none }.setStagedData id []
  let journal : StagingJournal :=
    { movementId := id, movementGeneration := generation, attempt := attempt, object := object }
  have found : opened.staging id = some ⟨some [], none⟩ := by
    change Function.update _ id _ id = _
    rw [Function.update_self]
    change some { (Function.update store.staging id none id).getD ⟨none, none⟩ with
      data := some [] } = _
    rw [Function.update_self]
    rfl
  have counts : Counts id object [] journal := by
    refine ⟨rfl, rfl, ?_, rfl⟩
    rw [List.length_nil, plannedBytes_zero]
    rfl
  have front : ([] : Bytes).take (object.plannedBytes ([] : List Bytes).length) =
      ([] : List Bytes).flatten := List.take_nil
  have clean : forall directory, opened.staging id = some directory ->
      Resumable id object accepted directory := by
    intro directory same
    cases found.symm.trans same
    exact resumable_of_none rfl
  have cleared : store.discardStaging {} id =
      ({ store with staging := Function.update store.staging id none }, .ok ()) := rfl
  rw [StagingWriter.startClean, cleared]
  dsimp only
  cases journaling with
  | false =>
      refine ⟨clean, ?_⟩
      intro writer current
      cases current
      refine ⟨_, [], [], found, chunked_nil, counts, rfl, front, Nat.zero_le _,
        Sha256.initial_eq, ?_, fun _ => rfl⟩
      intro impossible
      cases impossible
  | true =>
      rw [if_pos rfl]
      cases valid : journal.validate with
      | error status =>
          have failed : opened.saveJournal {} journal = (opened, .error status) := by
            rw [ObjectStore.saveJournal, valid]
          rw [failed]
          exact opens_of_error clean
      | ok checked =>
          have describes : Describes id object [] journal :=
            ⟨counts, valid, rfl, Nat.zero_le _⟩
          rcases saveJournal_of_describes describes found with ⟨succeeds, saved⟩
          generalize opened.saveJournal {} journal = outcome at succeeds saved
          rcases outcome with ⟨left, result⟩
          cases succeeds
          refine ⟨?_, ?_⟩
          · intro directory same
            cases saved.symm.trans same
            intro file same
            cases same
            exact ⟨journal, [], rfl, describes, chunked_nil, Nat.zero_le _⟩
          · intro writer current
            cases current
            refine ⟨_, [], [], saved, chunked_nil, counts, rfl, front, Nat.zero_le _,
              Sha256.initial_eq, ?_, ?_⟩
            · intro _
              exact ⟨short rfl, describes, journal, rfl, describes⟩
            · intro impossible
              cases impossible

/-- A resumed writer stands behind the chunks of the journal, which were read back. -/
theorem opens_resume {accepted : List AcceptedChunk} (sized : object.Sized)
    (valid : object.validate = .ok ()) (numbered : generation.isSet = true)
    (short : object.chunkCount.toNat ≤ kMaxResumeJournalChunks)
    (found : store.staging id = some directory) (saved : directory.journal = some stored.file)
    (describes : Describes id object payloads stored) (chunked : Chunked object accepted payloads)
    (room : (directory.data.getD []).length ≤ object.plannedBytes (payloads.length + 1))
    (distinct : forall place payload, payloads[place]? = some payload ->
      plannedDigest object place (slice object (store.stagedData id) place) =
        plannedDigest object place payload ->
      slice object (store.stagedData id) place = payload) :
    Opens id object accepted
      (StagingWriter.resume store {} id generation attempt object true stored) := by
  have staged := stagedData_of store found
  have opened := staging_setStagedData store found (store.stagedData id)
  rw [← staged] at room
  refine ⟨?_, ?_⟩
  · intro left same
    cases opened.symm.trans same
    intro file same
    cases saved.symm.trans same
    exact ⟨stored, payloads, rfl, describes, chunked, room⟩
  · intro writer begun
    rcases refuseWhen_bind_eq_ok.mp begun with ⟨-, begun⟩
    rcases bind_eq_ok.mp begun with ⟨running, ran, returned⟩
    cases returned
    have ran : StagingWriter.rehash object (store.stagedData id) (digestsOf object payloads)
        payloads.length 0 (.ofNat (object.plannedBytes 0)) (Sha256.absorbed []) = .ok running := by
      rw [← describes.digests, ← describes.counts.chunks, plannedBytes_zero, ← Sha256.initial_eq]
      exact ran
    have start : (store.stagedData id).take (object.plannedBytes (0 : UInt32).toNat) =
        (payloads.take (0 : UInt32).toNat).flatten := by
      change (store.stagedData id).take (object.plannedBytes 0) = []
      rw [plannedBytes_zero, List.take_zero]
    rcases rehash_of_chunked sized chunked distinct (Nat.zero_add _) start ran with ⟨hashed, front⟩
    have counts : Counts id object payloads
        { stored with movementGeneration := generation, attempt := attempt } :=
      { describes.counts with }
    rcases StagingJournal.validate_eq_ok.mp describes.valid with ⟨named, -⟩
    have continued := counts.describes named numbered valid chunked.few describes.digests short
    refine ⟨_, payloads, store.stagedData id, opened, chunked, counts, rfl, front, room, hashed,
      ?_, ?_⟩
    · intro _
      exact ⟨short, continued, stored, saved, describes⟩
    · intro impossible
      cases impossible

theorem Kept.begin (sized : object.Sized) (valid : object.validate = .ok ())
    (kept : Kept id object site) (numbered : generation.isSet = true)
    (free : site.collisionFree id object (.begin generation attempt) = true) :
    Kept id object (site.step id object (.begin generation attempt)) := by
  apply Opens.kept
  have created : (site.store.createStaging id).staging id = _ := staging_createStaging site.store
  rw [StagingWriter.begin, valid]
  dsimp only
  rw [Bool.not_true, if_neg Bool.false_ne_true]
  generalize journals : (site.store.allowResume &&
    decide (object.chunkCount.toNat ≤ kMaxResumeJournalChunks)) = journaling
  have short : journaling = true -> object.chunkCount.toNat ≤ kMaxResumeJournalChunks := by
    intro journaling
    subst journals
    exact of_decide_eq_true (Bool.and_eq_true_iff.mp journaling).2
  split
  · rename_i stored resumes
    cases journaling with
    | false => cases resumes
    | true =>
        rcases kept.created.resumePoint created resumes with
          ⟨payloads, saved, describes, chunked, room⟩
        apply opens_resume sized valid numbered (short rfl) created saved describes chunked room
        intro place payload
        rw [stagedData_createStaging]
        exact distinct_of_collisionFree chunked free
  · exact opens_startClean _ generation attempt short

/-! ## Whole runs -/

/-- What `finish` needs to return a digest, and what it leaves. -/
theorem finish_eq_ok {digest : Digest} (returned : (writer.finish {}).2 = .ok digest) :
    writer.isOpen = true ∧ writer.journal.verifiedChunks = writer.journal.object.chunkCount ∧
      digest = writer.running.finalize := by
  rw [StagingWriter.finish] at returned
  split_ifs at returned with closed short
  · cases returned
  · cases returned
  · cases returned
    rw [not_or, not_not] at short
    exact ⟨by simpa using closed, short.1, rfl⟩

theorem finish_open (isOpen : (writer.finish {}).1.isOpen = true) :
    (writer.finish {}).1 = writer := by
  rw [StagingWriter.finish] at isOpen ⊢
  split_ifs at isOpen ⊢
  · rfl
  · rfl

theorem Kept.step (sized : object.Sized) (valid : object.validate = .ok ())
    (kept : Kept id object site) {action : StagingAction} (numbered : site.numbered action = true)
    (free : site.collisionFree id object action = true) :
    Kept id object (site.step id object action) := by
  cases action with
  | begin generation attempt => exact kept.begin sized valid numbered free
  | append index offset payload chunkDigest => exact kept.append sized valid
  | crash index offset payload chunkDigest written journalled =>
      exact kept.crash sized valid written journalled
  | finish =>
      refine ⟨kept.resumable, ?_⟩
      intro writer current isOpen
      rcases Option.map_eq_some_iff.mp current with ⟨before, found, rfl⟩
      have same := finish_open isOpen
      rw [same] at isOpen ⊢
      exact kept.writing before found isOpen
  | abort =>
      refine ⟨kept.resumable, ?_⟩
      intro writer current isOpen
      rcases Option.map_eq_some_iff.mp current with ⟨before, found, rfl⟩
      cases isOpen

end Steps

/-- Staging integrity: after any attempts, a digest that `finish` returns is the digest of
a file that is the whole object, chunk by chunk as they were accepted. -/
theorem intact_of_finish {id : MovementId} {object : StateObjectDescriptor} {store : ObjectStore}
    {actions : List StagingAction} (valid : object.validate = .ok ())
    (clean : store.staging id = none)
    (numbers : everyStep (step id object) numbered { store := store } actions = true)
    (collides : everyStep (step id object) (collisionFree id object) { store := store } actions =
      true)
    {writer : StagingWriter} {digest : Digest}
    (current : (runFrom (step id object) { store := store } actions).writer = some writer)
    (returned : (writer.finish {}).2 = .ok digest) :
    Intact id object (runFrom (step id object) { store := store } actions) digest := by
  have sized := sized_of_validate valid
  have start : Kept id object { store := store } := by
    refine ⟨?_, ?_⟩
    · intro directory found
      cases clean.symm.trans found
    · intro writer impossible
      cases impossible
  have kept := runFrom_invariant_of_everyStep (everyStep_and numbers collides) start (by
    intro site action kept meets
    rw [Bool.and_eq_true] at meets
    exact kept.step sized valid meets.1 meets.2)
  rcases finish_eq_ok returned with ⟨isOpen, whole, rfl⟩
  rcases kept.writing writer current isOpen with ⟨directory, payloads, data, found, writing⟩
  have all : payloads.length = object.chunkCount.toNat := by
    rw [← writing.counts.chunks, whole, writing.counts.object]
  rcases writing.intact sized all with ⟨made, length⟩
  refine ⟨data, payloads, ?_, length, made, all, writing.chunked, ?_⟩
  · rw [found]
    exact writing.file
  · rw [writing.running, Sha256.finalize_absorbed, ← made]

/-- A store in which nothing was staged yet. -/
def unstaged : ObjectStore := ⟨ascii "root", true, fun _ => none, fun _ => none, fun _ => none⟩

/-- A crash right behind the only chunk, a second attempt, and the chunk once more. -/
def interruptedAttempt : List StagingAction :=
  let digest := plannedDigest oneByteObject 0 [1]
  [.begin ⟨1⟩ (.filled 5), .crash 0 0 [1] digest 1 true, .begin ⟨1⟩ (.filled 6),
    .append 0 0 [1] digest]

theorem intact_interruptedAttempt :
    Intact (.filled 1) oneByteObject
      (runFrom (step (.filled 1) oneByteObject) { store := unstaged } interruptedAttempt)
      oneByteDigest := by
  have runs : oneByteObject.validate = .ok () ∧
      everyStep (step (.filled 1) oneByteObject) numbered { store := unstaged }
        interruptedAttempt = true ∧
      everyStep (step (.filled 1) oneByteObject) (collisionFree (.filled 1) oneByteObject)
        { store := unstaged } interruptedAttempt = true ∧
      (runFrom (step (.filled 1) oneByteObject) { store := unstaged }
        interruptedAttempt).writer.map (fun writer => (writer.finish {}).2) =
        some (.ok oneByteDigest) := by decide +kernel
  rcases runs with ⟨valid, numbers, collides, finishes⟩
  rcases Option.map_eq_some_iff.mp finishes with ⟨writer, current, returned⟩
  exact intact_of_finish valid rfl numbers collides current returned

end StagingSite

end StateMovementFabric
