import StateMovementFabric.Store.Runs

namespace StateMovementFabric

open Foundation

/-!
# Durability of the log

Two results about every run of successful operations.  Reopening the file rebuilds
the index, with a next number above every number in the file.  Opening any cut of
the file recovers exactly the records that are whole before the cut, and leaves
exactly those on disk.  Both hold as long as the 64-bit record number does not run
out; the generations of the data model refuse to wrap, the record number does not,
and a store that wraps it writes a log that it refuses to open again.
-/

/-! ## The records of a file

These functions walk a file by the lengths its headers declare.  They check
nothing and know nothing of the recovery loop. -/

/-- The complete records at the front of `body`. -/
def splitRecords : Nat -> Bytes -> List Bytes
  | 0, _ => []
  | fuel + 1, body =>
      let size := kRecordHeaderBytes + loadLe (slice body 16 4)
      if body.length < kRecordHeaderBytes ∨ body.length < size then []
      else body.take size :: splitRecords fuel (body.drop size)

/-- The complete records of a log file. -/
def recordsOfFile (file : Bytes) : List Bytes :=
  splitRecords file.length (file.drop kFileHeaderBytes)

/-- The sequence numbers in a log file. -/
def sequencesInFile (file : Bytes) : List UInt64 :=
  (recordsOfFile file).map (fun record => UInt64.ofNat (loadLe (slice record 8 8)))

/-- The longest front part of a list of records that fits in `room` bytes. -/
def longestFitting : Nat -> List Bytes -> List Bytes
  | _, [] => []
  | room, record :: rest =>
      if record.length ≤ room then record :: longestFitting (room - record.length) rest else []

/-- Apply complete records one after the other to an empty index. -/
def applyRecords (options : MovementStoreOptions) (records : List Bytes) : Result StoreContents :=
  records.foldlM (fun contents record =>
    applyRecord options contents (record.getD 5 0) (record.drop kRecordHeaderBytes)) .empty

/-- A position between two records, or at an end of the log. -/
def IsRecordBoundary (file : Bytes) (position : Nat) : Prop :=
  exists count, position = kFileHeaderBytes + ((recordsOfFile file).take count).flatten.length

variable {entries : List LogEntry} {options : MovementStoreOptions}

theorem splitRecords_logBytes {fuel : Nat}
    (readable : forall entry, entry ∈ entries -> Readable options entry.record)
    (enough : entries.length ≤ fuel) :
    splitRecords fuel (logBytes entries) = entries.map LogEntry.frame := by
  induction entries generalizing fuel with
  | nil =>
      cases fuel with
      | zero => rfl
      | succ fuel => simp [splitRecords, logBytes, kRecordHeaderBytes]
  | cons entry rest ih =>
      rcases fuel with _ | fuel
      · simp at enough
      · have small := payload_lt_of_readable (readable entry List.mem_cons_self)
        have layout : logBytes (entry :: rest) = entry.frame ++ logBytes rest := by
          simp [logBytes]
        have declared : loadLe (slice (entry.frame ++ logBytes rest) 16 4) =
            entry.record.payload.length := by
          rw [LogEntry.frame, recordFrame, List.append_assoc, List.append_assoc]
          exact payloadLength_of_front _ _ _ _ small
        have size : kRecordHeaderBytes + loadLe (slice (entry.frame ++ logBytes rest) 16 4) =
            entry.frame.length := by
          rw [declared, LogEntry.frame_length]
        have long : ¬((entry.frame ++ logBytes rest).length < kRecordHeaderBytes ∨
            (entry.frame ++ logBytes rest).length < entry.frame.length) := by
          rw [List.length_append, LogEntry.frame_length]
          omega
        rw [layout, splitRecords, size, if_neg long, List.take_left, List.drop_left,
          ih (fun other member => readable other (List.mem_cons_of_mem _ member))
            (by simpa using enough), List.map_cons]

theorem readable_of_validLog (valid : ValidLog options entries) :
    forall entry, entry ∈ entries -> Readable options entry.record := by
  apply recovered_induction
    (motive := fun entries _ => forall entry, entry ∈ entries -> Readable options entry.record)
    options
  · intro entry member
    cases member
  · intro entries last ready earlier entry member
    rcases List.mem_append.mp member with before | final
    · exact earlier entry before
    · rw [List.mem_singleton.mp final]
      exact ready.2
  · exact valid

/-- The walk finds the entries of a valid log. -/
theorem recordsOfFile_log (valid : ValidLog options entries) :
    recordsOfFile (fileHeader ++ logBytes entries) = entries.map LogEntry.frame := by
  have behind : (fileHeader ++ logBytes entries).drop kFileHeaderBytes = logBytes entries :=
    List.drop_left' fileHeader_length
  have enough : entries.length ≤ (fileHeader ++ logBytes entries).length := by
    have := (logFormat options).length_le_encode entries
    rw [List.length_append]
    change entries.length ≤ (logBytes entries).length at this
    omega
  rw [recordsOfFile, behind, splitRecords_logBytes (readable_of_validLog valid) enough]

theorem sequencesInFile_log (valid : ValidLog options entries) :
    sequencesInFile (fileHeader ++ logBytes entries) = entries.map LogEntry.sequence := by
  rw [sequencesInFile, recordsOfFile_log valid, List.map_map]
  apply List.map_congr_left
  intro entry _
  change UInt64.ofNat (loadLe (slice entry.frame 8 8)) = entry.sequence
  rw [LogEntry.frame, recordFrame, List.append_assoc]
  exact sequence_of_front _ _ _ _

/-- A run that starts from a new store keeps the file faithful to the index. -/
theorem faithful_of_run {ops : List StoreOp} {initial final : MovementStore}
    {created : StoreRecoveryReport} (opened : openStore options [] = .ok (initial, created))
    (ran : runOps initial ops = .ok final)
    (roundTrips : forall op, op ∈ ops -> op.RoundTrips options) (unwrapped : NeverWraps initial ops) :
    exists entries, Faithful options final entries :=
  (faithful_of_opened_new opened).runOps roundTrips unwrapped ran

/-! ## Reopening rebuilds the index -/

/-- Replay refines memory: after any run of successful operations, reopenings
included, opening the file succeeds, rebuilds the records in every encoded field,
their order and the coordinator state, and continues above every number in the
file. -/
theorem replay_refines_memory (options : MovementStoreOptions) (ops : List StoreOp)
    (initial final : MovementStore) (created : StoreRecoveryReport)
    (opened : openStore options [] = .ok (initial, created))
    (ran : runOps initial ops = .ok final)
    (roundTrips : forall op, op ∈ ops -> op.RoundTrips options)
    (unwrapped : NeverWraps initial ops) :
    exists reopened report, openStore options final.file = .ok (reopened, report) ∧
      reopened.contents.Agrees final.contents ∧
      forall sequence, sequence ∈ sequencesInFile final.file -> sequence < reopened.nextSequence := by
  obtain ⟨entries, faithful⟩ := faithful_of_run opened ran roundTrips unwrapped
  obtain ⟨kept, report, reopens, _⟩ := faithful.reopen
  refine ⟨storeOf options entries, report, reopens, faithful.agrees.symm, ?_⟩
  intro sequence member
  rw [faithful.file_eq, sequencesInFile_log faithful.log] at member
  obtain ⟨entry, isEntry, rfl⟩ := List.mem_map.mp member
  have highest := UInt64.le_iff_toNat_le.mp (sequence_le_recovered faithful.log entry isEntry)
  have above := kept.sequence_lt
  apply UInt64.lt_iff_toNat_lt.mpr
  omega

/-- The options and the coordinator state of the runs below. -/
def smallOptions : MovementStoreOptions := ⟨4096, 2, 1⟩

def savedState : CoordinatorPersistentState := ⟨⟨1⟩, ⟨1⟩, ⟨1⟩, ⟨1⟩, .zero, 1⟩

def newSmallStore : MovementStore := ⟨smallOptions, fileHeader, kFileHeaderBytes, 1, .empty⟩

/-- A short run. -/
def shortRun : List StoreOp :=
  [.put (oneByteMovement .PLANNED), .saveCoordinatorState savedState, .compact,
    .put { oneByteMovement .FAILED with id := .filled 2 }, .retire (.filled 1)]

def afterShortRun : MovementStore := valueOr newSmallStore (runOps newSmallStore shortRun)

theorem replay_refines_memory_shortRun :
    afterShortRun.contents.order = [.filled 2] ∧
    exists reopened report, openStore smallOptions afterShortRun.file = .ok (reopened, report) ∧
      reopened.contents.Agrees afterShortRun.contents ∧
      forall sequence, sequence ∈ sequencesInFile afterShortRun.file ->
        sequence < reopened.nextSequence := by
  have valid : smallOptions.validate = .ok () := by decide
  have ran : runOps newSmallStore shortRun = .ok afterShortRun :=
    eq_ok_valueOr newSmallStore (by decide +kernel)
  have roundTrips : forall op, op ∈ shortRun -> op.RoundTrips smallOptions := by decide +kernel
  have unwrapped : NeverWraps newSmallStore shortRun := by decide +kernel
  exact ⟨by decide +kernel, replay_refines_memory smallOptions shortRun newSmallStore afterShortRun
    _ (openStore_new valid) ran roundTrips unwrapped⟩

/-! ## The record number wraps -/

theorem runOps_append (store : MovementStore) (first second : List StoreOp) :
    runOps store (first ++ second) = runOps store first >>= fun next => runOps next second := by
  induction first generalizing store with
  | nil => rfl
  | cons op rest ih =>
      rw [List.cons_append, runOps, runOps]
      cases op.perform store with
      | error status => rfl
      | ok next => exact ih next

/-- A save followed by a compaction: one number is used, and the log is short again. -/
def saveRound : List StoreOp := [.saveCoordinatorState savedState, .compact]

/-- The store that holds nothing but the saved state, with its next number. -/
def savedStore (nextSequence : UInt64) : MovementStore where
  options := smallOptions
  file := fileHeader ++ MovementStore.writeRecords 1 [.coordinatorState savedState]
  appendOffset :=
    (fileHeader ++ MovementStore.writeRecords 1 [.coordinatorState savedState]).length
  nextSequence := nextSequence
  contents := ⟨∅, [], some savedState⟩

theorem runOps_saveRound (nextSequence : UInt64) :
    runOps (savedStore nextSequence) saveRound = .ok (savedStore (nextSequence + 1)) := rfl

theorem runOps_saveRounds (nextSequence : UInt64) (rounds : Nat) :
    runOps (savedStore nextSequence) (List.replicate rounds saveRound).flatten =
      .ok (savedStore (nextSequence + UInt64.ofNat rounds)) := by
  induction rounds generalizing nextSequence with
  | zero =>
      rw [List.replicate_zero, List.flatten_nil, runOps]
      simp
  | succ rounds ih =>
      rw [List.replicate_succ, List.flatten_cons, runOps_append, runOps_saveRound, ok_bind, ih,
        UInt64.add_assoc, UInt64.ofNat_add, UInt64.add_comm 1]
      rfl

theorem runOps_save (nextSequence : UInt64) :
    exists final, runOps (savedStore nextSequence) [.saveCoordinatorState savedState] =
      .ok final ∧ final.file = overwrite (savedStore nextSequence).file
        (savedStore nextSequence).appendOffset (recordFrame 2 nextSequence savedState.encode) :=
  ⟨_, rfl, rfl⟩

/-- Any number of rounds after the first, and one more save. -/
def roundsAndSave (rounds : Nat) : List StoreOp :=
  saveRound ++ ((List.replicate rounds saveRound).flatten ++ [.saveCoordinatorState savedState])

/-- One number is used in each of the first `2 ^ 64 - 1` rounds; the next save
writes number zero. -/
def wrapRun : List StoreOp := roundsAndSave (2 ^ 64 - 2)

/-- The log of that run: number one, then number zero. -/
def wrappedFile : Bytes :=
  fileHeader ++ logBytes [⟨1, .coordinatorState savedState⟩, ⟨0, .coordinatorState savedState⟩]

theorem runOps_roundsAndSave {rounds : Nat} (wrapped : (2 : UInt64) + UInt64.ofNat rounds = 0) :
    exists final, runOps newSmallStore (roundsAndSave rounds) = .ok final ∧
      final.file = wrappedFile := by
  have first : runOps newSmallStore saveRound = .ok (savedStore 2) := rfl
  have many := runOps_saveRounds 2 rounds
  rw [wrapped] at many
  rcases runOps_save 0 with ⟨final, last, file⟩
  refine ⟨final, ?_, ?_⟩
  · rw [roundsAndSave, runOps_append, first, ok_bind, runOps_append, many, ok_bind, last]
  · rw [file]
    change overwrite (savedStore 0).file (savedStore 0).file.length _ = wrappedFile
    rw [overwrite_at_end]
    simp [savedStore, wrappedFile, MovementStore.writeRecords, logBytes, LogEntry.frame,
      LogRecord.type, LogRecord.payload]

theorem runOps_wrapRun :
    exists final, runOps newSmallStore wrapRun = .ok final ∧ final.file = wrappedFile :=
  runOps_roundsAndSave (by decide)

theorem roundTrips_wrapRun : forall op, op ∈ wrapRun -> op.RoundTrips smallOptions := by
  have save : (StoreOp.saveCoordinatorState savedState).RoundTrips smallOptions := by
    decide +kernel
  have round : forall op, op ∈ saveRound -> op.RoundTrips smallOptions := by
    intro op member
    rcases List.mem_cons.mp member with rfl | compact
    · exact save
    · rw [List.mem_singleton.mp compact]
      exact trivial
  intro op member
  rcases List.mem_append.mp member with early | late
  · exact round op early
  · rcases List.mem_append.mp late with many | last
    · rcases List.mem_flatten.mp many with ⟨ops, isRound, inRound⟩
      rw [List.eq_of_mem_replicate isRound] at inRound
      exact round op inRound
    · rw [List.mem_singleton.mp last]
      exact save

theorem readable_savedState : Readable smallOptions (.coordinatorState savedState) :=
  ⟨rfl, by decide, by decide +kernel⟩

/-- The wrapped log is refused. -/
theorem openStore_wrappedFile :
    openStore smallOptions wrappedFile =
      .error (.of .STORE_RECORD_INVALID "store record sequence is not strictly increasing") := by
  have valid : smallOptions.validate = .ok () := by decide
  let numberOne : LogEntry := ⟨1, .coordinatorState savedState⟩
  let numberZero : LogEntry := ⟨0, .coordinatorState savedState⟩
  have log : ValidLog smallOptions [numberOne] := ⟨⟨by decide, readable_savedState⟩, trivial⟩
  have refused : recoverStep smallOptions (recovered [numberOne]) (numberZero.frame ++ []) =
      .refused (.of .STORE_RECORD_INVALID "store record sequence is not strictly increasing") :=
    recoverStep_stale [] readable_savedState (by decide)
  have nonempty : numberZero.frame ++ [] ≠ [] := by
    apply List.ne_nil_of_length_pos
    rw [List.append_nil, LogEntry.frame_length, kRecordHeaderBytes]
    omega
  have body : logBytes [numberOne, numberZero] = logBytes [numberOne] ++ (numberZero.frame ++ []) := by
    simp [logBytes]
  rw [wrappedFile, body]
  exact openStore_refused valid log nonempty refused

/-- The conclusion of `replay_refines_memory` fails without its bound on the record
number: a run of successful saves and compactions ends with a file that the store
refuses. -/
theorem replay_refused_after_wrap :
    (forall op, op ∈ wrapRun -> op.RoundTrips smallOptions) ∧
    exists created final, openStore smallOptions [] = .ok (newSmallStore, created) ∧
      runOps newSmallStore wrapRun = .ok final ∧
      ¬exists reopened report, openStore smallOptions final.file = .ok (reopened, report) := by
  rcases runOps_wrapRun with ⟨final, ran, file⟩
  refine ⟨roundTrips_wrapRun, _, final, openStore_new (by decide), ran, ?_⟩
  rintro ⟨reopened, report, opens⟩
  rw [file, openStore_wrappedFile] at opens
  cases opens

/-! ## Opening a cut file -/

theorem longestFitting_map_frame (options : MovementStoreOptions) (room : Nat)
    (entries : List LogEntry) :
    longestFitting room (entries.map LogEntry.frame) =
      (entries.take ((logFormat options).fitting room entries)).map LogEntry.frame := by
  induction entries generalizing room with
  | nil => rfl
  | cons entry rest ih =>
      rw [List.map_cons, longestFitting, FrameFormat.fitting]
      by_cases fits : entry.frame.length ≤ room
      · have here : ((logFormat options).frame entry).length ≤ room := fits
        rw [if_pos fits, if_pos here, ih, List.take_succ_cons, List.map_cons]
        rfl
      · have here : ¬((logFormat options).frame entry).length ≤ room := fits
        rw [if_neg fits, if_neg here]
        rfl

/-- A position is a boundary exactly when the records that fit before it reach it. -/
theorem flatten_longestFitting (records : List Bytes) (count : Nat) :
    (longestFitting (records.take count).flatten.length records).flatten.length =
      (records.take count).flatten.length := by
  induction records generalizing count with
  | nil => simp [longestFitting]
  | cons record rest ih =>
      rcases count with _ | count
      · rw [List.take_zero, List.flatten_nil, List.length_nil, longestFitting]
        by_cases empty : record.length ≤ 0
        · have tail := ih 0
          rw [List.take_zero, List.flatten_nil, List.length_nil] at tail
          rw [if_pos empty, Nat.zero_sub, List.flatten_cons, List.length_append, tail]
          omega
        · rw [if_neg empty]
          rfl
      · rw [List.take_succ_cons, List.flatten_cons, List.length_append, longestFitting,
          if_pos (by omega), Nat.add_sub_cancel_left, List.flatten_cons, List.length_append, ih]

theorem longestFitting_eq_take (room : Nat) (records : List Bytes) :
    exists count, longestFitting room records = records.take count := by
  induction records generalizing room with
  | nil => exact ⟨0, rfl⟩
  | cons record rest ih =>
      rw [longestFitting]
      split
      · obtain ⟨count, found⟩ := ih (room - record.length)
        exact ⟨count + 1, by rw [found, List.take_succ_cons]⟩
      · exact ⟨0, rfl⟩

theorem isRecordBoundary_iff {file : Bytes} {position : Nat} (behind : kFileHeaderBytes ≤ position) :
    IsRecordBoundary file position ↔
      kFileHeaderBytes +
        (longestFitting (position - kFileHeaderBytes) (recordsOfFile file)).flatten.length =
          position := by
  constructor
  · rintro ⟨count, rfl⟩
    rw [Nat.add_sub_cancel_left, flatten_longestFitting]
  · intro reached
    obtain ⟨count, found⟩ :=
      longestFitting_eq_take (position - kFileHeaderBytes) (recordsOfFile file)
    exact ⟨count, by rw [← found, reached]⟩

theorem applyRecords_frames (valid : ValidLog options entries) :
    applyRecords options (entries.map LogEntry.frame) = .ok (recovered entries).contents := by
  have folded : forall (rest : List LogEntry) (state : RecoveryState),
      (forall entry, entry ∈ rest -> Readable options entry.record) ->
      (rest.map LogEntry.frame).foldlM (fun contents record =>
        applyRecord options contents (record.getD 5 0) (record.drop kRecordHeaderBytes))
        state.contents = .ok (rest.foldl RecoveryState.read state).contents := by
    intro rest
    induction rest with
    | nil =>
        intro state _
        rfl
    | cons entry rest ih =>
        intro state readable
        have kind : entry.frame.getD 5 0 = entry.record.type := by
          rw [LogEntry.frame, recordFrame, List.append_assoc]
          exact type_of_front _ _ _ _
        have payload : entry.frame.drop kRecordHeaderBytes = entry.record.payload := by
          rw [LogEntry.frame, recordFrame]
          apply List.drop_left'
          simp [Digest.width, kRecordHeaderBytes]
        have decodes := (readable entry List.mem_cons_self).decodes
        rw [List.map_cons, List.foldlM_cons, kind, payload, applyRecord, decodes]
        exact ih (state.read entry)
          (fun other member => readable other (List.mem_cons_of_mem _ member))
  exact folded entries recoveryStart (readable_of_validLog valid)

/-- Opening a header and a cut log opens the store of the entries that are whole. -/
theorem openStore_cutLog (valid : options.validate = .ok ()) (log : ValidLog options entries)
    {room : Nat} (inside : room ≤ (logBytes entries).length) :
    exists report, openStore options (fileHeader ++ (logBytes entries).take room) =
      .ok (storeOf options (entries.take ((logFormat options).fitting room entries)), report) ∧
        report.partialTailTruncated = decide
          ((logBytes (entries.take ((logFormat options).fitting room entries))).length ≠ room) := by
  generalize counted : (logFormat options).fitting room entries = count
  have fits : (logBytes (entries.take count)).length ≤ room := by
    rw [← counted]
    exact (logFormat options).encode_take_fitting_le room entries
  have unread : ((logBytes entries).take room).length = room := by
    rw [List.length_take]
    omega
  have recovery : scan (recoverStep options) room recoveryStart ((logBytes entries).take room) =
      .ok ⟨recovered (entries.take count), (logBytes (entries.take count)).length,
        decide ((logBytes (entries.take count)).length ≠ room)⟩ := by
    rw [← counted]
    exact (logFormat options).scan_cut log inside (Nat.le_refl _)
  -- whether or not a tail is cut off, what stays on disk are the whole entries
  have front : ((logBytes entries).take room).take (logBytes (entries.take count)).length =
      logBytes (entries.take count) := by
    rw [List.take_take, Nat.min_eq_left fits]
    conv =>
      lhs
      rw [← List.take_append_drop count entries, logBytes_append]
    rw [List.take_append_drop, List.take_left]
  have onDisk : (fileHeader ++ (logBytes entries).take room).take
      (kFileHeaderBytes + (logBytes (entries.take count)).length) =
      fileHeader ++ logBytes (entries.take count) := by
    rw [List.take_append, fileHeader_length, Nat.add_sub_cancel_left, front,
      List.take_of_length_le (by rw [fileHeader_length]; omega)]
  refine ⟨recoveryReport false (fileHeader ++ (logBytes entries).take room)
    ⟨recovered (entries.take count), (logBytes (entries.take count)).length,
      decide ((logBytes (entries.take count)).length ≠ room)⟩, ?_, rfl⟩
  rw [openStore_fileHeader_append valid, unread, recovery]
  have file : (if decide ((logBytes (entries.take count)).length ≠ room) = true then
      (fileHeader ++ (logBytes entries).take room).take
        (kFileHeaderBytes + (logBytes (entries.take count)).length)
      else fileHeader ++ (logBytes entries).take room) =
      fileHeader ++ logBytes (entries.take count) := by
    by_cases whole : (logBytes (entries.take count)).length = room
    · rw [if_neg (by simp [whole])]
      rw [whole, List.take_take, Nat.min_self] at front
      rw [front]
    · rw [if_pos (by simp [whole]), onDisk]
  simp only [Except.map, openedStore, file]
  rfl

/-- Crash consistency: opening the first `cut` bytes of the file recovers exactly
the longest front part of complete records, reports a torn tail exactly when the
cut is not between two records, leaves exactly those records on disk, and a second
open finds the same state and no torn tail. -/
theorem open_after_cut (options : MovementStoreOptions) (ops : List StoreOp)
    (initial final : MovementStore) (created : StoreRecoveryReport)
    (opened : openStore options [] = .ok (initial, created))
    (ran : runOps initial ops = .ok final)
    (roundTrips : forall op, op ∈ ops -> op.RoundTrips options)
    (unwrapped : NeverWraps initial ops) (cut : Nat) (behindHeader : kFileHeaderBytes ≤ cut)
    (inside : cut ≤ final.file.length) :
    exists store report, openStore options (final.file.take cut) = .ok (store, report) ∧
      applyRecords options
        (longestFitting (cut - kFileHeaderBytes) (recordsOfFile final.file)) =
          .ok store.contents ∧
      (report.partialTailTruncated = true ↔ ¬IsRecordBoundary final.file cut) ∧
      store.file = fileHeader ++
        (longestFitting (cut - kFileHeaderBytes) (recordsOfFile final.file)).flatten ∧
      exists again second, openStore options store.file = .ok (again, second) ∧
        again.contents = store.contents ∧ second.partialTailTruncated = false := by
  obtain ⟨entries, faithful⟩ := faithful_of_run opened ran roundTrips unwrapped
  have log := faithful.log
  have cutFile : final.file.take cut =
      fileHeader ++ (logBytes entries).take (cut - kFileHeaderBytes) := by
    rw [faithful.file_eq, List.take_append, fileHeader_length,
      List.take_of_length_le (by rw [fileHeader_length]; exact behindHeader)]
  have room : cut - kFileHeaderBytes ≤ (logBytes entries).length := by
    rw [faithful.file_eq, List.length_append, fileHeader_length] at inside
    omega
  -- the entries that are whole before the cut, as frames and as bytes
  let kept := entries.take ((logFormat options).fitting (cut - kFileHeaderBytes) entries)
  have keptLog : ValidLog options kept := validLog_take _ log
  have frames : longestFitting (cut - kFileHeaderBytes) (recordsOfFile final.file) =
      kept.map LogEntry.frame := by
    rw [faithful.file_eq, recordsOfFile_log log, longestFitting_map_frame options]
  have keptBytes : (kept.map LogEntry.frame).flatten = logBytes kept := by
    rw [logBytes, List.flatMap_def]
  obtain ⟨report, opens, torn⟩ := openStore_cutLog faithful.options_valid log room
  obtain ⟨second, again, intact⟩ := openStore_log faithful.options_valid keptLog
  refine ⟨storeOf options kept, report, ?_, ?_, ?_, ?_, storeOf options kept, second, again, rfl,
    intact⟩
  · rw [cutFile]
    exact opens
  · rw [frames]
    exact applyRecords_frames keptLog
  · rw [isRecordBoundary_iff behindHeader, frames, keptBytes, torn, decide_eq_true_iff]
    change (logBytes kept).length ≠ _ ↔ _
    omega
  · rw [frames, keptBytes]
    rfl

/-- The file of the short run, cut in the middle of its last record. -/
theorem open_after_cut_shortRun :
    afterShortRun.file.length = 1368 ∧
    exists store report, openStore smallOptions (afterShortRun.file.take 1300) = .ok (store, report) ∧
      applyRecords smallOptions (longestFitting (1300 - kFileHeaderBytes)
        (recordsOfFile afterShortRun.file)) = .ok store.contents ∧
      (report.partialTailTruncated = true ↔ ¬IsRecordBoundary afterShortRun.file 1300) ∧
      store.file = fileHeader ++ (longestFitting (1300 - kFileHeaderBytes)
        (recordsOfFile afterShortRun.file)).flatten ∧
      exists again second, openStore smallOptions store.file = .ok (again, second) ∧
        again.contents = store.contents ∧ second.partialTailTruncated = false := by
  have valid : smallOptions.validate = .ok () := by decide
  have ran : runOps newSmallStore shortRun = .ok afterShortRun :=
    eq_ok_valueOr newSmallStore (by decide +kernel)
  have roundTrips : forall op, op ∈ shortRun -> op.RoundTrips smallOptions := by decide +kernel
  have unwrapped : NeverWraps newSmallStore shortRun := by decide +kernel
  have size : afterShortRun.file.length = 1368 := by decide +kernel
  exact ⟨size, open_after_cut smallOptions shortRun newSmallStore afterShortRun
    _ (openStore_new valid) ran roundTrips unwrapped 1300 (by decide) (by rw [size]; decide)⟩

/-- Without the bound on the record number, the uncut file of a run need not open. -/
theorem open_refused_after_wrap :
    (forall op, op ∈ wrapRun -> op.RoundTrips smallOptions) ∧
    exists created final, openStore smallOptions [] = .ok (newSmallStore, created) ∧
      runOps newSmallStore wrapRun = .ok final ∧ kFileHeaderBytes ≤ final.file.length ∧
      ¬exists store report,
        openStore smallOptions (final.file.take final.file.length) = .ok (store, report) := by
  rcases runOps_wrapRun with ⟨final, ran, file⟩
  refine ⟨roundTrips_wrapRun, _, final, openStore_new (by decide), ran, ?_, ?_⟩
  · rw [file, wrappedFile, List.length_append, fileHeader_length]
    omega
  · rintro ⟨store, report, opens⟩
    rw [List.take_length, file, openStore_wrappedFile] at opens
    cases opens

end StateMovementFabric
