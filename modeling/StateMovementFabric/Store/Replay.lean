import StateMovementFabric.Store.Format

namespace StateMovementFabric

open Foundation

/-!
# Replaying a log

The index that recovery builds from a list of entries, the facts about it that
follow from the entries alone, and what `openStore` returns for a header followed
by entries and, possibly, by something that is not a whole entry.
-/

/-- The state in which recovery starts reading. -/
def recoveryStart : RecoveryState := ⟨0, 0, .empty⟩

/-- The recovery state after reading the given entries. -/
def recovered (entries : List LogEntry) : RecoveryState :=
  entries.foldl RecoveryState.read recoveryStart

/-- A list of entries that recovery reads from the beginning of a log. -/
def ValidLog (options : MovementStoreOptions) (entries : List LogEntry) : Prop :=
  (logFormat options).AllReady recoveryStart entries

/-- The bytes of a list of entries. -/
def logBytes (entries : List LogEntry) : Bytes := entries.flatMap LogEntry.frame

theorem logBytes_append (first second : List LogEntry) :
    logBytes (first ++ second) = logBytes first ++ logBytes second := by
  simp [logBytes]

theorem recovered_concat (entries : List LogEntry) (entry : LogEntry) :
    recovered (entries ++ [entry]) = (recovered entries).read entry := by
  simp [recovered]

theorem validLog_concat (options : MovementStoreOptions) (entries : List LogEntry)
    (entry : LogEntry) :
    ValidLog options (entries ++ [entry]) ↔
      ValidLog options entries ∧ ReadyEntry options (recovered entries) entry := by
  rw [ValidLog, FrameFormat.allReady_append]
  change _ ∧ (ReadyEntry options (recovered entries) entry ∧ True) ↔ _
  rw [and_true]
  rfl

variable {options : MovementStoreOptions} {entries : List LogEntry}

theorem validLog_append_left {first second : List LogEntry}
    (valid : ValidLog options (first ++ second)) : ValidLog options first :=
  (((logFormat options).allReady_append recoveryStart first second).mp valid).1

theorem validLog_take (count : Nat) (valid : ValidLog options entries) :
    ValidLog options (entries.take count) := by
  rw [← List.take_append_drop count entries] at valid
  exact validLog_append_left valid

/-! ## Facts about a recovered index -/

/-- Induction over a log from its front: what every read entry keeps, holds of the
whole recovery. -/
theorem recovered_induction {motive : List LogEntry -> RecoveryState -> Prop}
    (options : MovementStoreOptions) (start : motive [] recoveryStart)
    (next : forall entries entry, ReadyEntry options (recovered entries) entry ->
      motive entries (recovered entries) -> motive (entries ++ [entry]) ((recovered entries).read entry))
    (valid : ValidLog options entries) :
    motive entries (recovered entries) := by
  induction entries using List.reverseRecOn with
  | nil => exact start
  | append_singleton entries entry ih =>
      have parts := (validLog_concat options entries entry).mp valid
      rw [recovered_concat]
      exact next entries entry parts.2 (ih parts.1)

theorem recovered_consistent (valid : ValidLog options entries) :
    (recovered entries).contents.Consistent := by
  apply recovered_induction (motive := fun _ state => state.contents.Consistent) options
    StoreContents.consistent_empty
  · intro entries entry _ consistent
    exact consistent.apply entry.record
  · exact valid

theorem recovered_liveCount_le (valid : ValidLog options entries) :
    (recovered entries).contents.liveCount ≤ entries.length := by
  apply recovered_induction
    (motive := fun entries state => state.contents.liveCount ≤ entries.length) options
  · decide
  · intro entries entry _ bound
    have grows := (recovered entries).contents.liveCount_apply_le entry.record
    rw [List.length_append, List.length_singleton]
    change ((recovered entries).contents.apply entry.record).liveCount ≤ _
    omega
  · exact valid

/-- Sequence numbers start at one and increase strictly. -/
theorem length_le_sequence (valid : ValidLog options entries) :
    entries.length ≤ (recovered entries).sequence.toNat := by
  apply recovered_induction
    (motive := fun entries state => entries.length ≤ state.sequence.toNat) options
  · exact Nat.le_refl _
  · intro entries entry ready bound
    have later := UInt64.lt_iff_toNat_lt.mp ready.1
    rw [List.length_append, List.length_singleton]
    change _ ≤ entry.sequence.toNat
    omega
  · exact valid

theorem sequence_le_recovered (valid : ValidLog options entries) :
    forall entry, entry ∈ entries -> entry.sequence ≤ (recovered entries).sequence := by
  apply recovered_induction
    (motive := fun entries state => forall entry, entry ∈ entries -> entry.sequence ≤ state.sequence)
    options
  · intro entry member
    cases member
  · intro entries last ready earlier entry member
    rcases List.mem_append.mp member with before | final
    · exact UInt64.le_trans (earlier entry before) (UInt64.le_of_lt ready.1)
    · rw [List.mem_singleton.mp final]
      exact UInt64.le_refl _
  · exact valid

/-- Everything a recovered index holds can be written and read again. -/
structure LiveReadable (options : MovementStoreOptions) (contents : StoreContents) : Prop where
  movements : forall id record, contents.stored id = some record ->
    Readable options (.movement record)
  coordinatorState : forall state, contents.coordinatorState = some state ->
    Readable options (.coordinatorState state)

theorem LiveReadable.apply {contents : StoreContents} (live : LiveReadable options contents)
    {record : LogRecord} (readable : Readable options record.stored) :
    LiveReadable options (contents.apply record) := by
  cases record with
  | movement record =>
      refine ⟨?_, live.coordinatorState⟩
      intro id found member
      simp only [StoreContents.apply, StoreContents.stored_insertRecord] at member
      by_cases same : id = record.id
      · rw [if_pos same] at member
        cases member
        exact readable
      · rw [if_neg same] at member
        exact live.movements id found member
  | coordinatorState state =>
      refine ⟨live.movements, ?_⟩
      intro found member
      cases member
      exact readable
  | retire id =>
      simp only [StoreContents.apply]
      split
      · refine ⟨?_, live.coordinatorState⟩
        intro other found member
        rw [StoreContents.stored_removeRecord] at member
        by_cases same : other = id
        · rw [if_pos same] at member
          cases member
        · rw [if_neg same] at member
          exact live.movements other found member
      · exact live

theorem recovered_liveReadable (valid : ValidLog options entries) :
    LiveReadable options (recovered entries).contents := by
  apply recovered_induction (motive := fun _ state => LiveReadable options state.contents) options
  · refine ⟨?_, ?_⟩
    · intro id record found
      simp [recoveryStart, StoreContents.stored, StoreContents.empty] at found
    · intro state found
      cases found
  · intro entries entry ready live
    apply live.apply
    rw [ready.2.stored_eq]
    exact ready.2
  · exact valid

theorem LiveReadable.of_agrees {first second : StoreContents} (live : LiveReadable options second)
    (agrees : first.Agrees second) :
    LiveReadable options first := by
  refine ⟨?_, ?_⟩
  · intro id record found
    exact live.movements id record ((agrees.stored id).symm.trans found)
  · intro state found
    exact live.coordinatorState state (agrees.coordinatorState.symm.trans found)

/-! ## Opening -/

theorem fileHeader_length : fileHeader.length = kFileHeaderBytes := by
  simp [fileHeader, fileHeaderFront, kFileMagic, ascii, kFileHeaderBytes, Digest.width]

theorem checkFileHeader_fileHeader (rest : Bytes) :
    checkFileHeader (fileHeader ++ rest) = .ok () := by
  have front : (fileHeader ++ rest).take 64 = fileHeaderFront := by
    rw [fileHeader, List.append_assoc]
    exact List.take_left' rfl
  have checksum : slice (fileHeader ++ rest) 64 32 = (sha256 fileHeaderFront).bytes := by
    rw [fileHeader, List.append_assoc]
    exact slice_append_middle rfl (Digest.width _)
  have magic : (fileHeader ++ rest).take 8 = kFileMagic := rfl
  have version : loadLe (slice (fileHeader ++ rest) 8 2) = kMovementStoreFormatVersion := by
    have field : slice (fileHeader ++ rest) 8 2 = storeLe kMovementStoreFormatVersion 2 := rfl
    rw [field]
    decide
  have size : loadLe (slice (fileHeader ++ rest) 12 4) = kFileHeaderBytes := by
    have field : slice (fileHeader ++ rest) 12 4 = storeLe kFileHeaderBytes 4 := rfl
    rw [field]
    decide
  have long : ¬(fileHeader ++ rest).length < kFileHeaderBytes := by
    rw [List.length_append, fileHeader_length]
    omega
  simp only [checkFileHeader, front, checksum, magic, version, size, decide_eq_false long,
    bne_self_eq_false, refuseWhen_false, ok_bind]

/-- Opening a file that has a header is recovery of what stands behind it. -/
theorem openStore_fileHeader_append (valid : options.validate = .ok ()) (unread : Bytes) :
    openStore options (fileHeader ++ unread) =
      (scan (recoverStep options) unread.length recoveryStart unread).map (fun scanned =>
        (openedStore options (fileHeader ++ unread) scanned,
          recoveryReport false (fileHeader ++ unread) scanned)) := by
  have notEmpty : (fileHeader ++ unread).isEmpty = false := by
    rw [List.isEmpty_eq_false_iff]
    apply List.ne_nil_of_length_pos
    rw [List.length_append, fileHeader_length, kFileHeaderBytes]
    omega
  have behind : (fileHeader ++ unread).drop kFileHeaderBytes = unread :=
    List.drop_left' fileHeader_length
  simp only [openStore, valid, notEmpty, behind, checkFileHeader_fileHeader, ok_bind,
    Bool.not_false, if_true, Bool.false_eq_true, if_false]
  rfl

/-- A new store is a header and nothing else. -/
theorem openStore_new (valid : options.validate = .ok ()) :
    openStore options [] =
      .ok (⟨options, fileHeader, kFileHeaderBytes, 1, .empty⟩,
        recoveryReport true fileHeader ⟨recoveryStart, 0, false⟩) := by
  have behind : fileHeader.drop kFileHeaderBytes = [] :=
    List.drop_eq_nil_of_le (Nat.le_of_eq fileHeader_length)
  simp only [openStore, valid, List.isEmpty_nil, behind, ok_bind, if_true, Bool.not_true,
    Bool.false_eq_true, if_false, scan_nil]
  rfl

/-- The store that recovery opens on a whole log. -/
def storeOf (options : MovementStoreOptions) (entries : List LogEntry) : MovementStore where
  options := options
  file := fileHeader ++ logBytes entries
  appendOffset := kFileHeaderBytes + (logBytes entries).length
  nextSequence := (recovered entries).sequence + 1
  contents := (recovered entries).contents

/-- Opening a whole log reads all of it. -/
theorem openStore_log (valid : options.validate = .ok ()) (log : ValidLog options entries) :
    exists report, openStore options (fileHeader ++ logBytes entries) =
      .ok (storeOf options entries, report) ∧ report.partialTailTruncated = false := by
  have recovery : scan (recoverStep options) (logBytes entries).length recoveryStart
      (logBytes entries) = .ok ⟨recovered entries, (logBytes entries).length, false⟩ :=
    (logFormat options).scan_encode log ((logFormat options).length_le_encode entries)
  refine ⟨recoveryReport false (fileHeader ++ logBytes entries)
    ⟨recovered entries, (logBytes entries).length, false⟩, ?_, rfl⟩
  rw [openStore_fileHeader_append valid, recovery]
  rfl

/-- Opening a valid log fails when the bytes behind it are refused. -/
theorem openStore_refused (valid : options.validate = .ok ()) (log : ValidLog options entries)
    {rest : Bytes} {status : Status} (nonempty : rest ≠ [])
    (refused : recoverStep options (recovered entries) rest = .refused status) :
    openStore options (fileHeader ++ (logBytes entries ++ rest)) = .error status := by
  have short : entries.length ≤ (logBytes entries).length :=
    (logFormat options).length_le_encode entries
  have left : 0 < rest.length := List.length_pos_of_ne_nil nonempty
  have size : (logBytes entries ++ rest).length - entries.length =
      (logBytes entries ++ rest).length - entries.length - 1 + 1 := by
    rw [List.length_append]
    omega
  have whole : scan (recoverStep options) (logBytes entries ++ rest).length recoveryStart
      (logBytes entries ++ rest) =
      (scan (recoverStep options) ((logBytes entries ++ rest).length - entries.length)
        (recovered entries) rest).map (Scanned.shift (logBytes entries).length) :=
    (logFormat options).scan_encode_append _ rest log (by rw [List.length_append]; omega)
  rw [openStore_fileHeader_append valid, whole, size, scan_of_refused nonempty refused]
  rfl

end StateMovementFabric
