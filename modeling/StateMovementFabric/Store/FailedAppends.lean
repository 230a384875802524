import StateMovementFabric.Store.Durability

namespace StateMovementFabric

open Foundation

/-!
# Appends that fail

A failed append leaves the first bytes of its record behind the append offset, and
nothing removes them before the next append writes over them.  When the next record
is shorter, bytes of the failed one stay behind it, and recovery reads them as the
start of a record.

The results are about runs in which every append may fail after any number of its
bytes.  They say which appends are harmless in the state they start in, and that a
run of harmless appends leaves a file which opens and holds every acknowledged
record.
-/

/-! ## Runs with failures -/

/-- One call, with the outcomes of its appends.  A store that fails to reopen is
left as it was. -/
def StoreOp.attempt (op : StoreOp) (outcomes : WriteOutcomes) (store : MovementStore) :
    MovementStore × Result Unit :=
  match op with
  | .put record => store.put record outcomes
  | .retire id => store.retire id outcomes
  | .saveCoordinatorState state => store.saveCoordinatorState state outcomes
  | .compact => (store.compact, .ok ())
  | .reopen =>
      match openStore store.options store.file with
      | .ok (reopened, _) => (reopened, .ok ())
      | .error status => (store, .error status)

/-- The record that a successful call acknowledges. -/
def StoreOp.acknowledges : StoreOp -> List LogRecord
  | .put record => [.movement record]
  | .retire id => [.retire id]
  | .saveCoordinatorState state => [.coordinatorState state]
  | .compact => []
  | .reopen => []

abbrev Attempt := StoreOp × WriteOutcomes

/-! ## Harmless appends -/

/-- One append: the store it starts in, its record and its outcome. -/
structure Append where
  store : MovementStore
  record : LogRecord
  outcome : WriteOutcome

namespace Append

/-- The record as the log keeps it. -/
def storedRecord (append : Append) : LogRecord := append.record.stored

def frameLength (append : Append) : Nat := kRecordHeaderBytes + append.record.payload.length

/-- How many bytes of the record reach the file. -/
def reached (append : Append) : Nat :=
  match append.outcome with
  | .complete => append.frameLength
  | .failed reached _ => min reached append.frameLength

/-- What is left of earlier failed appends does not matter after this one: nothing
was written, or it was all written over, or it was and stays shorter than a record
header, or a whole record was written and less than a record header is left behind
it. -/
def CoversResidue (append : Append) : Prop :=
  let residue := append.store.file.length - append.store.appendOffset
  append.reached = 0 ∨ residue ≤ append.reached ∨ residue < kRecordHeaderBytes ∨
    (append.reached = append.frameLength ∧ residue < append.frameLength + kRecordHeaderBytes)

/-- The append is harmless, and the record number does not wrap. -/
def Harmless (append : Append) : Prop :=
  append.CoversResidue ∧ append.store.nextSequence.toNat + 1 < 2 ^ 64

end Append

/-- The appends that the retention loop makes. -/
def victimAppends : MovementStore -> List MovementId -> WriteOutcomes -> List Append
  | _, [], _ => []
  | store, id :: rest, outcomes =>
      ⟨store, .retire id, outcomes 0⟩ ::
        match store.appendRecord (.retire id) (outcomes 0) with
        | (appended, .ok ()) =>
            victimAppends { appended with contents := appended.contents.removeRecord id } rest
              (fun n => outcomes (n + 1))
        | (_, .error _) => []

/-- The appends of `put`: its record, then the retired victims. -/
def putAppends (store : MovementStore) (record : MovementRecord) (outcomes : WriteOutcomes) :
    List Append :=
  match record.validate with
  | .error _ => []
  | .ok () =>
      ⟨store, .movement record, outcomes 0⟩ ::
        match store.appendRecord (.movement record) (outcomes 0) with
        | (appended, .ok ()) =>
            let inserted := { appended with contents := appended.contents.insertRecord record }
            victimAppends inserted inserted.retentionVictims (fun n => outcomes (n + 1))
        | (_, .error _) => []

/-- The append of `retire`, when the movement is present. -/
def retireAppends (store : MovementStore) (id : MovementId) (outcomes : WriteOutcomes) :
    List Append :=
  if id ∉ store.contents.records then [] else [⟨store, .retire id, outcomes 0⟩]

/-- The appends that a call makes. -/
def StoreOp.appends (op : StoreOp) (outcomes : WriteOutcomes) (store : MovementStore) :
    List Append :=
  match op with
  | .put record => putAppends store record outcomes
  | .retire id => retireAppends store id outcomes
  | .saveCoordinatorState state => [⟨store, .coordinatorState state, outcomes 0⟩]
  | .compact => []
  | .reopen => []

/-- A run of calls. -/
structure StoreRun where
  store : MovementStore
  acknowledged : List LogRecord
  attempted : List LogRecord

/-- Make the calls one after the other, whether or not they succeed.  The run
remembers, in the form in which the log keeps them, the records of the calls that
returned success and the records of all appends. -/
def runAttempts : StoreRun -> List Attempt -> StoreRun
  | run, [] => run
  | run, (op, outcomes) :: rest =>
      let called := op.attempt outcomes run.store
      runAttempts
        { store := called.1
          acknowledged := run.acknowledged ++
            (if succeeded called.2 then op.acknowledges else []).map LogRecord.stored
          attempted := run.attempted ++
            (op.appends outcomes run.store).map Append.storedRecord } rest

/-- Every append of the run is harmless in the store it starts in. -/
def AllHarmless : MovementStore -> List Attempt -> Prop
  | _, [] => True
  | store, (op, outcomes) :: rest =>
      (forall append, append ∈ op.appends outcomes store -> append.Harmless) ∧
        AllHarmless (op.attempt outcomes store).1 rest

/-! ## What harmless appends leave behind the log -/

/-- A tail that recovery either drops or reads as one more whole entry, with a number
below `next` and an allowed record, followed by less than a record header. -/
def HarmlessTail (options : MovementStoreOptions) (state : RecoveryState) (next : UInt64)
    (allowed : LogRecord -> Prop) (tail : Bytes) : Prop :=
  tail.length < kRecordHeaderBytes ∨
    exists entry, ReadyEntry options state entry ∧ entry.sequence.toNat < next.toNat ∧
      allowed entry.record ∧
      ((exists cut, tail = entry.frame.take cut) ∨
        exists short, short.length < kRecordHeaderBytes ∧ tail = entry.frame ++ short)

variable {state : RecoveryState} {wider : LogRecord -> Prop} {fuel reached : Nat} {next : UInt64}
  {record : LogRecord} {cause : Status}

theorem HarmlessTail.mono {options : MovementStoreOptions} {first second : UInt64}
    {allowed : LogRecord -> Prop} {tail : Bytes}
    (harmless : HarmlessTail options state first allowed tail) (grows : first.toNat ≤ second.toNat)
    (widens : forall record, allowed record -> wider record) :
    HarmlessTail options state second wider tail := by
  rcases harmless with short | ⟨entry, ready, below, isAllowed, shape⟩
  · exact Or.inl short
  · exact Or.inr ⟨entry, ready, Nat.lt_of_lt_of_le below grows, widens _ isAllowed, shape⟩

/-- The entry that a harmless tail may hold, as a list of at most one. -/
structure TailEntries (options : MovementStoreOptions) (state : RecoveryState) (next : UInt64)
    (allowed : LogRecord -> Prop) (extra : List LogEntry) : Prop where
  atMostOne : extra.length ≤ 1
  ready : (logFormat options).AllReady state extra
  below : forall entry, entry ∈ extra -> entry.sequence.toNat < next.toNat
  allowed : forall entry, entry ∈ extra -> allowed entry.record

theorem tailEntries_nil (options : MovementStoreOptions) (state : RecoveryState) (next : UInt64)
    (allowed : LogRecord -> Prop) : TailEntries options state next allowed [] :=
  ⟨Nat.zero_le _, trivial, fun _ member => absurd member List.not_mem_nil,
    fun _ member => absurd member List.not_mem_nil⟩

theorem scan_short {options : MovementStoreOptions} {tail : Bytes}
    (short : tail.length < kRecordHeaderBytes) (enough : tail.length ≤ fuel) :
    scan (recoverStep options) fuel state tail = .ok ⟨state, 0, decide (0 ≠ tail.length)⟩ := by
  by_cases empty : tail = []
  · subst empty
    exact scan_nil _ _ _
  · have left : 0 < tail.length := List.length_pos_of_ne_nil empty
    have torn : recoverStep options state tail = .torn := by
      rw [recoverStep, if_pos short]
    rcases Nat.exists_eq_add_of_lt (Nat.lt_of_lt_of_le left enough) with ⟨rounds, rfl⟩
    rw [scan_of_torn empty torn, decide_eq_true left.ne]

/-- A whole entry followed by less than a record header. -/
theorem scan_entry_short {options : MovementStoreOptions} {entry : LogEntry}
    (ready : ReadyEntry options state entry) {short : Bytes}
    (small : short.length < kRecordHeaderBytes) (enough : (entry.frame ++ short).length ≤ fuel) :
    scan (recoverStep options) fuel state (entry.frame ++ short) =
      .ok ⟨state.read entry, entry.frame.length,
        decide (entry.frame.length ≠ (entry.frame ++ short).length)⟩ := by
  have size : 0 < entry.frame.length := by
    rw [LogEntry.frame_length, kRecordHeaderBytes]
    omega
  rw [List.length_append] at enough
  rcases Nat.exists_eq_add_of_lt (Nat.lt_of_lt_of_le size (by omega : _ ≤ fuel)) with ⟨rounds, rfl⟩
  have accepted := scan_of_consumed ((logFormat options).frame_ne_nil entry)
    (recoverStep_frame short ready)
  refine (accepted (0 + rounds)).trans ?_
  rw [scan_short small (by omega)]
  simp only [Except.map, Scanned.shift, Nat.add_zero, Except.ok.injEq, Scanned.mk.injEq, true_and]
  refine ⟨rfl, ?_⟩
  apply decide_eq_decide.mpr
  rw [List.length_append]
  omega

/-- Recovery of a harmless tail reads at most one more entry. -/
theorem scan_harmlessTail {options : MovementStoreOptions} {allowed : LogRecord -> Prop}
    {tail : Bytes} (harmless : HarmlessTail options state next allowed tail)
    (enough : tail.length ≤ fuel) :
    exists extra, TailEntries options state next allowed extra ∧ logBytes extra <+: tail ∧
      scan (recoverStep options) fuel state tail =
        .ok ⟨extra.foldl RecoveryState.read state, (logBytes extra).length,
          decide ((logBytes extra).length ≠ tail.length)⟩ := by
  have one : forall entry short, ReadyEntry options state entry ->
      entry.sequence.toNat < next.toNat -> allowed entry.record ->
      short.length < kRecordHeaderBytes -> tail = entry.frame ++ short ->
      TailEntries options state next allowed [entry] ∧ logBytes [entry] <+: tail ∧
        scan (recoverStep options) fuel state tail =
          .ok ⟨[entry].foldl RecoveryState.read state, (logBytes [entry]).length,
            decide ((logBytes [entry]).length ≠ tail.length)⟩ := by
    intro entry short ready below isAllowed small shape
    have bytes : logBytes [entry] = entry.frame := by simp [logBytes]
    refine ⟨⟨Nat.le_refl _, ⟨ready, trivial⟩, ?_, ?_⟩, ?_, ?_⟩
    · intro other member
      rw [List.mem_singleton.mp member]
      exact below
    · intro other member
      rw [List.mem_singleton.mp member]
      exact isAllowed
    · rw [bytes, shape]
      exact List.prefix_append _ _
    · rw [shape] at enough
      rw [bytes, shape]
      exact scan_entry_short ready small enough
  rcases harmless with short | ⟨entry, ready, below, isAllowed, ⟨cut, shape⟩ | ⟨short, small, shape⟩⟩
  · exact ⟨[], tailEntries_nil options state next allowed, List.nil_prefix, scan_short short enough⟩
  · by_cases inside : cut < entry.frame.length
    · -- a cut entry is dropped
      refine ⟨[], tailEntries_nil options state next allowed, List.nil_prefix, ?_⟩
      by_cases empty : tail = []
      · subst empty
        exact scan_nil _ _ _
      · have torn : recoverStep options state tail = .torn := by
          rw [shape]
          exact recoverStep_cut ready inside
        have left : 0 < tail.length := List.length_pos_of_ne_nil empty
        rcases Nat.exists_eq_add_of_lt (Nat.lt_of_lt_of_le left enough) with ⟨rounds, rfl⟩
        rw [scan_of_torn empty torn]
        simp [logBytes, left.ne]
    · -- all bytes of the entry arrived
      refine ⟨[entry], one entry [] ready below isAllowed (by decide) ?_⟩
      rw [shape, List.append_nil, List.take_of_length_le (by omega)]
  · exact ⟨[entry], one entry short ready below isAllowed small shape⟩

/-! ## The invariant -/

/-- The store with everything behind its append offset cut off. -/
def MovementStore.trimmed (store : MovementStore) : MovementStore :=
  { store with file := store.file.take store.appendOffset }

/-- The file is a faithful log followed by a harmless tail. -/
structure Recoverable (options : MovementStoreOptions) (store : MovementStore)
    (entries : List LogEntry) (allowed : LogRecord -> Prop) (tail : Bytes) : Prop where
  faithful : Faithful options store.trimmed entries
  file_eq : store.file = fileHeader ++ logBytes entries ++ tail
  harmless : HarmlessTail options (recovered entries) store.nextSequence allowed tail

namespace Recoverable

variable {options : MovementStoreOptions} {store : MovementStore} {entries : List LogEntry}
  {allowed : LogRecord -> Prop} {tail : Bytes}

theorem options_eq (recoverable : Recoverable options store entries allowed tail) :
    store.options = options :=
  recoverable.faithful.options_eq

theorem offset_eq (recoverable : Recoverable options store entries allowed tail) :
    store.appendOffset = (fileHeader ++ logBytes entries).length := by
  have offset := recoverable.faithful.offset_eq
  rw [recoverable.faithful.file_eq] at offset
  exact offset

theorem residue_eq (recoverable : Recoverable options store entries allowed tail) :
    store.file.length - store.appendOffset = tail.length := by
  rw [recoverable.file_eq, recoverable.offset_eq, List.length_append, Nat.add_sub_cancel_left]

/-- Writing at the append offset keeps the log and changes only what is behind it. -/
theorem overwrite_eq (recoverable : Recoverable options store entries allowed tail) (bytes : Bytes) :
    overwrite store.file store.appendOffset bytes =
      fileHeader ++ logBytes entries ++ (bytes ++ tail.drop bytes.length) := by
  rw [overwrite, recoverable.offset_eq, recoverable.file_eq, List.take_left, List.drop_append,
    List.drop_eq_nil_of_le (by omega), Nat.add_sub_cancel_left, List.nil_append,
    List.append_assoc (fileHeader ++ logBytes entries)]

end Recoverable

theorem Faithful.recoverable {options : MovementStoreOptions} {store : MovementStore}
    {entries : List LogEntry} (faithful : Faithful options store entries)
    (allowed : LogRecord -> Prop) : Recoverable options store entries allowed [] := by
  have same : store.trimmed = store := by
    have file : store.file.take store.appendOffset = store.file := by
      rw [faithful.offset_eq, List.take_length]
    rw [MovementStore.trimmed, file]
  refine ⟨same.symm ▸ faithful, ?_, Or.inl (by decide)⟩
  rw [List.append_nil]
  exact faithful.file_eq

theorem take_overwrite {file : Bytes} {offset : Nat} (inside : offset ≤ file.length)
    (bytes : Bytes) :
    (overwrite file offset bytes).take (offset + bytes.length) =
      overwrite (file.take offset) offset bytes := by
  have front : (file.take offset ++ bytes).length = offset + bytes.length := by
    rw [List.length_append, List.length_take, Nat.min_eq_left inside]
  have nothing : (file.take offset).drop (offset + bytes.length) = [] := by
    apply List.drop_eq_nil_of_le
    rw [List.length_take]
    omega
  rw [overwrite, List.take_left' front, overwrite, List.take_take, Nat.min_self, nothing,
    List.append_nil]

/-- A completed append that leaves less than a record header behind it extends the
log. -/
theorem Recoverable.append_complete {options : MovementStoreOptions}
    {store appended : MovementStore} {entries : List LogEntry} {allowed : LogRecord -> Prop}
    {tail : Bytes} (recoverable : Recoverable options store entries allowed tail)
    (decodes : decodeRecord options record.type record.payload = .ok record.stored)
    (harmless : (Append.mk store record .complete).Harmless)
    (success : store.appendRecord record .complete = (appended, .ok ()))
    (wider : LogRecord -> Prop) :
    Recoverable options { appended with contents := appended.contents.apply record }
      (entries ++ [⟨store.nextSequence, record.stored⟩]) wider
      (tail.drop (kRecordHeaderBytes + record.payload.length)) := by
  rcases appendRecord_complete success with ⟨bounded, rfl⟩
  rcases harmless with ⟨covers, room⟩
  have offset := recoverable.offset_eq
  have inside : store.appendOffset ≤ store.file.length := by
    rw [offset, recoverable.file_eq]
    simp only [List.length_append]
    omega
  have trimmedSuccess : store.trimmed.appendRecord record .complete =
      ({ store.trimmed with
          file := overwrite store.trimmed.file store.appendOffset
            (recordFrame record.type store.nextSequence record.payload)
          appendOffset := store.appendOffset +
            (recordFrame record.type store.nextSequence record.payload).length
          nextSequence := store.nextSequence + 1 }, .ok ()) := by
    have small : ¬record.payload.length > store.trimmed.options.maxRecordBytes.toNat :=
      Nat.not_lt.mpr bounded
    rw [MovementStore.appendRecord, if_neg small]
    rfl
  have kept := recoverable.faithful.append record decodes room trimmedSuccess
  refine ⟨?_, ?_, ?_⟩
  · rw [MovementStore.trimmed, take_overwrite inside]
    exact kept
  · change overwrite store.file store.appendOffset _ = _
    rw [recoverable.overwrite_eq, logBytes_append]
    simp [logBytes, LogEntry.frame, kRecordHeaderBytes]
  · left
    rw [List.length_drop]
    have size := recoverable.residue_eq
    simp only [Append.CoversResidue, Append.reached, Append.frameLength, size] at covers
    have positive : 0 < kRecordHeaderBytes := by decide
    rcases covers with none | covered | short | ⟨_, left⟩ <;> omega

/-- What a failed append does. -/
theorem appendRecord_failed {store appended : MovementStore} {status : Result Unit}
    (result : store.appendRecord record (.failed reached cause) = (appended, status)) :
    appended = store ∨
      (record.payload.length ≤ store.options.maxRecordBytes.toNat ∧
        appended = { store with
          file := overwrite store.file store.appendOffset
            ((recordFrame record.type store.nextSequence record.payload).take reached)
          nextSequence := store.nextSequence + 1 }) := by
  unfold MovementStore.appendRecord at result
  split at result
  · cases result
    exact Or.inl rfl
  · rename_i bounded
    cases result
    exact Or.inr ⟨Nat.le_of_not_lt bounded, rfl⟩

/-- A failed append that covers the residue leaves a harmless tail. -/
theorem Recoverable.append_failed {options : MovementStoreOptions} {store appended : MovementStore}
    {entries : List LogEntry} {allowed : LogRecord -> Prop} {tail : Bytes}
    (recoverable : Recoverable options store entries allowed tail) {status : Result Unit}
    (decodes : decodeRecord options record.type record.payload = .ok record.stored)
    (harmless : (Append.mk store record (.failed reached cause)).Harmless)
    (result : store.appendRecord record (.failed reached cause) = (appended, status))
    (widens : forall other, allowed other -> wider other) (covers : wider record.stored) :
    exists leftover, Recoverable options appended entries wider leftover := by
  rcases appendRecord_failed result with same | ⟨bounded, rfl⟩
  · rw [same]
    exact ⟨tail, recoverable.faithful, recoverable.file_eq,
      recoverable.harmless.mono (Nat.le_refl _) widens⟩
  · rcases harmless with ⟨covered, room⟩
    change store.nextSequence.toNat + 1 < 2 ^ 64 at room
    have next := toNat_add_one room
    have faithful := recoverable.faithful
    have offset := recoverable.offset_eq
    let entry : LogEntry := ⟨store.nextSequence, record.stored⟩
    have frame : recordFrame record.type store.nextSequence record.payload = entry.frame := by
      simp [entry, LogEntry.frame]
    have ready : ReadyEntry options (recovered entries) entry := by
      refine ⟨UInt64.lt_iff_toNat_lt.mpr faithful.sequence_lt, record.stored_stored, ?_, ?_⟩
      · rw [LogRecord.stored_payload, ← recoverable.options_eq]
        exact bounded
      · rw [LogRecord.stored_type, LogRecord.stored_payload]
        exact decodes
    have frameSize : entry.frame.length = kRecordHeaderBytes + record.payload.length := by
      rw [LogEntry.frame_length, LogRecord.stored_payload]
    have written : (entry.frame.take reached).length =
        min reached (kRecordHeaderBytes + record.payload.length) := by
      rw [List.length_take, frameSize]
    have file := recoverable.overwrite_eq (entry.frame.take reached)
    have untouched : (overwrite store.file store.appendOffset (entry.frame.take reached)).take
        store.appendOffset = store.file.take store.appendOffset := by
      rw [file, offset, List.take_left, recoverable.file_eq, List.take_left]
    have base : Faithful options { store.trimmed with nextSequence := store.nextSequence + 1 }
        entries := by
      have grows : store.nextSequence.toNat ≤ (store.nextSequence + 1).toNat := by omega
      exact ⟨faithful.options_eq, faithful.options_valid, faithful.file_eq, faithful.offset_eq,
        faithful.log, Nat.lt_of_lt_of_le faithful.sequence_lt grows, faithful.agrees,
        Nat.lt_of_lt_of_le faithful.counted grows⟩
    refine ⟨entry.frame.take reached ++ tail.drop (entry.frame.take reached).length, ?_, ?_, ?_⟩
    · rw [frame, MovementStore.trimmed, untouched]
      exact base
    · rw [frame]
      exact file
    · change HarmlessTail options (recovered entries) (store.nextSequence + 1) wider _
      have size := recoverable.residue_eq
      simp only [Append.CoversResidue, Append.reached, Append.frameLength, size] at covered
      have below : entry.sequence.toNat < (store.nextSequence + 1).toNat := by
        change store.nextSequence.toNat < _
        omega
      by_cases overwritten : tail.length ≤ min reached (kRecordHeaderBytes + record.payload.length)
      · -- all of the residue is written over: the tail is a cut of the new record
        refine Or.inr ⟨entry, ready, below, covers, Or.inl ⟨reached, ?_⟩⟩
        rw [written, List.drop_eq_nil_of_le overwritten, List.append_nil]
      · rcases covered with none | impossible | short | ⟨whole, left⟩
        · -- nothing was written
          have nothing : entry.frame.take reached = [] := by
            apply List.eq_nil_of_length_eq_zero
            rw [written, none]
          rw [nothing, List.nil_append, List.length_nil, List.drop_zero]
          exact recoverable.harmless.mono (by omega) widens
        · exact absurd impossible overwritten
        · -- the residue is shorter than a header, and stays so
          left
          rw [List.length_append, List.length_drop, written]
          omega
        · -- the whole record was written, and little is left behind it
          have all : entry.frame.take reached = entry.frame := by
            apply List.take_of_length_le
            rw [frameSize]
            omega
          refine Or.inr ⟨entry, ready, below, covers, Or.inr ⟨tail.drop entry.frame.length, ?_, ?_⟩⟩
          · rw [List.length_drop, frameSize]
            omega
          · rw [all]

/-! ## Which records are in effect -/

/-- The store is recoverable, and its index is that of the records `logged`, applied
in order.  These are among the records that were attempted, and so is the record that
the tail may hold. -/
structure Tracked (options : MovementStoreOptions) (store : MovementStore)
    (logged attempted : List LogRecord) : Prop where
  recoverable : exists entries tail, Recoverable options store entries
    (fun record => (logged ++ [record]).Sublist attempted) tail
  agrees : store.contents.Agrees (StoreContents.empty.applyAll logged)
  among : logged.Sublist attempted

theorem applyAll_concat (contents : StoreContents) (records : List LogRecord)
    (record : LogRecord) :
    contents.applyAll (records ++ [record]) = (contents.applyAll records).apply record.stored := by
  simp [StoreContents.applyAll]

namespace Tracked

variable {options : MovementStoreOptions} {store appended : MovementStore}
  {logged attempted : List LogRecord} {outcome : WriteOutcome}

theorem consistent (tracked : Tracked options store logged attempted) :
    store.contents.Consistent := by
  rcases tracked.recoverable with ⟨entries, tail, recoverable⟩
  exact recoverable.faithful.consistent

theorem options_eq (tracked : Tracked options store logged attempted) :
    store.options = options := by
  rcases tracked.recoverable with ⟨entries, tail, recoverable⟩
  exact recoverable.options_eq

/-- Records may be attempted without any effect. -/
theorem widen (tracked : Tracked options store logged attempted) (record : LogRecord) :
    Tracked options store logged (attempted ++ [record]) := by
  rcases tracked.recoverable with ⟨entries, tail, recoverable⟩
  refine ⟨⟨entries, tail, recoverable.faithful, recoverable.file_eq, ?_⟩, tracked.agrees, ?_⟩
  · exact recoverable.harmless.mono (Nat.le_refl _)
      (fun _ among => among.trans (List.sublist_append_left _ _))
  · exact tracked.among.trans (List.sublist_append_left _ _)

/-- An append that reports success logs its record. -/
theorem append_ok (tracked : Tracked options store logged attempted) (record : LogRecord)
    (decodes : record.payload.length ≤ options.maxRecordBytes.toNat ->
      decodeRecord options record.type record.payload = .ok record.stored)
    (harmless : (Append.mk store record outcome).Harmless)
    (success : store.appendRecord record outcome = (appended, .ok ())) :
    appended.contents = store.contents ∧
      Tracked options { appended with contents := appended.contents.apply record }
        (logged ++ [record.stored]) (attempted ++ [record.stored]) := by
  cases outcome with
  | failed reached cause =>
      unfold MovementStore.appendRecord at success
      split at success <;> cases success
  | complete =>
      rcases tracked.recoverable with ⟨entries, tail, recoverable⟩
      rcases appendRecord_complete success with ⟨bounded, shape⟩
      have same : appended.contents = store.contents := by rw [shape]
      rw [recoverable.options_eq] at bounded
      refine ⟨same, ⟨_, _, recoverable.append_complete (decodes bounded) harmless success _⟩, ?_,
        tracked.among.append_right _⟩
      rw [applyAll_concat, LogRecord.stored_stored]
      change (appended.contents.apply record).Agrees _
      rw [same]
      exact tracked.agrees.apply record

variable {status : Status}

/-- An append that reports an error logs nothing. -/
theorem append_error (tracked : Tracked options store logged attempted) (record : LogRecord)
    (decodes : record.payload.length ≤ options.maxRecordBytes.toNat ->
      decodeRecord options record.type record.payload = .ok record.stored)
    (harmless : (Append.mk store record outcome).Harmless)
    (failure : store.appendRecord record outcome = (appended, .error status)) :
    Tracked options appended logged (attempted ++ [record.stored]) := by
  rcases tracked.recoverable with ⟨entries, tail, recoverable⟩
  cases outcome with
  | complete =>
      unfold MovementStore.appendRecord at failure
      split at failure
      · cases failure
        exact tracked.widen record.stored
      · cases failure
  | failed reached cause =>
      rcases appendRecord_failed failure with same | ⟨bounded, shape⟩
      · rw [same]
        exact tracked.widen record.stored
      · rw [recoverable.options_eq] at bounded
        have kept := recoverable.append_failed (decodes bounded) harmless failure
          (fun _ among => among.trans (List.sublist_append_left attempted [record.stored]))
          (tracked.among.append_right [record.stored])
        refine ⟨⟨entries, kept⟩, ?_, tracked.among.trans (List.sublist_append_left _ _)⟩
        rw [shape]
        exact tracked.agrees

/-! ## Each call keeps the invariant -/

/-- After a call that tried to append `tried`, some more records are logged, the
acknowledged ones among them when the call succeeded. -/
def AfterCall (options : MovementStoreOptions) (logged attempted : List LogRecord)
    (tried acknowledged : List LogRecord) (result : MovementStore × Result Unit) : Prop :=
  exists added, Tracked options result.1 (logged ++ added) (attempted ++ tried) ∧
    (succeeded result.2 = true -> acknowledged.Sublist added)

/-- A call that fails without logging anything. -/
theorem afterCall_error {tried acknowledged : List LogRecord}
    (tracked : Tracked options store logged (attempted ++ tried)) :
    AfterCall options logged attempted tried acknowledged (store, .error status) := by
  refine ⟨[], ?_, ?_⟩
  · rw [List.append_nil]
    exact tracked
  · intro impossible
    cases impossible

theorem retireVictims (tracked : Tracked options store logged attempted)
    (victims : List MovementId) (outcomes : WriteOutcomes)
    (harmless : forall append, append ∈ victimAppends store victims outcomes -> append.Harmless) :
    exists added, Tracked options (store.retireVictims victims outcomes).1 (logged ++ added)
      (attempted ++ (victimAppends store victims outcomes).map Append.storedRecord) := by
  induction victims generalizing store logged attempted outcomes with
  | nil =>
      refine ⟨[], ?_⟩
      rw [List.append_nil, victimAppends, List.map_nil, List.append_nil]
      exact tracked
  | cons id rest ih =>
      have first := harmless _ List.mem_cons_self
      rcases appending : store.appendRecord (.retire id) (outcomes 0) with ⟨appended, status | _⟩
      · refine ⟨[], ?_⟩
        rw [List.append_nil, MovementStore.retireVictims, victimAppends, appending]
        exact tracked.append_error (.retire id) (decodeRecord_retire id) first appending
      · rcases tracked.append_ok (.retire id) (decodeRecord_retire id) first appending with
          ⟨same, kept⟩
        rw [same, tracked.consistent.apply_retire id] at kept
        have later : forall append, append ∈ victimAppends
            { appended with contents := appended.contents.removeRecord id } rest
            (fun n => outcomes (n + 1)) -> append.Harmless := by
          intro append member
          apply harmless append
          rw [victimAppends, appending]
          exact List.mem_cons_of_mem _ member
        rw [same] at later
        rcases ih kept (fun n => outcomes (n + 1)) later with ⟨added, final⟩
        refine ⟨.retire id :: added, ?_⟩
        rw [MovementStore.retireVictims, victimAppends, appending]
        rw [List.append_assoc, List.append_assoc, List.singleton_append, List.singleton_append]
          at final
        simp only [same]
        exact final

theorem put (tracked : Tracked options store logged attempted) (record : MovementRecord)
    (outcomes : WriteOutcomes) (roundTrips : (StoreOp.put record).RoundTrips options)
    (harmless : forall append, append ∈ putAppends store record outcomes -> append.Harmless) :
    AfterCall options logged attempted ((putAppends store record outcomes).map Append.storedRecord)
      [(LogRecord.movement record).stored] (store.put record outcomes) := by
  unfold MovementStore.put
  unfold putAppends at harmless ⊢
  cases valid : record.validate with
  | error status =>
      apply afterCall_error
      rw [List.map_nil, List.append_nil]
      exact tracked
  | ok _ =>
      rw [valid] at harmless
      have first := harmless _ List.mem_cons_self
      rcases appending : store.appendRecord (.movement record) (outcomes 0) with
        ⟨appended, status | _⟩
      · exact afterCall_error
          (tracked.append_error (.movement record) (fun _ => roundTrips) first appending)
      · rcases tracked.append_ok (.movement record) (fun _ => roundTrips) first appending with
          ⟨_, kept⟩
        have later : forall append, append ∈ victimAppends
            { appended with contents := appended.contents.insertRecord record }
            { appended with contents := appended.contents.insertRecord record }.retentionVictims
            (fun n => outcomes (n + 1)) -> append.Harmless := by
          intro append member
          apply harmless append
          rw [appending]
          exact List.mem_cons_of_mem _ member
        rcases retireVictims kept _ _ later with ⟨added, final⟩
        rw [List.append_assoc, List.append_assoc, List.singleton_append, List.singleton_append]
          at final
        exact ⟨(LogRecord.movement record).stored :: added, final,
          fun _ => List.Sublist.cons_cons _ (List.nil_sublist _)⟩

/-- A call that makes one append and applies its record. -/
theorem single (tracked : Tracked options store logged attempted) (record : LogRecord)
    (decodes : record.payload.length ≤ options.maxRecordBytes.toNat ->
      decodeRecord options record.type record.payload = .ok record.stored)
    (harmless : (Append.mk store record outcome).Harmless) {result : MovementStore × Result Unit}
    (calls : result = match store.appendRecord record outcome with
      | (appended, .error status) => (appended, .error status)
      | (appended, .ok ()) =>
          ({ appended with contents := appended.contents.apply record }, .ok ())) :
    AfterCall options logged attempted [record.stored] [record.stored] result := by
  rw [calls]
  rcases appending : store.appendRecord record outcome with ⟨appended, status | _⟩
  · exact afterCall_error (tracked.append_error record decodes harmless appending)
  · exact ⟨[record.stored], (tracked.append_ok record decodes harmless appending).2,
      fun _ => List.Sublist.refl _⟩

theorem retire (tracked : Tracked options store logged attempted) (id : MovementId)
    (outcomes : WriteOutcomes)
    (harmless : forall append, append ∈ retireAppends store id outcomes -> append.Harmless) :
    AfterCall options logged attempted ((retireAppends store id outcomes).map Append.storedRecord)
      [LogRecord.retire id] (store.retire id outcomes) := by
  unfold retireAppends at harmless ⊢
  by_cases present : id ∈ store.contents.records
  · rw [if_neg (not_not.mpr present)] at harmless ⊢
    have first := harmless _ List.mem_cons_self
    apply tracked.single (.retire id) (decodeRecord_retire id) first
    rw [MovementStore.retire, if_neg (not_not.mpr present)]
    rcases appending : store.appendRecord (.retire id) (outcomes 0) with ⟨appended, status | _⟩
    · rfl
    · rcases tracked.append_ok (.retire id) (decodeRecord_retire id) first appending with
        ⟨same, _⟩
      simp only [same, tracked.consistent.apply_retire id]
  · rw [MovementStore.retire, if_pos present, if_pos present]
    apply afterCall_error
    rw [List.map_nil, List.append_nil]
    exact tracked

theorem compact (tracked : Tracked options store logged attempted) :
    Tracked options store.compact logged attempted := by
  rcases tracked.recoverable with ⟨entries, tail, recoverable⟩
  have compacted : Faithful options store.compact
      (numberFrom 1 (MovementStore.liveRecords store.contents)) :=
    recoverable.faithful.compact
  exact ⟨⟨_, _, compacted.recoverable _⟩, tracked.agrees, tracked.among⟩

end Tracked

/-! ## Opening after failures -/

theorem foldl_read_append (entries extra : List LogEntry) :
    extra.foldl RecoveryState.read (recovered entries) = recovered (entries ++ extra) := by
  rw [recovered, recovered, List.foldl_append]

/-- Opening a recoverable file reads its log and at most one more entry. -/
theorem Recoverable.opens {options : MovementStoreOptions} {store : MovementStore}
    {entries : List LogEntry} {allowed : LogRecord -> Prop} {tail : Bytes}
    (recoverable : Recoverable options store entries allowed tail) :
    exists extra report, TailEntries options (recovered entries) store.nextSequence allowed extra ∧
      openStore options store.file = .ok (storeOf options (entries ++ extra), report) := by
  have faithful := recoverable.faithful
  have file : store.file = fileHeader ++ (logBytes entries ++ tail) := by
    rw [recoverable.file_eq, List.append_assoc]
  have rounds : entries.length ≤ (logBytes entries).length :=
    (logFormat options).length_le_encode entries
  have whole : scan (recoverStep options) (logBytes entries ++ tail).length recoveryStart
      (logBytes entries ++ tail) =
      (scan (recoverStep options) ((logBytes entries ++ tail).length - entries.length)
        (recovered entries) tail).map (Scanned.shift (logBytes entries).length) :=
    (logFormat options).scan_encode_append _ tail faithful.log
      (by rw [List.length_append]; omega)
  have enough : tail.length ≤ (logBytes entries ++ tail).length - entries.length := by
    rw [List.length_append]
    omega
  rcases scan_harmlessTail recoverable.harmless enough with ⟨extra, tailEntries, front, scanned⟩
  rcases front with ⟨dropped, rfl⟩
  rw [foldl_read_append] at scanned
  rw [scanned] at whole
  have total : (logBytes (entries ++ extra)).length =
      (logBytes entries).length + (logBytes extra).length := by
    rw [logBytes_append, List.length_append]
  have onDisk : (fileHeader ++ (logBytes entries ++ (logBytes extra ++ dropped))).take
      (kFileHeaderBytes + ((logBytes entries).length + (logBytes extra).length)) =
      fileHeader ++ logBytes (entries ++ extra) := by
    rw [logBytes_append, ← List.append_assoc (logBytes entries), ← List.append_assoc fileHeader]
    apply List.take_left'
    rw [List.length_append, List.length_append, fileHeader_length]
  refine ⟨extra, recoveryReport false store.file ⟨recovered (entries ++ extra),
    (logBytes entries).length + (logBytes extra).length,
    decide ((logBytes extra).length ≠ (logBytes extra ++ dropped).length)⟩, tailEntries, ?_⟩
  rw [file, openStore_fileHeader_append faithful.options_valid, whole]
  have left : (if decide ((logBytes extra).length ≠ (logBytes extra ++ dropped).length) = true then
      (fileHeader ++ (logBytes entries ++ (logBytes extra ++ dropped))).take
        (kFileHeaderBytes + ((logBytes entries).length + (logBytes extra).length))
      else fileHeader ++ (logBytes entries ++ (logBytes extra ++ dropped))) =
      fileHeader ++ logBytes (entries ++ extra) := by
    split
    · exact onDisk
    · rename_i all
      have nothing : dropped = [] := by
        apply List.eq_nil_of_length_eq_zero
        simp only [decide_eq_true_eq, not_not, List.length_append] at all
        omega
      rw [nothing, List.append_nil, logBytes_append]
  simp only [Except.map, Scanned.shift, openedStore, left]
  rw [storeOf, total]

/-- The index that the log and the entry of the tail give. -/
theorem TailEntries.agrees {options : MovementStoreOptions} {contents : StoreContents}
    {entries extra : List LogEntry} {allowed : LogRecord -> Prop}
    (tailEntries : TailEntries options (recovered entries) next allowed extra)
    {logged : List LogRecord} (log : (recovered entries).contents.Agrees contents)
    (agrees : contents.Agrees (StoreContents.empty.applyAll logged)) :
    (recovered (entries ++ extra)).contents.Agrees
      (StoreContents.empty.applyAll (logged ++ extra.map LogEntry.record)) := by
  rcases extra with _ | ⟨entry, _ | ⟨second, rest⟩⟩
  · simp only [List.map_nil, List.append_nil]
    exact log.trans agrees
  · rw [recovered_concat, List.map_singleton, applyAll_concat]
    exact (log.trans agrees).apply entry.record
  · have one := tailEntries.atMostOne
    simp at one

/-- Opening a tracked store succeeds and keeps every logged record. -/
theorem Tracked.reopen {options : MovementStoreOptions} {store : MovementStore}
    {logged attempted : List LogRecord} (tracked : Tracked options store logged attempted) :
    exists reopened report added, openStore options store.file = .ok (reopened, report) ∧
      Tracked options reopened (logged ++ added) attempted := by
  rcases tracked.recoverable with ⟨entries, tail, recoverable⟩
  rcases recoverable.opens with ⟨extra, report, tailEntries, opened⟩
  have faithful := recoverable.faithful
  have bound := store.nextSequence.toNat_lt
  have log : ValidLog options (entries ++ extra) :=
    ((logFormat options).allReady_append _ _ _).mpr ⟨faithful.log, tailEntries.ready⟩
  have below : (recovered (entries ++ extra)).sequence.toNat < store.nextSequence.toNat ∧
      (logged ++ extra.map LogEntry.record).Sublist attempted := by
    rcases extra with _ | ⟨entry, _ | ⟨second, rest⟩⟩
    · rw [List.append_nil, List.map_nil, List.append_nil]
      exact ⟨faithful.sequence_lt, tracked.among⟩
    · rw [recovered_concat]
      exact ⟨tailEntries.below entry List.mem_cons_self,
        tailEntries.allowed entry List.mem_cons_self⟩
    · have one := tailEntries.atMostOne
      simp at one
  refine ⟨_, report, extra.map LogEntry.record, opened,
    ⟨entries ++ extra, [], (faithful_storeOf faithful.options_valid log ?_).recoverable _⟩, ?_,
    below.2⟩
  · have := below.1
    omega
  · exact tailEntries.agrees faithful.agrees.symm tracked.agrees

/-! ## Whole runs -/

/-- Any call keeps the invariant. -/
theorem Tracked.attempt {options : MovementStoreOptions} {store : MovementStore}
    {logged attempted : List LogRecord} (tracked : Tracked options store logged attempted)
    (op : StoreOp) (outcomes : WriteOutcomes) (roundTrips : op.RoundTrips options)
    (harmless : forall append, append ∈ op.appends outcomes store -> append.Harmless) :
    AfterCall options logged attempted ((op.appends outcomes store).map Append.storedRecord)
      (op.acknowledges.map LogRecord.stored) (op.attempt outcomes store) := by
  cases op with
  | put record => exact tracked.put record outcomes roundTrips harmless
  | retire id => exact tracked.retire id outcomes harmless
  | saveCoordinatorState state =>
      exact tracked.single (.coordinatorState state) (fun _ => roundTrips)
        (harmless _ List.mem_cons_self) rfl
  | compact =>
      refine ⟨[], ?_, fun _ => List.nil_sublist _⟩
      rw [List.append_nil, StoreOp.appends, List.map_nil, List.append_nil]
      exact tracked.compact
  | reopen =>
      rcases tracked.reopen with ⟨reopened, report, added, opened, kept⟩
      refine ⟨added, ?_, fun _ => List.nil_sublist _⟩
      rw [StoreOp.appends, List.map_nil, List.append_nil, StoreOp.attempt, tracked.options_eq,
        opened]
      exact kept

/-- A run of harmless appends keeps the invariant, and logs what it acknowledges. -/
theorem Tracked.runAttempts {options : MovementStoreOptions} (run : StoreRun)
    {logged : List LogRecord} (tracked : Tracked options run.store logged run.attempted)
    (acknowledged : run.acknowledged.Sublist logged) (attempts : List Attempt)
    (roundTrips : forall attempt, attempt ∈ attempts -> attempt.1.RoundTrips options)
    (harmless : AllHarmless run.store attempts) :
    exists kept, Tracked options (runAttempts run attempts).store kept
        (runAttempts run attempts).attempted ∧
      (StateMovementFabric.runAttempts run attempts).acknowledged.Sublist kept := by
  induction attempts generalizing run logged with
  | nil => exact ⟨logged, tracked, acknowledged⟩
  | cons attempt rest ih =>
      rcases attempt with ⟨op, outcomes⟩
      rcases harmless with ⟨here, later⟩
      rcases tracked.attempt op outcomes (roundTrips _ List.mem_cons_self) here with
        ⟨added, next, includes⟩
      refine ih _ next (acknowledged.append ?_)
        (fun other member => roundTrips other (List.mem_cons_of_mem _ member)) later
      by_cases success : succeeded (op.attempt outcomes run.store).2 = true
      · rw [if_pos success]
        exact includes success
      · rw [if_neg success]
        exact List.nil_sublist _

/-- Failed appends do not harm the log as long as each append covers the residue of
the failed ones before it: the file opens, every acknowledged record is recovered, and
nothing that no call appended is. -/
theorem acknowledged_recovered (options : MovementStoreOptions) (attempts : List Attempt)
    (initial : MovementStore) (created : StoreRecoveryReport)
    (opened : openStore options [] = .ok (initial, created))
    (roundTrips : forall attempt, attempt ∈ attempts -> attempt.1.RoundTrips options)
    (harmless : AllHarmless initial attempts) :
    exists reopened report kept,
      openStore options (runAttempts ⟨initial, [], []⟩ attempts).store.file =
        .ok (reopened, report) ∧
      reopened.contents.Agrees (StoreContents.empty.applyAll kept) ∧
      (runAttempts ⟨initial, [], []⟩ attempts).acknowledged.Sublist kept ∧
      kept.Sublist (runAttempts ⟨initial, [], []⟩ attempts).attempted := by
  have faithful := faithful_of_opened_new opened
  have start : Tracked options initial [] [] :=
    ⟨⟨_, _, faithful.recoverable _⟩, faithful.agrees, List.Sublist.refl _⟩
  rcases Tracked.runAttempts ⟨initial, [], []⟩ start (List.Sublist.refl _) attempts roundTrips
    harmless with ⟨logged, tracked, acknowledged⟩
  rcases tracked.reopen with ⟨reopened, report, added, opens, final⟩
  exact ⟨reopened, report, logged ++ added, opens, final.agrees,
    acknowledged.trans (List.sublist_append_left _ _), final.among⟩

instance (append : Append) : Decidable append.Harmless :=
  inferInstanceAs (Decidable ((_ = _ ∨ _ ≤ _ ∨ _ < _ ∨ (_ = _ ∧ _ < _)) ∧ _ < _))

/-- Decides `AllHarmless` by following the run. -/
def decidableAllHarmless : (store : MovementStore) -> (attempts : List Attempt) ->
    Decidable (AllHarmless store attempts)
  | _, [] => .isTrue trivial
  | store, (op, outcomes) :: rest =>
      have := decidableAllHarmless (op.attempt outcomes store).1 rest
      inferInstanceAs (Decidable ((forall append, append ∈ op.appends outcomes store ->
        append.Harmless) ∧ _))

instance (store : MovementStore) (attempts : List Attempt) :
    Decidable (AllHarmless store attempts) :=
  decidableAllHarmless store attempts

/-- The first append of the call stops after `reached` bytes. -/
def stopsAfter (reached : Nat) : WriteOutcomes :=
  fun _ => .failed reached (.of .STORE_IO_ERROR "short write")

/-- A put that stops within its record header, and the same put again. -/
def retriedPut : List Attempt :=
  [(.put (oneByteMovement .PLANNED), stopsAfter 20), (.put (oneByteMovement .PLANNED), noFailure)]

theorem acknowledged_recovered_retriedPut :
    (runAttempts ⟨newSmallStore, [], []⟩ retriedPut).acknowledged.length = 1 ∧
    exists reopened report kept,
      openStore smallOptions (runAttempts ⟨newSmallStore, [], []⟩ retriedPut).store.file =
        .ok (reopened, report) ∧
      reopened.contents.Agrees (StoreContents.empty.applyAll kept) ∧
      (runAttempts ⟨newSmallStore, [], []⟩ retriedPut).acknowledged.Sublist kept ∧
      kept.Sublist (runAttempts ⟨newSmallStore, [], []⟩ retriedPut).attempted := by
  have valid : smallOptions.validate = .ok () := by decide
  have roundTrips : forall attempt, attempt ∈ retriedPut ->
      attempt.1.RoundTrips smallOptions := by
    decide +kernel
  have harmless : AllHarmless newSmallStore retriedPut := by decide +kernel
  exact ⟨by decide +kernel, acknowledged_recovered smallOptions retriedPut newSmallStore _
    (openStore_new valid) roundTrips harmless⟩

/-! ## A residue that is read as a record -/

/-- A put whose sync fails, and a save of the coordinator state. -/
def putThenSave : List Attempt :=
  [(.put (oneByteMovement .PLANNED), stopsAfter 4096),
    (.saveCoordinatorState savedState, noFailure)]

theorem recordFrame_drop (type : Byte) (sequence : UInt64) (payload : Bytes) (count : Nat) :
    (recordFrame type sequence payload).drop (kRecordHeaderBytes + count) = payload.drop count := by
  have front : (recordHeaderFront type sequence payload.length ++
      (recordChecksum (recordHeaderFront type sequence payload.length) payload).bytes).length =
      kRecordHeaderBytes := by
    simp [Digest.width, kRecordHeaderBytes]
  rw [recordFrame, List.drop_append, front, Nat.add_sub_cancel_left,
    List.drop_eq_nil_of_le (by omega), List.nil_append]

/-- The save is followed by the rest of the longer record that failed. -/
theorem file_putThenSave :
    (runAttempts ⟨newSmallStore, [], []⟩ putThenSave).store.file =
      fileHeader ++ (logBytes [⟨2, .coordinatorState savedState⟩] ++
        (oneByteMovement .PLANNED).encode.drop 72) := by
  let frame := recordFrame 1 1 (oneByteMovement .PLANNED).encode
  have valid : (oneByteMovement .PLANNED).validate = .ok () := by decide +kernel
  have bounded : ¬(oneByteMovement .PLANNED).encode.length > 4096 := by decide +kernel
  have short : ¬savedState.encode.length > 4096 := by decide +kernel
  have inside : frame.length ≤ 4096 := by decide +kernel
  have firstFile : overwrite fileHeader kFileHeaderBytes (frame.take 4096) =
      fileHeader ++ frame := by
    rw [List.take_of_length_le inside, ← fileHeader_length, overwrite_at_end]
  have first : (StoreOp.put (oneByteMovement .PLANNED)).attempt (stopsAfter 4096) newSmallStore =
      (⟨smallOptions, fileHeader ++ frame, kFileHeaderBytes, 2, .empty⟩,
        .error (.of .STORE_IO_ERROR "short write")) := by
    have fits : ¬(LogRecord.movement (oneByteMovement .PLANNED)).payload.length >
        newSmallStore.options.maxRecordBytes.toNat := bounded
    simp only [StoreOp.attempt, MovementStore.put, valid, MovementStore.appendRecord, if_neg fits,
      stopsAfter]
    rw [← firstFile]
    rfl
  have second : ((StoreOp.saveCoordinatorState savedState).attempt noFailure
      ⟨smallOptions, fileHeader ++ frame, kFileHeaderBytes, 2, .empty⟩).1.file =
      overwrite (fileHeader ++ frame) kFileHeaderBytes (recordFrame 2 2 savedState.encode) := by
    have fits : ¬savedState.encode.length > smallOptions.maxRecordBytes.toNat := short
    simp only [StoreOp.attempt, MovementStore.saveCoordinatorState, MovementStore.appendRecord,
      noFailure, LogRecord.type, LogRecord.payload, fits, if_false]
  have size : kFileHeaderBytes + (recordFrame 2 2 savedState.encode).length =
      fileHeader.length + (kRecordHeaderBytes + 72) := by
    decide +kernel
  simp only [putThenSave, runAttempts, first, second]
  rw [overwrite, size, ← fileHeader_length, List.take_left, List.drop_append,
    List.drop_eq_nil_of_le (by omega), Nat.add_sub_cancel_left, recordFrame_drop]
  simp [logBytes, LogEntry.frame, LogRecord.type, LogRecord.payload]

/-- The conclusion of `acknowledged_recovered` fails when a shorter record follows a
failed longer one: the acknowledged save is in the file, and the store refuses it. -/
theorem open_refused_after_failed_put :
    (forall attempt, attempt ∈ putThenSave -> attempt.1.RoundTrips smallOptions) ∧
    (exists created, openStore smallOptions [] = .ok (newSmallStore, created)) ∧
    (runAttempts ⟨newSmallStore, [], []⟩ putThenSave).acknowledged =
      [.coordinatorState savedState] ∧
    openStore smallOptions (runAttempts ⟨newSmallStore, [], []⟩ putThenSave).store.file =
      .error (.of .STORE_CORRUPT "store record magic does not match") := by
  have valid : smallOptions.validate = .ok () := by decide
  have log : ValidLog smallOptions [⟨2, .coordinatorState savedState⟩] :=
    ⟨⟨by decide, readable_savedState⟩, trivial⟩
  have long : ¬((oneByteMovement .PLANNED).encode.drop 72).length < kRecordHeaderBytes := by
    decide +kernel
  have magic : ((oneByteMovement .PLANNED).encode.drop 72).take 4 ≠ kRecordMagic := by
    decide +kernel
  refine ⟨by decide +kernel, ⟨_, openStore_new valid⟩, by decide +kernel, ?_⟩
  rw [file_putThenSave]
  apply openStore_refused valid log
  · intro empty
    rw [empty] at long
    exact long (by decide)
  · rw [recoverStep, if_neg long, if_pos magic]

end StateMovementFabric
