import StateMovementFabric.Store.Replay

namespace StateMovementFabric

open Foundation

/-!
# Runs of a store

A run is any finite sequence of successful operations, reopening included.  The
invariant says that the file is a header followed by a valid log, that replaying
that log gives the index in memory, and that the number of the next record is
larger than every number in the file and than the number of live records.  The
last bound is what compaction needs: it numbers the live records from one again,
while the next number keeps counting.
-/

/-! ## Operations and runs -/

inductive StoreOp where
  | put (record : MovementRecord)
  | retire (id : MovementId)
  | saveCoordinatorState (state : CoordinatorPersistentState)
  | compact
  | reopen
  deriving DecidableEq

/-- The store after a call that returned success. -/
def onSuccess : MovementStore × Result Unit -> Result MovementStore
  | (store, .ok ()) => .ok store
  | (_, .error status) => .error status

variable {store appended final : MovementStore} {entries : List LogEntry}
  {options : MovementStoreOptions}

theorem onSuccess_eq_ok {outcome : MovementStore × Result Unit} :
    onSuccess outcome = .ok store ↔ outcome = (store, .ok ()) := by
  rcases outcome with ⟨changed, status | _⟩
  · simp [onSuccess]
  · simp [onSuccess]

namespace StoreOp

/-- One operation without a write failure. -/
def perform (op : StoreOp) (store : MovementStore) : Result MovementStore :=
  match op with
  | put record => onSuccess (store.put record noFailure)
  | retire id => onSuccess (store.retire id noFailure)
  | saveCoordinatorState state => onSuccess (store.saveCoordinatorState state noFailure)
  | compact => .ok store.compact
  | reopen => (openStore store.options store.file).map Prod.fst

/-- The operation's record is one whose encoding decodes back to itself. -/
def RoundTrips (options : MovementStoreOptions) : StoreOp -> Prop
  | put record => decodeRecord options 1 record.encode = .ok (.movement record.eraseBound)
  | saveCoordinatorState state =>
      decodeRecord options 2 state.encode = .ok (.coordinatorState state)
  | _ => True

/-- How many records the operation appends in a given store. -/
def appendCount (store : MovementStore) : StoreOp -> Nat
  | put record =>
      1 + { store with contents := store.contents.insertRecord record }.retentionVictims.length
  | retire _ => 1
  | saveCoordinatorState _ => 1
  | compact => 0
  | reopen => 0

/-- The 64-bit record number does not run out during the operation. -/
def Unwrapped (store : MovementStore) (op : StoreOp) : Prop :=
  store.nextSequence.toNat + op.appendCount store < 2 ^ 64

end StoreOp

/-- The store after a sequence of successful operations. -/
def runOps : MovementStore -> List StoreOp -> Result MovementStore
  | store, [] => .ok store
  | store, op :: rest => op.perform store >>= fun next => runOps next rest

/-- Every operation of the run meets `StoreOp.Unwrapped` in the store it starts in. -/
def NeverWraps : MovementStore -> List StoreOp -> Prop
  | _, [] => True
  | store, op :: rest =>
      op.Unwrapped store ∧
        match op.perform store with
        | .ok next => NeverWraps next rest
        | .error _ => True

instance (options : MovementStoreOptions) (op : StoreOp) : Decidable (op.RoundTrips options) :=
  match op with
  | .put _ => inferInstanceAs (Decidable (_ = _))
  | .saveCoordinatorState _ => inferInstanceAs (Decidable (_ = _))
  | .retire _ => .isTrue trivial
  | .compact => .isTrue trivial
  | .reopen => .isTrue trivial

instance (store : MovementStore) (op : StoreOp) : Decidable (op.Unwrapped store) :=
  inferInstanceAs (Decidable (_ < _))

/-- Decides `NeverWraps` by following the run. -/
def decidableNeverWraps : (store : MovementStore) -> (ops : List StoreOp) ->
    Decidable (NeverWraps store ops)
  | _, [] => .isTrue trivial
  | store, op :: rest =>
      match found : op.perform store with
      | .ok next =>
          have := decidableNeverWraps next rest
          decidable_of_iff (op.Unwrapped store ∧ NeverWraps next rest) (by rw [NeverWraps, found])
      | .error _ =>
          decidable_of_iff (op.Unwrapped store ∧ True) (by rw [NeverWraps, found])

instance (store : MovementStore) (ops : List StoreOp) : Decidable (NeverWraps store ops) :=
  decidableNeverWraps store ops

/-! ## The invariant -/

/-- The file of the store is a valid log of `entries` that replays to the index in
memory. -/
structure Faithful (options : MovementStoreOptions) (store : MovementStore)
    (entries : List LogEntry) : Prop where
  options_eq : store.options = options
  options_valid : options.validate = .ok ()
  file_eq : store.file = fileHeader ++ logBytes entries
  offset_eq : store.appendOffset = store.file.length
  log : ValidLog options entries
  sequence_lt : (recovered entries).sequence.toNat < store.nextSequence.toNat
  agrees : store.contents.Agrees (recovered entries).contents
  counted : store.contents.liveCount < store.nextSequence.toNat

theorem Faithful.consistent (faithful : Faithful options store entries) :
    store.contents.Consistent :=
  faithful.agrees.consistent (recovered_consistent faithful.log)

/-- A new store is faithful to the empty log. -/
theorem faithful_new (valid : options.validate = .ok ()) :
    Faithful options ⟨options, fileHeader, kFileHeaderBytes, 1, .empty⟩ [] where
  options_eq := rfl
  options_valid := valid
  file_eq := by simp [logBytes]
  offset_eq := fileHeader_length.symm
  log := trivial
  sequence_lt := by
    change (0 : Nat) < 1
    exact Nat.one_pos
  agrees := .refl _
  counted := by
    change (0 : Nat) < 1
    exact Nat.one_pos

theorem faithful_of_opened_new {initial : MovementStore} {created : StoreRecoveryReport}
    (opened : openStore options [] = .ok (initial, created)) :
    Faithful options initial [] := by
  rcases bind_eq_ok.mp opened with ⟨_, valid, _⟩
  rw [openStore_new valid] at opened
  cases opened
  exact faithful_new valid

/-- What a successful append does. -/
theorem appendRecord_complete {record : LogRecord}
    (success : store.appendRecord record .complete = (appended, .ok ())) :
    record.payload.length ≤ store.options.maxRecordBytes.toNat ∧
      appended = { store with
        file := overwrite store.file store.appendOffset
          (recordFrame record.type store.nextSequence record.payload)
        appendOffset := store.appendOffset +
          (recordFrame record.type store.nextSequence record.payload).length
        nextSequence := store.nextSequence + 1 } := by
  unfold MovementStore.appendRecord at success
  split at success
  · cases success
  · rename_i bounded
    cases success
    exact ⟨Nat.le_of_not_lt bounded, rfl⟩

theorem overwrite_at_end (file bytes : Bytes) : overwrite file file.length bytes = file ++ bytes := by
  simp [overwrite]

theorem toNat_add_one {value : UInt64} (room : value.toNat + 1 < 2 ^ 64) :
    (value + 1).toNat = value.toNat + 1 := by
  rw [UInt64.toNat_add]
  exact Nat.mod_eq_of_lt room

/-- Appending a record and applying it to the index extends the log by one entry. -/
theorem Faithful.append (faithful : Faithful options store entries) (record : LogRecord)
    (decodes : decodeRecord options record.type record.payload = .ok record.stored)
    (room : store.nextSequence.toNat + 1 < 2 ^ 64)
    (success : store.appendRecord record .complete = (appended, .ok ())) :
    Faithful options { appended with contents := appended.contents.apply record }
      (entries ++ [⟨store.nextSequence, record.stored⟩]) := by
  obtain ⟨bounded, rfl⟩ := appendRecord_complete success
  have next := toNat_add_one room
  have readable : Readable options record.stored := by
    constructor
    · exact record.stored_stored
    · rw [LogRecord.stored_payload, ← faithful.options_eq]
      exact bounded
    · rw [LogRecord.stored_type, LogRecord.stored_payload]
      exact decodes
  have ready : ReadyEntry options (recovered entries) ⟨store.nextSequence, record.stored⟩ :=
    ⟨UInt64.lt_iff_toNat_lt.mpr faithful.sequence_lt, readable⟩
  have written : overwrite store.file store.appendOffset
      (recordFrame record.type store.nextSequence record.payload) =
      fileHeader ++ logBytes (entries ++ [⟨store.nextSequence, record.stored⟩]) := by
    rw [faithful.offset_eq, overwrite_at_end, faithful.file_eq, logBytes_append]
    simp [logBytes, LogEntry.frame]
  refine ⟨faithful.options_eq, faithful.options_valid, written, ?_, ?_, ?_, ?_, ?_⟩
  · change store.appendOffset + _ = (overwrite store.file store.appendOffset _).length
    rw [faithful.offset_eq, overwrite_at_end, List.length_append]
  · exact (validLog_concat options entries _).mpr ⟨faithful.log, ready⟩
  · rw [recovered_concat]
    change store.nextSequence.toNat < (store.nextSequence + 1).toNat
    omega
  · rw [recovered_concat]
    exact faithful.agrees.apply record
  · have grows := store.contents.liveCount_apply_le record
    have counted := faithful.counted
    change (store.contents.apply record).liveCount < (store.nextSequence + 1).toNat
    omega

/-! ## Each operation keeps the invariant -/

/-- A retirement is read back as itself whenever it was small enough to be written. -/
theorem decodeRecord_retire (id : MovementId)
    (bounded : id.encode.length ≤ options.maxRecordBytes.toNat) :
    decodeRecord options 3 id.encode = .ok (.retire id) := by
  have width : id.encode.length = 24 := by
    simp [FixedId.encode, CanonicalEncoder.blob, id.bytes_length]
  have reads : Reads
      ⟨options.maxRecordBytes.toNat, kMaxTextBytes, options.maxRecordBytes.toNat + 65536⟩
      FixedId.decode id.encode id := by
    apply id.reads_decode
    · change 16 ≤ options.maxRecordBytes.toNat
      omega
    · decide
  exact decodeAll_of_reads reads (by change _ ≤ options.maxRecordBytes.toNat + 65536; omega)
    LogRecord.retire

/-- One retirement, in memory and in the log. -/
theorem Faithful.retire (faithful : Faithful options store entries) {id : MovementId}
    (room : store.nextSequence.toNat + 1 < 2 ^ 64)
    (success : store.appendRecord (.retire id) .complete = (appended, .ok ())) :
    Faithful options { appended with contents := appended.contents.removeRecord id }
      (entries ++ [⟨store.nextSequence, .retire id⟩]) := by
  obtain ⟨bounded, shape⟩ := appendRecord_complete success
  rw [faithful.options_eq] at bounded
  have kept := faithful.append (.retire id) (decodeRecord_retire id bounded) room success
  have same : appended.contents = store.contents := by rw [shape]
  rw [same] at kept ⊢
  rwa [faithful.consistent.apply_retire id] at kept

/-- The retention loop keeps the invariant: it retires its victims one by one. -/
theorem Faithful.retireVictims (faithful : Faithful options store entries)
    (victims : List MovementId) (room : store.nextSequence.toNat + victims.length < 2 ^ 64)
    (success : store.retireVictims victims noFailure = (final, .ok ())) :
    exists longer, Faithful options final longer := by
  induction victims generalizing store entries with
  | nil =>
      cases success
      exact ⟨entries, faithful⟩
  | cons id rest ih =>
      rw [List.length_cons] at room
      rw [MovementStore.retireVictims] at success
      rcases appending : store.appendRecord (.retire id) (noFailure 0) with ⟨appended, status | _⟩
      · rw [appending] at success
        cases success
      · rw [appending] at success
        have kept := faithful.retire (by omega) appending
        obtain ⟨_, shape⟩ := appendRecord_complete appending
        have next : appended.nextSequence.toNat = store.nextSequence.toNat + 1 := by
          rw [shape]
          exact toNat_add_one (by omega)
        exact ih kept (by change appended.nextSequence.toNat + _ < _; omega) success

theorem Faithful.put (faithful : Faithful options store entries) {record : MovementRecord}
    (decodes : (StoreOp.put record).RoundTrips options)
    (room : (StoreOp.put record).Unwrapped store)
    (success : store.put record noFailure = (final, .ok ())) :
    exists longer, Faithful options final longer := by
  rw [StoreOp.Unwrapped, StoreOp.appendCount] at room
  unfold MovementStore.put at success
  split at success
  · cases success
  · rcases appending : store.appendRecord (.movement record) (noFailure 0) with
      ⟨appended, status | _⟩
    · rw [appending] at success
      cases success
    · rw [appending] at success
      have kept := faithful.append (.movement record) decodes (by omega) appending
      obtain ⟨_, shape⟩ := appendRecord_complete appending
      have next : appended.nextSequence.toNat = store.nextSequence.toNat + 1 := by
        rw [shape]
        exact toNat_add_one (by omega)
      have victims : { appended with
          contents := appended.contents.insertRecord record }.retentionVictims =
          { store with contents := store.contents.insertRecord record }.retentionVictims := by
        rw [shape]
        rfl
      apply kept.retireVictims
        { appended with contents := appended.contents.insertRecord record }.retentionVictims
      · rw [victims]
        change appended.nextSequence.toNat + _ < _
        omega
      · exact success

theorem Faithful.saveCoordinatorState (faithful : Faithful options store entries)
    {state : CoordinatorPersistentState}
    (decodes : (StoreOp.saveCoordinatorState state).RoundTrips options)
    (room : store.nextSequence.toNat + 1 < 2 ^ 64)
    (success : store.saveCoordinatorState state noFailure = (final, .ok ())) :
    exists longer, Faithful options final longer := by
  unfold MovementStore.saveCoordinatorState at success
  rcases appending : store.appendRecord (.coordinatorState state) (noFailure 0) with
    ⟨appended, status | _⟩
  · rw [appending] at success
    cases success
  · rw [appending] at success
    cases success
    exact ⟨_, faithful.append (.coordinatorState state) decodes room appending⟩

/-! ## Compaction -/

/-- The entries of a compacted log, numbered from `sequence` on. -/
def numberFrom : UInt64 -> List LogRecord -> List LogEntry
  | _, [] => []
  | sequence, record :: rest => ⟨sequence, record.stored⟩ :: numberFrom (sequence + 1) rest

theorem logBytes_numberFrom (sequence : UInt64) (records : List LogRecord) :
    logBytes (numberFrom sequence records) = MovementStore.writeRecords sequence records := by
  induction records generalizing sequence with
  | nil => rfl
  | cons record rest ih =>
      rw [MovementStore.writeRecords, ← ih (sequence + 1)]
      simp [logBytes, numberFrom, LogEntry.frame]

theorem foldl_read_numberFrom (state : RecoveryState) (sequence : UInt64)
    (records : List LogRecord) :
    ((numberFrom sequence records).foldl RecoveryState.read state).contents =
      state.contents.applyAll records := by
  induction records generalizing state sequence with
  | nil => rfl
  | cons record rest ih => exact ih (state.read ⟨sequence, record.stored⟩) (sequence + 1)

/-- Consecutive numbers are strictly increasing as long as they do not wrap. -/
theorem allReady_numberFrom {records : List LogRecord} (state : RecoveryState) (sequence : UInt64)
    (follows : state.sequence.toNat + 1 = sequence.toNat)
    (room : sequence.toNat + records.length < 2 ^ 64)
    (readable : forall record, record ∈ records -> Readable options record.stored) :
    (logFormat options).AllReady state (numberFrom sequence records) ∧
      ((numberFrom sequence records).foldl RecoveryState.read state).sequence.toNat + 1 =
        sequence.toNat + records.length := by
  induction records generalizing state sequence with
  | nil => exact ⟨trivial, follows⟩
  | cons record rest ih =>
      rw [List.length_cons] at room
      have next : (sequence + 1).toNat = sequence.toNat + 1 := toNat_add_one (by omega)
      have tail := ih (state.read ⟨sequence, record.stored⟩) (sequence + 1) next.symm (by omega)
        (fun other member => readable other (List.mem_cons_of_mem _ member))
      refine ⟨⟨⟨?_, readable record List.mem_cons_self⟩, tail.1⟩, ?_⟩
      · apply UInt64.lt_iff_toNat_lt.mpr
        change state.sequence.toNat < sequence.toNat
        omega
      · have last := tail.2
        rw [List.length_cons]
        change ((numberFrom (sequence + 1) rest).foldl RecoveryState.read
          (state.read ⟨sequence, record.stored⟩)).sequence.toNat + 1 = _
        omega

theorem readable_liveRecords {contents : StoreContents} (live : LiveReadable options contents) :
    forall record, record ∈ MovementStore.liveRecords contents -> Readable options record.stored := by
  intro record member
  rcases List.mem_append.mp member with movement | saved
  · obtain ⟨found, isLive, rfl⟩ := List.mem_map.mp movement
    obtain ⟨id, _, lookup⟩ := List.mem_filterMap.mp isLive
    exact live.movements id found.eraseBound (by rw [StoreContents.stored, lookup]; rfl)
  · cases state : contents.coordinatorState with
    | none =>
        rw [state] at saved
        cases saved
    | some value =>
        rw [state] at saved
        rw [List.mem_singleton.mp saved]
        exact live.coordinatorState value state

/-- Compaction keeps the invariant.  The live records are fewer than the next
number, so the numbers of the rewritten log stay below it. -/
theorem Faithful.compact (faithful : Faithful options store entries) :
    Faithful options store.compact (numberFrom 1 (MovementStore.liveRecords store.contents)) := by
  have consistent := faithful.consistent
  have size := consistent.length_liveRecords
  have counted := faithful.counted
  have bound := store.nextSequence.toNat_lt
  have live := (recovered_liveReadable faithful.log).of_agrees faithful.agrees
  have numbered := allReady_numberFrom recoveryStart 1 rfl
    (by change 1 + _ < _; omega) (readable_liveRecords live)
  refine ⟨faithful.options_eq, faithful.options_valid, ?_, rfl, numbered.1, ?_, ?_, counted⟩
  · rw [logBytes_numberFrom]
    rfl
  · have last := numbered.2
    change ((numberFrom 1 (MovementStore.liveRecords store.contents)).foldl RecoveryState.read
      recoveryStart).sequence.toNat < store.nextSequence.toNat
    change _ = 1 + _ at last
    omega
  · rw [recovered, foldl_read_numberFrom]
    exact consistent.applyAll_liveRecords

/-! ## Reopening -/

/-- A store opened on a valid log is faithful to it. -/
theorem faithful_storeOf (valid : options.validate = .ok ()) (log : ValidLog options entries)
    (room : (recovered entries).sequence.toNat + 1 < 2 ^ 64) :
    Faithful options (storeOf options entries) entries where
  options_eq := rfl
  options_valid := valid
  file_eq := rfl
  offset_eq := by
    change kFileHeaderBytes + _ = (fileHeader ++ logBytes entries).length
    rw [List.length_append, fileHeader_length]
  log := log
  sequence_lt := by
    change _ < ((recovered entries).sequence + 1).toNat
    rw [toNat_add_one room]
    omega
  agrees := .refl _
  counted := by
    have live := recovered_liveCount_le log
    have length := length_le_sequence log
    change (recovered entries).contents.liveCount < ((recovered entries).sequence + 1).toNat
    rw [toNat_add_one room]
    omega

/-- Reopening a faithful store reads its whole log. -/
theorem Faithful.reopen (faithful : Faithful options store entries) :
    Faithful options (storeOf options entries) entries ∧
      exists report, openStore options store.file = .ok (storeOf options entries, report) ∧
        report.partialTailTruncated = false := by
  have below := faithful.sequence_lt
  have bound := store.nextSequence.toNat_lt
  refine ⟨faithful_storeOf faithful.options_valid faithful.log (by omega), ?_⟩
  rw [faithful.file_eq]
  exact openStore_log faithful.options_valid faithful.log

/-! ## Whole runs -/

/-- One successful operation keeps the invariant. -/
theorem Faithful.perform (faithful : Faithful options store entries) {op : StoreOp}
    (roundTrips : op.RoundTrips options) (unwrapped : op.Unwrapped store)
    (success : op.perform store = .ok final) :
    exists longer, Faithful options final longer := by
  cases op with
  | put record =>
      exact faithful.put roundTrips unwrapped (onSuccess_eq_ok.mp success)
  | retire id =>
      have retired := onSuccess_eq_ok.mp success
      unfold MovementStore.retire at retired
      split at retired
      · cases retired
      · rcases appending : store.appendRecord (.retire id) (noFailure 0) with ⟨appended, status | _⟩
        · rw [appending] at retired
          cases retired
        · rw [appending] at retired
          cases retired
          exact ⟨_, faithful.retire unwrapped appending⟩
  | saveCoordinatorState state =>
      exact faithful.saveCoordinatorState roundTrips unwrapped (onSuccess_eq_ok.mp success)
  | compact =>
      cases success
      exact ⟨_, faithful.compact⟩
  | reopen =>
      obtain ⟨kept, report, opened, _⟩ := faithful.reopen
      simp only [StoreOp.perform, faithful.options_eq, opened] at success
      cases success
      exact ⟨entries, kept⟩

/-- Every store reached by a run of successful operations is faithful to some log. -/
theorem Faithful.runOps (faithful : Faithful options store entries) {ops : List StoreOp}
    (roundTrips : forall op, op ∈ ops -> op.RoundTrips options) (unwrapped : NeverWraps store ops)
    (ran : runOps store ops = .ok final) : exists longer, Faithful options final longer := by
  induction ops generalizing store entries with
  | nil =>
      cases ran
      exact ⟨entries, faithful⟩
  | cons op rest ih =>
      obtain ⟨next, performed, continued⟩ := bind_eq_ok.mp ran
      obtain ⟨longer, kept⟩ :=
        faithful.perform (roundTrips op List.mem_cons_self) unwrapped.1 performed
      have later := unwrapped.2
      rw [performed] at later
      exact ih kept (fun other member => roundTrips other (List.mem_cons_of_mem _ member)) later
        continued

end StateMovementFabric
