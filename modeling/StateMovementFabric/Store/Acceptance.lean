import StateMovementFabric.Store.Format

namespace StateMovementFabric

open Foundation

/-!
# What recovery accepts of arbitrary bytes

Nothing is assumed here about where the bytes of the log file come from.  A header whose
fields are in order is the header of a record, so what recovery accepts is a sequence of
whole records with their checksums, and what it cuts off is at most one record that
reaches the end of the file.
-/

/-! ## Records as they stand in the file -/

/-- A record of the file: its kind, its number and its payload. -/
structure RawRecord where
  type : UInt8
  sequence : UInt64
  payload : Bytes
  deriving DecidableEq

/-- The header with its checksum, and the payload. -/
def RawRecord.frame (raw : RawRecord) : Bytes := recordFrame raw.type raw.sequence raw.payload

/-- The length of the payload that a record header declares. -/
def declaredLength (bytes : Bytes) : Nat := loadLe (slice bytes 16 4)

/-- The fields of a record header that are checked before its payload is looked at. -/
structure HeaderInOrder (options : MovementStoreOptions) (bytes : Bytes) : Prop where
  whole : kRecordHeaderBytes ≤ bytes.length
  magic : bytes.take 4 = kRecordMagic
  version : (bytes.getD 4 0).toNat = kMovementStoreFormatVersion
  reserved : loadLe (slice bytes 6 2) = 0 ∧ loadLe (slice bytes 20 4) = 0
  bounded : declaredLength bytes ≤ options.maxRecordBytes.toNat

/-- What recovery may cut off: nothing, less than a header, or one record with its header
in order that reaches the end of the file and is incomplete or has a wrong checksum. -/
inductive Discarded (options : MovementStoreOptions) : Bytes -> Prop where
  | nothing : Discarded options []
  | short (rest : Bytes) (cut : rest.length < kRecordHeaderBytes) : Discarded options rest
  | record (rest : Bytes) (header : HeaderInOrder options rest)
      (last : rest.length ≤ kRecordHeaderBytes + declaredLength rest)
      (damaged : rest.length < kRecordHeaderBytes + declaredLength rest ∨
        (recordChecksum (rest.take 24)
          (slice rest kRecordHeaderBytes (declaredLength rest))).bytes ≠ slice rest 24 32) :
      Discarded options rest

/-! ## One round on arbitrary bytes -/

section Round

variable {options : MovementStoreOptions} {state next : RecoveryState} {unread : Bytes}
  {length : Nat}

variable {bytes : Bytes} {start : Nat}

theorem storeLe_of_loadLe {width : Nat} (inside : start + width ≤ bytes.length) :
    storeLe (loadLe (slice bytes start width)) width = slice bytes start width := by
  have wide : (slice bytes start width).length = width := by
    rw [slice, List.length_take, List.length_drop]
    omega
  have same := storeLe_loadLe (slice bytes start width)
  rw [wide] at same
  exact same

theorem take_add_slice (bytes : Bytes) (start width : Nat) :
    bytes.take (start + width) = bytes.take start ++ slice bytes start width :=
  List.take_add

theorem slice_one (inside : start < bytes.length) :
    slice bytes start 1 = [bytes.getD start 0] := by
  rw [slice, List.drop_eq_getElem_cons inside, List.getD_eq_getElem?_getD,
    List.getElem?_eq_getElem inside]
  rfl

/-- A header whose fields are in order is the header of a record. -/
theorem HeaderInOrder.front (header : HeaderInOrder options unread) :
    unread.take 24 = recordHeaderFront (unread.getD 5 0)
      (UInt64.ofNat (loadLe (slice unread 8 8))) (declaredLength unread) := by
  have whole : 56 ≤ unread.length := header.whole
  have number : loadLe (slice unread 8 8) < 18446744073709551616 := by
    have wide : (slice unread 8 8).length = 8 := by
      rw [slice, List.length_take, List.length_drop]
      omega
    have below := loadLe_lt (slice unread 8 8)
    rw [wide] at below
    exact below
  have sequence : (UInt64.ofNat (loadLe (slice unread 8 8))).toNat = loadLe (slice unread 8 8) :=
    UInt64.toNat_ofNat_of_lt' number
  have versionByte : slice unread 4 1 = [UInt8.ofNat kMovementStoreFormatVersion] := by
    have byte : unread.getD 4 0 = UInt8.ofNat kMovementStoreFormatVersion := by
      rw [← header.version, UInt8.ofNat_toNat]
    rw [← byte]
    exact slice_one (by omega)
  have typeByte : slice unread 5 1 = [unread.getD 5 0] := slice_one (by omega)
  have firstReserved : slice unread 6 2 = List.replicate 2 0 := by
    rw [← storeLe_of_loadLe (by omega : 6 + 2 ≤ unread.length), header.reserved.1]
    rfl
  have secondReserved : slice unread 20 4 = List.replicate 4 0 := by
    rw [← storeLe_of_loadLe (by omega : 20 + 4 ≤ unread.length), header.reserved.2]
    rfl
  calc
    unread.take 24 = ((((((unread.take 4 ++ slice unread 4 1) ++ slice unread 5 1) ++
        slice unread 6 2) ++ slice unread 8 8) ++ slice unread 16 4) ++ slice unread 20 4) := by
      rw [← take_add_slice, ← take_add_slice, ← take_add_slice, ← take_add_slice,
        ← take_add_slice, ← take_add_slice]
    _ = recordHeaderFront (unread.getD 5 0) (UInt64.ofNat (loadLe (slice unread 8 8)))
        (declaredLength unread) := by
      rw [header.magic, versionByte, typeByte, firstReserved, secondReserved, recordHeaderFront,
        sequence, storeLe_of_loadLe (by omega), declaredLength, storeLe_of_loadLe (by omega)]
      rfl

/-- The bytes of a whole record with its header in order and its checksum right. -/
theorem HeaderInOrder.frame (header : HeaderInOrder options unread)
    (fits : declaredLength unread ≤ unread.length - kRecordHeaderBytes)
    (checked : (recordChecksum (unread.take 24)
      (slice unread kRecordHeaderBytes (declaredLength unread))).bytes = slice unread 24 32) :
    unread.take (kRecordHeaderBytes + declaredLength unread) =
      recordFrame (unread.getD 5 0) (UInt64.ofNat (loadLe (slice unread 8 8)))
        (slice unread kRecordHeaderBytes (declaredLength unread)) := by
  have whole : 56 ≤ unread.length := header.whole
  have declared : (slice unread kRecordHeaderBytes (declaredLength unread)).length =
      declaredLength unread := by
    rw [slice, List.length_take, List.length_drop]
    omega
  calc
    unread.take (kRecordHeaderBytes + declaredLength unread) =
        unread.take 24 ++ slice unread 24 32 ++
          slice unread kRecordHeaderBytes (declaredLength unread) := by
      rw [← take_add_slice]
      exact take_add_slice unread kRecordHeaderBytes (declaredLength unread)
    _ = recordFrame (unread.getD 5 0) (UInt64.ofNat (loadLe (slice unread 8 8)))
        (slice unread kRecordHeaderBytes (declaredLength unread)) := by
      unfold recordFrame
      dsimp only
      rw [declared, ← header.front, checked]

/-- A record that recovery accepts next. -/
structure Accepts (options : MovementStoreOptions) (state : RecoveryState) (raw : RawRecord)
    (record : LogRecord) : Prop where
  later : state.sequence < raw.sequence
  bounded : raw.payload.length ≤ options.maxRecordBytes.toNat
  decodes : decodeRecord options raw.type raw.payload = .ok record

/-- What a round can make of arbitrary bytes: it cuts them off, it refuses them, or it
accepts the record at their front. -/
inductive Round (options : MovementStoreOptions) (state : RecoveryState) (unread : Bytes) :
    ScanStep RecoveryState Status -> Prop where
  | torn (discarded : Discarded options unread) : Round options state unread .torn
  | refused (status : Status) : Round options state unread (.refused status)
  | accepted (raw : RawRecord) (record : LogRecord) (accepts : Accepts options state raw record)
      (front : unread.take raw.frame.length = raw.frame) :
      Round options state unread (.consumed raw.frame.length
        ⟨raw.sequence, state.recordsRead + 1, state.contents.apply record⟩)

/-- A whole record with its header in order and its checksum right, whose number
advances, is accepted unless its payload does not decode. -/
theorem HeaderInOrder.round (header : HeaderInOrder options unread)
    (fits : declaredLength unread ≤ unread.length - kRecordHeaderBytes)
    (checked : (recordChecksum (unread.take 24)
      (slice unread kRecordHeaderBytes (declaredLength unread))).bytes = slice unread 24 32)
    (later : state.sequence < UInt64.ofNat (loadLe (slice unread 8 8))) :
    Round options state unread
      (match applyRecord options state.contents (unread.getD 5 0)
          (slice unread kRecordHeaderBytes (declaredLength unread)) with
      | .error status => .refused status
      | .ok contents => .consumed (kRecordHeaderBytes + declaredLength unread)
          ⟨UInt64.ofNat (loadLe (slice unread 8 8)), state.recordsRead + 1, contents⟩) := by
  let raw : RawRecord := ⟨unread.getD 5 0, UInt64.ofNat (loadLe (slice unread 8 8)),
    slice unread kRecordHeaderBytes (declaredLength unread)⟩
  have declared : raw.payload.length = declaredLength unread := by
    change (slice _ _ _).length = _
    rw [slice, List.length_take, List.length_drop]
    omega
  have size : raw.frame.length = kRecordHeaderBytes + declaredLength unread := by
    rw [RawRecord.frame, recordFrame_length, declared]
  unfold applyRecord
  cases decoded : decodeRecord options (unread.getD 5 0)
      (slice unread kRecordHeaderBytes (declaredLength unread)) with
  | error status => exact .refused status
  | ok record =>
      have accepted : Round options state unread _ :=
        .accepted raw record ⟨later, declared ▸ header.bounded, decoded⟩
          (by rw [size]; exact header.frame fits checked)
      rw [size] at accepted
      exact accepted

theorem recoverStep_round (options : MovementStoreOptions) (state : RecoveryState)
    (unread : Bytes) : Round options state unread (recoverStep options state unread) := by
  unfold recoverStep
  split
  · rename_i short
    exact .torn (.short unread short)
  rename_i whole
  split
  · exact .refused _
  rename_i magic
  split
  · exact .refused _
  rename_i version
  split
  · exact .refused _
  rename_i reserved
  dsimp only
  split
  · exact .refused _
  rename_i bounded
  rcases not_or.mp reserved with ⟨first, second⟩
  have header : HeaderInOrder options unread :=
    ⟨Nat.le_of_not_lt whole, not_not.mp magic, not_not.mp version,
      ⟨not_not.mp first, not_not.mp second⟩, Nat.le_of_not_lt bounded⟩
  have bytes := header.whole
  split
  · rename_i longer
    have beyond : unread.length < kRecordHeaderBytes + declaredLength unread := by
      rw [declaredLength]
      omega
    exact .torn (.record unread header (Nat.le_of_lt beyond) (Or.inl beyond))
  rename_i fits
  split
  · rename_i wrong
    split
    · rename_i last
      exact .torn (.record unread header last (Or.inr wrong))
    · exact .refused _
  rename_i checked
  split
  · exact .refused _
  rename_i later
  exact header.round (Nat.le_of_not_lt fits) (not_not.mp checked) (UInt64.not_le.mp later)

end Round

/-! ## Whole files -/

/-- The records of a log that is accepted from a state on, with what they decode to. -/
inductive Replays (options : MovementStoreOptions) :
    RecoveryState -> List RawRecord -> List LogRecord -> RecoveryState -> Prop where
  | done (state : RecoveryState) : Replays options state [] [] state
  | more (state last : RecoveryState) (raw : RawRecord) (record : LogRecord)
      (others : List RawRecord) (records : List LogRecord)
      (accepts : Accepts options state raw record)
      (later : Replays options
        ⟨raw.sequence, state.recordsRead + 1, state.contents.apply record⟩ others records last) :
      Replays options state (raw :: others) (record :: records) last

variable {scanned : Scanned RecoveryState} {last : RecoveryState} {records : List LogRecord}
  {raws : List RawRecord}

/-- What recovery has made of the unread part of a file. -/
theorem replays_of_traversed {options : MovementStoreOptions} {state : RecoveryState}
    {unread : Bytes} (traversed : Traversed (recoverStep options) state unread scanned) :
    exists raws records rest, unread = raws.flatMap RawRecord.frame ++ rest ∧
      Replays options state raws records scanned.state ∧
      scanned.length = (raws.flatMap RawRecord.frame).length ∧ Discarded options rest ∧
      (scanned.torn = false -> rest = []) := by
  induction traversed with
  | ended state => exact ⟨[], [], [], rfl, .done state, rfl, .nothing, fun _ => rfl⟩
  | torn state unread left =>
      have round := recoverStep_round options state unread
      rw [left] at round
      cases round with
      | torn discarded =>
          exact ⟨[], [], unread, rfl, .done state, rfl, discarded, fun whole => (by cases whole)⟩
  | consumed state next unread length later accepted goesOn ih =>
      have round := recoverStep_round options state unread
      rw [accepted] at round
      rcases ih with ⟨raws, records, rest, split, replays, size, discarded, whole⟩
      cases round with
      | accepted raw record accepts front =>
          refine ⟨raw :: raws, record :: records, rest, ?_,
            .more state later.state raw record raws records accepts replays, ?_, discarded, whole⟩
          · rw [List.flatMap_cons, List.append_assoc, ← split, ← front,
              List.length_take_of_le ?_, List.take_append_drop]
            have bound := congrArg List.length front
            rw [List.length_take] at bound
            omega
          · rw [List.flatMap_cons, List.length_append, Scanned.shift, size]

/-- What a scan of a whole file has made of it.  Every round consumes a header at least, so
the length of the file is enough rounds. -/
theorem replays_of_scan {options : MovementStoreOptions} {unread : Bytes}
    (read : scan (recoverStep options) unread.length ⟨0, 0, .empty⟩ unread = .ok scanned) :
    exists raws records rest, unread = raws.flatMap RawRecord.frame ++ rest ∧
      Replays options ⟨0, 0, .empty⟩ raws records scanned.state ∧
      scanned.length = (raws.flatMap RawRecord.frame).length ∧ Discarded options rest ∧
      (scanned.torn = false -> rest = []) := by
  have advances : forall state unread length next,
      recoverStep options state unread = .consumed length next -> 0 < length := by
    intro state unread length next accepted
    have round := recoverStep_round options state unread
    rw [accepted] at round
    cases round with
    | accepted raw record accepts front =>
        rw [RawRecord.frame, recordFrame_length, kRecordHeaderBytes]
        omega
  exact replays_of_traversed (traversed_of_scan advances (Nat.le_refl _) read)

theorem Replays.numbered {options : MovementStoreOptions} {state : RecoveryState}
    (replays : Replays options state raws records last) :
    (state.sequence :: raws.map RawRecord.sequence).Pairwise (· < ·) := by
  induction replays with
  | done state => exact List.pairwise_singleton _ _
  | more state last raw record others records accepts later ih =>
      refine List.pairwise_cons.mpr ⟨?_, ih⟩
      intro sequence inside
      rcases List.mem_cons.mp inside with rfl | further
      · exact accepts.later
      · exact UInt64.lt_trans accepts.later ((List.pairwise_cons.mp ih).1 sequence further)

theorem Replays.decodes {options : MovementStoreOptions} {state : RecoveryState}
    (replays : Replays options state raws records last) :
    List.Forall₂ (fun raw record => decodeRecord options raw.type raw.payload = .ok record)
      raws records := by
  induction replays with
  | done state => exact .nil
  | more state last raw record others records accepts later ih => exact .cons accepts.decodes ih

theorem Replays.contents {options : MovementStoreOptions} {state : RecoveryState}
    (replays : Replays options state raws records last) :
    last.contents = records.foldl StoreContents.apply state.contents := by
  induction replays with
  | done state => rfl
  | more state last raw record others records accepts later ih => exact ih

/-- `open` with the file it leaves.  A new file gets its header; an existing one is not
touched before recovery is over, and only a torn tail is then cut off. -/
def openOn (options : MovementStoreOptions) (file : Bytes) :
    Bytes × Result (MovementStore × StoreRecoveryReport) :=
  match options.validate with
  | .error status => (file, .error status)
  | .ok () =>
      let created := file.isEmpty
      let disk := if created then fileHeader else file
      match (if !created then checkFileHeader disk else .ok ()) with
      | .error status => (disk, .error status)
      | .ok () =>
          let unread := disk.drop kFileHeaderBytes
          match scan (recoverStep options) unread.length ⟨0, 0, .empty⟩ unread with
          | .error status => (disk, .error status)
          | .ok scanned =>
              ((openedStore options disk scanned).file,
                .ok (openedStore options disk scanned, recoveryReport created disk scanned))

/-- A file that recovery accepts: the records it keeps, what they decode to, and what it
cuts off. -/
structure RecoveredLog (options : MovementStoreOptions) (file : Bytes) (store : MovementStore)
    (raws : List RawRecord) (records : List LogRecord) (rest : Bytes) : Prop where
  header : checkFileHeader file = .ok ()
  split : file = file.take kFileHeaderBytes ++ raws.flatMap RawRecord.frame ++ rest
  left : store.file = file.take kFileHeaderBytes ++ raws.flatMap RawRecord.frame
  numbered : (0 :: raws.map RawRecord.sequence).Pairwise (· < ·)
  decodes : List.Forall₂ (fun raw record => decodeRecord options raw.type raw.payload = .ok record)
    raws records
  contents : store.contents = records.foldl StoreContents.apply .empty
  discarded : Discarded options rest

theorem recoveredLog_of_scan {options : MovementStoreOptions} {file : Bytes}
    (header : checkFileHeader file = .ok ())
    (read : scan (recoverStep options) (file.drop kFileHeaderBytes).length ⟨0, 0, .empty⟩
      (file.drop kFileHeaderBytes) = .ok scanned) :
    exists raws records rest,
      RecoveredLog options file (openedStore options file scanned) raws records rest := by
  rcases replays_of_scan read with ⟨raws, records, rest, unread, replays, size, discarded, whole⟩
  have long : kFileHeaderBytes ≤ file.length := by
    have enough := refuseWhen_bind_eq_ok.mp header
    simpa using enough.1
  have split : file = file.take kFileHeaderBytes ++ raws.flatMap RawRecord.frame ++ rest := by
    rw [List.append_assoc, ← unread, List.take_append_drop]
  refine ⟨raws, records, rest, header, split, ?_, replays.numbered, replays.decodes,
    replays.contents, discarded⟩
  change (if scanned.torn then file.take (kFileHeaderBytes + scanned.length) else file) = _
  cases torn : scanned.torn with
  | true =>
      rw [if_pos rfl, size, List.take_add, unread, List.take_left]
  | false =>
      have nothing := whole torn
      rw [nothing, List.append_nil] at split
      rw [if_neg (by decide)]
      exact split

/-- Opening a file that is not empty, whatever its bytes: it is refused and left as it is,
or what is left is a front part of it, a valid header and whole records, and the index is
the replay of exactly these. -/
theorem open_arbitrary (options : MovementStoreOptions) (file : Bytes)
    (valid : options.validate = .ok ()) (existing : file ≠ []) :
    (exists status, openOn options file = (file, .error status)) ∨
      exists store report raws records rest,
        openOn options file = (store.file, .ok (store, report)) ∧
          RecoveredLog options file store raws records rest := by
  have inhabited : file.isEmpty = false := by
    rw [List.isEmpty_eq_false_iff]
    exact existing
  unfold openOn
  rw [valid, inhabited]
  dsimp only
  rw [if_pos (by decide), if_neg (by decide)]
  cases header : checkFileHeader file with
  | error status => exact Or.inl ⟨status, rfl⟩
  | ok _ =>
      dsimp only
      cases read : scan (recoverStep options) (file.drop kFileHeaderBytes).length ⟨0, 0, .empty⟩
          (file.drop kFileHeaderBytes) with
      | error status => exact Or.inl ⟨status, rfl⟩
      | ok scanned =>
          rcases recoveredLog_of_scan header read with ⟨raws, records, rest, recovered⟩
          exact Or.inr ⟨_, _, raws, records, rest, rfl, recovered⟩

/-- A header with one byte behind it. -/
theorem open_arbitrary_oneByte :
    (exists status, openOn ⟨1024, 1, 1⟩ (fileHeader ++ [7]) = (fileHeader ++ [7], .error status)) ∨
      exists store report raws records rest,
        openOn ⟨1024, 1, 1⟩ (fileHeader ++ [7]) = (store.file, .ok (store, report)) ∧
          RecoveredLog ⟨1024, 1, 1⟩ (fileHeader ++ [7]) store raws records rest :=
  open_arbitrary ⟨1024, 1, 1⟩ (fileHeader ++ [7]) (by decide)
    (List.append_ne_nil_of_right_ne_nil _ (List.cons_ne_nil _ _))

end StateMovementFabric
