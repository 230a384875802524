import StateMovementFabric.Store.MovementStore

namespace StateMovementFabric

/-!
# Store operations

Each operation appends its records first and changes the index afterwards.  An
append may fail at its write or sync step after any number of its bytes reached
the file; the operating system decides that, so each operation takes the outcome
of every append it makes.  A failed append keeps its sequence number and does not
move the append offset.
-/

/-- How an append ends: all bytes written and synced, or a failure after the first
`reached` bytes of the record are in the file. -/
inductive WriteOutcome where
  | complete
  | failed (reached : Nat) (status : Status)
  deriving DecidableEq, Repr

/-- The outcomes of the successive appends of one operation. -/
abbrev WriteOutcomes := Nat -> WriteOutcome

/-- No append fails. -/
def noFailure : WriteOutcomes := fun _ => .complete

/-- Write `bytes` at `offset`, over what is there. -/
def overwrite (file : Bytes) (offset : Nat) (bytes : Bytes) : Bytes :=
  file.take offset ++ bytes ++ file.drop (offset + bytes.length)

namespace MovementStore

/-- `append_record`. -/
def appendRecord (store : MovementStore) (record : LogRecord) (outcome : WriteOutcome) :
    MovementStore × Result Unit :=
  if record.payload.length > store.options.maxRecordBytes.toNat then
    (store, refuse .STORE_OVERSIZED "record payload exceeds the configured maximum")
  else
    let bytes := recordFrame record.type store.nextSequence record.payload
    let numbered := { store with nextSequence := store.nextSequence + 1 }
    match outcome with
    | .complete =>
        ({ numbered with
            file := overwrite store.file store.appendOffset bytes
            appendOffset := store.appendOffset + bytes.length }, .ok ())
    | .failed reached status =>
        ({ numbered with
            file := overwrite store.file store.appendOffset (bytes.take reached) }, .error status)

/-- The ids that retention removes: the oldest terminal ones, as many as the
number of records exceeds the bound on completed history. -/
def retentionVictims (store : MovementStore) : List MovementId :=
  let completed := store.options.retentionCompleted.toNat
  let size := store.contents.size
  if completed = 0 ∨ size ≤ completed ∨ size ≤ store.options.maxHistoryRecords.toNat then []
  else (store.contents.order.filter store.contents.holdsTerminal).take (size - completed)

/-- The loop of `enforce_retention` over its victims. -/
def retireVictims : MovementStore -> List MovementId -> WriteOutcomes -> MovementStore × Result Unit
  | store, [], _ => (store, .ok ())
  | store, id :: rest, outcomes =>
      match store.appendRecord (.retire id) (outcomes 0) with
      | (appended, .error status) => (appended, .error status)
      | (appended, .ok ()) =>
          retireVictims { appended with contents := appended.contents.removeRecord id } rest
            (fun n => outcomes (n + 1))

/-- `enforce_retention`. -/
def enforceRetention (store : MovementStore) (outcomes : WriteOutcomes) :
    MovementStore × Result Unit :=
  store.retireVictims store.retentionVictims outcomes

/-- `put`. -/
def put (store : MovementStore) (record : MovementRecord) (outcomes : WriteOutcomes) :
    MovementStore × Result Unit :=
  match record.validate with
  | .error status => (store, .error status)
  | .ok () =>
      match store.appendRecord (.movement record) (outcomes 0) with
      | (appended, .error status) => (appended, .error status)
      | (appended, .ok ()) =>
          enforceRetention { appended with contents := appended.contents.insertRecord record }
            (fun n => outcomes (n + 1))

/-- `retire`. -/
def retire (store : MovementStore) (id : MovementId) (outcomes : WriteOutcomes) :
    MovementStore × Result Unit :=
  if id ∉ store.contents.records then
    (store, refuse .MOVEMENT_NOT_FOUND "movement is not present in the store")
  else
    match store.appendRecord (.retire id) (outcomes 0) with
    | (appended, .error status) => (appended, .error status)
    | (appended, .ok ()) =>
        ({ appended with contents := appended.contents.removeRecord id }, .ok ())

/-- `get`. -/
def get (store : MovementStore) (id : MovementId) : Result MovementRecord :=
  match store.contents.records.lookup id with
  | some record => .ok record
  | none => refuse .MOVEMENT_NOT_FOUND "movement is not present in the store"

/-- `list`: newest first. -/
def list (store : MovementStore) (limit offset : UInt32) : List MovementRecord :=
  ((store.contents.order.reverse.drop offset.toNat).take limit.toNat).filterMap
    store.contents.records.lookup

/-- `save_coordinator_state`. -/
def saveCoordinatorState (store : MovementStore) (state : CoordinatorPersistentState)
    (outcomes : WriteOutcomes) : MovementStore × Result Unit :=
  match store.appendRecord (.coordinatorState state) (outcomes 0) with
  | (appended, .error status) => (appended, .error status)
  | (appended, .ok ()) =>
      ({ appended with
          contents := { appended.contents with coordinatorState := some state } }, .ok ())

/-- The records a compacted log holds: the live movements oldest first, then the
coordinator state. -/
def liveRecords (contents : StoreContents) : List LogRecord :=
  (contents.order.filterMap contents.records.lookup).map LogRecord.movement ++
    (contents.coordinatorState.map LogRecord.coordinatorState).toList

/-- The records written one after the other, numbered from `sequence` on. -/
def writeRecords : UInt64 -> List LogRecord -> Bytes
  | _, [] => []
  | sequence, record :: rest =>
      recordFrame record.type sequence record.payload ++ writeRecords (sequence + 1) rest

/-- `compact`.  The rewritten log is numbered from one again; the number of the
next record to append is kept. -/
def compact (store : MovementStore) : MovementStore :=
  let file := fileHeader ++ writeRecords 1 (liveRecords store.contents)
  { store with file := file, appendOffset := file.length }

end MovementStore

end StateMovementFabric
