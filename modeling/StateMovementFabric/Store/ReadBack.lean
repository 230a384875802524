import StateMovementFabric.Core.Limits
import StateMovementFabric.Store.Durability

namespace StateMovementFabric

open Foundation

/-!
# What the store accepts and what it can read

`put` looks at a record with `validate` and at the length of its payload; `apply_record`
decodes the payload again and checks everything a decoder checks.  The two agree on every
field but one.  The last detail of a record is bounded by `validate` and is decoded as
text, so a detail that is not UTF-8 is written and never read again.
-/

/-- The limits of `apply_record`. -/
def storeLimits (options : MovementStoreOptions) : DecodeLimits :=
  ⟨options.maxRecordBytes.toNat, kMaxTextBytes, options.maxRecordBytes.toNat + 65536⟩

/-- The same text limit, and room for every byte string. -/
def roomyLimits (options : MovementStoreOptions) : DecodeLimits :=
  ⟨kMaxChunkBytes + options.maxRecordBytes.toNat, kMaxTextBytes, 0⟩

theorem roomy_roomyLimits (options : MovementStoreOptions) : Roomy (roomyLimits options) :=
  ⟨Nat.le_refl _, Nat.le_add_right _ _⟩

variable {options : MovementStoreOptions} {record : MovementRecord}

variable {payload : Bytes} {read : MovementRecord} {store : MovementStore}
  {state : CoordinatorPersistentState}

/-- A payload within the bound of the store is decoded to the end, and nothing else is
read from it. -/
theorem decodeRecord_movement (bounded : payload.length ≤ options.maxRecordBytes.toNat) :
    decodeRecord options 1 payload = .ok (.movement read) ↔
      MovementRecord.decode.run ⟨payload, storeLimits options, false⟩ =
        .ok (read, ⟨[], storeLimits options, false⟩) := by
  have start : CanonicalDecoder.start payload (storeLimits options) =
      ⟨payload, storeLimits options, false⟩ := by
    have within : ¬payload.length > options.maxRecordBytes.toNat + 65536 := by omega
    rw [CanonicalDecoder.start, storeLimits, decide_eq_false within]
  change ((do
    let record ← MovementRecord.decode
    CanonicalDecoder.requireEnd
    return LogRecord.movement record : Decode LogRecord).run
      (.start payload (storeLimits options))).map Prod.fst = _ ↔ _
  rw [start]
  constructor
  · intro decoded
    rcases map_eq_ok.mp decoded with ⟨⟨found, last⟩, ran, same⟩
    rcases run_bind_eq_ok.mp ran with ⟨earlier, between, reading, ending⟩
    rcases Steady.record payload (storeLimits options) (storeLimits options) earlier between rfl
      bounded reading with ⟨rest, rfl, _, _⟩
    rcases run_bind_eq_ok.mp ending with ⟨_, _, ended, returned⟩
    cases rest with
    | nil =>
        cases ended
        cases returned
        cases same
        exact reading
    | cons byte rest => cases ended
  · intro reading
    rw [StateT.run_bind, reading]
    rfl

/-- The limits of the store read the same records as limits with room for everything. -/
theorem decode_storeLimits_iff (bounded : payload.length ≤ options.maxRecordBytes.toNat) :
    MovementRecord.decode.run ⟨payload, storeLimits options, false⟩ =
        .ok (read, ⟨[], storeLimits options, false⟩) ↔
      MovementRecord.decode.run ⟨payload, roomyLimits options, false⟩ =
        .ok (read, ⟨[], roomyLimits options, false⟩) := by
  constructor
  · intro reading
    rcases Steady.record payload (storeLimits options) (roomyLimits options) read _ rfl
      (Nat.le_trans bounded (Nat.le_add_left _ _)) reading with ⟨rest, same, _, other⟩
    cases same
    exact other
  · intro reading
    rcases Steady.record payload (roomyLimits options) (storeLimits options) read _ rfl bounded
      reading with ⟨rest, same, _, other⟩
    cases same
    exact other

/-- A record in order, within the bound and with a text as its last detail is read back. -/
theorem decodeRecord_encode (valid : record.validate = .ok ())
    (bounded : record.encode.length ≤ options.maxRecordBytes.toNat)
    (utf8 : isValidUtf8 record.lastDetail = true) :
    decodeRecord options 1 record.encode = .ok (.movement record.eraseBound) := by
  have reading := (MovementRecord.codes (roomy_roomyLimits options)).reads record.eraseBound rfl
    ⟨valid, utf8⟩ []
  rw [List.append_nil, MovementRecord.encode_eraseBound] at reading
  exact (decodeRecord_movement bounded).mpr ((decode_storeLimits_iff bounded).mpr reading)

/-- What `put` has checked when it returns success. -/
theorem checked_of_put {outcomes : WriteOutcomes}
    (accepted : (store.put record outcomes).2 = .ok ()) :
    record.validate = .ok () ∧ record.encode.length ≤ store.options.maxRecordBytes.toNat := by
  unfold MovementStore.put at accepted
  cases valid : record.validate with
  | error status =>
      rw [valid] at accepted
      cases accepted
  | ok _ =>
      refine ⟨rfl, ?_⟩
      by_contra long
      have oversized : store.appendRecord (.movement record) (outcomes 0) =
          (store, refuse .STORE_OVERSIZED "record payload exceeds the configured maximum") :=
        if_pos (Nat.lt_of_not_le long)
      rw [valid, oversized] at accepted
      cases accepted

/-- What the operation writes can be read: the last detail of a movement is text, and the
epoch of a coordinator state is set. -/
def StoreOp.legible : StoreOp -> Bool
  | .put record => isValidUtf8 record.lastDetail
  | .saveCoordinatorState state => state.epoch.value != 0
  | _ => true

theorem CoordinatorPersistentState.reads_decode {limits : DecodeLimits}
    (set : state.epoch.value ≠ 0) :
    Reads limits CoordinatorPersistentState.decode state.encode state := by
  have unset : ¬(state.epoch.value == 0) = true := by
    rw [beq_iff_eq]
    exact set
  rw [encode, decode]
  simp only [List.flatten_cons, List.flatten_nil]
  refine .bind (.u64 _) (.bind (.u64 _) (.bind (.u64 _) (.bind (.u64 _) (.bind (.digest _)
    (.bind (.i64 _) ?_)))))
  rw [if_neg unset]
  exact .pure state

theorem decodeRecord_coordinatorState (bounded : state.encode.length ≤ options.maxRecordBytes.toNat)
    (set : state.epoch.value ≠ 0) :
    decodeRecord options 2 state.encode = .ok (.coordinatorState state) := by
  have reads : Reads (storeLimits options) CoordinatorPersistentState.decode state.encode state :=
    CoordinatorPersistentState.reads_decode set
  exact decodeAll_of_reads reads (by change _ ≤ options.maxRecordBytes.toNat + 65536; omega)
    LogRecord.coordinatorState

/-- A legible operation that succeeds wrote a record that is read back. -/
theorem roundTrips_of_perform {next : MovementStore} {op : StoreOp}
    (performed : op.perform store = .ok next) (legible : op.legible = true) :
    op.RoundTrips store.options := by
  cases op with
  | put record =>
      have accepted : (store.put record noFailure).2 = .ok () := by
        rw [onSuccess_eq_ok.mp performed]
      rcases checked_of_put accepted with ⟨valid, bounded⟩
      exact decodeRecord_encode valid bounded legible
  | saveCoordinatorState state =>
      have set : state.epoch.value ≠ 0 := bne_iff_ne.mp legible
      refine decodeRecord_coordinatorState ?_ set
      have saved := onSuccess_eq_ok.mp performed
      by_contra long
      have oversized : store.appendRecord (.coordinatorState state) (noFailure 0) =
          (store, refuse .STORE_OVERSIZED "record payload exceeds the configured maximum") :=
        if_pos (Nat.lt_of_not_le long)
      rw [MovementStore.saveCoordinatorState, oversized] at saved
      cases saved
  | retire id => trivial
  | compact => trivial
  | reopen => trivial

end StateMovementFabric
