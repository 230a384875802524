import StateMovementFabric.Store.Acceptance
import StateMovementFabric.Store.OpenStore
import StateMovementFabric.Store.ReadBack

namespace StateMovementFabric

open Foundation CanonicalDecoder CanonicalEncoder

/-!
# What an opened store holds

Whatever the bytes of a file are: when it opens, its index is consistent, and every record
in it has been checked by the decoder that read it.  Such a record has the default
provenance bound, and with the bounds that `validate` puts on its texts it is far smaller
than the largest record a coordinator stores.
-/

/-- Every record passes `validate` and has the default provenance bound. -/
def StoreContents.Sound (contents : StoreContents) : Prop :=
  forall id record, contents.records.lookup id = some record ->
    record.validate = .ok () ∧ record.provenance.bound = kMaxProvenanceEvents

namespace StoreContents.Sound

variable {contents : StoreContents}

theorem empty : Sound .empty := by
  intro id record found
  cases (Finmap.lookup_empty id).symm.trans found

theorem insertRecord (sound : contents.Sound) {record : MovementRecord}
    (valid : record.validate = .ok ())
    (bound : record.provenance.bound = kMaxProvenanceEvents) :
    (contents.insertRecord record).Sound := by
  intro id found lookup
  change (contents.records.insert record.id record).lookup id = some found at lookup
  by_cases mine : id = record.id
  · rw [mine, Finmap.lookup_insert] at lookup
    cases lookup
    exact ⟨valid, bound⟩
  · rw [Finmap.lookup_insert_of_ne _ mine] at lookup
    exact sound id found lookup

theorem removeRecord (sound : contents.Sound) (removed : MovementId) :
    (contents.removeRecord removed).Sound := by
  intro id found lookup
  change (contents.records.erase removed).lookup id = some found at lookup
  by_cases gone : id = removed
  · rw [gone, Finmap.lookup_erase] at lookup
    cases lookup
  · rw [Finmap.lookup_erase_ne gone] at lookup
    exact sound id found lookup

end StoreContents.Sound

/-! ## The records of a file -/

variable {options : MovementStoreOptions}

variable {payload file : Bytes} {read : MovementRecord} {state last : RecoveryState}
  {raws : List RawRecord} {records : List LogRecord} {report : StoreRecoveryReport}

/-- A record that was decoded has passed the checks of its decoder. -/
theorem checked_of_decodeRecord (bounded : payload.length ≤ options.maxRecordBytes.toNat)
    (decoded : decodeRecord options 1 payload = .ok (.movement read)) :
    read.validate = .ok () ∧ read.provenance.bound = kMaxProvenanceEvents := by
  have reading := (decode_storeLimits_iff bounded).mp ((decodeRecord_movement bounded).mp decoded)
  rcases (MovementRecord.codes (roomy_roomyLimits options)).takes _ _ _ reading with
    ⟨bound, ⟨valid, _⟩, _⟩
  exact ⟨valid, bound⟩

/-- A payload that is decoded to its end becomes a record of one kind. -/
theorem wrapped_of_decodeAll {α : Type} {decode : Decode α} {wrap : α -> LogRecord}
    {limits : DecodeLimits} {record : LogRecord} (decoded : decodeAll (do
      let value ← decode
      requireEnd
      return wrap value) payload limits = .ok record) : exists value, wrap value = record := by
  rcases map_eq_ok.mp decoded with ⟨⟨found, last⟩, ran, rfl⟩
  rcases run_bind_eq_ok.mp ran with ⟨value, _, _, ending⟩
  rcases run_bind_eq_ok.mp ending with ⟨_, _, _, returned⟩
  cases returned
  exact ⟨value, rfl⟩

/-- Only a record of the first type decodes to a movement. -/
theorem type_of_decodeRecord {type : UInt8}
    (decoded : decodeRecord options type payload = .ok (.movement read)) : type = 1 := by
  unfold decodeRecord at decoded
  dsimp only at decoded
  split at decoded
  · rename_i first
    exact UInt8.toNat_inj.mp first
  · rcases wrapped_of_decodeAll decoded with ⟨_, other⟩
    cases other
  · rcases wrapped_of_decodeAll decoded with ⟨_, other⟩
    cases other
  · cases decoded

theorem StoreContents.Sound.apply {contents : StoreContents} (sound : contents.Sound)
    {raw : RawRecord} {record : LogRecord} (accepts : Accepts options state raw record) :
    (contents.apply record).Sound := by
  cases record with
  | movement record =>
      have decoded := accepts.decodes
      rw [type_of_decodeRecord decoded] at decoded
      rcases checked_of_decodeRecord accepts.bounded decoded with ⟨valid, bound⟩
      exact sound.insertRecord valid bound
  | coordinatorState state => exact sound
  | retire id =>
      change (if id ∈ contents.records then contents.removeRecord id else contents).Sound
      split
      · exact sound.removeRecord id
      · exact sound

theorem Replays.sound (replays : Replays options state raws records last)
    (sound : state.contents.Sound) : last.contents.Sound := by
  induction replays with
  | done state => exact sound
  | more state last raw record others records accepts later ih => exact ih (sound.apply accepts)

theorem Replays.consistent (replays : Replays options state raws records last)
    (consistent : state.contents.Consistent) : last.contents.Consistent := by
  induction replays with
  | done state => exact consistent
  | more state last raw record others records accepts later ih =>
      exact ih (consistent.apply record)

/-- The index of an opened store is the replay of some records of its file. -/
theorem replays_of_openStore {store : MovementStore}
    (opened : openStore options file = .ok (store, report)) :
    store.options = options ∧ exists raws records last,
      Replays options ⟨0, 0, .empty⟩ raws records last ∧ store.contents = last.contents ∧
      exists rest, (if file.isEmpty then fileHeader else file).drop kFileHeaderBytes =
        raws.flatMap RawRecord.frame ++ rest := by
  unfold openStore at opened
  rcases check_bind_eq_ok.mp opened with ⟨_, afterOptions⟩
  have goesOn : exists scanned, scan (recoverStep options)
      ((if file.isEmpty then fileHeader else file).drop kFileHeaderBytes).length ⟨0, 0, .empty⟩
      ((if file.isEmpty then fileHeader else file).drop kFileHeaderBytes) = .ok scanned ∧
      pure (openedStore options (if file.isEmpty then fileHeader else file) scanned,
        recoveryReport file.isEmpty (if file.isEmpty then fileHeader else file) scanned) =
        (.ok (store, report) : Result _) := by
    dsimp only at afterOptions
    split at afterOptions
    · exact bind_eq_ok.mp (check_bind_eq_ok.mp afterOptions).2
    · exact bind_eq_ok.mp afterOptions
  rcases goesOn with ⟨scanned, read, returned⟩
  rcases replays_of_scan read with ⟨raws, records, rest, whole, replays, _⟩
  cases returned
  exact ⟨rfl, raws, records, scanned.state, replays, rfl, rest, whole⟩

theorem consistent_of_openStore {store : MovementStore}
    (opened : openStore options file = .ok (store, report)) :
    store.contents.Consistent := by
  rcases replays_of_openStore opened with ⟨_, _, _, _, replays, same, _⟩
  rw [same]
  exact replays.consistent StoreContents.consistent_empty

theorem sound_of_openStore {store : MovementStore}
    (opened : openStore options file = .ok (store, report)) : store.contents.Sound := by
  rcases replays_of_openStore opened with ⟨_, _, _, _, replays, same, _⟩
  rw [same]
  exact replays.sound .empty

/-- `open` on the bytes of a file, as a store with a consistent index. -/
def OpenStore.ofFile (options : MovementStoreOptions) (file : Bytes) : Result OpenStore :=
  match opened : openStore options file with
  | .error status => .error status
  | .ok (store, _) => .ok ⟨store, consistent_of_openStore opened⟩

theorem OpenStore.ofFile_eq_ok {store : OpenStore}
    (opened : OpenStore.ofFile options file = .ok store) :
    exists report, openStore options file = .ok (store.val, report) := by
  unfold ofFile at opened
  split at opened
  · cases opened
  · rename_i found report same
    cases opened
    exact ⟨report, same⟩

/-! ## What retention leaves -/

namespace MovementStore

theorem appendRecord_options (store : MovementStore) (record : LogRecord) (outcome : WriteOutcome) :
    (store.appendRecord record outcome).1.options = store.options := by
  unfold appendRecord
  split
  · rfl
  · cases outcome <;> rfl

theorem retireVictims_options (store : MovementStore) (victims : List MovementId)
    (outcomes : WriteOutcomes) :
    (store.retireVictims victims outcomes).1.options = store.options := by
  induction victims generalizing store outcomes with
  | nil => rfl
  | cons id rest ih =>
      have kept := store.appendRecord_options (.retire id) (outcomes 0)
      rw [retireVictims]
      rcases appending : store.appendRecord (.retire id) (outcomes 0) with ⟨appended, status | _⟩
      · rw [appending] at kept
        exact kept
      · rw [appending] at kept
        exact (ih _ _).trans kept

theorem put_options (store : MovementStore) (record : MovementRecord) (outcomes : WriteOutcomes) :
    (store.put record outcomes).1.options = store.options := by
  have kept := store.appendRecord_options (.movement record) (outcomes 0)
  unfold put
  cases record.validate with
  | error status => rfl
  | ok _ =>
      rcases appending : store.appendRecord (.movement record) (outcomes 0) with
        ⟨appended, status | _⟩
      · rw [appending] at kept
        exact kept
      · rw [appending] at kept
        exact (retireVictims_options _ _ _).trans kept

variable {id : MovementId} {outcomes : WriteOutcomes} {record : MovementRecord}

/-- Retirement removes its victims only. -/
theorem get_retireVictims_of_not_mem {store : MovementStore} {victims : List MovementId}
    (found : store.get id = .ok record) (spared : id ∉ victims) :
    (store.retireVictims victims outcomes).1.get id = .ok record := by
  induction victims generalizing store outcomes with
  | nil => exact found
  | cons victim rest ih =>
      have kept := store.appendRecord_contents (.retire victim) (outcomes 0)
      have others : id ≠ victim ∧ id ∉ rest := not_or.mp (mt List.mem_cons.mpr spared)
      rw [retireVictims]
      rcases appending : store.appendRecord (.retire victim) (outcomes 0) with
        ⟨appended, status | _⟩
      · rw [appending] at kept
        rw [get_eq_ok] at found ⊢
        exact kept ▸ found
      · rw [appending] at kept
        have same : appended.contents = store.contents := kept
        refine ih ?_ others.2
        rw [get_eq_ok] at found ⊢
        change (appended.contents.records.erase victim).lookup id = some record
        rw [Finmap.lookup_erase_ne others.1, same]
        exact found

/-- The victims of retention are terminal. -/
theorem not_mem_retentionVictims {store : MovementStore}
    (found : store.contents.records.lookup id = some record)
    (unfinished : isTerminal record.state = false) : id ∉ store.retentionVictims := by
  intro victim
  unfold retentionVictims at victim
  dsimp only at victim
  split at victim
  · cases victim
  · have terminal := (List.mem_filter.mp (List.mem_of_mem_take victim)).2
    rw [StoreContents.holdsTerminal, found] at terminal
    exact absurd (unfinished.symm.trans terminal) (by decide)

/-- A put leaves every other record that is not terminal where it is. -/
theorem get_put_of_not_terminal {store : MovementStore} {other : MovementRecord}
    (found : store.get id = .ok other) (different : id ≠ record.id)
    (unfinished : isTerminal other.state = false) :
    (store.put record outcomes).1.get id = .ok other := by
  have kept := store.appendRecord_contents (.movement record) (outcomes 0)
  unfold put
  cases record.validate with
  | error status => exact found
  | ok _ =>
      rcases appending : store.appendRecord (.movement record) (outcomes 0) with
        ⟨appended, status | _⟩
      · rw [appending] at kept
        rw [get_eq_ok] at found ⊢
        exact kept ▸ found
      · rw [appending] at kept
        have same : appended.contents = store.contents := kept
        have inserted : (appended.contents.insertRecord record).records.lookup id = some other := by
          change (appended.contents.records.insert record.id record).lookup id = some other
          rw [Finmap.lookup_insert_of_ne _ different, same]
          exact get_eq_ok.mp found
        exact get_retireVictims_of_not_mem (get_eq_ok.mpr inserted)
          (not_mem_retentionVictims inserted unfinished)

end MovementStore

/-! ## How large a record is -/

theorem MovementRecord.length_encode (record : MovementRecord) :
    record.encode.length = 349 + record.object.encode.length + record.source.value.length +
      record.destination.value.length + record.sourceIncarnation.endpoint.value.length +
      record.destinationIncarnation.endpoint.value.length + record.lastDetail.length +
      record.provenance.encode.length := by
  simp only [MovementRecord.encode, encodeIncarnation, FixedId.encode, List.flatten_cons,
    List.flatten_nil, List.length_append, List.length_nil, length_u64,
    length_i64, length_u8, length_u16,
    length_u32, length_text, length_digest,
    length_blob, length_boolean, FixedId.bytes_length]
  omega

/-- A record that passes `validate` is smaller than the largest record of a coordinator. -/
theorem MovementRecord.length_encode_le {record : MovementRecord}
    (valid : record.validate = .ok ()) : record.encode.length ≤ 4194304 := by
  have checks := validate_eq_ok.mp valid
  have texts := StateObjectDescriptor.texts_of_validate checks.object
  have detail := checks.detail
  have chain := record.provenance.length_encode_le
  have source := record.source.fits.1
  have destination := record.destination.fits.1
  have sourceName := record.sourceIncarnation.endpoint.fits.1
  have destinationName := record.destinationIncarnation.endpoint.fits.1
  rw [kMaxDetailBytes] at detail
  rw [kMaxEndpointIdBytes] at source destination sourceName destinationName
  rw [length_encode, StateObjectDescriptor.length_encode]
  omega

/-! ## Without failures -/

namespace MovementStore

variable {store : MovementStore}

theorem appendRecord_noFailure {record : LogRecord}
    (fits : record.payload.length ≤ store.options.maxRecordBytes.toNat) :
    (store.appendRecord record .complete).2 = .ok () := by
  unfold appendRecord
  rw [if_neg (Nat.not_lt.mpr fits)]

theorem retireVictims_noFailure (large : store.options.maxRecordBytes = 4194304)
    (victims : List MovementId) : (store.retireVictims victims noFailure).2 = .ok () := by
  induction victims generalizing store with
  | nil => rfl
  | cons id rest ih =>
      have kept := store.appendRecord_options (.retire id) (noFailure 0)
      have accepted : (store.appendRecord (.retire id) (noFailure 0)).2 = .ok () := by
        refine appendRecord_noFailure ?_
        rw [large]
        change id.encode.length ≤ 4194304
        rw [FixedId.encode, length_blob, FixedId.bytes_length]
        decide
      rw [retireVictims]
      rcases appending : store.appendRecord (.retire id) (noFailure 0) with ⟨appended, status | _⟩
      · rw [appending] at accepted
        cases accepted
      · rw [appending] at kept
        exact ih (kept ▸ large)

/-- A valid record is stored when no write fails. -/
theorem put_noFailure (large : store.options.maxRecordBytes = 4194304) {record : MovementRecord}
    (valid : record.validate = .ok ()) : (store.put record noFailure).2 = .ok () := by
  have kept := store.appendRecord_options (.movement record) (noFailure 0)
  have accepted : (store.appendRecord (.movement record) (noFailure 0)).2 = .ok () := by
    refine appendRecord_noFailure ?_
    rw [large]
    exact MovementRecord.length_encode_le valid
  unfold put
  rw [valid]
  rcases appending : store.appendRecord (.movement record) (noFailure 0) with ⟨appended, status | _⟩
  · rw [appending] at accepted
    cases accepted
  · rw [appending] at kept
    exact retireVictims_noFailure (kept ▸ large) _

end MovementStore

end StateMovementFabric
