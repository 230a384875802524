import StateMovementFabric.Core.Transitions
import StateMovementFabric.Store.Opened
import StateMovementFabric.Coordinator.Lifetimes

namespace StateMovementFabric

open Foundation

/-!
# The directory of a coordinator

A run changes its store by saving its own state and by putting movements.  As long as
every write succeeds and every detail that is written is a text, the file stays a log of
what is in memory.  A later run that opens the file, possibly under another bound on its
history, finds the same movements in the same order.
-/

/-! ## Logs under other options -/

section Options

variable {options other : MovementStoreOptions}

/-- What is read back depends only on the bound on the size of a record. -/
theorem Readable.of_sameBytes (same : other.maxRecordBytes = options.maxRecordBytes)
    {record : LogRecord} (readable : Readable options record) : Readable other record := by
  have decoding : decodeRecord other = decodeRecord options := by
    funext type payload
    unfold decodeRecord
    rw [same]
  constructor
  · exact readable.stored_eq
  · rw [same]
    exact readable.bounded
  · rw [decoding]
    exact readable.decodes

theorem ValidLog.of_sameBytes (same : other.maxRecordBytes = options.maxRecordBytes)
    {entries : List LogEntry} (log : ValidLog options entries) : ValidLog other entries := by
  unfold ValidLog at log ⊢
  generalize recoveryStart = state at log ⊢
  induction entries generalizing state with
  | nil => trivial
  | cons entry rest ih =>
      rcases log with ⟨ready, rests⟩
      exact ⟨⟨ready.1, ready.2.of_sameBytes same⟩, ih _ rests⟩

/-- A faithful store stays faithful under other options, and when its index is rebuilt. -/
theorem Faithful.reindexed {store : MovementStore} {entries : List LogEntry}
    (faithful : Faithful options store entries) (valid : other.validate = .ok ())
    (same : other.maxRecordBytes = options.maxRecordBytes) {contents : StoreContents}
    (agrees : contents.Agrees store.contents) :
    Faithful other { store with options := other, contents := contents } entries where
  options_eq := rfl
  options_valid := valid
  file_eq := faithful.file_eq
  offset_eq := faithful.offset_eq
  log := faithful.log.of_sameBytes same
  sequence_lt := faithful.sequence_lt
  agrees := agrees.trans faithful.agrees
  counted := by
    dsimp only
    rw [agrees.liveCount_eq]
    exact faithful.counted

end Options

/-! ## Stores whose file is a log of their index -/

namespace OpenStore

/-- The file of the store is a log that replays to the index in memory. -/
def Filed (store : OpenStore) : Prop :=
  exists entries, Faithful store.val.options store.val entries

theorem Faithful.filed {store : OpenStore} {options : MovementStoreOptions}
    {entries : List LogEntry} (faithful : Faithful options store.val entries) : store.Filed :=
  ⟨entries, faithful.options_eq.symm ▸ faithful⟩

theorem filed_newStore : newStore.Filed := ⟨[], faithful_new rfl⟩

section Changes

variable {store : OpenStore}

/-- The number of the next record is far from its end. -/
def roomy (store : OpenStore) : Bool := store.val.nextSequence.toNat < 2 ^ 62

theorem length_retentionVictims_le (store : MovementStore) :
    store.retentionVictims.length ≤ store.contents.order.length := by
  unfold MovementStore.retentionVictims
  dsimp only
  split
  · exact Nat.zero_le _
  · rw [List.length_take]
    exact Nat.le_trans (Nat.min_le_right _ _) (List.length_filter_le _ _)

theorem Filed.unwrapped_put (filed : store.Filed) (room : store.roomy = true)
    (record : MovementRecord) : (StoreOp.put record).Unwrapped store.val := by
  rcases filed with ⟨entries, faithful⟩
  have few := length_retentionVictims_le
    { store.val with contents := store.val.contents.insertRecord record }
  have grows : ((store.val.contents.insertRecord record).order).length ≤
      store.val.contents.order.length + 1 := by
    unfold StoreContents.insertRecord
    dsimp only
    split
    · exact Nat.le_succ _
    · rw [List.length_append, List.length_singleton]
  have counted : store.val.contents.order.length < store.val.nextSequence.toNat :=
    Nat.lt_of_le_of_lt (Nat.le_add_right _ _) faithful.counted
  have early : store.val.nextSequence.toNat < 2 ^ 62 := of_decide_eq_true room
  unfold StoreOp.Unwrapped StoreOp.appendCount
  dsimp only at few ⊢
  omega

theorem Filed.put (filed : store.Filed) (room : store.roomy = true) {record : MovementRecord}
    (text : isValidUtf8 record.lastDetail = true)
    (accepted : (store.put record noFailure).2 = .ok ()) : (store.put record noFailure).1.Filed := by
  have unwrapped := filed.unwrapped_put room record
  rcases filed with ⟨entries, faithful⟩
  rcases checked_of_put accepted with ⟨valid, bounded⟩
  have decodes : (StoreOp.put record).RoundTrips store.val.options :=
    decodeRecord_encode valid bounded text
  have success : store.val.put record noFailure = ((store.put record noFailure).1.val, .ok ()) :=
    Prod.ext rfl accepted
  rcases faithful.put decodes unwrapped success with ⟨longer, kept⟩
  exact Faithful.filed kept

theorem Filed.saveCoordinatorState (filed : store.Filed) (room : store.roomy = true)
    {state : CoordinatorPersistentState} (set : state.epoch.value ≠ 0)
    (saved : (store.saveCoordinatorState state noFailure).2 = .ok ()) :
    (store.saveCoordinatorState state noFailure).1.Filed := by
  rcases filed with ⟨entries, faithful⟩
  have success : store.val.saveCoordinatorState state noFailure =
      ((store.saveCoordinatorState state noFailure).1.val, .ok ()) :=
    Prod.ext rfl saved
  have performed : (StoreOp.saveCoordinatorState state).perform store.val =
      .ok (store.saveCoordinatorState state noFailure).1.val :=
    onSuccess_eq_ok.mpr success
  have decodes := roundTrips_of_perform performed (bne_iff_ne.mpr set)
  have early : store.val.nextSequence.toNat < 2 ^ 62 := of_decide_eq_true room
  rcases faithful.saveCoordinatorState decodes (by omega) success with ⟨longer, kept⟩
  exact Faithful.filed kept

/-- The state of a coordinator takes little room, and replaces nothing but itself. -/
theorem saveCoordinatorState_small (state : CoordinatorPersistentState)
    (fits : 72 ≤ store.val.options.maxRecordBytes.toNat) :
    (store.saveCoordinatorState state noFailure).2 = .ok () ∧
      (store.saveCoordinatorState state noFailure).1.val.contents =
        { store.val.contents with coordinatorState := some state } := by
  have small : ¬(LogRecord.coordinatorState state).payload.length >
      store.val.options.maxRecordBytes.toNat := by
    have size : (LogRecord.coordinatorState state).payload.length = 72 := by
      simp [LogRecord.payload, CoordinatorPersistentState.encode]
    omega
  change (store.val.saveCoordinatorState state noFailure).2 = _ ∧
    (store.val.saveCoordinatorState state noFailure).1.contents = _
  unfold MovementStore.saveCoordinatorState MovementStore.appendRecord
  rw [if_neg small]
  exact ⟨rfl, rfl⟩

theorem Filed.reopen (filed : store.Filed) {options : MovementStoreOptions}
    (valid : options.validate = .ok ())
    (same : options.maxRecordBytes = store.val.options.maxRecordBytes) :
    (store.reopen options).Filed := by
  rcases filed with ⟨entries, faithful⟩
  exact Faithful.filed (faithful.reindexed valid same store.property.applyAll_liveRecords.symm)

/-- Whoever opens the file finds what was in memory. -/
theorem Filed.ofFile (filed : store.Filed) {options : MovementStoreOptions}
    (valid : options.validate = .ok ())
    (same : options.maxRecordBytes = store.val.options.maxRecordBytes) :
    exists opened, OpenStore.ofFile options store.val.file = .ok opened ∧
      opened.val.options = options ∧ opened.val.contents.Agrees store.val.contents := by
  rcases filed with ⟨entries, faithful⟩
  rcases openStore_log valid (faithful.log.of_sameBytes same) with ⟨report, opens, _⟩
  rw [← faithful.file_eq] at opens
  unfold OpenStore.ofFile
  split
  · rename_i status refused
    rw [opens] at refused
    cases refused
  · rename_i opened found reads
    rw [opens] at reads
    cases reads
    exact ⟨_, rfl, rfl, faithful.agrees.symm⟩

end Changes

end OpenStore

/-! ## Runs -/

theorem Startup.epoch_ne_zero (store : OpenStore) : (Startup.epoch store).value ≠ 0 := by
  unfold Startup.epoch
  split
  · decide
  · split
    · rename_i next advanced
      exact bne_iff_ne.mp (Generation.isSet_of_next advanced)
    · decide

/-- A run that starts without a write failure on a log continues it. -/
theorem Startup.filed_start {startup : Startup} {store : OpenStore} {plane : ControlPlane}
    (filed : store.Filed) (options : startup.config.storeOptions.validate = .ok ())
    (same : store.val.options.maxRecordBytes = 4194304) (room : store.roomy = true)
    (calm : startup.outcomes = noFailure) (begun : (startup.start store).2 = .ok plane) :
    plane.coordinator.store.Filed := by
  have reopened : (store.reopen startup.config.storeOptions).Filed :=
    filed.reopen options same.symm
  unfold start at begun
  split at begun
  · cases begun
  · dsimp only at begun
    split at begun
    · cases begun
    · rw [calm] at begun
      split at begun
      · cases begun
      · rename_i saved success
        cases begun
        have kept := reopened.saveCoordinatorState room
          (Startup.epoch_ne_zero (store.reopen startup.config.storeOptions))
          (congrArg Prod.snd success)
        rw [success] at kept
        exact kept

/-- The action meets no write failure. -/
def PlaneAction.Calm : PlaneAction -> Prop
  | .run _ environment => environment.outcomes = noFailure
  | _ => True

namespace ControlPlane

/-- If the action writes a movement, its detail is a text and the write is accepted. -/
def writesText (plane : ControlPlane) : PlaneAction -> Bool
  | .run index _ =>
      match plane.coordinator.performing index with
      | some (_, .storePut record) =>
          plane.coordinator.store.roomy && isValidUtf8 record.lastDetail &&
            succeeded (plane.coordinator.store.put record noFailure).2
      | _ => true
  | _ => true

theorem outcomes_around (plane : ControlPlane) (index : Nat) (environment : Environment) :
    (plane.around index environment).outcomes = environment.outcomes := by
  unfold around
  split
  · unfold SessionTable.surround
    split <;> rfl
  · rfl

section Steps

variable {config : CoordinatorConfig} {plane : ControlPlane}

theorem filed_run {index : Nat} {environment : Environment}
    (filed : plane.coordinator.store.Filed) (calm : environment.outcomes = noFailure)
    (texts : plane.writesText (.run index environment) = true) :
    (plane.step config (.run index environment)).coordinator.store.Filed := by
  change (plane.coordinator.resume index (plane.around index environment)).store.Filed
  unfold Coordinator.resume
  cases performed : plane.coordinator.performing index with
  | none => exact filed
  | some pair =>
      rcases pair with ⟨thread, op⟩
      cases op with
      | storePut record =>
          change (plane.coordinator.store.put record _).1.Filed
          rw [outcomes_around, calm]
          rw [writesText, performed] at texts
          dsimp only at texts
          rw [Bool.and_eq_true, Bool.and_eq_true] at texts
          exact filed.put texts.1.1 texts.1.2 (eq_ok_valueOr () texts.2)
      | _ => exact filed

theorem filed_step {action : PlaneAction} (filed : plane.coordinator.store.Filed)
    (calm : action.Calm) (texts : plane.writesText action = true) :
    (plane.step config action).coordinator.store.Filed := by
  have begins : forall call queue,
      (plane.coordinator.begin config call queue).store = plane.coordinator.store := by
    intro call queue
    unfold Coordinator.begin
    split <;> rfl
  cases action with
  | session action => exact filed
  | run index environment => exact filed_run filed calm texts
  | pickUp =>
      change (plane.coordinator.step config .pickUp).store.Filed
      rw [Coordinator.step]
      cases plane.coordinator.queue with
      | nil => exact filed
      | cons id rest => exact (begins _ _).symm ▸ filed
  | submit request => exact (begins _ _).symm ▸ filed
  | cancel id => exact (begins _ _).symm ▸ filed
  | reconcile id => exact (begins _ _).symm ▸ filed

/-- A run in which every write succeeds and every detail is a text leaves a file that
replays to its store. -/
theorem filed_final {actions : List PlaneAction} (filed : plane.coordinator.store.Filed)
    (calm : forall action, action ∈ actions -> action.Calm)
    (texts : everyStep (step config) writesText plane actions = true) :
    (plane.final config actions).coordinator.store.Filed := by
  induction actions generalizing plane with
  | nil => exact filed
  | cons action rest ih =>
      rw [everyStep, Bool.and_eq_true] at texts
      exact ih (filed_step filed (calm action List.mem_cons_self) texts.1)
        (fun later inside => calm later (List.mem_cons_of_mem _ inside)) texts.2

end Steps

end ControlPlane

/-- So does a whole run, from its start on. -/
theorem Lifetime.filed_live {lifetime : Lifetime} {store : OpenStore} {plane : ControlPlane}
    (begun : (lifetime.startup.start store).2 = .ok plane) (survives : lifetime.survives = true)
    (filed : plane.coordinator.store.Filed)
    (calm : forall action, action ∈ lifetime.actions -> action.Calm)
    (texts : everyStep (ControlPlane.step lifetime.startup.config) ControlPlane.writesText plane
      lifetime.actions = true) :
    (lifetime.live store).1.Filed := by
  have reached : (lifetime.live store).1 =
      (plane.final lifetime.startup.config lifetime.actions).coordinator.store := by
    unfold live
    dsimp only
    rw [begun, survives]
  rw [reached]
  exact ControlPlane.filed_final filed calm texts

end StateMovementFabric
