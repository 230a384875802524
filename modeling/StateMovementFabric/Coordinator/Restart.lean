import StateMovementFabric.Coordinator.Announcements
import StateMovementFabric.Coordinator.Directory
import StateMovementFabric.Coordinator.UnknownOutcomes

namespace StateMovementFabric

open Foundation

/-!
# Recovery after a restart

`recover_after_restart` lists the newest movements, at most as many as the history bound of
the new policy, and moves every one that is not terminal to a conservative state.  A
transition that is refused is skipped without a word.  What is left in flight is therefore
exactly what the listing does not reach and what cannot take another transition.
-/

/-! ## Recovery as a function of the store -/

/-- The store during recovery, and how often the clock has been read. -/
structure Recovering where
  store : OpenStore
  readings : Nat

namespace Recovering

def readsClock : CoordinatorOp -> Nat
  | .unixMillis => 1
  | _ => 0

/-- Nothing else runs during recovery, and every write succeeds. -/
def respond (clock : Nat -> Millis) (recovering : Recovering) (op : CoordinatorOp) :
    Recovering × coordinatorSignature.Reply op :=
  let environment : Environment := { now := clock recovering.readings }
  (⟨Coordinator.storeAfter recovering.store environment op,
    recovering.readings + readsClock op⟩, environment.reply recovering.store op)

/-- The visit of one movement that is not terminal. -/
def visit (clock : Nat -> Millis) (recovering : Recovering) (stored : MovementRecord) :
    Recovering :=
  let changed := recoveryTransition stored (clock recovering.readings)
  ⟨if succeeded changed.2 then (recovering.store.put changed.1 noFailure).1 else recovering.store,
    recovering.readings + 1⟩

end Recovering

namespace OpenStore

/-- The store after `recover_after_restart` without a write failure. -/
def recoverAfterRestart (config : CoordinatorConfig) (clock : Nat -> Millis) (store : OpenStore) :
    OpenStore :=
  (Program.interpret (Recovering.respond clock) (Recovering.mk store 0)
    (StateMovementFabric.recoverAfterRestart config)).1.store

/-- The movements that recovery visits, in its order. -/
def visited (config : CoordinatorConfig) (store : OpenStore) : List MovementRecord :=
  (store.val.list config.policy.maxHistoryRecords 0).filter fun record => !isTerminal record.state

end OpenStore

namespace Recovering

variable {clock : Nat -> Millis}

/-- The loop of recovery visits the movements that are not terminal, one after the other. -/
theorem interpret_revisit (records : List MovementRecord) (recovering : Recovering) :
    (Program.interpret (respond clock) recovering (revisit records)).1 =
      (records.filter fun record => !isTerminal record.state).foldl (visit clock) recovering := by
  induction records generalizing recovering with
  | nil => rfl
  | cons stored rest ih =>
      cases terminal : isTerminal stored.state with
      | true =>
          rw [revisit, if_pos terminal, List.filter_cons_of_neg (by rw [terminal]; decide)]
          exact ih recovering
      | false =>
          have visits : Program.interpret (respond clock) recovering (revisit (stored :: rest)) =
              Program.interpret (respond clock) (recovering.visit clock stored) (revisit rest) := by
            rw [revisit, if_neg (by rw [terminal]; decide)]
            change Program.interpret (respond clock) ⟨recovering.store, recovering.readings + 1⟩
              (persistWhen (succeeded (recoveryTransition stored (clock recovering.readings)).2)
                (recoveryTransition stored (clock recovering.readings)).1 >>= fun _ =>
                revisit rest) = _
            unfold visit
            dsimp only
            cases succeeded (recoveryTransition stored (clock recovering.readings)).2 with
            | true => rfl
            | false => rfl
          rw [visits, ih, List.filter_cons_of_pos (by rw [terminal]; decide), List.foldl_cons]

theorem recoverAfterRestart_eq (config : CoordinatorConfig) (store : OpenStore) :
    store.recoverAfterRestart config clock =
      ((store.visited config).foldl (visit clock) ⟨store, 0⟩).store := by
  exact congrArg Recovering.store (interpret_revisit _ _)

end Recovering

/-! ## Which movements land -/

namespace MovementRecord

/-- Neither terminal nor waiting for reconciliation. -/
def inFlight (record : MovementRecord) : Bool :=
  !isTerminal record.state && record.state != .OUTCOME_UNKNOWN

/-- There is a generation and room in the history for one more transition, and the clock
gives it a time. -/
def canLand (record : MovementRecord) (now : Millis) : Bool :=
  record.generation.value != 18446744073709551615 &&
    decide (record.provenance.events.length < kMaxProvenanceEvents) && decide (0 < now)

/-- The state to which recovery moves an unfinished movement. -/
def landing (record : MovementRecord) : MovementState :=
  if record.state = .PLANNED then .FAILED else .OUTCOME_UNKNOWN

variable {record : MovementRecord} {next : MovementState} {decision : MovementDecision}
  {kind : ProvenanceEventKind} {now : Millis}

theorem canLand_iff : record.canLand now = true ↔
    record.generation.value ≠ 18446744073709551615 ∧
      record.provenance.events.length < kMaxProvenanceEvents ∧ 0 < now := by
  simp only [canLand, Bool.and_eq_true, bne_iff_ne, decide_eq_true_eq, and_assoc, ne_eq]

/-- A legal transition is refused only when the generation or the history is exhausted or
the clock is not set. -/
theorem succeeded_applyTransition_iff (legal : checkTransition record.state next = .ok ())
    (bound : record.provenance.bound = kMaxProvenanceEvents)
    (short : decision.detail.length ≤ kMaxDetailBytes)
    (utf8 : isValidUtf8 decision.detail = true) :
    succeeded (applyTransition record next decision kind now).2 = true ↔
      record.canLand now = true := by
  have taken_iff : record.provenance.takes now decision.detail = true ↔
      record.provenance.events.length < kMaxProvenanceEvents ∧ 0 < now := by
    rw [ProvenanceChain.takes_iff, bound]
    constructor
    · rintro ⟨room, positive, _⟩
      exact ⟨room, positive⟩
    · rintro ⟨room, positive⟩
      exact ⟨room, positive, short, Or.inr utf8⟩
  have ends := transition_applyTransition record next decision kind now
  rw [canLand_iff, ← taken_iff, ← Generation.exists_next_iff]
  generalize (applyTransition record next decision kind now).1 = changed at ends
  generalize (applyTransition record next decision kind now).2 = result at ends ⊢
  cases ends with
  | illegal _ status refused => cases refused.symm.trans legal
  | exhausted status _ refused =>
      refine iff_of_false Bool.false_ne_true ?_
      rintro ⟨⟨successor, advanced⟩, _⟩
      cases refused.symm.trans advanced
  | unrecorded _ status moved refused =>
      refine iff_of_false Bool.false_ne_true ?_
      rintro ⟨_, taken⟩
      cases refused.symm.trans taken
  | applied _ event moved taken => exact iff_of_true rfl ⟨⟨_, moved.generation⟩, taken⟩

/-! The two texts of recovery are short and plain. -/

theorem recovery_texts :
    ((ascii "the coordinator restarted before the movement was authorized").length ≤
        kMaxDetailBytes ∧
      isValidUtf8 (ascii "the coordinator restarted before the movement was authorized") = true) ∧
    (ascii
        ("the coordinator restarted while the movement was in flight; the outcome must be " ++
          "reconciled rather than assumed")).length ≤ kMaxDetailBytes ∧
      isValidUtf8 (ascii
        ("the coordinator restarted while the movement was in flight; the outcome must be " ++
          "reconciled rather than assumed")) = true := by
  decide +kernel

/-- Recovery is refused a movement in flight only where no transition is possible. -/
theorem lands_iff (flying : record.inFlight = true)
    (bound : record.provenance.bound = kMaxProvenanceEvents) :
    succeeded (recoveryTransition record now).2 = true ↔ record.canLand now = true := by
  unfold recoveryTransition
  split
  · rename_i planned
    exact succeeded_applyTransition_iff (by rw [planned]; rfl) bound recovery_texts.1.1
      recovery_texts.1.2
  · rename_i unplanned
    refine succeeded_applyTransition_iff ?_ bound recovery_texts.2.1 recovery_texts.2.2
    unfold inFlight at flying
    revert flying unplanned
    cases record.state <;> decide

/-- A movement that waits for reconciliation is left as it is. -/
theorem not_lands_of_unknown (unknown : record.state = .OUTCOME_UNKNOWN) :
    succeeded (recoveryTransition record now).2 = false := by
  unfold recoveryTransition applyTransition
  rw [unknown]
  rfl

/-- What recovery writes. -/
theorem landed (applied : succeeded (recoveryTransition record now).2 = true) :
    (recoveryTransition record now).1.id = record.id ∧
      (recoveryTransition record now).1.state = record.landing := by
  have moved : forall next decision kind,
      succeeded (applyTransition record next decision kind now).2 = true ->
      record.Moved next (applyTransition record next decision kind now).1 := by
    intro next decision kind success
    refine moved_of_applyTransition (Prod.ext rfl ?_)
    cases returned : (applyTransition record next decision kind now).2 with
    | error status =>
        rw [returned] at success
        cases success
    | ok _ => rfl
  unfold recoveryTransition at applied ⊢
  unfold landing
  split at applied
  · rename_i planned
    rw [if_pos planned, if_pos planned]
    exact ⟨(moved _ _ _ applied).id, (moved _ _ _ applied).state⟩
  · rename_i unplanned
    rw [if_neg unplanned, if_neg unplanned]
    exact ⟨(moved _ _ _ applied).id, (moved _ _ _ applied).state⟩

theorem validate_landed (valid : record.validate = .ok ())
    (applied : succeeded (recoveryTransition record now).2 = true) :
    (recoveryTransition record now).1.validate = .ok () := by
  unfold recoveryTransition at applied ⊢
  split at applied
  · rename_i planned
    rw [if_pos planned]
    exact validate_applyTransition valid (by decide) recovery_texts.1.1 applied
  · rename_i unplanned
    rw [if_neg unplanned]
    exact validate_applyTransition valid (by decide) recovery_texts.2.1 applied

end MovementRecord

/-! ## Whole recoveries -/

variable {found : MovementRecord} {id : MovementId}

namespace Recovering

variable {clock : Nat -> Millis}

/-- A record that recovery writes reaches the store of a coordinator. -/
theorem persists_landed {store : OpenStore} {record : MovementRecord} {now : Millis}
    (large : store.val.options.maxRecordBytes = 4194304) (valid : record.validate = .ok ())
    (applied : succeeded (recoveryTransition record now).2 = true) :
    store.val.persists (recoveryTransition record now).1 noFailure = true := by
  have checked := record.validate_landed valid applied
  exact MovementStore.persists_of_put (MovementStore.put_noFailure large checked)

theorem visit_options (recovering : Recovering) (record : MovementRecord) :
    (recovering.visit clock record).store.val.options = recovering.store.val.options := by
  unfold visit
  dsimp only
  split
  · exact MovementStore.put_options _ _ _
  · rfl

variable {records : List MovementRecord} {recovering : Recovering}

/-- What is found after the visits was there before and has not been moved, or was written
by one of them. -/
theorem get_foldl_visit (large : recovering.store.val.options.maxRecordBytes = 4194304)
    (valid : forall record, record ∈ records -> record.validate = .ok ())
    (after : (records.foldl (visit clock) recovering).store.get id = .ok found) :
    (recovering.store.get id = .ok found ∧ forall index record, records[index]? = some record ->
        record.id = id ->
        succeeded (recoveryTransition record (clock (recovering.readings + index))).2 = false) ∨
      exists index record, records[index]? = some record ∧ record.id = id ∧
        succeeded (recoveryTransition record (clock (recovering.readings + index))).2 = true ∧
        found = (recoveryTransition record (clock (recovering.readings + index))).1 := by
  induction records generalizing recovering with
  | nil => exact Or.inl ⟨after, fun index record impossible => (by cases impossible)⟩
  | cons first rest ih =>
      have validRest := fun record member => valid record (List.mem_cons_of_mem first member)
      rw [List.foldl_cons] at after
      have later := ih ((visit_options recovering first).symm ▸ large) validRest after
      -- positions in the rest of the list are shifted by the visit that came first
      have shifted : forall index, (recovering.visit clock first).readings + index =
          recovering.readings + (index + 1) := fun index => by
        change recovering.readings + 1 + index = _
        omega
      simp only [shifted] at later
      rcases later with ⟨kept, unmoved⟩ | ⟨index, record, located, same, moved, written⟩
      · have others : succeeded (recoveryTransition first (clock recovering.readings)).2 = false ∨
            first.id ≠ id -> forall index record, (first :: rest)[index]? = some record ->
            record.id = id -> succeeded (recoveryTransition record
              (clock (recovering.readings + index))).2 = false := by
          intro spared index record located same
          cases index with
          | zero =>
              cases located
              exact spared.resolve_right fun different => different same
          | succ index => exact unmoved index record located same
        unfold visit at kept
        dsimp only at kept
        split at kept
        · rename_i moves
          have persists : recovering.store.val.persists
              (recoveryTransition first (clock recovering.readings)).1 noFailure = true :=
            persists_landed large (valid first List.mem_cons_self) moves
          have sameId := (MovementRecord.landed moves).1
          rcases MovementStore.get_put kept with ⟨_, mine, rfl⟩ | ⟨different, earlier⟩
          · exact Or.inr ⟨0, first, rfl, (mine.trans sameId).symm, moves, rfl⟩
          · refine Or.inl ⟨earlier, others (Or.inr fun same => different persists ?_)⟩
            rw [sameId, same]
        · rename_i stays
          exact Or.inl ⟨kept, others (Or.inl (Bool.eq_false_of_not_eq_true stays))⟩
      · exact Or.inr ⟨index + 1, record, located, same, moved, written⟩

/-- A record that is not terminal and that no visit moves is still there. -/
theorem get_foldl_visit_of_unmoved (before : recovering.store.get id = .ok found)
    (unfinished : isTerminal found.state = false)
    (unmoved : forall index record, records[index]? = some record -> record.id = id ->
      succeeded (recoveryTransition record (clock (recovering.readings + index))).2 = false) :
    (records.foldl (visit clock) recovering).store.get id = .ok found := by
  induction records generalizing recovering with
  | nil => exact before
  | cons first rest ih =>
      rw [List.foldl_cons]
      refine ih ?_ fun index record located same => ?_
      · unfold visit
        dsimp only
        split
        · rename_i moves
          refine MovementStore.get_put_of_not_terminal before (fun same => ?_) unfinished
          rw [(MovementRecord.landed moves).1] at same
          exact absurd (unmoved 0 first rfl same.symm) (by rw [Nat.add_zero, moves]; decide)
        · exact before
      · change succeeded (recoveryTransition record
          (clock (recovering.readings + 1 + index))).2 = false
        rw [Nat.add_right_comm, Nat.add_assoc]
        exact unmoved (index + 1) record located same

end Recovering

/-! ## The result -/

/-- What a restart promises of the movements: each is terminal or waits for reconciliation,
a terminal one is what it was, and one that was only planned has failed.  A terminal record
that is no longer there was retired by retention, which is all that removes a record. -/
structure Conservative (before after : OpenStore) : Prop where
  settled : forall id record, after.get id = .ok record ->
    isTerminal record.state = true ∨ record.state = .OUTCOME_UNKNOWN
  terminal : forall id record, before.get id = .ok record -> isTerminal record.state = true ->
    forall later, after.get id = .ok later -> later = record
  planned : forall id record, before.get id = .ok record -> record.state = .PLANNED ->
    forall later, after.get id = .ok later -> later.state = .FAILED

/-- Every movement in flight is reached by the listing and can take one more transition
when its turn comes. -/
def EveryFlightLands (config : CoordinatorConfig) (clock : Nat -> Millis) (store : OpenStore) :
    Prop :=
  forall id record, store.get id = .ok record -> record.inFlight = true ->
    exists index, (store.visited config)[index]? = some record ∧
      record.canLand (clock index) = true

namespace Startup

/-- `start` on the file of a directory, up to recovery. -/
def openFile (startup : Startup) (file : Bytes) : Result OpenStore := do
  startup.check
  let opened ← OpenStore.ofFile startup.config.storeOptions file
  let _ ← (Incarnation.make startup.endpointId startup.boot (epoch opened) :
    Result EndpointIncarnation)
  let saved := opened.saveCoordinatorState (startup.savedState (epoch opened)) startup.outcomes
  saved.2
  return saved.1

theorem saveCoordinatorState_kept (store : OpenStore) (state : CoordinatorPersistentState)
    (outcomes : WriteOutcomes) :
    (store.saveCoordinatorState state outcomes).1.val.contents.records =
        store.val.contents.records ∧
      (store.saveCoordinatorState state outcomes).1.val.options = store.val.options := by
  have contents := store.val.appendRecord_contents (.coordinatorState state) (outcomes 0)
  have options := store.val.appendRecord_options (.coordinatorState state) (outcomes 0)
  change (store.val.saveCoordinatorState state outcomes).1.contents.records = _ ∧
    (store.val.saveCoordinatorState state outcomes).1.options = _
  unfold MovementStore.saveCoordinatorState
  rcases appending : store.val.appendRecord (.coordinatorState state) (outcomes 0) with
    ⟨appended, status | _⟩
  · rw [appending] at contents options
    exact ⟨congrArg StoreContents.records contents, options⟩
  · rw [appending] at contents options
    have same : appended.contents.records = store.val.contents.records :=
      congrArg StoreContents.records contents
    exact ⟨same, options⟩

/-- The store in which a run recovers holds records that were checked when they were
read. -/
theorem sound_of_openFile {startup : Startup} {file : Bytes} {store : OpenStore}
    (started : startup.openFile file = .ok store) :
    store.val.contents.Sound ∧ store.val.options = startup.config.storeOptions := by
  rcases check_bind_eq_ok.mp started with ⟨_, started⟩
  rcases bind_eq_ok.mp started with ⟨opened, opening, started⟩
  rcases bind_eq_ok.mp started with ⟨_, _, started⟩
  rcases check_bind_eq_ok.mp started with ⟨_, returned⟩
  cases returned
  rcases OpenStore.ofFile_eq_ok opening with ⟨_, reading⟩
  rcases saveCoordinatorState_kept opened (startup.savedState (epoch opened)) startup.outcomes with
    ⟨records, options⟩
  refine ⟨?_, options.trans (replays_of_openStore reading).1⟩
  unfold StoreContents.Sound
  rw [records]
  exact sound_of_openStore reading

/-- A run that finds a log opens it, saves its own state and recovers from what was in
memory. -/
theorem openFile_of_filed (startup : Startup) {store : OpenStore} (filed : store.Filed)
    (checked : startup.check = .ok ()) (calm : startup.outcomes = noFailure)
    (options : startup.config.storeOptions.validate = .ok ())
    (same : store.val.options.maxRecordBytes = 4194304)
    (identified : succeeded (Incarnation.make startup.endpointId startup.boot (epoch store) :
      Result EndpointIncarnation) = true) :
    exists opened, startup.openFile store.val.file = .ok opened ∧
      opened.val.contents.order = store.val.contents.order ∧
      forall id, opened.val.contents.stored id = store.val.contents.stored id := by
  rcases filed.ofFile options same.symm with ⟨opened, opens, kept, agrees⟩
  have epochs : epoch opened = epoch store := by
    unfold epoch
    rw [agrees.coordinatorState]
  have identity := eq_ok_valueOr default identified
  have fits : 72 ≤ opened.val.options.maxRecordBytes.toNat := by
    rw [kept]
    exact (by decide : 72 ≤ (4194304 : UInt32).toNat)
  rcases OpenStore.saveCoordinatorState_small (startup.savedState (epoch store)) fits with
    ⟨saved, contents⟩
  refine ⟨(opened.saveCoordinatorState (startup.savedState (epoch store)) noFailure).1, ?_, ?_, ?_⟩
  · unfold openFile
    rw [checked, ok_bind, opens, ok_bind, epochs, identity, ok_bind, calm]
    dsimp only
    rw [saved]
    rfl
  · rw [contents]
    exact agrees.order
  · intro id
    rw [contents]
    exact agrees.stored id

end Startup

section Restarts

variable {config : CoordinatorConfig} {clock : Nat -> Millis} {store : OpenStore}

variable {index : Nat}

theorem OpenStore.get_of_visited {record : MovementRecord}
    (located : (store.visited config)[index]? = some record) :
    store.get record.id = .ok record ∧ isTerminal record.state = false := by
  rcases List.mem_filter.mp (List.mem_of_getElem? located) with ⟨inside, unfinished⟩
  exact ⟨OpenStore.get_of_mem_list inside, by simpa using unfinished⟩

/-- The movement that is visited under an id is the one that is stored under it. -/
theorem OpenStore.visited_eq {record : MovementRecord}
    (located : (store.visited config)[index]? = some record) (same : record.id = id)
    (stored : store.get id = .ok found) : record = found := by
  have again := (get_of_visited located).1
  rw [same, stored] at again
  cases again
  rfl

theorem StoreContents.Sound.of_get (sound : store.val.contents.Sound) {record : MovementRecord}
    (found : store.get id = .ok record) :
    record.validate = .ok () ∧ record.provenance.bound = kMaxProvenanceEvents :=
  sound id record (MovementStore.get_eq_ok.mp found)

theorem MovementRecord.inFlight_iff {record : MovementRecord} : record.inFlight = true ↔
    isTerminal record.state = false ∧ record.state ≠ .OUTCOME_UNKNOWN := by
  rw [inFlight, Bool.and_eq_true, Bool.not_eq_true', bne_iff_ne]

/-- A movement in flight that cannot land is found in flight afterwards. -/
theorem everyFlightLands_of_conservative (sound : store.val.contents.Sound)
    (conservative : Conservative store (store.recoverAfterRestart config clock)) :
    EveryFlightLands config clock store := by
  intro id record found flying
  by_contra grounded
  rcases MovementRecord.inFlight_iff.mp flying with ⟨unfinished, waiting⟩
  have unmoved : forall (index : Nat) (visited : MovementRecord),
      (store.visited config)[index]? = some visited -> visited.id = id ->
      succeeded (recoveryTransition visited (clock (0 + index))).2 = false := by
    intro index visited located same
    cases OpenStore.visited_eq located same found
    have refused : ¬record.canLand (clock index) = true := fun lands =>
      grounded ⟨index, located, lands⟩
    rw [Nat.zero_add]
    exact Bool.eq_false_of_not_eq_true
      (mt (MovementRecord.lands_iff flying (sound.of_get found).2).mp refused)
  have stays : (store.recoverAfterRestart config clock).get id = .ok record := by
    rw [Recovering.recoverAfterRestart_eq]
    exact Recovering.get_foldl_visit_of_unmoved found unfinished unmoved
  rcases conservative.settled id record stays with terminal | unknown
  · rw [terminal] at unfinished
    cases unfinished
  · exact waiting unknown

/-- What is found after a recovery in which every flight lands: what was there and was not
in flight, or what recovery wrote for a movement that was. -/
theorem get_recoverAfterRestart (sound : store.val.contents.Sound)
    (large : store.val.options.maxRecordBytes = 4194304)
    (lands : EveryFlightLands config clock store) {later : MovementRecord}
    (after : (store.recoverAfterRestart config clock).get id = .ok later) :
    (store.get id = .ok later ∧ later.inFlight = false) ∨
      exists record, store.get id = .ok record ∧ record.inFlight = true ∧
        later.state = record.landing := by
  have valid : forall record, record ∈ store.visited config -> record.validate = .ok () := by
    intro record inside
    rcases List.getElem?_of_mem inside with ⟨index, located⟩
    exact (sound.of_get (OpenStore.get_of_visited located).1).1
  rw [Recovering.recoverAfterRestart_eq] at after
  rcases Recovering.get_foldl_visit large valid after with
    ⟨kept, unmoved⟩ | ⟨index, record, located, same, moved, rfl⟩
  · refine Or.inl ⟨kept, Bool.eq_false_of_not_eq_true fun flying => ?_⟩
    rcases lands id later kept flying with ⟨index, located, possible⟩
    have moves := (MovementRecord.lands_iff flying (sound.of_get kept).2).mpr possible
    have stays := unmoved index later located (OpenStore.id_of_get kept)
    rw [show Recovering.readings ⟨store, 0⟩ + index = index from Nat.zero_add index, moves] at stays
    cases stays
  · rcases OpenStore.get_of_visited located with ⟨stored, unfinished⟩
    rw [same] at stored
    refine Or.inr ⟨record, stored, MovementRecord.inFlight_iff.mpr ⟨unfinished, ?_⟩,
      (MovementRecord.landed moved).2⟩
    intro unknown
    rw [MovementRecord.not_lands_of_unknown unknown] at moved
    cases moved

theorem conservative_of_everyFlightLands (sound : store.val.contents.Sound)
    (large : store.val.options.maxRecordBytes = 4194304)
    (lands : EveryFlightLands config clock store) :
    Conservative store (store.recoverAfterRestart config clock) where
  settled := by
    intro id later after
    rcases get_recoverAfterRestart sound large lands after with ⟨_, grounded⟩ | ⟨record, _, _, state⟩
    · by_contra flying
      rcases not_or.mp flying with ⟨unfinished, waiting⟩
      have inFlight := MovementRecord.inFlight_iff.mpr
        ⟨Bool.eq_false_of_not_eq_true unfinished, waiting⟩
      rw [inFlight] at grounded
      cases grounded
    · rw [state, MovementRecord.landing]
      split
      · exact Or.inl rfl
      · exact Or.inr rfl
  terminal := by
    intro id record found terminal later after
    rcases get_recoverAfterRestart sound large lands after with ⟨kept, _⟩ | ⟨flight, stored, flying, _⟩
    · cases found.symm.trans kept
      rfl
    · cases found.symm.trans stored
      rw [(MovementRecord.inFlight_iff.mp flying).1] at terminal
      cases terminal
  planned := by
    intro id record found planned later after
    rcases get_recoverAfterRestart sound large lands after with
      ⟨kept, grounded⟩ | ⟨flight, stored, _, state⟩
    · cases found.symm.trans kept
      rw [MovementRecord.inFlight, planned] at grounded
      cases grounded
    · cases found.symm.trans stored
      rw [state, MovementRecord.landing, if_pos planned]

end Restarts

/-- A restart is conservative exactly when every movement in flight is reached by the
listing and can take one more transition: whatever file the run is started on, and
whatever its configuration and its clock are. -/
theorem restart_conservative_iff (startup : Startup) (file : Bytes) (store : OpenStore)
    (clock : Nat -> Millis) (started : startup.openFile file = .ok store) :
    Conservative store (store.recoverAfterRestart startup.config clock) ↔
      EveryFlightLands startup.config clock store := by
  rcases Startup.sound_of_openFile started with ⟨sound, options⟩
  have large : store.val.options.maxRecordBytes = 4194304 := by rw [options]; rfl
  exact ⟨everyFlightLands_of_conservative sound, conservative_of_everyFlightLands sound large⟩

/-- A start on the directory of a coordinator that authorized one movement. -/
theorem restart_conservative_oneFlight :
    exists store, briefLifetime.startup.openFile
        (storeHolding (oneByteMovement .AUTHORIZED)).val.file = .ok store ∧
      (Conservative store (store.recoverAfterRestart briefLifetime.startup.config fun _ => 1) ↔
        EveryFlightLands briefLifetime.startup.config (fun _ => 1) store) := by
  have accepted : (newStore.put (oneByteMovement .AUTHORIZED) noFailure).2 = .ok () := by
    decide +kernel
  have filed : (storeHolding (oneByteMovement .AUTHORIZED)).Filed :=
    OpenStore.filed_newStore.put rfl rfl accepted
  rcases Startup.openFile_of_filed briefLifetime.startup filed (by decide +kernel) rfl rfl
    (by decide +kernel) (by decide +kernel) with ⟨store, started, _⟩
  exact ⟨store, started, restart_conservative_iff briefLifetime.startup _ _ (fun _ => 1) started⟩

/-- A run in which two movements are submitted and that is killed when both are planned. -/
def twoSubmissions : Lifetime where
  startup := ⟨{ sharedSecret := List.replicate 32 7, policy := { minChunkBytes := 1024 } },
    endpointA, .filled 9, 1, noFailure⟩
  survives := true
  actions :=
    [.run 0 {}, .session (.opens SessionTable.firstBoot), .session (.opens SessionTable.otherPeer),
      .session (.receives 0 1 (SessionTable.registerFrame SessionTable.firstBoot)),
      .session (.receives 1 1 (SessionTable.registerFrame SessionTable.otherPeer)),
      ControlPlane.announceAction oneByteObject] ++
    (ControlPlane.submission 1 (.filled 1)).take 10 ++
    (ControlPlane.submission 2 (.filled 2)).take 10

/-- The next run keeps the history of one movement. -/
def shortHistory : Startup :=
  ⟨{ sharedSecret := List.replicate 32 7,
     policy := { minChunkBytes := 1024, maxHistoryRecords := 1 } },
    endpointA, .filled 10, 2, noFailure⟩

theorem calm_twoSubmissions (action : PlaneAction) (inside : action ∈ twoSubmissions.actions) :
    action.Calm := by
  have runs : forall count index id, action ∈ (ControlPlane.submission index id).take count ->
      action.Calm := by
    intro count index id submitted
    rcases List.mem_cons.mp (List.mem_of_mem_take submitted) with submits | operates
    · rw [submits]
      trivial
    · rw [List.eq_of_mem_replicate operates]
      rfl
  rcases List.mem_append.mp inside with earlier | second
  · rcases List.mem_append.mp earlier with prepares | first
    · simp only [List.mem_cons, List.not_mem_nil, or_false] at prepares
      rcases prepares with rfl | rfl | rfl | rfl | rfl | rfl
      · rfl
      all_goals trivial
    · exact runs _ _ _ first
  · exact runs _ _ _ second

theorem filed_twoSubmissions : (twoSubmissions.live newStore).1.Filed := by
  have texts : (twoSubmissions.startup.start newStore).2.toOption.map (fun plane =>
      everyStep (ControlPlane.step twoSubmissions.startup.config) ControlPlane.writesText plane
        twoSubmissions.actions) = some true := by
    decide +kernel
  rcases Option.map_eq_some_iff.mp texts with ⟨plane, begun, written⟩
  have started := toOption_eq_some.mp begun
  exact Lifetime.filed_live started rfl
    (Startup.filed_start OpenStore.filed_newStore rfl rfl rfl rfl started) calm_twoSubmissions
    written

/-- The older of the two movements is not listed, and is planned still. -/
theorem restart_overlooks_movement :
    exists store, shortHistory.openFile (twoSubmissions.live newStore).1.val.file = .ok store ∧
      ¬ Conservative store (store.recoverAfterRestart shortHistory.config fun _ => 3) := by
  have evaluated : (twoSubmissions.live newStore).1.stateOf (.filled 1) = some .PLANNED ∧
      (twoSubmissions.live newStore).1.val.contents.order = [.filled 1, .filled 2] ∧
      succeeded (Incarnation.make shortHistory.endpointId shortHistory.boot
        (Startup.epoch (twoSubmissions.live newStore).1) : Result EndpointIncarnation) = true ∧
      (twoSubmissions.live newStore).1.val.options.maxRecordBytes = 4194304 := by
    decide +kernel
  rcases evaluated with ⟨planned, order, identified, bytes⟩
  rcases Startup.openFile_of_filed shortHistory filed_twoSubmissions (by decide +kernel) rfl
    rfl bytes identified with ⟨store, started, sameOrder, sameStored⟩
  refine ⟨store, started, fun conservative => ?_⟩
  rcases OpenStore.get_of_stateOf planned with ⟨written, present, isPlanned⟩
  -- The older movement is read back, and is in flight.
  have stored := sameStored (.filled 1)
  rw [StoreContents.stored, StoreContents.stored, MovementStore.get_eq_ok.mp present,
    Option.map_some] at stored
  rcases Option.map_eq_some_iff.mp stored with ⟨record, located, same⟩
  have flying : record.inFlight = true := by
    have state : record.state = .PLANNED :=
      (congrArg MovementRecord.state same).trans isPlanned
    rw [MovementRecord.inFlight, state]
    rfl
  have found : store.get (.filled 1) = .ok record := MovementStore.get_eq_ok.mpr located
  have lands := everyFlightLands_of_conservative (Startup.sound_of_openFile started).1 conservative
  rcases lands (.filled 1) record found flying with ⟨index, visited, _⟩
  -- The listing holds one movement, and the younger one is first.
  have listed := (List.mem_filter.mp (List.mem_of_getElem? visited)).1
  rcases List.mem_filterMap.mp listed with ⟨id, page, shown⟩
  rw [sameOrder, order] at page
  have younger : id = .filled 2 := List.mem_singleton.mp page
  have older : record.id = .filled 1 := OpenStore.id_of_get found
  rw [OpenStore.id_of_get (MovementStore.get_eq_ok.mpr shown), younger] at older
  exact absurd older (by decide)

end StateMovementFabric
