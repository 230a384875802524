import Mathlib.Data.Finset.Card
import StateMovementFabric.Foundation.InsertionOrder
import StateMovementFabric.Store.Opened

namespace StateMovementFabric

open Foundation

/-!
# Retention

A store is opened on a file and then changed by its operations, each of which may meet
write failures.  The ids that come into the index and those that leave it are followed as
a history that starts with the records read from the file.  The order of the index lists
the ids by when they came in, and a put retires the oldest terminal movements, as many as
there are more movements than completed ones are to be kept.
-/

/-! ## What happens to the ids -/

/-- What a record of the log does to the ids of the index. -/
def LogRecord.keyEvents : LogRecord -> List (KeyEvent MovementId)
  | .movement record => [.inserted record.id]
  | .retire id => [.removed id]
  | .coordinatorState _ => []

namespace MovementStore

/-- The victims that the loop of `enforce_retention` has retired when it ends. -/
def retiredVictims : MovementStore -> List MovementId -> WriteOutcomes -> List MovementId
  | _, [], _ => []
  | store, id :: rest, outcomes =>
      match store.appendRecord (.retire id) (outcomes 0) with
      | (_, .error _) => []
      | (appended, .ok ()) =>
          id :: retiredVictims { appended with contents := appended.contents.removeRecord id } rest
            (fun n => outcomes (n + 1))

/-- What `put` does to the ids, whether or not it succeeds. -/
def putEvents (store : MovementStore) (record : MovementRecord) (outcomes : WriteOutcomes) :
    List (KeyEvent MovementId) :=
  match record.validate with
  | .error _ => []
  | .ok () =>
      match store.appendRecord (.movement record) (outcomes 0) with
      | (_, .error _) => []
      | (appended, .ok ()) =>
          let inserted := { appended with contents := appended.contents.insertRecord record }
          .inserted record.id ::
            (inserted.retiredVictims inserted.retentionVictims (fun n => outcomes (n + 1))).map
              .removed

/-- What `retire` does to the ids. -/
def retireEvents (store : MovementStore) (id : MovementId) (outcomes : WriteOutcomes) :
    List (KeyEvent MovementId) :=
  if succeeded (store.retire id outcomes).2 then [.removed id] else []

end MovementStore

/-- The stores that can be reached, with what has happened to their ids since they were
opened, latest first. -/
inductive Reachable (options : MovementStoreOptions) :
    MovementStore -> List (KeyEvent MovementId) -> Prop where
  | opens (file rest : Bytes) (raws : List RawRecord) (records : List LogRecord)
      (last : RecoveryState) (store : MovementStore) (report : StoreRecoveryReport)
      (opened : openStore options file = .ok (store, report))
      (whole : (if file.isEmpty then fileHeader else file).drop kFileHeaderBytes =
        raws.flatMap RawRecord.frame ++ rest)
      (replays : Replays options ⟨0, 0, .empty⟩ raws records last)
      (index : store.contents = last.contents) :
      Reachable options store (records.flatMap LogRecord.keyEvents).reverse
  | puts (store : MovementStore) (history : List (KeyEvent MovementId)) (record : MovementRecord)
      (outcomes : WriteOutcomes) (before : Reachable options store history) :
      Reachable options (store.put record outcomes).1
        ((store.putEvents record outcomes).reverse ++ history)
  | retires (store : MovementStore) (history : List (KeyEvent MovementId)) (id : MovementId)
      (outcomes : WriteOutcomes) (before : Reachable options store history) :
      Reachable options (store.retire id outcomes).1
        ((store.retireEvents id outcomes).reverse ++ history)
  | saves (store : MovementStore) (history : List (KeyEvent MovementId))
      (state : CoordinatorPersistentState) (outcomes : WriteOutcomes)
      (before : Reachable options store history) :
      Reachable options (store.saveCoordinatorState state outcomes).1 history
  | compacts (store : MovementStore) (history : List (KeyEvent MovementId))
      (before : Reachable options store history) : Reachable options store.compact history

/-! ## The order -/

/-- The order lists every key of the index exactly once, by when it came in. -/
structure StoreContents.Ordered (contents : StoreContents) (history : List (KeyEvent MovementId)) :
    Prop where
  consistent : contents.Consistent
  inserted : InInsertionOrder history contents.order

variable {options : MovementStoreOptions} {outcomes : WriteOutcomes}

namespace StoreContents.Ordered

variable {contents : StoreContents} {history : List (KeyEvent MovementId)}

theorem empty : Ordered .empty [] := ⟨consistent_empty, inInsertionOrder_nil⟩

theorem insertRecord (ordered : contents.Ordered history) (record : MovementRecord) :
    (contents.insertRecord record).Ordered (.inserted record.id :: history) := by
  refine ⟨ordered.consistent.insertRecord record, ?_⟩
  have after := ordered.inserted.event (.inserted record.id)
  rw [KeyEvent.after] at after
  simp only [ordered.consistent.listed record.id] at after
  exact after

theorem removeRecord (ordered : contents.Ordered history) (id : MovementId) :
    (contents.removeRecord id).Ordered (.removed id :: history) :=
  ⟨ordered.consistent.removeRecord id, ordered.inserted.remove id⟩

theorem apply (ordered : contents.Ordered history) (record : LogRecord) :
    (contents.apply record).Ordered (record.keyEvents.reverse ++ history) := by
  cases record with
  | movement record => exact ordered.insertRecord record
  | coordinatorState state => exact ⟨ordered.consistent.apply _, ordered.inserted⟩
  | retire id =>
      rw [ordered.consistent.apply_retire id]
      exact ordered.removeRecord id

theorem replays {state last : RecoveryState} {raws : List RawRecord} {records : List LogRecord}
    (replays : Replays options state raws records last) (ordered : state.contents.Ordered history) :
    last.contents.Ordered ((records.flatMap LogRecord.keyEvents).reverse ++ history) := by
  induction replays generalizing history with
  | done state => exact ordered
  | more state last raw record others records accepts later ih =>
      rw [List.flatMap_cons, List.reverse_append, List.append_assoc]
      exact ih (ordered.apply record)

end StoreContents.Ordered

section Orders

variable {store : MovementStore} {history : List (KeyEvent MovementId)}

theorem ordered_retireVictims (ordered : store.contents.Ordered history) (victims : List MovementId)
    (outcomes : WriteOutcomes) :
    (store.retireVictims victims outcomes).1.contents.Ordered
      (((store.retiredVictims victims outcomes).map KeyEvent.removed).reverse ++ history) := by
  induction victims generalizing store history outcomes with
  | nil => exact ordered
  | cons id rest ih =>
      have kept := store.appendRecord_contents (.retire id) (outcomes 0)
      rw [MovementStore.retireVictims, MovementStore.retiredVictims]
      rcases appending : store.appendRecord (.retire id) (outcomes 0) with ⟨appended, status | _⟩
      · rw [appending] at kept
        exact (congrArg (StoreContents.Ordered · history) kept).mpr ordered
      · rw [appending] at kept
        have same : appended.contents = store.contents := kept
        dsimp only
        rw [List.map_cons, List.reverse_cons, List.append_assoc, List.singleton_append]
        refine ih ?_ _
        dsimp only
        rw [same]
        exact ordered.removeRecord id

theorem ordered_put (ordered : store.contents.Ordered history) (record : MovementRecord)
    (outcomes : WriteOutcomes) :
    (store.put record outcomes).1.contents.Ordered
      ((store.putEvents record outcomes).reverse ++ history) := by
  unfold MovementStore.put MovementStore.putEvents
  cases record.validate with
  | error status => exact ordered
  | ok _ =>
      have kept := store.appendRecord_contents (.movement record) (outcomes 0)
      rcases appending : store.appendRecord (.movement record) (outcomes 0) with
        ⟨appended, status | _⟩
      · rw [appending] at kept
        exact (congrArg (StoreContents.Ordered · history) kept).mpr ordered
      · rw [appending] at kept
        have same : appended.contents = store.contents := kept
        dsimp only
        rw [List.reverse_cons, List.append_assoc, List.singleton_append]
        refine ordered_retireVictims ?_ _ _
        dsimp only
        rw [same]
        exact ordered.insertRecord record

theorem ordered_retire (ordered : store.contents.Ordered history) (id : MovementId)
    (outcomes : WriteOutcomes) :
    (store.retire id outcomes).1.contents.Ordered
      ((store.retireEvents id outcomes).reverse ++ history) := by
  unfold MovementStore.retireEvents MovementStore.retire
  split
  · exact ordered
  · have kept := store.appendRecord_contents (.retire id) (outcomes 0)
    rcases appending : store.appendRecord (.retire id) (outcomes 0) with ⟨appended, status | _⟩
    · rw [appending] at kept
      exact (congrArg (StoreContents.Ordered · history) kept).mpr ordered
    · rw [appending] at kept
      have same : appended.contents = store.contents := kept
      change (appended.contents.removeRecord id).Ordered _
      rw [same]
      exact ordered.removeRecord id

/-- In every state that can be reached, the order of the index is that of insertion. -/
theorem ordered_of_reachable (reachable : Reachable options store history) :
    store.contents.Ordered history := by
  induction reachable with
  | opens file rest raws records last store report opened whole replays index =>
      rw [index]
      have ordered := StoreContents.Ordered.replays replays .empty
      rw [List.append_nil] at ordered
      exact ordered
  | puts store history record outcomes before ih => exact ordered_put ih record outcomes
  | retires store history id outcomes before ih => exact ordered_retire ih id outcomes
  | saves store history state outcomes before ih =>
      have kept := store.appendRecord_contents (.coordinatorState state) (outcomes 0)
      unfold MovementStore.saveCoordinatorState
      rcases appending : store.appendRecord (.coordinatorState state) (outcomes 0) with
        ⟨appended, status | _⟩
      · rw [appending] at kept
        exact (congrArg (StoreContents.Ordered · history) kept).mpr ih
      · rw [appending] at kept
        have same : appended.contents = store.contents := kept
        change ({ appended.contents with coordinatorState := some state } :
          StoreContents).Ordered history
        rw [same]
        exact ⟨⟨ih.consistent.nodup, ih.consistent.listed, ih.consistent.filed⟩, ih.inserted⟩
  | compacts store history before ih => exact ih

/-- Whatever file is opened, the store is reached with the records of that file as its
history. -/
theorem reachable_of_openStore {file : Bytes} {report : StoreRecoveryReport}
    (opened : openStore options file = .ok (store, report)) :
    exists history, Reachable options store history := by
  rcases replays_of_openStore opened with ⟨_, raws, records, last, replays, index, rest, whole⟩
  exact ⟨_, .opens file rest raws records last store report opened whole replays index⟩

namespace MovementStore

theorem retire_options (store : MovementStore) (id : MovementId) (outcomes : WriteOutcomes) :
    (store.retire id outcomes).1.options = store.options := by
  have kept := store.appendRecord_options (.retire id) (outcomes 0)
  unfold retire
  split
  · rfl
  · rcases appending : store.appendRecord (.retire id) (outcomes 0) with ⟨appended, status | _⟩
    · rw [appending] at kept
      exact kept
    · rw [appending] at kept
      exact kept

theorem saveCoordinatorState_options (store : MovementStore) (state : CoordinatorPersistentState)
    (outcomes : WriteOutcomes) :
    (store.saveCoordinatorState state outcomes).1.options = store.options := by
  have kept := store.appendRecord_options (.coordinatorState state) (outcomes 0)
  unfold saveCoordinatorState
  rcases appending : store.appendRecord (.coordinatorState state) (outcomes 0) with
    ⟨appended, status | _⟩
  · rw [appending] at kept
    exact kept
  · rw [appending] at kept
    exact kept

end MovementStore

theorem options_of_reachable (reachable : Reachable options store history) :
    store.options = options := by
  induction reachable with
  | opens file rest raws records last store report opened whole replays index =>
      exact (replays_of_openStore opened).1
  | puts store history record outcomes before ih =>
      exact (store.put_options record outcomes).trans ih
  | retires store history id outcomes before ih =>
      exact (store.retire_options id outcomes).trans ih
  | saves store history state outcomes before ih =>
      exact (store.saveCoordinatorState_options state outcomes).trans ih
  | compacts store history before ih => exact ih

end Orders

/-! ## What is retired -/

namespace StoreContents

/-- The ids whose records are terminal. -/
def terminalIds (contents : StoreContents) : Finset MovementId :=
  contents.records.keys.filter fun id => contents.holdsTerminal id = true

theorem Consistent.toFinset_order {contents : StoreContents} (consistent : contents.Consistent) :
    contents.order.toFinset = contents.records.keys := by
  ext id
  rw [List.mem_toFinset, Finmap.mem_keys]
  exact consistent.listed id

theorem Consistent.length_filter_holdsTerminal {contents : StoreContents}
    (consistent : contents.Consistent) :
    (contents.order.filter contents.holdsTerminal).length = contents.terminalIds.card := by
  rw [terminalIds, ← consistent.toFinset_order, ← List.toFinset_filter,
    List.toFinset_card_of_nodup (consistent.nodup.filter _)]

/-- The index after some ids have been removed one after the other. -/
theorem lookup_foldl_removeRecord (victims : List MovementId) (contents : StoreContents)
    (id : MovementId) :
    (victims.foldl removeRecord contents).records.lookup id =
      if id ∈ victims then none else contents.records.lookup id := by
  induction victims generalizing contents with
  | nil => rw [if_neg List.not_mem_nil, List.foldl_nil]
  | cons victim rest ih =>
      rw [List.foldl_cons, ih, removeRecord]
      by_cases same : id = victim
      · rw [same, Finmap.lookup_erase, ite_self, if_pos List.mem_cons_self]
      · rw [Finmap.lookup_erase_ne same]
        simp only [List.mem_cons, same, false_or]

theorem order_foldl_removeRecord (victims : List MovementId) (contents : StoreContents) :
    (victims.foldl removeRecord contents).order =
      contents.order.filter fun id => decide (id ∉ victims) := by
  induction victims generalizing contents with
  | nil =>
      rw [List.foldl_nil]
      exact (List.filter_eq_self.mpr fun id _ => decide_eq_true List.not_mem_nil).symm
  | cons victim rest ih =>
      rw [List.foldl_cons, ih, removeRecord, List.filter_filter]
      refine List.filter_congr ?_
      intro id _
      rw [Bool.eq_iff_iff, Bool.and_eq_true_iff, decide_eq_true_iff, decide_eq_true_iff,
        bne_iff_ne, List.mem_cons, not_or, and_comm]

end StoreContents

namespace MovementStore

variable {store : MovementStore}

/-- A retirement that succeeds removes all its victims. -/
theorem retireVictims_contents {victims : List MovementId}
    (retired : (store.retireVictims victims outcomes).2 = .ok ()) :
    (store.retireVictims victims outcomes).1.contents =
      victims.foldl StoreContents.removeRecord store.contents := by
  induction victims generalizing store outcomes with
  | nil => rfl
  | cons id rest ih =>
      have kept := store.appendRecord_contents (.retire id) (outcomes 0)
      rw [retireVictims] at retired ⊢
      rcases appending : store.appendRecord (.retire id) (outcomes 0) with ⟨appended, status | _⟩
      · rw [appending] at retired
        cases retired
      · rw [appending] at retired kept
        have same : appended.contents = store.contents := kept
        dsimp only at retired ⊢
        rw [ih retired, List.foldl_cons, same]

/-- The victims of retention, by the numbers of all and of the terminal records. -/
theorem retentionVictims_eq (consistent : store.contents.Consistent)
    (outside : max store.options.maxHistoryRecords.toNat store.options.retentionCompleted.toNat <
      store.contents.size)
    (bounded : store.options.retentionCompleted.toNat ≠ 0) :
    store.retentionVictims = (store.contents.order.filter store.contents.holdsTerminal).take
      (min store.contents.terminalIds.card
        (store.contents.size - store.options.retentionCompleted.toNat)) := by
  have beyond : store.options.maxHistoryRecords.toNat < store.contents.size ∧
      store.options.retentionCompleted.toNat < store.contents.size := max_lt_iff.mp outside
  unfold retentionVictims
  dsimp only
  rw [if_neg, ← consistent.length_filter_holdsTerminal, List.take_eq_take_iff]
  · omega
  · rintro (none | few | short)
    · exact bounded none
    · exact absurd beyond.2 (Nat.not_lt.mpr few)
    · exact absurd beyond.1 (Nat.not_lt.mpr short)

theorem retentionVictims_eq_nil
    (inside : store.contents.size ≤
        max store.options.maxHistoryRecords.toNat store.options.retentionCompleted.toNat ∨
      store.options.retentionCompleted.toNat = 0) : store.retentionVictims = [] := by
  unfold retentionVictims
  dsimp only
  refine if_pos ?_
  rcases inside with inside | unbounded
  · rcases le_max_iff.mp inside with short | few
    · exact .inr (.inr short)
    · exact .inr (.inl few)
  · exact .inl unbounded

/-- A put leaves the index as it is, or inserts its record and then enforces retention. -/
theorem put_cases (store : MovementStore) (record : MovementRecord) (outcomes : WriteOutcomes) :
    (store.persists record outcomes = false ∧ (store.put record outcomes).2 ≠ .ok () ∧
      (store.put record outcomes).1.contents = store.contents) ∨
    (store.persists record outcomes = true ∧ exists inserted : MovementStore,
      inserted.options = store.options ∧
      inserted.contents = store.contents.insertRecord record ∧
      store.put record outcomes = inserted.enforceRetention (fun n => outcomes (n + 1))) := by
  have kept := store.appendRecord_contents (.movement record) (outcomes 0)
  have same := store.appendRecord_options (.movement record) (outcomes 0)
  unfold put persists
  cases record.validate with
  | error status => exact .inl ⟨rfl, fun accepted => (by cases accepted), rfl⟩
  | ok _ =>
      rcases appending : store.appendRecord (.movement record) (outcomes 0) with
        ⟨appended, status | _⟩
      · rw [appending] at kept
        exact .inl ⟨rfl, fun accepted => (by cases accepted), kept⟩
      · rw [appending] at kept same
        exact .inr ⟨rfl, { appended with contents := appended.contents.insertRecord record }, same,
          congrArg (fun contents => contents.insertRecord record) kept, rfl⟩

end MovementStore

/-! ## Retention keeps what matters -/

/-- The oldest terminal ids of an index. -/
def StoreContents.oldestTerminal (contents : StoreContents) (count : Nat) : List MovementId :=
  (contents.order.filter contents.holdsTerminal).take count

/-- What a put that succeeds has made of the index into which it inserted its record. -/
structure Retains (options : MovementStoreOptions) (inserted after : StoreContents) : Prop where
  within : inserted.size ≤ max options.maxHistoryRecords.toNat options.retentionCompleted.toNat ∨
    options.retentionCompleted.toNat = 0 -> after = inserted
  beyond : max options.maxHistoryRecords.toNat options.retentionCompleted.toNat < inserted.size ->
    options.retentionCompleted.toNat ≠ 0 ->
    exists retired, retired = inserted.oldestTerminal
        (min inserted.terminalIds.card (inserted.size - options.retentionCompleted.toNat)) ∧
      retired.length =
        min inserted.terminalIds.card (inserted.size - options.retentionCompleted.toNat) ∧
      (forall id, after.records.lookup id =
        if id ∈ retired then none else inserted.records.lookup id) ∧
      after.order = inserted.order.filter fun id => decide (id ∉ retired)

theorem retains_enforceRetention {store : MovementStore} (consistent : store.contents.Consistent)
    (enforced : (store.enforceRetention outcomes).2 = .ok ()) :
    Retains store.options store.contents (store.enforceRetention outcomes).1.contents := by
  have after : (store.enforceRetention outcomes).1.contents =
      store.retentionVictims.foldl StoreContents.removeRecord store.contents :=
    MovementStore.retireVictims_contents enforced
  rw [after]
  constructor
  · intro inside
    rw [MovementStore.retentionVictims_eq_nil inside, List.foldl_nil]
  · intro outside bounded
    refine ⟨store.retentionVictims, MovementStore.retentionVictims_eq consistent outside bounded,
      ?_, ?_, ?_⟩
    · rw [MovementStore.retentionVictims_eq consistent outside bounded, List.length_take,
        consistent.length_filter_holdsTerminal]
      omega
    · intro id
      exact StoreContents.lookup_foldl_removeRecord _ _ id
    · exact StoreContents.order_foldl_removeRecord _ _

/-- No put removes a record that is not terminal, whatever writes of it fail. -/
theorem lookup_put_of_not_terminal {store : MovementStore} {record found : MovementRecord}
    {id : MovementId} (unfinished : isTerminal found.state = false)
    (present : (if store.persists record outcomes then store.contents.insertRecord record
      else store.contents).records.lookup id = some found) :
    (store.put record outcomes).1.contents.records.lookup id = some found := by
  rcases store.put_cases record outcomes with
    ⟨lost, _, contents⟩ | ⟨persisted, inserted, _, contents, put⟩
  · rw [if_neg (ne_true_of_eq_false lost)] at present
    rw [contents]
    exact present
  · rw [if_pos persisted, ← contents] at present
    rw [put]
    exact MovementStore.get_eq_ok.mp (MovementStore.get_retireVictims_of_not_mem
      (MovementStore.get_eq_ok.mpr present)
      (MovementStore.not_mem_retentionVictims present unfinished))

/-- In every state that can be reached the order lists each key of the index once, by when
it came in since it was last retired.  A put that succeeds retires nothing inside the bounds
and the oldest terminal records beyond them; no put removes a record that is not terminal. -/
theorem retention_keeps_unfinished {options : MovementStoreOptions} {store : MovementStore}
    {history : List (KeyEvent MovementId)} (reachable : Reachable options store history) :
    InInsertionOrder history store.contents.order ∧ store.contents.order.Nodup ∧
      (forall id, id ∈ store.contents.order ↔ id ∈ store.contents.records) ∧
      forall record outcomes,
        ((store.put record outcomes).2 = .ok () ->
          Retains options (store.contents.insertRecord record)
            (store.put record outcomes).1.contents) ∧
        (forall id found, isTerminal found.state = false ->
          (if store.persists record outcomes then store.contents.insertRecord record
            else store.contents).records.lookup id = some found ->
          (store.put record outcomes).1.contents.records.lookup id = some found) := by
  have ordered := ordered_of_reachable reachable
  refine ⟨ordered.inserted, ordered.consistent.nodup, ordered.consistent.listed, ?_⟩
  intro record outcomes
  refine ⟨?_, fun id found => lookup_put_of_not_terminal⟩
  intro stored
  rcases store.put_cases record outcomes with
    ⟨_, refused, _⟩ | ⟨_, inserted, same, contents, put⟩
  · exact absurd stored refused
  · rw [put] at stored ⊢
    have retains := retains_enforceRetention
      (contents ▸ ordered.consistent.insertRecord record) stored
    rw [same, options_of_reachable reachable, contents] at retains
    exact retains

/-- A movement that has failed. -/
def failedMovement (number : UInt8) : MovementRecord :=
  { oneByteMovement .FAILED with id := .filled number }

/-- A store that keeps two records, with two failed movements in it. -/
def twoFailed : MovementStore :=
  ((newSmallStore.put (failedMovement 1) noFailure).1.put (failedMovement 2) noFailure).1

theorem reachable_twoFailed : exists history, Reachable smallOptions twoFailed history := by
  rcases reachable_of_openStore (openStore_new (show smallOptions.validate = .ok () from rfl)) with
    ⟨history, opened⟩
  exact ⟨_, .puts _ _ (failedMovement 2) noFailure
    (.puts _ history (failedMovement 1) noFailure opened)⟩

/-- A third one is put. -/
theorem retention_keeps_unfinished_small :
    (twoFailed.put (failedMovement 3) noFailure).2 = .ok () ∧
      (twoFailed.contents.insertRecord (failedMovement 3)).size = 3 ∧
      Retains smallOptions (twoFailed.contents.insertRecord (failedMovement 3))
        (twoFailed.put (failedMovement 3) noFailure).1.contents := by
  have stored : (twoFailed.put (failedMovement 3) noFailure).2 = .ok () := by decide +kernel
  refine ⟨stored, by decide +kernel, ?_⟩
  rcases reachable_twoFailed with ⟨history, reachable⟩
  exact ((retention_keeps_unfinished reachable).2.2.2 (failedMovement 3) noFailure).1 stored

end StateMovementFabric
