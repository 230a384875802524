import StateMovementFabric.Store.Contents

namespace StateMovementFabric

/-!
# The store of a running coordinator

An open store keeps its index consistent: the order lists every record once, and
every record is filed under its own id.  `put` either persists its record, and may
then retire others, or leaves every record as it was.
-/

variable {found record : MovementRecord} {id : MovementId}

namespace MovementStore

/-- The record of a `put` reaches the log and the index, whether or not the
retirements after it succeed. -/
def persists (store : MovementStore) (record : MovementRecord) (outcomes : WriteOutcomes) : Bool :=
  succeeded record.validate && succeeded (store.appendRecord (.movement record) (outcomes 0)).2

variable {outcomes : WriteOutcomes} {store : MovementStore}

theorem validate_of_persists (durable : store.persists record outcomes = true) :
    record.validate = .ok () := by
  have valid := (Bool.and_eq_true_iff.mp durable).1
  cases checked : record.validate with
  | error status =>
      rw [checked] at valid
      cases valid
  | ok _ => rfl

theorem appendRecord_contents (store : MovementStore) (record : LogRecord)
    (outcome : WriteOutcome) : (store.appendRecord record outcome).1.contents = store.contents := by
  unfold appendRecord
  split
  · rfl
  · cases outcome <;> rfl

theorem retireVictims_consistent (consistent : store.contents.Consistent)
    (victims : List MovementId) (outcomes : WriteOutcomes) :
    (store.retireVictims victims outcomes).1.contents.Consistent := by
  induction victims generalizing store outcomes with
  | nil => exact consistent
  | cons id rest ih =>
      have kept := store.appendRecord_contents (.retire id) (outcomes 0)
      rw [retireVictims]
      rcases appending : store.appendRecord (.retire id) (outcomes 0) with ⟨appended, status | _⟩
      · rw [appending] at kept
        exact kept.symm ▸ consistent
      · rw [appending] at kept
        have same : appended.contents = store.contents := kept
        apply ih
        rw [same]
        exact consistent.removeRecord id

theorem put_consistent (consistent : store.contents.Consistent) (record : MovementRecord)
    (outcomes : WriteOutcomes) :
    (store.put record outcomes).1.contents.Consistent := by
  have kept := store.appendRecord_contents (.movement record) (outcomes 0)
  unfold put
  cases record.validate with
  | error status => exact consistent
  | ok _ =>
      rcases appending : store.appendRecord (.movement record) (outcomes 0) with
        ⟨appended, status | _⟩
      · rw [appending] at kept
        exact kept.symm ▸ consistent
      · rw [appending] at kept
        have same : appended.contents = store.contents := kept
        apply retireVictims_consistent
        rw [same]
        exact consistent.insertRecord record

/-! ## What is found after a put -/

theorem get_eq_ok :
    store.get id = .ok record ↔ store.contents.records.lookup id = some record := by
  unfold get
  cases store.contents.records.lookup id <;> simp [refuse]

/-- Retirement only removes records. -/
theorem get_retireVictims {victims : List MovementId}
    (after : (store.retireVictims victims outcomes).1.get id = .ok found) :
    store.get id = .ok found := by
  rw [get_eq_ok] at after ⊢
  induction victims generalizing store outcomes with
  | nil => exact after
  | cons victim rest ih =>
      have kept := store.appendRecord_contents (.retire victim) (outcomes 0)
      rw [retireVictims] at after
      rcases appending : store.appendRecord (.retire victim) (outcomes 0) with
        ⟨appended, status | _⟩
      · rw [appending] at after kept
        rw [← kept]
        exact after
      · rw [appending] at after kept
        have same : appended.contents = store.contents := kept
        have earlier := ih after
        rw [same] at earlier
        change (store.contents.records.erase victim).lookup id = some found at earlier
        by_cases removed : id = victim
        · rw [removed, Finmap.lookup_erase] at earlier
          cases earlier
        · rw [Finmap.lookup_erase_ne removed] at earlier
          exact earlier

/-- What is found after a put is the record that was put, or was found before. -/
theorem get_put (after : (store.put record outcomes).1.get id = .ok found) :
    (store.persists record outcomes = true ∧ id = record.id ∧ found = record) ∨
      ((store.persists record outcomes = true -> id ≠ record.id) ∧ store.get id = .ok found) := by
  have kept := store.appendRecord_contents (.movement record) (outcomes 0)
  unfold put at after
  unfold persists
  cases valid : record.validate with
  | error status =>
      rw [valid] at after
      exact Or.inr ⟨fun impossible => (by cases impossible), after⟩
  | ok _ =>
      rw [valid] at after
      rcases appending : store.appendRecord (.movement record) (outcomes 0) with
        ⟨appended, status | _⟩
      · rw [appending] at after kept
        refine Or.inr ⟨fun impossible => (by cases impossible), ?_⟩
        rw [get_eq_ok, ← kept, ← get_eq_ok]
        exact after
      · rw [appending] at after kept
        have same : appended.contents = store.contents := kept
        have inserted := get_eq_ok.mp (get_retireVictims after)
        rw [same] at inserted
        change (store.contents.records.insert record.id record).lookup id = some found at inserted
        by_cases mine : id = record.id
        · rw [mine, Finmap.lookup_insert] at inserted
          cases inserted
          exact Or.inl ⟨rfl, mine, rfl⟩
        · rw [Finmap.lookup_insert_of_ne _ mine] at inserted
          exact Or.inr ⟨fun _ => mine, get_eq_ok.mpr inserted⟩

/-- A put that succeeds has persisted its record. -/
theorem persists_of_put (stored : (store.put record outcomes).2 = .ok ()) :
    store.persists record outcomes = true := by
  unfold put at stored
  unfold persists
  cases valid : record.validate with
  | error status =>
      rw [valid] at stored
      cases stored
  | ok _ =>
      rw [valid] at stored
      rcases appending : store.appendRecord (.movement record) (outcomes 0) with
        ⟨appended, status | _⟩
      · rw [appending] at stored
        cases stored
      · rfl

end MovementStore

/-- A store whose index is consistent. -/
abbrev OpenStore := { store : MovementStore // store.contents.Consistent }

namespace OpenStore

def get (store : OpenStore) (id : MovementId) : Result MovementRecord := store.val.get id

def put (store : OpenStore) (record : MovementRecord) (outcomes : WriteOutcomes) :
    OpenStore × Result Unit :=
  let written := store.val.put record outcomes
  (⟨written.1, MovementStore.put_consistent store.property record outcomes⟩, written.2)

variable {store : OpenStore}

theorem id_of_get (found : store.get id = .ok record) : record.id = id := by
  have stored : store.val.contents.stored id = some record.eraseBound := by
    rw [StoreContents.stored, MovementStore.get_eq_ok.mp found]
    rfl
  exact store.property.filed id record.eraseBound stored

/-- A listing names every movement at most once. -/
theorem nodup_list (store : OpenStore) (limit offset : UInt32) :
    ((store.val.list limit offset).map MovementRecord.id).Nodup := by
  have ids : forall page : List MovementId,
      ((page.filterMap store.val.contents.records.lookup).map MovementRecord.id).Sublist page := by
    intro page
    induction page with
    | nil => exact List.Sublist.slnil
    | cons id rest ih =>
        cases found : store.val.contents.records.lookup id with
        | none =>
            simp only [List.filterMap_cons, found]
            exact ih.cons id
        | some record =>
            simp only [List.filterMap_cons, found, List.map_cons,
              id_of_get (MovementStore.get_eq_ok.mpr found)]
            exact ih.cons₂ id
  apply (ids _).nodup
  apply List.Nodup.sublist ((List.take_sublist _ _).trans (List.drop_sublist _ _))
  exact List.nodup_reverse.mpr store.property.nodup

theorem get_of_mem_list {limit offset : UInt32} (listed : record ∈ store.val.list limit offset) :
    store.get record.id = .ok record := by
  rcases List.mem_filterMap.mp listed with ⟨id, _, found⟩
  have present := MovementStore.get_eq_ok.mpr found
  rw [show record.id = id from id_of_get present]
  exact present

/-- The store after its log has been read back: the index is rebuilt from the records
that are live. -/
def reload (store : OpenStore) : OpenStore :=
  ⟨{ store.val with
      contents := StoreContents.empty.applyAll (MovementStore.liveRecords store.val.contents) },
    store.property.applyAll_liveRecords.symm.consistent store.property⟩

/-- A record read back is the one that was there, with the default provenance bound. -/
theorem get_reload (after : store.reload.get id = .ok found) :
    exists earlier, store.get id = .ok earlier ∧ found.eraseBound = earlier.eraseBound := by
  have agrees := store.property.applyAll_liveRecords.stored id
  have present : (StoreContents.empty.applyAll
      (MovementStore.liveRecords store.val.contents)).records.lookup id = some found :=
    MovementStore.get_eq_ok.mp after
  rw [StoreContents.stored, StoreContents.stored, present, Option.map_some] at agrees
  rcases Option.map_eq_some_iff.mp agrees with ⟨earlier, kept, same⟩
  exact ⟨earlier, MovementStore.get_eq_ok.mpr kept, same.symm⟩

end OpenStore

end StateMovementFabric
