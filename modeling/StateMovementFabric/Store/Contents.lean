import StateMovementFabric.Store.Operations

namespace StateMovementFabric

/-!
# The index under log records

Two indexes agree when they hold the same ids in the same order, the same
coordinator state, and for every id records that are equal in every encoded
field.  Applying log records respects agreement, keeps the order an exact listing
of the ids, and a compacted log rebuilds the index it was written from.
-/

namespace MovementRecord

@[simp] theorem eraseBound_eraseBound (record : MovementRecord) :
    record.eraseBound.eraseBound = record.eraseBound := rfl

@[simp] theorem eraseBound_id (record : MovementRecord) : record.eraseBound.id = record.id := rfl

@[simp] theorem encode_eraseBound (record : MovementRecord) :
    record.eraseBound.encode = record.encode := rfl

end MovementRecord

namespace LogRecord

/-- The record as it is read back from the log. -/
def stored : LogRecord -> LogRecord
  | movement record => movement record.eraseBound
  | other => other

@[simp] theorem stored_type (record : LogRecord) : record.stored.type = record.type := by
  cases record <;> rfl

@[simp] theorem stored_payload (record : LogRecord) : record.stored.payload = record.payload := by
  cases record <;> rfl

@[simp] theorem stored_stored (record : LogRecord) : record.stored.stored = record.stored := by
  cases record <;> rfl

end LogRecord

namespace StoreContents

/-- The stored form of the record of an id. -/
def stored (contents : StoreContents) (id : MovementId) : Option MovementRecord :=
  (contents.records.lookup id).map MovementRecord.eraseBound

/-- Equality in every field the log keeps. -/
structure Agrees (first second : StoreContents) : Prop where
  order : first.order = second.order
  coordinatorState : first.coordinatorState = second.coordinatorState
  stored : forall id, first.stored id = second.stored id

variable {first second contents : StoreContents} {record : MovementRecord}

namespace Agrees

theorem refl (contents : StoreContents) : contents.Agrees contents :=
  ⟨rfl, rfl, fun _ => rfl⟩

theorem symm (agrees : first.Agrees second) :
    second.Agrees first :=
  ⟨agrees.order.symm, agrees.coordinatorState.symm, fun id => (agrees.stored id).symm⟩

theorem trans {third : StoreContents} (left : first.Agrees second) (right : second.Agrees third) :
    first.Agrees third :=
  ⟨left.order.trans right.order, left.coordinatorState.trans right.coordinatorState,
    fun id => (left.stored id).trans (right.stored id)⟩

end Agrees

theorem mem_records_iff (contents : StoreContents) (id : MovementId) :
    id ∈ contents.records ↔ (contents.stored id).isSome := by
  rw [stored, Option.isSome_map, Finmap.lookup_isSome]

theorem Agrees.mem_iff (agrees : first.Agrees second) (id : MovementId) :
    id ∈ first.records ↔ id ∈ second.records := by
  rw [mem_records_iff, mem_records_iff, agrees.stored id]

theorem stored_insertRecord (contents : StoreContents) (record : MovementRecord)
    (id : MovementId) :
    (contents.insertRecord record).stored id =
      if id = record.id then some record.eraseBound else contents.stored id := by
  by_cases same : id = record.id
  · subst same
    simp [stored, insertRecord, Finmap.lookup_insert]
  · simp [stored, insertRecord, Finmap.lookup_insert_of_ne _ same, same]

theorem stored_removeRecord (contents : StoreContents) (removed id : MovementId) :
    (contents.removeRecord removed).stored id =
      if id = removed then none else contents.stored id := by
  by_cases same : id = removed
  · subst same
    simp [stored, removeRecord, Finmap.lookup_erase]
  · simp [stored, removeRecord, Finmap.lookup_erase_ne same, same]

theorem order_insertRecord_of_mem (present : record.id ∈ contents.records) :
    (contents.insertRecord record).order = contents.order :=
  if_pos present

theorem order_insertRecord_of_not_mem (absent : record.id ∉ contents.records) :
    (contents.insertRecord record).order = contents.order ++ [record.id] :=
  if_neg absent

theorem Agrees.insertRecord (agrees : first.Agrees second) (record : MovementRecord) :
    (first.insertRecord record).Agrees (second.insertRecord record.eraseBound) := by
  refine ⟨?_, agrees.coordinatorState, ?_⟩
  · by_cases present : record.id ∈ first.records
    · have other : record.eraseBound.id ∈ second.records := (agrees.mem_iff record.id).mp present
      rw [order_insertRecord_of_mem present, order_insertRecord_of_mem other, agrees.order]
    · have other : record.eraseBound.id ∉ second.records := fun member =>
        present ((agrees.mem_iff record.id).mpr member)
      rw [order_insertRecord_of_not_mem present, order_insertRecord_of_not_mem other,
        agrees.order, MovementRecord.eraseBound_id]
  · intro id
    rw [stored_insertRecord, stored_insertRecord, MovementRecord.eraseBound_id,
      MovementRecord.eraseBound_eraseBound, agrees.stored id]

theorem Agrees.removeRecord (agrees : first.Agrees second) (id : MovementId) :
    (first.removeRecord id).Agrees (second.removeRecord id) := by
  refine ⟨?_, agrees.coordinatorState, ?_⟩
  · simp only [StoreContents.removeRecord, agrees.order]
  · intro other
    rw [stored_removeRecord, stored_removeRecord, agrees.stored other]

/-- A record in memory and its stored form have the same effect. -/
theorem Agrees.apply (agrees : first.Agrees second) (record : LogRecord) :
    (first.apply record).Agrees (second.apply record.stored) := by
  cases record with
  | movement record => exact agrees.insertRecord record
  | coordinatorState state => exact ⟨agrees.order, rfl, agrees.stored⟩
  | retire id =>
      by_cases present : id ∈ first.records
      · have other := (agrees.mem_iff id).mp present
        simp only [StoreContents.apply, LogRecord.stored, if_pos present, if_pos other]
        exact agrees.removeRecord id
      · have other : id ∉ second.records := fun member => present ((agrees.mem_iff id).mpr member)
        simp only [StoreContents.apply, LogRecord.stored, if_neg present, if_neg other]
        exact agrees

/-! ## The order lists the ids -/

/-- The order lists every id once, and every record is filed under its own id. -/
structure Consistent (contents : StoreContents) : Prop where
  nodup : contents.order.Nodup
  listed : forall id, id ∈ contents.order ↔ id ∈ contents.records
  filed : forall id record, contents.stored id = some record -> record.id = id

theorem consistent_empty : Consistent empty :=
  ⟨List.nodup_nil, fun id => by simp [empty, Finmap.notMem_empty],
    fun id record found => by simp [stored, empty] at found⟩

theorem Consistent.insertRecord (consistent : contents.Consistent) (record : MovementRecord) :
    (contents.insertRecord record).Consistent := by
  refine ⟨?_, ?_, ?_⟩
  · by_cases present : record.id ∈ contents.records
    · simpa only [StoreContents.insertRecord, if_pos present] using consistent.nodup
    · have fresh : record.id ∉ contents.order := fun member =>
        present ((consistent.listed _).mp member)
      simp only [StoreContents.insertRecord, if_neg present]
      rw [List.nodup_append]
      refine ⟨consistent.nodup, List.nodup_singleton _, ?_⟩
      intro first memberFirst second memberSecond same
      rw [List.mem_singleton] at memberSecond
      subst memberSecond
      subst same
      exact fresh memberFirst
  · intro id
    by_cases present : record.id ∈ contents.records
    · simp only [StoreContents.insertRecord, if_pos present, Finmap.mem_insert]
      rw [consistent.listed]
      constructor
      · exact Or.inr
      · rintro (same | member)
        · rw [same]
          exact present
        · exact member
    · simp only [StoreContents.insertRecord, if_neg present, Finmap.mem_insert, List.mem_append,
        List.mem_singleton]
      rw [consistent.listed, or_comm]
  · intro id found member
    rw [stored_insertRecord] at member
    by_cases same : id = record.id
    · rw [if_pos same] at member
      cases member
      exact same.symm
    · rw [if_neg same] at member
      exact consistent.filed id found member

theorem Consistent.removeRecord (consistent : contents.Consistent) (removed : MovementId) :
    (contents.removeRecord removed).Consistent := by
  refine ⟨consistent.nodup.filter _, ?_, ?_⟩
  · intro id
    simp only [StoreContents.removeRecord, List.mem_filter, bne_iff_ne, Finmap.mem_erase]
    rw [consistent.listed, and_comm]
  · intro id found member
    rw [stored_removeRecord] at member
    by_cases same : id = removed
    · rw [if_pos same] at member
      cases member
    · rw [if_neg same] at member
      exact consistent.filed id found member

theorem Consistent.apply (consistent : contents.Consistent) (record : LogRecord) :
    (contents.apply record).Consistent := by
  cases record with
  | movement record => exact consistent.insertRecord record
  | coordinatorState state => exact ⟨consistent.nodup, consistent.listed, consistent.filed⟩
  | retire id =>
      simp only [StoreContents.apply]
      split
      · exact consistent.removeRecord id
      · exact consistent

/-- Retiring in memory and replaying a retirement have the same effect, also for
an id that is not present. -/
theorem Consistent.apply_retire (consistent : contents.Consistent) (id : MovementId) :
    contents.apply (.retire id) = contents.removeRecord id := by
  by_cases present : id ∈ contents.records
  · simp only [StoreContents.apply, if_pos present]
  · have unlisted : id ∉ contents.order := fun member => present ((consistent.listed id).mp member)
    have sameRecords : contents.records.erase id = contents.records := by
      apply Finmap.ext_lookup
      intro other
      by_cases same : other = id
      · rw [same, Finmap.lookup_erase, Finmap.lookup_eq_none.mpr present]
      · rw [Finmap.lookup_erase_ne same]
    have sameOrder : contents.order.filter (fun other => other != id) = contents.order := by
      apply List.filter_eq_self.mpr
      intro other member
      rw [bne_iff_ne]
      rintro rfl
      exact unlisted member
    simp only [StoreContents.apply, if_neg present, StoreContents.removeRecord, sameRecords,
      sameOrder]

theorem Agrees.consistent (agrees : first.Agrees second) (consistent : second.Consistent) :
    first.Consistent := by
  refine ⟨agrees.order ▸ consistent.nodup, ?_, ?_⟩
  · intro id
    rw [agrees.order, agrees.mem_iff, consistent.listed]
  · intro id record found
    exact consistent.filed id record ((agrees.stored id).symm.trans found)

/-! ## Counting live records -/

/-- The number of records a compacted log would hold. -/
def liveCount (contents : StoreContents) : Nat :=
  contents.order.length + contents.coordinatorState.toList.length

theorem Agrees.liveCount_eq (agrees : first.Agrees second) :
    first.liveCount = second.liveCount := by
  rw [liveCount, liveCount, agrees.order, agrees.coordinatorState]

/-- A log record makes room for at most one more live record. -/
theorem liveCount_apply_le (contents : StoreContents) (record : LogRecord) :
    (contents.apply record).liveCount ≤ contents.liveCount + 1 := by
  cases record with
  | movement record =>
      simp only [StoreContents.apply, insertRecord, liveCount]
      split
      · omega
      · rw [List.length_append, List.length_singleton]
        omega
  | coordinatorState state =>
      simp only [StoreContents.apply, liveCount, Option.toList_some, List.length_singleton]
      omega
  | retire id =>
      simp only [StoreContents.apply]
      split
      · have shorter := List.length_filter_le (fun other => other != id) contents.order
        simp only [removeRecord, liveCount]
        omega
      · omega

/-! ## A compacted log -/

/-- The index after applying the stored forms of the given records. -/
def applyAll (contents : StoreContents) (records : List LogRecord) : StoreContents :=
  records.foldl (fun reached record => reached.apply record.stored) contents

/-- What applying distinct new movements leaves: they come last in the order, each
under its own id, and every other id is as before. -/
structure ExtendedBy (base : StoreContents) (movements : List MovementRecord)
    (result : StoreContents) : Prop where
  order : result.order = base.order ++ movements.map MovementRecord.id
  coordinatorState : result.coordinatorState = base.coordinatorState
  inside : forall record, record ∈ movements -> result.stored record.id = some record.eraseBound
  outside : forall id, id ∉ movements.map MovementRecord.id -> result.stored id = base.stored id

theorem extendedBy_applyAll {base : StoreContents} {movements : List MovementRecord}
    (distinct : (movements.map MovementRecord.id).Nodup)
    (fresh : forall record, record ∈ movements -> record.id ∉ base.records) :
    base.ExtendedBy movements (base.applyAll (movements.map LogRecord.movement)) := by
  induction movements generalizing base with
  | nil =>
      refine ⟨by simp [applyAll], rfl, ?_, fun _ _ => rfl⟩
      intro record member
      cases member
  | cons record rest ih =>
      rw [List.map_cons, List.nodup_cons] at distinct
      have new : record.eraseBound.id ∉ base.records := fresh record List.mem_cons_self
      have later : forall other, other ∈ rest ->
          other.id ∉ (base.insertRecord record.eraseBound).records := by
        intro other member present
        simp only [insertRecord, Finmap.mem_insert, MovementRecord.eraseBound_id] at present
        rcases present with same | present
        · apply distinct.1
          rw [← same]
          exact List.mem_map_of_mem member
        · exact fresh other (List.mem_cons_of_mem _ member) present
      have extended := ih distinct.2 later
      refine ⟨?_, extended.coordinatorState, ?_, ?_⟩
      · have order := extended.order
        rw [order_insertRecord_of_not_mem new, List.append_assoc] at order
        exact order
      · intro other member
        rcases List.mem_cons.mp member with same | member
        · subst same
          have kept := extended.outside other.id distinct.1
          rw [stored_insertRecord, MovementRecord.eraseBound_id, if_pos rfl,
            MovementRecord.eraseBound_eraseBound] at kept
          exact kept
        · exact extended.inside other member
      · intro id absent
        rw [List.map_cons, List.mem_cons, not_or] at absent
        have kept := extended.outside id absent.2
        rw [stored_insertRecord, MovementRecord.eraseBound_id, if_neg absent.1] at kept
        exact kept

/-- The movements a compacted log holds. -/
def liveMovements (contents : StoreContents) : List MovementRecord :=
  contents.order.filterMap contents.records.lookup

theorem Consistent.lookup_id (consistent : contents.Consistent) {id : MovementId}
    (found : contents.records.lookup id = some record) : record.id = id := by
  have filed := consistent.filed id record.eraseBound (by rw [stored, found]; rfl)
  exact filed

theorem Consistent.map_id_liveMovements (consistent : contents.Consistent) :
    contents.liveMovements.map MovementRecord.id = contents.order := by
  have covered : forall ids : List MovementId, (forall id, id ∈ ids -> id ∈ contents.records) ->
      (ids.filterMap contents.records.lookup).map MovementRecord.id = ids := by
    intro ids present
    induction ids with
    | nil => rfl
    | cons id rest ih =>
        obtain ⟨record, found⟩ := Finmap.mem_iff.mp (present id List.mem_cons_self)
        rw [List.filterMap_cons, found]
        simp only [List.map_cons, consistent.lookup_id found]
        rw [ih (fun other member => present other (List.mem_cons_of_mem _ member))]
  exact covered contents.order (fun id member => (consistent.listed id).mp member)

theorem Consistent.length_liveRecords (consistent : contents.Consistent) :
    (MovementStore.liveRecords contents).length = contents.liveCount := by
  have lengths := congrArg List.length consistent.map_id_liveMovements
  rw [List.length_map] at lengths
  rw [MovementStore.liveRecords, List.length_append, List.length_map, liveCount, ← lengths]
  cases contents.coordinatorState <;> rfl

/-- Replaying a compacted log gives the index it was written from. -/
theorem Consistent.applyAll_liveRecords (consistent : contents.Consistent) :
    contents.Agrees (empty.applyAll (MovementStore.liveRecords contents)) := by
  have ids := consistent.map_id_liveMovements
  have extended : empty.ExtendedBy contents.liveMovements
      (empty.applyAll (contents.liveMovements.map LogRecord.movement)) := by
    apply extendedBy_applyAll
    · rw [ids]
      exact consistent.nodup
    · intro record _ present
      exact Finmap.notMem_empty present
  have split : empty.applyAll (MovementStore.liveRecords contents) =
      (empty.applyAll (contents.liveMovements.map LogRecord.movement)).applyAll
        (contents.coordinatorState.map LogRecord.coordinatorState).toList := by
    rw [applyAll, MovementStore.liveRecords, List.foldl_append]
    rfl
  have sameStored : forall id, contents.stored id =
      (empty.applyAll (contents.liveMovements.map LogRecord.movement)).stored id := by
    intro id
    by_cases present : id ∈ contents.records
    · obtain ⟨record, found⟩ := Finmap.mem_iff.mp present
      have own := consistent.lookup_id found
      have member : record ∈ contents.liveMovements :=
        List.mem_filterMap.mpr ⟨id, (consistent.listed id).mpr present, found⟩
      have kept := extended.inside record member
      rw [own] at kept
      rw [kept, stored, found]
      rfl
    · have unlisted : id ∉ contents.liveMovements.map MovementRecord.id := by
        rw [ids, consistent.listed]
        exact present
      rw [extended.outside id unlisted, stored, Finmap.lookup_eq_none.mpr present]
      rfl
  have sameOrder : contents.order =
      (empty.applyAll (contents.liveMovements.map LogRecord.movement)).order := by
    rw [extended.order, ids]
    rfl
  rw [split]
  cases saved : contents.coordinatorState with
  | none => exact ⟨sameOrder, saved.trans extended.coordinatorState.symm, sameStored⟩
  | some state => exact ⟨sameOrder, saved, sameStored⟩

end StoreContents

end StateMovementFabric
