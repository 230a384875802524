import StateMovementFabric.Coordinator.Announcements
import StateMovementFabric.Coordinator.CommitSafety
import StateMovementFabric.Coordinator.Continuity
import StateMovementFabric.Wire.Recognition

namespace StateMovementFabric

open Foundation Wire

/-!
# Superseded movements

A newer generation of an object is to make the movements of an older one stale:
`evaluate_supersession` compares the two.  Nothing calls it.  The driver reads the record
once, and the inventory not at all, so a movement that is overtaken by an announcement on
its way crosses the commit barrier like any other.
-/

variable {call : Call} {object : StateObjectDescriptor} {thread : CoordinatorThread}

theorem Call.eq_of_driven {id : MovementId} (driven : call.driven = some id) :
    call = .drive id := by
  cases call with
  | drive other =>
      cases driven
      rfl
  | _ => cases driven

/-- The object that a running drive has read. -/
def drivenObject (thread : CoordinatorThread) : Option StateObjectDescriptor :=
  match thread.call.driven, thread.pending with
  | some _, some _ => (openingRecord thread.history).map MovementRecord.object
  | _, _ => none

theorem drivenObject_eq_some (drives : drivenObject thread = some object) :
    (exists id, thread.call.driven = some id) ∧ exists read,
      openingRecord thread.history = some read ∧ read.object = object := by
  unfold drivenObject at drives
  cases driven : thread.call.driven with
  | none =>
      rw [driven] at drives
      cases drives
  | some id =>
      rw [driven] at drives
      cases pends : thread.pending with
      | none =>
          rw [pends] at drives
          cases drives
      | some op =>
          rw [pends] at drives
          exact ⟨⟨id, rfl⟩, Option.map_eq_some_iff.mp drives⟩

namespace ControlPlane

/-- The inventory holds a newer generation of the object. -/
def supersedes (plane : ControlPlane) (object : StateObjectDescriptor) : Bool :=
  (plane.table.inventory object.objectId).any fun entry =>
    decide (object.generation.value < entry.1.generation.value)

/-- The drive at `index` is about to send the commit request for an object of which the
inventory holds a newer generation. -/
def commitsSuperseded (plane : ControlPlane) (index : Nat) : Bool :=
  match plane.coordinator.performing index with
  | some (thread, .push _ frame) =>
      thread.call.driven.isSome && frame.type == .COMMIT_REQUEST &&
        (decodeMessage CommitRequest.decode frame).toOption.any fun commit =>
          plane.supersedes commit.object
  | _ => false

/-- A commit request for a superseded movement is not sent, and the movement is not written
as committed by the drive that would have sent it. -/
def SupersessionFenced (config : CoordinatorConfig) (plane : ControlPlane)
    (actions : List PlaneAction) : Prop :=
  forall before after index, actions = before ++ after ->
    (runFrom (step config) plane before).commitsSuperseded index = true ->
    (forall environment rest, after ≠ .run index environment :: rest) ∧
      forall middle environment rest, after = middle ++ .run index environment :: rest ->
        forall thread record,
          (runFrom (step config) plane (before ++ middle)).coordinator.performing index =
            some (thread, .storePut record) -> record.state ≠ .COMMITTED

/-- A newer generation is announced only when no drive of an older one is running, and a
drive starts only on a movement that is not superseded. -/
def runsCurrent (plane : ControlPlane) : PlaneAction -> Bool
  | .session action =>
      (plane.table.announces action).all fun announced =>
        plane.coordinator.threads.all fun thread =>
          (drivenObject thread).all fun object =>
            object.objectId != announced.1.objectId ||
              decide (announced.1.generation.value ≤ object.generation.value)
  | .run index _ =>
      match plane.coordinator.performing index with
      | some (thread, .storeGet id) =>
          thread.call.driven.isNone ||
            (plane.coordinator.store.get id).toOption.all fun record =>
              !plane.supersedes record.object
      | _ => true
  | _ => true

/-! ## The invariant -/

/-- No running drive works on an object that has been superseded. -/
structure Current (config : CoordinatorConfig) (plane : ControlPlane) : Prop where
  disciplined : plane.coordinator.Disciplined config continuityGuard
  current : forall thread, thread ∈ plane.coordinator.threads -> forall object,
    drivenObject thread = some object -> plane.supersedes object = false

section Step

variable {config : CoordinatorConfig} {plane : ControlPlane}

/-- What a drive sends to be committed is the object it works on. -/
theorem Current.not_commitsSuperseded (holds : Current config plane) (index : Nat) :
    ¬ plane.commitsSuperseded index = true := by
  intro commits
  unfold commitsSuperseded at commits
  split at commits
  · rename_i thread link frame performs
    rw [Bool.and_eq_true, Bool.and_eq_true, beq_iff_eq, Option.any_eq_true] at commits
    rcases commits with ⟨⟨driven, type⟩, commit, decoded, superseded⟩
    rcases Coordinator.performing_eq_some performs with ⟨located, pends⟩
    have present := List.mem_of_getElem? located
    rcases Option.isSome_iff_exists.mp driven with ⟨id, driven⟩
    have drives := Call.eq_of_driven driven
    have allowed : readFirst (fun state => isActive state = true) thread.history
        (.push link frame) := by
      have follows := (holds.disciplined.follows thread present).allowed pends
      rw [drives] at follows
      exact follows
    rcases readFirst_push allowed with ⟨read, opened, -, about, -⟩
    rcases about.commit type with ⟨sent, rfl, -, object⟩
    rcases CommitRequest.version_of_decode (toOption_eq_some.mp decoded) with
      ⟨-, objectId, generation⟩
    have works : drivenObject thread = some read.object := by
      unfold drivenObject
      rw [driven, pends, opened]
      rfl
    have fresh := holds.current thread present read.object works
    rw [supersedes, objectId, generation, object] at superseded
    rw [supersedes, superseded] at fresh
    cases fresh
  · cases commits

variable {environment : Environment} {op : CoordinatorOp}

/-- What a drive works on after an operation it worked on before, or has just read. -/
theorem drivenObject_resume (pends : thread.pending = some op) {store : OpenStore}
    (works : drivenObject (thread.resume (environment.reply store)) = some object) :
    drivenObject thread = some object ∨ exists id record, op = .storeGet id ∧
      thread.call.driven.isNone = false ∧ store.get id = .ok record ∧ record.object = object := by
  rcases drivenObject_eq_some works with ⟨⟨id, driven⟩, read, opened, rfl⟩
  rw [Thread.resume_call] at driven
  rw [Thread.history_resume pends] at opened
  cases history : thread.history with
  | cons first rest =>
      left
      rw [history] at opened
      unfold drivenObject
      rw [driven, pends, history]
      exact congrArg (Option.map MovementRecord.object) opened
  | nil =>
      right
      rw [history] at opened
      cases op with
      | storeGet asked =>
          change openingRecord [⟨.storeGet asked, store.get asked⟩] = some read at opened
          cases found : store.get asked with
          | error status =>
              rw [found] at opened
              cases opened
          | ok record =>
              rw [found] at opened
              cases opened
              exact ⟨asked, read, rfl, by rw [driven]; rfl, found, rfl⟩
      | _ => cases opened

theorem Current.perform (holds : Current config plane) {index : Nat}
    (located : plane.coordinator.threads[index]? = some thread) (pends : thread.pending = some op)
    (meets : plane.runsCurrent (.run index environment) = true) :
    Current config { plane with
      coordinator := plane.coordinator.perform index thread (plane.table.surround environment op)
        op } where
  disciplined := Coordinator.Disciplined.steps (guarded_call_continuity config) plane.coordinator _ _
    holds.disciplined (.performs index _ thread op located pends)
  current := by
    intro member inside object works
    change plane.supersedes object = false
    rcases Coordinator.mem_threads_perform inside with earlier | rfl
    · exact holds.current member earlier object works
    rcases drivenObject_resume pends works with before | ⟨id, record, rfl, drives, found, rfl⟩
    · exact holds.current thread (List.mem_of_getElem? located) object before
    · rw [runsCurrent, Coordinator.performing_of_pending located pends] at meets
      simpa [drives, found, Except.toOption] using meets

theorem Current.spawn (holds : Current config plane) {action : Action} {rest : List MovementId}
    (opened : plane.coordinator.Opens action call rest)
    (recovered : plane.coordinator.recovering = false) :
    Current config { plane with coordinator := plane.coordinator.spawn config call rest } where
  disciplined := Coordinator.Disciplined.steps (guarded_call_continuity config) plane.coordinator _ _
    holds.disciplined (.begins _ _ _ opened recovered)
  current := by
    intro member inside object works
    rcases Coordinator.mem_threads_spawn inside with earlier | rfl
    · exact holds.current member earlier object works
    · rcases drivenObject_eq_some works with ⟨-, read, opened, -⟩
      cases opened

/-- The inventory is all that `Current` reads of the session table. -/
theorem Current.of_inventory (holds : Current config plane) {table : SessionTable}
    (same : table.inventory = plane.table.inventory) :
    Current config { plane with table := table } where
  disciplined := holds.disciplined
  current := by
    intro thread inside object works
    rw [supersedes]
    change (table.inventory object.objectId).any _ = false
    rw [same]
    exact holds.current thread inside object works

theorem Current.session (holds : Current config plane) {action : ControlAction}
    (meets : plane.runsCurrent (.session action) = true) :
    Current config { plane with table := plane.tableAfter config (.session action) } := by
  change Current config { plane with
    table := if plane.coordinator.recovering then plane.table
      else plane.table.step (plane.control config) action }
  split
  · exact holds
  have changed := SessionTable.inventory_step (plane.control config) plane.table action
  cases announced : plane.table.announces action with
  | none =>
      rw [announced] at changed
      exact holds.of_inventory changed
  | some pair =>
      rcases pair with ⟨descriptor, announcer⟩
      rw [announced] at changed
      rcases plane.table.inventory.announce_eq descriptor announcer with refused | ⟨updated, -⟩
      · exact holds.of_inventory (changed.trans refused)
      refine ⟨holds.disciplined, fun thread inside object works => ?_⟩
      rw [supersedes]
      change ((plane.table.step (plane.control config) action).inventory object.objectId).any _ =
        false
      rw [changed.trans updated]
      by_cases here : object.objectId = descriptor.objectId
      · rw [runsCurrent, announced, Option.all_some, List.all_eq_true] at meets
        have current := meets thread inside
        rw [works, Option.all_some, here, bne_self_eq_false, Bool.false_or, decide_eq_true_eq]
          at current
        rw [here, Function.update_self, Option.any_some, decide_eq_false_iff_not]
        exact UInt64.not_lt.mpr current
      · rw [Function.update_of_ne here]
        exact holds.current thread inside object works

theorem Current.step (holds : Current config plane) {action : PlaneAction}
    (meets : plane.runsCurrent action = true) : Current config (plane.step config action) := by
  have begins : forall (started : Action) (call : Call) (rest : List MovementId),
      plane.coordinator.Opens started call rest ->
      Current config { plane with coordinator := plane.coordinator.begin config call rest } := by
    intro started call rest opened
    unfold Coordinator.begin
    cases recovered : plane.coordinator.recovering with
    | true => exact holds
    | false => exact holds.spawn opened recovered
  cases action with
  | session action => exact holds.session meets
  | submit request => exact begins _ _ _ (.submit request)
  | cancel id => exact begins _ _ _ (.cancel id)
  | reconcile id => exact begins _ _ _ (.reconcile id)
  | pickUp =>
      change Current config { plane with coordinator := plane.coordinator.step config .pickUp }
      unfold Coordinator.step
      cases queued : plane.coordinator.queue with
      | nil => exact holds
      | cons id rest => exact begins _ _ _ (.pickUp id rest queued)
  | run index environment =>
      change Current config { plane with
        coordinator := plane.coordinator.resume index (plane.around index environment) }
      unfold Coordinator.resume
      cases performed : plane.coordinator.performing index with
      | none => exact holds
      | some pair =>
          rcases Coordinator.performing_eq_some performed with ⟨located, pends⟩
          rw [around_performing located pends]
          exact holds.perform located pends meets

end Step

/-- In every run in which no newer generation is announced while a drive of an older one is
running, and no drive starts on a superseded movement, no superseded movement is
committed. -/
theorem supersessionFenced_of_runsCurrent (config : CoordinatorConfig) (store : OpenStore)
    (queue : List MovementId) (table : SessionTable) (incarnation : EndpointIncarnation)
    (actions : List PlaneAction)
    (current : everyStep (step config) runsCurrent ⟨.started store queue, table, incarnation⟩
      actions = true) :
    SupersessionFenced config ⟨.started store queue, table, incarnation⟩ actions := by
  intro before after index split commits
  have start : Current config ⟨.started store queue, table, incarnation⟩ :=
    ⟨Coordinator.disciplined_started config continuityGuard store queue,
      fun _ inside => absurd inside List.not_mem_nil⟩
  rw [split, everyStep_append, Bool.and_eq_true] at current
  have reached := runFrom_invariant_of_everyStep current.1 start fun _ _ holds meets =>
    holds.step meets
  exact absurd commits (reached.not_commitsSuperseded index)

/-! ## An announcement on the way to the barrier -/

/-- The peer that the smallest movement goes to. -/
def destinationPeer : PeerIdentity := ⟨endpointB, .filled 2, ⟨1⟩⟩

/-- A coordinator that is to drive the smallest movement. -/
def drivingOne : ControlPlane :=
  ⟨.started (storeHolding (oneByteMovement .AUTHORIZED)) [.filled 1], .recovered .initial,
    ⟨endpointA, .filled 9, ⟨1⟩⟩⟩

/-- Both endpoints register, and the movement is driven up to its commit request. -/
def toTheBarrier : List PlaneAction :=
  [.session (.opens SessionTable.firstBoot), .session (.opens destinationPeer),
    .session (.receives 0 1 (SessionTable.registerFrame SessionTable.firstBoot)),
    .session (.receives 1 1 (SessionTable.registerFrame destinationPeer)), .pickUp] ++
    List.map (.run 0) (List.replicate 19 (answering grantAcknowledged) ++
      List.replicate 6 (answering bytesArrived) ++ List.replicate 3 (answering (probeAnswer [])) ++
      List.replicate 6 (answering (probeAnswer [1])))

/-- The commit request and what follows it. -/
def acrossTheBarrier : List PlaneAction := List.replicate 4 (.run 0 (answering commitConfirmed))

/-- The source announces the next generation of the object. -/
def nextGeneration : PlaneAction := announceAction { oneByteObject with generation := ⟨2⟩ }

/-- The drive finds no live source and ends; then the source comes up and announces the next
generation. -/
def announcedAfterwards : List PlaneAction :=
  .pickUp :: List.replicate 5 (.run 0 {}) ++
    [.session (.opens SessionTable.firstBoot), nextGeneration]

theorem supersessionFenced_announcedAfterwards :
    SupersessionFenced defaultConfig drivingOne announcedAfterwards :=
  supersessionFenced_of_runsCurrent defaultConfig _ _ _ _ _ (by decide +kernel)

/-- The commit request is sent although a newer generation has been announced, and the
movement ends up committed. -/
theorem not_supersessionFenced_nextGeneration :
    ((runFrom (step defaultConfig) drivingOne
        (toTheBarrier ++ [nextGeneration] ++ acrossTheBarrier)).coordinator.store.get
          (.filled 1)).map MovementRecord.state = .ok .COMMITTED ∧
      ¬ SupersessionFenced defaultConfig drivingOne
        (toTheBarrier ++ [nextGeneration] ++ acrossTheBarrier) := by
  have reached : (runFrom (step defaultConfig) drivingOne
        (toTheBarrier ++ [nextGeneration])).commitsSuperseded 0 = true ∧
      ((runFrom (step defaultConfig) (runFrom (step defaultConfig) drivingOne
        (toTheBarrier ++ [nextGeneration])) acrossTheBarrier).coordinator.store.get
          (.filled 1)).map MovementRecord.state = .ok .COMMITTED := by
    decide +kernel
  constructor
  · rw [runFrom, List.foldl_append]
    exact reached.2
  · intro fenced
    exact (fenced (toTheBarrier ++ [nextGeneration]) acrossTheBarrier 0 rfl reached.1).1 _ _ rfl

end ControlPlane

end StateMovementFabric
