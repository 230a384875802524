import StateMovementFabric.Coordinator.ControlPlane
import StateMovementFabric.Coordinator.CallGuards
import StateMovementFabric.Coordinator.Registrations
import StateMovementFabric.Core.Canonical

namespace StateMovementFabric

open Foundation Wire

/-!
# Announced versions and submitted movements

A submitted movement takes its object from the inventory, where an announcement put it,
and keeps its own copy.  An announcement is refused when a newer generation is known, but
one of the same generation replaces what was announced before, whatever its content.
-/

/-- Two descriptors of the same version have the same content. -/
def StateObjectDescriptor.agrees (first second : StateObjectDescriptor) : Bool :=
  first.objectId != second.objectId || first.generation != second.generation ||
    first.contentDigest == second.contentDigest

theorem StateObjectDescriptor.agrees_iff {first second : StateObjectDescriptor} :
    first.agrees second = true ↔
      (first.objectId = second.objectId -> first.generation = second.generation ->
        first.contentDigest = second.contentDigest) := by
  unfold agrees
  rw [Bool.or_eq_true, Bool.or_eq_true, bne_iff_ne, bne_iff_ne, beq_iff_eq]
  tauto

/-! ## What a submission writes -/

/-- Every record that is written is of this object. -/
def writesObject (object : StateObjectDescriptor) : Program.Guard coordinatorSignature
  | _, .storePut record => record.object = object
  | _, _ => True

variable {op : CoordinatorOp} {record : MovementRecord} {environment : Environment}
  {store : OpenStore} {table : SessionTable}

section Submission

variable {past : CoordinatorHistory} {object : StateObjectDescriptor}

variable {α : Type}

/-- An operation that is no write. -/
theorem guarded_writes_other {next : op.Reply -> CoordinatorProgram α}
    (other : forall record, op ≠ .storePut record) (continues : forall past reply,
      Program.Guarded (writesObject object) (fun _ _ => True) past (next reply)) :
    Program.Guarded (writesObject object) (fun _ _ => True) past (ask op >>= next) := by
  refine ⟨?_, fun reply _ => continues _ reply⟩
  cases op with
  | storePut record => exact absurd rfl (other record)
  | _ => trivial

theorem guarded_writes_put {next : Result Unit -> CoordinatorProgram α}
    (same : record.object = object) (refused : forall past status,
      Program.Guarded (writesObject object) (fun _ _ => True) past (next (.error status)))
    (accepted : forall past,
      Program.Guarded (writesObject object) (fun _ _ => True) past (next (.ok ()))) :
    Program.Guarded (writesObject object) (fun _ _ => True) past (storePut record >>= next) := by
  refine ⟨same, fun reply _ => ?_⟩
  rcases reply with status | ⟨⟩
  · exact refused _ status
  · exact accepted _

theorem guarded_compatibilityNote_writes (config : CoordinatorConfig) (destination : EndpointId) :
    Program.Guarded (writesObject object) (fun _ _ => True) past
      (compatibilityNote config object destination) := by
  unfold compatibilityNote
  refine guarded_writes_other (fun _ => nofun) fun past published => ?_
  rcases published with _ | status | evidence
  · trivial
  · dsimp only
    split <;> trivial
  · dsimp only
    split
    · split <;> trivial
    · refine guarded_writes_other (fun _ => nofun) fun past _ => ?_
      split
      · trivial
      · split <;> trivial

theorem guarded_authorize_writes (note : Text) (same : record.object = object) :
    Program.Guarded (writesObject object) (fun _ _ => True) past (authorize record note) := by
  unfold authorize
  apply guarded_writes_put same
  · exact fun _ _ => trivial
  intro past
  refine guarded_writes_other (fun _ => nofun) fun past now => ?_
  split
  · exact ⟨trivial, fun _ _ => trivial⟩
  · rename_i authorized applied
    apply guarded_writes_put ((moved_of_applyTransition applied).object.trans same)
    · exact fun _ _ => trivial
    · exact fun _ => ⟨trivial, fun _ _ => ⟨trivial, fun _ _ => trivial⟩⟩

theorem object_of_created {planned : MovementRecord} {note : Text}
    (made : created planned note = .ok record) : record.object = planned.object := by
  rcases created_eq_ok made with ⟨_, chain, _, rfl⟩
  rfl

theorem guarded_plan_writes (config : CoordinatorConfig) (request : SubmitMovement) :
    Program.Guarded (writesObject object) (fun _ _ => True) past (plan config request object) := by
  unfold plan
  refine guarded_writes_other (fun _ => nofun) fun past source => ?_
  rcases source with status | source
  · trivial
  refine guarded_writes_other (fun _ => nofun) fun past destination => ?_
  rcases destination with status | destination
  · trivial
  dsimp only
  split
  · trivial
  refine (guarded_compatibilityNote_writes config request.destination).bind
    fun past decided _ => ?_
  rcases decided with status | note
  · trivial
  refine guarded_writes_other (fun _ => nofun) fun past id => ?_
  refine guarded_writes_other (fun _ => nofun) fun past compatibility => ?_
  refine guarded_writes_other (fun _ => nofun) fun past topology => ?_
  refine guarded_writes_other (fun _ => nofun) fun past now => ?_
  split
  · trivial
  · rename_i record made
    exact guarded_authorize_writes note (object_of_created made)

end Submission

/-- The call read this object from the inventory. -/
def Saw (past : CoordinatorHistory) (object : StateObjectDescriptor) : Prop :=
  exists objectId announcer, ⟨.inventoryFind objectId, some (object, announcer)⟩ ∈ past

/-- A submission writes records only of an object that it read from the inventory. -/
def announcedGuard : Call -> Program.Guard coordinatorSignature
  | .submit _ => fun past op => forall record, op = .storePut record -> Saw past record.object
  | _ => fun _ _ => True

theorem Saw.later {past : CoordinatorHistory} {object : StateObjectDescriptor}
    (saw : Saw past object) (event : CoordinatorEvent) : Saw (past ++ [event]) object := by
  rcases saw with ⟨objectId, announcer, found⟩
  exact ⟨objectId, announcer, List.mem_append_left _ found⟩

/-- What a call has seen after one more operation. -/
theorem saw_performed {past : CoordinatorHistory} {object : StateObjectDescriptor}
    (saw : Saw (past ++ [⟨op, environment.reply store op⟩]) object) :
    Saw past object ∨ exists objectId announcer, op = .inventoryFind objectId ∧
      environment.announced = some (object, announcer) := by
  rcases saw with ⟨objectId, announcer, found⟩
  rcases List.mem_append.mp found with earlier | last
  · exact Or.inl ⟨objectId, announcer, earlier⟩
  · have same := List.mem_singleton.mp last
    cases op with
    | inventoryFind asked =>
        injection same with ids replies
        cases ids
        exact Or.inr ⟨objectId, announcer, rfl, replies.symm⟩
    | _ => cases same

theorem object_of_checkInventory {request : SubmitMovement}
    {announced : Option (StateObjectDescriptor × Option EndpointId)}
    {object : StateObjectDescriptor} (checked : checkInventory request announced = .ok object) :
    exists announcer, announced = some (object, announcer) := by
  rcases announced with _ | ⟨known, announcer⟩
  · cases checked
  · unfold checkInventory at checked
    dsimp only at checked
    split at checked
    · cases checked
    · split at checked
      · cases checked
      · cases checked
        exact ⟨announcer, rfl⟩

theorem guarded_submit_announced (config : CoordinatorConfig) (request : SubmitMovement) :
    Program.Guarded (announcedGuard (.submit request)) (fun _ _ => True) []
      (submit config request) := by
  unfold submit
  split
  · trivial
  refine Program.guarded_call_bind.mpr ⟨fun record put => (by cases put), fun announced _ => ?_⟩
  split
  · trivial
  · rename_i object checked
    split
    · trivial
    · rcases object_of_checkInventory checked with ⟨announcer, rfl⟩
      have saw : Saw [⟨.inventoryFind request.objectId, some (object, announcer)⟩] object :=
        ⟨request.objectId, announcer, List.mem_singleton_self _⟩
      have keeps : forall later event, Saw later object -> Saw (later ++ [event]) object :=
        fun _ event saw => saw.later event
      refine (Program.Guarded.keeping (guarded_plan_writes config request) ?_ keeps).weaken ?_
      · exact saw
      rintro later op ⟨writes, saw⟩ record rfl
      exact (show record.object = object from writes) ▸ saw

/-- Every call respects the guard: only submissions are restricted by it. -/
theorem guarded_call_announced (config : CoordinatorConfig) (call : Call) :
    Program.Guarded (announcedGuard call) (fun _ _ => True) [] (call.program config) := by
  cases call with
  | submit request => exact (guarded_submit_announced config request).bind fun _ _ _ => trivial
  | _ => exact Program.guarded_unrestricted _

/-! ## What a step does to the inventory -/

namespace SessionTable

/-- The announcement that an action brings, and who makes it. -/
def announces (table : SessionTable) : ControlAction -> Option (StateObjectDescriptor × EndpointId)
  | .receives link _ frame =>
      if frame.type = .ANNOUNCE_OBJECT then
        (table.running link).bind fun session =>
          (decodeMessage AnnounceObject.decode frame).toOption.map fun message =>
            (message.descriptor, session.identity.endpoint)
      else none
  | _ => none

theorem inventory_onRegister (config : ControlConfig) (table : SessionTable) (link : LinkId)
    (now : Millis) (message : RegisterRequest) :
    (table.onRegister config link now message).1.inventory = table.inventory := by
  unfold onRegister
  dsimp only
  split
  · rfl
  · split <;> rfl

theorem inventory_handleEndpointMessage {config : ControlConfig} {link : LinkId} {now : Millis}
    {frame : Frame} {session : ControlLink} (runs : table.running link = some session) :
    (table.handleEndpointMessage config link session.identity.endpoint now frame).1.inventory =
      match table.announces (.receives link now frame) with
      | some (descriptor, announcer) => (table.inventory.announce descriptor announcer).1
      | none => table.inventory := by
  unfold handleEndpointMessage announces
  dsimp only
  split
  · rename_i type
    rw [if_neg (by rw [type]; decide)]
    unfold decoding
    split
    · rfl
    · exact inventory_onRegister config table link now _
  · rename_i type
    rw [if_pos type, runs]
    unfold decoding
    cases decodeMessage AnnounceObject.decode frame <;> rfl
  · rename_i type
    rw [if_neg (by rw [type]; decide)]
    unfold decoding
    split <;> rfl
  · rename_i type
    rw [if_neg (by rw [type]; decide)]
    unfold decoding
    split <;> rfl
  all_goals
    rename_i type
    rw [if_neg (by first | (rw [type]; decide) | exact fun same => absurd same ‹_›)]

/-- The inventory after a step: only an announcement changes it. -/
theorem inventory_step (config : ControlConfig) (table : SessionTable) (action : ControlAction) :
    (table.step config action).inventory =
      match table.announces action with
      | some (descriptor, announcer) => (table.inventory.announce descriptor announcer).1
      | none => table.inventory := by
  cases action with
  | opens identity => rfl
  | receives link now frame =>
      rw [step]
      cases runs : table.running link with
      | none =>
          rw [announces, runs, Option.bind_none, ite_self]
      | some session => exact inventory_handleEndpointMessage runs
  | ends link =>
      rw [step]
      split <;> rfl

end SessionTable

theorem Inventory.announce_eq (inventory : Inventory) (descriptor : StateObjectDescriptor)
    (announcer : EndpointId) :
    (inventory.announce descriptor announcer).1 = inventory ∨
      ((inventory.announce descriptor announcer).1 =
          Function.update inventory descriptor.objectId (some (descriptor, announcer)) ∧
        forall known owner, inventory descriptor.objectId = some (known, owner) ->
          known.generation.value ≤ descriptor.generation.value) := by
  unfold announce
  split
  · rename_i known owner found
    split
    · exact Or.inl rfl
    · rename_i older
      refine Or.inr ⟨rfl, fun other otherOwner entry => ?_⟩
      rw [found] at entry
      cases entry
      exact UInt64.not_lt.mp older
  · rename_i absent
    refine Or.inr ⟨rfl, fun other otherOwner entry => ?_⟩
    rw [absent] at entry
    cases entry

/-! ## One content for each version -/

namespace ControlPlane

variable {config : CoordinatorConfig} {plane : ControlPlane}

/-- Nothing but sessions and submissions: no movement is driven, cancelled or reconciled. -/
def submitsOnly (_ : ControlPlane) : PlaneAction -> Bool
  | .session _ | .submit _ | .run _ _ => true
  | _ => false

/-- An announcement of a version that is stored or announced has the content that is known
of it. -/
def announcesKnown (plane : ControlPlane) : PlaneAction -> Bool
  | .session action =>
      (plane.table.announces action).all fun announced =>
        (plane.coordinator.store.val.contents.liveMovements.all fun record =>
          announced.1.agrees record.object) &&
        (plane.table.inventory announced.1.objectId).all fun entry => announced.1.agrees entry.1
  | _ => true

/-- An object version that is stored, announced, or in the hands of a submission. -/
inductive Mentions (plane : ControlPlane) (object : StateObjectDescriptor) : Prop where
  | stored (id : MovementId) (record : MovementRecord)
      (found : plane.coordinator.store.get id = .ok record) (same : record.object = object)
  | announced (objectId : StateObjectId) (announcer : EndpointId)
      (entry : plane.table.inventory objectId = some (object, announcer))
  | held (thread : CoordinatorThread) (member : thread ∈ plane.coordinator.threads)
      (saw : Saw thread.history object)

/-- What is mentioned agrees, and what a submission holds is no newer than what is
announced. -/
structure Versioned (config : CoordinatorConfig) (plane : ControlPlane) : Prop where
  disciplined : plane.coordinator.Disciplined config announcedGuard
  submits : forall thread, thread ∈ plane.coordinator.threads -> exists request,
    thread.call = .submit request
  filed : forall objectId object announcer,
    plane.table.inventory objectId = some (object, announcer) -> object.objectId = objectId
  overtaken : forall thread, thread ∈ plane.coordinator.threads -> forall object,
    Saw thread.history object -> exists known owner,
      plane.table.inventory object.objectId = some (known, owner) ∧
        object.generation.value ≤ known.generation.value
  agree : forall first second, plane.Mentions first -> plane.Mentions second ->
    first.agrees second = true

variable {index : Nat} {thread : CoordinatorThread} {descriptor : StateObjectDescriptor}

/-- The surroundings of the operation that a thread performs. -/
theorem around_performing (located : plane.coordinator.threads[index]? = some thread)
    (pends : thread.pending = some op) :
    plane.around index environment = plane.table.surround environment op := by
  unfold around
  rw [Coordinator.performing_of_pending located pends]

/-- What is mentioned after an operation of a submission was mentioned before it. -/
theorem Versioned.mentions_perform (versioned : Versioned config plane)
    (located : plane.coordinator.threads[index]? = some thread) (pends : thread.pending = some op)
    {object : StateObjectDescriptor} (mentions : Mentions { plane with
      coordinator := plane.coordinator.perform index thread (plane.table.surround environment op)
        op } object) : plane.Mentions object := by
  have present := List.mem_of_getElem? located
  cases mentions with
  | stored id record found same =>
      cases op with
      | storePut written =>
          rcases MovementStore.get_put found with ⟨-, -, rfl⟩ | ⟨-, earlier⟩
          · rcases versioned.submits thread present with ⟨request, call⟩
            have allowed := (versioned.disciplined.follows thread present).allowed pends
            rw [call] at allowed
            exact .held thread present (same ▸ allowed record rfl)
          · exact .stored id record earlier same
      | _ => exact .stored id record found same
  | announced objectId announcer entry => exact .announced objectId announcer entry
  | held member inside saw =>
      rcases Coordinator.mem_threads_perform inside with earlier | rfl
      · exact .held member earlier saw
      · rw [Thread.history_resume pends] at saw
        rcases saw_performed saw with before | ⟨objectId, announcer, rfl, found⟩
        · exact .held thread present before
        · rcases Option.map_eq_some_iff.mp found with ⟨⟨known, owner⟩, entry, same⟩
          cases same
          exact .announced objectId owner entry

theorem Versioned.perform (versioned : Versioned config plane)
    (located : plane.coordinator.threads[index]? = some thread) (pends : thread.pending = some op) :
    Versioned config { plane with
      coordinator := plane.coordinator.perform index thread (plane.table.surround environment op)
        op } where
  disciplined := Coordinator.Disciplined.steps (guarded_call_announced config) plane.coordinator _ _
    versioned.disciplined (.performs index _ thread op located pends)
  submits := by
    intro member inside
    rcases Coordinator.mem_threads_perform inside with earlier | rfl
    · exact versioned.submits member earlier
    · rw [Thread.resume_call]
      exact versioned.submits thread (List.mem_of_getElem? located)
  filed := versioned.filed
  overtaken := by
    intro member inside object saw
    rcases Coordinator.mem_threads_perform inside with earlier | rfl
    · exact versioned.overtaken member earlier object saw
    · rw [Thread.history_resume pends] at saw
      rcases saw_performed saw with before | ⟨objectId, announcer, rfl, found⟩
      · exact versioned.overtaken thread (List.mem_of_getElem? located) object before
      · rcases Option.map_eq_some_iff.mp found with ⟨⟨known, owner⟩, entry, same⟩
        cases same
        refine ⟨known, owner, ?_, UInt64.le_refl _⟩
        rw [versioned.filed objectId known owner entry]
        exact entry
  agree := fun first second firstMentioned secondMentioned =>
    versioned.agree first second (versioned.mentions_perform located pends firstMentioned)
      (versioned.mentions_perform located pends secondMentioned)

theorem Versioned.spawn (versioned : Versioned config plane) (request : SubmitMovement)
    (recovered : plane.coordinator.recovering = false) :
    Versioned config { plane with
      coordinator := plane.coordinator.spawn config (.submit request) plane.coordinator.queue } where
  disciplined := Coordinator.Disciplined.steps (guarded_call_announced config) plane.coordinator _ _
    versioned.disciplined (.begins _ _ _ (.submit request) recovered)
  submits := by
    intro member inside
    rcases Coordinator.mem_threads_spawn inside with earlier | rfl
    · exact versioned.submits member earlier
    · exact ⟨request, rfl⟩
  filed := versioned.filed
  overtaken := by
    intro member inside object saw
    rcases Coordinator.mem_threads_spawn inside with earlier | rfl
    · exact versioned.overtaken member earlier object saw
    · rcases saw with ⟨_, _, found⟩
      cases found
  agree := by
    have before : forall object,
        Mentions { plane with
          coordinator := plane.coordinator.spawn config (.submit request)
            plane.coordinator.queue } object -> plane.Mentions object := by
      intro object mentions
      cases mentions with
      | stored id record found same => exact .stored id record found same
      | announced objectId announcer entry => exact .announced objectId announcer entry
      | held member inside saw =>
          rcases Coordinator.mem_threads_spawn inside with earlier | rfl
          · exact .held member earlier saw
          · rcases saw with ⟨_, _, found⟩
            cases found
    exact fun first second firstMentioned secondMentioned =>
      versioned.agree first second (before first firstMentioned) (before second secondMentioned)

/-! ## Announcements -/

/-- The part of the table that `Versioned` reads is the inventory. -/
theorem Versioned.of_inventory (versioned : Versioned config plane)
    (same : table.inventory = plane.table.inventory) :
    Versioned config { plane with table := table } where
  disciplined := versioned.disciplined
  submits := versioned.submits
  filed := same ▸ versioned.filed
  overtaken := same ▸ versioned.overtaken
  agree := by
    have before : forall object, Mentions { plane with table := table } object ->
        plane.Mentions object := by
      intro object mentions
      cases mentions with
      | stored id record found equal => exact .stored id record found equal
      | announced objectId announcer entry => exact .announced objectId announcer (same ▸ entry)
      | held member inside saw => exact .held member inside saw
    exact fun first second firstMentioned secondMentioned =>
      versioned.agree first second (before first firstMentioned) (before second secondMentioned)

/-- An announcement that is not refused agrees with everything that is mentioned, if it
does with what is stored and with what it replaces. -/
theorem Versioned.agrees_announced (versioned : Versioned config plane)
    {object : StateObjectDescriptor}
    (stored : forall id record, plane.coordinator.store.get id = .ok record ->
      descriptor.agrees record.object = true)
    (replaced : forall known owner, plane.table.inventory descriptor.objectId = some (known, owner) ->
      descriptor.agrees known = true)
    (notOlder : forall known owner, plane.table.inventory descriptor.objectId = some (known, owner) ->
      known.generation.value ≤ descriptor.generation.value) (mentions : plane.Mentions object) :
    descriptor.agrees object = true := by
  cases mentions with
  | stored id record found same => exact same ▸ stored id record found
  | announced objectId announcer entry =>
      rw [StateObjectDescriptor.agrees_iff]
      intro sameId sameGeneration
      have here := versioned.filed objectId object announcer entry
      exact StateObjectDescriptor.agrees_iff.mp
        (replaced object announcer ((sameId.trans here) ▸ entry)) sameId sameGeneration
  | held thread member saw =>
      rw [StateObjectDescriptor.agrees_iff]
      intro sameId sameGeneration
      rcases versioned.overtaken thread member object saw with ⟨known, owner, entry, newer⟩
      have knownAgrees := versioned.agree known object (.announced object.objectId owner entry)
        (.held thread member saw)
      have filed := versioned.filed object.objectId known owner entry
      rw [← sameId] at entry
      -- The announced generation has not moved past the one that is announced again.
      have sameVersion : known.generation = descriptor.generation := by
        have below := notOlder known owner entry
        rw [← sameGeneration] at newer
        exact Generation.value_eq.mp (UInt64.le_antisymm below newer)
      calc
        descriptor.contentDigest = known.contentDigest :=
          StateObjectDescriptor.agrees_iff.mp (replaced known owner entry)
            (sameId.trans filed.symm) sameVersion.symm
        _ = object.contentDigest :=
          StateObjectDescriptor.agrees_iff.mp knownAgrees filed (sameVersion.trans sameGeneration)

theorem Versioned.announce (versioned : Versioned config plane) {announcer : EndpointId}
    (updated : table.inventory =
      Function.update plane.table.inventory descriptor.objectId (some (descriptor, announcer)))
    (agrees : forall object, plane.Mentions object -> descriptor.agrees object = true)
    (notOlder : forall known owner, plane.table.inventory descriptor.objectId = some (known, owner) ->
      known.generation.value ≤ descriptor.generation.value) :
    Versioned config { plane with table := table } where
  disciplined := versioned.disciplined
  submits := versioned.submits
  filed := by
    intro objectId object owner entry
    change table.inventory objectId = _ at entry
    rw [updated] at entry
    by_cases here : objectId = descriptor.objectId
    · subst here
      rw [Function.update_self] at entry
      cases entry
      rfl
    · rw [Function.update_of_ne here] at entry
      exact versioned.filed objectId object owner entry
  overtaken := by
    intro thread member object saw
    rcases versioned.overtaken thread member object saw with ⟨known, owner, entry, newer⟩
    change exists known owner, table.inventory object.objectId = _ ∧ _
    rw [updated]
    by_cases here : object.objectId = descriptor.objectId
    · rw [here] at entry ⊢
      rw [Function.update_self]
      exact ⟨descriptor, announcer, rfl, UInt64.le_trans newer (notOlder known owner entry)⟩
    · rw [Function.update_of_ne here]
      exact ⟨known, owner, entry, newer⟩
  agree := by
    have before : forall object, Mentions { plane with table := table } object ->
        object = descriptor ∨ plane.Mentions object := by
      intro object mentions
      cases mentions with
      | stored id record found same => exact Or.inr (.stored id record found same)
      | held member inside saw => exact Or.inr (.held member inside saw)
      | announced objectId owner entry =>
          change table.inventory objectId = _ at entry
          rw [updated] at entry
          by_cases here : objectId = descriptor.objectId
          · subst here
            rw [Function.update_self] at entry
            cases entry
            exact Or.inl rfl
          · rw [Function.update_of_ne here] at entry
            exact Or.inr (.announced objectId owner entry)
    intro first second firstMentioned secondMentioned
    rcases before first firstMentioned with rfl | firstBefore
    · rcases before second secondMentioned with rfl | secondBefore
      · exact StateObjectDescriptor.agrees_iff.mpr fun _ _ => rfl
      · exact agrees second secondBefore
    · rcases before second secondMentioned with rfl | secondBefore
      · have known := StateObjectDescriptor.agrees_iff.mp (agrees first firstBefore)
        exact StateObjectDescriptor.agrees_iff.mpr fun sameId sameGeneration =>
          (known sameId.symm sameGeneration.symm).symm
      · exact versioned.agree first second firstBefore secondBefore

/-- A stored record is one of the live movements. -/
theorem mem_liveMovements {id : MovementId} (found : store.get id = .ok record) :
    record ∈ store.val.contents.liveMovements := by
  have stored := MovementStore.get_eq_ok.mp found
  refine List.mem_filterMap.mpr ⟨id, ?_, stored⟩
  rw [store.property.listed]
  exact Finmap.mem_of_lookup_eq_some stored

theorem Versioned.session (versioned : Versioned config plane) {action : ControlAction}
    (known : plane.announcesKnown (.session action) = true) :
    Versioned config { plane with table := plane.tableAfter config (.session action) } := by
  change Versioned config { plane with
    table := if plane.coordinator.recovering then plane.table
      else plane.table.step (plane.control config) action }
  split
  · exact versioned
  · have changed := SessionTable.inventory_step (plane.control config) plane.table action
    cases announced : plane.table.announces action with
    | none =>
        rw [announced] at changed
        exact versioned.of_inventory changed
    | some pair =>
        rcases pair with ⟨descriptor, announcer⟩
        rw [announced] at changed
        rw [announcesKnown, announced, Option.all_some, Bool.and_eq_true] at known
        rcases known with ⟨stored, replaced⟩
        rcases plane.table.inventory.announce_eq descriptor announcer with refused | ⟨updated, notOlder⟩
        · exact versioned.of_inventory (changed.trans refused)
        · refine versioned.announce (changed.trans updated) (fun object mentions => ?_) notOlder
          refine versioned.agrees_announced (fun id record found => ?_)
            (fun entry owner listed => ?_) notOlder mentions
          · exact List.all_eq_true.mp stored record (mem_liveMovements found)
          · rw [listed] at replaced
            exact replaced

theorem Versioned.step (versioned : Versioned config plane) {action : PlaneAction}
    (submits : plane.submitsOnly action = true) (known : plane.announcesKnown action = true) :
    Versioned config (plane.step config action) := by
  cases action with
  | session action => exact versioned.session known
  | submit request =>
      change Versioned config { plane with
        coordinator := plane.coordinator.begin config (.submit request) plane.coordinator.queue }
      unfold Coordinator.begin
      cases recovered : plane.coordinator.recovering with
      | true => exact versioned
      | false => exact versioned.spawn request recovered
  | run index environment =>
      change Versioned config { plane with
        coordinator := plane.coordinator.resume index (plane.around index environment) }
      unfold Coordinator.resume
      cases performed : plane.coordinator.performing index with
      | none => exact versioned
      | some pair =>
          rcases Coordinator.performing_eq_some performed with ⟨located, pends⟩
          rw [around_performing located pends]
          exact versioned.perform located pends
  | _ => cases submits

/-- The announcement of an object by the first session. -/
def announceAction (object : StateObjectDescriptor) : PlaneAction :=
  .session (.receives 0 1 ⟨.ANNOUNCE_OBJECT, AnnounceObject.encode ⟨object⟩⟩)

/-- A submission of the announced object, with all its operations, as the thread at `index`. -/
def submission (index : Nat) (id : MovementId) : List PlaneAction :=
  .submit ⟨oneByteObjectId, ⟨1⟩, endpointA, endpointB⟩ ::
    List.replicate 13 (.run index { movementId := id, compatibility := ⟨1⟩ })

end ControlPlane

end StateMovementFabric
