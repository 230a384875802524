import StateMovementFabric.Core.Explanations
import StateMovementFabric.Foundation.Executions
import StateMovementFabric.Store.Retention
import StateMovementFabric.Coordinator.Process

namespace StateMovementFabric

open Foundation Wire

/-!
# Refused submissions

`submit` stores the planned record before it authorizes the movement, and the authorization
can still be refused.  A whole call is followed here with the store and the queue that it
leaves, when no write fails and everything outside, the clock apart, answers as it likes.
-/

/-! ## The store and the queue along a call -/

/-- The store, the queue and the number of times that the clock has been read. -/
structure Ledger where
  store : OpenStore
  queue : List MovementId
  readings : Nat

variable {now : Millis} {record : MovementRecord}

namespace Ledger

def after (ledger : Ledger) : CoordinatorEvent -> Ledger
  | ⟨.storePut record, _⟩ => { ledger with store := (ledger.store.put record noFailure).1 }
  | ⟨.enqueue id, _⟩ => { ledger with queue := ledger.queue ++ [id] }
  | ⟨.unixMillis, _⟩ => { ledger with readings := ledger.readings + 1 }
  | _ => ledger

/-- The store answers as a store whose writes all succeed. -/
def stores (ledger : Ledger) (record : MovementRecord) (reply : Result Unit) : Bool :=
  decide (reply = (ledger.store.put record noFailure).2)

def reads (clock : Nat -> Millis) (ledger : Ledger) (now : Millis) : Bool :=
  decide (now = clock ledger.readings)

theorem reply_of_stores {ledger : Ledger} {reply : Result Unit}
    (stored : ledger.stores record reply = true) : reply = (ledger.store.put record noFailure).2 :=
  of_decide_eq_true stored

theorem now_of_reads {clock : Nat -> Millis} {ledger : Ledger}
    (read : ledger.reads clock now = true) : now = clock ledger.readings :=
  of_decide_eq_true read

/-- The store and the clock answer as they are; nothing else is known. -/
def expects (clock : Nat -> Millis) (ledger : Ledger) : CoordinatorEvent -> Bool
  | ⟨.storePut record, reply⟩ => ledger.stores record reply
  | ⟨.unixMillis, now⟩ => ledger.reads clock now
  | _ => true

end Ledger

/-- The observer of a call that keeps the ledger. -/
def bookkeeper (clock : Nat -> Millis) : Observer coordinatorSignature where
  State := Ledger
  after := Ledger.after
  expects := Ledger.expects clock

/-- Whatever the inventory, the topology, the provider and the request are, a submission that
is refused although no write failed leaves the index of the store and the queue as they were. -/
def LeavesNoTrace (config : CoordinatorConfig) (clock : Nat -> Millis) : Prop :=
  forall (request : SubmitMovement) (store : OpenStore) (queue : List MovementId)
    (history : Program.History coordinatorSignature) (status : Status),
    store.val.options = config.storeOptions ->
    Program.Executes (submit config request) history (.error status) ->
    (bookkeeper clock).meets (⟨store, queue, 0⟩ : Ledger) history = true ->
    ((bookkeeper clock).remembered (⟨store, queue, 0⟩ : Ledger) history : Ledger).store.val.contents =
        store.val.contents ∧
      ((bookkeeper clock).remembered (⟨store, queue, 0⟩ : Ledger) history : Ledger).queue = queue

/-! ## The authorization -/

/-- The text of the authorization. -/
def authorizationText (record : MovementRecord) : Text :=
  ascii "authorized under topology generation " ++
    decimal record.topologyGeneration.value.toNat ++ ascii " and policy generation " ++
    decimal record.policyGeneration.value.toNat

theorem length_authorizationText_le (record : MovementRecord) :
    (authorizationText record).length ≤ kMaxDetailBytes := by
  have topology := length_decimal_le record.topologyGeneration.value
  have policy := length_decimal_le record.policyGeneration.value
  have front : (ascii "authorized under topology generation ").length = 37 := by decide
  have middle : (ascii " and policy generation ").length = 23 := by decide
  unfold authorizationText
  rw [List.length_append, List.length_append, List.length_append, front, middle, kMaxDetailBytes]
  omega

theorem isValidUtf8_authorizationText (record : MovementRecord) :
    isValidUtf8 (authorizationText record) = true := by
  refine isValidUtf8_of_ascii ?_
  refine plain_append (plain_append (plain_append ?_ (plain_decimal _)) ?_) (plain_decimal _)
  · decide +kernel
  · decide +kernel

theorem takes_authorizationText :
    record.provenance.takes now (authorizationText record) = true ↔
      record.provenance.events.length < record.provenance.bound ∧ 0 < now := by
  rw [ProvenanceChain.takes_iff]
  constructor
  · rintro ⟨room, positive, _⟩
    exact ⟨room, positive⟩
  · rintro ⟨room, positive⟩
    exact ⟨room, positive, length_authorizationText_le record,
      .inr (isValidUtf8_authorizationText record)⟩

/-- The record as it is stored first: planned, in its first generation, with one event. -/
structure Planned (config : CoordinatorConfig) (record : MovementRecord) : Prop where
  valid : record.validate = .ok ()
  state : record.state = .PLANNED
  generation : record.generation = ⟨1⟩
  events : record.provenance.events.length = 1
  bound : record.provenance.bound =
    (ProvenanceChain.empty.setBound config.policy.maxProvenanceEvents.toNat).bound

theorem planned_of_created {config : CoordinatorConfig} {id : MovementId}
    {object : StateObjectDescriptor} {source destination : EndpointRegistration}
    {request : SubmitMovement} {compatibility : CompatibilityGeneration}
    {topology : TopologyGeneration} {note : Text}
    (made : created (plannedRecord config id object source destination request compatibility
      topology now) note = .ok record) : Planned config record ∧ 0 < now := by
  rcases created_eq_ok made with ⟨valid, chain, appended, rfl⟩
  rcases (ProvenanceChain.append_eq_ok (ProvenanceChain.nextSequence_toNat _)).mp appended with
    ⟨_, sound, events, bound⟩
  refine ⟨⟨valid, rfl, rfl, ?_, bound⟩, (ProvenanceEvent.validate_eq_ok_iff.mp sound).2.1⟩
  rw [events]
  rfl

/-- With a bound of two events the authorization has its place. -/
theorem Planned.room_iff {config : CoordinatorConfig} (planned : Planned config record) :
    record.provenance.events.length < record.provenance.bound ↔
      2 ≤ config.policy.maxProvenanceEvents.toNat := by
  have bound : record.provenance.bound = if config.policy.maxProvenanceEvents.toNat == 0 then 1
      else min config.policy.maxProvenanceEvents.toNat 256 := planned.bound
  rw [planned.events, bound]
  split
  · rename_i zero
    rw [beq_iff_eq.mp zero]
    decide
  · omega

theorem Planned.next {config : CoordinatorConfig} (planned : Planned config record) :
    record.generation.next = .ok ⟨2⟩ := by
  rw [planned.generation]
  decide

theorem Planned.legal {config : CoordinatorConfig} (planned : Planned config record) :
    checkTransition record.state .AUTHORIZED = .ok () := by
  rw [planned.state]
  decide

/-! ## A call that is not refused late -/

section Leads

variable {config : CoordinatorConfig} {clock : Nat -> Millis} {ledger : Ledger}

/-- An authorization that has its place in the history is accepted. -/
theorem leads_authorize (planned : Planned config record)
    (large : ledger.store.val.options.maxRecordBytes = 4194304)
    (taken : record.provenance.takes (clock ledger.readings) (authorizationText record) = true)
    (note : Text) :
    Program.Leads (bookkeeper clock) (fun _ answer => succeeded answer = true) ledger
      (authorize record note) := by
  unfold authorize
  refine Program.leads_call_bind.mpr ?_
  intro (reply : Result Unit) stored
  have first : reply = .ok () :=
    (Ledger.reply_of_stores stored).trans (MovementStore.put_noFailure large planned.valid)
  rw [first]
  refine Program.leads_call_bind.mpr ?_
  intro (now : Millis) read
  have time : now = clock ledger.readings := Ledger.now_of_reads read
  rw [time]
  rcases @applyTransition_of_takes record .AUTHORIZED ⟨2⟩ (.allow .OK (authorizationText record))
      .AUTHORIZED (clock ledger.readings) planned.legal planned.next taken with
    ⟨longer, _, _, applied⟩
  have valid : (applyTransition record .AUTHORIZED (.allow .OK (authorizationText record))
      .AUTHORIZED (clock ledger.readings)).1.validate = .ok () :=
    MovementRecord.validate_applyTransition planned.valid (by decide)
      (length_authorizationText_le record) (by rw [applied]; rfl)
  rw [applied] at valid
  unfold authorizationText at applied
  rw [applied]
  dsimp only
  refine Program.leads_call_bind.mpr ?_
  intro (reply : Result Unit) stored
  have second : reply = .ok () :=
    (Ledger.reply_of_stores stored).trans (MovementStore.put_noFailure
      ((MovementStore.put_options _ _ _).symm ▸ large) valid)
  rw [second]
  exact fun _ _ _ _ => rfl

/-- The compatibility decision changes neither the store nor the queue. -/
theorem leads_compatibilityNote (object : StateObjectDescriptor) (destination : EndpointId) :
    Program.Leads (bookkeeper clock) (fun later _ => later = ledger) ledger
      (compatibilityNote config object destination) := by
  unfold compatibilityNote
  refine Program.leads_call_bind.mpr ?_
  rintro (none | status | evidence) _
  · exact rfl
  · dsimp only
    split
    · exact rfl
    · exact rfl
  · dsimp only
    split
    · split
      · exact rfl
      · exact rfl
    · refine Program.leads_call_bind.mpr fun _ _ => ?_
      split
      · exact rfl
      · split
        · exact rfl
        · exact rfl

/-- The call was accepted, or it left the store and the queue alone. -/
def Traceless (ledger later : Ledger) (answer : Result MovementAccepted) : Prop :=
  succeeded answer = true ∨ later.store = ledger.store ∧ later.queue = ledger.queue

theorem leads_plan (request : SubmitMovement) (object : StateObjectDescriptor)
    (large : ledger.store.val.options.maxRecordBytes = 4194304)
    (roomy : 0 < clock ledger.readings -> 2 ≤ config.policy.maxProvenanceEvents.toNat ∧
      0 < clock (ledger.readings + 1)) :
    Program.Leads (bookkeeper clock) (Traceless ledger) ledger (plan config request object) := by
  have untouched : forall status, Traceless ledger ledger (.error status) :=
    fun _ => .inr ⟨rfl, rfl⟩
  unfold plan
  refine Program.leads_call_bind.mpr ?_
  rintro (status | source) _
  · exact untouched status
  refine Program.leads_call_bind.mpr ?_
  rintro (status | destination) _
  · exact untouched status
  dsimp only
  split
  · exact untouched _
  refine (leads_compatibilityNote object request.destination).bind ?_
  rintro later decided rfl
  rcases decided with status | note
  · exact untouched status
  refine Program.leads_call_bind.mpr fun id _ => ?_
  refine Program.leads_call_bind.mpr fun compatibility _ => ?_
  refine Program.leads_call_bind.mpr fun topology _ => ?_
  refine Program.leads_call_bind.mpr ?_
  intro (now : Millis) read
  have time : now = clock later.readings := Ledger.now_of_reads read
  split
  · exact .inr ⟨rfl, rfl⟩
  · rename_i record made
    rcases planned_of_created made with ⟨planned, positive⟩
    rcases roomy (time ▸ positive) with ⟨two, second⟩
    have leads := @leads_authorize record config clock { later with readings := later.readings + 1 }
      planned large (takes_authorizationText.mpr ⟨planned.room_iff.mpr two, second⟩) note
    exact leads.mono fun _ _ accepted => Or.inl accepted

theorem leads_submit (request : SubmitMovement)
    (large : ledger.store.val.options.maxRecordBytes = 4194304)
    (roomy : 0 < clock ledger.readings -> 2 ≤ config.policy.maxProvenanceEvents.toNat ∧
      0 < clock (ledger.readings + 1)) :
    Program.Leads (bookkeeper clock) (Traceless ledger) ledger (submit config request) := by
  unfold submit
  cases request.validate with
  | error status => exact .inr ⟨rfl, rfl⟩
  | ok _ =>
      refine Program.leads_call_bind.mpr fun announced _ => ?_
      cases checkInventory request announced with
      | error status => exact .inr ⟨rfl, rfl⟩
      | ok object =>
          dsimp only
          cases checkBounds config.policy object with
          | error status => exact .inr ⟨rfl, rfl⟩
          | ok _ => exact leads_plan request object large roomy

end Leads

/-! ## A call that is refused late -/

/-- An object without bytes, in chunks of a given size. -/
def emptyObject (chunkBytes : UInt64) : StateObjectDescriptor :=
  { oneByteObject with totalBytes := 0, chunkBytes := chunkBytes, chunkCount := 0 }

theorem validate_emptyObject {chunkBytes : UInt64} (least : kMinChunkBytes ≤ chunkBytes.toNat)
    (most : chunkBytes.toNat ≤ kMaxChunkBytes) : (emptyObject chunkBytes).validate = .ok () := by
  have identity : (emptyObject chunkBytes).validateIdentity = .ok () := by
    have known : oneByteObject.validateIdentity = .ok () := by decide +kernel
    unfold StateObjectDescriptor.validateIdentity at known ⊢
    exact known
  have sizes : (emptyObject chunkBytes).validateSizes = .ok () := by
    have positive : chunkBytes ≠ 0 := by
      rintro rfl
      exact absurd least (by decide)
    simp only [StateObjectDescriptor.validateSizes, check_bind_eq_ok, refuseWhen_eq_ok,
      Bool.or_eq_false_iff, decide_eq_false_iff_not, Nat.not_lt, gt_iff_lt, beq_eq_false_iff_ne,
      ne_eq, bne_eq_false_iff_eq]
    exact ⟨Nat.zero_le _, ⟨least, most⟩, positive, Nat.zero_le _, rfl⟩
  unfold StateObjectDescriptor.validate
  rw [identity, sizes]
  rfl

/-- A live endpoint. -/
def liveRegistration (endpoint : EndpointId) : EndpointRegistration :=
  { endpoint := endpoint, incarnation := ⟨endpoint, .filled 1, ⟨1⟩⟩, live := true }

/-- The request for a movement of the object from `a` to `b`. -/
def moveRequest : SubmitMovement := ⟨oneByteObjectId, ⟨1⟩, endpointA, endpointB⟩

/-- The new record of that movement. -/
def newRecord (config : CoordinatorConfig) (now : Millis) : MovementRecord :=
  plannedRecord config (.filled 1) (emptyObject config.policy.minChunkBytes)
    (liveRegistration endpointA) (liveRegistration endpointB) moveRequest ⟨0⟩ ⟨1⟩ now

/-- The note of a coordinator without a provider. -/
def noProviderNote : Text :=
  ascii "no compatibility provider is configured, so the verdict is explicitly unknown"

theorem plain_noProviderNote :
    noProviderNote.length ≤ kMaxDetailBytes ∧ isValidUtf8 noProviderNote = true := by
  decide +kernel

/-- The store of a coordinator in a new directory. -/
def emptyStore (config : CoordinatorConfig) : OpenStore :=
  ⟨⟨config.storeOptions, fileHeader, kFileHeaderBytes, 1, .empty⟩, StoreContents.consistent_empty⟩

section May

variable {config : CoordinatorConfig} {clock : Nat -> Millis}

theorem exists_created (valid : config.policy.validate = .ok ()) (positive : 0 < now) :
    exists record, created (newRecord config now) noProviderNote = .ok record ∧
      record.id = .filled 1 := by
  have bounded := MovementPolicy.bounded_of_validate valid
  have room : 0 < (newRecord config now).provenance.bound := by
    change 0 < if config.policy.maxProvenanceEvents.toNat == 0 then 1
      else min config.policy.maxProvenanceEvents.toNat 256
    split
    · decide
    · have events := bounded.provenance
      omega
  have taken : (newRecord config now).provenance.takes now noProviderNote = true :=
    ProvenanceChain.takes_iff.mpr ⟨room, positive, plain_noProviderNote.1, .inr plain_noProviderNote.2⟩
  rcases (newRecord config now).provenance.append_of_takes
      ((newRecord config now).provenance.nextEvent .CREATED .PLANNED ⟨1⟩ .OK now noProviderNote)
      rfl rfl taken with ⟨longer, _, _, appended⟩
  have same : (newRecord config now).object = emptyObject config.policy.minChunkBytes := rfl
  have whole : (emptyObject config.policy.minChunkBytes).validate = .ok () :=
    validate_emptyObject bounded.leastChunk (Nat.le_trans bounded.chunks bounded.mostChunk)
  have checked : ({ newRecord config now with provenance := longer } :
      MovementRecord).validate = .ok () := by
    rw [MovementRecord.validate_eq_ok]
    exact {
      id := rfl
      generation := rfl
      object := (congrArg StateObjectDescriptor.validate same).trans whole
      source := rfl
      destination := rfl
      distinct := fun same => absurd (show endpointA = endpointB from same) (by decide)
      sourceSet := rfl
      destinationSet := rfl
      sourceEndpoint := rfl
      destinationEndpoint := rfl
      topology := rfl
      policy := rfl
      attempts := Nat.zero_le _
      chunks := Nat.le_refl _
      marker := fun committed => (by cases committed)
      detail := Nat.zero_le _ }
  exact ⟨_, bind_eq_ok.mpr ⟨longer, appended, bind_eq_ok.mpr ⟨(), checked, rfl⟩⟩, rfl⟩

/-- A planned record that cannot be authorized stays in the store. -/
theorem may_authorize (planned : Planned config record) {ledger : Ledger}
    (large : ledger.store.val.options.maxRecordBytes = 4194304)
    (refused : record.provenance.takes (clock ledger.readings) (authorizationText record) = false)
    (note : Text) :
    Program.May (bookkeeper clock) (fun later answer => (exists status, answer = .error status) ∧
      later.store.val.contents.records.lookup record.id = some record) ledger
      (authorize record note) := by
  have stored : (ledger.store.put record noFailure).2 = .ok () :=
    MovementStore.put_noFailure large planned.valid
  rcases error_of_not_takes record .AUTHORIZED (.allow .OK (authorizationText record)) .AUTHORIZED
      (clock ledger.readings) refused with ⟨changed, status, applied⟩
  unfold authorize
  refine Program.may_call_bind.mpr ⟨.ok (), decide_eq_true stored.symm, ?_⟩
  refine Program.may_call_bind.mpr ⟨clock ledger.readings, decide_eq_true rfl, ?_⟩
  unfold authorizationText at applied
  rw [applied]
  refine Program.may_call_bind.mpr ⟨(), rfl, ⟨status, rfl⟩, ?_⟩
  refine lookup_put_of_not_terminal (by rw [planned.state]; rfl) ?_
  rw [if_pos (MovementStore.persists_of_put stored)]
  exact Finmap.lookup_insert _

/-- With a positive first reading and no place for a second event, a submission is refused
after its record was stored. -/
theorem may_submit (valid : config.policy.validate = .ok ()) (positive : 0 < clock 0)
    (late : ¬(2 ≤ config.policy.maxProvenanceEvents.toNat ∧ 0 < clock 1)) :
    Program.May (bookkeeper clock) (fun later answer => (exists status, answer = .error status) ∧
      later.store.val.contents ≠ (emptyStore config).val.contents)
      (⟨emptyStore config, [], 0⟩ : Ledger) (submit config moveRequest) := by
  have bounded := MovementPolicy.bounded_of_validate valid
  rcases exists_created valid positive with ⟨record, made, id⟩
  rcases planned_of_created made with ⟨planned, _⟩
  have requested : moveRequest.validate = .ok () := by decide
  have found : checkInventory moveRequest (some (emptyObject config.policy.minChunkBytes,
      some endpointA)) = .ok (emptyObject config.policy.minChunkBytes) := rfl
  have bounds : checkBounds config.policy (emptyObject config.policy.minChunkBytes) = .ok () := by
    have chunks : ¬config.policy.maxChunkBytes < config.policy.minChunkBytes :=
      UInt64.not_lt.mpr (UInt64.le_iff_toNat_le.mpr bounded.chunks)
    have total : ¬(0 : UInt64) > config.policy.maxObjectBytes := UInt64.not_lt.mpr (UInt64.zero_le)
    simp only [checkBounds, check_bind_eq_ok, refuseWhen_eq_ok, Bool.or_eq_false_iff,
      decide_eq_false_iff_not]
    exact ⟨total, UInt64.lt_irrefl _, chunks⟩
  have refused : record.provenance.takes (clock 1) (authorizationText record) = false := by
    rw [Bool.eq_false_iff, ne_eq, takes_authorizationText, planned.room_iff]
    exact late
  have ends := @may_authorize record config clock planned ⟨emptyStore config, [], 1⟩ rfl refused
    noProviderNote
  unfold submit
  rw [requested]
  refine Program.may_call_bind.mpr
    ⟨some (emptyObject config.policy.minChunkBytes, some endpointA), rfl, ?_⟩
  rw [found]
  dsimp only
  rw [bounds]
  dsimp only
  unfold plan
  refine Program.may_call_bind.mpr ⟨.ok (liveRegistration endpointA), rfl, ?_⟩
  refine Program.may_call_bind.mpr ⟨.ok (liveRegistration endpointB), rfl, ?_⟩
  dsimp only
  rw [if_neg (by decide)]
  refine Program.may_call_bind.mpr ⟨none, rfl, ?_⟩
  refine Program.may_call_bind.mpr ⟨.filled 1, rfl, ?_⟩
  refine Program.may_call_bind.mpr ⟨(⟨0⟩ : CompatibilityGeneration), rfl, ?_⟩
  refine Program.may_call_bind.mpr ⟨(⟨1⟩ : TopologyGeneration), rfl, ?_⟩
  refine Program.may_call_bind.mpr ⟨clock 0, decide_eq_true rfl, ?_⟩
  unfold newRecord noProviderNote at made
  rw [made]
  refine ends.mono ?_
  rintro later answer ⟨ended, present⟩
  refine ⟨ended, fun same => ?_⟩
  rw [same] at present
  cases present

end May

/-! ## When refusals leave no trace -/

/-- Under a policy that passes its check, refusals leave no trace exactly when the second
event of a movement has its place: the history is bounded by two events at least, and the
clock that gave a time to the first event gives one to the second. -/
theorem leavesNoTrace_iff (config : CoordinatorConfig) (valid : config.policy.validate = .ok ())
    (clock : Nat -> Millis) :
    LeavesNoTrace config clock ↔
      (0 < clock 0 -> 2 ≤ config.policy.maxProvenanceEvents.toNat ∧ 0 < clock 1) := by
  constructor
  · intro traceless positive
    by_contra late
    rcases (may_submit valid positive late).exists_execution with
      ⟨history, answer, executes, meets, ⟨status, refused⟩, changed⟩
    rw [refused] at executes
    exact changed (traceless moveRequest (emptyStore config) [] history status rfl executes meets).1
  · intro roomy request store queue history status options executes meets
    have large : store.val.options.maxRecordBytes = 4194304 := by
      rw [options]
      rfl
    have leads := @leads_submit config clock ⟨store, queue, 0⟩ request large roomy
    rcases leads.done_of_executes executes meets with accepted | ⟨sameStore, sameQueue⟩
    · cases accepted
    · exact ⟨congrArg (fun store : OpenStore => store.val.contents) sameStore, sameQueue⟩

/-- The policy of a coordinator that keeps one provenance event of a movement. -/
def oneEvent : CoordinatorConfig := { defaultConfig with policy := { maxProvenanceEvents := 1 } }

theorem leavesNoTrace_default :
    LeavesNoTrace defaultConfig fun _ => 1 :=
  (leavesNoTrace_iff defaultConfig (by decide) fun _ => 1).mpr fun _ => ⟨by decide, by decide⟩

/-- That policy is valid, and a submission is refused after its record was stored. -/
theorem not_leavesNoTrace_oneEvent :
    oneEvent.policy.validate = .ok () ∧ ¬ LeavesNoTrace oneEvent fun _ => 1 := by
  have valid : oneEvent.policy.validate = .ok () := by decide
  refine ⟨valid, fun traceless => ?_⟩
  have late : ¬(2 ≤ oneEvent.policy.maxProvenanceEvents.toNat ∧ (0 : Millis) < 1) := by decide
  have may := @may_submit oneEvent (fun _ => 1) valid (by decide) late
  rcases may.exists_execution with
    ⟨history, answer, executes, meets, ⟨status, refused⟩, changed⟩
  rw [refused] at executes
  exact changed (traceless moveRequest (emptyStore oneEvent) [] history status rfl executes meets).1

end StateMovementFabric
