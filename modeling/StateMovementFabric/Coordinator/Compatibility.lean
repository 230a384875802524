import StateMovementFabric.Coordinator.CallGuards
import StateMovementFabric.Foundation.Runs

namespace StateMovementFabric

open Foundation Wire

/-!
# Compatibility evidence

Evidence about one object version at one destination is published to a registry and can be
withdrawn from it.  A coordinator may be started with such a registry as its provider; a
submission then asks it for evidence before a movement is planned, while publications and
withdrawals go on.
-/

def kMaxEvidenceAttributes : Nat := 64

/-- `CompatibilityEvidence`, with the fields that only a registry looks at. -/
structure PublishedEvidence extends CompatibilityEvidence where
  contract : Text
  attributes : List (Text × Text)
  observedUnixMillis : Millis
  evidenceDigest : Digest
  deriving DecidableEq

def CompatibilityVerdict.toUInt8 : CompatibilityVerdict -> UInt8
  | UNKNOWN => 0
  | SUPPORTED => 1
  | UNSUPPORTED => 2

namespace PublishedEvidence

/-- The attribute checks of `validate`. -/
def checkAttributes : List (Text × Text) -> Result Unit
  | [] => .ok ()
  | (key, value) :: rest => do
      refuseWhen (key.isEmpty || key.length > kMaxTextBytes || !isValidUtf8 key) .INVALID_ARGUMENT
        "compatibility attribute key is not usable"
      refuseWhen (value.length > kMaxTextBytes || !isValidUtf8 value) .INVALID_ARGUMENT
        "compatibility attribute value is not usable"
      checkAttributes rest

def validate (evidence : PublishedEvidence) : Result Unit := do
  refuseWhen (!evidence.generation.isSet) .INVALID_GENERATION
    "compatibility generation must be non-zero"
  refuseWhen evidence.objectId.isZero .INVALID_ID "compatibility evidence must name a state object"
  refuseWhen (!evidence.stateGeneration.isSet) .INVALID_GENERATION
    "compatibility evidence must name a generation"
  refuseWhen evidence.contentDigest.isZero .INVALID_DIGEST
    "compatibility evidence must bind a content digest"
  refuseWhen evidence.destination.isEmpty .INVALID_ID
    "compatibility evidence must name a destination"
  refuseWhen evidence.contract.isEmpty .INVALID_ARGUMENT
    "compatibility evidence must name a contract"
  refuseWhen (evidence.contract.length > kMaxTextBytes || !isValidUtf8 evidence.contract)
    .INVALID_ARGUMENT "compatibility contract string is not usable"
  refuseWhen (evidence.attributes.length > kMaxEvidenceAttributes) .INVALID_ARGUMENT
    "compatibility evidence carries too many attributes"
  checkAttributes evidence.attributes
  refuseWhen (evidence.observedUnixMillis ≤ 0) .INVALID_ARGUMENT
    "compatibility evidence needs an observation time"

open CanonicalEncoder in
/-- The digest that `publish` puts into the evidence. -/
def computeDigest (evidence : PublishedEvidence) : Digest :=
  canonicalDigest ([domain "SMF-COMPATIBILITY-EVIDENCE-v1", evidence.objectId.bytes,
    u64 evidence.stateGeneration.value, digest evidence.contentDigest,
    text evidence.destination.value, u8 evidence.verdict.toUInt8, text evidence.contract,
    u32 (UInt32.ofNat evidence.attributes.length)] ++
      evidence.attributes.map fun entry => text entry.1 ++ text entry.2).flatten

end PublishedEvidence

/-! ## The registry -/

/-- The subject of evidence.  The content digest is not part of it. -/
structure EvidenceKey where
  objectId : StateObjectId
  generation : StateGeneration
  destination : EndpointId
  deriving DecidableEq

structure CompatibilityRegistry where
  evidence : EvidenceKey -> Option PublishedEvidence := fun _ => none
  generation : CompatibilityGeneration := ⟨1⟩

namespace CompatibilityRegistry

/-- The next generation of the evidence, as long as there is one. -/
def advanced (registry : CompatibilityRegistry) : CompatibilityGeneration :=
  match registry.generation.next with
  | .ok next => next
  | .error _ => registry.generation

/-- The evidence as it is stored, stamped with the registry's generation. -/
def stamp (registry : CompatibilityRegistry) (evidence : PublishedEvidence) (now : Millis) :
    PublishedEvidence :=
  { evidence with
    evidenceDigest := evidence.computeDigest
    observedUnixMillis := if evidence.observedUnixMillis ≤ 0 then now else evidence.observedUnixMillis
    generation := registry.generation }

def publish (registry : CompatibilityRegistry) (evidence : PublishedEvidence) (now : Millis) :
    CompatibilityRegistry × Result Unit :=
  let stamped := registry.stamp evidence now
  match stamped.validate with
  | .error status => (registry, .error status)
  | .ok () =>
      (⟨Function.update registry.evidence
          ⟨stamped.objectId, stamped.stateGeneration, stamped.destination⟩ (some stamped),
        registry.advanced⟩, .ok ())

def withdraw (registry : CompatibilityRegistry) (objectId : StateObjectId)
    (generation : StateGeneration) (destination : EndpointId) :
    CompatibilityRegistry × Result Unit :=
  match registry.evidence ⟨objectId, generation, destination⟩ with
  | none =>
      (registry, refuse .NOT_FOUND "no compatibility evidence is recorded for that subject")
  | some _ =>
      (⟨Function.update registry.evidence ⟨objectId, generation, destination⟩ none,
        registry.advanced⟩, .ok ())

def query (registry : CompatibilityRegistry) (object : StateObjectDescriptor)
    (destination : EndpointId) : Result PublishedEvidence :=
  match registry.evidence ⟨object.objectId, object.generation, destination⟩ with
  | none => refuse .NO_EVIDENCE
      "no compatibility evidence has been published for this object version at this destination; the verdict is unknown, not positive"
  | some evidence => .ok evidence

end CompatibilityRegistry

/-! ## A coordinator and its provider -/

/-- A coordinator, with the provider that its configuration names. -/
structure Deployment where
  coordinator : Coordinator
  provider : Option CompatibilityRegistry

namespace Deployment

/-- What the provider answers a query. -/
def offered (deployment : Deployment) (object : StateObjectDescriptor) (destination : EndpointId) :
    Option (Result CompatibilityEvidence) :=
  deployment.provider.map fun registry =>
    (registry.query object destination).map PublishedEvidence.toCompatibilityEvidence

inductive Step where
  | process (action : Action)
  | publish (evidence : PublishedEvidence) (now : Millis)
  | withdraw (objectId : StateObjectId) (generation : StateGeneration) (destination : EndpointId)

/-- A query of the coordinator is answered by the provider as it is then. -/
def surround (deployment : Deployment) (index : Nat) (environment : Environment) : Environment :=
  match deployment.coordinator.performing index with
  | some (_, .queryCompatibility object destination) =>
      { environment with evidence := deployment.offered object destination }
  | _ => environment

def surrounded (deployment : Deployment) : Action -> Action
  | .run index environment => .run index (deployment.surround index environment)
  | action => action

def step (config : CoordinatorConfig) (deployment : Deployment) : Step -> Deployment
  | .process action =>
      { deployment with
        coordinator := deployment.coordinator.step config (deployment.surrounded action) }
  | .publish evidence now =>
      { deployment with provider :=
          deployment.provider.map fun registry => (registry.publish evidence now).1 }
  | .withdraw objectId generation destination =>
      { deployment with provider := deployment.provider.map fun registry =>
          (registry.withdraw objectId generation destination).1 }

def run (config : CoordinatorConfig) (deployment : Deployment) (steps : List Step) : Deployment :=
  runFrom (step config) deployment steps

/-- A coordinator that has just been started. -/
def started (store : OpenStore) (queue : List MovementId)
    (provider : Option CompatibilityRegistry) : Deployment :=
  ⟨Coordinator.started store queue, provider⟩

/-- The thread at `index` is about to ask for evidence. -/
def Checks (deployment : Deployment) (index : Nat) (object : StateObjectDescriptor)
    (destination : EndpointId) : Prop :=
  exists thread, deployment.coordinator.performing index =
    some (thread, .queryCompatibility object destination)

end Deployment

namespace Deployment

end Deployment

/-! ## What a submission has seen when it is accepted -/

/-- The submission asked for evidence, and there was no provider or there was support. -/
def Cleared (past : CoordinatorHistory) (object : StateObjectDescriptor) (destination : EndpointId)
    (note : Text) : Prop :=
  (⟨.queryCompatibility object destination, none⟩ ∈ past ∧
      note = ascii "no compatibility provider is configured, so the verdict is explicitly unknown") ∨
    exists evidence, ⟨.queryCompatibility object destination, some (.ok evidence)⟩ ∈ past ∧
      evidence.appliesTo object destination = true ∧ evidence.verdict = .SUPPORTED

variable {destination : EndpointId} {note : Text} {object : StateObjectDescriptor}
  {request : SubmitMovement} {index : Nat} {thread : CoordinatorThread}

theorem Cleared.later {past : CoordinatorHistory} (cleared : Cleared past object destination note)
    (event : CoordinatorEvent) : Cleared (past ++ [event]) object destination note := by
  rcases cleared with ⟨asked, same⟩ | ⟨evidence, asked, holds⟩
  · exact .inl ⟨List.mem_append_left _ asked, same⟩
  · exact .inr ⟨evidence, List.mem_append_left _ asked, holds⟩

section Submission

variable {past : CoordinatorHistory} {config : CoordinatorConfig}

/-- The submission asks the provider and goes on only with support. -/
theorem cleared_compatibilityNote (required : config.policy.requireCompatibilityEvidence = true)
    (object : StateObjectDescriptor) (destination : EndpointId) :
    Program.Guarded (fun _ _ => True)
      (fun later decided => forall note, decided = .ok note -> Cleared later object destination note)
      past (compatibilityNote config object destination) := by
  unfold compatibilityNote
  refine Program.guarded_call_bind.mpr ⟨trivial, fun reply _ => ?_⟩
  rcases reply with _ | status | evidence
  · intro note decided
    cases decided
    exact .inl ⟨List.mem_append_right _ List.mem_cons_self, rfl⟩
  · dsimp only
    rw [if_pos required]
    intro note decided
    cases decided
  · dsimp only
    split
    · intro note decided
      cases decided
    · rename_i applies
      refine Program.guarded_call_bind.mpr ⟨trivial, fun _ _ => ?_⟩
      split
      · intro note decided
        cases decided
      · split
        · intro note decided
          cases decided
        · rename_i supported known
          intro note decided
          refine .inr ⟨evidence, ?_, ?_, ?_⟩
          · exact List.mem_append_left _ (List.mem_append_right _ List.mem_cons_self)
          · cases applied : evidence.appliesTo object destination with
            | true => rfl
            | false =>
                rw [applied] at applies
                exact absurd rfl applies
          · cases verdict : evidence.verdict with
            | SUPPORTED => rfl
            | UNSUPPORTED => exact absurd verdict supported
            | UNKNOWN => exact absurd ⟨verdict, required⟩ known

/-- What is known of an accepted submission. -/
structure Admitted (past : CoordinatorHistory) (request : SubmitMovement)
    (accepted : MovementAccepted) (record : MovementRecord) : Prop where
  wrote : ⟨.storePut record, .ok ()⟩ ∈ past
  id : record.id = accepted.movementId
  generation : record.object.generation = request.objectGeneration
  destination : record.destination = request.destination
  cleared : Cleared past record.object record.destination accepted.detail

/-- An accepted submission has asked the provider about the object that it moves. -/
def admits (request : SubmitMovement) (past : CoordinatorHistory)
    (answer : Result MovementAccepted) : Prop :=
  forall accepted, answer = .ok accepted -> exists record, Admitted past request accepted record

theorem admits_error (status : Status) :
    admits request past (.error status) := by
  intro accepted answered
  cases answered

variable {record : MovementRecord}

theorem admitted_authorize (generation : record.object.generation = request.objectGeneration)
    (destination : record.destination = request.destination)
    (cleared : Cleared past record.object record.destination note) :
    Program.Guarded (fun _ _ => True) (admits request) past (authorize record note) := by
  unfold authorize
  refine Program.guarded_call_bind.mpr ⟨trivial, fun reply _ => ?_⟩
  rcases reply with status | ⟨⟩
  · exact admits_error status
  refine Program.guarded_call_bind.mpr ⟨trivial, fun now _ => ?_⟩
  split
  · exact ⟨trivial, fun _ _ => admits_error _⟩
  · rename_i authorized applied
    refine Program.guarded_call_bind.mpr ⟨trivial, fun reply _ => ?_⟩
    rcases reply with status | ⟨⟩
    · exact admits_error status
    · refine ⟨trivial, fun _ _ => ⟨trivial, fun _ _ => ?_⟩⟩
      intro accepted answered
      cases answered
      refine ⟨record, ?_, (moved_of_applyTransition applied).id.symm, generation,
        destination, ((((cleared.later _).later _).later _).later _).later _⟩
      simp only [List.mem_append, List.mem_singleton, true_or, or_true]

theorem destination_of_created {planned : MovementRecord}
    (made : created planned note = .ok record) :
    record.object = planned.object ∧ record.destination = planned.destination := by
  rcases created_eq_ok made with ⟨_, chain, _, rfl⟩
  exact ⟨rfl, rfl⟩

theorem admitted_plan (required : config.policy.requireCompatibilityEvidence = true)
    (generation : object.generation = request.objectGeneration) :
    Program.Guarded (fun _ _ => True) (admits request) past (plan config request object) := by
  unfold plan
  refine Program.guarded_call_bind.mpr ⟨trivial, fun source _ => ?_⟩
  rcases source with status | source
  · exact admits_error status
  refine Program.guarded_call_bind.mpr ⟨trivial, fun destination _ => ?_⟩
  rcases destination with status | destination
  · exact admits_error status
  dsimp only
  split
  · exact admits_error _
  refine (cleared_compatibilityNote required object request.destination).bind
    fun past decided cleared => ?_
  rcases decided with status | note
  · exact admits_error status
  refine Program.guarded_call_bind.mpr ⟨trivial, fun id _ => ?_⟩
  refine Program.guarded_call_bind.mpr ⟨trivial, fun compatibility _ => ?_⟩
  refine Program.guarded_call_bind.mpr ⟨trivial, fun topology _ => ?_⟩
  refine Program.guarded_call_bind.mpr ⟨trivial, fun now _ => ?_⟩
  split
  · exact admits_error _
  · rename_i record made
    rcases destination_of_created made with ⟨sameObject, sameDestination⟩
    apply admitted_authorize
    · rw [sameObject]
      exact generation
    · exact sameDestination
    · rw [sameObject, sameDestination]
      exact ((((cleared note rfl).later _).later _).later _).later _

/-- The object that passes the inventory checks is of the version that was asked for. -/
theorem generation_of_checkInventory
    {announced : Option (StateObjectDescriptor × Option EndpointId)}
    (checked : checkInventory request announced = .ok object) :
    object.generation = request.objectGeneration := by
  rcases announced with _ | ⟨known, announcer⟩
  · cases checked
  · unfold checkInventory at checked
    dsimp only at checked
    split at checked
    · cases checked
    · rename_i same
      split at checked
      · cases checked
      · cases checked
        exact Decidable.not_not.mp same

theorem admitted_submit (required : config.policy.requireCompatibilityEvidence = true)
    (request : SubmitMovement) :
    Program.Guarded (fun _ _ => True) (admits request) past (submit config request) := by
  unfold submit
  split
  · exact admits_error _
  · refine Program.guarded_call_bind.mpr ⟨trivial, fun announced _ => ?_⟩
    split
    · exact admits_error _
    · rename_i object checked
      split
      · exact admits_error _
      · exact admitted_plan required (generation_of_checkInventory checked)

/-- What the calls of a coordinator return. -/
def admitsCall : Call -> CoordinatorHistory -> Outcome -> Prop
  | .submit request, past, .accepted answer => admits request past answer
  | _, _, _ => True

theorem ends_start (required : config.policy.requireCompatibilityEvidence = true) (call : Call) :
    (Thread.start call (call.program config) : CoordinatorThread).Ends admitsCall := by
  cases call with
  | submit request => exact (admitted_submit required request).bind fun _ _ admitted => admitted
  | _ => exact (Program.guarded_unrestricted _).mono fun _ _ _ => trivial

end Submission

/-! ## Whole runs -/

namespace Coordinator

/-- A thread after a step was there before, has just been started, or has performed an
operation. -/
theorem thread_of_steps {config : CoordinatorConfig} {coordinator next : Coordinator}
    {action : Action} (steps : coordinator.Steps config action next)
    (located : next.threads[index]? = some thread) :
    coordinator.threads[index]? = some thread ∨
      (exists call, thread = Thread.start call (Call.program config call)) ∨
      exists environment before op, action = .run index environment ∧
        coordinator.threads[index]? = some before ∧ Thread.pending before = some op ∧
        thread = before.resume (environment.reply coordinator.store) := by
  cases steps with
  | idles => exact .inl located
  | begins _ call rest _ _ =>
      have located : (coordinator.threads ++
          [Thread.start call (call.program config)])[index]? = some thread := located
      by_cases old : index < coordinator.threads.length
      · rw [List.getElem?_append_left old] at located
        exact .inl located
      · rw [List.getElem?_append_right (Nat.le_of_not_lt old)] at located
        exact .inr (.inl ⟨call, List.mem_singleton.mp (List.mem_of_getElem? located)⟩)
  | performs place environment before op present pends =>
      have located : (coordinator.threads.set place
          (before.resume (environment.reply coordinator.store)))[index]? = some thread := located
      by_cases same : place = index
      · cases same
        rw [List.getElem?_set_self (List.getElem?_eq_some_iff.mp present).1] at located
        cases located
        exact .inr (.inr ⟨environment, before, op, rfl, present, pends, rfl⟩)
      · rw [List.getElem?_set_ne same] at located
        exact .inl located
  | restarts =>
      exact .inr (.inl ⟨.recover, List.mem_singleton.mp (List.mem_of_getElem? located)⟩)

end Coordinator

namespace Deployment

variable {config : CoordinatorConfig} {start : Deployment} {steps : List Step}

theorem run_concat (config : CoordinatorConfig) (start : Deployment) (steps : List Step)
    (last : Step) : run config start (steps ++ [last]) = step config (run config start steps) last := by
  unfold run runFrom
  rw [List.foldl_append, List.foldl_cons, List.foldl_nil]

/-- Every query in the history of a thread was answered by the provider, when the thread
made it. -/
def Answered (config : CoordinatorConfig) (start : Deployment) (steps : List Step) (index : Nat)
    (thread : CoordinatorThread) : Prop :=
  forall object destination reply, ⟨.queryCompatibility object destination, reply⟩ ∈ thread.history ->
    exists before environment after, steps = before ++ .process (.run index environment) :: after ∧
      (run config start before).Checks index object destination ∧
      reply = (run config start before).offered object destination

theorem Answered.later (answered : Answered config start steps index thread) (last : Step) :
    Answered config start (steps ++ [last]) index thread := by
  intro object destination reply asked
  rcases answered object destination reply asked with ⟨before, environment, after, rfl, checked⟩
  exact ⟨before, environment, after ++ [last], by rw [List.append_assoc, List.cons_append], checked⟩

theorem answered_start (index : Nat) (call : Call) :
    Answered config start steps index (Thread.start call (call.program config)) := by
  intro object destination reply asked
  cases asked

/-- The thread that performs an operation. -/
theorem answered_performs {op : CoordinatorOp} (answered : Answered config start steps index thread)
    (located : (run config start steps).coordinator.threads[index]? = some thread)
    (pends : thread.pending = some op) (environment : Environment) :
    Answered config start (steps ++ [.process (.run index environment)]) index
      (thread.resume (((run config start steps).surround index environment).reply
        (run config start steps).coordinator.store)) := by
  have performs := Coordinator.performing_of_pending located pends
  intro object destination reply asked
  rw [Thread.history_resume pends] at asked
  rcases List.mem_append.mp asked with earlier | last
  · exact answered.later _ object destination reply earlier
  · have same := List.mem_singleton.mp last
    cases op with
    | queryCompatibility asked asker =>
        injection same with ops replies
        cases ops
        cases replies
        refine ⟨steps, environment, [], rfl, ⟨thread, performs⟩, ?_⟩
        unfold surround
        rw [performs]
        rfl
    | _ => cases same

/-- Every thread asks the provider before it accepts, and was answered by it. -/
def Sound (config : CoordinatorConfig) (start : Deployment) (steps : List Step) : Prop :=
  forall index thread, (run config start steps).coordinator.threads[index]? = some thread ->
    thread.Ends admitsCall ∧ Answered config start steps index thread

theorem Sound.process (required : config.policy.requireCompatibilityEvidence = true)
    (sound : Sound config start steps) (action : Action) :
    Sound config start (steps ++ [.process action]) := by
  intro index thread located
  rw [run_concat] at located
  rcases Coordinator.thread_of_steps (Coordinator.step_steps config _ _) located with
    earlier | ⟨call, rfl⟩ | ⟨environment, before, op, performed, present, pends, rfl⟩
  · exact ⟨(sound index thread earlier).1, (sound index thread earlier).2.later _⟩
  · exact ⟨ends_start required call, answered_start index call⟩
  · cases action with
    | run place outer =>
        injection performed with places environments
        cases places
        cases environments
        rcases sound index before present with ⟨ends, answered⟩
        exact ⟨ends.resume _ (Environment.reply_possible _ _),
          answered_performs answered present pends outer⟩
    | _ => cases performed

/-- A call on the provider leaves the threads as they are. -/
theorem Sound.provider (sound : Sound config start steps) (last : Step)
    (same : (step config (run config start steps) last).coordinator =
      (run config start steps).coordinator) : Sound config start (steps ++ [last]) := by
  intro index thread located
  rw [run_concat, same] at located
  exact ⟨(sound index thread located).1, (sound index thread located).2.later _⟩

variable {deployment : Deployment}

/-- The object is announced, and the ids are new. -/
def planning : Environment where
  movementId := .filled 1
  compatibility := ⟨1⟩
  announced := some (oneByteObject, some endpointA)

/-- Both endpoints are live. -/
def liveAt (endpoint : EndpointId) : Environment where
  registration := some
    { endpoint := endpoint, incarnation := ⟨endpoint, .filled 1, ⟨1⟩⟩, live := true }

/-- A submission of the object, with all its operations. -/
def submission : List Step :=
  .process (.submit ⟨oneByteObjectId, ⟨1⟩, endpointA, endpointB⟩) ::
    ([planning, liveAt endpointA, liveAt endpointB] ++ List.replicate 11 planning).map fun environment =>
      .process (.run 0 environment)

/-- The request and the answer of a submission that was accepted. -/
def acceptedBy (thread : CoordinatorThread) : Option (SubmitMovement × MovementAccepted) :=
  match thread.call, Thread.result thread with
  | .submit request, some (Outcome.accepted (.ok answer)) => some (request, answer)
  | _, _ => none

/-- The first thread of the process is an accepted submission. -/
def accepts (deployment : Deployment) : Bool :=
  (deployment.coordinator.threads[0]?.bind acceptedBy).isSome

end Deployment

end StateMovementFabric
