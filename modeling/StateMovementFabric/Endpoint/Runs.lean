import StateMovementFabric.Foundation.Runs
import StateMovementFabric.Endpoint.Agent

namespace StateMovementFabric

open Foundation Wire

/-!
# Runs of an endpoint

An endpoint handles messages, ends transfers and publishes, in any order.  What one of
these does to the placed bytes and to the commit markers is said once here; the rest of
the agent does not matter to them.
-/

inductive AgentAction where
  | handle (environment : AgentEnvironment) (frame : Frame)
  | transferEnds (environment : AgentEnvironment) (index : Nat) (received : Result Bytes)
  | publishBytes (environment : AgentEnvironment) (publication : EndpointAgent.Publication)
  | publishFile (environment : AgentEnvironment) (publication : EndpointAgent.Publication)
  | fetchFlag (id : MovementId)
  | resumeRefused (index : Nat)
  | sessionEnds

namespace EndpointAgent

/-- One step of an endpoint. -/
def step (agent : EndpointAgent) : AgentAction -> EndpointAgent
  | .handle environment frame => (agent.handle environment frame).1
  | .transferEnds environment index received =>
      (agent.transferEnds environment index received).agent
  | .publishBytes environment publication => (agent.publishBytes environment publication).1
  | .publishFile environment publication => (agent.publishFile environment publication).1
  | .fetchFlag id => agent.fetchFlag id
  | .resumeRefused index => agent.resumeRefused index
  | .sessionEnds => agent.sessionEnds

def run (agent : EndpointAgent) (actions : List AgentAction) : EndpointAgent :=
  runFrom step agent actions

/-! ## Messages -/

/-- What a message can do to the placed bytes and the markers: nothing, or add the marker
of a commit whose checks have passed. -/
inductive Answers (agent : EndpointAgent) (environment : AgentEnvironment) (frame : Frame) :
    ObjectStore -> Prop where
  | keeps (store : ObjectStore) (objects : store.objects = agent.store.objects)
      (markers : store.markers = agent.store.markers) : Answers agent environment frame store
  | commits (message : CommitRequest) (storedBytes : UInt64) (marker : CommitMarker)
      (type : frame.type = .COMMIT_REQUEST)
      (decoded : decodeMessage CommitRequest.decode frame = .ok message)
      (checked : agent.checkCommit environment message = .ok storedBytes)
      (made : marker = ObjectStore.toFile (agent.markerFor environment message storedBytes))
      (filed : ObjectStore.Filed message.object.version marker)
      (absent : agent.store.existingMarker environment.io message.object.version = none) :
      Answers agent environment frame (agent.store.install marker)

variable {agent : EndpointAgent} {frame : Frame} {environment : AgentEnvironment}
  {other store : ObjectStore} {object : StateObjectDescriptor} {action : AgentAction}
  {staged : Bytes}

theorem decoding_cases {α : Type} {decode : Decode α} {handler : α -> Handled}
    {property : ObjectStore -> Prop} (refused : property agent.store)
    (accepted : forall message, decodeMessage decode frame = .ok message ->
      property (handler message).agent.store) :
    property (agent.decoding decode frame handler).agent.store := by
  unfold decoding
  split
  · exact refused
  · rename_i message decoded
    exact accepted message decoded

theorem answers_commitRequest {message : CommitRequest} (type : frame.type = .COMMIT_REQUEST)
    (decoded : decodeMessage CommitRequest.decode frame = .ok message) :
    Answers agent environment frame (agent.onCommitRequest environment message).agent.store := by
  unfold onCommitRequest
  split
  · exact .keeps _ rfl rfl
  · rename_i storedBytes checked
    dsimp only
    rcases agent.store.writeCommitMarker_cases environment.io
        (agent.markerFor environment message storedBytes) with same | ⟨filed, absent, installed⟩
    · split
      · rename_i store status wrote
        rw [wrote] at same
        cases same
        exact .keeps _ rfl rfl
      · rename_i store wrote
        rw [wrote] at same
        cases same
        exact .keeps _ rfl rfl
    · rw [installed]
      exact .commits message storedBytes _ type decoded checked rfl filed absent

theorem objects_cleanup (store : ObjectStore) (io : StoreIo) (target : ObjectStore.CleanupTarget) :
    (store.cleanup io target).1.objects = store.objects ∧
      (store.cleanup io target).1.markers = store.markers := by
  unfold ObjectStore.cleanup
  split
  · exact ⟨rfl, rfl⟩
  · dsimp only
    split <;> split <;> first | exact ⟨rfl, rfl⟩ | (split <;> exact ⟨rfl, rfl⟩)

theorem store_handle (agent : EndpointAgent) (environment : AgentEnvironment) (frame : Frame) :
    (agent.handle environment frame).1.store = (agent.handleControl environment frame).agent.store := by
  unfold handle
  dsimp only
  split <;> rfl

theorem answers_handle (agent : EndpointAgent) (environment : AgentEnvironment) (frame : Frame) :
    Answers agent environment frame (agent.handle environment frame).1.store := by
  have unchanged : Answers agent environment frame agent.store := .keeps _ rfl rfl
  rw [store_handle]
  unfold handleControl
  split
  · apply decoding_cases unchanged
    intro message _
    unfold onGrant
    split
    · exact unchanged
    · exact unchanged
  · apply decoding_cases unchanged
    intro message _
    unfold onExecute
    split
    · exact unchanged
    · exact unchanged
  · rename_i type
    exact decoding_cases unchanged fun message decoded => answers_commitRequest type decoded
  · exact decoding_cases unchanged fun _ _ => unchanged
  · exact decoding_cases unchanged fun _ _ => unchanged
  · apply decoding_cases unchanged
    intro message _
    have same := objects_cleanup agent.store environment.io ⟨message.movementId, message.quarantine⟩
    exact .keeps _ same.1 same.2
  · exact decoding_cases unchanged fun _ _ => unchanged
  all_goals exact unchanged

/-! ## Placed bytes -/

/-- The publication that an action makes, with the bound it is refused under. -/
def AgentAction.publication : AgentAction -> Option (AgentEnvironment × String × Publication)
  | .publishBytes environment publication =>
      some (environment, "the payload exceeds the configured object bound", publication)
  | .publishFile environment publication =>
      some (environment, "the file exceeds the configured object bound", publication)
  | _ => none

/-- The object that an action publishes. -/
def published (agent : EndpointAgent) (action : AgentAction) :
    Option (AgentEnvironment × StateObjectDescriptor × Bytes) :=
  (AgentAction.publication action).bind fun (environment, tooLarge, publication) =>
    (agent.describePublication environment tooLarge publication).toOption.map fun object =>
      (environment, object, publication.contents)

/-- The bytes that a transfer promotes: they hash to the authorized digest. -/
def promoted (agent : EndpointAgent) : AgentAction -> Option (StateObjectDescriptor × Bytes)
  | .transferEnds _ index (.ok staged) =>
      agent.transfers[index]?.bind fun (grant, _) =>
        if sha256 staged = grant.object.contentDigest then some (grant.object, staged) else none
  | _ => none

/-- The version whose data an action replaces, and the new bytes. -/
def placed (agent : EndpointAgent) (action : AgentAction) : Option (ObjectVersion × Bytes) :=
  match agent.promoted action, agent.published action with
  | some (object, staged), _ => some (object.version, staged)
  | none, some (_, object, contents) => some (object.version, contents)
  | none, none => none

/-- The data file of one version was replaced, was lost, or stayed; all others stayed. -/
def Refilled (before after : ObjectStore) (version : ObjectVersion) (bytes : Bytes) : Prop :=
  forall other, after.objects other = before.objects other ∨
    other = version ∧ (after.objects other = some bytes ∨ after.objects other = none)

/-- What a step can do to the placed bytes and the markers. -/
inductive Effect (agent : EndpointAgent) : AgentAction -> ObjectStore -> Prop where
  | answers (environment : AgentEnvironment) (frame : Frame) (store : ObjectStore)
      (handled : Answers agent environment frame store) :
      Effect agent (.handle environment frame) store
  | keeps (action : AgentAction) (store : ObjectStore)
      (objects : store.objects = agent.store.objects)
      (markers : store.markers = agent.store.markers) : Effect agent action store
  | places (action : AgentAction) (version : ObjectVersion) (bytes : Bytes) (store : ObjectStore)
      (planned : agent.placed action = some (version, bytes))
      (refilled : Refilled agent.store store version bytes)
      (markers : store.markers = agent.store.markers) : Effect agent action store
  | publishes (action : AgentAction) (environment : AgentEnvironment)
      (object : StateObjectDescriptor) (contents : Bytes) (marker : CommitMarker)
      (store : ObjectStore)
      (planned : agent.published action = some (environment, object, contents))
      (made : marker = ObjectStore.toFile (agent.publicationMarker environment object))
      (filed : ObjectStore.Filed object.version marker)
      (absent : agent.store.existingMarker environment.io object.version = none)
      (objects : store.objects = Function.update agent.store.objects object.version (some contents))
      (markers : store.markers = (agent.store.install marker).markers) : Effect agent action store

theorem refilled_place (store : ObjectStore) (io : StoreIo) (version : ObjectVersion)
    (bytes : Bytes) : Refilled store (store.place io version bytes) version bytes := by
  intro other
  unfold ObjectStore.place
  by_cases here : other = version
  · subst here
    split
    · exact .inr ⟨rfl, .inl (Function.update_self ..)⟩
    · split
      · exact .inr ⟨rfl, .inr (Function.update_self ..)⟩
      · exact .inl rfl
  · left
    split
    · exact Function.update_of_ne here ..
    · split
      · exact Function.update_of_ne here ..
      · rfl

theorem markers_place (store : ObjectStore) (io : StoreIo) (version : ObjectVersion)
    (bytes : Bytes) : (store.place io version bytes).markers = store.markers := by
  unfold ObjectStore.place
  split
  · rfl
  · split <;> rfl

/-! ## Publications -/

theorem existingMarker_congr (same : store.markers = other.markers) (io : StoreIo)
    (version : ObjectVersion) :
    store.existingMarker io version = other.existingMarker io version := by
  unfold ObjectStore.existingMarker
  rw [same]

theorem effect_finalizePublication {contents : Bytes}
    (planned : agent.published action = some (environment, object, contents))
    (unpromoted : agent.promoted action = none) :
    Effect agent action (agent.finalizePublication environment object contents).1.store := by
  have places : agent.placed action = some (object.version, contents) := by
    rw [placed, unpromoted, planned]
  have refilled := refilled_place agent.store environment.io object.version contents
  have markers := markers_place agent.store environment.io object.version contents
  unfold finalizePublication
  dsimp only
  split
  · exact .places action _ _ _ places refilled markers
  · rename_i renamed
    rcases (agent.store.place environment.io object.version contents).writeCommitMarker_cases
        environment.io (agent.publicationMarker environment object) with
      same | ⟨filed, absent, installed⟩
    · dsimp only
      rw [same]
      exact .places action _ _ _ places refilled markers
    · rw [installed]
      rw [existingMarker_congr markers] at absent
      refine .publishes action environment object contents _ _ planned rfl filed absent ?_ ?_
      · change (agent.store.place environment.io object.version contents).objects = _
        rw [ObjectStore.place, if_pos (by simpa using renamed)]
      · change Function.update (agent.store.place _ _ _).markers _ _ = _
        rw [markers]
        rfl

theorem effect_publish {tooLarge : String} {publication : Publication}
    (asked : AgentAction.publication action = some (environment, tooLarge, publication))
    (unpromoted : agent.promoted action = none) :
    Effect agent action (agent.publish environment tooLarge publication).1.store := by
  unfold publish
  split
  · exact .keeps _ _ rfl rfl
  · rename_i object described
    split
    · exact .keeps _ _ rfl rfl
    · split
      · exact .keeps _ _ rfl rfl
      · apply effect_finalizePublication _ unpromoted
        rw [published, asked, Option.bind_some]
        simp only [described]
        rfl

/-! ## Transfers -/

theorem objects_discardStaging (store : ObjectStore) (io : StoreIo) (id : MovementId) :
    (store.discardStaging io id).1.objects = store.objects ∧
      (store.discardStaging io id).1.markers = store.markers := by
  unfold ObjectStore.discardStaging
  split <;> exact ⟨rfl, rfl⟩

theorem refilled_promoteStaging {io : StoreIo} {id : MovementId}
    (holds : (store.staging id).bind StagingDirectory.data = some staged) :
    Refilled store (store.promoteStaging io id object).1 object.version staged ∧
      (store.promoteStaging io id object).1.markers = store.markers := by
  have placed := refilled_place store io object.version staged
  have markers := markers_place store io object.version staged
  unfold ObjectStore.promoteStaging
  simp only [holds]
  split
  · exact ⟨fun _ => .inl rfl, rfl⟩
  · split
    · exact ⟨fun _ => .inl rfl, rfl⟩
    · split
      · exact ⟨placed, markers⟩
      · split
        · exact ⟨placed, markers⟩
        · exact ⟨placed, markers⟩

theorem effect_settleTransfer {index : Nat} {grant : TransferGrant} {attempt : TransferAttemptId}
    (located : agent.transfers[index]? = some (grant, attempt)) :
    Effect agent (.transferEnds environment index (.ok staged))
      (settleTransfer agent.store environment.io grant staged).1 := by
  unfold settleTransfer
  dsimp only
  split
  · have same := objects_discardStaging { agent.store with
      staging := Function.update agent.store.staging grant.movementId (some ⟨some staged,
        (agent.store.staging grant.movementId).bind StagingDirectory.journal⟩) } environment.io
      grant.movementId
    exact .keeps _ _ same.1 same.2
  · rename_i hashes
    have promotes : agent.placed (.transferEnds environment index (.ok staged)) =
        some (grant.object.version, staged) := by
      simp only [placed, promoted, located, Option.bind_some, if_pos (not_not.mp hashes)]
    refine (fun both => .places _ _ _ _ promotes both.1 both.2) (refilled_promoteStaging ?_)
    dsimp only
    rw [Function.update_self]
    rfl

theorem effect_transferEnds (agent : EndpointAgent) (environment : AgentEnvironment) (index : Nat)
    (received : Result Bytes) :
    Effect agent (.transferEnds environment index received)
      (agent.transferEnds environment index received).agent.store := by
  unfold transferEnds
  split
  · exact .keeps _ _ rfl rfl
  · rename_i grant attempt located
    dsimp only
    cases received with
    | error status => exact .keeps _ _ rfl rfl
    | ok staged =>
        dsimp only
        split
        · exact effect_settleTransfer located
        · exact effect_settleTransfer located

/-! ## Steps -/

theorem store_resumeRefused (agent : EndpointAgent) (index : Nat) :
    (agent.resumeRefused index).store = agent.store := by
  unfold resumeRefused
  split <;> rfl

theorem effect_step (agent : EndpointAgent) (action : AgentAction) :
    Effect agent action (agent.step action).store := by
  cases action with
  | handle environment frame => exact .answers environment frame _ (agent.answers_handle _ frame)
  | transferEnds environment index received => exact agent.effect_transferEnds _ index received
  | publishBytes environment publication => exact effect_publish rfl rfl
  | publishFile environment publication => exact effect_publish rfl rfl
  | fetchFlag id => exact .keeps _ _ rfl rfl
  | resumeRefused index =>
      rw [step, store_resumeRefused]
      exact .keeps _ _ rfl rfl
  | sessionEnds => exact .keeps _ _ rfl rfl

theorem wellfiled_congr (wellfiled : store.Wellfiled) (same : other.markers = store.markers) :
    other.Wellfiled := by
  intro version file found
  rw [same] at found
  exact wellfiled version file found

/-- Every marker file of an endpoint was written by `write_commit_marker`. -/
theorem wellfiled_step (wellfiled : agent.store.Wellfiled) (action : AgentAction) :
    (agent.step action).store.Wellfiled := by
  have effect := effect_step agent action
  generalize (agent.step action).store = after at effect ⊢
  cases effect with
  | answers environment frame _ handled =>
      cases handled with
      | keeps _ _ markers => exact wellfiled_congr wellfiled markers
      | commits message storedBytes marker _ _ _ _ filed _ =>
          exact wellfiled.install (filed.version ▸ filed)
  | keeps _ _ _ markers => exact wellfiled_congr wellfiled markers
  | places _ _ _ _ _ _ markers => exact wellfiled_congr wellfiled markers
  | publishes _ _ object _ marker _ _ _ filed _ _ markers =>
      exact wellfiled_congr (wellfiled.install (filed.version ▸ filed)) markers

/-- An endpoint in a new directory: no bytes are placed and nothing is committed. -/
structure Vacant (agent : EndpointAgent) : Prop where
  objects : forall version, agent.store.objects version = none
  markers : forall version, agent.store.markers version = none

/-- The agent of the endpoint `b`, just started in a new directory. -/
def newAgent : EndpointAgent where
  config := { endpointId := endpointB, sharedSecret := ascii "secret" }
  incarnation := ⟨endpointB, .filled 2, ⟨1⟩⟩
  policyGeneration := ⟨1⟩
  store := ⟨ascii "root", true, fun _ => none, fun _ => none, fun _ => none⟩
  grants := []
  cancellations := fun _ => none
  transfers := []

theorem vacant_newAgent : newAgent.Vacant := ⟨fun _ => rfl, fun _ => rfl⟩

theorem Vacant.wellfiled (vacant : agent.Vacant) :
    agent.store.Wellfiled := by
  intro version file found
  rw [vacant.markers version] at found
  cases found

end EndpointAgent

end StateMovementFabric
