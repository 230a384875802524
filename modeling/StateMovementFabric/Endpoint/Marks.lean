import StateMovementFabric.Endpoint.Authority

namespace StateMovementFabric

open Foundation Wire

/-!
# Which markers an endpoint writes

A marker is written by a commit request or by a publication, for the version and the
movement that these name, and only where no marker can be read.  A version that only one
movement is committed to is therefore marked for that movement.
-/

namespace EndpointAgent

/-- The marker that an action may write: its version and its movement. -/
def marks (agent : EndpointAgent) : AgentAction ->
    Option (AgentEnvironment × ObjectVersion × MovementId)
  | .handle environment frame =>
      if frame.type = .COMMIT_REQUEST then
        (decodeMessage CommitRequest.decode frame).toOption.map fun message =>
          (environment, message.object.version, message.movementId)
      else none
  | action =>
      (agent.published action).map fun (environment, object, _) =>
        (environment, object.version, environment.movementId)

/-- What a step does to the markers: nothing, or it writes the one that its action names
where it finds none. -/
theorem markers_step (agent : EndpointAgent) (action : AgentAction) :
    (agent.step action).store.markers = agent.store.markers ∨
      exists environment marker, agent.marks action =
          some (environment, marker.object.version, marker.movementId) ∧
        ObjectStore.Filed marker.object.version marker ∧
        agent.store.existingMarker environment.io marker.object.version = none ∧
        (agent.step action).store.markers = (agent.store.install marker).markers := by
  have effect := effect_step agent action
  generalize (agent.step action).store = after at effect ⊢
  cases effect with
  | answers environment frame _ handled =>
      cases handled with
      | keeps _ _ markers => exact .inl markers
      | commits message storedBytes marker type decoded _ made filed absent =>
          refine .inr ⟨environment, marker, ?_, filed.version ▸ filed, filed.version ▸ absent, rfl⟩
          rw [marks, if_pos type, decoded, filed.version, made, ObjectStore.movementId_toFile]
          rfl
  | keeps _ _ _ markers => exact .inl markers
  | places _ _ _ _ _ _ markers => exact .inl markers
  | publishes _ environment object contents marker _ planned made filed absent _ markers =>
      refine .inr ⟨environment, marker, ?_, filed.version ▸ filed, filed.version ▸ absent, markers⟩
      have named : marker.movementId = environment.movementId := by
        rw [made, ObjectStore.movementId_toFile]
        rfl
      rw [filed.version, named]
      cases action with
      | publishBytes asked publication => exact congrArg (Option.map _) planned
      | publishFile asked publication => exact congrArg (Option.map _) planned
      | _ => cases planned

/-! ## One movement per version -/

/-- A marker of the version is written for this movement, or one is there already. -/
def ownsVersion (id : MovementId) (version : ObjectVersion) (agent : EndpointAgent)
    (action : AgentAction) : Bool :=
  match agent.marks action with
  | none => true
  | some (environment, marked, movement) =>
      marked != version || movement == id ||
        (agent.store.existingMarker environment.io version).isSome

/-- Every marker of the version names the movement. -/
structure Owns (id : MovementId) (version : ObjectVersion) (agent : EndpointAgent) : Prop where
  wellfiled : agent.store.Wellfiled
  named : forall marker, agent.store.markers version = some (ObjectStore.markerFile marker) ->
    ObjectStore.Filed version marker -> marker.movementId = id

variable {agent : EndpointAgent} {id : MovementId} {version : ObjectVersion}

theorem Owns.step (owns : agent.Owns id version) {action : AgentAction}
    (meets : agent.ownsVersion id version action = true) : (agent.step action).Owns id version := by
  refine ⟨wellfiled_step owns.wellfiled action, ?_⟩
  intro marker found filed
  rcases agent.markers_step action with same | ⟨environment, written, plans, sealed, absent, markers⟩
  · rw [same] at found
    exact owns.named marker found filed
  · rw [markers, ObjectStore.markers_install] at found
    split_ifs at found with here
    · subst here
      rw [← ObjectStore.markerFile_inj sealed filed (Option.some.inj found)]
      rw [ownsVersion, plans] at meets
      simpa [absent] using meets
    · exact owns.named marker found filed

theorem owns_run (vacant : agent.Vacant) {actions : List AgentAction}
    (meets : everyStep step (ownsVersion id version) agent actions = true) :
    (agent.run actions).Owns id version := by
  have start : agent.Owns id version := by
    refine ⟨vacant.wellfiled, ?_⟩
    intro marker present
    rw [vacant.markers] at present
    cases present
  exact runFrom_invariant_of_everyStep meets start fun _ _ owns meets => owns.step meets

theorem Owns.movementId_of_read (owns : agent.Owns id version) {io : StoreIo}
    {marker : CommitMarker} (read : agent.store.readCommitMarker io version = .ok marker) :
    marker.movementId = id := by
  rcases (ObjectStore.readCommitMarker_eq_ok owns.wellfiled).mp read with ⟨-, present, filed⟩
  exact owns.named marker present filed

end EndpointAgent

end StateMovementFabric
