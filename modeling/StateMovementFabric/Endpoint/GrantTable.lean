import StateMovementFabric.Endpoint.Runs

namespace StateMovementFabric

open Foundation Wire

/-!
# The grant table of an endpoint

A grant enters the table when its message is accepted.  It is marked when a data session
presents it, and leaves with a cleanup of its movement or with the control session.  No
other step touches the table, and none touches the configuration or the policy generation.
-/

namespace EndpointAgent

/-- A data session presents a nonce: the grant that is recorded under it, whether it was
still unused, and the table with the grant marked. -/
def consumeGrant (agent : EndpointAgent) (nonce : Nonce) :
    EndpointAgent × Option (TransferGrant × Bool) :=
  match agent.findGrant nonce with
  | none => (agent, none)
  | some entry =>
      ({ agent with
          grants := agent.grants.map fun known =>
            if known.1 = nonce then (known.1, { known.2 with consumed := true }) else known },
        some (entry.grant, !entry.consumed))

/-- What a step can do to the grant table. -/
inductive Regrants (agent : EndpointAgent) : AgentAction -> List (Nonce × GrantEntry) -> Prop where
  | keeps (action : AgentAction) : Regrants agent action agent.grants
  | records (environment : AgentEnvironment) (frame : Frame) (message : GrantTransfer)
      (type : frame.type = .GRANT_TRANSFER)
      (decoded : decodeMessage GrantTransfer.decode frame = .ok message)
      (checked : agent.checkGrant message.grant = .ok ()) :
      Regrants agent (.handle environment frame)
        (agent.recordGrant ⟨message.grant, false, environment.now⟩).grants
  | cleans (environment : AgentEnvironment) (frame : Frame) (message : CleanupRequest)
      (type : frame.type = .CLEANUP_REQUEST)
      (decoded : decodeMessage CleanupRequest.decode frame = .ok message) :
      Regrants agent (.handle environment frame)
        (agent.grants.filter fun known => known.2.grant.movementId != message.movementId)
  | ends : Regrants agent .sessionEnds []

/-- What a step can do to the table and to what grants are checked against. -/
structure Tabled (agent : EndpointAgent) (action : AgentAction) (after : EndpointAgent) : Prop where
  config : after.config = agent.config
  policyGeneration : after.policyGeneration = agent.policyGeneration
  grants : Regrants agent action after.grants

section Steps

variable {agent after : EndpointAgent} {action : AgentAction} {environment : AgentEnvironment}
  {frame : Frame}

theorem tabled_of_same (config : after.config = agent.config)
    (policyGeneration : after.policyGeneration = agent.policyGeneration)
    (grants : after.grants = agent.grants) : Tabled agent action after :=
  ⟨config, policyGeneration, grants ▸ .keeps action⟩

theorem tabled_decoding {α : Type} {decode : Decode α} {handler : α -> Handled}
    (accepted : forall message, decodeMessage decode frame = .ok message ->
      Tabled agent action (handler message).agent) :
    Tabled agent action (agent.decoding decode frame handler).agent := by
  unfold decoding
  split
  · exact tabled_of_same rfl rfl rfl
  · rename_i message decoded
    exact accepted message decoded

theorem tabled_onGrant {message : GrantTransfer} (type : frame.type = .GRANT_TRANSFER)
    (decoded : decodeMessage GrantTransfer.decode frame = .ok message) :
    Tabled agent (.handle environment frame) (agent.onGrant environment message.grant).agent := by
  unfold onGrant
  split
  · exact tabled_of_same rfl rfl rfl
  · rename_i checked
    exact ⟨rfl, rfl, .records environment frame message type decoded checked⟩

theorem tabled_onExecute (message : ExecuteMovement) :
    Tabled agent action (agent.onExecute environment message).agent := by
  unfold onExecute
  split
  · exact tabled_of_same rfl rfl rfl
  · exact tabled_of_same rfl rfl rfl

theorem tabled_onCommitRequest (message : CommitRequest) :
    Tabled agent action (agent.onCommitRequest environment message).agent := by
  unfold onCommitRequest
  split
  · exact tabled_of_same rfl rfl rfl
  · dsimp only
    split
    · exact tabled_of_same rfl rfl rfl
    · exact tabled_of_same rfl rfl rfl

theorem tabled_handleControl :
    Tabled agent (.handle environment frame) (agent.handleControl environment frame).agent := by
  have unchanged : Tabled agent (.handle environment frame) agent := tabled_of_same rfl rfl rfl
  unfold handleControl
  split
  · rename_i type
    exact tabled_decoding fun _ decoded => tabled_onGrant type decoded
  · exact tabled_decoding fun message _ => tabled_onExecute message
  · exact tabled_decoding fun message _ => tabled_onCommitRequest message
  · exact tabled_decoding fun _ _ => unchanged
  · exact tabled_decoding fun _ _ => unchanged
  · rename_i type
    exact tabled_decoding fun message decoded =>
      ⟨rfl, rfl, .cleans environment frame message type decoded⟩
  · exact tabled_decoding fun _ _ => tabled_of_same rfl rfl rfl
  all_goals exact unchanged

theorem agent_handle (agent : EndpointAgent) (environment : AgentEnvironment) (frame : Frame) :
    (agent.handle environment frame).1 = (agent.handleControl environment frame).agent := by
  unfold handle
  dsimp only
  split <;> rfl

theorem tabled_transferEnds (index : Nat) (received : Result Bytes) :
    Tabled agent action (agent.transferEnds environment index received).agent := by
  unfold transferEnds
  split
  · exact tabled_of_same rfl rfl rfl
  · cases received with
    | error status => exact tabled_of_same rfl rfl rfl
    | ok staged =>
        dsimp only
        split
        · exact tabled_of_same rfl rfl rfl
        · exact tabled_of_same rfl rfl rfl

theorem tabled_publish (tooLarge : String) (publication : Publication) :
    Tabled agent action (agent.publish environment tooLarge publication).1 := by
  unfold publish
  split
  · exact tabled_of_same rfl rfl rfl
  · split
    · exact tabled_of_same rfl rfl rfl
    · split
      · exact tabled_of_same rfl rfl rfl
      · unfold finalizePublication
        dsimp only
        split
        · exact tabled_of_same rfl rfl rfl
        · exact tabled_of_same rfl rfl rfl

theorem tabled_step (agent : EndpointAgent) (action : AgentAction) :
    Tabled agent action (agent.step action) := by
  cases action with
  | handle environment frame =>
      rw [step, agent_handle]
      exact tabled_handleControl
  | transferEnds environment index received => exact tabled_transferEnds index received
  | publishBytes environment publication => exact tabled_publish _ publication
  | publishFile environment publication => exact tabled_publish _ publication
  | fetchFlag id => exact tabled_of_same rfl rfl rfl
  | resumeRefused index =>
      rw [step, resumeRefused]
      split
      · exact tabled_of_same rfl rfl rfl
      · exact tabled_of_same rfl rfl rfl
  | sessionEnds => exact ⟨rfl, rfl, .ends⟩

end Steps

/-! ## A grant arrives -/

/-- The most grants that the table holds. -/
def grantCapacity (agent : EndpointAgent) : Nat :=
  (agent.config.policy.maxMovementsInFlight * 2).toNat

section Arrival

variable {agent : EndpointAgent} {grant : TransferGrant}

theorem length_lt_of_checkGrant (checked : agent.checkGrant grant = .ok ()) :
    agent.grants.length < agent.grantCapacity := by
  simp only [checkGrant, check_bind_eq_ok, refuseWhen_eq_ok, decide_eq_false_iff_not] at checked
  exact Nat.not_le.mp checked.2.2.2.2

/-- A grant that is refused changes nothing, and is answered by an error for which no caller
waits. -/
theorem handle_refused {frame : Frame} (type : frame.type = .GRANT_TRANSFER)
    (refused : forall grant, agent.checkGrant grant ≠ .ok ()) (environment : AgentEnvironment) :
    (agent.handle environment frame).1 = agent ∧
      forall reply, reply ∈ (agent.handle environment frame).2 -> pendingKey reply = none := by
  have failed : exists status, agent.handleControl environment frame = ⟨agent, [], .error status⟩ := by
    unfold handleControl decoding onGrant
    rw [type]
    dsimp only
    split
    · exact ⟨_, rfl⟩
    · split
      · exact ⟨_, rfl⟩
      · exact absurd ‹_› (refused _)
  rcases failed with ⟨status, failed⟩
  unfold handle
  rw [failed]
  refine ⟨rfl, fun reply sent => ?_⟩
  rw [List.mem_singleton.mp sent]
  rfl

theorem length_recordGrant (agent : EndpointAgent) (entry : GrantEntry) :
    (agent.recordGrant entry).grants.length ≤ agent.grants.length + 1 := by
  rw [recordGrant, List.length_append, List.length_singleton]
  exact Nat.succ_le_succ (List.length_filter_le _ _)

theorem length_consumeGrant (agent : EndpointAgent) (nonce : Nonce) :
    (agent.consumeGrant nonce).1.grants.length = agent.grants.length := by
  unfold consumeGrant
  cases agent.findGrant nonce with
  | none => rfl
  | some entry => exact List.length_map _

end Arrival

end EndpointAgent

end StateMovementFabric
