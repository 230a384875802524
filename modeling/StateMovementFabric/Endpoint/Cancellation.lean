import StateMovementFabric.Endpoint.Runs

namespace StateMovementFabric

open Foundation Wire

/-!
# Cancellation at an endpoint

A cancellation raises the flag of its movement, and a raised flag turns every commit
request away.  The flag is shared: starting a transfer replaces it, a transfer whose
resume point is refused erases it, and so do a cleanup and the end of the session.
-/

namespace EndpointAgent

/-- The control session goes on, and nothing is cleaned up. -/
def withinSession (_ : EndpointAgent) : AgentAction -> Bool
  | .handle _ frame => frame.type != .CLEANUP_REQUEST
  | .sessionEnds => false
  | _ => true

/-- The step leaves a raised flag of the movement alone: it does not start a transfer of
the movement, and no transfer of the movement gives up its resume point. -/
def cancelStands (id : MovementId) (agent : EndpointAgent) : AgentAction -> Bool
  | .handle environment frame =>
      frame.type != .EXECUTE_MOVEMENT ||
        match decodeMessage ExecuteMovement.decode frame with
        | .error _ => true
        | .ok message =>
            message.movementId != id || !succeeded (agent.grantToExecute environment message)
  | .resumeRefused index => agent.transfers[index]?.all fun running => running.1.movementId != id
  | _ => true

/-- No commit request for the movement that the actions hold changes a marker. -/
def CancellationFinal (id : MovementId) (agent : EndpointAgent) (actions : List AgentAction) :
    Prop :=
  forall before environment frame message after,
    actions = before ++ .handle environment frame :: after -> frame.type = .COMMIT_REQUEST ->
    decodeMessage CommitRequest.decode frame = .ok message -> message.movementId = id ->
    (agent.run (before ++ [.handle environment frame])).store.markers =
      (agent.run before).store.markers

section Flags

variable {agent : EndpointAgent} {environment : AgentEnvironment} {frame : Frame} {id : MovementId}

theorem cancellations_handle (agent : EndpointAgent) (environment : AgentEnvironment)
    (frame : Frame) :
    (agent.handle environment frame).1.cancellations =
      (agent.handleControl environment frame).agent.cancellations := by
  unfold handle
  dsimp only
  split <;> rfl

theorem raised_decoding {α : Type} {decode : Decode α} {handler : α -> Handled}
    (raised : agent.cancellations id = some true)
    (accepted : forall message, decodeMessage decode frame = .ok message ->
      (handler message).agent.cancellations id = some true) :
    (agent.decoding decode frame handler).agent.cancellations id = some true := by
  unfold decoding
  split
  · exact raised
  · rename_i message decoded
    exact accepted message decoded

theorem raised_onExecute {message : ExecuteMovement} (raised : agent.cancellations id = some true)
    (other : message.movementId = id ->
      succeeded (agent.grantToExecute environment message) = false) :
    (agent.onExecute environment message).agent.cancellations id = some true := by
  unfold onExecute
  split
  · exact raised
  · rename_i grant granted
    have different : id ≠ message.movementId := by
      rintro rfl
      have refused := other rfl
      rw [granted] at refused
      cases refused
    change Function.update _ _ _ id = _
    rw [Function.update_of_ne different]
    exact raised

theorem raised_onCommitRequest {message : CommitRequest}
    (raised : agent.cancellations id = some true) :
    (agent.onCommitRequest environment message).agent.cancellations id = some true := by
  unfold onCommitRequest
  split
  · exact raised
  · dsimp only
    split <;> exact raised

theorem raised_onGrant {grant : TransferGrant} (raised : agent.cancellations id = some true) :
    (agent.onGrant environment grant).agent.cancellations id = some true := by
  unfold onGrant
  split <;> exact raised

theorem raised_onCancel {message : CancelRequest} (raised : agent.cancellations id = some true) :
    (agent.onCancel message).agent.cancellations id = some true := by
  change Function.update _ _ _ id = _
  rw [Function.update_apply]
  split
  · rfl
  · exact raised

theorem raised_handle (raised : agent.cancellations id = some true)
    (session : agent.withinSession (.handle environment frame) = true)
    (stands : agent.cancelStands id (.handle environment frame) = true) :
    (agent.handle environment frame).1.cancellations id = some true := by
  rw [cancellations_handle]
  unfold handleControl
  split
  · exact raised_decoding raised fun _ _ => raised_onGrant raised
  · rename_i type
    apply raised_decoding raised
    intro message decoded
    apply raised_onExecute raised
    rintro rfl
    rw [cancelStands, type, decoded] at stands
    simpa using stands
  · exact raised_decoding raised fun _ _ => raised_onCommitRequest raised
  · exact raised_decoding raised fun _ _ => raised
  · exact raised_decoding raised fun _ _ => raised
  · rename_i type
    rw [withinSession, type] at session
    cases session
  · exact raised_decoding raised fun _ _ => raised_onCancel raised
  all_goals exact raised

theorem cancellations_transferEnds (index : Nat) (received : Result Bytes) :
    (agent.transferEnds environment index received).agent.cancellations = agent.cancellations := by
  unfold transferEnds
  split
  · rfl
  · cases received with
    | error status => rfl
    | ok staged =>
        dsimp only
        split <;> rfl

theorem cancellations_publish (tooLarge : String) (publication : Publication) :
    (agent.publish environment tooLarge publication).1.cancellations = agent.cancellations := by
  unfold publish
  split
  · rfl
  · split
    · rfl
    · split
      · rfl
      · unfold finalizePublication
        dsimp only
        split <;> rfl

/-- A flag that is raised stays raised. -/
theorem raised_step {action : AgentAction} (raised : agent.cancellations id = some true)
    (session : agent.withinSession action = true) (stands : agent.cancelStands id action = true) :
    (agent.step action).cancellations id = some true := by
  cases action with
  | handle environment frame => exact raised_handle raised session stands
  | transferEnds environment index received =>
      rw [step, cancellations_transferEnds]
      exact raised
  | publishBytes environment publication =>
      rw [step, publishBytes, cancellations_publish]
      exact raised
  | publishFile environment publication =>
      rw [step, publishFile, cancellations_publish]
      exact raised
  | fetchFlag fetched =>
      change Function.update _ _ _ id = _
      rw [Function.update_apply]
      split
      · rename_i same
        rw [← same, raised]
        rfl
      · exact raised
  | resumeRefused index =>
      rw [step, resumeRefused]
      rw [cancelStands] at stands
      split
      · exact raised
      · rename_i grant attempt located
        rw [located, Option.all_some, bne_iff_ne] at stands
        change Function.update _ _ _ id = _
        rw [Function.update_of_ne stands.symm]
        exact raised
  | sessionEnds => cases session

/-- The acknowledged cancellation has raised the flag. -/
theorem raised_of_cancel {message : CancelRequest} (type : frame.type = .CANCEL)
    (decoded : decodeMessage CancelRequest.decode frame = .ok message) :
    (agent.step (.handle environment frame)).cancellations message.movementId = some true := by
  rw [step, cancellations_handle, handleControl, type]
  simp only [decoding, decoded]
  exact Function.update_self ..

/-- A raised flag turns a commit request away. -/
theorem markers_of_raised {message : CommitRequest} (type : frame.type = .COMMIT_REQUEST)
    (decoded : decodeMessage CommitRequest.decode frame = .ok message)
    (raised : agent.cancellations message.movementId = some true) :
    (agent.step (.handle environment frame)).store.markers = agent.store.markers := by
  have refused : agent.checkCommit environment message =
      refuse .MOVEMENT_CANCELLED "the movement was cancelled before the commit barrier" := by
    rw [checkCommit, if_pos raised]
  rw [step, store_handle, handleControl, type]
  simp only [decoding, decoded, onCommitRequest, refused]
  rfl

end Flags

/-- Once a cancellation is acknowledged, no commit request for the movement writes a
marker, as long as no transfer of the movement is started or gives up its resume point. -/
theorem cancellationFinal_of_stands (agent : EndpointAgent) (environment : AgentEnvironment)
    {frame : Frame} {message : CancelRequest} (type : frame.type = .CANCEL)
    (decoded : decodeMessage CancelRequest.decode frame = .ok message)
    (actions : List AgentAction)
    (session : everyStep step withinSession (agent.step (.handle environment frame)) actions = true)
    (stands : everyStep step (cancelStands message.movementId)
      (agent.step (.handle environment frame)) actions = true) :
    CancellationFinal message.movementId (agent.step (.handle environment frame)) actions := by
  intro before handling request commit after made isCommit asked same
  subst made
  have meets := everyStep_and session stands
  rw [everyStep_append, Bool.and_eq_true] at meets
  have raised : ((agent.step (.handle environment frame)).run before).cancellations
      message.movementId = some true :=
    runFrom_invariant_of_everyStep meets.1 (raised_of_cancel type decoded) (by
      intro agent action raised meets
      rw [Bool.and_eq_true] at meets
      exact raised_step raised meets.1 meets.2)
  have run : (agent.step (.handle environment frame)).run (before ++ [.handle handling request]) =
      ((agent.step (.handle environment frame)).run before).step (.handle handling request) :=
    List.foldl_append ..
  rw [run]
  exact markers_of_raised isCommit asked (same ▸ raised)

/-! ## A cancellation that is overtaken -/

/-- The grant of the one attempt at the smallest movement. -/
def smallGrant : TransferGrant :=
  let unsigned : TransferGrant :=
    { movementId := .filled 1
      movementGeneration := ⟨1⟩
      attempt := .filled 5
      object := oneByteObject
      source := endpointA
      sourceIncarnation := ⟨endpointA, .filled 1, ⟨1⟩⟩
      destination := endpointB
      destinationIncarnation := ⟨endpointB, .filled 2, ⟨1⟩⟩
      policyGeneration := ⟨1⟩
      grantNonce := .filled 6
      maxBytes := 1
      maxChunks := 1
      issuedUnixMillis := 1
      effectClass := .REPEATABLE
      signature := .zero }
  valueOr unsigned (unsigned.sign (ascii "secret"))

def smallGrantArrives : AgentAction := .handle {} (GrantTransfer.mk smallGrant).frame

def smallExecute : AgentAction :=
  .handle {} (ExecuteMovement.mk (.filled 1) ⟨1⟩ (.filled 5)
    (FixedId.asDigest (.filled 6 : Nonce)) endpointA).frame

def smallCancel : Frame := (CancelRequest.mk (.filled 1) ⟨1⟩).frame

def smallCommit : Frame :=
  (CommitRequest.mk (.filled 1) ⟨1⟩ (.filled 5) oneByteObject endpointA).frame

/-- A cancellation that arrives when the bytes are there, and the commit request behind it. -/
theorem cancellationFinal_arrived :
    CancellationFinal (.filled 1)
      ((newAgent.run [smallGrantArrives, smallExecute, .transferEnds {} 0 (.ok [1])]).step
        (.handle {} smallCancel)) [.handle {} smallCommit] := by
  have decoded : decodeMessage CancelRequest.decode smallCancel = .ok ⟨.filled 1, ⟨1⟩⟩ := by
    decide +kernel
  exact cancellationFinal_of_stands _ {} rfl decoded _ (by decide +kernel) (by decide +kernel)

/-- A cancellation that arrives before the request to start the transfer is forgotten by it. -/
theorem not_cancellationFinal_overtaken :
    ¬CancellationFinal (.filled 1)
      ((newAgent.run [smallGrantArrives]).step (.handle {} smallCancel))
      [smallExecute, .transferEnds {} 0 (.ok [1]), .handle {} smallCommit] := by
  intro final
  have reached : decodeMessage CommitRequest.decode smallCommit =
        .ok ⟨.filled 1, ⟨1⟩, .filled 5, oneByteObject, endpointA⟩ ∧
      ((((newAgent.run [smallGrantArrives]).step (.handle {} smallCancel)).run
        ([smallExecute, .transferEnds {} 0 (.ok [1])] ++ [.handle {} smallCommit])).store.markers
          oneByteObject.version).isSome = true ∧
      ((((newAgent.run [smallGrantArrives]).step (.handle {} smallCancel)).run
        [smallExecute, .transferEnds {} 0 (.ok [1])]).store.markers
          oneByteObject.version).isSome = false := by
    decide +kernel
  have same := final [smallExecute, .transferEnds {} 0 (.ok [1])] {} smallCommit _ [] rfl rfl
    reached.1 rfl
  rw [same] at reached
  exact Bool.false_ne_true (reached.2.2.symm.trans reached.2.1)

end EndpointAgent

end StateMovementFabric
