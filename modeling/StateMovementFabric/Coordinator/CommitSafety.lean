import StateMovementFabric.Coordinator.CallGuards

namespace StateMovementFabric

open Foundation

/-!
# The driver commits only with evidence

Whatever the endpoints answer, a durable `COMMITTED` snapshot that a worker wrote has
behind it, within the last attempt and in order: the accepted result of that attempt,
the full answer and every sampled answer of the destination, the durable `VERIFIED`
record, and the commit result for exactly that version.
-/

namespace Coordinator

/-- Every durable snapshot is valid. -/
theorem validate_of_mem_log {config : CoordinatorConfig} {store : OpenStore}
    {queue : List MovementId} {actions : List Action} {snapshot : Snapshot}
    (member : snapshot ∈ ((started store queue).run config actions).log) :
    snapshot.record.validate = .ok () := by
  refine @run_invariant config (started store queue)
    (fun coordinator => forall snapshot, snapshot ∈ coordinator.log ->
      snapshot.record.validate = .ok ()) ?_ ?_ actions snapshot member
  · intro coordinator action after valid steps snapshot member
    cases steps with
    | idles => exact valid snapshot member
    | begins => exact valid snapshot member
    | performs index environment thread op located pends =>
        rcases List.mem_append.mp member with earlier | added
        · exact valid snapshot earlier
        · rcases mem_persisted added with ⟨_, _, _, durable⟩
          exact MovementStore.validate_of_persists durable
    | restarts => exact valid snapshot member
  · exact fun _ member => absurd member List.not_mem_nil

end Coordinator

/-- In every run, whatever the endpoints answer, a worker persists `COMMITTED` for the
movement it drives, with a marker, and only with all the evidence of one attempt. -/
theorem commitEvidence_of_driven (config : CoordinatorConfig) (store : OpenStore)
    (queue : List MovementId) (actions : List Action) (snapshot : Snapshot)
    (member : snapshot ∈ ((Coordinator.started store queue).run config actions).log)
    (id : MovementId) (driven : snapshot.call = .drive id)
    (committed : snapshot.record.state = .COMMITTED) :
    snapshot.record.id = id ∧ snapshot.record.commitMarkerDigest.isZero = false ∧
      exists attempt result full samples verified answer,
        CommitEvidence config snapshot.record snapshot.history attempt result full samples verified
          answer := by
  have disciplined := disciplined_run config store queue actions
  have may : DriverMay config snapshot.history snapshot.record := by
    have allowed := disciplined.allowed snapshot member
    rw [driven] at allowed
    exact allowed
  refine ⟨?_, ?_, may.evidence committed⟩
  · apply may.advances.opened.eq
    rw [disciplined.began snapshot member may.advances.opened.ne_nil, driven]
    rfl
  · have valid := Coordinator.validate_of_mem_log member
    exact (MovementRecord.validate_eq_ok.mp valid).marker committed

/-! ## A movement that is driven to its commit -/

/-- Endpoints that answer with one frame, on live sessions. -/
def answering (frame : Frame) : Environment where
  link := some 0
  slot := some 0
  arrival := .frame frame
  attemptId := .filled 5
  nonce := .filled 6

def registering (endpoint : EndpointId) (boot : BootId) : Environment where
  registration := some
    { endpoint := endpoint, incarnation := ⟨endpoint, boot, ⟨1⟩⟩, live := true }

def grantAcknowledged : Frame := (GrantAck.mk (FixedId.filled 6 : Nonce).asDigest .OK []).frame

def bytesArrived : Frame :=
  (AttemptResult.mk (.filled 1) ⟨3⟩ (.filled 5) .BYTES_ARRIVED .OK [] oneByteDigest 1 1 .zero).frame

/-- The answer to a verification probe, with the payload of the only chunk or none. -/
def probeAnswer (payload : Bytes) : Frame :=
  (VerifyResponse.mk (.filled 1) oneByteObjectId ⟨1⟩ .OK oneByteDigest 1 1 0
    (computeChunkDigest oneByteObjectId ⟨1⟩ 0 0 1 payload) payload).frame

def commitConfirmed : Frame := (CommitResult.mk (.filled 1) ⟨5⟩ .OK oneByteDigest []).frame

/-- The worker takes the movement and every endpoint answers well. -/
def smoothDrive : List Action :=
  .pickUp :: List.map (.run 0)
    ([{}, answering grantAcknowledged, answering grantAcknowledged,
      registering endpointA (.filled 1), registering endpointB (.filled 2)] ++
      List.replicate 14 (answering grantAcknowledged) ++
      List.replicate 6 (answering bytesArrived) ++ List.replicate 3 (answering (probeAnswer [])) ++
      List.replicate 6 (answering (probeAnswer [1])) ++
      List.replicate 5 (answering commitConfirmed))

def Call.drives (id : MovementId) : Call -> Bool
  | .drive driven => driven == id
  | _ => false

theorem Call.eq_drive {call : Call} {id : MovementId} (drives : call.drives id = true) :
    call = .drive id := by
  cases call with
  | drive driven => rw [beq_iff_eq.mp drives]
  | _ => cases drives

theorem commitEvidence_smoothDrive :
    exists snapshot, snapshot ∈ ((Coordinator.started (storeHolding (oneByteMovement .AUTHORIZED))
        [.filled 1]).run defaultConfig smoothDrive).log ∧
      snapshot.call = .drive (.filled 1) ∧ snapshot.record.state = .COMMITTED ∧
      snapshot.record.id = .filled 1 ∧ snapshot.record.commitMarkerDigest.isZero = false ∧
      exists attempt result full samples verified answer,
        CommitEvidence defaultConfig snapshot.record snapshot.history attempt result full samples
          verified answer := by
  have reached : ((Coordinator.started (storeHolding (oneByteMovement .AUTHORIZED))
      [.filled 1]).run defaultConfig smoothDrive).log.any
      (fun snapshot => snapshot.call.drives (.filled 1) && snapshot.record.state == .COMMITTED) =
        true := by
    decide +kernel
  rcases List.any_eq_true.mp reached with ⟨snapshot, member, shape⟩
  rw [Bool.and_eq_true, beq_iff_eq] at shape
  have driven := Call.eq_drive shape.1
  exact ⟨snapshot, member, driven, shape.2,
    commitEvidence_of_driven defaultConfig _ _ smoothDrive snapshot member _ driven shape.2⟩

end StateMovementFabric
