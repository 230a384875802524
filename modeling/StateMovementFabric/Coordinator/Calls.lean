import StateMovementFabric.Coordinator.Driver

namespace StateMovementFabric

open Wire

/-!
# The calls of an operator, and recovery

`submit`, `cancel` and `reconcile` run on operator sessions, at any time and next to
the workers.  `recoverAfterRestart` runs once, before anything else does.
-/

/-! ## Submission -/

/-- The compatibility decision of `submit`: the note for the record, or a refusal. -/
def compatibilityNote (config : CoordinatorConfig) (object : StateObjectDescriptor)
    (destination : EndpointId) : CoordinatorProgram (Result Text) := do
  let required := config.policy.requireCompatibilityEvidence
  match ← queryCompatibility object destination with
  | none =>
      return .ok (ascii
        "no compatibility provider is configured, so the verdict is explicitly unknown")
  | some (.error status) =>
      if required then return .error ⟨.COMPATIBILITY_EVIDENCE_MISSING, status.message⟩
      else return .ok (ascii "no evidence is published: " ++ status.message)
  | some (.ok evidence) =>
      if !evidence.appliesTo object destination then
        if required then
          return refuse .COMPATIBILITY_STALE_EVIDENCE
            "the published evidence does not bind this object version at this destination"
        else
          return .ok (ascii "published evidence does not apply to this version and destination")
      else do
        setCompatibilityGeneration evidence.generation
        if evidence.verdict = .UNSUPPORTED then
          return refuse .COMPATIBILITY_UNSUPPORTED
            "published evidence says this destination cannot use this state version"
        else if evidence.verdict = .UNKNOWN ∧ required then
          return refuse .COMPATIBILITY_UNKNOWN
            "published evidence is explicitly unknown, which is not support"
        else return .ok (ascii ("compatibility verdict " ++ evidence.verdict.name))

/-- The inventory checks of `submit`. -/
def checkInventory (request : SubmitMovement) :
    Option (StateObjectDescriptor × Option EndpointId) -> Result StateObjectDescriptor
  | none => refuse .OBJECT_NOT_FOUND "no source has announced that state object"
  | some (object, announcer) =>
      if object.generation ≠ request.objectGeneration then
        .error ⟨.STALE_STATE_GENERATION,
          ascii "the announced generation of that object is " ++
            decimal object.generation.value.toNat ++ ascii ", not " ++
            decimal request.objectGeneration.value.toNat⟩
      else if announcer ≠ some request.source then
        refuse .NOT_AUTHORIZED
          "the named source is not the endpoint that announced this object version"
      else .ok object

/-- The policy bounds of `submit`. -/
def checkBounds (policy : MovementPolicy) (object : StateObjectDescriptor) : Result Unit := do
  refuseWhen (object.totalBytes > policy.maxObjectBytes) .POLICY_VIOLATION
    "the object exceeds the configured size bound"
  refuseWhen (object.chunkBytes < policy.minChunkBytes || object.chunkBytes > policy.maxChunkBytes)
    .POLICY_VIOLATION "the object's segmentation is outside the policy bounds"

/-- The record that `submit` creates, before its first provenance event. -/
def plannedRecord (config : CoordinatorConfig) (id : MovementId) (object : StateObjectDescriptor)
    (source destination : EndpointRegistration) (request : SubmitMovement)
    (compatibility : CompatibilityGeneration) (topology : TopologyGeneration) (now : Millis) :
    MovementRecord where
  id := id
  generation := ⟨1⟩
  object := object
  source := request.source
  destination := request.destination
  sourceIncarnation := source.incarnation.retag
  destinationIncarnation := destination.incarnation.retag
  compatibilityGeneration := compatibility
  compatibilityEvidence := .zero
  topologyGeneration := topology
  policyGeneration := policyGeneration
  state := .PLANNED
  lastReason := .OK
  lastDetail := []
  attempt := .zero
  attemptCount := 0
  bytesTransferred := 0
  chunksVerified := 0
  sourceVerifiedDigest := .zero
  destinationVerifiedDigest := .zero
  commitMarkerDigest := .zero
  createdUnixMillis := now
  updatedUnixMillis := now
  repeatable := object.repeatable
  cancelRequested := false
  provenance := ProvenanceChain.empty.setBound config.policy.maxProvenanceEvents.toNat

/-- The planned record with its first event, once all checks have passed. -/
def created (planned : MovementRecord) (note : Text) : Result MovementRecord := do
  let event := planned.provenance.nextEvent .CREATED .PLANNED planned.generation .OK
    planned.createdUnixMillis note
  let chain ← planned.provenance.append event
  let record := { planned with provenance := chain }
  record.validate
  return record

theorem created_eq_ok {planned record : MovementRecord} {note : Text}
    (made : created planned note = .ok record) :
    record.validate = .ok () ∧ exists chain,
      planned.provenance.appendEvent .CREATED .PLANNED planned.generation .OK
        planned.createdUnixMillis note = .ok chain ∧
      record = { planned with provenance := chain } := by
  rcases bind_eq_ok.mp made with ⟨chain, appended, made⟩
  rcases bind_eq_ok.mp made with ⟨_, valid, made⟩
  cases made
  exact ⟨valid, chain, appended, rfl⟩

/-- The end of `submit`: store the record, authorize it and queue it. -/
def authorize (record : MovementRecord) (note : Text) :
    CoordinatorProgram (Result MovementAccepted) := do
  match ← storePut record with
  | .error status => return .error status
  | .ok () =>
      let now ← unixMillis
      match applyTransition record .AUTHORIZED
          (.allow .OK (ascii "authorized under topology generation " ++
            decimal record.topologyGeneration.value.toNat ++ ascii " and policy generation " ++
            decimal record.policyGeneration.value.toNat)) .AUTHORIZED now with
      | (_, .error status) =>
          count .movementsRejected
          return .error status
      | (authorized, .ok ()) =>
          match ← storePut authorized with
          | .error status => return .error status
          | .ok () =>
              count .movementsSubmitted
              enqueue authorized.id
              return .ok ⟨authorized.id, authorized.state, .OK, note⟩

/-- The middle of `submit`: live endpoints, compatibility, a new record. -/
def plan (config : CoordinatorConfig) (request : SubmitMovement) (object : StateObjectDescriptor) :
    CoordinatorProgram (Result MovementAccepted) := do
  match ← topologyFind request.source with
  | .error status => return .error status
  | .ok source =>
      match ← topologyFind request.destination with
      | .error status => return .error status
      | .ok destination =>
          if !source.live || !destination.live then
            return refuse .ENDPOINT_NOT_LIVE "one of the endpoints is not currently live"
          else
            match ← compatibilityNote config object request.destination with
            | .error status => return .error status
            | .ok note =>
                let id ← newMovementId
                let compatibility ← compatibilityGeneration
                let topology ← topologyGeneration
                let now ← unixMillis
                match created (plannedRecord config id object source destination request
                    compatibility topology now) note with
                | .error status => return .error status
                | .ok record => authorize record note

/-- `submit`. -/
def submit (config : CoordinatorConfig) (request : SubmitMovement) :
    CoordinatorProgram (Result MovementAccepted) := do
  match request.validate with
  | .error status => return .error status
  | .ok () =>
      let announced ← inventoryFind request.objectId
      match checkInventory request announced with
      | .error status => return .error status
      | .ok object =>
          match checkBounds config.policy object with
          | .error status => return .error status
          | .ok () => plan config request object

/-! ## Cancellation -/

/-- Tell the endpoints; their answers are not looked at. -/
def notifyCancel (record : MovementRecord) : List EndpointId -> CoordinatorProgram Unit
  | [] => return ()
  | endpoint :: rest => do
      match ← findLink endpoint with
      | .error _ => notifyCancel record rest
      | .ok link =>
          let notice : CancelRequest := ⟨record.id, record.generation⟩
          let _ ← request link (.cancelAck record.id) notice.frame
          notifyCancel record rest

/-- `cancel`. -/
def cancel (id : MovementId) : CoordinatorProgram (Result MovementRecord) := do
  match ← storeGet id with
  | .error status => return .error status
  | .ok stored =>
      if isTerminal stored.state then
        return .error ⟨.ALREADY_TERMINAL, ascii ("the movement is already " ++ stored.state.name)⟩
      else
        let record := { stored with cancelRequested := true }
        notifyCancel record [record.source, record.destination]
        let now ← unixMillis
        match applyTransition record .CANCELLED
            (.deny .CANCELLED_BY_OPERATOR (ascii "cancelled by the operator")) .CANCELLED now with
        | (_, .error status) => return .error status
        | (cancelled, .ok ()) =>
            match ← storePut cancelled with
            | .error status => return .error status
            | .ok () =>
                count .movementsCancelled
                return .ok cancelled

/-! ## Reconciliation -/

/-- The destination reports a valid marker: the movement is committed. -/
def reconcileCommitted (record : MovementRecord) (report : AuthorityReport) :
    CoordinatorProgram (Result MovementRecord) := do
  let now ← unixMillis
  match applyTransition record .COMMITTED
      (.allow .OK (ascii "reconciliation found a valid commit marker at the destination"))
      .RECONCILED now with
  | (_, .error status) => return .error status
  | (changed, .ok ()) =>
      let committed := { changed with
        commitMarkerDigest := report.markerDigest
        destinationVerifiedDigest := changed.object.contentDigest
        bytesTransferred := changed.object.totalBytes
        chunksVerified := changed.object.chunkCount }
      match ← storePut committed with
      | .error status => return .error status
      | .ok () =>
          count .movementsCommitted
          return .ok committed

/-- The destination reports no marker: the movement did not take effect. -/
def reconcileAbsent (record : MovementRecord) : CoordinatorProgram (Result MovementRecord) := do
  let next := if record.cancelRequested then MovementState.CANCELLED else .FAILED
  let code := if record.cancelRequested then ReasonCode.CANCELLED_BY_OPERATOR
    else .REVALIDATION_REQUIRED
  let now ← unixMillis
  match applyTransition record next
      (.deny code (ascii ("reconciliation proved that no commit marker exists at the " ++
        "destination, so the movement did not take effect"))) .RECONCILED now with
  | (_, .error status) => return .error status
  | (resolved, .ok ()) =>
      match ← storePut resolved with
      | .error status => return .error status
      | .ok () =>
          count (if next = .CANCELLED then .movementsCancelled else .movementsFailed)
          return .ok resolved

/-- `marker_is_mine`. -/
def markerIsMine (report : AuthorityReport) : Bool :=
  report.authoritative && report.verified && report.markerPresent

/-- `reconcile`. -/
def reconcile (id : MovementId) : CoordinatorProgram (Result MovementRecord) := do
  match ← storeGet id with
  | .error status => return .error status
  | .ok record =>
      if record.state ≠ .OUTCOME_UNKNOWN then
        return .error ⟨.MOVEMENT_NOT_RECONCILABLE,
          ascii ("only an OUTCOME_UNKNOWN movement can be reconciled; this one is " ++
            record.state.name)⟩
      else
        count .reconciliations
        match ← findLink record.destination with
        | .error status =>
            return .error ⟨.REVALIDATION_REQUIRED,
              ascii "the destination is not reachable, so the outcome remains unknown: " ++
                status.message⟩
        | .ok link =>
            let query : AuthorityQuery :=
              ⟨record.id, record.object.objectId, record.object.generation⟩
            match ← request link (.authorityReport record.id) query.frame with
            | .error status =>
                return .error ⟨.REVALIDATION_REQUIRED,
                  ascii "the destination did not answer the authority query: " ++ status.message⟩
            | .ok answer =>
                match decodeMessage AuthorityReport.decode answer with
                | .error status => return .error status
                | .ok report =>
                    if report.markerPresent && markerIsMine report then
                      reconcileCommitted record report
                    else if !report.markerPresent then reconcileAbsent record
                    else
                      return refuse .COMMIT_MARKER_INVALID
                        ("a commit marker exists at the destination but its binding does not " ++
                          "verify; the outcome remains unknown")

/-! ## Recovery -/

/-- The transition that recovery makes for a movement that was not finished. -/
def recoveryTransition (stored : MovementRecord) (now : Millis) : MovementRecord × Result Unit :=
  if stored.state = .PLANNED then
    applyTransition stored .FAILED
      (.deny .REVALIDATION_REQUIRED
        (ascii "the coordinator restarted before the movement was authorized")) .FAILED now
  else
    applyTransition stored .OUTCOME_UNKNOWN
      (.deny .REVALIDATION_REQUIRED
        (ascii ("the coordinator restarted while the movement was in flight; the outcome must be " ++
          "reconciled rather than assumed"))) .OUTCOME_UNKNOWN now

/-- The loop over the listed movements. -/
def revisit : List MovementRecord -> CoordinatorProgram Unit
  | [] => return ()
  | stored :: rest =>
      if isTerminal stored.state then revisit rest
      else do
        let now ← unixMillis
        let changed := recoveryTransition stored now
        persistWhen (succeeded changed.2) changed.1
        revisit rest

/-- `recover_after_restart`. -/
def recoverAfterRestart (config : CoordinatorConfig) : CoordinatorProgram Unit := do
  let listed ← storeList config.policy.maxHistoryRecords
  revisit listed

end StateMovementFabric
