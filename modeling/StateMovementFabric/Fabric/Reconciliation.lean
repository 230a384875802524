import StateMovementFabric.Coordinator.Process
import StateMovementFabric.Endpoint.Marks
import StateMovementFabric.Wire.Recognition

namespace StateMovementFabric

open Foundation Wire

/-!
# Which movement a reconciliation finds committed

`reconcile` asks the destination about an object version and takes a marker that
verifies as the marker of the movement it asks for.  The movement that the marker names
is known to `ObjectStore::authority`, but it is not part of the report, and
`marker_is_mine` has nothing to compare.  The marker is the movement's own if every
marker of that version was written for it.
-/

/-! ## A reconciliation with an honest destination -/

/-- The coordinator's store, the destination, and what the destination sent last. -/
structure Inquiry where
  store : OpenStore
  destination : EndpointAgent
  answer : Option Frame := none

namespace Inquiry

/-- What arrives at the coordinator is what the destination sent. -/
def surroundings (environment : Environment) (inquiry : Inquiry) : Environment :=
  { environment with
    arrival := match inquiry.answer with
      | some frame => .frame frame
      | none => .timeout }

/-- A question that is sent is handled by the destination. -/
def respond (environment : Environment) (handling : AgentEnvironment) (inquiry : Inquiry)
    (op : CoordinatorOp) : Inquiry × op.Reply :=
  (match op with
    | .push _ frame =>
        match environment.sent with
        | .ok () =>
            let handled := inquiry.destination.handle handling frame
            { inquiry with destination := handled.1, answer := handled.2.head? }
        | .error _ => inquiry
    | .storePut record => { inquiry with store := (inquiry.store.put record environment.outcomes).1 }
    | _ => inquiry,
    (inquiry.surroundings environment).reply inquiry.store op)

/-- The coordinator's store and the destination after `reconcile`. -/
def reconciled (environment : Environment) (handling : AgentEnvironment) (store : OpenStore)
    (destination : EndpointAgent) (id : MovementId) : Inquiry :=
  (Program.interpret (respond environment handling) ⟨store, destination, none⟩ (reconcile id)).1

/-- If the movement goes from an unknown outcome to committed, the destination holds a
marker of its version that names it. -/
def ClaimsOwnEffect (environment : Environment) (handling : AgentEnvironment) (store : OpenStore)
    (destination : EndpointAgent) (id : MovementId) : Prop :=
  forall before after, store.get id = .ok before -> before.state = .OUTCOME_UNKNOWN ->
    (reconciled environment handling store destination id).store.get id = .ok after ->
    after.state = .COMMITTED -> exists marker,
      (reconciled environment handling store destination id).destination.store.readCommitMarker
        handling.io before.object.version = .ok marker ∧ marker.movementId = id

section Reconcile

variable {environment : Environment} {handling : AgentEnvironment} {store : OpenStore}
  {destination : EndpointAgent} {id : MovementId} {record : MovementRecord}

/-- The question of a reconciliation. -/
abbrev question (record : MovementRecord) : AuthorityQuery :=
  ⟨record.id, record.object.objectId, record.object.generation⟩

/-- An honest destination answers the question with its report, or not at all. -/
theorem answer_question :
    (destination.handle handling (question record).frame).1 = destination ∧
      (((destination.handle handling (question record).frame).2 =
          [(destination.authorityReport handling.io (question record)).frame]) ∨
        exists status : Status, (destination.handle handling (question record).frame).2 =
          [(ErrorMessage.mk status.code status.message).frame]) := by
  have shape : destination.handleControl handling (question record).frame =
      destination.decoding AuthorityQuery.decode (question record).frame fun message =>
        destination.answering (destination.authorityReport handling.io message).frame (.ok ()) :=
    rfl
  rw [EndpointAgent.handle, shape, EndpointAgent.decoding]
  cases decoded : decodeMessage AuthorityQuery.decode (question record).frame with
  | error status => exact ⟨rfl, .inr ⟨status, rfl⟩⟩
  | ok message =>
      rw [AuthorityQuery.eq_of_decode decoded]
      exact ⟨rfl, .inl rfl⟩

/-- A request reaches the destination, or nothing happens at all. -/
theorem interpret_request (inquiry : Inquiry) (link : LinkId) (key : PendingKey) (frame : Frame) :
    (exists status, Program.interpret (respond environment handling) inquiry
        (request link key frame) = (inquiry, .error status)) ∨
      Program.interpret (respond environment handling) inquiry (request link key frame) =
        (⟨inquiry.store, (inquiry.destination.handle handling frame).1,
            (inquiry.destination.handle handling frame).2.head?⟩,
          (surroundings environment ⟨inquiry.store, (inquiry.destination.handle handling frame).1,
            (inquiry.destination.handle handling frame).2.head?⟩).awaited key frame.type.name) := by
  rcases environment with ⟨_, _, _, _, _, _, slot, sent, _⟩
  cases slot with
  | none => exact .inl ⟨_, rfl⟩
  | some slot =>
      cases sent with
      | error status => exact .inl ⟨status, rfl⟩
      | ok delivered => exact .inr rfl

/-- The question is answered with the report of the destination, or the call ends. -/
theorem interpret_question (link : LinkId) :
    exists answer result, Program.interpret (respond environment handling)
        ⟨store, destination, none⟩
        (request link (.authorityReport record.id) (question record).frame) =
        (⟨store, destination, answer⟩, result) ∧
      forall frame, result = .ok frame ->
        frame = (destination.authorityReport handling.io (question record)).frame := by
  rcases interpret_request ⟨store, destination, none⟩ link (.authorityReport record.id)
    (question record).frame with ⟨status, failed⟩ | asked
  · exact ⟨none, .error status, failed, fun _ impossible => by cases impossible⟩
  · rcases answer_question with ⟨same, answers⟩
    rw [same] at asked
    refine ⟨_, _, asked, ?_⟩
    intro frame delivered
    rcases answers with reported | ⟨status, refused⟩
    · rw [reported] at delivered
      change Environment.awaited { environment with arrival := .frame _ } _ _ = _ at delivered
      rw [Environment.awaited] at delivered
      dsimp only at delivered
      split_ifs at delivered
      · cases delivered
        rfl
      · cases delivered
    · rw [refused] at delivered
      cases delivered

theorem destination_reconcileCommitted (inquiry : Inquiry) (report : AuthorityReport) :
    (Program.interpret (respond environment handling) inquiry
      (reconcileCommitted record report)).1.destination = inquiry.destination := by
  rw [reconcileCommitted, Program.interpret_bind]
  split
  · rfl
  · rw [Program.interpret_bind]
    split
    · rfl
    · rfl

/-- Without a marker the movement is not committed. -/
theorem interpret_reconcileAbsent {inquiry : Inquiry} {after : MovementRecord}
    (stored : (Program.interpret (respond environment handling) inquiry
      (reconcileAbsent record)).1.store.get id = .ok after) (committed : after.state = .COMMITTED) :
    inquiry.store.get id = .ok after := by
  rw [reconcileAbsent, Program.interpret_bind] at stored
  split at stored
  · exact stored
  · rename_i resolved applied
    have state := (moved_of_applyTransition applied).state
    have after_put : (inquiry.store.put resolved environment.outcomes).1.get id = .ok after := by
      rw [Program.interpret_bind] at stored
      split at stored
      · exact stored
      · exact stored
    rcases MovementStore.get_put after_put with ⟨_, _, rfl⟩ | ⟨_, kept⟩
    · rw [state] at committed
      split_ifs at committed
    · exact kept

/-- A movement that comes out committed was asked about, and the report showed a marker
that verifies. -/
theorem authoritative_of_reconciled (found : store.get id = .ok record)
    (unknown : record.state = .OUTCOME_UNKNOWN) {after : MovementRecord}
    (stored : (reconciled environment handling store destination id).store.get id = .ok after)
    (committed : after.state = .COMMITTED) :
    (reconciled environment handling store destination id).destination = destination ∧
      (destination.store.authority handling.io record.object.version).authoritative = true := by
  have unmoved : ¬store.get id = .ok after := by
    intro same
    cases found.symm.trans same
    cases unknown.symm.trans committed
  rw [reconciled, reconcile, Program.interpret_bind] at stored ⊢
  have opened : Program.interpret (respond environment handling) ⟨store, destination, none⟩
      (storeGet id) = (⟨store, destination, none⟩, .ok record) := by
    rw [← found]
    rfl
  rw [opened] at stored ⊢
  simp only [unknown, ne_eq, not_true_eq_false, if_false] at stored ⊢
  rw [Program.interpret_bind, Program.interpret_bind] at stored ⊢
  have located : Program.interpret (respond environment handling)
      (Program.interpret (respond environment handling) ⟨store, destination, none⟩
        (count .reconciliations)).1 (findLink record.destination) =
      (⟨store, destination, none⟩, environment.foundLink record.destination) := rfl
  rw [located] at stored ⊢
  cases session : environment.foundLink record.destination with
  | error status =>
      rw [session] at stored
      exact absurd stored unmoved
  | ok link =>
      simp only [session] at stored ⊢
      rw [Program.interpret_bind] at stored ⊢
      rcases interpret_question link with ⟨answer, result, asked, honest⟩
      rw [asked] at stored ⊢
      cases result with
      | error status => exact absurd stored unmoved
      | ok frame =>
          dsimp only at stored ⊢
          cases decoded : decodeMessage AuthorityReport.decode frame with
          | error status =>
              rw [decoded] at stored
              exact absurd stored unmoved
          | ok report =>
              simp only [decoded] at stored ⊢
              split_ifs at stored ⊢ with mine absent
              · refine ⟨destination_reconcileCommitted _ report, ?_⟩
                rw [honest frame rfl] at decoded
                rcases AuthorityReport.marker_of_decode decoded with ⟨-, -, -, authoritative⟩
                have claimed : report.authoritative = true := by
                  rw [markerIsMine] at mine
                  simp only [Bool.and_eq_true] at mine
                  exact mine.2.1.1
                exact authoritative.symm.trans claimed
              · exact absurd (interpret_reconcileAbsent stored committed) unmoved
              · exact absurd stored unmoved

end Reconcile

end Inquiry

/-! ## Whose marker it is -/

/-- At a destination at which every marker of the version was written for the movement,
reconciliation claims the movement's own effect. -/
theorem claimsOwnEffect_of_ownsVersion {destination : EndpointAgent} (vacant : destination.Vacant)
    (actions : List AgentAction) (environment : Environment) (handling : AgentEnvironment)
    (store : OpenStore) (id : MovementId)
    (owned : forall record, store.get id = .ok record ->
      everyStep EndpointAgent.step (EndpointAgent.ownsVersion id record.object.version) destination
        actions = true) :
    Inquiry.ClaimsOwnEffect environment handling store (destination.run actions) id := by
  intro before after found unknown stored committed
  have owns := EndpointAgent.owns_run vacant (owned before found)
  rcases Inquiry.authoritative_of_reconciled found unknown stored committed with
    ⟨same, authoritative⟩
  rcases ObjectStore.authoritative_iff.mp authoritative with ⟨marker, _, read, _⟩
  rw [same]
  exact ⟨marker, read, owns.movementId_of_read read⟩

/-- The signed grant of the first attempt at the smallest movement. -/
def oneByteGrant : TransferGrant :=
  let unsigned := grantFor (oneByteMovement .AUTHORIZED) (.filled 5) (.filled 6) 1
  valueOr unsigned (unsigned.sign (ascii "secret"))

/-- The destination receives the smallest movement and commits it. -/
def ownCommit : List AgentAction :=
  [.handle {} (GrantTransfer.mk oneByteGrant).frame,
    .handle {} (ExecuteMovement.mk (.filled 1) ⟨3⟩ (.filled 5)
      (FixedId.asDigest (.filled 6 : Nonce)) endpointA).frame,
    .transferEnds {} 0 (.ok [1]),
    .handle {} (CommitRequest.mk (.filled 1) ⟨5⟩ (.filled 5) oneByteObject endpointA).frame]

/-- A network that delivers every message. -/
def reachable : Environment := { link := some 0, slot := some 0 }

theorem claimsOwnEffect_ownCommit :
    everyStep EndpointAgent.step (EndpointAgent.ownsVersion (.filled 1) oneByteObject.version)
        EndpointAgent.newAgent ownCommit = true ∧
      Inquiry.ClaimsOwnEffect reachable {} (storeHolding (oneByteMovement .OUTCOME_UNKNOWN))
        (EndpointAgent.newAgent.run ownCommit) (.filled 1) := by
  have owned : everyStep EndpointAgent.step
      (EndpointAgent.ownsVersion (.filled 1) oneByteObject.version) EndpointAgent.newAgent
      ownCommit = true := by decide +kernel
  have holds : ((storeHolding (oneByteMovement .OUTCOME_UNKNOWN)).get (.filled 1)).map
      (fun record => record.object.version) = .ok oneByteObject.version := by decide +kernel
  refine ⟨owned, claimsOwnEffect_of_ownsVersion EndpointAgent.vacant_newAgent ownCommit reachable
    {} _ _ ?_⟩
  intro record found
  rw [found] at holds
  have version : record.object.version = oneByteObject.version := Except.ok.inj holds
  rw [version]
  exact owned

/-- The destination has published the version itself: the marker of the publication is taken
for the movement's. -/
theorem not_claimsOwnEffect_published :
    ¬Inquiry.ClaimsOwnEffect reachable {} (storeHolding (oneByteMovement .OUTCOME_UNKNOWN))
      (EndpointAgent.newAgent.run [EndpointAgent.publishing [1]]) (.filled 1) := by
  intro claims
  have commits : (storeHolding (oneByteMovement .OUTCOME_UNKNOWN)).get (.filled 1) =
      .ok (oneByteMovement .OUTCOME_UNKNOWN) ∧
      ((Inquiry.reconciled reachable {} (storeHolding (oneByteMovement .OUTCOME_UNKNOWN))
        (EndpointAgent.newAgent.run [EndpointAgent.publishing [1]]) (.filled 1)).store.get
        (.filled 1)).map MovementRecord.state = .ok .COMMITTED := by
    decide +kernel
  rcases map_eq_ok.mp commits.2 with ⟨after, stored, committed⟩
  rcases claims _ after commits.1 rfl stored committed with ⟨marker, read, mine⟩
  have same := (Inquiry.authoritative_of_reconciled commits.1 rfl stored committed).1
  rw [same] at read
  have owned : everyStep EndpointAgent.step
      (EndpointAgent.ownsVersion (.filled 3) oneByteObject.version) EndpointAgent.newAgent
      [EndpointAgent.publishing [1]] = true := by decide +kernel
  have published := (EndpointAgent.owns_run EndpointAgent.vacant_newAgent owned).movementId_of_read
    read
  exact absurd (mine.symm.trans published) (by decide)

end StateMovementFabric
