import StateMovementFabric.Core.Policy
import StateMovementFabric.Core.Topology
import StateMovementFabric.Core.ChunkPlan
import StateMovementFabric.Wire.Messages
import StateMovementFabric.Foundation.Program

namespace StateMovementFabric

open Foundation

/-!
# What the coordinator asks of its surroundings

Every call of the coordinator works on a private copy of a movement record and
reaches the rest of the world through the operations listed here: the store, the
clock, the id issuer, the links to the endpoints, the topology, the inventory of
announced objects, the compatibility provider, the counters and the work queue.
Each operation is one atomic step; between two of them anything may happen.
-/

/-- The parts of `CoordinatorConfig` that the operations read. -/
structure CoordinatorConfig where
  sharedSecret : Bytes
  policy : MovementPolicy
  verifySampleChunks : UInt32 := 3
  deriving DecidableEq

/-- The policy generation of a running coordinator. -/
def policyGeneration : PolicyGeneration := ⟨1⟩

inductive CompatibilityVerdict where
  | UNKNOWN | SUPPORTED | UNSUPPORTED
  deriving DecidableEq, Repr

def CompatibilityVerdict.name : CompatibilityVerdict -> String
  | UNKNOWN => "UNKNOWN"
  | SUPPORTED => "SUPPORTED"
  | UNSUPPORTED => "UNSUPPORTED"

/-- The fields of `CompatibilityEvidence` that a decision depends on. -/
structure CompatibilityEvidence where
  generation : CompatibilityGeneration
  objectId : StateObjectId
  stateGeneration : StateGeneration
  contentDigest : Digest
  destination : EndpointId
  verdict : CompatibilityVerdict
  deriving DecidableEq

/-- `applies_to`. -/
def CompatibilityEvidence.appliesTo (evidence : CompatibilityEvidence)
    (descriptor : StateObjectDescriptor) (destination : EndpointId) : Bool :=
  evidence.objectId == descriptor.objectId && evidence.stateGeneration == descriptor.generation &&
    evidence.contentDigest == descriptor.contentDigest && evidence.destination == destination

inductive Counter where
  | movementsSubmitted | movementsRejected | movementsCommitted | movementsFailed
  | attemptsFailed | movementsCancelled | movementsSuperseded | reconciliations
  | verificationProbes
  deriving DecidableEq, Repr

/-- A session with an endpoint. -/
abbrev LinkId := Nat

/-- A reserved response slot: the key it waits for, and which reservation it is. -/
structure Future where
  key : PendingKey
  slot : Nat
  deriving DecidableEq

inductive CoordinatorOp where
  | storeGet (id : MovementId)
  | storePut (record : MovementRecord)
  | storeList (limit : UInt32)
  | unixMillis
  | newMovementId
  | newAttemptId
  | newNonce
  | findLink (endpoint : EndpointId)
  | reserve (link : LinkId) (key : PendingKey)
  | release (link : LinkId) (key : PendingKey)
  | push (link : LinkId) (frame : Frame)
  | await (link : LinkId) (future : Future) (what : String)
  | topologyFind (endpoint : EndpointId)
  | topologyGeneration
  | inventoryFind (objectId : StateObjectId)
  | queryCompatibility (object : StateObjectDescriptor) (destination : EndpointId)
  | setCompatibilityGeneration (generation : CompatibilityGeneration)
  | compatibilityGeneration
  | count (counter : Counter)
  | enqueue (id : MovementId)

/-- The replies.  An inventory entry comes with the endpoint that announced it; there
is no compatibility reply when no provider is configured. -/
def CoordinatorOp.Reply : CoordinatorOp -> Type
  | storeGet _ => Result MovementRecord
  | storePut _ => Result Unit
  | storeList _ => List MovementRecord
  | unixMillis => Millis
  | newMovementId => MovementId
  | newAttemptId => TransferAttemptId
  | newNonce => Nonce
  | findLink _ => Result LinkId
  | reserve _ _ => Result Future
  | release _ _ => Unit
  | push _ _ => Result Unit
  | await _ _ _ => Result Frame
  | topologyFind _ => Result EndpointRegistration
  | topologyGeneration => TopologyGeneration
  | inventoryFind _ => Option (StateObjectDescriptor × Option EndpointId)
  | queryCompatibility _ _ => Option (Result CompatibilityEvidence)
  | setCompatibilityGeneration _ => Unit
  | compatibilityGeneration => CompatibilityGeneration
  | count _ => Unit
  | enqueue _ => Unit

/-- What is known of a reply: a record is filed under its own id and listed once, a
reserved slot waits for the key it was reserved for, and a delivered frame has the key
of the slot it is delivered to. -/
def CoordinatorOp.Possible : (op : CoordinatorOp) -> op.Reply -> Prop
  | storeGet id, reply => forall record, reply = .ok record -> record.id = id
  | storeList _, reply => (List.map MovementRecord.id reply).Nodup
  | reserve _ key, reply => forall future, reply = .ok future -> future.key = key
  | await _ future _, reply => forall frame, reply = .ok frame -> pendingKey frame = some future.key
  | _, _ => True

/-- The operations of the coordinator. -/
abbrev coordinatorSignature : Signature :=
  ⟨CoordinatorOp, CoordinatorOp.Reply, CoordinatorOp.Possible⟩

abbrev CoordinatorProgram (α : Type) := Program coordinatorSignature α

abbrev CoordinatorEvent := Event coordinatorSignature

/-! ## The operations as programs -/

/-- Perform one operation. -/
abbrev ask (op : CoordinatorOp) : CoordinatorProgram op.Reply := @Program.call coordinatorSignature op

abbrev storeGet (id : MovementId) : CoordinatorProgram (Result MovementRecord) :=
  ask (.storeGet id)

abbrev storePut (record : MovementRecord) : CoordinatorProgram (Result Unit) :=
  ask (.storePut record)

abbrev storeList (limit : UInt32) : CoordinatorProgram (List MovementRecord) :=
  ask (.storeList limit)

abbrev unixMillis : CoordinatorProgram Millis := ask .unixMillis

abbrev newMovementId : CoordinatorProgram MovementId := ask .newMovementId

abbrev newAttemptId : CoordinatorProgram TransferAttemptId :=
  ask .newAttemptId

abbrev newNonce : CoordinatorProgram Nonce := ask .newNonce

abbrev findLink (endpoint : EndpointId) : CoordinatorProgram (Result LinkId) :=
  ask (.findLink endpoint)

abbrev reserve (link : LinkId) (key : PendingKey) : CoordinatorProgram (Result Future) :=
  ask (.reserve link key)

abbrev release (link : LinkId) (key : PendingKey) : CoordinatorProgram Unit :=
  ask (.release link key)

abbrev push (link : LinkId) (frame : Frame) : CoordinatorProgram (Result Unit) :=
  ask (.push link frame)

abbrev await (link : LinkId) (future : Future) (what : String) :
    CoordinatorProgram (Result Frame) :=
  ask (.await link future what)

abbrev topologyFind (endpoint : EndpointId) : CoordinatorProgram (Result EndpointRegistration) :=
  ask (.topologyFind endpoint)

abbrev topologyGeneration : CoordinatorProgram TopologyGeneration :=
  ask .topologyGeneration

abbrev inventoryFind (objectId : StateObjectId) :
    CoordinatorProgram (Option (StateObjectDescriptor × Option EndpointId)) :=
  ask (.inventoryFind objectId)

abbrev queryCompatibility (object : StateObjectDescriptor) (destination : EndpointId) :
    CoordinatorProgram (Option (Result CompatibilityEvidence)) :=
  ask (.queryCompatibility object destination)

abbrev setCompatibilityGeneration (generation : CompatibilityGeneration) :
    CoordinatorProgram Unit :=
  ask (.setCompatibilityGeneration generation)

abbrev compatibilityGeneration : CoordinatorProgram CompatibilityGeneration :=
  ask .compatibilityGeneration

abbrev count (counter : Counter) : CoordinatorProgram Unit :=
  ask (.count counter)

abbrev enqueue (id : MovementId) : CoordinatorProgram Unit :=
  ask (.enqueue id)

/-- `request`: the slot is reserved before the question is sent. -/
def request (link : LinkId) (key : PendingKey) (frame : Frame) :
    CoordinatorProgram (Result Frame) := do
  match ← reserve link key with
  | .error status => return .error status
  | .ok future =>
      match ← push link frame with
      | .error status =>
          release link key
          return .error status
      | .ok () => await link future frame.type.name

end StateMovementFabric
