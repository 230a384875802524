import StateMovementFabric.Coordinator.Sessions
import StateMovementFabric.Coordinator.Process

namespace StateMovementFabric

open Foundation

/-!
# The coordinator with its sessions

The calls of the coordinator and its session threads meet in the topology, the links
and the inventory.  What a call reads of these is what the sessions have made of them;
everything else around a call is left open as before.  The listeners accept no session
before recovery is over.
-/

structure ControlPlane where
  coordinator : Coordinator
  table : SessionTable
  incarnation : EndpointIncarnation

inductive PlaneAction where
  | session (action : ControlAction)
  | submit (request : SubmitMovement)
  | cancel (id : MovementId)
  | reconcile (id : MovementId)
  | pickUp
  | run (index : Nat) (environment : Environment)

/-- The surroundings of an operation, with what the session table decides of them. -/
def SessionTable.surround (table : SessionTable) (environment : Environment) :
    CoordinatorOp -> Environment
  | .findLink endpoint =>
      { environment with
        link := (table.links endpoint).filter fun link => (table.running link).isSome }
  | .topologyFind endpoint => { environment with registration := table.topology.lookup endpoint }
  | .topologyGeneration => { environment with topology := table.topology.generation }
  | .inventoryFind objectId =>
      { environment with
        announced := (table.inventory objectId).map fun entry => (entry.1, some entry.2) }
  | _ => environment

namespace ControlPlane

/-- What the session threads read of the coordinator. -/
def control (config : CoordinatorConfig) (plane : ControlPlane) : ControlConfig where
  policy := ⟨policyGeneration, config.policy⟩
  incarnation := plane.incarnation

/-- The surroundings of the next operation of a thread. -/
def around (plane : ControlPlane) (index : Nat) (environment : Environment) : Environment :=
  match plane.coordinator.performing index with
  | some (_, op) => plane.table.surround environment op
  | none => environment

/-- The action of the process that an action of the whole is. -/
def processAction (plane : ControlPlane) : PlaneAction -> Option Action
  | .session _ => none
  | .submit request => some (.submit request)
  | .cancel id => some (.cancel id)
  | .reconcile id => some (.reconcile id)
  | .pickUp => some .pickUp
  | .run index environment => some (.run index (plane.around index environment))

/-- The session table after an action. -/
def tableAfter (config : CoordinatorConfig) (plane : ControlPlane) : PlaneAction -> SessionTable
  | .session action =>
      if plane.coordinator.recovering then plane.table
      else plane.table.step (plane.control config) action
  | _ => plane.table

/-- One step of the whole. -/
def step (config : CoordinatorConfig) (plane : ControlPlane) (action : PlaneAction) :
    ControlPlane where
  coordinator :=
    match plane.processAction action with
    | some action => plane.coordinator.step config action
    | none => plane.coordinator
  table := plane.tableAfter config action
  incarnation := plane.incarnation

end ControlPlane

end StateMovementFabric
