import StateMovementFabric.Store.FailedAppends
import StateMovementFabric.Coordinator.LegalHistories
import StateMovementFabric.Wire.Channel
import StateMovementFabric.Fabric.Reconciliation
import StateMovementFabric.Endpoint.Cancellation
import StateMovementFabric.Coordinator.Completions
import StateMovementFabric.Coordinator.Restart
import StateMovementFabric.Wire.Streams
import StateMovementFabric.Coordinator.Supersession
import StateMovementFabric.Endpoint.WriteOnce
import StateMovementFabric.Coordinator.Compatibility
import StateMovementFabric.Endpoint.ChunkBounds
import StateMovementFabric.Endpoint.SingleUse
import StateMovementFabric.Coordinator.Retries
import StateMovementFabric.Coordinator.Refusals
import StateMovementFabric.Core.Utf8
import StateMovementFabric.Core.Creation
import StateMovementFabric.Core.Sampling
import StateMovementFabric.Endpoint.FilePositions
import StateMovementFabric.Endpoint.Journals
import StateMovementFabric.Coordinator.TopologyIndex
