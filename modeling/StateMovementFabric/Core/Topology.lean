import StateMovementFabric.Core.Ids

namespace StateMovementFabric

/-!
# Endpoints that are registered

What the coordinator knows of an endpoint that has registered with it.
-/

/-- `SocketAddress`. -/
structure SocketAddress where
  host : Text
  port : UInt16
  deriving DecidableEq, Inhabited

structure EndpointRegistration where
  endpoint : EndpointId
  incarnation : EndpointIncarnation
  serviceAddress : SocketAddress := default
  dataAddress : SocketAddress := default
  contract : Text := []
  capabilityDigest : Digest := .zero
  registeredUnixMillis : Millis := 0
  live : Bool
  deriving DecidableEq

namespace EndpointRegistration

/-- `validate`. -/
def validate (registration : EndpointRegistration) : Result Unit := do
  refuseWhen registration.endpoint.isEmpty .INVALID_ID
    "endpoint registration requires an endpoint id"
  refuseWhen (!registration.incarnation.isSet) .STALE_INCARNATION
    "endpoint registration requires a complete incarnation"
  refuseWhen (registration.incarnation.endpoint != registration.endpoint) .STALE_INCARNATION
    "endpoint registration incarnation names a different endpoint"
  refuseWhen (registration.serviceAddress.port == 0) .INVALID_ADDRESS
    "endpoint registration requires a service port"
  refuseWhen (registration.dataAddress.port == 0) .INVALID_ADDRESS
    "endpoint registration requires a data port"
  refuseWhen (registration.contract.isEmpty || registration.contract.length > kMaxTextBytes)
    .ENDPOINT_CONTRACT_MISMATCH "endpoint registration requires a bounded contract string"
  refuseWhen registration.capabilityDigest.isZero .INVALID_DIGEST
    "endpoint registration requires a capability digest"

end EndpointRegistration

end StateMovementFabric
