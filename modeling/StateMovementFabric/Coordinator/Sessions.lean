import StateMovementFabric.Coordinator.TopologyView
import StateMovementFabric.Coordinator.Surroundings
import StateMovementFabric.Wire.AdminMessages
import StateMovementFabric.Foundation.Runs
import Mathlib.Logic.Function.Basic

namespace StateMovementFabric

open Foundation Wire

/-!
# Control sessions

An endpoint opens a control session with a hello that authenticates who it is.  Over
the session it then registers, which makes it live in the topology and makes the
session its link, and it announces objects.  What it registers as is taken from the
registration alone.
-/

/-- The part of `PeerIdentity` that a registration repeats. -/
structure PeerIdentity where
  endpoint : EndpointId
  boot : BootId
  epoch : IncarnationEpoch
  deriving DecidableEq

/-- `ControlLink`: what the hello authenticated, and whether the session still runs. -/
structure ControlLink where
  identity : PeerIdentity
  alive : Bool := true
  deriving DecidableEq

/-- The objects that were announced, each with the endpoint that announced it. -/
abbrev Inventory := StateObjectId -> Option (StateObjectDescriptor × EndpointId)

/-- What the session threads of one coordinator share.  A link is a place in `sessions`.
`registrant` and `claimed` are not data of the process: they record over which session
the registration of an endpoint was made, and the identity with which its link was. -/
structure SessionTable where
  topology : TopologyView
  links : EndpointId -> Option LinkId
  inventory : Inventory
  sessions : List ControlLink
  registrant : EndpointId -> Option LinkId
  claimed : EndpointId -> Option PeerIdentity

/-- What the handlers read of the coordinator. -/
structure ControlConfig where
  policy : PolicySet
  incarnation : EndpointIncarnation
  ioBudgetMillis : Millis := 30000

def kPeerContract : Text := ascii "smf.peer.v1"

/-- `PolicySet::digest`. -/
def PolicySet.digest (set : PolicySet) : Digest :=
  canonicalDigest (domain "SMF-POLICY-SET-v1" ++ set.encode)

/-! ## The handlers -/

/-- The rule for announcements: a newer generation of the object is never displaced. -/
def Inventory.announce (inventory : Inventory) (descriptor : StateObjectDescriptor)
    (announcer : EndpointId) : Inventory × AnnounceAck :=
  match inventory descriptor.objectId with
  | some (known, _) =>
      if known.generation.value > descriptor.generation.value then
        (inventory, ⟨.STALE_STATE_GENERATION,
          ascii "a newer generation of this object is already announced"⟩)
      else
        (Function.update inventory descriptor.objectId (some (descriptor, announcer)),
          ⟨.OK, ascii "announced"⟩)
  | none =>
      (Function.update inventory descriptor.objectId (some (descriptor, announcer)),
        ⟨.OK, ascii "announced"⟩)

/-- The identity that a registration claims. -/
def PeerIdentityHint.claim (hint : PeerIdentityHint) : PeerIdentity :=
  ⟨hint.endpoint, hint.boot, hint.epoch⟩

/-- The checks on a registration, with those of `EndpointIncarnation::make`. -/
def RegisterRequest.check (message : RegisterRequest) : Result Unit := do
  let hint := message.identity
  refuseWhen (hint.contract != kPeerContract) .ENDPOINT_CONTRACT_MISMATCH
    "the endpoint speaks a different peer contract"
  refuseWhen (hint.endpoint.value == ascii "local-origin") .INVALID_ID
    "that endpoint name is reserved"
  refuseWhen (!hint.epoch.isSet) .INVALID_GENERATION "incarnation epoch must be non-zero"
  refuseWhen hint.endpoint.isEmpty .INVALID_ID "incarnation endpoint must not be empty"
  refuseWhen hint.boot.isZero .INVALID_ID "incarnation boot id must not be zero"

/-- The registration that a request leads to. -/
def RegisterRequest.registration (message : RegisterRequest) (now : Millis) :
    EndpointRegistration where
  endpoint := message.identity.endpoint
  incarnation := ⟨message.identity.endpoint, message.identity.boot, message.identity.epoch⟩
  serviceAddress := message.serviceAddress
  dataAddress := message.dataAddress
  contract := message.identity.contract
  capabilityDigest := message.identity.capabilityDigest
  registeredUnixMillis := now
  live := true

/-- The answer to a registration. -/
def ControlConfig.registerAck (config : ControlConfig) (generation : TopologyGeneration) :
    RegisterAck where
  topologyGeneration := generation
  policyGeneration := config.policy.generation
  coordinator := config.incarnation
  policyDigest := config.policy.digest
  maxInflightChunks := config.policy.policy.maxInflightChunks
  maxChunkBytes := config.policy.policy.maxChunkBytes
  maxObjectBytes := config.policy.policy.maxObjectBytes
  ioBudgetMillis := (min config.ioBudgetMillis 3600000).toInt.toNat.toUInt32
  transferBudgetMillis := config.policy.policy.transferBudgetMillis

namespace SessionTable

/-- The table of a coordinator that has just recovered. -/
def recovered (topology : TopologyView) : SessionTable :=
  ⟨topology, fun _ => none, fun _ => none, [], fun _ => none, fun _ => none⟩

/-- `REGISTER`.  The registration is in the topology before its generation advances, and
the link is entered last. -/
def onRegister (config : ControlConfig) (table : SessionTable) (link : LinkId) (now : Millis)
    (message : RegisterRequest) : SessionTable × List Frame × Result Unit :=
  let endpoint := message.identity.endpoint
  match (do
      message.check
      table.topology.put (message.registration now) config.policy.policy.maxEndpoints) with
  | .error status => (table, [], .error status)
  | .ok topology =>
      let entered := { table with
        topology := topology
        registrant := Function.update table.registrant endpoint (some link) }
      match topology.advance with
      | .error status => (entered, [], .error status)
      | .ok advanced =>
          ({ entered with
              topology := advanced
              links := Function.update table.links endpoint (some link)
              claimed := Function.update table.claimed endpoint (some message.identity.claim) },
            [⟨.REGISTER_ACK, (config.registerAck advanced.generation).encode⟩], .ok ())

/-- `topology_report`. -/
def topologyReport (config : ControlConfig) (table : SessionTable) : TopologyReport :=
  ⟨table.topology.generation, config.incarnation, table.topology.endpoints⟩

/-- Decode a message and hand it to its handler. -/
def decoding {α : Type} (table : SessionTable) (decode : Decode α) (frame : Frame)
    (handler : α -> SessionTable × List Frame × Result Unit) :
    SessionTable × List Frame × Result Unit :=
  match decodeMessage decode frame with
  | .error status => (table, [], .error status)
  | .ok message => handler message

/-- `handle_endpoint_message`: the table it leaves, the answers and the status. -/
def handleEndpointMessage (config : ControlConfig) (table : SessionTable) (link : LinkId)
    (announcer : EndpointId) (now : Millis) (frame : Frame) :
    SessionTable × List Frame × Result Unit :=
  match frame.type with
  | .REGISTER => table.decoding RegisterRequest.decode frame (table.onRegister config link now)
  | .ANNOUNCE_OBJECT =>
      table.decoding AnnounceObject.decode frame fun message =>
        let announced := table.inventory.announce message.descriptor announcer
        ({ table with inventory := announced.1 },
          [⟨.ANNOUNCE_ACK, AnnounceAck.encode announced.2⟩], .ok ())
  | .TOPOLOGY_REQUEST =>
      table.decoding TopologyRequest.decode frame fun _ =>
        (table, [⟨.TOPOLOGY_REPORT, (table.topologyReport config).encode⟩], .ok ())
  | .POLICY_REQUEST =>
      table.decoding PolicyRequest.decode frame fun _ =>
        let report : PolicyReport := ⟨config.policy, config.policy.digest⟩
        (table, [⟨.POLICY_REPORT, report.encode⟩], .ok ())
  | .HEARTBEAT => (table, [⟨.HEARTBEAT_ACK, domain "SMF-MSG-HEARTBEAT-ACK-v1"⟩], .ok ())
  | .ERROR | .ATTEMPT_RESULT | .COMMIT_RESULT | .VERIFY_RESPONSE | .AUTHORITY_REPORT
  | .CLEANUP_RESULT | .CANCEL_ACK | .GRANT_ACK => (table, [], .ok ())
  | type =>
      (table, [], refuse .PROTOCOL_UNKNOWN_MESSAGE
        ("the coordinator does not accept " ++ type.name ++ " from an endpoint session"))

end SessionTable

inductive ControlAction where
  | opens (identity : PeerIdentity)
  | receives (link : LinkId) (now : Millis) (frame : Frame)
  | ends (link : LinkId)

namespace SessionTable

/-- The end of `session_loop`: the links of the session go, and its endpoint is dead. -/
def endSession (table : SessionTable) (link : LinkId) (session : ControlLink) : SessionTable :=
  { table with
    sessions := table.sessions.set link { session with alive := false }
    links := fun endpoint => if table.links endpoint = some link then none else table.links endpoint
    topology := (table.topology.markDead session.identity.endpoint).1 }

/-- The session of a link that still runs. -/
def running (table : SessionTable) (link : LinkId) : Option ControlLink :=
  table.sessions[link]?.filter ControlLink.alive

/-- One step of the session threads. -/
def step (config : ControlConfig) (table : SessionTable) : ControlAction -> SessionTable
  | .opens identity => { table with sessions := table.sessions ++ [⟨identity, true⟩] }
  | .receives link now frame =>
      match table.running link with
      | none => table
      | some session =>
          (table.handleEndpointMessage config link session.identity.endpoint now frame).1
  | .ends link =>
      match table.running link with
      | none => table
      | some session => table.endSession link session

/-- The registration that an action makes: its session and its request. -/
def registers (table : SessionTable) : ControlAction -> Option (ControlLink × RegisterRequest)
  | .receives link _ frame =>
      if frame.type = .REGISTER then
        (table.running link).bind fun session =>
          (decodeMessage RegisterRequest.decode frame).toOption.map fun message =>
            (session, message)
      else none
  | _ => none

/-! ## What a step can do -/

/-- The session and the message of a step that changes the topology by a registration. -/
structure Registering (config : ControlConfig) (table : SessionTable) (link : LinkId)
    (now : Millis) (frame : Frame) (session : ControlLink) (message : RegisterRequest)
    (topology : TopologyView) : Prop where
  runs : table.running link = some session
  type : frame.type = .REGISTER
  decoded : decodeMessage RegisterRequest.decode frame = .ok message
  put : table.topology.put (message.registration now) config.policy.policy.maxEndpoints =
    .ok topology

/-- What a step can do to the topology, the links and the sessions. -/
inductive Steps (config : ControlConfig) (table : SessionTable) :
    ControlAction -> SessionTable -> Prop where
  | opens (identity : PeerIdentity) :
      Steps config table (.opens identity)
        { table with sessions := table.sessions ++ [⟨identity, true⟩] }
  | keeps (action : ControlAction) (inventory : Inventory) :
      Steps config table action { table with inventory := inventory }
  | enters (link : LinkId) (now : Millis) (frame : Frame) (session : ControlLink)
      (message : RegisterRequest) (topology : TopologyView)
      (registering : Registering config table link now frame session message topology)
      (status : Status) (exhausted : topology.advance = .error status) :
      Steps config table (.receives link now frame) { table with
        topology := topology
        registrant := Function.update table.registrant message.identity.endpoint (some link) }
  | registers (link : LinkId) (now : Millis) (frame : Frame) (session : ControlLink)
      (message : RegisterRequest) (topology advanced : TopologyView)
      (registering : Registering config table link now frame session message topology)
      (advances : topology.advance = .ok advanced) :
      Steps config table (.receives link now frame) { table with
        topology := advanced
        registrant := Function.update table.registrant message.identity.endpoint (some link)
        links := Function.update table.links message.identity.endpoint (some link)
        claimed := Function.update table.claimed message.identity.endpoint
          (some message.identity.claim) }
  | ends (link : LinkId) (session : ControlLink) (runs : table.running link = some session) :
      Steps config table (.ends link) (table.endSession link session)

variable {frame : Frame} {message : RegisterRequest} {now : Millis} {config : ControlConfig}
  {topology : TopologyView}

theorem onRegister_steps {table : SessionTable} {link : LinkId} {session : ControlLink}
    (runs : table.running link = some session) (type : frame.type = .REGISTER)
    (decoded : decodeMessage RegisterRequest.decode frame = .ok message) :
    Steps config table (.receives link now frame) (table.onRegister config link now message).1 := by
  unfold onRegister
  dsimp only
  split
  · exact .keeps _ table.inventory
  · rename_i topology checked
    rcases check_bind_eq_ok.mp checked with ⟨-, put⟩
    split
    · rename_i status exhausted
      exact .enters link now frame session message topology ⟨runs, type, decoded, put⟩ status exhausted
    · rename_i advanced advances
      exact .registers link now frame session message topology advanced
        ⟨runs, type, decoded, put⟩ advances

theorem handleEndpointMessage_steps {table : SessionTable} {link : LinkId} {session : ControlLink}
    (runs : table.running link = some session) :
    Steps config table (.receives link now frame)
      (table.handleEndpointMessage config link session.identity.endpoint now frame).1 := by
  have same : Steps config table (.receives link now frame) table := .keeps _ table.inventory
  unfold handleEndpointMessage
  split
  · rename_i type
    unfold decoding
    split
    · exact same
    · rename_i message decoded
      exact onRegister_steps runs type decoded
  · unfold decoding
    split
    · exact same
    · exact .keeps _ _
  · unfold decoding
    split <;> exact same
  · unfold decoding
    split <;> exact same
  all_goals exact same

theorem step_steps (config : ControlConfig) (table : SessionTable) (action : ControlAction) :
    Steps config table action (table.step config action) := by
  have same : Steps config table action table := .keeps action table.inventory
  cases action with
  | opens identity => exact .opens identity
  | receives link now frame =>
      unfold step
      dsimp only
      split
      · exact same
      · rename_i session runs
        exact handleEndpointMessage_steps runs
  | ends link =>
      unfold step
      dsimp only
      split
      · exact same
      · rename_i session runs
        exact .ends link session runs

theorem registers_of_registering {table : SessionTable} {link : LinkId} {session : ControlLink}
    (registering : Registering config table link now frame session message topology) :
    table.registers (.receives link now frame) = some (session, message) := by
  rw [registers, if_pos registering.type, registering.runs, registering.decoded]
  rfl

theorem Registering.lookup {table : SessionTable} {link : LinkId} {session : ControlLink}
    (registering : Registering config table link now frame session message topology)
    (endpoint : EndpointId) :
    topology.lookup endpoint =
      if endpoint = message.identity.endpoint then some (message.registration now)
      else table.topology.lookup endpoint :=
  (TopologyView.put_eq_ok registering.put).2 endpoint

/-- The topology generation never falls. -/
theorem Steps.generation_le {table next : SessionTable} {action : ControlAction}
    (steps : Steps config table action next) :
    table.topology.generation.value ≤ next.topology.generation.value := by
  cases steps with
  | opens _ => exact UInt64.le_refl _
  | keeps _ _ => exact UInt64.le_refl _
  | enters link now frame session message topology registering status exhausted =>
      rw [← (TopologyView.put_eq_ok registering.put).1]
      exact UInt64.le_refl _
  | registers link now frame session message topology advanced registering advances =>
      rw [← (TopologyView.put_eq_ok registering.put).1, UInt64.le_iff_toNat_le,
        (TopologyView.advance_eq_ok advances).1]
      exact Nat.le_succ _
  | ends link session runs =>
      exact table.topology.generation_markDead_le session.identity.endpoint

theorem running_eq_some {table : SessionTable} {link : LinkId} {session : ControlLink} :
    table.running link = some session ↔
      table.sessions[link]? = some session ∧ session.alive = true := by
  rw [running, Option.filter_eq_some_iff]

/-! ## What the operations leave of the sessions -/

section Frames

variable {table : SessionTable} {link other : LinkId} {session : ControlLink}

/-- Who opened a session. -/
def identityOf (table : SessionTable) (link : LinkId) : Option PeerIdentity :=
  table.sessions[link]?.map ControlLink.identity

theorem identityOf_of_running (runs : table.running link = some session) :
    table.identityOf link = some session.identity := by
  rw [identityOf, (running_eq_some.mp runs).1]
  rfl

theorem running_opens (identity : PeerIdentity) (runs : table.running link = some session) :
    running { table with sessions := table.sessions ++ [⟨identity, true⟩] } link = some session := by
  rcases running_eq_some.mp runs with ⟨located, alive⟩
  refine running_eq_some.mpr ⟨?_, alive⟩
  exact (List.getElem?_append_left (List.getElem?_eq_some_iff.mp located).1).trans located

theorem identityOf_opens (identity : PeerIdentity) {known : PeerIdentity}
    (opened : table.identityOf link = some known) :
    identityOf { table with sessions := table.sessions ++ [⟨identity, true⟩] } link =
      some known := by
  rcases Option.map_eq_some_iff.mp opened with ⟨session, located, named⟩
  refine Option.map_eq_some_iff.mpr ⟨session, ?_, named⟩
  exact (List.getElem?_append_left (List.getElem?_eq_some_iff.mp located).1).trans located

theorem running_endSession (different : other ≠ link) :
    (table.endSession link session).running other = table.running other := by
  unfold running endSession
  rw [List.getElem?_set_ne (Ne.symm different)]

theorem identityOf_endSession (runs : table.running link = some session) (other : LinkId) :
    (table.endSession link session).identityOf other = table.identityOf other := by
  unfold identityOf endSession
  by_cases here : other = link
  · subst here
    have located := (running_eq_some.mp runs).1
    rw [List.getElem?_set_self (List.getElem?_eq_some_iff.mp located).1, located]
    rfl
  · rw [List.getElem?_set_ne (Ne.symm here)]

end Frames

end SessionTable

end StateMovementFabric
