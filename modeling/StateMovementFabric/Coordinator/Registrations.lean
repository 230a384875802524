import StateMovementFabric.Coordinator.Sessions
import StateMovementFabric.Coordinator.Process

namespace StateMovementFabric

open Foundation Wire

/-!
# Registrations and the sessions that made them

Two maps say which endpoints can be reached: the topology marks an endpoint live, and
the links name the session over which it is reached.  A session that ends removes the
links that name it, but it marks dead the endpoint it was opened by.  A registration is
entered under the name it claims, which need not be the name of the session.
-/

namespace SessionTable

variable {config : ControlConfig} {table : SessionTable} {action : ControlAction}

/-! ## Live endpoints and links -/

/-- An endpoint is live exactly when its link is a session that has not ended. -/
def LivenessMatches (table : SessionTable) : Prop :=
  forall endpoint,
    (exists registration, table.topology.lookup endpoint = some registration ∧
      registration.live = true) ↔
    exists link session, table.links endpoint = some link ∧ table.running link = some session

/-- A registration names the endpoint that opened the session. -/
def namesItself (table : SessionTable) (action : ControlAction) : Bool :=
  (table.registers action).all fun request =>
    request.2.identity.endpoint == request.1.identity.endpoint

/-- A session ends only while no other session is the link of its endpoint, and an
endpoint registers only while the topology generation has a successor. -/
def endsInOrder (table : SessionTable) (action : ControlAction) : Bool :=
  match action with
  | .ends link =>
      (table.running link).all fun session =>
        (table.links session.identity.endpoint).all (· == link)
  | action =>
      (table.registers action).isNone || table.topology.generation.value != 18446744073709551615

/-- The link of an endpoint is a running session of that endpoint, and the endpoints with
a link are the live ones. -/
structure Matched (table : SessionTable) : Prop where
  linked : forall endpoint link, table.links endpoint = some link ->
    exists session, table.running link = some session ∧ session.identity.endpoint = endpoint
  live : forall endpoint,
    (exists registration, table.topology.lookup endpoint = some registration ∧
      registration.live = true) ↔ (table.links endpoint).isSome = true

theorem Matched.livenessMatches (matched : Matched table) : LivenessMatches table := by
  intro endpoint
  rw [matched.live endpoint, Option.isSome_iff_exists]
  constructor
  · rintro ⟨link, linked⟩
    rcases matched.linked endpoint link linked with ⟨session, runs, -⟩
    exact ⟨link, session, linked, runs⟩
  · rintro ⟨link, session, linked, -⟩
    exact ⟨link, linked⟩

variable {topology advanced : TopologyView} {frame : Frame} {link : LinkId}
  {message : RegisterRequest} {now : Millis} {session : ControlLink} {next : SessionTable}

theorem matched_recovered (empty : topology.endpoints = []) :
    Matched (recovered topology) := by
  constructor
  · intro endpoint link linked
    cases linked
  · intro endpoint
    constructor
    · rintro ⟨registration, found, -⟩
      change topology.endpoints.find? _ = _ at found
      rw [empty] at found
      cases found
    · intro linked
      cases linked

theorem Matched.opens (matched : Matched table) (identity : PeerIdentity) :
    Matched { table with sessions := table.sessions ++ [⟨identity, true⟩] } := by
  refine ⟨fun endpoint link linked => ?_, matched.live⟩
  rcases matched.linked endpoint link linked with ⟨session, runs, named⟩
  exact ⟨session, running_opens identity runs, named⟩

/-- A registration over a session of its own endpoint makes the endpoint live and the
session its link. -/
theorem Matched.registers (matched : Matched table)
    (registering : Registering config table link now frame session message topology)
    (advances : topology.advance = .ok advanced)
    (own : session.identity.endpoint = message.identity.endpoint)
    (registrant : EndpointId -> Option LinkId) (claimed : EndpointId -> Option PeerIdentity) :
    Matched { table with
      topology := advanced
      registrant := registrant
      links := Function.update table.links message.identity.endpoint (some link)
      claimed := claimed } := by
  constructor
  · intro endpoint other linked
    change Function.update _ _ _ _ = _ at linked
    by_cases here : endpoint = message.identity.endpoint
    · subst here
      rw [Function.update_self] at linked
      cases linked
      exact ⟨session, registering.runs, own⟩
    · rw [Function.update_of_ne here] at linked
      exact matched.linked endpoint other linked
  · intro endpoint
    change (exists registration, advanced.lookup endpoint = _ ∧ _) ↔
      (Function.update table.links _ _ _).isSome = true
    rw [TopologyView.lookup_advance advances, registering.lookup]
    by_cases here : endpoint = message.identity.endpoint
    · subst here
      rw [Function.update_self]
      exact ⟨fun _ => rfl, fun _ => ⟨message.registration now, if_pos rfl, rfl⟩⟩
    · rw [Function.update_of_ne here, if_neg here]
      exact matched.live endpoint

/-- The end of a session keeps the match when no other session is the link of its
endpoint. -/
theorem Matched.ends (matched : Matched table) (runs : table.running link = some session)
    (last : forall other, table.links session.identity.endpoint = some other -> other = link) :
    Matched (table.endSession link session) := by
  constructor
  · intro endpoint other linked
    change (if table.links endpoint = some link then none else table.links endpoint) = _ at linked
    split at linked
    · cases linked
    · rename_i different
      rcases matched.linked endpoint other linked with ⟨found, foundRuns, named⟩
      have apart : other ≠ link := by
        rintro rfl
        exact different linked
      exact ⟨found, (running_endSession apart).trans foundRuns, named⟩
  · intro endpoint
    change (exists registration, (table.topology.markDead _).1.lookup endpoint = _ ∧ _) ↔
      (if table.links endpoint = some link then none else table.links endpoint).isSome = true
    rw [TopologyView.lookup_markDead]
    by_cases here : endpoint = session.identity.endpoint
    · subst here
      rw [if_pos rfl]
      constructor
      · rintro ⟨registration, dead, live⟩
        rcases Option.map_eq_some_iff.mp dead with ⟨slot, -, rfl⟩
        cases live
      · intro linked
        split at linked
        · cases linked
        · rename_i different
          rcases Option.isSome_iff_exists.mp linked with ⟨other, entry⟩
          exact absurd (last other entry ▸ entry) different
    · rw [if_neg here, matched.live endpoint]
      have kept : table.links endpoint ≠ some link := by
        intro linked
        rcases matched.linked endpoint link linked with ⟨found, foundRuns, named⟩
        rw [runs] at foundRuns
        cases foundRuns
        exact here named.symm
      rw [if_neg kept]

theorem Matched.steps (matched : Matched table) (steps : Steps config table action next)
    (named : table.namesItself action = true) (ordered : table.endsInOrder action = true) :
    Matched next := by
  cases steps with
  | opens identity => exact matched.opens identity
  | keeps _ inventory => exact ⟨matched.linked, matched.live⟩
  | enters link now frame session message topology registering status exhausted =>
      have last := TopologyView.generation_of_advance_error exhausted
      rw [(TopologyView.put_eq_ok registering.put).1] at last
      unfold endsInOrder at ordered
      dsimp only at ordered
      rw [registers_of_registering registering, last] at ordered
      cases ordered
  | registers link now frame session message topology advanced registering advances =>
      unfold namesItself at named
      rw [registers_of_registering registering] at named
      exact matched.registers registering advances (beq_iff_eq.mp named).symm _ _
  | ends link session runs =>
      unfold endsInOrder at ordered
      dsimp only at ordered
      rw [runs] at ordered
      refine matched.ends runs fun other linked => ?_
      have same : (table.links session.identity.endpoint).all (· == link) = true := ordered
      rw [linked] at same
      exact beq_iff_eq.mp same

/-- In every run of sessions that register their own endpoint, in which a session ends
only while no other session is the link of its endpoint and the topology generation is
never exhausted, an endpoint is live exactly when its link is a session that has not
ended. -/
theorem livenessMatches_of_endsInOrder (config : ControlConfig) (topology : TopologyView)
    (empty : topology.endpoints = []) (actions : List ControlAction)
    (own : everyStep (step config) namesItself (recovered topology) actions = true)
    (ordered : everyStep (step config) endsInOrder (recovered topology) actions = true) :
    LivenessMatches (runFrom (step config) (recovered topology) actions) := by
  have matched : Matched (runFrom (step config) (recovered topology) actions) :=
    runFrom_invariant_of_everyStep (everyStep_and own ordered) (matched_recovered empty)
      fun table action holds allowed =>
        holds.steps (step_steps config table action) (Bool.and_eq_true_iff.mp allowed).1
          (Bool.and_eq_true_iff.mp allowed).2
  exact matched.livenessMatches

/-! ## Sessions of two incarnations -/

/-- The coordinator of the small runs. -/
def controlConfig : ControlConfig where
  policy := ⟨⟨1⟩, {}⟩
  incarnation := ⟨endpointA, .filled 9, ⟨1⟩⟩

/-- The registration of an identity. -/
def registerFrame (identity : PeerIdentity) : Frame where
  type := .REGISTER
  payload := RegisterRequest.encode
    ⟨⟨identity.endpoint, identity.boot, identity.epoch, 1, kPeerContract, oneByteDigest⟩,
      ⟨ascii "h", 1⟩, ⟨ascii "h", 2⟩, oneByteDigest⟩

def firstBoot : PeerIdentity := ⟨endpointA, .filled 1, ⟨1⟩⟩
def secondBoot : PeerIdentity := ⟨endpointA, .filled 2, ⟨2⟩⟩

/-- Endpoint `a` registers, restarts and registers again over a new session. -/
def restartActions : List ControlAction :=
  [.opens firstBoot, .receives 0 1 (registerFrame firstBoot), .opens secondBoot,
    .receives 1 2 (registerFrame secondBoot)]

theorem livenessMatches_restart :
    LivenessMatches (runFrom (step controlConfig) (recovered .initial) restartActions) :=
  livenessMatches_of_endsInOrder controlConfig .initial rfl restartActions (by decide +kernel)
    (by decide +kernel)

/-- The first session of `a` ends after the second registered: `a` is dead in the
topology, while the second session still runs and is its link. -/
theorem not_livenessMatches_lateEnd :
    everyStep (step controlConfig) namesItself (recovered .initial)
        (restartActions ++ [.ends 0]) = true ∧
      ¬ LivenessMatches (runFrom (step controlConfig) (recovered .initial)
        (restartActions ++ [.ends 0])) := by
  refine ⟨by decide +kernel, fun live => ?_⟩
  rcases (live endpointA).mpr ⟨1, ⟨secondBoot, true⟩, by decide +kernel, by decide +kernel⟩ with
    ⟨registration, found, alive⟩
  have dead : ((runFrom (step controlConfig) (recovered .initial)
      (restartActions ++ [.ends 0])).topology.lookup endpointA).all (! ·.live) = true := by
    decide +kernel
  rw [found] at dead
  rw [Option.all_some, alive] at dead
  cases dead

/-! ## Registrations and authenticated peers -/

/-- The identity of a registration. -/
def registeredIdentity (registration : EndpointRegistration) : PeerIdentity :=
  ⟨registration.endpoint, registration.incarnation.boot, registration.incarnation.epoch⟩

/-- Every registration and every link was made over a session that authenticated the same
endpoint, boot and epoch. -/
structure BoundToPeer (table : SessionTable) : Prop where
  registered : forall registration, registration ∈ table.topology.endpoints ->
    exists link, table.registrant registration.endpoint = some link ∧
      table.identityOf link = some (registeredIdentity registration)
  linked : forall endpoint link, table.links endpoint = some link ->
    exists identity, table.claimed endpoint = some identity ∧ identity.endpoint = endpoint ∧
      table.identityOf link = some identity

/-- A registration claims the identity that opened its session. -/
def claimsItself (table : SessionTable) (action : ControlAction) : Bool :=
  (table.registers action).all fun request => request.2.identity.claim == request.1.identity

/-- `BoundToPeer` for the registration that a lookup finds. -/
structure Bound (table : SessionTable) : Prop where
  found : forall endpoint registration, table.topology.lookup endpoint = some registration ->
    exists link, table.registrant endpoint = some link ∧
      table.identityOf link = some (registeredIdentity registration)
  linked : forall endpoint link, table.links endpoint = some link ->
    exists identity, table.claimed endpoint = some identity ∧ identity.endpoint = endpoint ∧
      table.identityOf link = some identity

theorem Bound.boundToPeer (bound : Bound table) : BoundToPeer table :=
  ⟨fun registration member =>
    bound.found registration.endpoint registration (TopologyView.lookup_of_mem member),
    bound.linked⟩

theorem bound_recovered (empty : topology.endpoints = []) :
    Bound (recovered topology) := by
  constructor
  · intro endpoint registration found
    change topology.endpoints.find? _ = _ at found
    rw [empty] at found
    cases found
  · intro endpoint link linked
    cases linked

/-- What a registration with the identity of its session makes of the lookups. -/
theorem Bound.entered (bound : Bound table)
    (registering : Registering config table link now frame session message topology)
    (own : message.identity.claim = session.identity) (endpoint : EndpointId)
    (registration : EndpointRegistration) (found : topology.lookup endpoint = some registration) :
    exists other,
      Function.update table.registrant message.identity.endpoint (some link) endpoint =
          some other ∧
        table.identityOf other = some (registeredIdentity registration) := by
  rw [registering.lookup] at found
  by_cases here : endpoint = message.identity.endpoint
  · subst here
    rw [if_pos rfl] at found
    cases found
    refine ⟨link, Function.update_self _ _ _, ?_⟩
    rw [identityOf_of_running registering.runs, ← own]
    rfl
  · rw [if_neg here] at found
    rw [Function.update_of_ne here]
    exact bound.found endpoint registration found

theorem Bound.registers (bound : Bound table)
    (registering : Registering config table link now frame session message topology)
    (advances : topology.advance = .ok advanced) (own : message.identity.claim = session.identity) :
    Bound { table with
      topology := advanced
      registrant := Function.update table.registrant message.identity.endpoint (some link)
      links := Function.update table.links message.identity.endpoint (some link)
      claimed := Function.update table.claimed message.identity.endpoint
        (some message.identity.claim) } := by
  constructor
  · intro endpoint registration found
    rw [TopologyView.lookup_advance advances] at found
    exact bound.entered registering own endpoint registration found
  · intro endpoint other linked
    change Function.update _ _ _ _ = _ at linked
    change exists identity, Function.update _ _ _ _ = _ ∧ _
    by_cases here : endpoint = message.identity.endpoint
    · subst here
      rw [Function.update_self] at linked
      cases linked
      refine ⟨message.identity.claim, Function.update_self _ _ _, rfl, ?_⟩
      rw [own]
      exact identityOf_of_running registering.runs
    · rw [Function.update_of_ne here] at linked
      rw [Function.update_of_ne here]
      exact bound.linked endpoint other linked

theorem Bound.ends (bound : Bound table) (runs : table.running link = some session) :
    Bound (table.endSession link session) := by
  constructor
  · intro endpoint registration found
    rw [endSession, TopologyView.lookup_markDead] at found
    change exists other, table.registrant endpoint = some other ∧
      (table.endSession link session).identityOf other = _
    -- Death changes no part of a registration that its identity is made of.
    have kept : exists slot, table.topology.lookup endpoint = some slot ∧
        registeredIdentity slot = registeredIdentity registration := by
      split at found
      · rename_i same
        rcases Option.map_eq_some_iff.mp found with ⟨slot, known, rfl⟩
        exact ⟨slot, same ▸ known, rfl⟩
      · exact ⟨registration, found, rfl⟩
    rcases kept with ⟨slot, known, identical⟩
    rcases bound.found endpoint slot known with ⟨other, registrant, identity⟩
    refine ⟨other, registrant, ?_⟩
    rw [identityOf_endSession runs, identity, identical]
  · intro endpoint other linked
    change (if table.links endpoint = some link then none else table.links endpoint) = _ at linked
    split at linked
    · cases linked
    · rcases bound.linked endpoint other linked with ⟨identity, claimed, named, opened⟩
      exact ⟨identity, claimed, named, (identityOf_endSession runs other).trans opened⟩

theorem Bound.steps (bound : Bound table) (steps : Steps config table action next)
    (claims : table.claimsItself action = true) :
    Bound next := by
  cases steps with
  | opens identity =>
      constructor
      · intro endpoint registration found
        rcases bound.found endpoint registration found with ⟨link, registrant, opened⟩
        exact ⟨link, registrant, identityOf_opens identity opened⟩
      · intro endpoint link linked
        rcases bound.linked endpoint link linked with ⟨known, claimed, named, opened⟩
        exact ⟨known, claimed, named, identityOf_opens identity opened⟩
  | keeps _ inventory => exact ⟨bound.found, bound.linked⟩
  | enters link now frame session message topology registering status exhausted =>
      rw [claimsItself, registers_of_registering registering] at claims
      exact ⟨bound.entered registering (beq_iff_eq.mp claims), bound.linked⟩
  | registers link now frame session message topology advanced registering advances =>
      rw [claimsItself, registers_of_registering registering] at claims
      exact bound.registers registering advances (beq_iff_eq.mp claims)
  | ends link session runs => exact bound.ends runs

/-- In every run in which each registration claims the identity that opened its session,
every registration and every link was made over a session that authenticated the same
endpoint, boot and epoch. -/
theorem boundToPeer_of_claimsItself (config : ControlConfig) (topology : TopologyView)
    (empty : topology.endpoints = []) (actions : List ControlAction)
    (own : everyStep (step config) claimsItself (recovered topology) actions = true) :
    BoundToPeer (runFrom (step config) (recovered topology) actions) := by
  have bound : Bound (runFrom (step config) (recovered topology) actions) :=
    runFrom_invariant_of_everyStep own (bound_recovered empty) fun table action holds claims =>
      holds.steps (step_steps config table action) claims
  exact bound.boundToPeer

theorem boundToPeer_restart :
    BoundToPeer (runFrom (step controlConfig) (recovered .initial) restartActions) :=
  boundToPeer_of_claimsItself controlConfig .initial rfl restartActions (by decide +kernel)

/-- The identity of another endpoint. -/
def otherPeer : PeerIdentity := ⟨endpointB, .filled 3, ⟨1⟩⟩

/-- A session of `a` registers as `b`: the link of `b` is then the session of `a`. -/
theorem not_boundToPeer_impersonation :
    ¬ BoundToPeer (runFrom (step controlConfig) (recovered .initial)
      [.opens firstBoot, .receives 0 1 (registerFrame otherPeer)]) := by
  intro bound
  rcases bound.linked endpointB 0 (by decide +kernel) with ⟨identity, -, named, opened⟩
  have session : (runFrom (step controlConfig) (recovered .initial)
      [.opens firstBoot, .receives 0 1 (registerFrame otherPeer)]).identityOf 0 =
      some firstBoot := by
    decide +kernel
  rw [session] at opened
  cases opened
  exact absurd named (by decide)

end SessionTable

end StateMovementFabric
