import StateMovementFabric.Foundation.Threads
import StateMovementFabric.Endpoint.DataSession
import StateMovementFabric.Endpoint.GrantTable

namespace StateMovementFabric

open Foundation Wire Handshake

/-!
# Single use of grants

A source serves any number of data sessions while the coordinator keeps sending it grants.
A session that is sent a chunk has presented a grant that was checked against the endpoint,
the peer, the object and the policy.  That no two sessions present the same grant rests on
the mark in the table, and a grant that is delivered again comes without the mark.
-/

abbrev ServeThread := Thread serveSignature Unit (Result Unit)

/-! ## What a session has done -/

namespace Serve

/-- The nonce that a session presented while its grant was unused. -/
def usedNonce : Event serveSignature -> Option Nonce
  | ⟨.consumeGrant nonce, some (_, true)⟩ => some nonce
  | _ => none

def usedNonces (past : Program.History serveSignature) : List Nonce := past.filterMap usedNonce

def sendsChunk : Event serveSignature -> Bool
  | ⟨.send frame, _⟩ => frame.type = .DATA_CHUNK
  | _ => false

/-- The peer of the session was sent a `DATA_CHUNK`. -/
def sentChunk (past : Program.History serveSignature) : Bool := past.any sendsChunk

/-- The session was opened by `peer`, who proved to hold the shared key. -/
def OpenedBy (config : EndpointConfig) (past : Program.History serveSignature)
    (peer : EndpointId) : Prop :=
  exists frame hello, (⟨.receive, .ok frame⟩ : Event serveSignature) ∈ past ∧
    frame.type = .HELLO ∧ decodeMessage HelloRequest.decode frame = .ok hello ∧
    computeClientMac config.sharedSecret hello.clientNonce hello.identity = hello.clientMac ∧
    hello.identity.endpoint = peer

/-- The session asked for `object`, with the grant of `nonce`. -/
def AskedFor (past : Program.History serveSignature) (nonce : Nonce)
    (object : StateObjectDescriptor) : Prop :=
  exists frame begin, (⟨.receive, .ok frame⟩ : Event serveSignature) ∈ past ∧
    frame.type = .DATA_BEGIN ∧ decodeMessage DataBegin.decode frame = .ok begin ∧
    .fromDigest begin.nonce = nonce ∧ begin.object.version = object.version ∧
    begin.object.contentDigest = object.contentDigest

/-- The session presented an unused grant, and the grant names the endpoint, the peer and
the object that were asked for. -/
structure Authorized (config : EndpointConfig) (generation : PolicyGeneration)
    (past : Program.History serveSignature) (nonce : Nonce) (grant : TransferGrant) : Prop where
  presented : (⟨.consumeGrant nonce, some (grant, true)⟩ : Event serveSignature) ∈ past
  signed : grant.verifySignature config.sharedSecret = .ok ()
  opened : OpenedBy config past grant.destination
  asked : AskedFor past nonce grant.object
  source : grant.source = config.endpointId
  current : grant.policyGeneration = generation

/-- The generation that the endpoint was under, each time the session asked. -/
def GenerationIs (generation : PolicyGeneration) (past : Program.History serveSignature) : Prop :=
  forall found, (⟨.policyGeneration, found⟩ : Event serveSignature) ∈ past -> found = generation

/-- The session runs under a grant, if `generation` is what it was told. -/
def UnderGrant (config : EndpointConfig) (generation : PolicyGeneration)
    (past : Program.History serveSignature) : Prop :=
  GenerationIs generation past ->
    exists nonce grant, Authorized config generation past nonce grant

/-- Every chunk is sent under a grant. -/
def chunkGuard (config : EndpointConfig) (generation : PolicyGeneration) :
    Program.Guard serveSignature := fun past op =>
  match op with
  | .send frame => frame.type = .DATA_CHUNK -> UnderGrant config generation past
  | _ => True

section Guarding

variable {config : EndpointConfig} {generation : PolicyGeneration}
  {past : Program.History serveSignature} {peer : EndpointId}

theorem OpenedBy.later (opened : OpenedBy config past peer) (event : Event serveSignature) :
    OpenedBy config (past ++ [event]) peer := by
  rcases opened with ⟨frame, hello, received, rest⟩
  exact ⟨frame, hello, List.mem_append_left _ received, rest⟩

theorem AskedFor.later {nonce : Nonce} {object : StateObjectDescriptor}
    (asked : AskedFor past nonce object) (event : Event serveSignature) :
    AskedFor (past ++ [event]) nonce object := by
  rcases asked with ⟨frame, begin, received, rest⟩
  exact ⟨frame, begin, List.mem_append_left _ received, rest⟩

variable {grant : TransferGrant} {begin : DataBegin}

theorem Authorized.later {nonce : Nonce}
    (authorized : Authorized config generation past nonce grant) (event : Event serveSignature) :
    Authorized config generation (past ++ [event]) nonce grant where
  presented := List.mem_append_left _ authorized.presented
  signed := authorized.signed
  opened := authorized.opened.later event
  asked := authorized.asked.later event
  source := authorized.source
  current := authorized.current

theorem GenerationIs.earlier {event : Event serveSignature}
    (same : GenerationIs generation (past ++ [event])) : GenerationIs generation past :=
  fun found asked => same found (List.mem_append_left _ asked)

theorem UnderGrant.later (granted : UnderGrant config generation past)
    (event : Event serveSignature) : UnderGrant config generation (past ++ [event]) := by
  intro same
  rcases granted same.earlier with ⟨nonce, grant, authorized⟩
  exact ⟨nonce, grant, authorized.later event⟩

/-- Whatever a session does that runs under a grant is done under it. -/
theorem guarded_of_underGrant {program : ServeProgram (Result Unit)}
    (granted : UnderGrant config generation past) :
    Program.Guarded (chunkGuard config generation) (fun _ _ => True) past program := by
  have kept := (Program.guarded_unrestricted program).keeping granted
    fun _ event granted => granted.later event
  apply kept.weaken
  rintro later op ⟨_, granted⟩
  cases op with
  | send frame => exact fun _ => granted
  | _ => trivial

theorem guarded_refuseBegin (begin : DataBegin) (status : Status) :
    Program.Guarded (chunkGuard config generation) (fun _ _ => True) past
      (refuseBegin begin status) := by
  refine Program.guarded_call_bind.mpr ⟨?_, fun _ _ => trivial⟩
  intro type
  cases type

/-- The checks of the binding, read off a binding that passed. -/
theorem bound_of_checkBinding {self : EndpointId}
    (bound : checkBinding self peer begin grant = .ok ()) :
    grant.source = self ∧ peer = grant.destination ∧
      begin.object.version = grant.object.version ∧
      begin.object.contentDigest = grant.object.contentDigest := by
  rcases refuseWhen_bind_eq_ok.mp bound with ⟨source, bound⟩
  rcases refuseWhen_bind_eq_ok.mp bound with ⟨_, bound⟩
  rcases refuseWhen_bind_eq_ok.mp bound with ⟨destination, bound⟩
  rw [refuseWhen_eq_ok] at bound
  simp only [Bool.or_eq_false_iff, bne_eq_false_iff_eq] at source destination bound
  refine ⟨source, destination, ?_, bound.2.symm⟩
  unfold StateObjectDescriptor.version
  rw [bound.1.1, bound.1.2]

theorem guarded_checkGrant (opened : OpenedBy config past peer)
    (asked : exists frame, (⟨.receive, .ok frame⟩ : Event serveSignature) ∈ past ∧
      frame.type = .DATA_BEGIN ∧ decodeMessage DataBegin.decode frame = .ok begin)
    (presented : (⟨.consumeGrant (.fromDigest begin.nonce), some (grant, true)⟩ :
      Event serveSignature) ∈ past) :
    Program.Guarded (chunkGuard config generation) (fun _ _ => True) past
      (checkGrant config peer begin grant) := by
  unfold checkGrant
  split
  · trivial
  · rename_i signed
    split
    · exact guarded_refuseBegin begin _
    · rename_i bound
      rcases bound_of_checkBinding bound with ⟨source, rfl, version, digest⟩
      rcases asked with ⟨frame, received, type, decoded⟩
      refine Program.guarded_call_bind.mpr ⟨trivial, ?_⟩
      intro (current : PolicyGeneration) _
      split
      · exact guarded_refuseBegin begin _
      · rename_i same
        -- The generation was just asked for, so it is the one the endpoint is under.
        apply guarded_of_underGrant
        intro generations
        have found : current = generation :=
          generations current (List.mem_append_right _ List.mem_cons_self)
        refine ⟨.fromDigest begin.nonce, grant, ?_⟩
        exact
          { presented := List.mem_append_left _ presented
            signed := signed
            opened := opened.later _
            asked := ⟨frame, begin, List.mem_append_left _ received, type, decoded, rfl, version,
              digest⟩
            source := source
            current := (not_not.mp same).trans found }

theorem guarded_serveBegin (opened : OpenedBy config past peer) :
    Program.Guarded (chunkGuard config generation) (fun _ _ => True) past
      (serveBegin config peer) := by
  refine Program.guarded_call_bind.mpr ⟨trivial, ?_⟩
  intro (received : Result Frame) _
  split
  · trivial
  · rename_i frame _
    split
    · trivial
    · rename_i type
      split
      · trivial
      · rename_i begin decoded
        refine Program.guarded_call_bind.mpr ⟨trivial, ?_⟩
        intro found _
        rcases (found : Option (TransferGrant × Bool)) with _ | ⟨grant, _ | _⟩
        · exact guarded_refuseBegin begin _
        · exact guarded_refuseBegin begin _
        · apply guarded_checkGrant ((opened.later _).later _)
          · exact ⟨frame, List.mem_append_left _ (List.mem_append_right _ List.mem_cons_self),
              not_not.mp type, decoded⟩
          · exact List.mem_append_right _ List.mem_cons_self

theorem guarded_serveDataConnection (self : Handshake.PeerIdentity) :
    Program.Guarded (chunkGuard config generation) (fun _ _ => True) []
      (serveDataConnection config self) := by
  refine Program.guarded_call_bind.mpr ⟨trivial, ?_⟩
  intro (received : Result Frame) _
  split
  · trivial
  · rename_i frame _
    split
    · trivial
    · rename_i type
      split
      · trivial
      · rename_i hello decoded
        refine Program.guarded_call_bind.mpr ⟨trivial, ?_⟩
        intro sessionId _
        refine Program.guarded_call_bind.mpr ⟨trivial, ?_⟩
        intro nonce _
        split
        · trivial
        · rename_i response accepted
          rcases check_bind_eq_ok.mp accepted with ⟨_, accepted⟩
          rcases refuseWhen_bind_eq_ok.mp accepted with ⟨proved, _⟩
          refine Program.guarded_call_bind.mpr ⟨?_, ?_⟩
          · intro chunk
            cases chunk
          · intro (sent : Result Unit) _
            cases sent with
            | error status => trivial
            | ok value =>
                apply guarded_serveBegin
                refine ⟨frame, hello, by simp, not_not.mp type, decoded, ?_, rfl⟩
                simpa using proved

end Guarding

end Serve

/-! ## A source and its sessions -/

/-- An endpoint with the data sessions it has accepted.  `self` is the identity it answers
a hello with. -/
structure SourceSite where
  agent : EndpointAgent
  self : Handshake.PeerIdentity
  sessions : List ServeThread

/-- What an operation of a session gets from outside of the endpoint. -/
structure SessionSurroundings where
  received : Result Frame := refuse .CONNECTION_CLOSED "the peer closed the connection"
  sent : Result Unit := .ok ()
  sessionId : SessionId := .filled 1
  nonce : Nonce := .filled 1
  opened : Result Unit := .ok ()
  halted : Bool := false
  read : Result Bytes := .ok []

/-- A step of a source: one of the endpoint's own, a new data session, or the next operation
of a session. -/
inductive SiteAction where
  | endpoint (action : AgentAction)
  | accept
  | serve (index : Nat) (surroundings : SessionSurroundings)

namespace SourceSite

/-- What an operation of a session does to the endpoint. -/
def afterOp (agent : EndpointAgent) : ServeOp -> EndpointAgent
  | .consumeGrant nonce => (agent.consumeGrant nonce).1
  | .cancellationFlag id => agent.fetchFlag id
  | _ => agent

/-- The reply to an operation of a session. -/
def answer (agent : EndpointAgent) (surroundings : SessionSurroundings) :
    forall op : ServeOp, op.Reply
  | .receive => surroundings.received
  | .send _ => surroundings.sent
  | .newSessionId => surroundings.sessionId
  | .newNonce => surroundings.nonce
  | .consumeGrant nonce => (agent.consumeGrant nonce).2
  | .policyGeneration => agent.policyGeneration
  | .objectPresent version => agent.store.objectPresent version
  | .openObject _ => surroundings.opened
  | .cancellationFlag _ => ()
  | .halted _ => surroundings.halted
  | .read _ _ _ => surroundings.read

/-- One operation of the session at `index`. -/
def serve (site : SourceSite) (index : Nat) (surroundings : SessionSurroundings) : SourceSite :=
  match site.sessions[index]? with
  | none => site
  | some session =>
      match session.pending with
      | none => site
      | some op =>
          { site with
            agent := afterOp site.agent op
            sessions := site.sessions.set index (session.resume (answer site.agent surroundings)) }

def step (site : SourceSite) : SiteAction -> SourceSite
  | .endpoint action => { site with agent := site.agent.step action }
  | .accept =>
      { site with
        sessions := site.sessions ++ [.start () (serveDataConnection site.agent.config site.self)] }
  | .serve index surroundings => site.serve index surroundings

def run (site : SourceSite) (actions : List SiteAction) : SourceSite := runFrom step site actions

/-- A control session begins: no grant has been delivered. -/
def begun (agent : EndpointAgent) (self : Handshake.PeerIdentity) : SourceSite :=
  ⟨{ agent with grants := [] }, self, []⟩

/-- The control session goes on. -/
def inSession (_ : SourceSite) : SiteAction -> Bool
  | .endpoint .sessionEnds => false
  | _ => true

/-- No grant is accepted whose nonce a data session has used. -/
def freshlyGranted (site : SourceSite) : SiteAction -> Bool
  | .endpoint (.handle _ frame) =>
      frame.type != .GRANT_TRANSFER ||
        match decodeMessage GrantTransfer.decode frame with
        | .error _ => true
        | .ok message =>
            (site.sessions.all fun session =>
                !(Serve.usedNonces session.history).contains message.grant.grantNonce) ||
              !succeeded (site.agent.checkGrant message.grant)
  | _ => true

/-- The session at `index` has used the nonce. -/
def Uses (site : SourceSite) (index : Nat) (nonce : Nonce) : Prop :=
  exists session, site.sessions[index]? = some session ∧ nonce ∈ Serve.usedNonces session.history

/-- The session at `index` was sent a chunk under the nonce. -/
def Serves (site : SourceSite) (index : Nat) (nonce : Nonce) : Prop :=
  exists session, site.sessions[index]? = some session ∧
    nonce ∈ Serve.usedNonces session.history ∧ Serve.sentChunk session.history = true

/-- Grants are single use and fully checked. -/
structure SingleUse (site : SourceSite) : Prop where
  checked : forall session, session ∈ site.sessions -> Serve.sentChunk session.history = true ->
    exists nonce grant, Serve.Authorized site.agent.config site.agent.policyGeneration
      session.history nonce grant
  once : forall nonce first second, site.Serves first nonce -> site.Serves second nonce ->
    first = second

/-- What the step of a session can do. -/
theorem serve_cases (site : SourceSite) (index : Nat) (surroundings : SessionSurroundings) :
    site.serve index surroundings = site ∨
      exists session op, site.sessions[index]? = some session ∧ session.pending = some op ∧
        site.serve index surroundings =
          { site with
            agent := afterOp site.agent op
            sessions := site.sessions.set index
              (session.resume (answer site.agent surroundings)) } := by
  unfold serve
  split
  · exact .inl rfl
  · rename_i session located
    split
    · exact .inl rfl
    · rename_i op pends
      exact .inr ⟨session, op, located, pends, rfl⟩

/-! ### The checks -/

/-- What holds of every session, whatever else happens at the endpoint. -/
structure Sound (config : EndpointConfig) (generation : PolicyGeneration) (session : ServeThread) :
    Prop where
  follows : session.Follows fun _ => Serve.chunkGuard config generation
  told : Serve.GenerationIs generation session.history
  granted : Serve.sentChunk session.history = true ->
    Serve.UnderGrant config generation session.history

theorem sound_start (config : EndpointConfig) (generation : PolicyGeneration)
    (self : Handshake.PeerIdentity) : Sound config generation (.start () (serveDataConnection config self)) where
  follows := Serve.guarded_serveDataConnection self
  told := fun _ asked => nomatch asked
  granted := fun sent => nomatch sent

theorem sentChunk_append (past : Program.History serveSignature) (event : Event serveSignature) :
    Serve.sentChunk (past ++ [event]) = (Serve.sentChunk past || Serve.sendsChunk event) := by
  rw [Serve.sentChunk, List.any_append, List.any_cons, List.any_nil, Bool.or_false]
  rfl

variable {op : ServeOp} {session : ServeThread} {after : EndpointAgent} {index : Nat}
  {surroundings : SessionSurroundings}

theorem Sound.resume {config : EndpointConfig} {agent : EndpointAgent}
    (sound : Sound config agent.policyGeneration session) (pends : session.pending = some op)
    (surroundings : SessionSurroundings) :
    Sound config agent.policyGeneration (session.resume (answer agent surroundings)) where
  follows := sound.follows.resume _ fun _ => trivial
  told := by
    rw [Thread.history_resume pends]
    intro found asked
    rcases List.mem_append.mp asked with asked | asked
    · exact sound.told found asked
    · cases List.mem_singleton.mp asked
      rfl
  granted := by
    rw [Thread.history_resume pends, sentChunk_append, Bool.or_eq_true]
    rintro (sent | sends)
    · exact (sound.granted sent).later _
    · have allowed := sound.follows.allowed pends
      cases op with
      | send frame => exact Serve.UnderGrant.later (allowed (of_decide_eq_true sends)) _
      | _ => cases sends

/-- Every session of the site is sound. -/
def AllSound (site : SourceSite) : Prop :=
  forall session, session ∈ site.sessions ->
    Sound site.agent.config site.agent.policyGeneration session

/-- Presenting a nonce changes nothing but the table. -/
theorem settings_consumeGrant (agent : EndpointAgent) (nonce : Nonce) :
    (agent.consumeGrant nonce).1.config = agent.config ∧
      (agent.consumeGrant nonce).1.policyGeneration = agent.policyGeneration ∧
      (agent.consumeGrant nonce).1.store = agent.store := by
  unfold EndpointAgent.consumeGrant
  cases agent.findGrant nonce with
  | none => exact ⟨rfl, rfl, rfl⟩
  | some entry => exact ⟨rfl, rfl, rfl⟩

/-- An operation of a session changes nothing that grants are checked against. -/
theorem settings_afterOp (agent : EndpointAgent) (op : ServeOp) :
    (afterOp agent op).config = agent.config ∧
      (afterOp agent op).policyGeneration = agent.policyGeneration := by
  cases op with
  | consumeGrant nonce =>
      have settings := settings_consumeGrant agent nonce
      exact ⟨settings.1, settings.2.1⟩
  | _ => exact ⟨rfl, rfl⟩

theorem AllSound.step {site : SourceSite} (sound : site.AllSound) (action : SiteAction) :
    (site.step action).AllSound := by
  cases action with
  | endpoint action =>
      have tabled := site.agent.tabled_step action
      intro session inside
      change Sound (site.agent.step action).config (site.agent.step action).policyGeneration session
      rw [tabled.config, tabled.policyGeneration]
      exact sound session inside
  | accept =>
      intro session inside
      rcases List.mem_append.mp inside with earlier | new
      · exact sound session earlier
      · cases List.mem_singleton.mp new
        exact sound_start _ _ site.self
  | serve index surroundings =>
      rw [SourceSite.step]
      rcases serve_cases site index surroundings with same | ⟨session, op, located, pends, stepped⟩
      · rw [same]
        exact sound
      · rw [stepped]
        intro found inside
        have settings := settings_afterOp site.agent op
        change Sound (afterOp site.agent op).config (afterOp site.agent op).policyGeneration found
        rw [settings.1, settings.2]
        rcases List.mem_or_eq_of_mem_set inside with earlier | rfl
        · exact sound found earlier
        · exact (sound session (List.mem_of_getElem? located)).resume pends surroundings

/-! ### The mark -/

/-- A nonce that was used is marked in the table, and only one session used it. -/
structure Marked (site : SourceSite) : Prop where
  spent : forall index nonce, site.Uses index nonce ->
    forall entry, (nonce, entry) ∈ site.agent.grants -> entry.consumed = true
  apart : forall nonce first second, site.Uses first nonce -> site.Uses second nonce ->
    first = second

section Marks

variable {site : SourceSite} {agent : EndpointAgent} {nonce : Nonce} {entry : GrantEntry}

theorem mem_of_findGrant (found : agent.findGrant nonce = some entry) :
    (nonce, entry) ∈ agent.grants := by
  rcases List.lookup_eq_some_iff.mp found with ⟨before, after, table, _⟩
  rw [table]
  exact List.mem_append_right _ List.mem_cons_self

/-- Presenting a nonce marks it and takes no mark away. -/
theorem mem_of_consumeGrant {presented : Nonce}
    (recorded : (nonce, entry) ∈ (agent.consumeGrant presented).1.grants) :
    exists earlier, (nonce, earlier) ∈ agent.grants ∧
      (earlier.consumed = true ∨ nonce = presented -> entry.consumed = true) := by
  unfold EndpointAgent.consumeGrant at recorded
  split at recorded
  · rename_i missing
    refine ⟨entry, recorded, ?_⟩
    rintro (consumed | rfl)
    · exact consumed
    · have other := List.lookup_eq_none_iff.mp missing _ recorded
      simp at other
  · rcases List.mem_map.mp recorded with ⟨⟨known, earlier⟩, inside, same⟩
    split at same
    · cases same
      exact ⟨earlier, inside, fun _ => rfl⟩
    · rename_i other
      cases same
      refine ⟨entry, inside, ?_⟩
      rintro (consumed | presented)
      · exact consumed
      · exact absurd presented other

/-- A nonce that a session gets to use was in the table without a mark. -/
theorem unmarked_of_used (used : Serve.usedNonce ⟨op, answer agent surroundings op⟩ = some nonce) :
    op = .consumeGrant nonce ∧
      exists entry, (nonce, entry) ∈ agent.grants ∧ entry.consumed = false := by
  cases op with
  | consumeGrant presented =>
      unfold answer EndpointAgent.consumeGrant at used
      cases found : agent.findGrant presented with
      | none =>
          simp only [found] at used
          cases used
      | some entry =>
          simp only [found] at used
          cases consumed : entry.consumed with
          | true =>
              rw [consumed] at used
              cases used
          | false =>
              rw [consumed] at used
              cases used
              exact ⟨rfl, entry, mem_of_findGrant found, consumed⟩
  | _ => cases used

theorem usedNonces_append (past : Program.History serveSignature) (event : Event serveSignature) :
    nonce ∈ Serve.usedNonces (past ++ [event]) ↔
      nonce ∈ Serve.usedNonces past ∨ Serve.usedNonce event = some nonce := by
  simp [Serve.usedNonces]

/-- The table after an operation of a session. -/
theorem mem_of_afterOp (recorded : (nonce, entry) ∈ (afterOp agent op).grants) :
    exists earlier, (nonce, earlier) ∈ agent.grants ∧
      (earlier.consumed = true ∨ op = .consumeGrant nonce -> entry.consumed = true) := by
  cases op with
  | consumeGrant presented =>
      rcases mem_of_consumeGrant recorded with ⟨earlier, inside, marks⟩
      refine ⟨earlier, inside, ?_⟩
      rintro (consumed | same)
      · exact marks (.inl consumed)
      · cases same
        exact marks (.inr rfl)
  | _ =>
      refine ⟨entry, recorded, ?_⟩
      rintro (consumed | same)
      · exact consumed
      · cases same

/-- A nonce used after the step of a session was used before, or the session uses it now. -/
theorem uses_of_set {other : Nat} (located : site.sessions[index]? = some session)
    (pends : session.pending = some op) (used : SourceSite.Uses { site with
      agent := after
      sessions := site.sessions.set index (session.resume (answer site.agent surroundings)) }
      other nonce) :
    site.Uses other nonce ∨
      other = index ∧ Serve.usedNonce ⟨op, answer site.agent surroundings op⟩ = some nonce := by
  rcases used with ⟨found, at_, used⟩
  dsimp only at at_
  by_cases here : index = other
  · subst here
    rw [List.getElem?_set_self (List.getElem?_eq_some_iff.mp located).1] at at_
    cases at_
    rw [Thread.history_resume pends, usedNonces_append] at used
    rcases used with used | used
    · exact .inl ⟨session, located, used⟩
    · exact .inr ⟨rfl, used⟩
  · rw [List.getElem?_set_ne here] at at_
    exact .inl ⟨found, at_, used⟩

theorem Marked.serve (marked : site.Marked) (index : Nat) (surroundings : SessionSurroundings) :
    (site.serve index surroundings).Marked := by
  rcases serve_cases site index surroundings with same | ⟨session, op, located, pends, stepped⟩
  · rw [same]
    exact marked
  · rw [stepped]
    -- A nonce that is used now was unmarked, so no session had used it.
    have unused : forall nonce other,
        Serve.usedNonce ⟨op, answer site.agent surroundings op⟩ = some nonce ->
        ¬site.Uses other nonce := by
      intro nonce other now before
      rcases unmarked_of_used now with ⟨_, entry, recorded, unmarked⟩
      rw [marked.spent other nonce before entry recorded] at unmarked
      cases unmarked
    constructor
    · intro other nonce used entry recorded
      rcases mem_of_afterOp recorded with ⟨earlier, inside, marks⟩
      rcases uses_of_set located pends used with before | ⟨_, now⟩
      · exact marks (.inl (marked.spent other nonce before earlier inside))
      · exact marks (.inr (unmarked_of_used now).1)
    · intro nonce first second one two
      rcases uses_of_set located pends one with before | ⟨here, now⟩
      · rcases uses_of_set located pends two with also | ⟨_, now⟩
        · exact marked.apart nonce first second before also
        · exact absurd before (unused nonce first now)
      · rcases uses_of_set located pends two with also | ⟨there, _⟩
        · exact absurd also (unused nonce second now)
        · exact here.trans there.symm

theorem Marked.endpoint (marked : site.Marked) {action : AgentAction}
    (fresh : site.freshlyGranted (.endpoint action) = true) :
    (site.step (.endpoint action)).Marked := by
  refine ⟨?_, marked.apart⟩
  intro index nonce used entry recorded
  have before : forall entry, (nonce, entry) ∈ site.agent.grants -> entry.consumed = true :=
    marked.spent index nonce used
  have table := (site.agent.tabled_step action).grants
  change (nonce, entry) ∈ (site.agent.step action).grants at recorded
  generalize (site.agent.step action).grants = grants at table recorded
  cases table with
  | keeps => exact before entry recorded
  | records environment frame message type decoded checked =>
      rcases List.mem_append.mp recorded with kept | new
      · exact before entry (List.mem_filter.mp kept).1
      · -- The accepted grant is not one that a session has used.
        cases List.mem_singleton.mp new
        rcases used with ⟨session, located, used⟩
        rw [freshlyGranted, type, decoded] at fresh
        simp [checked, succeeded] at fresh
        exact absurd used (fresh session (List.mem_of_getElem? located))
  | cleans environment frame message type decoded =>
      exact before entry (List.mem_filter.mp recorded).1
  | ends => cases recorded

theorem Marked.accept (marked : site.Marked) : (site.step .accept).Marked := by
  have earlier : forall index nonce, (site.step .accept).Uses index nonce ->
      site.Uses index nonce := by
    rintro index nonce ⟨session, located, used⟩
    rcases Nat.lt_or_ge index site.sessions.length with inside | outside
    · exact ⟨session, (List.getElem?_append_left inside).symm.trans located, used⟩
    · have new := (List.getElem?_append_right outside).symm.trans located
      cases List.mem_singleton.mp (List.mem_of_getElem? new)
      cases used
  constructor
  · intro index nonce used
    exact marked.spent index nonce (earlier index nonce used)
  · intro nonce first second one two
    exact marked.apart nonce first second (earlier first nonce one) (earlier second nonce two)

theorem Marked.step (marked : site.Marked) {action : SiteAction}
    (fresh : site.freshlyGranted action = true) : (site.step action).Marked := by
  cases action with
  | endpoint action => exact marked.endpoint fresh
  | accept => exact marked.accept
  | serve index surroundings => exact marked.serve index surroundings

end Marks

theorem allSound_begun (agent : EndpointAgent) (self : Handshake.PeerIdentity) : (begun agent self).AllSound :=
  fun _ inside => nomatch inside

theorem marked_begun (agent : EndpointAgent) (self : Handshake.PeerIdentity) : (begun agent self).Marked where
  spent := fun _ _ used => nomatch used.choose_spec.1
  apart := fun _ _ _ used => nomatch used.choose_spec.1

/-- As long as no grant is accepted again after a data session has used it, grants are single
use; that they are fully checked needs no condition. -/
theorem singleUse_of_freshlyGranted (agent : EndpointAgent) (self : Handshake.PeerIdentity)
    (actions : List SiteAction)
    (fresh : everyStep step freshlyGranted (begun agent self) actions = true) :
    SingleUse ((begun agent self).run actions) := by
  have allSound : AllSound ((begun agent self).run actions) :=
    runFrom_invariant_of_everyStep fresh (allSound_begun agent self)
      fun _ action sound _ => sound.step action
  have marked : Marked ((begun agent self).run actions) :=
    runFrom_invariant_of_everyStep fresh (marked_begun agent self)
      fun _ _ marked fresh => marked.step fresh
  constructor
  · intro session inside sent
    have sound := allSound session inside
    exact sound.granted sent sound.told
  · rintro nonce first second ⟨earlier, one, used, _⟩ ⟨later, two, also, _⟩
    exact marked.apart nonce first second ⟨earlier, one, used⟩ ⟨later, two, also⟩

/-! ### A grant that is delivered twice -/

/-- The endpoint `a`, which holds the one-byte object. -/
def holder : EndpointAgent :=
  { EndpointAgent.newAgent with
    config := { endpointId := endpointA, sharedSecret := ascii "secret" }
    incarnation := ⟨endpointA, .filled 1, ⟨1⟩⟩
    store := { EndpointAgent.newAgent.store with
      objects := Function.update (fun _ => none) oneByteObject.version (some [1]) } }

def identityOf (endpoint : EndpointId) : Handshake.PeerIdentity :=
  ⟨endpoint, .filled 1, ⟨1⟩, .ENDPOINT, Handshake.kPeerContract, oneByteObject.contentDigest⟩

/-- A grant of the object to `b`, with its signature under the shared secret written out. -/
def issuedGrant : TransferGrant where
  movementId := .filled 1
  movementGeneration := ⟨1⟩
  attempt := .filled 5
  object := oneByteObject
  source := endpointA
  sourceIncarnation := ⟨endpointA, .filled 1, ⟨1⟩⟩
  destination := endpointB
  destinationIncarnation := ⟨endpointB, .filled 2, ⟨1⟩⟩
  policyGeneration := ⟨1⟩
  grantNonce := .filled 6
  maxBytes := 1
  maxChunks := 1
  issuedUnixMillis := 1
  effectClass := .REPEATABLE
  signature := ⟨[78, 103, 248, 136, 189, 79, 205, 7, 37, 211, 10, 96, 106, 125, 6, 239, 8, 20, 165,
    142, 22, 97, 198, 48, 157, 68, 64, 24, 174, 191, 114, 5], rfl⟩

/-- The hello of `b`, with its code under the shared secret written out. -/
def peerHello : HelloRequest :=
  ⟨.filled 3, identityOf endpointB, ⟨[150, 52, 140, 206, 41, 254, 127, 202, 166, 77, 51, 160, 129,
    115, 101, 161, 118, 64, 234, 56, 119, 50, 39, 247, 94, 127, 90, 253, 148, 243, 106, 91], rfl⟩⟩

def peerBegin : DataBegin :=
  ⟨FixedId.asDigest (.filled 6 : Nonce), .filled 1, ⟨1⟩, .filled 5, oneByteObject, endpointB,
    ⟨endpointB, .filled 2, ⟨1⟩⟩, 0, 0⟩

/-- What `b` and the file system do until the first chunk is sent. -/
def peerScript : List SessionSurroundings :=
  [{ received := .ok peerHello.frame }, {}, {}, {}, { received := .ok peerBegin.frame }, {}, {}, {},
    {}, {}, {}, {}, { read := .ok [1] }, {}]

def grantArrives : SiteAction := .endpoint (.handle {} (GrantTransfer.mk issuedGrant).frame)

/-- A whole session of the peer, up to the first chunk. -/
def peerSession (index : Nat) : List SiteAction :=
  .accept :: peerScript.map (.serve index)

/-- For each session, whether it was sent a chunk under the nonce. -/
def servedUnder (site : SourceSite) (nonce : Nonce) : List Bool :=
  site.sessions.map fun session =>
    (Serve.usedNonces session.history).contains nonce && Serve.sentChunk session.history

theorem serves_of_servedUnder {site : SourceSite} {nonce : Nonce}
    (served : (site.servedUnder nonce)[index]? = some true) : site.Serves index nonce := by
  rw [servedUnder, List.getElem?_map, Option.map_eq_some_iff] at served
  rcases served with ⟨session, located, both⟩
  rw [Bool.and_eq_true, List.contains_iff_mem] at both
  exact ⟨session, located, both.1, both.2⟩

/-- Two sessions that present the same grant after one delivery. -/
theorem singleUse_presentedTwice :
    SingleUse ((begun holder (identityOf endpointA)).run
      (grantArrives :: peerSession 0 ++ peerSession 1)) :=
  singleUse_of_freshlyGranted holder (identityOf endpointA) _ (by decide +kernel)

/-- A grant that is delivered again, within the control session, serves a second session. -/
theorem not_singleUse_redelivered :
    everyStep step inSession (begun holder (identityOf endpointA))
        (grantArrives :: peerSession 0 ++ grantArrives :: peerSession 1) = true ∧
      ¬SingleUse ((begun holder (identityOf endpointA)).run
        (grantArrives :: peerSession 0 ++ grantArrives :: peerSession 1)) := by
  refine ⟨by decide +kernel, ?_⟩
  intro single
  have both : ((begun holder (identityOf endpointA)).run
      (grantArrives :: peerSession 0 ++ grantArrives :: peerSession 1)).servedUnder (.filled 6) =
        [true, true] := by
    decide +kernel
  have first : SourceSite.Serves _ 0 (.filled 6) := serves_of_servedUnder (by rw [both]; rfl)
  have second : SourceSite.Serves _ 1 (.filled 6) := serves_of_servedUnder (by rw [both]; rfl)
  exact Nat.zero_ne_one (single.once (.filled 6) 0 1 first second)

/-! ## How many grants are held -/

/-- No grant is taken out of the table. -/
def keepsGrants (_ : SourceSite) : SiteAction -> Bool
  | .endpoint .sessionEnds => false
  | .endpoint (.handle _ frame) => frame.type != .CLEANUP_REQUEST
  | _ => true

/-- The table is within its capacity. -/
def Within (capacity : Nat) (site : SourceSite) : Prop :=
  site.agent.grantCapacity = capacity ∧ site.agent.grants.length ≤ capacity

def Full (capacity : Nat) (site : SourceSite) : Prop :=
  site.Within capacity ∧ site.agent.grants.length = capacity

section Capacity

variable {site : SourceSite} {capacity : Nat}

theorem within_step (within : site.Within capacity) (action : SiteAction) :
    (site.step action).Within capacity ∧ (keepsGrants site action = true ->
      site.agent.grants.length = capacity -> (site.step action).agent.grants.length = capacity) := by
  rcases within with ⟨rfl, few⟩
  cases action with
  | endpoint action =>
      have tabled := site.agent.tabled_step action
      have held : (site.agent.step action).grantCapacity = site.agent.grantCapacity := by
        unfold EndpointAgent.grantCapacity
        rw [tabled.config]
      have regrants := tabled.grants
      unfold Within step
      dsimp only
      generalize (site.agent.step action).grants = table at regrants ⊢
      cases regrants with
      | keeps => exact ⟨⟨held, few⟩, fun _ full => full⟩
      | records environment frame message type decoded checked =>
          -- A grant that is recorded has found room, so the table was not full.
          have room := EndpointAgent.length_lt_of_checkGrant checked
          exact ⟨⟨held, (EndpointAgent.length_recordGrant ..).trans room⟩,
            fun _ full => absurd full (Nat.ne_of_lt room)⟩
      | cleans environment frame message type decoded =>
          refine ⟨⟨held, (List.length_filter_le ..).trans few⟩, fun keeps => ?_⟩
          rw [keepsGrants, type] at keeps
          cases keeps
      | ends => exact ⟨⟨held, Nat.zero_le _⟩, nofun⟩
  | accept => exact ⟨⟨rfl, few⟩, fun _ full => full⟩
  | serve index surroundings =>
      rw [step]
      rcases serve_cases site index surroundings with same | ⟨session, op, -, -, stepped⟩
      · rw [same]
        exact ⟨⟨rfl, few⟩, fun _ full => full⟩
      · rw [stepped]
        have length : (afterOp site.agent op).grants.length = site.agent.grants.length := by
          cases op with
          | consumeGrant nonce => exact EndpointAgent.length_consumeGrant site.agent nonce
          | _ => rfl
        unfold Within EndpointAgent.grantCapacity
        dsimp only
        rw [(settings_afterOp site.agent op).1, length]
        exact ⟨⟨rfl, few⟩, fun _ full => full⟩

theorem within_run (within : site.Within capacity) (actions : List SiteAction) :
    (site.run actions).Within capacity := by
  induction actions generalizing site with
  | nil => exact within
  | cons action rest ih => exact ih (within_step within action).1

end Capacity

/-- In a control session, however its data sessions run, the grants stay within the capacity,
and a full table takes no grant before a cleanup or the end of the control session, nor
answers one to a caller that waits for its acknowledgement. -/
theorem grants_bounded (agent : EndpointAgent) (self : Handshake.PeerIdentity)
    (actions more : List SiteAction) :
    let site := (begun agent self).run actions
    site.agent.grants.length ≤ agent.grantCapacity ∧
      (site.agent.grants.length = agent.grantCapacity ->
        everyStep step keepsGrants site more = true ->
          forall environment frame, frame.type = .GRANT_TRANSFER ->
            ((site.run more).agent.handle environment frame).1 = (site.run more).agent ∧
              forall reply, reply ∈ ((site.run more).agent.handle environment frame).2 ->
                pendingKey reply = none) := by
  intro site
  have within : site.Within agent.grantCapacity :=
    within_run ⟨rfl, Nat.zero_le _⟩ actions
  refine ⟨within.2, ?_⟩
  intro full keeps environment frame type
  refine EndpointAgent.handle_refused type (fun grant accepted => ?_) environment
  have stays : (site.run more).Full agent.grantCapacity :=
    runFrom_invariant_of_everyStep keeps ⟨within, full⟩ fun site action held kept =>
      ⟨(within_step held.1 action).1, (within_step held.1 action).2 kept held.2⟩
  have room := EndpointAgent.length_lt_of_checkGrant accepted
  rw [stays.2, stays.1.1] at room
  exact Nat.lt_irrefl _ room

end SourceSite

end StateMovementFabric
