import Mathlib.Logic.Function.Basic
import StateMovementFabric.Foundation.Runs
import StateMovementFabric.Wire.Framing

namespace StateMovementFabric

open Foundation

/-!
# Keyed sessions under attack

Two codecs hold one session key.  The network may drop, repeat, reorder and alter
frames, hand a frame back to the side that sent it, and make up new ones.  A made-up
frame has no valid tag, which is the only assumption on the tag.  Two things the codec
does not look at decide what the network can achieve: `verify` lets an unmarked
handshake frame through after the session is keyed, and a tag says nothing about which
side computed it.
-/

/-! ## Insertions into one direction -/

/-- What a keyed receiver is given next: a frame that its peer encodes, or a frame from
elsewhere. -/
inductive Incoming where
  | genuine (type : MessageType) (flags : UInt8) (payload : Bytes)
  | inserted (frame : WireFrame)

/-- The receiver accepts every frame of its peer and refuses every other one. -/
def undisturbed (maxPayloadBytes : UInt32) : FrameCodec -> FrameCodec -> List Incoming -> Bool
  | _, _, [] => true
  | peer, receiver, .genuine type flags payload :: rest =>
      match peer.encode type flags payload maxPayloadBytes with
      | .error _ => undisturbed maxPayloadBytes peer receiver rest
      | .ok (_, sent) =>
          match receiver.verify (peer.outgoing type flags payload).header payload
            maxPayloadBytes with
          | .error _ => false
          | .ok received => undisturbed maxPayloadBytes sent received rest
  | peer, receiver, .inserted frame :: rest =>
      match receiver.verify frame.header frame.payload maxPayloadBytes with
      | .error _ => undisturbed maxPayloadBytes peer receiver rest
      | .ok _ => false

/-- An unmarked handshake frame of the declared length that carries the expected
number. -/
def WireFrame.greets (maxPayloadBytes : UInt32) (expected : UInt64) (frame : WireFrame) : Bool :=
  isHandshakeMessage frame.header.type && !frame.header.authenticated &&
    frame.payload.length ≤ maxPayloadBytes.toNat &&
    frame.payload.length == frame.header.payloadLength.toNat &&
    frame.header.sequence == expected

/-- No inserted frame is an unmarked handshake frame with the number that is next.  The
numbers go up with every message that a keyed peer can send. -/
def ungreeted (maxPayloadBytes : UInt32) : UInt64 -> List Incoming -> Bool
  | _, [] => true
  | expected, .genuine type _ payload :: rest =>
      if payload.length ≤ maxPayloadBytes.toNat && !isHandshakeMessage type then
        ungreeted maxPayloadBytes (expected + 1) rest
      else ungreeted maxPayloadBytes expected rest
  | expected, .inserted frame :: rest =>
      !frame.greets maxPayloadBytes expected && ungreeted maxPayloadBytes expected rest

section Insertion

variable {key : Digest} {maxPayloadBytes : UInt32}

/-- Without a valid tag a frame is accepted exactly if it greets. -/
theorem verify_untagged {receiver : FrameCodec} {frame : WireFrame}
    (keyed : receiver.key = some key)
    (untagged : tagMatches key frame.header frame.payload = false) :
    (exists next, receiver.verify frame.header frame.payload maxPayloadBytes = .ok next) ↔
      frame.greets maxPayloadBytes receiver.expectedSequence = true := by
  simp only [FrameCodec.verify_eq_ok, FrameCodec.admits_eq_ok keyed, untagged, WireFrame.greets,
    Bool.and_eq_true, Bool.not_eq_true', decide_eq_true_eq, beq_iff_eq]
  cases isHandshakeMessage frame.header.type with
  | true =>
      constructor
      · rintro ⟨next, bounded, long, unmarked, number, -⟩
        exact ⟨⟨⟨⟨rfl, unmarked⟩, bounded⟩, long⟩, number⟩
      · rintro ⟨⟨⟨⟨-, unmarked⟩, bounded⟩, long⟩, number⟩
        exact ⟨_, bounded, long, unmarked, number, rfl⟩
  | false => simp

/-- A session is disturbed exactly by handshake frames: whatever else is put between the
genuine frames is refused and costs nothing. -/
theorem undisturbed_iff_ungreeted {peer receiver : FrameCodec} {arrivals : List Incoming}
    (sends : peer.key = some key) (keyed : receiver.key = some key)
    (inStep : peer.sendSequence = receiver.expectedSequence)
    (untagged : forall frame, Incoming.inserted frame ∈ arrivals ->
      tagMatches key frame.header frame.payload = false) :
    undisturbed maxPayloadBytes peer receiver arrivals = true ↔
      ungreeted maxPayloadBytes receiver.expectedSequence arrivals = true := by
  induction arrivals generalizing peer receiver with
  | nil => exact Iff.rfl
  | cons arrival rest ih =>
      have later : forall frame, Incoming.inserted frame ∈ rest ->
          tagMatches key frame.header frame.payload = false :=
        fun frame inside => untagged frame (List.mem_cons_of_mem arrival inside)
      cases arrival with
      | genuine type flags payload =>
          rw [undisturbed, ungreeted]
          by_cases goes : payload.length ≤ maxPayloadBytes.toNat ∧ isHandshakeMessage type = false
          · have sent : peer.encode type flags payload maxPayloadBytes =
                .ok ((peer.outgoing type flags payload).bytes,
                  { peer with sendSequence := peer.sendSequence + 1 }) :=
              (FrameCodec.encode_eq_ok sends).mpr ⟨goes.1, goes.2, rfl, rfl⟩
            have received : receiver.verify (peer.outgoing type flags payload).header payload
                maxPayloadBytes =
                  .ok { receiver with expectedSequence := receiver.expectedSequence + 1 } :=
              FrameCodec.verify_outgoing sends keyed inStep goes.2 goes.1
            rw [sent]
            simp only [received, goes.1, goes.2, decide_true, Bool.not_false, Bool.and_self,
              if_true]
            exact ih sends keyed (by rw [inStep]) later
          · cases encoded : peer.encode type flags payload maxPayloadBytes with
            | ok pair =>
                rcases (FrameCodec.encode_eq_ok sends).mp encoded with ⟨bounded, other, -⟩
                exact absurd ⟨bounded, other⟩ goes
            | error status =>
                have stays : (payload.length ≤ maxPayloadBytes.toNat &&
                    !isHandshakeMessage type) = false := by
                  simpa [not_and] using goes
                simp only [stays, Bool.false_eq_true, if_false]
                exact ih sends keyed inStep later
      | inserted frame =>
          have verdict : (exists next,
                receiver.verify frame.header frame.payload maxPayloadBytes = .ok next) ↔
              frame.greets maxPayloadBytes receiver.expectedSequence = true :=
            verify_untagged keyed (untagged frame List.mem_cons_self)
          rw [undisturbed, ungreeted]
          cases verified : receiver.verify frame.header frame.payload maxPayloadBytes with
          | ok next =>
              rw [verdict.mp ⟨next, verified⟩]
              simp
          | error status =>
              have quiet : frame.greets maxPayloadBytes receiver.expectedSequence = false := by
                rw [← Bool.not_eq_true, ← verdict, verified]
                simp
              rw [quiet]
              simpa using ih sends keyed inStep later

end Insertion

/-- A codec after a handshake, with a session key. -/
def keyedCodec : FrameCodec :=
  { key := some ⟨List.replicate 32 7, rfl⟩, sendSequence := 2, expectedSequence := 2 }

/-- A heartbeat whose tag is all zeros, in front of a genuine one. -/
def forgedHeartbeat : List Incoming :=
  [.inserted ⟨{ flags := kAuthenticated, type := .HEARTBEAT, sequence := 2 }, []⟩,
    .genuine .HEARTBEAT 0 []]

theorem undisturbed_forgedHeartbeat :
    undisturbed 1024 keyedCodec keyedCodec forgedHeartbeat = true := by
  have untagged : forall frame, Incoming.inserted frame ∈ forgedHeartbeat ->
      tagMatches ⟨List.replicate 32 7, rfl⟩ frame.header frame.payload = false := by
    intro frame inside
    simp only [forgedHeartbeat, List.mem_cons, Incoming.inserted.injEq, List.not_mem_nil,
      or_false, reduceCtorEq] at inside
    subst inside
    decide +kernel
  exact (undisturbed_iff_ungreeted rfl rfl rfl untagged).mpr (by decide)

/-- A `HELLO` that anybody can write, in front of a genuine heartbeat. -/
def lateHello : WireFrame := ⟨{ type := .HELLO, sequence := 2 }, []⟩

/-- The keyed codec accepts the `HELLO` and then takes its peer's heartbeat for a
replay. -/
theorem disturbed_lateHello :
    tagMatches ⟨List.replicate 32 7, rfl⟩ lateHello.header lateHello.payload = false ∧
      keyedCodec.verify lateHello.header lateHello.payload 1024 =
        .ok { keyedCodec with expectedSequence := 3 } ∧
      undisturbed 1024 keyedCodec keyedCodec
        [.inserted lateHello, .genuine .HEARTBEAT 0 []] = false ∧
      FrameCodec.verify { keyedCodec with expectedSequence := 3 }
        (keyedCodec.outgoing .HEARTBEAT 0 []).header [] 1024 =
        refuse .PROTOCOL_SEQUENCE_REPLAY "frame sequence number has already been consumed" := by
  decide +kernel

/-! ## Both directions -/

/-- The two ends of a session. -/
inductive Peer where
  | client | server
  deriving DecidableEq, Repr

def Peer.other : Peer -> Peer
  | client => server
  | server => client

/-- One end: its codec, the frames it has encoded since it was keyed, and the frames
other than handshake frames that it has accepted since then. -/
structure SessionEnd where
  codec : FrameCodec
  sent : List WireFrame := []
  accepted : List WireFrame := []

/-- A session. -/
abbrev Session := Peer -> SessionEnd

inductive SessionAction where
  | send (peer : Peer) (type : MessageType) (flags : UInt8) (payload : Bytes)
  | deliver (peer : Peer) (frame : WireFrame)

namespace Session

/-- A handshake between two fresh codecs: `HELLO`, its answer, and the same key on both
sides. -/
def handshake (maxPayloadBytes : UInt32) (hello response : Bytes) (key : Digest) :
    Result Session := do
  let (_, greeted) ← ({} : FrameCodec).encode .HELLO 0 hello maxPayloadBytes
  let heard ← ({} : FrameCodec).verify (({} : FrameCodec).outgoing .HELLO 0 hello).header hello
    maxPayloadBytes
  let (_, answered) ← heard.encode .HELLO_ACK 0 response maxPayloadBytes
  let opened ← greeted.verify (heard.outgoing .HELLO_ACK 0 response).header response
    maxPayloadBytes
  return fun
    | .client => { codec := opened.setSessionKey key.bytes }
    | .server => { codec := answered.setSessionKey key.bytes }

/-- One end encodes a message, or is given a frame by the network. -/
def step (maxPayloadBytes : UInt32) (session : Session) : SessionAction -> Session
  | .send peer type flags payload =>
      match (session peer).codec.encode type flags payload maxPayloadBytes with
      | .error _ => session
      | .ok (_, next) =>
          Function.update session peer
            { session peer with
              codec := next
              sent := (session peer).sent ++
                [(session peer).codec.outgoing type flags payload] }
  | .deliver peer frame =>
      match (session peer).codec.verify frame.header frame.payload maxPayloadBytes with
      | .error _ => session
      | .ok next =>
          Function.update session peer
            { session peer with
              codec := next
              accepted := (session peer).accepted ++
                (if isHandshakeMessage frame.header.type then [] else [frame]) }

/-- A tag verifies only if one of the two ends computed it for those 24 header bytes and
that payload. -/
def unforged (key : Digest) (session : Session) : SessionAction -> Bool
  | .send .. => true
  | .deliver _ frame =>
      !tagMatches key frame.header frame.payload ||
        ((session .client).sent ++ (session .server).sent).any frame.sameText

/-- A frame with the expected number is no handshake frame and none that the receiver
has sent itself; and no codec runs out of numbers. -/
def undiverted (session : Session) : SessionAction -> Bool
  | .send peer _ _ _ => (session peer).codec.sendSequence + 1 != 0
  | .deliver peer frame =>
      frame.header.sequence != (session peer).codec.expectedSequence ||
        !isHandshakeMessage frame.header.type && !(session peer).sent.any frame.sameText

/-- What an end has accepted is a prefix of what the other end has sent. -/
def Agreement (session : Session) : Prop :=
  forall peer, (session peer).accepted.map WireFrame.content <+:
    (session peer.other).sent.map WireFrame.content

/-! ## Why a session agrees -/

/-- Both ends are keyed, each end's frames are numbered one after another from `first`,
and what an end has accepted is what the other end has sent so far, up to the number it
expects. -/
structure InStep (key : Digest) (first : Peer -> Nat) (session : Session) : Prop where
  keyed : forall peer, (session peer).codec.key = some key
  next : forall peer,
    (session peer).codec.sendSequence.toNat = first peer + (session peer).sent.length
  numbers : forall peer index frame, (session peer).sent[index]? = some frame ->
    frame.header.sequence.toNat = first peer + index
  expected : forall peer, (session peer).codec.expectedSequence.toNat =
    first peer.other + (session peer).accepted.length
  agrees : session.Agreement

theorem other_ne (peer : Peer) : peer.other ≠ peer := by
  cases peer <;> decide

/-- The element behind a prefix extends the prefix. -/
theorem concat_isPrefix {α : Type} {front whole : List α} {item : α} (before : front <+: whole)
    (here : whole[front.length]? = some item) : front ++ [item] <+: whole := by
  rcases before with ⟨rest, rfl⟩
  rw [List.getElem?_append_right (le_refl _), Nat.sub_self] at here
  cases rest with
  | nil => cases here
  | cons head tail =>
      cases here
      exact ⟨tail, by simp⟩

section Keeping

variable {key : Digest} {first : Peer -> Nat} {session : Session} {peer : Peer}
  {frame : WireFrame} {maxPayloadBytes : UInt32}

/-- A frame that an end sends carries that end's next number. -/
theorem InStep.send {type : MessageType} {flags : UInt8} {payload : Bytes}
    (inStep : InStep key first session) (more : (session peer).codec.sendSequence + 1 ≠ 0) :
    InStep key first (Function.update session peer
      { session peer with
        codec := { (session peer).codec with
          sendSequence := (session peer).codec.sendSequence + 1 }
        sent := (session peer).sent ++ [(session peer).codec.outgoing type flags payload] }) := by
  have room : (session peer).codec.sendSequence.toNat + 1 < 2 ^ 64 := by
    by_contra full
    apply more
    apply UInt64.toNat_inj.mp
    have bound := (session peer).codec.sendSequence.toNat_lt
    rw [UInt64.toNat_add]
    change ((session peer).codec.sendSequence.toNat + 1) % 2 ^ 64 = 0
    omega
  constructor
  · exact (Function.forall_update_iff session fun _ side => side.codec.key = some key).mpr
      ⟨inStep.keyed peer, fun each _ => inStep.keyed each⟩
  · apply (Function.forall_update_iff session fun each side =>
      side.codec.sendSequence.toNat = first each + side.sent.length).mpr
    refine ⟨?_, fun each _ => inStep.next each⟩
    rw [List.length_append, List.length_singleton, ← Nat.add_assoc, ← inStep.next peer,
      UInt64.toNat_add]
    exact Nat.mod_eq_of_lt room
  · apply (Function.forall_update_iff session fun each side => forall index frame,
      side.sent[index]? = some frame -> frame.header.sequence.toNat = first each + index).mpr
    refine ⟨?_, fun each _ => inStep.numbers each⟩
    intro index sent found
    by_cases earlier : index < (session peer).sent.length
    · rw [List.getElem?_append_left earlier] at found
      exact inStep.numbers peer index sent found
    · rw [List.getElem?_append_right (Nat.not_lt.mp earlier), List.getElem?_singleton] at found
      split at found
      · next last =>
          cases found
          rw [FrameCodec.sequence_outgoing, inStep.next peer]
          omega
      · cases found
  · exact (Function.forall_update_iff session fun each side =>
      side.codec.expectedSequence.toNat = first each.other + side.accepted.length).mpr
        ⟨inStep.expected peer, fun each _ => inStep.expected each⟩
  · intro each
    by_cases same : each = peer
    · subst same
      rw [Function.update_self, Function.update_of_ne (other_ne each)]
      exact inStep.agrees each
    · by_cases sender : each.other = peer
      · subst sender
        rw [Function.update_of_ne same, Function.update_self, List.map_append]
        exact (inStep.agrees each).trans (List.prefix_append _ _)
      · rw [Function.update_of_ne same, Function.update_of_ne sender]
        exact inStep.agrees each

/-- A frame with a verified tag that carries the expected number and was not sent by its
receiver is the other end's next frame. -/
theorem InStep.isNext (inStep : InStep key first session)
    (sentText : ((session .client).sent ++ (session .server).sent).any frame.sameText = true)
    (foreign : (session peer).sent.any frame.sameText = false)
    (number : frame.header.sequence = (session peer).codec.expectedSequence) :
    ((session peer.other).sent.map WireFrame.content)[(session peer).accepted.length]? =
      some frame.content := by
  have inOther : (session peer.other).sent.any frame.sameText = true := by
    rw [List.any_append, Bool.or_eq_true] at sentText
    cases peer with
    | client => exact sentText.resolve_left (by rw [foreign]; decide)
    | server => exact sentText.resolve_right (by rw [foreign]; decide)
  rcases List.any_eq_true.mp inOther with ⟨sent, member, same⟩
  rcases List.mem_iff_getElem?.mp member with ⟨index, at_index⟩
  rw [WireFrame.sameText, Bool.and_eq_true, beq_iff_eq, beq_iff_eq] at same
  rcases FrameHeader.fields_of_covered same.1 with ⟨flags, type, sequence⟩
  -- Both the frame's place and the expected number are counted from the same first number.
  have place : index = (session peer).accepted.length := by
    have byPlace := inStep.numbers peer.other index sent at_index
    rw [← sequence, number, inStep.expected peer] at byPlace
    omega
  rw [List.getElem?_map, ← place, at_index]
  simp only [Option.map_some, WireFrame.content, Option.some.injEq, Prod.mk.injEq]
  exact ⟨type.symm, flags.symm, same.2.symm⟩

theorem InStep.deliver (inStep : InStep key first session)
    (nextFrame : ((session peer.other).sent.map WireFrame.content)[
      (session peer).accepted.length]? = some frame.content) :
    InStep key first (Function.update session peer
      { session peer with
        codec := { (session peer).codec with
          expectedSequence := (session peer).codec.expectedSequence + 1 }
        accepted := (session peer).accepted ++ [frame] }) := by
  have unfinished : (session peer).accepted.length < (session peer.other).sent.length := by
    rcases List.getElem?_eq_some_iff.mp nextFrame with ⟨inside, -⟩
    rwa [List.length_map] at inside
  have room : (session peer).codec.expectedSequence.toNat + 1 < 2 ^ 64 := by
    have bound := (session peer.other).codec.sendSequence.toNat_lt
    rw [inStep.next] at bound
    rw [inStep.expected]
    omega
  constructor
  · exact (Function.forall_update_iff session fun _ side => side.codec.key = some key).mpr
      ⟨inStep.keyed peer, fun each _ => inStep.keyed each⟩
  · exact (Function.forall_update_iff session fun each side =>
      side.codec.sendSequence.toNat = first each + side.sent.length).mpr
        ⟨inStep.next peer, fun each _ => inStep.next each⟩
  · apply (Function.forall_update_iff session fun each side => forall index frame,
      side.sent[index]? = some frame -> frame.header.sequence.toNat = first each + index).mpr
    exact ⟨inStep.numbers peer, fun each _ => inStep.numbers each⟩
  · apply (Function.forall_update_iff session fun each side =>
      side.codec.expectedSequence.toNat = first each.other + side.accepted.length).mpr
    refine ⟨?_, fun each _ => inStep.expected each⟩
    rw [List.length_append, List.length_singleton, ← Nat.add_assoc, ← inStep.expected peer,
      UInt64.toNat_add]
    exact Nat.mod_eq_of_lt room
  · intro each
    by_cases same : each = peer
    · subst same
      rw [Function.update_self, Function.update_of_ne (other_ne each), List.map_append]
      exact concat_isPrefix (inStep.agrees each) (by rwa [List.length_map])
    · by_cases sender : each.other = peer
      · subst sender
        rw [Function.update_of_ne same, Function.update_self]
        exact inStep.agrees each
      · rw [Function.update_of_ne same, Function.update_of_ne sender]
        exact inStep.agrees each

/-- What one step keeps. -/
theorem InStep.step {action : SessionAction} (inStep : InStep key first session)
    (honest : unforged key session action = true) (kept : undiverted session action = true) :
    InStep key first (session.step maxPayloadBytes action) := by
  cases action with
  | send peer type flags payload =>
      rw [Session.step]
      split
      · exact inStep
      · next bytes next encoded =>
          rcases (FrameCodec.encode_eq_ok (inStep.keyed peer)).mp encoded with ⟨-, -, -, rfl⟩
          exact inStep.send (bne_iff_ne.mp kept)
  | deliver peer frame =>
      rw [Session.step]
      split
      · exact inStep
      · next next verified =>
          rcases FrameCodec.verify_eq_ok.mp verified with ⟨-, -, admitted, number, rfl⟩
          have expected : (frame.header.sequence != (session peer).codec.expectedSequence) =
              false := bne_eq_false_iff_eq.mpr number
          rw [undiverted, expected, Bool.false_or, Bool.and_eq_true, Bool.not_eq_true',
            Bool.not_eq_true'] at kept
          rw [FrameCodec.admits_eq_ok (inStep.keyed peer), kept.1] at admitted
          simp only [Bool.false_eq_true, if_false] at admitted
          rw [unforged, admitted.2, Bool.not_true, Bool.false_or] at honest
          rw [kept.1]
          exact inStep.deliver (inStep.isNext honest kept.2 number)

end Keeping

/-- After a handshake nothing has been sent under the key, and both ends expect the
number that the other sends next. -/
theorem inStep_handshake {maxPayloadBytes : UInt32} {hello response : Bytes} {key : Digest}
    {session : Session} (opened : handshake maxPayloadBytes hello response key = .ok session) :
    InStep key (fun _ => 2) session := by
  rw [handshake] at opened
  rcases bind_eq_ok.mp opened with ⟨⟨helloBytes, greeted⟩, sentHello, opened⟩
  rcases bind_eq_ok.mp opened with ⟨heard, acceptedHello, opened⟩
  rcases bind_eq_ok.mp opened with ⟨⟨ackBytes, answered⟩, sentAck, opened⟩
  rcases bind_eq_ok.mp opened with ⟨ready, acceptedAck, opened⟩
  rcases FrameCodec.verify_eq_ok.mp acceptedHello with ⟨-, -, -, -, rfl⟩
  rcases FrameCodec.verify_eq_ok.mp acceptedAck with ⟨-, -, -, -, rfl⟩
  cases FrameCodec.encode_leaves sentHello
  cases FrameCodec.encode_leaves sentAck
  cases opened
  constructor
  · intro peer
    cases peer <;> exact congrArg some (FrameCodec.sessionKey_digest key)
  · intro peer
    cases peer <;> rfl
  · intro peer index frame found
    cases peer <;> cases found
  · intro peer
    cases peer <;> rfl
  · intro peer
    cases peer <;> exact List.nil_prefix

/-- In every run after a handshake in which a tag verifies only for what one of the ends
has sent, no end is given a handshake frame or a frame of its own where it expects the
next number, and no codec runs out of numbers, both ends accept a prefix of what the
other has sent. -/
theorem agreement_of_undiverted {maxPayloadBytes : UInt32} {hello response : Bytes}
    {key : Digest} {session : Session} {actions : List SessionAction}
    (opened : handshake maxPayloadBytes hello response key = .ok session)
    (honest : everyStep (step maxPayloadBytes) (unforged key) session actions = true)
    (kept : everyStep (step maxPayloadBytes) undiverted session actions = true) :
    (runFrom (step maxPayloadBytes) session actions).Agreement := by
  have inStep : InStep key (fun _ => 2) (runFrom (step maxPayloadBytes) session actions) := by
    apply runFrom_invariant_of_everyStep (everyStep_and honest kept) (inStep_handshake opened)
    intro session action inStep meets
    rw [Bool.and_eq_true] at meets
    exact inStep.step meets.1 meets.2
  exact inStep.agrees

/-- The key of the runs below. -/
def sampleKey : Digest := ⟨List.replicate 32 7, rfl⟩

/-- A session after a handshake with empty messages. -/
def sampleSession : Session := fun _ => { codec := keyedCodec }

theorem handshake_sample : handshake 1024 [] [] sampleKey = .ok sampleSession := by
  have opened : handshake 1024 [] [] sampleKey = .ok fun
      | .client => { codec := keyedCodec }
      | .server => { codec := keyedCodec } := rfl
  rw [opened]
  congr 1
  funext peer
  cases peer <;> rfl

/-- The client sends a heartbeat and the network delivers it. -/
def plainRun : List SessionAction :=
  [.send .client .HEARTBEAT 0 [], .deliver .server (keyedCodec.outgoing .HEARTBEAT 0 [])]

theorem agreement_plainRun :
    (runFrom (step 1024) sampleSession plainRun).Agreement ∧
      ((runFrom (step 1024) sampleSession plainRun) .server).accepted.length = 1 := by
  have evaluated : everyStep (step 1024) (unforged sampleKey) sampleSession plainRun = true ∧
      everyStep (step 1024) undiverted sampleSession plainRun = true ∧
      ((runFrom (step 1024) sampleSession plainRun) .server).accepted.length = 1 := by
    decide +kernel
  rcases evaluated with ⟨honest, kept, accepted⟩
  exact ⟨agreement_of_undiverted handshake_sample honest kept, accepted⟩

/-- The client's heartbeat is handed back to the client. -/
def reflectedRun : List SessionAction :=
  [.send .client .HEARTBEAT 0 [], .deliver .client (keyedCodec.outgoing .HEARTBEAT 0 [])]

/-- The server is given a `HELLO` that nobody has sent, and then the client's second
frame. -/
def greetedRun : List SessionAction :=
  [.send .client .HEARTBEAT 0 [], .send .client .SHUTDOWN 0 [], .deliver .server lateHello,
    .deliver .server (FrameCodec.outgoing { keyedCodec with sendSequence := 3 } .SHUTDOWN 0 [])]

/-- In both runs a tag verifies only for what an end has sent, and in both an end accepts
what the other has not sent, or not sent first. -/
theorem disagreement_reflected_greeted :
    handshake 1024 [] [] sampleKey = .ok sampleSession ∧
      everyStep (step 1024) (unforged sampleKey) sampleSession reflectedRun = true ∧
      ¬ (runFrom (step 1024) sampleSession reflectedRun).Agreement ∧
      everyStep (step 1024) (unforged sampleKey) sampleSession greetedRun = true ∧
      ¬ (runFrom (step 1024) sampleSession greetedRun).Agreement := by
  have reflected : everyStep (step 1024) (unforged sampleKey) sampleSession reflectedRun = true ∧
      everyStep (step 1024) (unforged sampleKey) sampleSession greetedRun = true ∧
      (((runFrom (step 1024) sampleSession reflectedRun) .client).accepted.map
          WireFrame.content).isPrefixOf
        (((runFrom (step 1024) sampleSession reflectedRun) .server).sent.map
          WireFrame.content) = false ∧
      (((runFrom (step 1024) sampleSession greetedRun) .server).accepted.map
          WireFrame.content).isPrefixOf
        (((runFrom (step 1024) sampleSession greetedRun) .client).sent.map
          WireFrame.content) = false := by
    decide +kernel
  rcases reflected with ⟨honest, alsoHonest, foreign, skipped⟩
  refine ⟨handshake_sample, honest, ?_, alsoHonest, ?_⟩
  · intro agrees
    have isPrefix := List.isPrefixOf_iff_prefix.mpr (agrees .client)
    rw [Peer.other, foreign] at isPrefix
    cases isPrefix
  · intro agrees
    have isPrefix := List.isPrefixOf_iff_prefix.mpr (agrees .server)
    rw [Peer.other, skipped] at isPrefix
    cases isPrefix

end Session

end StateMovementFabric
