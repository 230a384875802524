import StateMovementFabric.Foundation.PacedReading
import StateMovementFabric.Wire.Framing

namespace StateMovementFabric

open Foundation

/-!
# Framed conversations

A `FrameStream` writes its frames one after the other into a connection, and its peer reads
them from there in whatever pieces the connection delivers.  Both ends agree on when the
session key is set, so a conversation is one script: messages, and the points at which the
key is set on both sides.
-/

/-! ## The two ends -/

namespace FrameStream

/-- `FrameStream::read_exactly`. -/
def readExactly (pace : Nat -> Nat) (connection : Source Byte) (count : Nat) :
    Source Byte × Result Bytes :=
  match connection.readExactly pace count with
  | (rest, .full bytes) => (rest, .ok bytes)
  | (rest, .nothing) => (rest, refuse .CONNECTION_CLOSED "peer closed the connection")
  | (rest, .short) => (rest, refuse .PROTOCOL_TRUNCATED "connection closed mid-frame")

/-- The part of `FrameStream::receive` behind the header.  A payload that is declared empty is
not read, and a failure to read any other is returned as it is. -/
def receivePayload (pace : Nat -> Nat) (maxPayloadBytes : UInt32) (codec : FrameCodec)
    (connection : Source Byte) (header : FrameHeader) :
    Source Byte × Result (WireFrame × FrameCodec) :=
  match (if header.payloadLength = 0 then (connection, .ok [])
    else readExactly pace connection header.payloadLength.toNat) with
  | (rest, .error status) => (rest, .error status)
  | (rest, .ok payload) =>
      match codec.verify header payload maxPayloadBytes with
      | .error status => (rest, .error status)
      | .ok next => (rest, .ok (⟨header, payload⟩, next))

/-- `FrameStream::receive`. -/
def receive (pace : Nat -> Nat) (maxPayloadBytes : UInt32) (codec : FrameCodec)
    (connection : Source Byte) : Source Byte × Result (WireFrame × FrameCodec) :=
  match readExactly pace connection kFrameHeaderBytes with
  | (rest, .error status) => (rest, .error status)
  | (rest, .ok headerBytes) =>
      match decodeFrameHeader headerBytes maxPayloadBytes with
      | .error status => (rest, .error status)
      | .ok header => receivePayload pace maxPayloadBytes codec rest header

end FrameStream

/-- What is given to `FrameStream::send`. -/
structure Message where
  type : MessageType
  flags : UInt8
  payload : Bytes
  deriving DecidableEq

/-- What happens at both ends: the key is set, or a message is sent and received. -/
inductive StreamAct where
  | sets (key : Bytes)
  | sends (message : Message)
  deriving DecidableEq

namespace StreamAct

/-- The bytes that one end sends. -/
def sendAll (maxPayloadBytes : UInt32) : FrameCodec -> List StreamAct -> Result Bytes
  | _, [] => .ok []
  | codec, sets key :: rest => sendAll maxPayloadBytes (codec.setSessionKey key) rest
  | codec, sends message :: rest => do
      let sent ← codec.encode message.type message.flags message.payload maxPayloadBytes
      let others ← sendAll maxPayloadBytes sent.2 rest
      return sent.1 ++ others

/-- The frames that the other end receives, one more call of `receive` than messages were
sent, up to the first failure. -/
def receiveAll (pace : Nat -> Nat) (maxPayloadBytes : UInt32) :
    FrameCodec -> Source Byte -> List StreamAct -> List WireFrame × Option Status
  | codec, connection, [] =>
      match FrameStream.receive pace maxPayloadBytes codec connection with
      | (_, .error status) => ([], some status)
      | (_, .ok (frame, _)) => ([frame], none)
  | codec, connection, sets key :: rest =>
      receiveAll pace maxPayloadBytes (codec.setSessionKey key) connection rest
  | codec, connection, sends _ :: rest =>
      match FrameStream.receive pace maxPayloadBytes codec connection with
      | (_, .error status) => ([], some status)
      | (left, .ok (frame, next)) =>
          let later := receiveAll pace maxPayloadBytes next left rest
          (frame :: later.1, later.2)

/-! ## What a conversation should bring -/

/-- `FrameFlag::RESPONSE | FrameFlag::ERROR`. -/
def kExtraFlags : UInt8 := 0x02 ||| 0x04

/-- A message that may be sent: a handshake message before the key is set and another declared
message after it, with the flags a sender may give and a payload within the bound. -/
structure Fits (maxPayloadBytes : UInt32) (keyed : Bool) (message : Message) : Prop where
  declared : message.type ≠ .INVALID
  phase : isHandshakeMessage message.type = !keyed
  flags : message.flags &&& ~~~kExtraFlags = 0
  bounded : message.payload.length ≤ maxPayloadBytes.toNat

/-- Every message may be sent where it is. -/
def InOrder (maxPayloadBytes : UInt32) : Bool -> List StreamAct -> Prop
  | _, [] => True
  | _, sets _ :: rest => InOrder maxPayloadBytes true rest
  | keyed, sends message :: rest =>
      Fits maxPayloadBytes keyed message ∧ InOrder maxPayloadBytes keyed rest

/-- The flags with which a message arrives. -/
def marked (keyed : Bool) (message : Message) : UInt8 :=
  if keyed then message.flags ||| kAuthenticated else message.flags

/-- The messages as a receiver should see them. -/
def contents : Bool -> List StreamAct -> List (MessageType × UInt8 × Bytes)
  | _, [] => []
  | _, sets _ :: rest => contents true rest
  | keyed, sends message :: rest =>
      (message.type, marked keyed message, message.payload) :: contents keyed rest

/-- How many messages are wholly within the first `cut` bytes, and how many bytes of the next
one are there. -/
def delivered : Nat -> List StreamAct -> Nat × Nat
  | _, [] => (0, 0)
  | cut, sets _ :: rest => delivered cut rest
  | cut, sends message :: rest =>
      let size := kFrameHeaderBytes + message.payload.length
      if size ≤ cut then
        let later := delivered (cut - size) rest
        (later.1 + 1, later.2)
      else (0, cut)

/-- How many frame headers are wholly there. -/
def headers (cut : Nat) (script : List StreamAct) : Nat :=
  (delivered cut script).1 + if kFrameHeaderBytes ≤ (delivered cut script).2 then 1 else 0

/-- The receiver sees exactly the messages that are wholly there, and then an orderly close
at the end of a frame or a truncation within one. -/
def Brings (script : List StreamAct) (keyed : Bool) (cut : Nat)
    (outcome : List WireFrame × Option Status) : Prop :=
  outcome.1.map WireFrame.content = (contents keyed script).take (delivered cut script).1 ∧
    outcome.2.map Status.code =
      some (if (delivered cut script).2 = 0 then .CONNECTION_CLOSED else .PROTOCOL_TRUNCATED)

/-- The first `cut` bytes of what a new stream sends, received in pieces by a new stream. -/
def Lossless (pace : Nat -> Nat) (maxPayloadBytes : UInt32) (script : List StreamAct)
    (cut : Nat) : Prop :=
  exists sent, sendAll maxPayloadBytes {} script = .ok sent ∧
    Brings script false cut (receiveAll pace maxPayloadBytes {} ⟨sent.take cut, 0⟩ script)

/-! ## One frame -/

end StreamAct

namespace FrameStream

variable {pace : Nat -> Nat} {maxPayloadBytes : UInt32} {codec : FrameCodec}
  {connection : Source Byte} {count : Nat} {header : FrameHeader}

theorem readExactly_whole (pace : Nat -> Nat) (enough : count ≤ connection.remaining.length) :
    exists reads, readExactly pace connection count =
      (⟨connection.remaining.drop count, reads⟩, .ok (connection.remaining.take count)) := by
  rcases Source.readExactly_whole pace enough with ⟨reads, filled⟩
  exact ⟨reads, by rw [readExactly, filled]⟩

theorem readExactly_lacking (pace : Nat -> Nat) (lacking : connection.remaining.length < count) :
    (readExactly pace connection count).2 =
      if connection.remaining.isEmpty then
        refuse .CONNECTION_CLOSED "peer closed the connection"
      else refuse .PROTOCOL_TRUNCATED "connection closed mid-frame" := by
  have ended := Source.readExactly_lacking pace lacking
  unfold readExactly
  generalize connection.readExactly pace count = attempt at ended ⊢
  rcases attempt with ⟨rest, filling⟩
  rw [show filling = _ from ended]
  cases connection.remaining.isEmpty <;> rfl

/-- A header that is wholly there is looked at first. -/
theorem receive_of_header (pace : Nat -> Nat) (maxPayloadBytes : UInt32) (codec : FrameCodec)
    (connection : Source Byte)
    (enough : kFrameHeaderBytes ≤ connection.remaining.length) :
    exists reads, receive pace maxPayloadBytes codec connection =
      match decodeFrameHeader (connection.remaining.take kFrameHeaderBytes) maxPayloadBytes with
      | .error status =>
          (⟨connection.remaining.drop kFrameHeaderBytes, reads⟩, .error status)
      | .ok header => receivePayload pace maxPayloadBytes codec
          ⟨connection.remaining.drop kFrameHeaderBytes, reads⟩ header := by
  rcases readExactly_whole pace enough with ⟨reads, read⟩
  exact ⟨reads, by rw [receive, read]⟩

/-- A header that is not wholly there. -/
theorem receive_of_short (lacking : connection.remaining.length < kFrameHeaderBytes) :
    (receive pace maxPayloadBytes codec connection).2 =
      if connection.remaining.isEmpty then
        refuse .CONNECTION_CLOSED "peer closed the connection"
      else refuse .PROTOCOL_TRUNCATED "connection closed mid-frame" := by
  have ended := readExactly_lacking pace lacking
  unfold receive
  generalize readExactly pace connection kFrameHeaderBytes = attempt at ended ⊢
  rcases attempt with ⟨rest, read⟩
  rw [show read = _ from ended]
  cases connection.remaining.isEmpty <;> rfl

/-- A payload that is wholly there is checked by the codec. -/
theorem receivePayload_whole (pace : Nat -> Nat) {next : FrameCodec}
    (enough : header.payloadLength.toNat ≤ connection.remaining.length)
    (verified : codec.verify header (connection.remaining.take header.payloadLength.toNat)
      maxPayloadBytes = .ok next) :
    exists reads, receivePayload pace maxPayloadBytes codec connection header =
      (⟨connection.remaining.drop header.payloadLength.toNat, reads⟩,
        .ok (⟨header, connection.remaining.take header.payloadLength.toNat⟩, next)) := by
  unfold receivePayload
  by_cases empty : header.payloadLength = 0
  · have none : header.payloadLength.toNat = 0 := by rw [empty]; rfl
    rw [none, List.take_zero] at verified
    rw [if_pos empty, none, List.drop_zero, List.take_zero]
    exact ⟨connection.reads, by dsimp only; rw [verified]⟩
  · rcases readExactly_whole pace enough with ⟨reads, read⟩
    rw [if_neg empty, read]
    exact ⟨reads, by dsimp only; rw [verified]⟩

/-- A payload that is not wholly there.  The peer has closed before its first byte, or
within it. -/
theorem receivePayload_short (lacking : connection.remaining.length < header.payloadLength.toNat) :
    (receivePayload pace maxPayloadBytes codec connection header).2 =
      if connection.remaining.isEmpty then
        refuse .CONNECTION_CLOSED "peer closed the connection"
      else refuse .PROTOCOL_TRUNCATED "connection closed mid-frame" := by
  have ended := readExactly_lacking pace lacking
  have declared : header.payloadLength ≠ 0 := by
    intro zero
    rw [zero] at lacking
    exact Nat.not_lt_zero _ lacking
  unfold receivePayload
  rw [if_neg declared]
  generalize readExactly pace connection header.payloadLength.toNat = attempt at ended ⊢
  rcases attempt with ⟨rest, read⟩
  rw [show read = _ from ended]
  cases connection.remaining.isEmpty <;> rfl

end FrameStream

namespace StreamAct

/-- Two ends that have come equally far. -/
structure Paired (sender receiver : FrameCodec) (keyed : Bool) (number : Nat) : Prop where
  key : receiver.key = sender.key
  keyed : sender.key.isSome = keyed
  sends : sender.sendSequence = UInt64.ofNat number
  expects : receiver.expectedSequence = UInt64.ofNat number

variable {pace : Nat -> Nat} {maxPayloadBytes : UInt32} {sender receiver : FrameCodec}
  {keyed : Bool} {number : Nat} {message : Message}

/-- The frame of a message. -/
abbrev frameOf (sender : FrameCodec) (message : Message) : WireFrame :=
  sender.outgoing message.type message.flags message.payload

theorem flags_known {flags : UInt8} (extra : flags &&& ~~~kExtraFlags = 0) :
    (flags ||| kAuthenticated) &&& ~~~kKnownFlags = 0 ∧ flags &&& ~~~kKnownFlags = 0 ∧
      flags &&& kAuthenticated = 0 := by
  have bits : forall low : Fin 256, UInt8.ofNat low.val &&& ~~~kExtraFlags = 0 ->
      (UInt8.ofNat low.val ||| kAuthenticated) &&& ~~~kKnownFlags = 0 ∧
        UInt8.ofNat low.val &&& ~~~kKnownFlags = 0 ∧
        UInt8.ofNat low.val &&& kAuthenticated = 0 := by
    decide +kernel
  have all := bits ⟨flags.toNat, flags.toNat_lt⟩
  rw [UInt8.ofNat_toNat] at all
  exact all extra

/-- The header that is sent, apart from its tag. -/
theorem header_frameOf (message : Message) (keys : sender.key.isSome = keyed) :
    (frameOf sender message).header =
      { flags := marked keyed message
        type := message.type
        payloadLength := .ofNat message.payload.length
        sequence := sender.sendSequence
        authTag := (frameOf sender message).header.authTag } := by
  cases keys
  unfold frameOf FrameCodec.outgoing marked
  cases sender.key <;> rfl

theorem payload_frameOf : (frameOf sender message).payload = message.payload := by
  unfold frameOf FrameCodec.outgoing
  cases sender.key <;> rfl

theorem length_frameOf : (frameOf sender message).bytes.length =
    kFrameHeaderBytes + message.payload.length := by
  rw [WireFrame.bytes, List.length_append, length_encodeFrameHeader, payload_frameOf]

theorem payloadLength_frameOf (fits : Fits maxPayloadBytes keyed message) :
    (frameOf sender message).header.payloadLength.toNat = message.payload.length := by
  rw [FrameCodec.payloadLength_outgoing]
  exact UInt32.toNat_ofNat_of_lt' (Nat.lt_of_le_of_lt fits.bounded maxPayloadBytes.toNat_lt)

theorem encode_fits (fits : Fits maxPayloadBytes keyed message)
    (keys : sender.key.isSome = keyed) :
    sender.encode message.type message.flags message.payload maxPayloadBytes =
      .ok ((frameOf sender message).bytes,
        { sender with sendSequence := sender.sendSequence + 1 }) := by
  have within : decide (message.payload.length > maxPayloadBytes.toNat) = false := by
    rw [decide_eq_false_iff_not]
    exact Nat.not_lt.mpr fits.bounded
  rw [FrameCodec.encode, within, fits.phase, ← keys]
  cases sender.key <;> rfl

/-- The header of a message is read back, unless its number has run out. -/
theorem decode_fits (fits : Fits maxPayloadBytes keyed message)
    (keys : sender.key.isSome = keyed) :
    decodeFrameHeader (encodeFrameHeader (frameOf sender message).header) maxPayloadBytes =
      if sender.sendSequence = 0 then
        refuse .PROTOCOL_CANONICAL_VIOLATION "frame sequence numbers start at one"
      else .ok (frameOf sender message).header.cut := by
  have header := header_frameOf message keys
  have version : (frameOf sender message).header.version = kProtocolVersion := by rw [header]
  have flags : (frameOf sender message).header.flags &&& ~~~kKnownFlags = 0 := by
    have known := flags_known fits.flags
    rw [header]
    unfold marked
    split
    · exact known.1
    · exact known.2.1
  have declared : (frameOf sender message).header.type ≠ .INVALID := by
    rw [header]
    exact fits.declared
  have bounded : (frameOf sender message).header.payloadLength.toNat ≤ maxPayloadBytes.toNat := by
    rw [payloadLength_frameOf fits]
    exact fits.bounded
  rw [decodeFrameHeader_encode version flags declared bounded, FrameCodec.sequence_outgoing]

/-- The peer accepts the frame of a message with the number it expects. -/
theorem verify_fits (fits : Fits maxPayloadBytes keyed message)
    (paired : Paired sender receiver keyed number) :
    receiver.verify (frameOf sender message).header.cut message.payload maxPayloadBytes =
      .ok { receiver with expectedSequence := receiver.expectedSequence + 1 } := by
  have length : message.payload.length =
      (frameOf sender message).header.cut.payloadLength.toNat := (payloadLength_frameOf fits).symm
  have sequence : (frameOf sender message).header.cut.sequence = receiver.expectedSequence := by
    rw [paired.expects, ← paired.sends]
    exact FrameCodec.sequence_outgoing _ _ _ _
  have header := header_frameOf message paired.keyed
  rw [FrameCodec.verify_eq_ok]
  refine ⟨fits.bounded, length, ?_, sequence, rfl⟩
  cases found : sender.key with
  | some key =>
      have sent : isHandshakeMessage message.type = false := by
        rw [fits.phase, ← paired.keyed, found]
        rfl
      have admitted : receiver.admits (frameOf sender message).header message.payload = .ok () :=
        FrameCodec.admits_outgoing found (paired.key.trans found) sent
      rw [FrameCodec.admits_eq_ok (paired.key.trans found)] at admitted ⊢
      rw [tagMatches_cut]
      exact admitted
  | none =>
      have greets : isHandshakeMessage message.type = true := by
        rw [fits.phase, ← paired.keyed, found]
        rfl
      have plain : keyed = false := by
        rw [← paired.keyed, found]
        rfl
      have type : (frameOf sender message).header.cut.type = message.type := by
        change (frameOf sender message).header.type = _
        rw [header]
      have unmarked : (frameOf sender message).header.cut.authenticated = false := by
        change ((frameOf sender message).header.flags &&& kAuthenticated != 0) = false
        rw [header, plain]
        change (message.flags &&& kAuthenticated != 0) = false
        rw [(flags_known fits.flags).2.2]
        rfl
      rw [FrameCodec.admits, type, greets, if_pos rfl, unmarked]
      rfl

/-- The header is at the front of whatever is there of a frame and what follows it. -/
theorem take_header {cut : Nat} {rest : Bytes} (whole : kFrameHeaderBytes ≤ cut) :
    (((frameOf sender message).bytes ++ rest).take cut).take kFrameHeaderBytes =
      encodeFrameHeader (frameOf sender message).header := by
  rw [List.take_take, Nat.min_eq_left whole, WireFrame.bytes, List.append_assoc,
    ← length_encodeFrameHeader (frameOf sender message).header, List.take_left]

theorem drop_header {cut : Nat} {rest : Bytes} :
    (((frameOf sender message).bytes ++ rest).take cut).drop kFrameHeaderBytes =
      (message.payload ++ rest).take (cut - kFrameHeaderBytes) := by
  rw [List.drop_take, WireFrame.bytes, List.append_assoc, payload_frameOf]
  congr 1
  rw [← length_encodeFrameHeader (frameOf sender message).header, List.drop_left]

section Arrival

variable {cut reads : Nat} {rest : Bytes}

theorem length_arrived (sender : FrameCodec) (message : Message) (rest : Bytes) (cut : Nat) :
    min cut (kFrameHeaderBytes + message.payload.length) ≤
      (((frameOf sender message).bytes ++ rest).take cut).length := by
  rw [List.length_take, List.length_append, length_frameOf]
  omega

/-- A frame whose header is there is received as its header says. -/
theorem receive_header (pace : Nat -> Nat) (receiver : FrameCodec) (rest : Bytes) (reads : Nat)
    (fits : Fits maxPayloadBytes keyed message) (keys : sender.key.isSome = keyed) (numbered : sender.sendSequence ≠ 0)
    (header : kFrameHeaderBytes ≤ cut) :
    exists later, FrameStream.receive pace maxPayloadBytes receiver
        ⟨((frameOf sender message).bytes ++ rest).take cut, reads⟩ =
      FrameStream.receivePayload pace maxPayloadBytes receiver
        ⟨(message.payload ++ rest).take (cut - kFrameHeaderBytes), later⟩
        (frameOf sender message).header.cut := by
  have arrived := length_arrived sender message rest cut
  have enough : kFrameHeaderBytes ≤
      (((frameOf sender message).bytes ++ rest).take cut).length := by omega
  rcases FrameStream.receive_of_header pace maxPayloadBytes receiver
    ⟨((frameOf sender message).bytes ++ rest).take cut, reads⟩ enough with ⟨later, received⟩
  refine ⟨later, received.trans ?_⟩
  dsimp only
  rw [take_header header, drop_header, decode_fits fits keys, if_neg numbered]

/-- A frame whose number has run out is refused as soon as its header is there. -/
theorem receive_unnumbered (fits : Fits maxPayloadBytes keyed message)
    (keys : sender.key.isSome = keyed) (exhausted : sender.sendSequence = 0)
    (header : kFrameHeaderBytes ≤ cut) :
    (FrameStream.receive pace maxPayloadBytes receiver
        ⟨((frameOf sender message).bytes ++ rest).take cut, reads⟩).2 =
      refuse .PROTOCOL_CANONICAL_VIOLATION "frame sequence numbers start at one" := by
  have arrived := length_arrived sender message rest cut
  have enough : kFrameHeaderBytes ≤
      (((frameOf sender message).bytes ++ rest).take cut).length := by omega
  rcases FrameStream.receive_of_header pace maxPayloadBytes receiver
    ⟨((frameOf sender message).bytes ++ rest).take cut, reads⟩ enough with ⟨later, received⟩
  rw [received]
  dsimp only
  rw [take_header header, decode_fits fits keys, if_pos exhausted]
  rfl

/-- A frame that is wholly there is received. -/
theorem receive_fits (pace : Nat -> Nat) (fits : Fits maxPayloadBytes keyed message)
    (paired : Paired sender receiver keyed number) (numbered : sender.sendSequence ≠ 0)
    (whole : kFrameHeaderBytes + message.payload.length ≤ cut) :
    exists later, FrameStream.receive pace maxPayloadBytes receiver
        ⟨((frameOf sender message).bytes ++ rest).take cut, reads⟩ =
      (⟨rest.take (cut - (kFrameHeaderBytes + message.payload.length)), later⟩,
        .ok (⟨(frameOf sender message).header.cut, message.payload⟩,
          { receiver with expectedSequence := receiver.expectedSequence + 1 })) := by
  have length : (frameOf sender message).header.cut.payloadLength.toNat =
      message.payload.length := payloadLength_frameOf fits
  have header : kFrameHeaderBytes ≤ cut := by omega
  rcases receive_header pace receiver rest reads fits paired.keyed numbered header with
    ⟨later, received⟩
  have inside : message.payload.length ≤ cut - kFrameHeaderBytes := by omega
  have front : ((message.payload ++ rest).take (cut - kFrameHeaderBytes)).take
      message.payload.length = message.payload := by
    rw [List.take_take, Nat.min_eq_left inside, List.take_left]
  have back : ((message.payload ++ rest).take (cut - kFrameHeaderBytes)).drop
      message.payload.length = rest.take (cut - (kFrameHeaderBytes + message.payload.length)) := by
    rw [List.drop_take, List.drop_left, Nat.sub_sub]
  have enough : message.payload.length ≤
      ((message.payload ++ rest).take (cut - kFrameHeaderBytes)).length := by
    rw [List.length_take, List.length_append]
    omega
  have behind : exists last, FrameStream.receivePayload pace maxPayloadBytes receiver
      ⟨(message.payload ++ rest).take (cut - kFrameHeaderBytes), later⟩
      (frameOf sender message).header.cut = _ :=
    FrameStream.receivePayload_whole pace (by rw [length]; exact enough)
      (by rw [length, front]; exact verify_fits fits paired)
  rcases behind with ⟨last, behind⟩
  rw [length, front, back] at behind
  exact ⟨last, received.trans behind⟩

/-- A frame that is cut behind its header. -/
theorem receive_cut (fits : Fits maxPayloadBytes keyed message)
    (paired : Paired sender receiver keyed number) (numbered : sender.sendSequence ≠ 0)
    (header : kFrameHeaderBytes ≤ cut)
    (short : cut < kFrameHeaderBytes + message.payload.length) :
    (FrameStream.receive pace maxPayloadBytes receiver
        ⟨((frameOf sender message).bytes ++ rest).take cut, reads⟩).2 =
      if cut = kFrameHeaderBytes then refuse .CONNECTION_CLOSED "peer closed the connection"
      else refuse .PROTOCOL_TRUNCATED "connection closed mid-frame" := by
  have length : (frameOf sender message).header.cut.payloadLength.toNat =
      message.payload.length := payloadLength_frameOf fits
  rcases receive_header pace receiver rest reads fits paired.keyed numbered header with
    ⟨later, received⟩
  have size : ((message.payload ++ rest).take (cut - kFrameHeaderBytes)).length =
      cut - kFrameHeaderBytes := by
    rw [List.length_take, List.length_append]
    omega
  have lacking : ((message.payload ++ rest).take (cut - kFrameHeaderBytes)).length <
      (frameOf sender message).header.cut.payloadLength.toNat := by
    rw [size, length]
    omega
  rw [received, FrameStream.receivePayload_short lacking]
  by_cases boundary : cut = kFrameHeaderBytes
  · rw [if_pos boundary, boundary, Nat.sub_self, List.take_zero]
    rfl
  · have some : ((message.payload ++ rest).take (cut - kFrameHeaderBytes)).isEmpty = false := by
      rw [List.isEmpty_eq_false_iff, ← List.length_pos_iff, size]
      omega
    rw [if_neg boundary, some]
    rfl

end Arrival

/-! ## Whole conversations -/

theorem Paired.next (paired : Paired sender receiver keyed number) :
    Paired { sender with sendSequence := sender.sendSequence + 1 }
      { receiver with expectedSequence := receiver.expectedSequence + 1 } keyed (number + 1) where
  key := paired.key
  keyed := paired.keyed
  sends := by
    change sender.sendSequence + 1 = _
    rw [paired.sends, UInt64.ofNat_add]
    rfl
  expects := by
    change receiver.expectedSequence + 1 = _
    rw [paired.expects, UInt64.ofNat_add]
    rfl

theorem Paired.setSessionKey (paired : Paired sender receiver keyed number) (key : Bytes) :
    Paired (sender.setSessionKey key) (receiver.setSessionKey key) true number :=
  ⟨rfl, rfl, paired.sends, paired.expects⟩

/-- The number of a frame has run out when it is the one behind the largest. -/
theorem Paired.sequence_eq_zero (paired : Paired sender receiver keyed number)
    (positive : 0 < number) (small : number ≤ 2 ^ 64) :
    sender.sendSequence = 0 ↔ number = 2 ^ 64 := by
  rw [paired.sends, ← UInt64.toNat_inj, UInt64.toNat_ofNat']
  change number % 2 ^ 64 = 0 ↔ _
  omega

/-- A receiver that fails at once. -/
theorem brings_of_error {script : List StreamAct} {cut : Nat} {status : Status} :
    Brings script keyed cut ([], some status) ↔
      ((contents keyed script).take (delivered cut script).1 = [] ∧
        status.code = if (delivered cut script).2 = 0 then .CONNECTION_CLOSED
          else .PROTOCOL_TRUNCATED) := by
  unfold Brings
  rw [List.map_nil, Option.map_some, Option.some.injEq]
  exact and_congr_left fun _ => eq_comm

theorem receiveAll_error {connection : Source Byte} {script : List StreamAct} {status : Status}
    (failed : (FrameStream.receive pace maxPayloadBytes receiver connection).2 = .error status) :
    receiveAll pace maxPayloadBytes receiver connection (sends message :: script) =
      ([], some status) := by
  rw [receiveAll]
  generalize FrameStream.receive pace maxPayloadBytes receiver connection = received at failed ⊢
  rcases received with ⟨left, result⟩
  rw [show result = .error status from failed]

section FirstMessage

variable {script : List StreamAct} {cut reads : Nat} {rest : Bytes}

/-- Nothing of the next frame's header is missing, but its number has run out. -/
theorem not_brings_unnumbered (fits : Fits maxPayloadBytes keyed message)
    (keys : sender.key.isSome = keyed) (exhausted : sender.sendSequence = 0)
    (header : kFrameHeaderBytes ≤ cut) :
    ¬ Brings (sends message :: script) keyed cut (receiveAll pace maxPayloadBytes receiver
      ⟨((frameOf sender message).bytes ++ rest).take cut, reads⟩ (sends message :: script)) := by
  rw [receiveAll_error (receive_unnumbered fits keys exhausted header), brings_of_error]
  rintro ⟨_, code⟩
  change ReasonCode.PROTOCOL_CANONICAL_VIOLATION = _ at code
  split at code <;> cases code

/-- A first frame that is wholly there. -/
theorem delivered_whole (whole : kFrameHeaderBytes + message.payload.length ≤ cut) :
    delivered cut (sends message :: script) =
      ((delivered (cut - (kFrameHeaderBytes + message.payload.length)) script).1 + 1,
        (delivered (cut - (kFrameHeaderBytes + message.payload.length)) script).2) := by
  rw [delivered]
  exact if_pos whole

/-- A first frame that is not. -/
theorem delivered_cut (short : cut < kFrameHeaderBytes + message.payload.length) :
    delivered cut (sends message :: script) = (0, cut) := by
  rw [delivered]
  exact if_neg (Nat.not_le.mpr short)

/-- A frame that is cut within its header is reported as it should be. -/
theorem brings_short (short : cut < kFrameHeaderBytes) :
    Brings (sends message :: script) keyed cut (receiveAll pace maxPayloadBytes receiver
      ⟨((frameOf sender message).bytes ++ rest).take cut, reads⟩ (sends message :: script)) := by
  have size : (((frameOf sender message).bytes ++ rest).take cut).length = cut := by
    rw [List.length_take, List.length_append, length_frameOf]
    omega
  have ended : (FrameStream.receive pace maxPayloadBytes receiver
      ⟨((frameOf sender message).bytes ++ rest).take cut, reads⟩).2 = _ :=
    FrameStream.receive_of_short (by rw [size]; exact short)
  by_cases nothing : cut = 0
  · rw [nothing, List.take_zero] at ended ⊢
    rw [receiveAll_error ended, brings_of_error, delivered_cut (by omega)]
    exact ⟨rfl, rfl⟩
  · have some : (((frameOf sender message).bytes ++ rest).take cut).isEmpty = false := by
      rw [List.isEmpty_eq_false_iff, ← List.length_pos_iff, size]
      omega
    rw [some, if_neg Bool.false_ne_true] at ended
    rw [receiveAll_error ended, brings_of_error, delivered_cut (by omega)]
    exact ⟨rfl, (if_neg nothing).symm⟩

/-- A frame that is cut behind its header is reported as it should be unless nothing of its
payload is there. -/
theorem brings_cut_iff (fits : Fits maxPayloadBytes keyed message)
    (paired : Paired sender receiver keyed number) (numbered : sender.sendSequence ≠ 0)
    (header : kFrameHeaderBytes ≤ cut)
    (short : cut < kFrameHeaderBytes + message.payload.length) :
    Brings (sends message :: script) keyed cut (receiveAll pace maxPayloadBytes receiver
        ⟨((frameOf sender message).bytes ++ rest).take cut, reads⟩ (sends message :: script)) ↔
      cut ≠ kFrameHeaderBytes := by
  have ended : (FrameStream.receive pace maxPayloadBytes receiver
      ⟨((frameOf sender message).bytes ++ rest).take cut, reads⟩).2 = _ :=
    receive_cut fits paired numbered header short
  have some : cut ≠ 0 := by
    rw [kFrameHeaderBytes] at header
    omega
  by_cases boundary : cut = kFrameHeaderBytes
  · rw [if_pos boundary] at ended
    rw [receiveAll_error ended, brings_of_error, delivered_cut short]
    refine iff_of_false ?_ (not_not.mpr boundary)
    rintro ⟨_, code⟩
    rw [if_neg some] at code
    cases code
  · rw [if_neg boundary] at ended
    rw [receiveAll_error ended, brings_of_error, delivered_cut short]
    exact iff_of_true ⟨rfl, (if_neg some).symm⟩ boundary

/-- A frame that is wholly there is followed by the rest of the conversation. -/
theorem brings_whole_iff (fits : Fits maxPayloadBytes keyed message)
    (paired : Paired sender receiver keyed number) (numbered : sender.sendSequence ≠ 0)
    (whole : kFrameHeaderBytes + message.payload.length ≤ cut) :
    exists later,
      Brings (sends message :: script) keyed cut (receiveAll pace maxPayloadBytes receiver
        ⟨((frameOf sender message).bytes ++ rest).take cut, reads⟩ (sends message :: script)) ↔
      Brings script keyed (cut - (kFrameHeaderBytes + message.payload.length))
        (receiveAll pace maxPayloadBytes
          { receiver with expectedSequence := receiver.expectedSequence + 1 }
          ⟨rest.take (cut - (kFrameHeaderBytes + message.payload.length)), later⟩ script) := by
  have received : exists later, FrameStream.receive pace maxPayloadBytes receiver
      ⟨((frameOf sender message).bytes ++ rest).take cut, reads⟩ = _ :=
    receive_fits pace fits paired numbered whole
  rcases received with ⟨later, received⟩
  have content : WireFrame.content ⟨(frameOf sender message).header.cut, message.payload⟩ =
      (message.type, marked keyed message, message.payload) := by
    have header := header_frameOf message paired.keyed
    change ((frameOf sender message).header.type, (frameOf sender message).header.flags, _) = _
    rw [header]
  refine ⟨later, ?_⟩
  rw [receiveAll, received]
  unfold Brings
  rw [delivered_whole whole]
  dsimp only
  rw [List.map_cons, content, contents, List.take_succ_cons, List.cons_inj_right]

end FirstMessage

theorem headers_whole {script : List StreamAct} {cut : Nat}
    (whole : kFrameHeaderBytes + message.payload.length ≤ cut) :
    headers cut (sends message :: script) =
      headers (cut - (kFrameHeaderBytes + message.payload.length)) script + 1 := by
  unfold headers
  rw [delivered_whole whole]
  dsimp only
  omega

/-- From two ends that have come equally far on, the conversation is lossless as long as no
header arrives behind the largest number and no frame is cut right behind its header. -/
theorem brings_iff {script : List StreamAct} {sent : Bytes} {cut reads : Nat}
    (paired : Paired sender receiver keyed number) (positive : 0 < number)
    (small : number ≤ 2 ^ 64) (inOrder : InOrder maxPayloadBytes keyed script)
    (sent_eq : sendAll maxPayloadBytes sender script = .ok sent) :
    Brings script keyed cut (receiveAll pace maxPayloadBytes receiver ⟨sent.take cut, reads⟩ script) ↔
      number + headers cut script ≤ 2 ^ 64 ∧ (delivered cut script).2 ≠ kFrameHeaderBytes := by
  induction script generalizing sender receiver keyed number sent cut reads with
  | nil =>
      cases sent_eq
      have ended : (FrameStream.receive pace maxPayloadBytes receiver
          ⟨([] : Bytes).take cut, reads⟩).2 =
          refuse .CONNECTION_CLOSED "peer closed the connection" := by
        rw [List.take_nil]
        exact FrameStream.receive_of_short (Nat.zero_lt_succ 39)
      refine iff_of_true ?_ ⟨small, (Nat.succ_ne_zero 39).symm⟩
      rw [receiveAll]
      generalize FrameStream.receive pace maxPayloadBytes receiver _ = received at ended ⊢
      rcases received with ⟨left, result⟩
      cases ended
      exact ⟨rfl, rfl⟩
  | cons act rest ih =>
      cases act with
      | sets key => exact ih (paired.setSessionKey key) positive small inOrder sent_eq
      | sends message =>
          rcases inOrder with ⟨fits, inOrder⟩
          rw [sendAll, encode_fits fits paired.keyed, ok_bind] at sent_eq
          rcases bind_eq_ok.mp sent_eq with ⟨others, sentRest, returned⟩
          cases returned
          have exhausted := paired.sequence_eq_zero positive small
          by_cases whole : kFrameHeaderBytes + message.payload.length ≤ cut
          · rw [headers_whole whole, delivered_whole whole]
            by_cases last : number = 2 ^ 64
            · refine iff_of_false (not_brings_unnumbered fits paired.keyed (exhausted.mpr last)
                (by omega)) fun ⟨room, _⟩ => ?_
              omega
            · have goesOn : exists later, Brings (sends message :: rest) keyed cut
                  (receiveAll pace maxPayloadBytes receiver
                    ⟨((frameOf sender message).bytes ++ others).take cut, reads⟩
                    (sends message :: rest)) ↔ _ :=
                brings_whole_iff fits paired (mt exhausted.mp last) whole
              rcases goesOn with ⟨later, goesOn⟩
              rw [goesOn, ih paired.next (Nat.succ_pos _) (by omega) inOrder sentRest]
              dsimp only
              rw [Nat.add_right_comm, Nat.add_assoc]
          · have short := Nat.not_le.mp whole
            have counted : headers cut (sends message :: rest) =
                if kFrameHeaderBytes ≤ cut then 1 else 0 := by
              unfold headers
              rw [delivered_cut short, Nat.zero_add]
            rw [counted, delivered_cut short]
            by_cases header : kFrameHeaderBytes ≤ cut
            · rw [if_pos header]
              by_cases last : number = 2 ^ 64
              · refine iff_of_false (not_brings_unnumbered fits paired.keyed (exhausted.mpr last)
                  header) fun ⟨room, _⟩ => ?_
                omega
              · rw [brings_cut_iff fits paired (mt exhausted.mp last) header short]
                exact (and_iff_right (by omega)).symm
            · rw [if_neg header]
              exact iff_of_true (brings_short (Nat.not_le.mp header))
                ⟨small, fun boundary => header (Nat.le_of_eq boundary.symm)⟩

theorem sendAll_inOrder {script : List StreamAct} (keys : sender.key.isSome = keyed)
    (inOrder : InOrder maxPayloadBytes keyed script) :
    exists sent, sendAll maxPayloadBytes sender script = .ok sent := by
  induction script generalizing sender keyed with
  | nil => exact ⟨[], rfl⟩
  | cons act rest ih =>
      cases act with
      | sets key => exact ih rfl inOrder
      | sends message =>
          rcases inOrder with ⟨fits, inOrder⟩
          have later : exists others, sendAll maxPayloadBytes
              { sender with sendSequence := sender.sendSequence + 1 } rest = .ok others :=
            ih keys inOrder
          rcases later with ⟨others, sentRest⟩
          refine ⟨(frameOf sender message).bytes ++ others, ?_⟩
          rw [sendAll, encode_fits fits keys, ok_bind, sentRest]
          rfl

/-- Two new streams. -/
theorem paired_new : Paired {} {} false 1 := ⟨rfl, rfl, rfl, rfl⟩

/-- However the connection delivers what a new stream has sent, and wherever it breaks off, a
new peer receives exactly the messages that arrived and learns how the stream ended, if and
only if fewer than `2 ^ 64` headers arrived and the stream does not end right behind the
header of a frame with a payload. -/
theorem lossless_iff (pace : Nat -> Nat) (maxPayloadBytes : UInt32) (script : List StreamAct)
    (cut : Nat) (inOrder : InOrder maxPayloadBytes false script) :
    Lossless pace maxPayloadBytes script cut ↔
      headers cut script < 2 ^ 64 ∧ (delivered cut script).2 ≠ kFrameHeaderBytes := by
  have room : 1 + headers cut script ≤ 2 ^ 64 ↔ headers cut script < 2 ^ 64 := by omega
  rw [← room]
  have sending : exists sent, sendAll maxPayloadBytes {} script = .ok sent :=
    sendAll_inOrder rfl inOrder
  rcases sending with ⟨sent, sends⟩
  constructor
  · rintro ⟨again, sendsAgain, brings⟩
    cases sends.symm.trans sendsAgain
    exact (brings_iff paired_new (by decide) (by decide) inOrder sends).mp brings
  · intro condition
    exact ⟨sent, sends, (brings_iff paired_new (by decide) (by decide) inOrder sends).mpr condition⟩

/-- A greeting, the key, and a request. -/
def shortConversation : List StreamAct :=
  [sends ⟨.HELLO, 0, [1, 2, 3]⟩, sets [7], sends ⟨.QUERY_MOVEMENT, 0, [4]⟩]

theorem lossless_shortConversation :
    InOrder 1024 false shortConversation ∧
    (Lossless (fun _ => 1) 1024 shortConversation 60 ↔
      headers 60 shortConversation < 2 ^ 64 ∧
        (delivered 60 shortConversation).2 ≠ kFrameHeaderBytes) := by
  have inOrder : InOrder 1024 false shortConversation :=
    ⟨⟨by decide, by decide, by decide, by decide⟩, ⟨by decide, by decide, by decide, by decide⟩,
      trivial⟩
  exact ⟨inOrder, lossless_iff (fun _ => 1) 1024 shortConversation 60 inOrder⟩

/-- A greeting with one byte of payload. -/
def oneGreeting : List StreamAct := [sends ⟨.HELLO, 0, [7]⟩]

/-- The connection breaks off behind the header, and the peer is told of an orderly close. -/
theorem closed_behind_header :
    InOrder 1024 false oneGreeting ∧
    (exists sent, sendAll 1024 {} oneGreeting = .ok sent ∧ sent.length = kFrameHeaderBytes + 1 ∧
      receiveAll (fun _ => 1) 1024 {} ⟨sent.take kFrameHeaderBytes, 0⟩ oneGreeting =
        ([], some (.of .CONNECTION_CLOSED "peer closed the connection"))) ∧
    ¬ Lossless (fun _ => 1) 1024 oneGreeting kFrameHeaderBytes := by
  have inOrder : InOrder 1024 false oneGreeting :=
    ⟨⟨by decide, by decide, by decide, by decide⟩, trivial⟩
  refine ⟨inOrder, ⟨_, rfl, by decide, by decide +kernel⟩, ?_⟩
  rintro ⟨sent, sends, brings⟩
  have condition := (brings_iff paired_new (by decide) (by decide) inOrder sends).mp brings
  exact condition.2 rfl

end StreamAct

end StateMovementFabric
