import StateMovementFabric.Foundation.WindowedFlow
import StateMovementFabric.Foundation.Inevitability
import StateMovementFabric.Core.Segmentation
import StateMovementFabric.Wire.Protocol
import StateMovementFabric.Endpoint.DataSession

namespace StateMovementFabric

open Foundation Wire

/-!
# Flow control of a data session

The send loop of the source and the receive loop of the destination, joined by two
channels that lose and reorder nothing.  Nothing is cancelled, every read and write
succeeds, and the staging writer accepts every chunk; the two sides move in any order.
-/

/-- What the destination has done, as far as it shows. -/
inductive Deed where
  | appended (index : UInt32)
  | ended
  | answered
  deriving DecidableEq, Repr

/-- A data session after its opening.  `staged` is the chunk that the staging writer expects
next; `sent` and `acknowledged` are the chunks that have been sent and acknowledged, and
`deeds` what the destination did, none of which is data of the two sides. -/
structure DataTransfer where
  source : ServeProgram (Result Unit)
  destination : Receive.TurnProgram
  toDestination : List Frame := []
  toSource : List Frame := []
  staged : Nat
  sent : Nat
  acknowledged : Nat
  deeds : List Deed := []

inductive Side where
  | source
  | destination

namespace DataTransfer

/-- One operation of the source, unless it has finished or waits for a frame. -/
def sourceStep (data : Bytes) (transfer : DataTransfer) : Option DataTransfer :=
  match transfer.source with
  | .finish _ => none
  | .perform .receive next =>
      match transfer.toSource with
      | [] => none
      | frame :: rest => some { transfer with source := next (.ok frame), toSource := rest }
  | .perform (.send frame) next =>
      some { transfer with
        source := next (.ok ())
        toDestination := transfer.toDestination ++ [frame]
        sent := if frame.type = .DATA_CHUNK then transfer.sent + 1 else transfer.sent }
  | .perform (.halted _) next => some { transfer with source := next false }
  | .perform (.read _ offset length) next =>
      some { transfer with source := next (.ok ((data.drop offset.toNat).take length.toNat)) }
  -- the loop performs none of the operations that open a session
  | .perform _ _ => none

/-- The destination sends a frame. -/
def sendBack (transfer : DataTransfer) (destination : Receive.TurnProgram) (frame : Frame) :
    DataTransfer :=
  { transfer with
    destination := destination
    toSource := transfer.toSource ++ [frame]
    acknowledged := if frame.type = .DATA_CHUNK_ACK then transfer.staged else transfer.acknowledged
    deeds := if frame.type = .DATA_RESULT then transfer.deeds ++ [.answered] else transfer.deeds }

/-- The destination takes a frame. -/
def takeFrom (transfer : DataTransfer) (destination : Receive.TurnProgram) (frame : Frame)
    (rest : List Frame) : DataTransfer :=
  { transfer with
    destination := destination
    toDestination := rest
    deeds := if frame.type = .DATA_END then transfer.deeds ++ [.ended] else transfer.deeds }

/-- One operation of the destination, or the beginning of the next turn of its loop. -/
def destinationStep (grant : TransferGrant) (window : UInt32) (transfer : DataTransfer) :
    Option DataTransfer :=
  match transfer.destination with
  | .finish (.leave _) => none
  | .finish (.again counters) =>
      some { transfer with
        destination := Receive.receiveTurn grant grant.attempt window counters }
  | .perform (.halted _) next => some { transfer with destination := next false }
  | .perform .receive next =>
      match transfer.toDestination with
      | [] => none
      | frame :: rest => some (transfer.takeFrom (next (.ok frame)) frame rest)
  | .perform (.send frame) next => some (transfer.sendBack (next (.ok ())) frame)
  | .perform .resumeFromChunk next =>
      some { transfer with destination := next (.ofNat transfer.staged) }
  | .perform (.append index _ _ _) next =>
      some { transfer with
        destination := next (.ok ())
        staged := transfer.staged + 1
        deeds := transfer.deeds ++ [.appended index] }
  | .perform .abort next => some { transfer with destination := next () }
  | .perform .finish next =>
      some { transfer with destination := next (.ok grant.object.contentDigest) }
  | .perform (.discard _) next => some { transfer with destination := next (.ok ()) }
  | .perform .promote next => some { transfer with destination := next (.ok ()) }
  | .perform (.report _) next => some { transfer with destination := next (.ok ()) }

def step (grant : TransferGrant) (data : Bytes) (window : UInt32) (transfer : DataTransfer) :
    Side -> Option DataTransfer
  | .source => transfer.sourceStep data
  | .destination => transfer.destinationStep grant window

/-- Both loops at their beginning, with `start` as the first chunk. -/
def begun (grant : TransferGrant) (window : UInt32) (start : Nat) : DataTransfer where
  source := Serve.sendLoop grant window (grant.object.chunkCount.toNat - start) (.ofNat start) 0
  destination := Receive.receiveTurn grant grant.attempt window {}
  staged := start
  sent := start
  acknowledged := start

/-- Both sides have returned with success, nothing is left in the channels, and the
destination has appended the chunks in order, seen the end and answered. -/
def Completed (grant : TransferGrant) (start : Nat) (transfer : DataTransfer) : Prop :=
  transfer.source = .finish (.ok ()) ∧ transfer.destination = .finish (.leave (.ok ())) ∧
    transfer.toDestination = [] ∧ transfer.toSource = [] ∧
    transfer.deeds = (List.range' start (grant.object.chunkCount.toNat - start)).map
      (fun index => .appended (.ofNat index)) ++ [.ended, .answered]

/-- Neither side has returned an error, and no more than a window of chunks has been sent
and not acknowledged. -/
def Orderly (window : UInt32) (transfer : DataTransfer) : Prop :=
  (forall status, transfer.source ≠ .finish (.error status)) ∧
    (forall status, transfer.destination ≠ .finish (.leave (.error status))) ∧
    transfer.sent - transfer.acknowledged ≤ window.toNat

end DataTransfer

/-! ## The frames -/

/-- What a session needs to go well: a valid object that the source holds, an identified
attempt, a window, and chunks that a message can carry. -/
structure Servable (grant : TransferGrant) (data : Bytes) (window : UInt32) (start : Nat) :
    Prop where
  valid : grant.object.validate = .ok ()
  movement : grant.movementId.isZero = false
  attempt : grant.attempt.isZero = false
  held : data.length = grant.object.totalBytes.toNat
  starts : start ≤ grant.object.chunkCount.toNat
  opened : 0 < window.toNat
  carried : forall index length, start ≤ UInt32.toNat index ->
    grant.object.chunkLength index = .ok length -> UInt64.toNat length ≤ kMaxWireChunkBytes

variable {object : StateObjectDescriptor} {length : UInt64}

/-- A valid descriptor names a version and its content. -/
theorem StateObjectDescriptor.named_of_validate (valid : object.validate = .ok ()) :
    object.objectId.isZero = false ∧ object.generation.isSet = true ∧
      object.contentDigest.isZero = false := by
  rcases check_bind_eq_ok.mp valid with ⟨identity, valid⟩
  rcases refuseWhen_bind_eq_ok.mp valid with ⟨generation, valid⟩
  rcases refuseWhen_bind_eq_ok.mp valid with ⟨content, _⟩
  rcases refuseWhen_bind_eq_ok.mp identity with ⟨id, _⟩
  rw [Bool.not_eq_false'] at generation
  exact ⟨id, generation, content⟩

/-- The bytes of a chunk. -/
def StateObjectDescriptor.chunkBytesOf (object : StateObjectDescriptor) (data : Bytes)
    (index : Nat) : Bytes :=
  (data.drop (object.plannedBytes index)).take (object.plannedLength index)

/-- The message for a chunk. -/
def chunkAt (grant : TransferGrant) (data : Bytes) (index : Nat) : DataChunk :=
  Serve.servedChunk grant (.ofNat index) (.ofNat (grant.object.plannedBytes index))
    (.ofNat (grant.object.plannedLength index)) (grant.object.chunkBytesOf data index)

section Frames

variable {grant : TransferGrant} {data : Bytes} {window : UInt32} {start index : Nat}

theorem toNat_ofNat_of_le_count (inside : index ≤ object.chunkCount.toNat) :
    (UInt32.ofNat index).toNat = index := by
  have bound := object.chunkCount.toNat_lt
  exact UInt32.toNat_ofNat_of_lt' (Nat.lt_of_le_of_lt inside bound)

theorem ofNat_lt_count (inside : index < object.chunkCount.toNat) :
    UInt32.ofNat index < object.chunkCount := by
  rw [UInt32.lt_iff_toNat_lt, toNat_ofNat_of_le_count (Nat.le_of_lt inside)]
  exact inside

theorem length_chunkBytesOf (held : data.length = object.totalBytes.toNat) :
    (object.chunkBytesOf data index).length = object.plannedLength index := by
  have within := object.plannedBytes_le_total (index + 1)
  rw [← object.plannedBytes_add_plannedLength] at within
  rw [StateObjectDescriptor.chunkBytesOf, List.length_take, List.length_drop, held]
  omega

theorem Servable.sized (servable : Servable grant data window start) : grant.object.Sized :=
  StateObjectDescriptor.sized_of_validate servable.valid

theorem Servable.chunkOffset (servable : Servable grant data window start)
    (inside : index < grant.object.chunkCount.toNat) :
    grant.object.chunkOffset (.ofNat index) = .ok (.ofNat (grant.object.plannedBytes index)) := by
  rw [StateObjectDescriptor.chunkOffset_eq servable.sized (ofNat_lt_count inside), toNat_ofNat_of_le_count (Nat.le_of_lt inside)]

theorem Servable.chunkLength (servable : Servable grant data window start)
    (inside : index < grant.object.chunkCount.toNat) :
    grant.object.chunkLength (.ofNat index) = .ok (.ofNat (grant.object.plannedLength index)) := by
  rw [StateObjectDescriptor.chunkLength_eq servable.sized (ofNat_lt_count inside), toNat_ofNat_of_le_count (Nat.le_of_lt inside)]

/-- The destination accepts the message of every chunk that is sent. -/
theorem Servable.checkChunk (servable : Servable grant data window start)
    (after : start ≤ index) (inside : index < grant.object.chunkCount.toNat) :
    Receive.checkChunk grant grant.attempt (chunkAt grant data index).frame =
      .ok (chunkAt grant data index) := by
  have length : (grant.object.chunkBytesOf data index).length = grant.object.plannedLength index :=
    length_chunkBytesOf servable.held
  have carried := servable.carried (.ofNat index) _
    (by rw [toNat_ofNat_of_le_count (Nat.le_of_lt inside)]; exact after)
    (servable.chunkLength inside)
  rw [StateObjectDescriptor.toNat_plannedLength servable.sized] at carried
  have decoded : decodeMessage DataChunk.decode (chunkAt grant data index).frame =
      .ok (chunkAt grant data index) := by
    refine (decodeMessage_eq_ok fun _ roomy => DataChunk.codes roomy).mpr ⟨?_, rfl⟩
    simp only [DataChunk.validate, refuseWhen_bind_eq_ok, refuseWhen_eq_ok]
    refine ⟨servable.movement, servable.attempt, ?_, ?_⟩
    · rw [chunkAt, Serve.servedChunk, length, decide_eq_false_iff_not, gt_iff_lt, Nat.not_lt]
      exact carried
    · rw [chunkAt, Serve.servedChunk, length, bne_self_eq_false]
  unfold Receive.checkChunk
  rw [decoded, ok_bind]
  have same : ((chunkAt grant data index).movementId != grant.movementId ||
      (chunkAt grant data index).attempt != grant.attempt) = false := by
    rw [chunkAt, Serve.servedChunk, bne_self_eq_false, bne_self_eq_false, Bool.or_false]
  rw [same, refuseWhen_false, ok_bind]
  rfl

/-- The destination accepts the end of the transfer. -/
theorem Servable.checkEnd (servable : Servable grant data window start) :
    Receive.checkEnd grant grant.attempt (Serve.lastMessage grant).frame = .ok () := by
  have named : grant.object.contentDigest.isZero = false :=
    (StateObjectDescriptor.named_of_validate servable.valid).2.2
  have decoded : decodeMessage DataEnd.decode (Serve.lastMessage grant).frame =
      .ok (Serve.lastMessage grant) := by
    refine (decodeMessage_eq_ok fun _ roomy => DataEnd.codes roomy).mpr ⟨?_, rfl⟩
    simp only [DataEnd.validate, refuseWhen_bind_eq_ok, refuseWhen_eq_ok]
    refine ⟨servable.movement, servable.attempt, ?_⟩
    rw [Serve.lastMessage, named, Bool.and_false]
  unfold Receive.checkEnd
  rw [decoded, ok_bind, Serve.lastMessage, bne_self_eq_false, bne_self_eq_false, bne_self_eq_false,
    Bool.or_false, refuseWhen_false, ok_bind, refuseWhen_false]

/-- A chunk frame is taken as its chunk. -/
theorem Servable.takeFrame_chunk (servable : Servable grant data window start)
    (counters : Receive.Counters) (after : start ≤ index)
    (inside : index < grant.object.chunkCount.toNat) :
    Receive.takeFrame grant grant.attempt window counters (chunkAt grant data index).frame =
      Receive.takeChunk grant grant.attempt window counters (chunkAt grant data index) := by
  have typed : (chunkAt grant data index).frame.type = .DATA_CHUNK := rfl
  unfold Receive.takeFrame
  rw [typed, if_neg nofun, if_neg nofun, if_neg (fun other => other rfl),
    servable.checkChunk after inside]

/-- The last frame ends the loop. -/
theorem Servable.takeFrame_end (servable : Servable grant data window start)
    (counters : Receive.Counters) :
    Receive.takeFrame grant grant.attempt window counters (Serve.lastMessage grant).frame =
      Receive.settle grant grant.attempt := by
  have typed : (Serve.lastMessage grant).frame.type = .DATA_END := rfl
  unfold Receive.takeFrame
  rw [typed, if_neg nofun, if_pos rfl, servable.checkEnd]

/-- The source accepts the result of the destination. -/
theorem Servable.decodeResult (servable : Servable grant data window start) (digest : Digest) :
    decodeMessage DataResult.decode (Receive.resultMessage grant grant.attempt digest).frame =
      .ok (Receive.resultMessage grant grant.attempt digest) := by
  refine (decodeMessage_eq_ok fun _ roomy => DataResult.codes roomy).mpr ⟨⟨?_, ?_⟩, rfl⟩
  · simp only [DataResult.validate, refuseWhen_bind_eq_ok]
    refine ⟨servable.movement, servable.attempt, ?_⟩
    exact (by decide +kernel : requireBound (ascii "stored and verified locally") kMaxDetailBytes
      "detail" = .ok ())
  · exact (by decide : ReasonCode.isDeclared .OK = true)

end Frames

/-! ## Where the two sides are -/

/-- Where the source is, with the number of chunks it has sent. -/
inductive SourcePhase where
  | poll (sent : Nat)
  | read (sent : Nat)
  | push (sent : Nat)
  | await (sent : Nat)
  | close
  | listen
  | finished

/-- Where the destination is, with the number of chunks it has appended. -/
inductive DestinationPhase where
  | turn (appended : Nat)
  | poll (appended : Nat)
  | take (appended : Nat)
  | place (appended : Nat)
  | append (appended : Nat)
  | resume (appended : Nat)
  | confirm (appended : Nat)
  | settle
  | promote
  | answer
  | report
  | finished

section Phases

variable (grant : TransferGrant) (data : Bytes) (window : UInt32) (start : Nat)

/-- The chunks that are to be sent. -/
def chunksLeft : Nat := grant.object.chunkCount.toNat - start

namespace SourcePhase

/-- The send loop after `sent` chunks. -/
def loopAt (sent : Nat) : ServeProgram (Result Unit) :=
  Serve.sendLoop grant window (chunksLeft grant start - sent) (.ofNat (start + sent)) sent

def program : SourcePhase -> ServeProgram (Result Unit)
  | poll sent => loopAt grant window start sent
  | read sent =>
      Serve.serveChunk grant window (.ofNat (start + sent)) (sent + 1)
        (loopAt grant window start (sent + 1))
  | push sent =>
      Serve.pushChunk window (chunkAt grant data (start + sent)) (sent + 1)
        (loopAt grant window start (sent + 1))
  | await sent => Serve.awaitAck (loopAt grant window start sent)
  | close => Serve.serveEnd grant
  | listen => Serve.awaitResult
  | finished => .finish (.ok ())

def pushed : SourcePhase -> Nat
  | poll sent | read sent | push sent | await sent => sent
  | close | listen | finished => chunksLeft grant start

def waits : SourcePhase -> Bool
  | await _ => true
  | _ => false

/-- `DATA_END` has been sent. -/
def closed : SourcePhase -> Bool
  | listen | finished => true
  | _ => false

def isFinished : SourcePhase -> Bool
  | finished => true
  | _ => false

/-- A chunk that is worked on is one of those to be sent. -/
def Proper : SourcePhase -> Prop
  | poll sent | read sent | push sent => sent < chunksLeft grant start
  | await sent => sent ≤ chunksLeft grant start
  | _ => True

/-- The operations that are still to come. -/
def rank : SourcePhase -> Nat
  | poll sent => 4 * (chunksLeft grant start - sent) + 2
  | read sent => 4 * (chunksLeft grant start - sent) + 1
  | push sent => 4 * (chunksLeft grant start - sent)
  | await sent => 4 * (chunksLeft grant start - sent) + 3
  | close => 2
  | listen => 1
  | finished => 0

/-- The beginning of a turn of the loop, or its end. -/
def head (sent : Nat) : SourcePhase :=
  if sent < chunksLeft grant start then poll sent else close

end SourcePhase

namespace DestinationPhase

/-- The counters of the receive loop after `appended` chunks. -/
def counters (appended : Nat) : Receive.Counters := ⟨0, appended % window.toNat⟩

def program : DestinationPhase -> Receive.TurnProgram
  | turn appended => .finish (.again (counters window appended))
  | poll appended => Receive.receiveTurn grant grant.attempt window (counters window appended)
  | take appended => Receive.receiveFrame grant grant.attempt window (counters window appended)
  | place appended =>
      Receive.takeChunk grant grant.attempt window (counters window appended)
        (chunkAt grant data (start + appended))
  | append appended =>
      Receive.appendChunk grant grant.attempt window (counters window appended)
        (chunkAt grant data (start + appended)) (.ofNat (start + appended))
  | resume _ => Receive.acknowledge grant grant.attempt window ⟨0, window.toNat⟩
  | confirm appended =>
      Receive.sendAck grant grant.attempt ⟨0, window.toNat⟩ (.ofNat (start + appended))
  | settle => Receive.settle grant grant.attempt
  | promote => Receive.promoteStaged grant grant.attempt grant.object.contentDigest
  | answer => Receive.answerSource grant grant.attempt grant.object.contentDigest
  | report => Receive.reportArrival grant grant.attempt grant.object.contentDigest
  | finished => .finish (.leave (.ok ()))

/-- The chunks that were taken from the channel. -/
def fetched : DestinationPhase -> Nat
  | turn appended | poll appended | take appended | resume appended | confirm appended => appended
  | place appended | append appended => appended + 1
  | _ => chunksLeft grant start

/-- The chunks that were appended. -/
def appended : DestinationPhase -> Nat
  | turn appended | poll appended | take appended | place appended | append appended
  | resume appended | confirm appended => appended
  | _ => chunksLeft grant start

/-- The chunks whose turn is over: the acknowledgement of a window belongs to its last. -/
def pulled : DestinationPhase -> Nat
  | turn appended | poll appended | take appended | place appended | append appended => appended
  | resume appended | confirm appended => appended - 1
  | _ => chunksLeft grant start

/-- `DATA_END` has been taken. -/
def ended : DestinationPhase -> Bool
  | settle | promote | answer | report | finished => true
  | _ => false

/-- `DATA_RESULT` has been sent. -/
def answered : DestinationPhase -> Bool
  | report | finished => true
  | _ => false

theorem answered_of_unended {phase : DestinationPhase} (opened : phase.ended = false) :
    phase.answered = false := by
  cases phase with
  | report => cases opened
  | finished => cases opened
  | _ => rfl

/-- What the destination has done beside appending. -/
def deeds (phase : DestinationPhase) : List Deed :=
  (if phase.ended then [.ended] else []) ++ if phase.answered then [.answered] else []

/-- An acknowledgement is due after a whole number of windows. -/
def Proper : DestinationPhase -> Prop
  | resume appended | confirm appended => 0 < appended ∧ appended % window.toNat = 0
  | _ => True

def rank : DestinationPhase -> Nat
  | turn appended => 8 * (chunksLeft grant start - appended) + 7
  | poll appended => 8 * (chunksLeft grant start - appended) + 6
  | take appended => 8 * (chunksLeft grant start - appended) + 5
  | place appended => 8 * (chunksLeft grant start - appended) + 4
  | append appended => 8 * (chunksLeft grant start - appended) + 3
  | resume appended => 8 * (chunksLeft grant start - appended) + 9
  | confirm appended => 8 * (chunksLeft grant start - appended) + 8
  | settle => 4
  | promote => 3
  | answer => 2
  | report => 1
  | finished => 0

end DestinationPhase

end Phases

/-! ## What each side does next -/

section Steps

variable {grant : TransferGrant} {data : Bytes} {window : UInt32} {start : Nat}

theorem ofNat_succ (index : Nat) : UInt32.ofNat index + 1 = UInt32.ofNat (index + 1) :=
  (UInt32.ofNat_add index 1).symm

namespace SourcePhase

/-- The loop goes on while chunks are left, and ends otherwise. -/
theorem loopAt_eq (sent : Nat) :
    loopAt grant window start sent = (head grant start sent).program grant data window start := by
  unfold head
  split
  · rfl
  · rename_i none
    rw [loopAt, Nat.sub_eq_zero_of_le (Nat.not_lt.mp none), Serve.sendLoop]
    rfl

theorem loopAt_of_lt {sent : Nat} (more : sent < chunksLeft grant start) :
    loopAt grant window start sent =
      (Serve.halted grant.movementId >>= fun stopped =>
        if stopped then Serve.abortServing grant
        else Serve.serveChunk grant window (.ofNat (start + sent)) (sent + 1)
          (loopAt grant window start (sent + 1))) := by
  have left : chunksLeft grant start - sent = chunksLeft grant start - (sent + 1) + 1 := by omega
  rw [loopAt, left, Serve.sendLoop, ofNat_succ]
  rfl

theorem pushed_head {sent : Nat} (within : sent ≤ chunksLeft grant start) :
    (head grant start sent).pushed grant start = sent := by
  unfold head
  split
  · rfl
  · rename_i none
    exact Nat.le_antisymm (Nat.not_lt.mp none) within

theorem rank_head {sent : Nat} (within : sent ≤ chunksLeft grant start) :
    (head grant start sent).rank grant start = 4 * (chunksLeft grant start - sent) + 2 := by
  unfold head
  split
  · rfl
  · change 2 = _
    omega

theorem proper_head (sent : Nat) : (head grant start sent).Proper grant start := by
  unfold head
  split
  · assumption
  · trivial

theorem waits_head (sent : Nat) : (head grant start sent).waits = false := by
  unfold head
  split <;> rfl

theorem closed_head (sent : Nat) : (head grant start sent).closed = false := by
  unfold head
  split <;> rfl

theorem isFinished_head (sent : Nat) : (head grant start sent).isFinished = false := by
  unfold head
  split <;> rfl

/-- The source after it has sent one more chunk: it waits when a window is full. -/
def afterPush (grant : TransferGrant) (window : UInt32) (start sent : Nat) : SourcePhase :=
  if (sent + 1) % window.toNat = 0 then await (sent + 1) else head grant start (sent + 1)

section AfterPush

variable {sent : Nat}

theorem program_afterPush :
    (afterPush grant window start sent).program grant data window start =
      if (sent + 1) % window.toNat = 0 then Serve.awaitAck (loopAt grant window start (sent + 1))
      else loopAt grant window start (sent + 1) := by
  unfold afterPush
  split
  · rfl
  · exact (loopAt_eq (sent + 1)).symm

theorem pushed_afterPush (more : sent < chunksLeft grant start) :
    (afterPush grant window start sent).pushed grant start = sent + 1 := by
  unfold afterPush
  split
  · rfl
  · exact pushed_head more

theorem proper_afterPush (more : sent < chunksLeft grant start) :
    (afterPush grant window start sent).Proper grant start := by
  unfold afterPush
  split
  · exact more
  · exact proper_head (sent + 1)

theorem waits_afterPush :
    (afterPush grant window start sent).waits = ((sent + 1) % window.toNat == 0) := by
  unfold afterPush
  split
  · rename_i full
    rw [full]
    rfl
  · rename_i open_
    rw [waits_head, beq_false_of_ne open_]

theorem closed_afterPush : (afterPush grant window start sent).closed = false := by
  unfold afterPush
  split
  · rfl
  · exact closed_head (sent + 1)

theorem isFinished_afterPush : (afterPush grant window start sent).isFinished = false := by
  unfold afterPush
  split
  · rfl
  · exact isFinished_head (sent + 1)

theorem rank_afterPush (more : sent < chunksLeft grant start) :
    (afterPush grant window start sent).rank grant start < 4 * (chunksLeft grant start - sent) := by
  unfold afterPush
  split
  · change 4 * (chunksLeft grant start - (sent + 1)) + 3 < _
    omega
  · rw [rank_head more]
    omega

end AfterPush

end SourcePhase

namespace DestinationPhase

/-- The destination after it has appended one more chunk: it acknowledges when a window is
full. -/
def afterAppend (window : UInt32) (appended : Nat) : DestinationPhase :=
  if (appended + 1) % window.toNat = 0 then resume (appended + 1) else turn (appended + 1)

/-- The remainder of the next number. -/
theorem succ_mod (count divisor : Nat) :
    (count + 1) % divisor = if count % divisor + 1 = divisor then 0 else count % divisor + 1 := by
  rw [← Nat.mod_add_mod]
  split
  · rename_i whole
    rw [whole, Nat.mod_self]
  · rename_i rest
    cases divisor with
    | zero => rw [Nat.mod_zero, Nat.mod_zero]
    | succ smaller =>
        have below : count % (smaller + 1) < smaller + 1 := Nat.mod_lt count (Nat.succ_pos smaller)
        exact Nat.mod_eq_of_lt (by omega)

section AfterAppend

variable {count : Nat}

theorem program_afterAppend (positive : 0 < window.toNat) :
    (afterAppend window count).program grant data window start =
      Receive.acknowledge grant grant.attempt window ⟨0, count % window.toNat + 1⟩ := by
  have next := succ_mod count window.toNat
  have below := Nat.mod_lt count positive
  unfold afterAppend
  split
  · rename_i full
    rw [full] at next
    by_cases whole : count % window.toNat + 1 = window.toNat
    · rw [whole]
      rfl
    · rw [if_neg whole] at next
      cases next
  · rename_i partial_
    by_cases whole : count % window.toNat + 1 = window.toNat
    · rw [if_pos whole] at next
      exact absurd next partial_
    · rw [if_neg whole] at next
      unfold Receive.acknowledge
      dsimp only
      rw [if_neg (by omega), program, counters, next]
      rfl

theorem rank_afterAppend (more : count < chunksLeft grant start) :
    (afterAppend window count).rank grant start < 8 * (chunksLeft grant start - count) + 3 := by
  unfold afterAppend
  split
  · change 8 * (chunksLeft grant start - (count + 1)) + 9 < _
    omega
  · change 8 * (chunksLeft grant start - (count + 1)) + 7 < _
    omega

end AfterAppend

end DestinationPhase

namespace DataTransfer

variable {transfer : DataTransfer}

/-! The operations of the source, one by one. -/

variable {id : MovementId} {offset : UInt64} {frame : Frame} {result : Result Unit}

theorem sourceStep_halted {next : Bool -> ServeProgram (Result Unit)}
    (located : transfer.source = Serve.halted id >>= next) :
    transfer.sourceStep data = some { transfer with source := next false } := by
  unfold sourceStep
  rw [located]
  rfl

theorem sourceStep_read {version : ObjectVersion}
    {next : Result Bytes -> ServeProgram (Result Unit)}
    (located : transfer.source = Serve.perform (.read version offset length) >>= next) :
    transfer.sourceStep data =
      some { transfer with
        source := next (.ok ((data.drop offset.toNat).take length.toNat)) } := by
  unfold sourceStep
  rw [located]
  rfl

theorem sourceStep_send {next : Result Unit -> ServeProgram (Result Unit)}
    (located : transfer.source = Serve.send frame >>= next) :
    transfer.sourceStep data =
      some { transfer with
        source := next (.ok ())
        toDestination := transfer.toDestination ++ [frame]
        sent := if frame.type = .DATA_CHUNK then transfer.sent + 1 else transfer.sent } := by
  unfold sourceStep
  rw [located]
  rfl

theorem sourceStep_receive {next : Result Frame -> ServeProgram (Result Unit)}
    (located : transfer.source = Serve.receive >>= next) :
    transfer.sourceStep data =
      transfer.toSource.head?.map fun frame =>
        { transfer with source := next (.ok frame), toSource := transfer.toSource.tail } := by
  unfold sourceStep
  rw [located]
  cases waiting : transfer.toSource <;> rfl

theorem sourceStep_finish (located : transfer.source = .finish result) :
    transfer.sourceStep data = none := by
  unfold sourceStep
  rw [located]

/-! And those of the destination. -/

theorem destinationStep_again {counters : Receive.Counters}
    (located : transfer.destination = .finish (.again counters)) :
    transfer.destinationStep grant window = some { transfer with
      destination := Receive.receiveTurn grant grant.attempt window counters } := by
  unfold destinationStep
  rw [located]

theorem destinationStep_leave (located : transfer.destination = .finish (.leave result)) :
    transfer.destinationStep grant window = none := by
  unfold destinationStep
  rw [located]

theorem destinationStep_halted {next : Bool -> Receive.TurnProgram}
    (located : transfer.destination = Receive.halted id >>= next) :
    transfer.destinationStep grant window = some { transfer with destination := next false } := by
  unfold destinationStep
  rw [located]
  rfl

theorem destinationStep_receive {next : Result Frame -> Receive.TurnProgram}
    (located : transfer.destination = Receive.receive >>= next) :
    transfer.destinationStep grant window = transfer.toDestination.head?.map fun frame =>
      transfer.takeFrom (next (.ok frame)) frame transfer.toDestination.tail := by
  unfold destinationStep
  rw [located]
  cases waiting : transfer.toDestination <;> rfl

theorem destinationStep_send {next : Result Unit -> Receive.TurnProgram}
    (located : transfer.destination = Receive.send frame >>= next) :
    transfer.destinationStep grant window = some (transfer.sendBack (next (.ok ())) frame) := by
  unfold destinationStep
  rw [located]
  rfl

theorem destinationStep_resume {next : UInt32 -> Receive.TurnProgram} {expected : Nat}
    (located : transfer.destination = Receive.resumeFromChunk >>= next)
    (staged : transfer.staged = expected) :
    transfer.destinationStep grant window =
      some { transfer with destination := next (.ofNat expected) } := by
  unfold destinationStep
  rw [located, ← staged]
  rfl

theorem destinationStep_append {index : UInt32} {payload : Bytes} {digest : Digest}
    {next : Result Unit -> Receive.TurnProgram} (located : transfer.destination =
      Receive.perform (.append index offset payload digest) >>= next) :
    transfer.destinationStep grant window = some { transfer with
      destination := next (.ok ())
      staged := transfer.staged + 1
      deeds := transfer.deeds ++ [.appended index] } := by
  unfold destinationStep
  rw [located]
  rfl

theorem destinationStep_finish {next : Result Digest -> Receive.TurnProgram}
    (located : transfer.destination = Receive.perform .finish >>= next) :
    transfer.destinationStep grant window =
      some { transfer with destination := next (.ok grant.object.contentDigest) } := by
  unfold destinationStep
  rw [located]
  rfl

theorem destinationStep_promote {next : Result Unit -> Receive.TurnProgram}
    (located : transfer.destination = Receive.perform .promote >>= next) :
    transfer.destinationStep grant window =
      some { transfer with destination := next (.ok ()) } := by
  unfold destinationStep
  rw [located]
  rfl

theorem destinationStep_report {next : Result Unit -> Receive.TurnProgram}
    (located : transfer.destination = Receive.perform (.report frame) >>= next) :
    transfer.destinationStep grant window =
      some { transfer with destination := next (.ok ()) } := by
  unfold destinationStep
  rw [located]
  rfl

end DataTransfer

/-! ## The invariant -/

/-- `DATA_END`, while it is on its way. -/
def endOnWay (grant : TransferGrant) (source : SourcePhase) (destination : DestinationPhase) :
    List Frame :=
  if source.closed && !destination.ended then [(Serve.lastMessage grant).frame] else []

/-- `DATA_RESULT`, while it is on its way. -/
def resultOnWay (grant : TransferGrant) (source : SourcePhase) (destination : DestinationPhase) :
    List Frame :=
  if destination.answered && !source.isFinished then
    [(Receive.resultMessage grant grant.attempt grant.object.contentDigest).frame]
  else []

theorem endOnWay_open {source : SourcePhase} (destination : DestinationPhase)
    (opened : source.closed = false) : endOnWay grant source destination = [] := by
  unfold endOnWay
  rw [opened]
  rfl

theorem endOnWay_ended (source : SourcePhase) {destination : DestinationPhase}
    (ended : destination.ended = true) : endOnWay grant source destination = [] := by
  unfold endOnWay
  rw [ended, Bool.not_true, Bool.and_false]
  rfl

theorem resultOnWay_silent (source : SourcePhase) {destination : DestinationPhase}
    (silent : destination.answered = false) : resultOnWay grant source destination = [] := by
  unfold resultOnWay
  rw [silent]
  rfl

/-- The chunks `first`, `first + 1`, and so on, as frames. -/
def chunkFrames (grant : TransferGrant) (data : Bytes) (first count : Nat) : List Frame :=
  (List.range' first count).map fun index => (chunkAt grant data index).frame

/-- The two sides are where the phases say, their counters are in phase, and the channels
hold what one side has sent and the other has not taken. -/
structure Aligned (grant : TransferGrant) (data : Bytes) (window : UInt32) (start : Nat)
    (transfer : DataTransfer) (source : SourcePhase) (destination : DestinationPhase)
    (flow : WindowedFlow) : Prop where
  atSource : transfer.source = source.program grant data window start
  atDestination : transfer.destination = destination.program grant data window start
  sourceProper : source.Proper grant start
  destinationProper : destination.Proper window
  inPhase : flow.InPhase window.toNat
  pushed : flow.pushed = source.pushed grant start
  waiting : flow.waiting = source.waits
  pulled : flow.pulled = destination.pulled grant start
  fetched : destination.fetched grant start ≤ source.pushed grant start
  within : source.pushed grant start ≤ chunksLeft grant start
  ended : destination.ended = true -> source.closed = true
  finished : source.isFinished = true -> destination.answered = true
  onward : transfer.toDestination =
    chunkFrames grant data (start + destination.fetched grant start)
        (source.pushed grant start - destination.fetched grant start) ++
      endOnWay grant source destination
  back : exists acks, transfer.toSource = acks ++ resultOnWay grant source destination ∧
    acks.length = flow.acked window.toNat - flow.taken ∧
    forall frame, frame ∈ acks -> frame.type = .DATA_CHUNK_ACK
  staged : transfer.staged = start + destination.appended grant start
  sent : transfer.sent = start + source.pushed grant start
  acknowledged : transfer.acknowledged = start + window.toNat * flow.acked window.toNat
  deeds : transfer.deeds =
    (List.range' start (destination.appended grant start)).map
      (fun index => .appended (.ofNat index)) ++ destination.deeds

namespace Aligned

variable {transfer : DataTransfer} {source : SourcePhase} {destination : DestinationPhase}
  {flow : WindowedFlow}

theorem of_begun :
    Aligned grant data window start (.begun grant window start) (.head grant start 0) (.poll 0)
      {} where
  atSource := SourcePhase.loopAt_eq 0
  atDestination := by
    change Receive.receiveTurn grant grant.attempt window {} =
      Receive.receiveTurn grant grant.attempt window (DestinationPhase.counters window 0)
    rw [DestinationPhase.counters, Nat.zero_mod]
  sourceProper := SourcePhase.proper_head 0
  destinationProper := trivial
  inPhase := WindowedFlow.inPhase_start
  pushed := (SourcePhase.pushed_head (Nat.zero_le _)).symm
  waiting := (SourcePhase.waits_head 0).symm
  pulled := rfl
  fetched := Nat.zero_le _
  within := by
    rw [SourcePhase.pushed_head (Nat.zero_le _)]
    exact Nat.zero_le _
  ended := nofun
  finished := by
    rw [SourcePhase.isFinished_head]
    exact nofun
  onward := by
    rw [SourcePhase.pushed_head (Nat.zero_le _), endOnWay, SourcePhase.closed_head]
    rfl
  back := ⟨[], rfl, by rw [WindowedFlow.acked, Nat.zero_div]; rfl, nofun⟩
  staged := rfl
  sent := by
    rw [SourcePhase.pushed_head (Nat.zero_le _)]
    rfl
  acknowledged := by
    rw [WindowedFlow.acked, Nat.zero_div]
    rfl
  deeds := rfl

/-- While the source has not closed its side, the destination has not seen the end. -/
theorem unended (aligned : Aligned grant data window start transfer source destination flow)
    (opened : source.closed = false) : destination.ended = false := by
  cases ended : destination.ended with
  | false => rfl
  | true =>
      rw [aligned.ended ended] at opened
      cases opened

/-! ## Moves of the source -/

section Source

/-- The source moves on, and the two sides stay aligned. -/
def SourceMoves (grant : TransferGrant) (data : Bytes) (window : UInt32) (start : Nat)
    (transfer : DataTransfer) (source : SourcePhase) (destination : DestinationPhase) : Prop :=
  exists after later flow, transfer.sourceStep data = some after ∧
    Aligned grant data window start after later destination flow ∧
    later.rank grant start < source.rank grant start

/-- A move of the source that sends and takes nothing. -/
theorem sourceMoves (aligned : Aligned grant data window start transfer source destination flow)
    (later : SourcePhase) (moves : transfer.sourceStep data =
      some { transfer with source := later.program grant data window start })
    (proper : later.Proper grant start)
    (pushed : later.pushed grant start = source.pushed grant start)
    (waits : later.waits = source.waits) (closed : later.closed = source.closed)
    (finished : later.isFinished = source.isFinished)
    (falls : later.rank grant start < source.rank grant start) :
    SourceMoves grant data window start transfer source destination := by
  refine ⟨_, later, flow, moves, ?_, falls⟩
  exact { aligned with
    atSource := rfl
    sourceProper := proper
    pushed := aligned.pushed.trans pushed.symm
    waiting := aligned.waiting.trans waits.symm
    fetched := pushed ▸ aligned.fetched
    within := pushed ▸ aligned.within
    ended := closed ▸ aligned.ended
    finished := finished ▸ aligned.finished
    onward := by
      rw [pushed, endOnWay, closed]
      exact aligned.onward
    back := by
      rw [resultOnWay, finished]
      exact aligned.back
    sent := by
      rw [pushed]
      exact aligned.sent }

theorem sourceStep_read (servable : Servable grant data window start) {sent : Nat}
    (aligned : Aligned grant data window start transfer (.read sent) destination flow) :
    transfer.sourceStep data =
      some { transfer with source := (SourcePhase.push sent).program grant data window start } := by
  have more : sent < chunksLeft grant start := aligned.sourceProper
  have inside : start + sent < grant.object.chunkCount.toNat := by
    unfold chunksLeft at more
    omega
  have located := aligned.atSource
  change transfer.source = Serve.serveChunk grant window (.ofNat (start + sent)) (sent + 1)
    (SourcePhase.loopAt grant window start (sent + 1)) at located
  unfold Serve.serveChunk at located
  rw [servable.chunkOffset inside, servable.chunkLength inside] at located
  rw [DataTransfer.sourceStep_read located, StateObjectDescriptor.toNat_plannedBytes servable.sized,
    StateObjectDescriptor.toNat_plannedLength servable.sized]
  dsimp only
  rw [if_neg]
  · rfl
  · rw [Decidable.not_not]
    exact length_chunkBytesOf servable.held

/-- One more chunk is on its way. -/
theorem chunkFrames_succ (first count : Nat) :
    chunkFrames grant data first (count + 1) =
      chunkFrames grant data first count ++ [(chunkAt grant data (first + count)).frame] := by
  unfold chunkFrames
  rw [List.range'_1_concat, List.map_append]
  rfl

/-- The source sends a chunk. -/
theorem pushes {sent : Nat}
    (aligned : Aligned grant data window start transfer (.push sent) destination flow) :
    SourceMoves grant data window start transfer (.push sent) destination := by
  have more : sent < chunksLeft grant start := aligned.sourceProper
  have count : flow.pushed = sent := aligned.pushed
  have fetched : destination.fetched grant start ≤ sent := aligned.fetched
  refine ⟨_, .afterPush grant window start sent, flow.push window.toNat,
    DataTransfer.sourceStep_send aligned.atSource, ?_, SourcePhase.rank_afterPush more⟩
  exact { aligned with
    atSource := SourcePhase.program_afterPush.symm
    sourceProper := SourcePhase.proper_afterPush more
    inPhase := aligned.inPhase.push aligned.waiting
    pushed := by
      rw [SourcePhase.pushed_afterPush more, WindowedFlow.push, count]
    waiting := by
      rw [SourcePhase.waits_afterPush, WindowedFlow.push, count]
    fetched := by
      rw [SourcePhase.pushed_afterPush more]
      exact Nat.le_succ_of_le fetched
    within := by
      rw [SourcePhase.pushed_afterPush more]
      exact more
    ended := by
      rw [aligned.unended rfl]
      exact nofun
    finished := by
      rw [SourcePhase.isFinished_afterPush]
      exact nofun
    onward := by
      have onward := aligned.onward
      change transfer.toDestination = chunkFrames grant data _ (sent - _) ++ [] at onward
      rw [SourcePhase.pushed_afterPush more, endOnWay_open _ SourcePhase.closed_afterPush,
        Nat.succ_sub fetched, chunkFrames_succ]
      dsimp only
      rw [onward, List.append_nil, List.append_nil, Nat.add_assoc, Nat.add_sub_cancel' fetched]
    back := by
      rw [resultOnWay, SourcePhase.isFinished_afterPush]
      exact aligned.back
    sent := by
      have before : transfer.sent = start + sent := aligned.sent
      have typed : (chunkAt grant data (start + sent)).frame.type = .DATA_CHUNK := rfl
      rw [SourcePhase.pushed_afterPush more]
      dsimp only
      rw [if_pos typed, before, Nat.add_assoc] }

/-- The source, waiting, takes an acknowledgement: nothing else can have been sent. -/
theorem takes {sent : Nat}
    (aligned : Aligned grant data window start transfer (.await sent) destination flow) :
    transfer.toSource = [] ∨
      SourceMoves grant data window start transfer (.await sent) destination := by
  have within : sent ≤ chunksLeft grant start := aligned.sourceProper
  have count : flow.pushed = sent := aligned.pushed
  have silent : destination.answered = false :=
    DestinationPhase.answered_of_unended (aligned.unended rfl)
  rcases aligned.back with ⟨acks, back, length, typed⟩
  rw [resultOnWay_silent _ silent, List.append_nil] at back
  cases acks with
  | nil => exact .inl back
  | cons ack rest =>
      have arrived : flow.taken < flow.acked window.toNat := by
        rw [List.length_cons] at length
        omega
      refine .inr ⟨_, .head grant start sent, flow.take,
        (DataTransfer.sourceStep_receive aligned.atSource).trans (by rw [back]; rfl), ?_, ?_⟩
      · exact { aligned with
          atSource := by
            dsimp only
            rw [if_neg (by rw [Decidable.not_not]; exact typed ack List.mem_cons_self)]
            exact SourcePhase.loopAt_eq sent
          sourceProper := SourcePhase.proper_head sent
          inPhase := aligned.inPhase.take aligned.waiting arrived
          pushed := count.trans (SourcePhase.pushed_head within).symm
          waiting := (SourcePhase.waits_head sent).symm
          fetched := by
            rw [SourcePhase.pushed_head within]
            exact aligned.fetched
          within := by
            rw [SourcePhase.pushed_head within]
            exact within
          ended := by
            rw [aligned.unended rfl]
            exact nofun
          finished := by
            rw [SourcePhase.isFinished_head]
            exact nofun
          onward := by
            rw [SourcePhase.pushed_head within, endOnWay_open _ (SourcePhase.closed_head sent)]
            exact aligned.onward
          back := by
            refine ⟨rest, ?_, ?_, fun frame inside => typed frame (List.mem_cons_of_mem ack inside)⟩
            · rw [resultOnWay_silent _ silent, List.append_nil]
              rfl
            · rw [List.length_cons] at length
              change rest.length = flow.acked window.toNat - (flow.taken + 1)
              omega
          sent := by
            rw [SourcePhase.pushed_head within]
            exact aligned.sent }
      · rw [SourcePhase.rank_head within]
        exact Nat.lt_succ_self _

/-- The source closes its side. -/
theorem closes (aligned : Aligned grant data window start transfer .close destination flow) :
    SourceMoves grant data window start transfer .close destination := by
  refine ⟨_, .listen, flow, DataTransfer.sourceStep_send aligned.atSource, ?_, Nat.lt_succ_self _⟩
  exact { aligned with
    atSource := rfl
    ended := fun _ => rfl
    finished := nofun
    onward := by
      have onward := aligned.onward
      rw [endOnWay_open _ rfl, List.append_nil] at onward
      unfold endOnWay
      rw [aligned.unended rfl]
      dsimp only
      rw [onward]
      rfl
    sent := by
      have typed : (Serve.lastMessage grant).frame.type ≠ .DATA_CHUNK := nofun
      dsimp only
      rw [if_neg typed]
      exact aligned.sent }

/-- The source takes the result: every acknowledgement was taken before. -/
theorem listens (servable : Servable grant data window start)
    (aligned : Aligned grant data window start transfer .listen destination flow) :
    transfer.toSource = [] ∨ SourceMoves grant data window start transfer .listen destination := by
  rcases aligned.back with ⟨acks, back, length, _⟩
  rw [aligned.inPhase.acked_eq_taken aligned.waiting, Nat.sub_self, List.length_eq_zero_iff] at length
  rw [length, List.nil_append] at back
  cases answered : destination.answered with
  | false =>
      rw [resultOnWay_silent _ answered] at back
      exact .inl back
  | true =>
      rw [resultOnWay, answered] at back
      refine .inr ⟨_, .finished, flow,
        (DataTransfer.sourceStep_receive aligned.atSource).trans (by rw [back]; rfl), ?_,
        Nat.zero_lt_one⟩
      exact { aligned with
        atSource := by
          have typed : (Receive.resultMessage grant grant.attempt
            grant.object.contentDigest).frame.type = .DATA_RESULT := rfl
          dsimp only
          rw [if_neg (by rw [Decidable.not_not]; exact typed), servable.decodeResult]
          rfl
        ended := fun _ => rfl
        finished := fun _ => answered
        back := by
          refine ⟨[], ?_, ?_, nofun⟩
          · rw [resultOnWay, answered]
            rfl
          · rw [aligned.inPhase.acked_eq_taken aligned.waiting, Nat.sub_self]
            rfl }

/-- The source moves on, unless it waits for a frame or has finished. -/
theorem sourceStep (servable : Servable grant data window start)
    (aligned : Aligned grant data window start transfer source destination flow) :
    SourceMoves grant data window start transfer source destination ∨
      transfer.sourceStep data = none ∧
        ((source.waits = true ∨ source = .listen) ∧ transfer.toSource = [] ∨
          source = .finished) := by
  cases source with
  | poll sent =>
      have more : sent < chunksLeft grant start := aligned.sourceProper
      exact .inl (aligned.sourceMoves (.read sent) (DataTransfer.sourceStep_halted
        (aligned.atSource.trans (SourcePhase.loopAt_of_lt more))) more rfl rfl rfl rfl
        (Nat.lt_succ_self _))
  | read sent =>
      exact .inl (aligned.sourceMoves (.push sent) (aligned.sourceStep_read servable)
        aligned.sourceProper rfl rfl rfl rfl (Nat.lt_succ_self _))
  | push sent => exact .inl aligned.pushes
  | await sent =>
      rcases aligned.takes with empty | moves
      · refine .inr ⟨?_, .inl ⟨.inl rfl, empty⟩⟩
        rw [DataTransfer.sourceStep_receive aligned.atSource, empty]
        rfl
      · exact .inl moves
  | close => exact .inl aligned.closes
  | listen =>
      rcases aligned.listens servable with empty | moves
      · refine .inr ⟨?_, .inl ⟨.inr rfl, empty⟩⟩
        rw [DataTransfer.sourceStep_receive aligned.atSource, empty]
        rfl
      · exact .inl moves
  | finished => exact .inr ⟨DataTransfer.sourceStep_finish aligned.atSource, .inr rfl⟩

end Source

/-! ## Moves of the destination -/

section Destination

/-- The destination moves on, and the two sides stay aligned. -/
def DestinationMoves (grant : TransferGrant) (data : Bytes) (window : UInt32) (start : Nat)
    (transfer : DataTransfer) (source : SourcePhase) (destination : DestinationPhase) : Prop :=
  exists after later flow, transfer.destinationStep grant window = some after ∧
    Aligned grant data window start after source later flow ∧
    later.rank grant start < destination.rank grant start

/-- A move of the destination that sends, takes and appends nothing. -/
theorem destinationMoves
    (aligned : Aligned grant data window start transfer source destination flow)
    (later : DestinationPhase) (moves : transfer.destinationStep grant window =
      some { transfer with destination := later.program grant data window start })
    (proper : later.Proper window)
    (fetched : later.fetched grant start = destination.fetched grant start)
    (appended : later.appended grant start = destination.appended grant start)
    (pulled : later.pulled grant start = destination.pulled grant start)
    (ended : later.ended = destination.ended) (answered : later.answered = destination.answered)
    (falls : later.rank grant start < destination.rank grant start) :
    DestinationMoves grant data window start transfer source destination := by
  refine ⟨_, later, flow, moves, ?_, falls⟩
  exact { aligned with
    atDestination := rfl
    destinationProper := proper
    pulled := aligned.pulled.trans pulled.symm
    fetched := fetched ▸ aligned.fetched
    ended := ended ▸ aligned.ended
    finished := answered ▸ aligned.finished
    onward := by
      rw [fetched, endOnWay, ended]
      exact aligned.onward
    back := by
      rw [resultOnWay, answered]
      exact aligned.back
    staged := by
      rw [appended]
      exact aligned.staged
    deeds := by
      rw [appended, DestinationPhase.deeds, ended, answered]
      exact aligned.deeds }

/-- The first chunk on its way. -/
theorem chunkFrames_cons (first count : Nat) :
    chunkFrames grant data first (count + 1) =
      (chunkAt grant data first).frame :: chunkFrames grant data (first + 1) count := by
  unfold chunkFrames
  rw [List.range'_succ, List.map_cons]

/-- The destination takes the next chunk. -/
theorem fetches (servable : Servable grant data window start) {count : Nat}
    (aligned : Aligned grant data window start transfer source (.take count) flow)
    (sent : count < source.pushed grant start) :
    DestinationMoves grant data window start transfer source (.take count) := by
  have inside : count < chunksLeft grant start := Nat.lt_of_lt_of_le sent aligned.within
  have left : source.pushed grant start - count = source.pushed grant start - (count + 1) + 1 := by
    omega
  have onward : transfer.toDestination = (chunkAt grant data (start + count)).frame ::
      (chunkFrames grant data (start + count + 1) (source.pushed grant start - (count + 1)) ++
        endOnWay grant source (.take count)) := by
    rw [aligned.onward]
    change chunkFrames grant data (start + count) (source.pushed grant start - count) ++ _ = _
    rw [left, chunkFrames_cons, List.cons_append]
  refine ⟨_, .place count, flow,
    (DataTransfer.destinationStep_receive aligned.atDestination).trans (by rw [onward]; rfl), ?_,
    Nat.lt_succ_self _⟩
  exact { aligned with
    atDestination := servable.takeFrame_chunk _ (Nat.le_add_right start count)
      (by unfold chunksLeft at inside; omega)
    fetched := sent
    onward := rfl
    deeds := aligned.deeds }

/-- The destination takes the end, once all chunks were taken. -/
theorem ends (servable : Servable grant data window start) {count : Nat}
    (aligned : Aligned grant data window start transfer source (.take count) flow)
    (all : source.pushed grant start = count) :
    transfer.toDestination = [] ∨
      DestinationMoves grant data window start transfer source (.take count) := by
  have onward : transfer.toDestination = endOnWay grant source (.take count) := by
    rw [aligned.onward]
    change chunkFrames grant data (start + count) (source.pushed grant start - count) ++ _ = _
    rw [all, Nat.sub_self]
    rfl
  cases closed : source.closed with
  | false => exact .inl (onward.trans (endOnWay_open _ closed))
  | true =>
      have whole : chunksLeft grant start = count := by
        rw [← all]
        cases source with
        | listen => rfl
        | finished => rfl
        | _ => cases closed
      rw [endOnWay, closed] at onward
      refine .inr ⟨_, .settle, flow,
        (DataTransfer.destinationStep_receive aligned.atDestination).trans (by rw [onward]; rfl),
        ?_, ?_⟩
      · exact { aligned with
          atDestination := servable.takeFrame_end (DestinationPhase.counters window count)
          destinationProper := trivial
          pulled := aligned.pulled.trans whole.symm
          fetched := by
            rw [all, ← whole]
            exact Nat.le_refl _
          ended := fun _ => closed
          finished := fun finished => by cases aligned.finished finished
          onward := by
            rw [endOnWay_ended _ rfl]
            change [] =
              chunkFrames grant data _ (source.pushed grant start - chunksLeft grant start) ++ []
            rw [all, whole, Nat.sub_self]
            rfl
          back := aligned.back
          staged := by
            rw [show DestinationPhase.settle.appended grant start = count from whole]
            exact aligned.staged
          deeds := by
            rw [show DestinationPhase.settle.appended grant start = count from whole]
            change transfer.deeds ++ [.ended] = _
            rw [aligned.deeds]
            change _ ++ [] ++ [Deed.ended] = _ ++ [Deed.ended]
            rw [List.append_nil]
            rfl }
      · change 4 < 8 * (chunksLeft grant start - count) + 5
        omega

variable {after : DataTransfer}

/-- A turn of the receive loop is over; an acknowledgement goes with it or not. -/
theorem turns (aligned : Aligned grant data window start transfer source destination flow)
    (count : Nat) (counted : destination.pulled grant start = count)
    (fetched : destination.fetched grant start = count + 1) (opened : destination.ended = false)
    (atSource : after.source = transfer.source) (atDestination : after.destination =
      (DestinationPhase.turn (count + 1)).program grant data window start)
    (onward : after.toDestination = transfer.toDestination)
    (back : exists acks, after.toSource = transfer.toSource ++ acks ∧
      acks.length = ((count + 1) % window.toNat == 0).toNat ∧
      forall frame, frame ∈ acks -> frame.type = .DATA_CHUNK_ACK)
    (staged : after.staged = start + (count + 1)) (sent : after.sent = transfer.sent)
    (acknowledged : after.acknowledged = start + window.toNat * flow.pull.acked window.toNat)
    (deeds : after.deeds = (List.range' start (count + 1)).map
      (fun index => .appended (.ofNat index))) :
    Aligned grant data window start after source (.turn (count + 1)) flow.pull := by
  have behind : count + 1 ≤ source.pushed grant start := fetched ▸ aligned.fetched
  have pulled : flow.pulled = count := aligned.pulled.trans counted
  have silent : destination.answered = false := DestinationPhase.answered_of_unended opened
  exact {
    atSource := atSource.trans aligned.atSource
    atDestination := atDestination
    sourceProper := aligned.sourceProper
    destinationProper := trivial
    inPhase := aligned.inPhase.pull (by rw [pulled, aligned.pushed]; exact behind)
    pushed := aligned.pushed
    waiting := aligned.waiting
    pulled := by
      rw [WindowedFlow.pull, pulled]
      rfl
    fetched := behind
    within := aligned.within
    ended := nofun
    finished := fun finished => by
      rw [aligned.finished finished] at silent
      cases silent
    onward := by
      rw [onward, aligned.onward, fetched, endOnWay, opened]
      rfl
    back := by
      rcases aligned.back with ⟨earlier, before, length, typed⟩
      rcases back with ⟨acks, added, count_acks, typed_acks⟩
      rw [resultOnWay_silent _ silent, List.append_nil] at before
      refine ⟨earlier ++ acks, ?_, ?_, fun frame inside => ?_⟩
      · rw [resultOnWay_silent _ rfl, List.append_nil, added, before]
      · have taken := aligned.inPhase.taken
        rw [List.length_append, length, count_acks, WindowedFlow.acked_pull, pulled]
        change _ = flow.acked window.toNat + _ - flow.taken
        omega
      · rcases List.mem_append.mp inside with old | new
        · exact typed frame old
        · exact typed_acks frame new
    staged := staged
    sent := sent.trans aligned.sent
    acknowledged := acknowledged
    deeds := by
      rw [deeds]
      exact (List.append_nil _).symm }

/-- The chunks that have been appended, and one more. -/
theorem deeds_succ (count : Nat) :
    (List.range' start (count + 1)).map (fun index => Deed.appended (.ofNat index)) =
      (List.range' start count).map (fun index => .appended (.ofNat index)) ++
        [.appended (.ofNat (start + count))] := by
  rw [List.range'_1_concat, List.map_append]
  rfl

/-- The destination appends a chunk. -/
theorem appends (servable : Servable grant data window start) {count : Nat}
    (aligned : Aligned grant data window start transfer source (.append count) flow) :
    DestinationMoves grant data window start transfer source (.append count) := by
  have more : count < chunksLeft grant start := Nat.lt_of_lt_of_le aligned.fetched aligned.within
  have fresh : ¬ (chunkAt grant data (start + count)).chunkIndex < UInt32.ofNat (start + count) :=
    UInt32.lt_irrefl _
  have moves : transfer.destinationStep grant window = some { transfer with
      destination := (DestinationPhase.afterAppend window count).program grant data window start
      staged := transfer.staged + 1
      deeds := transfer.deeds ++ [.appended (.ofNat (start + count))] } := by
    rw [DataTransfer.destinationStep_append aligned.atDestination,
      DestinationPhase.program_afterAppend servable.opened]
    dsimp only
    rw [if_neg fresh]
    rfl
  have deeds : transfer.deeds ++ [.appended (.ofNat (start + count))] =
      (List.range' start (count + 1)).map (fun index => .appended (.ofNat index)) := by
    have before : transfer.deeds = (List.range' start count).map
        (fun index => .appended (.ofNat index)) ++ [] := aligned.deeds
    rw [deeds_succ, before, List.append_nil]
  have staged : transfer.staged + 1 = start + (count + 1) := by
    have before : transfer.staged = start + count := aligned.staged
    rw [before, Nat.add_assoc]
  have falls := @DestinationPhase.rank_afterAppend grant window start count more
  by_cases full : (count + 1) % window.toNat = 0
  · have place : DestinationPhase.afterAppend window count = .resume (count + 1) := if_pos full
    rw [place] at moves falls
    refine ⟨_, _, flow, moves, ?_, falls⟩
    exact { aligned with
      atDestination := rfl
      destinationProper := ⟨Nat.succ_pos count, full⟩
      staged := staged
      deeds := deeds.trans (List.append_nil _).symm }
  · have none : ((count + 1) % window.toNat == 0) = false := beq_false_of_ne full
    have pulled : flow.pulled = count := aligned.pulled
    have place : DestinationPhase.afterAppend window count = .turn (count + 1) := if_neg full
    rw [place] at moves falls
    refine ⟨_, _, flow.pull, moves, ?_, falls⟩
    refine aligned.turns count rfl rfl rfl rfl rfl rfl ⟨[], (List.append_nil _).symm, ?_, nofun⟩
      staged rfl ?_ deeds
    · rw [none]
      rfl
    · rw [WindowedFlow.acked_pull, pulled, none]
      exact aligned.acknowledged

/-- The destination acknowledges a window. -/
theorem confirms {count : Nat}
    (aligned : Aligned grant data window start transfer source (.confirm (count + 1)) flow) :
    DestinationMoves grant data window start transfer source (.confirm (count + 1)) := by
  have full : (count + 1) % window.toNat = 0 := aligned.destinationProper.2
  have one : ((count + 1) % window.toNat == 0) = true := beq_iff_eq.mpr full
  have pulled : flow.pulled = count := aligned.pulled
  have staged : transfer.staged = start + (count + 1) := aligned.staged
  refine ⟨_, .turn (count + 1), flow.pull,
    DataTransfer.destinationStep_send aligned.atDestination, ?_, Nat.lt_succ_self _⟩
  refine aligned.turns count rfl rfl rfl rfl ?_ rfl ⟨_, rfl, ?_, ?_⟩ staged rfl ?_ ?_
  · change Program.finish (Turn.again (Receive.Counters.mk 0 0)) =
      Program.finish (Turn.again (DestinationPhase.counters window (count + 1)))
    rw [DestinationPhase.counters, full]
  · rw [one]
    rfl
  · intro frame inside
    rw [List.mem_singleton.mp inside]
    rfl
  · change transfer.staged = _
    have whole := Nat.div_add_mod (count + 1) window.toNat
    rw [full, Nat.add_zero] at whole
    rw [staged, WindowedFlow.acked, WindowedFlow.pull, pulled, whole]
  · have before : transfer.deeds = (List.range' start (count + 1)).map
        (fun index => .appended (.ofNat index)) ++ [] := aligned.deeds
    change transfer.deeds = _
    rw [before, List.append_nil]

/-- The destination answers with the result. -/
theorem answers (aligned : Aligned grant data window start transfer source .answer flow) :
    DestinationMoves grant data window start transfer source .answer := by
  have unfinished : source.isFinished = false := by
    cases finished : source.isFinished with
    | false => rfl
    | true => cases aligned.finished finished
  refine ⟨_, .report, flow, DataTransfer.destinationStep_send aligned.atDestination, ?_,
    Nat.lt_succ_self _⟩
  exact { aligned with
    atDestination := rfl
    finished := fun _ => rfl
    back := by
      rcases aligned.back with ⟨acks, before, length, typed⟩
      rw [resultOnWay_silent _ rfl, List.append_nil] at before
      refine ⟨acks, ?_, length, typed⟩
      unfold resultOnWay
      rw [unfinished]
      change transfer.toSource ++ _ = _
      rw [before]
      rfl
    deeds := by
      change transfer.deeds ++ [.answered] = _
      rw [aligned.deeds, List.append_assoc]
      rfl }

/-- The destination moves on, unless it waits for a frame or has finished. -/
theorem destinationStep (servable : Servable grant data window start)
    (aligned : Aligned grant data window start transfer source destination flow) :
    DestinationMoves grant data window start transfer source destination ∨
      transfer.destinationStep grant window = none ∧
        ((exists count, destination = .take count ∧ transfer.toDestination = []) ∨
          destination = .finished) := by
  have located := aligned.atDestination
  cases destination with
  | turn count =>
      exact .inl (aligned.destinationMoves (.poll count) (DataTransfer.destinationStep_again located)
        trivial rfl rfl rfl rfl rfl (Nat.lt_succ_self _))
  | poll count =>
      exact .inl (aligned.destinationMoves (.take count)
        (DataTransfer.destinationStep_halted located) trivial rfl rfl rfl rfl rfl
        (Nat.lt_succ_self _))
  | take count =>
      by_cases sent : count < source.pushed grant start
      · exact .inl (aligned.fetches servable sent)
      · have all : source.pushed grant start = count :=
          Nat.le_antisymm (Nat.not_lt.mp sent) aligned.fetched
        rcases aligned.ends servable all with empty | moves
        · refine .inr ⟨?_, .inl ⟨count, rfl, empty⟩⟩
          rw [DataTransfer.destinationStep_receive located, empty]
          rfl
        · exact .inl moves
  | place count =>
      exact .inl (aligned.destinationMoves (.append count)
        (DataTransfer.destinationStep_resume located aligned.staged) trivial rfl rfl rfl rfl rfl
        (Nat.lt_succ_self _))
  | append count => exact .inl (aligned.appends servable)
  | resume count =>
      change transfer.destination =
        Receive.acknowledge grant grant.attempt window ⟨0, window.toNat⟩ at located
      unfold Receive.acknowledge at located
      rw [if_pos (Nat.le_refl window.toNat)] at located
      exact .inl (aligned.destinationMoves (.confirm count)
        (DataTransfer.destinationStep_resume located aligned.staged) aligned.destinationProper
        rfl rfl rfl rfl rfl (Nat.lt_succ_self _))
  | confirm count =>
      rcases Nat.exists_eq_add_one_of_ne_zero (Nat.ne_of_gt aligned.destinationProper.1) with
        ⟨earlier, rfl⟩
      exact .inl aligned.confirms
  | settle =>
      have moves : transfer.destinationStep grant window = _ :=
        DataTransfer.destinationStep_finish located
      dsimp only at moves
      rw [if_neg (fun other => other rfl)] at moves
      exact .inl (aligned.destinationMoves .promote moves trivial rfl rfl rfl rfl rfl
        (Nat.lt_succ_self _))
  | promote =>
      exact .inl (aligned.destinationMoves .answer (DataTransfer.destinationStep_promote located)
        trivial rfl rfl rfl rfl rfl (Nat.lt_succ_self _))
  | answer => exact .inl aligned.answers
  | report =>
      exact .inl (aligned.destinationMoves .finished (DataTransfer.destinationStep_report located)
        trivial rfl rfl rfl rfl rfl (Nat.lt_succ_self _))
  | finished => exact .inr ⟨DataTransfer.destinationStep_leave located, .inr rfl⟩

end Destination

/-! ## Whole sessions -/

variable (servable : Servable grant data window start)
  (aligned : Aligned grant data window start transfer source destination flow)

include servable aligned

/-- Where the source can be when it cannot move. -/
theorem source_of_stuck (stuck : transfer.sourceStep data = none) :
    (source.waits = true ∨ source = .listen) ∧ transfer.toSource = [] ∨ source = .finished := by
  rcases aligned.sourceStep servable with ⟨_, _, _, moves, _⟩ | ⟨_, place⟩
  · cases moves.symm.trans stuck
  · exact place

/-- Where the destination can be when it cannot move. -/
theorem destination_of_stuck (stuck : transfer.destinationStep grant window = none) :
    (exists count, destination = .take count ∧ transfer.toDestination = []) ∨
      destination = .finished := by
  rcases aligned.destinationStep servable with ⟨_, _, _, moves, _⟩ | ⟨_, place⟩
  · cases moves.symm.trans stuck
  · exact place

/-- No side waits for a frame that the other will not send: when neither can move, both
have finished. -/
theorem completed_of_stuck (stuck : Stuck (DataTransfer.step grant data window) transfer) :
    transfer.Completed grant start := by
  rcases aligned.back with ⟨acks, back, length, _⟩
  rcases aligned.destination_of_stuck servable (stuck .destination) with
    ⟨count, rfl, emptied⟩ | rfl
  · have onward := aligned.onward
    rw [emptied] at onward
    rcases List.append_eq_nil_iff.mp onward.symm with ⟨chunks, ending⟩
    rcases aligned.source_of_stuck servable (stuck .source) with ⟨waits | rfl, silent⟩ | rfl
    · -- all chunks were taken, so the acknowledgement is on its way
      have all : flow.pulled = flow.pushed := by
        rw [aligned.pulled, aligned.pushed]
        have none := List.length_eq_zero_iff.mpr chunks
        rw [chunkFrames, List.length_map, List.length_range'] at none
        exact Nat.le_antisymm aligned.fetched (Nat.sub_eq_zero_iff_le.mp none)
      have arrives := aligned.inPhase.arrives (aligned.waiting.trans waits) all
      rw [silent] at back
      rw [(List.append_eq_nil_iff.mp back.symm).1] at length
      change 0 = _ at length
      omega
    · cases ending
    · cases aligned.finished rfl
  · rcases aligned.source_of_stuck servable (stuck .source) with ⟨waits | rfl, silent⟩ | rfl
    · have closed := aligned.ended rfl
      cases source with
      | await sent => cases closed
      | _ => cases waits
    · rw [silent] at back
      cases (List.append_eq_nil_iff.mp back.symm).2
    · have taken := aligned.inPhase.acked_eq_taken aligned.waiting
      rw [taken, Nat.sub_self, List.length_eq_zero_iff] at length
      refine ⟨aligned.atSource, aligned.atDestination, ?_, ?_, aligned.deeds⟩
      · rw [aligned.onward, endOnWay_ended _ rfl]
        change chunkFrames grant data _ (chunksLeft grant start - chunksLeft grant start) ++ [] = []
        rw [Nat.sub_self]
        rfl
      · rw [back, length]
        rfl

/-- A side that has returned an error is nowhere. -/
theorem orderly : transfer.Orderly window := by
  refine ⟨fun status failed => ?_, fun status failed => ?_, ?_⟩
  · rcases aligned.source_of_stuck servable (DataTransfer.sourceStep_finish failed) with
      ⟨waits | rfl, _⟩ | rfl
    · have located := aligned.atSource
      rw [failed] at located
      cases source with
      | await sent => cases located
      | _ => cases waits
    · have located := aligned.atSource
      rw [failed] at located
      cases located
    · have located := aligned.atSource
      rw [failed] at located
      cases located
  · rcases aligned.destination_of_stuck servable (DataTransfer.destinationStep_leave failed) with
      ⟨count, rfl, _⟩ | rfl
    · have located := aligned.atDestination
      rw [failed] at located
      cases located
    · have located := aligned.atDestination
      rw [failed] at located
      cases located
  · have bound := aligned.inPhase.unacknowledged_le servable.opened
    rw [WindowedFlow.unacknowledged, aligned.pushed] at bound
    rw [aligned.sent, aligned.acknowledged]
    omega

theorem step {next : DataTransfer} {side : Side}
    (moved : transfer.step grant data window side = some next) :
    exists laterSource laterDestination flow,
      Aligned grant data window start next laterSource laterDestination flow ∧
        laterSource.rank grant start + laterDestination.rank grant start <
          source.rank grant start + destination.rank grant start := by
  cases side with
  | source =>
      rcases aligned.sourceStep servable with ⟨after, later, flow, reached, kept, falls⟩ | ⟨stuck, _⟩
      · cases reached.symm.trans moved
        exact ⟨later, destination, flow, kept, Nat.add_lt_add_right falls _⟩
      · cases stuck.symm.trans moved
  | destination =>
      rcases aligned.destinationStep servable with
        ⟨after, later, flow, reached, kept, falls⟩ | ⟨stuck, _⟩
      · cases reached.symm.trans moved
        exact ⟨source, later, flow, kept, Nat.add_lt_add_left falls _⟩
      · cases stuck.symm.trans moved

end Aligned

end Steps

section Sessions

variable (grant : TransferGrant) (data : Bytes) (window : UInt32) (start : Nat)

/-- The two sides are aligned, with this many operations to come. -/
def AlignedAt (rank : Nat) (transfer : DataTransfer) : Prop :=
  exists source destination flow, Aligned grant data window start transfer source destination flow ∧
    source.rank grant start + destination.rank grant start = rank

/-- The two loops always run to completion, whoever moves when.  On the way neither side
fails, and no more than a window of chunks is unacknowledged. -/
theorem dataTransfer_completes (servable : Servable grant data window start) :
    Inevitable (DataTransfer.step grant data window) (DataTransfer.Completed grant start)
        (.begun grant window start) ∧
      forall sides transfer,
        follow (DataTransfer.step grant data window) (.begun grant window start) sides =
          some transfer -> transfer.Orderly window := by
  have ends : forall rank transfer, AlignedAt grant data window start rank transfer ->
      Stuck (DataTransfer.step grant data window) transfer -> transfer.Completed grant start := by
    rintro rank transfer ⟨source, destination, flow, aligned, _⟩ stuck
    exact aligned.completed_of_stuck servable stuck
  have falls : forall rank transfer side next, AlignedAt grant data window start rank transfer ->
      transfer.step grant data window side = some next ->
      exists lower, lower < rank ∧ AlignedAt grant data window start lower next := by
    rintro rank transfer side next ⟨source, destination, flow, aligned, rfl⟩ moved
    rcases aligned.step servable moved with ⟨later, laterDestination, flow, kept, falls⟩
    exact ⟨_, falls, later, laterDestination, flow, kept, rfl⟩
  have keeps : forall transfer side next, (exists rank, AlignedAt grant data window start rank transfer) ->
      transfer.step grant data window side = some next ->
      exists rank, AlignedAt grant data window start rank next := by
    rintro transfer side next ⟨rank, aligned⟩ moved
    rcases falls rank transfer side next aligned moved with ⟨lower, _, kept⟩
    exact ⟨lower, kept⟩
  have begun : AlignedAt grant data window start _ (.begun grant window start) :=
    ⟨_, _, _, .of_begun, rfl⟩
  refine ⟨inevitable_of_rank ends falls begun, fun sides transfer followed => ?_⟩
  rcases follow_invariant keeps ⟨_, begun⟩ followed with
    ⟨rank, source, destination, flow, aligned, _⟩
  exact aligned.orderly servable

end Sessions

/-- An object of three chunks, the last of one byte. -/
def threeChunks : StateObjectDescriptor := { oneByteObject with totalBytes := 2049, chunkCount := 3 }

/-- A grant for it. -/
def threeChunkGrant : TransferGrant where
  movementId := .filled 1
  movementGeneration := ⟨1⟩
  attempt := .filled 5
  object := threeChunks
  source := endpointA
  sourceIncarnation := ⟨endpointA, .filled 1, ⟨1⟩⟩
  destination := endpointB
  destinationIncarnation := ⟨endpointB, .filled 2, ⟨1⟩⟩
  policyGeneration := ⟨1⟩
  grantNonce := .filled 6
  maxBytes := 2049
  maxChunks := 3
  issuedUnixMillis := 1
  effectClass := .REPEATABLE
  signature := .zero

/-- No chunk is longer than the chunk size. -/
theorem StateObjectDescriptor.chunkLength_le {index : UInt32}
    (found : object.chunkLength index = .ok length) :
    length ≤ object.chunkBytes := by
  rcases bind_eq_ok.mp found with ⟨offset, _, found⟩
  cases found
  split
  · exact UInt64.le_of_lt (by assumption)
  · exact UInt64.le_refl _

theorem servable_threeChunks : Servable threeChunkGrant (List.replicate 2049 7) 2 0 where
  valid := by decide +kernel
  movement := by decide
  attempt := by decide
  held := List.length_replicate
  starts := Nat.zero_le _
  opened := by decide
  carried := fun index length _ found => Nat.le_trans
    (UInt64.le_iff_toNat_le.mp (StateObjectDescriptor.chunkLength_le found)) (by decide)

/-- Three chunks in windows of two. -/
theorem dataTransfer_completes_threeChunks :
    Inevitable (DataTransfer.step threeChunkGrant (List.replicate 2049 7) 2)
      (DataTransfer.Completed threeChunkGrant 0) (.begun threeChunkGrant 2 0) :=
  (dataTransfer_completes threeChunkGrant (List.replicate 2049 7) 2 0 servable_threeChunks).1

end StateMovementFabric
