import StateMovementFabric.Foundation.Program
import StateMovementFabric.Wire.DataMessages
import StateMovementFabric.Wire.Handshake
import StateMovementFabric.Endpoint.Agent

namespace StateMovementFabric

open Foundation Wire Handshake

/-!
# Data sessions

The two ends of a data session as programs: `serve_data_connection` at the source, from the
handshake to the result, and the receive loop of `run_transfer` at the destination.  What
an operation does is said elsewhere; here is only in which order they are performed and
what the replies lead to.
-/

/-! ## The source -/

/-- What a source does while it serves a session.  `halted` asks whether the endpoint is
stopping or the movement was cancelled; `read` is a seek and a read. -/
inductive ServeOp where
  | receive
  | send (frame : Frame)
  | newSessionId
  | newNonce
  | consumeGrant (nonce : Nonce)
  | policyGeneration
  | objectPresent (version : ObjectVersion)
  | openObject (version : ObjectVersion)
  | cancellationFlag (id : MovementId)
  | halted (id : MovementId)
  | read (version : ObjectVersion) (offset length : UInt64)

/-- The replies.  A consumed grant comes with whether it was still unused. -/
def ServeOp.Reply : ServeOp -> Type
  | receive => Result Frame
  | send _ => Result Unit
  | newSessionId => SessionId
  | newNonce => Nonce
  | consumeGrant _ => Option (TransferGrant × Bool)
  | policyGeneration => PolicyGeneration
  | objectPresent _ => Bool
  | openObject _ => Result Unit
  | cancellationFlag _ => Unit
  | halted _ => Bool
  | read _ _ _ => Result Bytes

abbrev serveSignature : Signature := ⟨ServeOp, ServeOp.Reply, fun _ _ => True⟩

abbrev ServeProgram := Program serveSignature

namespace Serve

abbrev perform (op : ServeOp) : ServeProgram op.Reply := @Program.call serveSignature op

abbrev receive : ServeProgram (Result Frame) := perform .receive

abbrev send (frame : Frame) : ServeProgram (Result Unit) := perform (.send frame)

abbrev policyGeneration : ServeProgram PolicyGeneration := perform .policyGeneration

abbrev objectPresent (version : ObjectVersion) : ServeProgram Bool := perform (.objectPresent version)

abbrev halted (id : MovementId) : ServeProgram Bool := perform (.halted id)

/-- The chunk that is sent for `index`. -/
def servedChunk (grant : TransferGrant) (index : UInt32) (offset length : UInt64)
    (payload : Bytes) : DataChunk where
  movementId := grant.movementId
  attempt := grant.attempt
  chunkIndex := index
  chunkOffset := offset
  chunkLength := length
  chunkDigest := computeChunkDigest grant.object.objectId grant.object.generation index offset
    length payload
  payload := payload

def abortServing (grant : TransferGrant) : ServeProgram (Result Unit) := do
  let detail := ascii "the movement was cancelled while it was being served"
  let _ ← send (DataAbort.mk grant.movementId grant.attempt .CANCELLED_BY_OPERATOR detail).frame
  return .error ⟨.CANCELLED_BY_OPERATOR, detail⟩

/-- Wait for an acknowledgement when a window is full. -/
def awaitAck (rest : ServeProgram (Result Unit)) : ServeProgram (Result Unit) := do
  match ← receive with
  | .error status => return .error status
  | .ok frame =>
      if frame.type ≠ .DATA_CHUNK_ACK then
        return refuse .PROTOCOL_STATE_VIOLATION "expected a chunk acknowledgement"
      else rest

/-- Send one chunk; `sent` counts it already. -/
def pushChunk (window : UInt32) (chunk : DataChunk) (sent : Nat)
    (rest : ServeProgram (Result Unit)) : ServeProgram (Result Unit) := do
  match ← send chunk.frame with
  | .error status => return .error status
  | .ok () => if sent % window.toNat = 0 then awaitAck rest else rest

/-- Read one chunk and send it. -/
def serveChunk (grant : TransferGrant) (window : UInt32) (index : UInt32) (sent : Nat)
    (rest : ServeProgram (Result Unit)) : ServeProgram (Result Unit) :=
  match grant.object.chunkOffset index with
  | .error status => return .error status
  | .ok offset =>
      match grant.object.chunkLength index with
      | .error status => return .error status
      | .ok length => do
          match ← perform (.read grant.object.version offset length) with
          | .error status => return .error status
          | .ok payload =>
              if payload.length ≠ length.toNat then
                return refuse .STORE_TRUNCATED "the stored object ended inside a chunk"
              else pushChunk window (servedChunk grant index offset length payload) sent rest

/-- Wait for the result of the destination. -/
def awaitResult : ServeProgram (Result Unit) := do
  match ← receive with
  | .error status => return .error status
  | .ok frame =>
      if frame.type ≠ .DATA_RESULT then
        return refuse .PROTOCOL_STATE_VIOLATION "expected a data result"
      else
        match decodeMessage DataResult.decode frame with
        | .error status => return .error status
        | .ok result =>
            if result.code ≠ .OK then return .error ⟨result.code, result.detail⟩
            else return .ok ()

/-- The end of what is sent. -/
def lastMessage (grant : TransferGrant) : DataEnd :=
  ⟨grant.movementId, grant.attempt, grant.object.chunkCount, grant.object.totalBytes,
    grant.object.contentDigest⟩

def serveEnd (grant : TransferGrant) : ServeProgram (Result Unit) := do
  match ← send (lastMessage grant).frame with
  | .error status => return .error status
  | .ok () => awaitResult

/-- The send loop: how many chunks are left, the index of the next one, and how many were
sent. -/
def sendLoop (grant : TransferGrant) (window : UInt32) :
    Nat -> UInt32 -> Nat -> ServeProgram (Result Unit)
  | 0, _, _ => serveEnd grant
  | left + 1, index, sent => do
      if ← halted grant.movementId then abortServing grant
      else
        serveChunk grant window index (sent + 1)
          (sendLoop grant window left (index + 1) (sent + 1))

/-- Where the source starts: only a declared prefix that ends at a chunk is skipped. -/
def startOf (grant : TransferGrant) (begin : DataBegin) : UInt32 × UInt64 :=
  if begin.resumeFromChunk > 0 ∧ begin.resumeFromChunk ≤ grant.object.chunkCount then
    match grant.object.chunkOffset begin.resumeFromChunk with
    | .error _ => (0, 0)
    | .ok offset =>
        if offset = begin.resumeFromOffset then (begin.resumeFromChunk, begin.resumeFromOffset)
        else (0, 0)
  else (0, 0)

/-- A session that was admitted. -/
def serveGrant (window : UInt32) (grant : TransferGrant) (begin : DataBegin) :
    ServeProgram (Result Unit) := do
  let start := startOf grant begin
  match ← send (DataBeginAck.mk begin.nonce .OK start.1 start.2 []).frame with
  | .error status => return .error status
  | .ok () =>
      match ← perform (.openObject grant.object.version) with
      | .error status => return .error status
      | .ok () =>
          perform (.cancellationFlag grant.movementId)
          sendLoop grant window (grant.object.chunkCount.toNat - start.1.toNat) start.1 0

/-- The `refuse` of `serve_data_connection`. -/
def refuseBegin (begin : DataBegin) (status : Status) : ServeProgram (Result Unit) := do
  let _ ← send (DataBeginAck.mk begin.nonce status.code 0 0 status.message).frame
  return .error status

/-- The checks of the grant against the endpoint, the request and the peer. -/
def checkBinding (self peer : EndpointId) (begin : DataBegin) (grant : TransferGrant) :
    Result Unit := do
  refuseWhen (grant.source != self) .AUTHORITY_MISMATCH
    "the grant does not name this endpoint as source"
  refuseWhen (grant.destination != begin.destination ||
      grant.destinationIncarnation != begin.destinationIncarnation) .STALE_INCARNATION
    "the grant binds a different destination"
  refuseWhen (peer != grant.destination) .PROTOCOL_AUTH_FAILED
    "the authenticated peer is not the destination named by the grant"
  refuseWhen (grant.object.objectId != begin.object.objectId ||
      grant.object.generation != begin.object.generation ||
      grant.object.contentDigest != begin.object.contentDigest) .AUTHORITY_MISMATCH
    "the grant binds a different object version"

/-- The checks that come after a grant was consumed. -/
def checkGrant (config : EndpointConfig) (peer : EndpointId) (begin : DataBegin)
    (grant : TransferGrant) : ServeProgram (Result Unit) :=
  match grant.verifySignature config.sharedSecret with
  | .error status => return .error status
  | .ok () =>
      match checkBinding config.endpointId peer begin grant with
      | .error status => refuseBegin begin status
      | .ok () => do
          let current ← policyGeneration
          if grant.policyGeneration ≠ current then
            refuseBegin begin ⟨.STALE_POLICY_GENERATION,
              ascii "the grant was issued under a different policy generation"⟩
          else
            if ← objectPresent grant.object.version then
              serveGrant config.policy.maxInflightChunks grant begin
            else
              refuseBegin begin ⟨.OBJECT_VERSION_NOT_FOUND,
                ascii "this endpoint does not hold the requested object version"⟩

/-- An authenticated session, from `DATA_BEGIN` on. -/
def serveBegin (config : EndpointConfig) (peer : EndpointId) : ServeProgram (Result Unit) := do
  match ← receive with
  | .error status => return .error status
  | .ok frame =>
      if frame.type ≠ .DATA_BEGIN then
        return refuse .PROTOCOL_STATE_VIOLATION "expected a data begin"
      else
        match decodeMessage DataBegin.decode frame with
        | .error status => return .error status
        | .ok begin =>
            match ← perform (.consumeGrant (.fromDigest begin.nonce)) with
            | some (grant, true) => checkGrant config peer begin grant
            | _ =>
                refuseBegin begin ⟨.AUTHORITY_MISMATCH, ascii ("no live transfer grant matches " ++
                  "that nonce; grants are single use and never survive a coordinator restart")⟩

end Serve

/-- `serve_data_connection`. -/
def serveDataConnection (config : EndpointConfig) (self : Handshake.PeerIdentity) :
    ServeProgram (Result Unit) := do
  match ← Serve.receive with
  | .error status => return .error status
  | .ok frame =>
      if frame.type ≠ .HELLO then
        return refuse .PROTOCOL_HANDSHAKE_REQUIRED "data sessions begin with a hello"
      else
        match decodeMessage HelloRequest.decode frame with
        | .error status => return .error status
        | .ok hello =>
            let sessionId ← Serve.perform .newSessionId
            let nonce ← Serve.perform .newNonce
            match acceptHelloRequest config.sharedSecret hello self sessionId nonce with
            | .error status => return .error status
            | .ok response =>
                match ← Serve.send response.frame with
                | .error status => return .error status
                | .ok () => Serve.serveBegin config hello.identity.endpoint

/-! ## The destination -/

/-- What a destination does in its receive loop and after it. -/
inductive ReceiveOp where
  | halted (id : MovementId)
  | receive
  | send (frame : Frame)
  | resumeFromChunk
  | append (index : UInt32) (offset : UInt64) (payload : Bytes) (digest : Digest)
  | abort
  | finish
  | discard (id : MovementId)
  | promote
  | report (frame : Frame)

def ReceiveOp.Reply : ReceiveOp -> Type
  | halted _ => Bool
  | receive => Result Frame
  | send _ => Result Unit
  | resumeFromChunk => UInt32
  | append _ _ _ _ => Result Unit
  | abort => Unit
  | finish => Result Digest
  | discard _ => Result Unit
  | promote => Result Unit
  | report _ => Result Unit

abbrev receiveSignature : Signature := ⟨ReceiveOp, ReceiveOp.Reply, fun _ _ => True⟩

abbrev ReceiveProgram := Program receiveSignature

/-- What one turn of a loop leads to. -/
inductive Turn (σ α : Type) where
  | again (state : σ)
  | leave (value : α)

namespace Receive

abbrev perform (op : ReceiveOp) : ReceiveProgram op.Reply := @Program.call receiveSignature op

abbrev halted (id : MovementId) : ReceiveProgram Bool := perform (.halted id)

abbrev receive : ReceiveProgram (Result Frame) := perform .receive

abbrev send (frame : Frame) : ReceiveProgram (Result Unit) := perform (.send frame)

abbrev resumeFromChunk : ReceiveProgram UInt32 := perform .resumeFromChunk

/-- The variables of the receive loop that it looks at itself. -/
structure Counters where
  duplicates : UInt32 := 0
  sinceAck : Nat := 0
  deriving DecidableEq

abbrev TurnProgram := ReceiveProgram (Turn Counters (Result Unit))

/-- Give up, and keep the verified prefix for a later attempt. -/
def giveUp (status : Status) : TurnProgram := do
  perform .abort
  return .leave (.error status)

/-- The report to the coordinator: the bytes have arrived, which is no authority yet. -/
def reportArrival (grant : TransferGrant) (attempt : TransferAttemptId) (digest : Digest) :
    TurnProgram := do
  return .leave (← perform (.report (EndpointAgent.attemptResult grant attempt .BYTES_ARRIVED .OK
    (ascii "bytes arrived and verified locally") digest grant.object.totalBytes
    grant.object.chunkCount)))

/-- The answer to the source. -/
def resultMessage (grant : TransferGrant) (attempt : TransferAttemptId) (digest : Digest) :
    DataResult :=
  ⟨grant.movementId, attempt, .OK, digest, grant.object.totalBytes, grant.object.chunkCount,
    .zero, ascii "stored and verified locally"⟩

def answerSource (grant : TransferGrant) (attempt : TransferAttemptId) (digest : Digest) :
    TurnProgram := do
  let _ ← send (resultMessage grant attempt digest).frame
  reportArrival grant attempt digest

def promoteStaged (grant : TransferGrant) (attempt : TransferAttemptId) (digest : Digest) :
    TurnProgram := do
  match ← perform .promote with
  | .error status => return .leave (.error status)
  | .ok () => answerSource grant attempt digest

/-- The end of `run_transfer`, once the source has sent everything: the bytes are promoted
only if they hash to the authorized digest. -/
def settle (grant : TransferGrant) (attempt : TransferAttemptId) : TurnProgram := do
  match ← perform .finish with
  | .error status => return .leave (.error status)
  | .ok digest =>
      if digest ≠ grant.object.contentDigest then
        let _ ← perform (.discard grant.movementId)
        return .leave (refuse .CONTENT_DIGEST_MISMATCH
          "the received bytes do not hash to the authorized content digest")
      else promoteStaged grant attempt digest

/-- The checks of `DATA_END`. -/
def checkEnd (grant : TransferGrant) (attempt : TransferAttemptId) (frame : Frame) :
    Result Unit := do
  let last ← decodeMessage DataEnd.decode frame
  refuseWhen (last.movementId != grant.movementId || last.attempt != attempt) .AUTHORITY_MISMATCH
    "the transfer end names a different movement or attempt"
  refuseWhen (last.contentDigest != grant.object.contentDigest) .CONTENT_DIGEST_MISMATCH
    "the source declared a content digest the grant does not authorize"

/-- The checks of `DATA_CHUNK`. -/
def checkChunk (grant : TransferGrant) (attempt : TransferAttemptId) (frame : Frame) :
    Result DataChunk := do
  let chunk ← decodeMessage DataChunk.decode frame
  refuseWhen (chunk.movementId != grant.movementId || chunk.attempt != attempt)
    .AUTHORITY_MISMATCH "a chunk arrived for a different attempt"
  return chunk

/-- The status of a transfer that the source aborted. -/
def abortStatus (frame : Frame) : Status :=
  match decodeMessage DataAbort.decode frame with
  | .ok message => ⟨message.code, message.detail⟩
  | .error _ => ⟨.SOURCE_REJECTED, ascii "the source aborted the transfer"⟩

/-- The acknowledgement of everything before `next`. -/
def sendAck (grant : TransferGrant) (attempt : TransferAttemptId) (counters : Counters)
    (next : UInt32) : TurnProgram := do
  match ← send (DataChunkAck.mk grant.movementId attempt (next - 1) counters.duplicates).frame with
  | .error status => return .leave (.error status)
  | .ok () => return .again { counters with sinceAck := 0 }

/-- Acknowledge when a window is full. -/
def acknowledge (grant : TransferGrant) (attempt : TransferAttemptId) (window : UInt32)
    (counters : Counters) : TurnProgram :=
  if counters.sinceAck ≥ window.toNat then do
    let next ← resumeFromChunk
    sendAck grant attempt counters next
  else return .again counters

/-- Append a chunk; one below the next expected chunk is a duplicate. -/
def appendChunk (grant : TransferGrant) (attempt : TransferAttemptId) (window : UInt32)
    (counters : Counters) (chunk : DataChunk) (next : UInt32) : TurnProgram := do
  match ← perform (.append chunk.chunkIndex chunk.chunkOffset chunk.payload chunk.chunkDigest) with
  | .error status => giveUp status
  | .ok () =>
      acknowledge grant attempt window
        ⟨if chunk.chunkIndex < next then counters.duplicates + 1 else counters.duplicates,
          counters.sinceAck + 1⟩

/-- A chunk that passed the checks. -/
def takeChunk (grant : TransferGrant) (attempt : TransferAttemptId) (window : UInt32)
    (counters : Counters) (chunk : DataChunk) : TurnProgram := do
  let next ← resumeFromChunk
  appendChunk grant attempt window counters chunk next

/-- A frame from the source. -/
def takeFrame (grant : TransferGrant) (attempt : TransferAttemptId) (window : UInt32)
    (counters : Counters) (frame : Frame) : TurnProgram :=
  if frame.type = .DATA_ABORT then giveUp (abortStatus frame)
  else if frame.type = .DATA_END then
    match checkEnd grant attempt frame with
    | .error status => giveUp status
    | .ok () => settle grant attempt
  else if frame.type ≠ .DATA_CHUNK then
    giveUp ⟨.PROTOCOL_STATE_VIOLATION, ascii "expected a data chunk"⟩
  else
    match checkChunk grant attempt frame with
    | .error status => giveUp status
    | .ok chunk => takeChunk grant attempt window counters chunk

/-- Wait for the next frame. -/
def receiveFrame (grant : TransferGrant) (attempt : TransferAttemptId) (window : UInt32)
    (counters : Counters) : TurnProgram := do
  match ← receive with
  | .error status => giveUp status
  | .ok frame => takeFrame grant attempt window counters frame

/-- One turn of the receive loop. -/
def receiveTurn (grant : TransferGrant) (attempt : TransferAttemptId) (window : UInt32)
    (counters : Counters) : TurnProgram := do
  if ← halted grant.movementId then
    giveUp ⟨.CANCELLED_BY_OPERATOR, ascii "the movement was cancelled"⟩
  else receiveFrame grant attempt window counters

end Receive

end StateMovementFabric
