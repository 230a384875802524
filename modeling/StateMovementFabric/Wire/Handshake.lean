import StateMovementFabric.Core.Unambiguous
import StateMovementFabric.Wire.Messages
import StateMovementFabric.Wire.Framing

namespace StateMovementFabric

open Foundation Wire CanonicalEncoder

/-!
# Uses of the shared secret

The coordinator, the endpoints and the operators share one secret, under which four kinds
of tags are made: the two tags of the handshake, the key of a session and the signature of
a grant.  Each begins with a domain string of its own.  The handshake is modelled as its
two sides compute it; then the four preimages are shown to be readable without ambiguity.
-/

namespace Handshake

/-- `kPeerContract`. -/
def kPeerContract : Text := ascii "smf.peer.v1"

def kMaxContractBytes : Nat := 64

inductive SessionRole where
  | ENDPOINT | ADMIN
  deriving DecidableEq, Repr

def SessionRole.toUInt8 : SessionRole -> UInt8
  | ENDPOINT => 1
  | ADMIN => 2

def SessionRole.read : Decode SessionRole := do
  let raw ← CanonicalDecoder.u8
  if raw = 1 then return ENDPOINT
  else if raw = 2 then return ADMIN
  else CanonicalDecoder.fail .PROTOCOL_CANONICAL_VIOLATION "session role is not recognized"

/-- `PeerIdentity`, with all that the handshake covers. -/
structure PeerIdentity where
  endpoint : EndpointId
  boot : BootId
  epoch : IncarnationEpoch
  role : SessionRole := .ENDPOINT
  contract : Text
  capabilityDigest : Digest
  deriving DecidableEq

namespace PeerIdentity

def validate (identity : PeerIdentity) : Result Unit := do
  refuseWhen identity.endpoint.isEmpty .INVALID_ID "session identity requires an endpoint name"
  refuseWhen identity.boot.isZero .INVALID_ID "session identity requires a boot id"
  refuseWhen (!identity.epoch.isSet) .INVALID_GENERATION
    "session identity requires a non-zero epoch"
  refuseWhen (identity.contract.isEmpty || identity.contract.length > kMaxContractBytes)
    .ENDPOINT_CONTRACT_MISMATCH "session identity requires a bounded contract string"
  if identity.contract ≠ kPeerContract then
    .error ⟨.ENDPOINT_CONTRACT_MISMATCH,
      ascii "peer contract '" ++ identity.contract ++
        ascii "' is not the contract this build speaks"⟩
  refuseWhen identity.capabilityDigest.isZero .INVALID_DIGEST
    "session identity requires a capability digest"

def encode (identity : PeerIdentity) : Bytes :=
  [text identity.endpoint.value, identity.boot.encode, u64 identity.epoch.value,
    u8 identity.role.toUInt8, text identity.contract, digest identity.capabilityDigest].flatten

def decode : Decode PeerIdentity := do
  let endpoint ← CanonicalDecoder.text kMaxEndpointIdBytes
  return ⟨← CanonicalDecoder.check (EndpointId.parse endpoint), ← FixedId.decode,
    ← readGeneration, ← SessionRole.read, ← CanonicalDecoder.text kMaxContractBytes,
    ← CanonicalDecoder.digest⟩

end PeerIdentity

structure HelloRequest where
  clientNonce : Nonce
  identity : PeerIdentity
  clientMac : Digest
  deriving DecidableEq

namespace HelloRequest

def validate (request : HelloRequest) : Result Unit := do
  refuseWhen request.clientNonce.isZero .PROTOCOL_MALFORMED "handshake nonce must not be zero"
  refuseWhen request.clientMac.isZero .PROTOCOL_MALFORMED "handshake MAC must not be zero"
  request.identity.validate

def encode (request : HelloRequest) : Bytes :=
  [request.clientNonce.encode, request.identity.encode, digest request.clientMac].flatten

def decode : Decode HelloRequest := do
  let request : HelloRequest :=
    ⟨← FixedId.decode, ← PeerIdentity.decode, ← CanonicalDecoder.digest⟩
  CanonicalDecoder.check request.validate
  return request

def frame (request : HelloRequest) : Frame := ⟨.HELLO, request.encode⟩

end HelloRequest

structure HelloResponse where
  serverNonce : Nonce
  sessionId : SessionId
  identity : PeerIdentity
  serverMac : Digest
  deriving DecidableEq

namespace HelloResponse

def validate (response : HelloResponse) : Result Unit := do
  refuseWhen response.serverNonce.isZero .PROTOCOL_MALFORMED "handshake nonce must not be zero"
  refuseWhen response.sessionId.isZero .PROTOCOL_MALFORMED "session id must not be zero"
  refuseWhen response.serverMac.isZero .PROTOCOL_MALFORMED "handshake MAC must not be zero"
  response.identity.validate

def encode (response : HelloResponse) : Bytes :=
  [response.serverNonce.encode, response.sessionId.encode, response.identity.encode,
    digest response.serverMac].flatten

def frame (response : HelloResponse) : Frame := ⟨.HELLO_ACK, response.encode⟩

end HelloResponse

/-- `compute_client_mac`. -/
def computeClientMac (secret : Bytes) (clientNonce : Nonce) (identity : PeerIdentity) : Digest :=
  canonicalMac secret [domain "SMF-HELLO-CLIENT-v1", clientNonce.encode, identity.encode].flatten

/-- `compute_server_mac`. -/
def computeServerMac (secret : Bytes) (request : HelloRequest) (serverNonce : Nonce)
    (sessionId : SessionId) (identity : PeerIdentity) : Digest :=
  canonicalMac secret [domain "SMF-HELLO-SERVER-v1", request.clientNonce.encode,
    digest request.clientMac, serverNonce.encode, sessionId.encode, identity.encode].flatten

/-- `make_hello_request`, with the nonce that was issued. -/
def makeHelloRequest (secret : Bytes) (identity : PeerIdentity) (nonce : Nonce) :
    Result HelloRequest := do
  let request : HelloRequest := ⟨nonce, identity, computeClientMac secret nonce identity⟩
  request.validate
  return request

/-- `accept_hello_request`, with the nonce that was issued. -/
def acceptHelloRequest (secret : Bytes) (request : HelloRequest) (identity : PeerIdentity)
    (sessionId : SessionId) (nonce : Nonce) : Result HelloResponse := do
  request.validate
  refuseWhen (computeClientMac secret request.clientNonce request.identity != request.clientMac)
    .PROTOCOL_AUTH_FAILED "the peer did not prove possession of the shared key"
  let response : HelloResponse :=
    ⟨nonce, sessionId, identity, computeServerMac secret request nonce sessionId identity⟩
  response.validate
  return response

/-- `verify_hello_response`: the key of the session. -/
def verifyHelloResponse (secret : Bytes) (request : HelloRequest) (response : HelloResponse) :
    Result Digest := do
  response.validate
  refuseWhen (computeServerMac secret request response.serverNonce response.sessionId
      response.identity != response.serverMac) .PROTOCOL_AUTH_FAILED
    "the responder did not prove possession of the shared key"
  return deriveSessionKey secret request.clientNonce response.serverNonce

/-! ## Preimages -/

/-- A use of the shared secret: one of the four functions, with its arguments. -/
inductive SecretUse where
  | clientMac (clientNonce : Nonce) (identity : PeerIdentity)
  | serverMac (request : HelloRequest) (serverNonce : Nonce) (sessionId : SessionId)
      (identity : PeerIdentity)
  | sessionKey (clientNonce serverNonce : Nonce)
  | grantSignature (grant : TransferGrant)
  deriving DecidableEq

namespace SecretUse

/-- The tag, as the function computes it. -/
def tag (secret : Bytes) : SecretUse -> Digest
  | clientMac clientNonce identity => computeClientMac secret clientNonce identity
  | serverMac request serverNonce sessionId identity =>
      computeServerMac secret request serverNonce sessionId identity
  | sessionKey clientNonce serverNonce => deriveSessionKey secret clientNonce serverNonce
  | grantSignature grant => grant.computeSignature secret

/-- The domain string of each use. -/
def purpose : SecretUse -> String
  | clientMac _ _ => "SMF-HELLO-CLIENT-v1"
  | serverMac _ _ _ _ => "SMF-HELLO-SERVER-v1"
  | sessionKey _ _ => "SMF-SESSION-v1"
  | grantSignature _ => "SMF-TRANSFER-GRANT-v1"

/-- The fields behind the domain string. -/
def fields : SecretUse -> Bytes
  | clientMac clientNonce identity => [clientNonce.encode, identity.encode].flatten
  | serverMac request serverNonce sessionId identity =>
      [request.clientNonce.encode, digest request.clientMac, serverNonce.encode,
        sessionId.encode, identity.encode].flatten
  | sessionKey clientNonce serverNonce => [clientNonce.encode, serverNonce.encode].flatten
  | grantSignature grant => grant.encodeUnsigned

/-- The string that is tagged. -/
def preimage (use : SecretUse) : Bytes := domain use.purpose ++ use.fields

/-- The texts among the fields are ones that a `std::string` can hold. -/
def Holdable : SecretUse -> Prop
  | clientMac _ identity => Text.Holdable identity.contract
  | serverMac _ _ _ identity => Text.Holdable identity.contract
  | sessionKey _ _ => True
  | grantSignature grant => grant.object.Holdable

/-- The same function was called, and every field that went into the tag is the same. -/
def SameInputs : SecretUse -> SecretUse -> Prop
  | clientMac clientNonce identity, clientMac otherNonce otherIdentity =>
      clientNonce = otherNonce ∧ identity = otherIdentity
  | serverMac request serverNonce sessionId identity,
    serverMac otherRequest otherNonce otherSession otherIdentity =>
      request.clientNonce = otherRequest.clientNonce ∧
        request.clientMac = otherRequest.clientMac ∧ serverNonce = otherNonce ∧
        sessionId = otherSession ∧ identity = otherIdentity
  | sessionKey clientNonce serverNonce, sessionKey otherClient otherServer =>
      clientNonce = otherClient ∧ serverNonce = otherServer
  | grantSignature grant, grantSignature other =>
      { grant with signature := .zero } = { other with signature := .zero }
  | _, _ => False

theorem tag_eq (secret : Bytes) (use : SecretUse) :
    use.tag secret = canonicalMac secret use.preimage := by
  cases use with
  | clientMac => rfl
  | serverMac => rfl
  | sessionKey => rfl
  | grantSignature grant =>
      rw [tag, TransferGrant.computeSignature, List.flatten_cons, List.flatten_singleton]
      rfl

end SecretUse

/-! ## Reading a preimage -/

theorem SessionRole.toUInt8_inj {first second : SessionRole} :
    first.toUInt8 = second.toUInt8 ↔ first = second := by
  cases first <;> cases second <;> decide

theorem effectClass_toUInt8_inj {first second : EffectClass} :
    first.toUInt8 = second.toUInt8 ↔ first = second := by
  cases first <;> cases second <;> decide

theorem PeerIdentity.selfDelimiting :
    SelfDelimiting (fun identity => Text.Holdable identity.contract) PeerIdentity.encode := by
  intro first second firstHeld secondHeld rest other same
  simp only [encode, List.flatten_cons, List.flatten_nil, List.append_nil, List.append_assoc] at same
  rcases EndpointId.selfDelimiting _ _ trivial trivial _ _ same with ⟨endpoint, same⟩
  rcases FixedId.selfDelimiting (by decide) _ _ trivial trivial _ _ same with ⟨boot, same⟩
  rcases Generation.selfDelimiting _ _ trivial trivial _ _ same with ⟨epoch, same⟩
  rcases selfDelimiting_u8 _ _ trivial trivial _ _ same with ⟨role, same⟩
  rcases selfDelimiting_text _ _ firstHeld secondHeld _ _ same with ⟨contract, same⟩
  rcases selfDelimiting_digest _ _ trivial trivial _ _ same with ⟨capability, rests⟩
  refine ⟨?_, rests⟩
  rw [SessionRole.toUInt8_inj] at role
  cases first
  cases second
  simp only [PeerIdentity.mk.injEq]
  exact ⟨endpoint, boot, epoch, role, contract, capability⟩

/-- An unsigned grant is read back field by field; only the signature is not in it. -/
theorem unsigned_eq_of_encodeUnsigned {first second : TransferGrant}
    (firstHeld : first.object.Holdable) (secondHeld : second.object.Holdable)
    (same : first.encodeUnsigned = second.encodeUnsigned) :
    { first with signature := .zero } = { second with signature := .zero } := by
  simp only [TransferGrant.encodeUnsigned, List.flatten_cons, List.flatten_nil] at same
  rcases FixedId.selfDelimiting (by decide) _ _ trivial trivial _ _ same with ⟨movementId, same⟩
  rcases Generation.selfDelimiting _ _ trivial trivial _ _ same with ⟨movementGeneration, same⟩
  rcases FixedId.selfDelimiting (by decide) _ _ trivial trivial _ _ same with ⟨attempt, same⟩
  rcases StateObjectDescriptor.selfDelimiting _ _ firstHeld secondHeld _ _ same with ⟨object, same⟩
  rcases EndpointId.selfDelimiting _ _ trivial trivial _ _ same with ⟨source, same⟩
  rcases Incarnation.selfDelimiting _ _ trivial trivial _ _ same with ⟨sourceIncarnation, same⟩
  rcases EndpointId.selfDelimiting _ _ trivial trivial _ _ same with ⟨destination, same⟩
  rcases Incarnation.selfDelimiting _ _ trivial trivial _ _ same with ⟨destinationIncarnation, same⟩
  rcases Generation.selfDelimiting _ _ trivial trivial _ _ same with ⟨policyGeneration, same⟩
  rcases FixedId.selfDelimiting (by decide) _ _ trivial trivial _ _ same with ⟨grantNonce, same⟩
  rcases selfDelimiting_u64 _ _ trivial trivial _ _ same with ⟨maxBytes, same⟩
  rcases selfDelimiting_u32 _ _ trivial trivial _ _ same with ⟨maxChunks, same⟩
  rcases selfDelimiting_i64 _ _ trivial trivial _ _ same with ⟨issued, same⟩
  rcases selfDelimiting_u8 _ _ trivial trivial _ _ same with ⟨effectClass, _⟩
  rw [effectClass_toUInt8_inj] at effectClass
  simp only [TransferGrant.mk.injEq]
  exact ⟨movementId, movementGeneration, attempt, object, source, sourceIncarnation, destination,
    destinationIncarnation, policyGeneration, grantNonce, maxBytes, maxChunks, issued, effectClass,
    trivial⟩

namespace SecretUse

theorem holdable_purpose (use : SecretUse) : Text.Holdable (ascii use.purpose) := by
  cases use with
  | clientMac => exact (by decide +kernel : Text.Holdable (ascii "SMF-HELLO-CLIENT-v1"))
  | serverMac => exact (by decide +kernel : Text.Holdable (ascii "SMF-HELLO-SERVER-v1"))
  | sessionKey => exact (by decide +kernel : Text.Holdable (ascii "SMF-SESSION-v1"))
  | grantSignature => exact (by decide +kernel : Text.Holdable (ascii "SMF-TRANSFER-GRANT-v1"))

/-- No two of the domain strings are equal. -/
theorem purposes_distinct :
    ["SMF-HELLO-CLIENT-v1", "SMF-HELLO-SERVER-v1", "SMF-SESSION-v1",
      "SMF-TRANSFER-GRANT-v1"].Pairwise (fun first second => ascii first ≠ ascii second) := by
  decide +kernel

/-- Uses with the same domain string and the same fields have the same inputs: the domain
string settles the function, and then the fields are read one after the other. -/
theorem sameInputs_of_fields {first second : SecretUse} (firstHeld : first.Holdable)
    (secondHeld : second.Holdable) (purpose : ascii first.purpose = ascii second.purpose)
    (fields : first.fields = second.fields) : SameInputs first second := by
  have distinct := purposes_distinct
  simp only [List.pairwise_cons, List.mem_cons, List.not_mem_nil, or_false, forall_eq_or_imp,
    forall_eq, List.Pairwise.nil, and_true, false_implies, implies_true] at distinct
  rcases distinct with ⟨⟨clientServer, clientKey, clientGrant⟩, ⟨serverKey, serverGrant⟩, keyGrant⟩
  cases first with
  | clientMac =>
      cases second with
      | clientMac =>
          simp only [SecretUse.fields, List.flatten_cons, List.flatten_nil] at fields
          rcases FixedId.selfDelimiting (by decide) _ _ trivial trivial _ _ fields with
            ⟨clientNonce, rest⟩
          rcases PeerIdentity.selfDelimiting _ _ firstHeld secondHeld _ _ rest with ⟨identity, _⟩
          exact ⟨clientNonce, identity⟩
      | serverMac => exact absurd purpose clientServer
      | sessionKey => exact absurd purpose clientKey
      | grantSignature => exact absurd purpose clientGrant
  | serverMac =>
      cases second with
      | clientMac => exact absurd purpose.symm clientServer
      | serverMac =>
          simp only [SecretUse.fields, List.flatten_cons, List.flatten_nil] at fields
          rcases FixedId.selfDelimiting (by decide) _ _ trivial trivial _ _ fields with
            ⟨clientNonce, rest⟩
          rcases selfDelimiting_digest _ _ trivial trivial _ _ rest with ⟨clientMac, rest⟩
          rcases FixedId.selfDelimiting (by decide) _ _ trivial trivial _ _ rest with
            ⟨serverNonce, rest⟩
          rcases FixedId.selfDelimiting (by decide) _ _ trivial trivial _ _ rest with
            ⟨sessionId, rest⟩
          rcases PeerIdentity.selfDelimiting _ _ firstHeld secondHeld _ _ rest with ⟨identity, _⟩
          exact ⟨clientNonce, clientMac, serverNonce, sessionId, identity⟩
      | sessionKey => exact absurd purpose serverKey
      | grantSignature => exact absurd purpose serverGrant
  | sessionKey =>
      cases second with
      | clientMac => exact absurd purpose.symm clientKey
      | serverMac => exact absurd purpose.symm serverKey
      | sessionKey =>
          simp only [SecretUse.fields, List.flatten_cons, List.flatten_nil] at fields
          rcases FixedId.selfDelimiting (by decide) _ _ trivial trivial _ _ fields with
            ⟨clientNonce, rest⟩
          rcases FixedId.selfDelimiting (by decide) _ _ trivial trivial _ _ rest with
            ⟨serverNonce, _⟩
          exact ⟨clientNonce, serverNonce⟩
      | grantSignature => exact absurd purpose keyGrant
  | grantSignature =>
      cases second with
      | clientMac => exact absurd purpose.symm clientGrant
      | serverMac => exact absurd purpose.symm serverGrant
      | sessionKey => exact absurd purpose.symm keyGrant
      | grantSignature => exact unsigned_eq_of_encodeUnsigned firstHeld secondHeld fields

/-- A preimage shows which function made it and every field that went in. -/
theorem sameInputs_of_preimage {first second : SecretUse} (firstHeld : first.Holdable)
    (secondHeld : second.Holdable) (same : first.preimage = second.preimage) :
    SameInputs first second := by
  rcases selfDelimiting_text _ _ (holdable_purpose first) (holdable_purpose second) _ _ same with
    ⟨purpose, fields⟩
  exact sameInputs_of_fields firstHeld secondHeld purpose fields

/-- Every tag is the code of its preimage, and the preimage determines the function and its
inputs.  A tag that was made for one use is therefore the tag of another only where the two
preimages collide under the secret. -/
theorem sameInputs_of_tag (secret : Bytes) (first second : SecretUse)
    (firstHeld : first.Holdable) (secondHeld : second.Holdable) :
    first.tag secret = canonicalMac secret first.preimage ∧
      second.tag secret = canonicalMac secret second.preimage ∧
      (first.preimage = second.preimage -> SameInputs first second) ∧
      (first.tag secret = second.tag secret -> SameInputs first second ∨
        (first.preimage ≠ second.preimage ∧
          canonicalMac secret first.preimage = canonicalMac secret second.preimage)) := by
  refine ⟨tag_eq secret first, tag_eq secret second, sameInputs_of_preimage firstHeld secondHeld, ?_⟩
  intro tags
  rw [tag_eq, tag_eq] at tags
  by_cases preimages : first.preimage = second.preimage
  · exact .inl (sameInputs_of_preimage firstHeld secondHeld preimages)
  · exact .inr ⟨preimages, tags⟩

/-- The identity of an endpoint in its first incarnation. -/
def firstIdentity (endpoint : EndpointId) : PeerIdentity :=
  ⟨endpoint, .filled 1, ⟨1⟩, .ENDPOINT, kPeerContract, .zero⟩

/-- Two endpoints that present one nonce have different preimages. -/
theorem sameInputs_of_tag_endpoints :
    (clientMac (.filled 1) (firstIdentity endpointA)).preimage ≠
      (clientMac (.filled 1) (firstIdentity endpointB)).preimage := by
  have held : Text.Holdable kPeerContract := by decide +kernel
  intro same
  rcases (sameInputs_of_tag [] (clientMac (.filled 1) (firstIdentity endpointA))
    (clientMac (.filled 1) (firstIdentity endpointB)) held held).2.2.1 same with ⟨_, identity⟩
  exact absurd (congrArg PeerIdentity.endpoint identity) (by decide)

end SecretUse

end Handshake

end StateMovementFabric
