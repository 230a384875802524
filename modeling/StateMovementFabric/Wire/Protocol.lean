import StateMovementFabric.Wire.Codings

namespace StateMovementFabric

open Wire

/-!
# The protocol as a family of message types

Every type of message has its check, its encoding and its decoder.  The family makes
statements about all of them one statement, and `codes_kind` is the one case distinction
over the types.
-/

/-- A text that a reader with this bound accepts. -/
def Wire.fitsText (bound : Nat) (text : Text) : Bool := text.length ≤ bound && isValidUtf8 text

namespace Wire

theorem rest_of_requireEnd {rest : Bytes} {limits : DecodeLimits} {after : CanonicalDecoder}
    (ended : CanonicalDecoder.requireEnd.run ⟨rest, limits, false⟩ = .ok ((), after)) :
    rest = [] := by
  rcases run_bind_eq_ok.mp ended with ⟨decoder, between, got, ended⟩
  cases got
  cases rest with
  | nil => rfl
  | cons first others => cases ended

/-- The limits that `decode_message` works with leave the decision to the single fields. -/
theorem decodeMessage_eq_ok {α : Type} {decode : Decode α} {encode : α -> Bytes} {fit : α -> Prop}
    (codes : forall limits, Roomy limits -> Codes limits Any decode encode fit) {frame : Frame}
    {message : α} :
    decodeMessage decode frame = .ok message ↔ fit message ∧ frame.payload = encode message := by
  have roomy : Roomy ⟨if frame.payload.length > kMaxChunkBytes then frame.payload.length
      else kMaxChunkBytes, kMaxObjectNameBytes, frame.payload.length + 1⟩ := by
    constructor
    · exact Nat.le_refl _
    · change kMaxChunkBytes ≤ if _ then _ else _
      split <;> omega
  have started : forall limits : DecodeLimits, frame.payload.length < limits.maxInputBytes ->
      CanonicalDecoder.start frame.payload limits = ⟨frame.payload, limits, false⟩ := by
    intro limits small
    rw [CanonicalDecoder.start, decide_eq_false (by omega)]
  rw [decodeMessage, decodeAll, started _ (Nat.lt_succ_self _), map_eq_ok]
  constructor
  · rintro ⟨⟨found, after⟩, ran, rfl⟩
    rcases run_bind_eq_ok.mp ran with ⟨read, between, ranRead, ended⟩
    rcases (codes _ roomy).takes _ read between ranRead with ⟨_, fits, rest, same, rfl⟩
    rcases run_bind_eq_ok.mp ended with ⟨⟨⟩, last, emptied, returned⟩
    cases returned
    rw [rest_of_requireEnd emptied, List.append_nil] at same
    exact ⟨fits, same⟩
  · rintro ⟨fits, same⟩
    have read := (codes _ roomy).reads message trivial fits []
    rw [← same, List.append_nil] at read
    exact ⟨(message, _), run_bind_eq_ok.mpr ⟨message, _, read, rfl⟩, rfl⟩

end Wire

namespace MessageKind

/-- The structure of the messages of each type. -/
def Carrier : MessageKind -> Type
  | registerRequest => RegisterRequest
  | registerAck => RegisterAck
  | announceObject => AnnounceObject
  | announceAck => AnnounceAck
  | grantTransfer => GrantTransfer
  | grantAck => GrantAck
  | executeMovement => ExecuteMovement
  | attemptResult => AttemptResult
  | cancelRequest => CancelRequest
  | cancelAck => CancelAck
  | commitRequest => CommitRequest
  | commitResult => CommitResult
  | verifyRequest => VerifyRequest
  | verifyResponse => VerifyResponse
  | authorityQuery => AuthorityQuery
  | authorityReport => AuthorityReport
  | cleanupRequest => CleanupRequest
  | cleanupResult => CleanupResult
  | dataBegin => DataBegin
  | dataBeginAck => DataBeginAck
  | dataChunk => DataChunk
  | dataChunkAck => DataChunkAck
  | dataEnd => DataEnd
  | dataResult => DataResult
  | dataAbort => DataAbort
  | submitMovement => SubmitMovement
  | movementAccepted => MovementAccepted
  | queryMovement => QueryMovement
  | movementStatus => MovementStatus
  | listMovements => ListMovements
  | movementSummary => MovementSummary
  | movementList => MovementList
  | cancelMovement => CancelMovement
  | reconcileMovement => ReconcileMovement
  | provenanceRequest => ProvenanceRequest
  | provenanceReport => ProvenanceReport
  | topologyRequest => TopologyRequest
  | topologyReport => TopologyReport
  | policyRequest => PolicyRequest
  | policyReport => PolicyReport
  | shutdownRequest => ShutdownRequest
  | shutdownAck => ShutdownAck
  | errorMessage => ErrorMessage
  | peerIdentityHint => PeerIdentityHint

/-- `T::validate`. -/
def validate : (kind : MessageKind) -> kind.Carrier -> Result Unit
  | registerRequest => RegisterRequest.validate
  | registerAck => RegisterAck.validate
  | announceObject => AnnounceObject.validate
  | announceAck => CodedAnswer.validate
  | grantTransfer => fun message : GrantTransfer => message.grant.validate
  | grantAck => GrantAck.validate
  | executeMovement => ExecuteMovement.validate
  | attemptResult => AttemptResult.validate
  | cancelRequest => CancelRequest.validate
  | cancelAck => CancelAck.validate
  | commitRequest => CommitRequest.validate
  | commitResult => CommitResult.validate
  | verifyRequest => VerifyRequest.validate
  | verifyResponse => VerifyResponse.validate
  | authorityQuery => AuthorityQuery.validate
  | authorityReport => AuthorityReport.validate
  | cleanupRequest => CleanupRequest.validate
  | cleanupResult => CleanupResult.validate
  | dataBegin => DataBegin.validate
  | dataBeginAck => DataBeginAck.validate
  | dataChunk => DataChunk.validate
  | dataChunkAck => DataChunkAck.validate
  | dataEnd => DataEnd.validate
  | dataResult => DataResult.validate
  | dataAbort => DataAbort.validate
  | submitMovement => SubmitMovement.validate
  | movementAccepted => MovementAccepted.validate
  | queryMovement => QueryMovement.validate
  | movementStatus => MovementStatus.validate
  | listMovements => ListMovements.validate
  | movementSummary => MovementSummary.validate
  | movementList => MovementList.validate
  | cancelMovement => CancelMovement.validate
  | reconcileMovement => ReconcileMovement.validate
  | provenanceRequest => ProvenanceRequest.validate
  | provenanceReport => ProvenanceReport.validate
  | topologyRequest => BareRequest.validate
  | topologyReport => TopologyReport.validate
  | policyRequest => BareRequest.validate
  | policyReport => PolicyReport.validate
  | shutdownRequest => BareRequest.validate
  | shutdownAck => CodedAnswer.validate
  | errorMessage => ErrorMessage.validate
  | peerIdentityHint => PeerIdentityHint.validate

/-- `T::encode`. -/
def encode : (kind : MessageKind) -> kind.Carrier -> Bytes
  | registerRequest => RegisterRequest.encode
  | registerAck => RegisterAck.encode
  | announceObject => AnnounceObject.encode
  | announceAck => AnnounceAck.encode
  | grantTransfer => GrantTransfer.encode
  | grantAck => GrantAck.encode
  | executeMovement => ExecuteMovement.encode
  | attemptResult => AttemptResult.encode
  | cancelRequest => CancelRequest.encode
  | cancelAck => CancelAck.encode
  | commitRequest => CommitRequest.encode
  | commitResult => CommitResult.encode
  | verifyRequest => VerifyRequest.encode
  | verifyResponse => VerifyResponse.encode
  | authorityQuery => AuthorityQuery.encode
  | authorityReport => AuthorityReport.encode
  | cleanupRequest => CleanupRequest.encode
  | cleanupResult => CleanupResult.encode
  | dataBegin => DataBegin.encode
  | dataBeginAck => DataBeginAck.encode
  | dataChunk => DataChunk.encode
  | dataChunkAck => DataChunkAck.encode
  | dataEnd => DataEnd.encode
  | dataResult => DataResult.encode
  | dataAbort => DataAbort.encode
  | submitMovement => SubmitMovement.encode
  | movementAccepted => MovementAccepted.encode
  | queryMovement => QueryMovement.encode
  | movementStatus => MovementStatus.encode
  | listMovements => ListMovements.encode
  | movementSummary => MovementSummary.encode
  | movementList => MovementList.encode
  | cancelMovement => CancelMovement.encode
  | reconcileMovement => ReconcileMovement.encode
  | provenanceRequest => ProvenanceRequest.encode
  | provenanceReport => ProvenanceReport.encode
  | topologyRequest => TopologyRequest.encode
  | topologyReport => TopologyReport.encode
  | policyRequest => PolicyRequest.encode
  | policyReport => PolicyReport.encode
  | shutdownRequest => ShutdownRequest.encode
  | shutdownAck => ShutdownAck.encode
  | errorMessage => ErrorMessage.encode
  | peerIdentityHint => PeerIdentityHint.encode

/-- `T::decode`. -/
def decode : (kind : MessageKind) -> Decode kind.Carrier
  | registerRequest => RegisterRequest.decode
  | registerAck => RegisterAck.decode
  | announceObject => AnnounceObject.decode
  | announceAck => AnnounceAck.decode
  | grantTransfer => GrantTransfer.decode
  | grantAck => GrantAck.decode
  | executeMovement => ExecuteMovement.decode
  | attemptResult => AttemptResult.decode
  | cancelRequest => CancelRequest.decode
  | cancelAck => CancelAck.decode
  | commitRequest => CommitRequest.decode
  | commitResult => CommitResult.decode
  | verifyRequest => VerifyRequest.decode
  | verifyResponse => VerifyResponse.decode
  | authorityQuery => AuthorityQuery.decode
  | authorityReport => AuthorityReport.decode
  | cleanupRequest => CleanupRequest.decode
  | cleanupResult => CleanupResult.decode
  | dataBegin => DataBegin.decode
  | dataBeginAck => DataBeginAck.decode
  | dataChunk => DataChunk.decode
  | dataChunkAck => DataChunkAck.decode
  | dataEnd => DataEnd.decode
  | dataResult => DataResult.decode
  | dataAbort => DataAbort.decode
  | submitMovement => SubmitMovement.decode
  | movementAccepted => MovementAccepted.decode
  | queryMovement => QueryMovement.decode
  | movementStatus => MovementStatus.decode
  | listMovements => ListMovements.decode
  | movementSummary => MovementSummary.decode
  | movementList => MovementList.decode
  | cancelMovement => CancelMovement.decode
  | reconcileMovement => ReconcileMovement.decode
  | provenanceRequest => ProvenanceRequest.decode
  | provenanceReport => ProvenanceReport.decode
  | topologyRequest => TopologyRequest.decode
  | topologyReport => TopologyReport.decode
  | policyRequest => PolicyRequest.decode
  | policyReport => PolicyReport.decode
  | shutdownRequest => ShutdownRequest.decode
  | shutdownAck => ShutdownAck.decode
  | errorMessage => ErrorMessage.decode
  | peerIdentityHint => PeerIdentityHint.decode

/-- The fields of an enumeration that a decoder checks hold declared values.  The other
enumerations of the source are inductive types here, and have no other values. -/
def declared : (kind : MessageKind) -> kind.Carrier -> Bool
  | announceAck => fun message : CodedAnswer => message.code.isDeclared
  | shutdownAck => fun message : CodedAnswer => message.code.isDeclared
  | grantAck => fun message : GrantAck => message.code.isDeclared
  | attemptResult => fun message : AttemptResult => message.code.isDeclared
  | cancelAck => fun message : CancelAck => message.code.isDeclared
  | commitResult => fun message : CommitResult => message.code.isDeclared
  | verifyResponse => fun message : VerifyResponse => message.code.isDeclared
  | authorityReport => fun message : AuthorityReport => message.code.isDeclared
  | cleanupResult => fun message : CleanupResult => message.code.isDeclared
  | dataBeginAck => fun message : DataBeginAck => message.code.isDeclared
  | dataResult => fun message : DataResult => message.code.isDeclared
  | dataAbort => fun message : DataAbort => message.code.isDeclared
  | movementAccepted => fun message : MovementAccepted => message.code.isDeclared
  | provenanceReport => fun message : ProvenanceReport => message.code.isDeclared
  | errorMessage => fun message : ErrorMessage => message.code.isDeclared
  | movementSummary => fun message : MovementSummary => message.lastReason.isDeclared
  | movementList => fun message : MovementList =>
      message.movements.all fun summary => summary.lastReason.isDeclared
  | _ => fun _ => true

/-- What neither the check of a message nor its declared values ensure: that the bytes carry
all of its fields, and that its texts are within the bounds of the readers. -/
def carried : (kind : MessageKind) -> kind.Carrier -> Bool
  | dataBegin => fun message : DataBegin =>
      message.resumeFromChunk == 0 && message.resumeFromOffset == 0
  | registerRequest => fun message : RegisterRequest =>
      isValidUtf8 message.serviceAddress.host && isValidUtf8 message.dataAddress.host
  | topologyReport => fun message : TopologyReport => message.endpoints.all fun registration =>
      fitsText kMaxWireHostBytes registration.serviceAddress.host &&
        fitsText kMaxWireHostBytes registration.dataAddress.host &&
        fitsText kMaxWireContractBytes registration.contract
  | movementStatus => fun message : MovementStatus =>
      message.record.provenance.bound == kMaxProvenanceEvents &&
        isValidUtf8 message.record.lastDetail
  | _ => fun _ => true

/-! ## What a decoder accepts -/

section Conditions

variable {checked named : Prop}

private theorem plain : checked ↔ checked ∧ true = true ∧ true = true := by
  simp only [and_true]

private theorem coded : checked ∧ named ↔ checked ∧ named ∧ true = true := by
  simp only [and_true]

end Conditions

/-- The messages that are read back, and that nothing else is accepted, for every type. -/
theorem codes_kind {limits : DecodeLimits} (roomy : Roomy limits) (kind : MessageKind) :
    Codes limits Any kind.decode kind.encode (fun message => kind.validate message = .ok () ∧
      kind.declared message = true ∧ kind.carried message = true) := by
  cases kind with
  | registerRequest =>
      refine (RegisterRequest.codes roomy).fits_iff fun message _ => ?_
      change _ ↔ message.validate = .ok () ∧ true = true ∧ (_ && _) = true
      rw [Bool.and_eq_true, eq_self, true_and]
  | registerAck => exact (RegisterAck.codes roomy).fits_iff fun _ _ => plain
  | announceObject => exact (AnnounceObject.codes roomy).fits_iff fun _ _ => plain
  | announceAck => exact (CodedAnswer.codes roomy (isDomain .announceAck)).fits_iff fun _ _ => coded
  | grantTransfer => exact (GrantTransfer.codes roomy).fits_iff fun _ _ => plain
  | grantAck => exact (GrantAck.codes roomy).fits_iff fun _ _ => coded
  | executeMovement => exact (ExecuteMovement.codes roomy).fits_iff fun _ _ => plain
  | attemptResult => exact (AttemptResult.codes roomy).fits_iff fun _ _ => coded
  | cancelRequest => exact (CancelRequest.codes roomy).fits_iff fun _ _ => plain
  | cancelAck => exact (CancelAck.codes roomy).fits_iff fun _ _ => coded
  | commitRequest => exact (CommitRequest.codes roomy).fits_iff fun _ _ => plain
  | commitResult => exact (CommitResult.codes roomy).fits_iff fun _ _ => coded
  | verifyRequest => exact (VerifyRequest.codes roomy).fits_iff fun _ _ => plain
  | verifyResponse => exact (VerifyResponse.codes roomy).fits_iff fun _ _ => coded
  | authorityQuery => exact (AuthorityQuery.codes roomy).fits_iff fun _ _ => plain
  | authorityReport => exact (AuthorityReport.codes roomy).fits_iff fun _ _ => coded
  | cleanupRequest => exact (CleanupRequest.codes roomy).fits_iff fun _ _ => plain
  | cleanupResult => exact (CleanupResult.codes roomy).fits_iff fun _ _ => coded
  | dataBegin =>
      refine (DataBegin.codes roomy).fits_iff fun message _ => ?_
      change _ ↔ message.validate = .ok () ∧ true = true ∧ (_ && _) = true
      rw [Bool.and_eq_true, eq_self, true_and, beq_iff_eq, beq_iff_eq, and_comm]
  | dataBeginAck => exact (DataBeginAck.codes roomy).fits_iff fun _ _ => coded
  | dataChunk => exact (DataChunk.codes roomy).fits_iff fun _ _ => plain
  | dataChunkAck => exact (DataChunkAck.codes roomy).fits_iff fun _ _ => plain
  | dataEnd => exact (DataEnd.codes roomy).fits_iff fun _ _ => plain
  | dataResult => exact (DataResult.codes roomy).fits_iff fun _ _ => coded
  | dataAbort => exact (DataAbort.codes roomy).fits_iff fun _ _ => coded
  | submitMovement => exact (SubmitMovement.codes roomy).fits_iff fun _ _ => plain
  | movementAccepted => exact (MovementAccepted.codes roomy).fits_iff fun _ _ => coded
  | queryMovement => exact (MovementReference.codes roomy (isDomain .queryMovement)).fits_iff fun _ _ => plain
  | movementStatus =>
      refine (MovementStatus.codes roomy).fits_iff fun message _ => ?_
      change _ ↔ message.validate = .ok () ∧ true = true ∧ (_ && _) = true
      rw [Bool.and_eq_true, eq_self, true_and, beq_iff_eq, and_left_comm]
  | listMovements => exact (ListMovements.codes roomy).fits_iff fun _ _ => plain
  | movementSummary => exact (MovementSummary.codes roomy).fits_iff fun _ _ => coded
  | movementList =>
      refine (MovementList.codes roomy).fits_iff fun message _ => ?_
      change _ ↔ message.validate = .ok () ∧ List.all _ _ = true ∧ true = true
      rw [List.all_eq_true, eq_self, and_true]
  | cancelMovement => exact (MovementReference.codes roomy (isDomain .cancelMovement)).fits_iff fun _ _ => plain
  | reconcileMovement => exact (MovementReference.codes roomy (isDomain .reconcileMovement)).fits_iff fun _ _ => plain
  | provenanceRequest => exact (MovementReference.codes roomy (isDomain .provenanceRequest)).fits_iff fun _ _ => plain
  | provenanceReport => exact (ProvenanceReport.codes roomy).fits_iff fun _ _ => coded
  | topologyRequest => exact (BareRequest.codes roomy (isDomain .topologyRequest)).fits_iff fun _ _ => plain
  | topologyReport =>
      refine (TopologyReport.codes roomy).fits_iff fun message _ => ?_
      change _ ↔ message.validate = .ok () ∧ true = true ∧ List.all _ _ = true
      simp only [List.all_eq_true, true_and, fitsText, Bool.and_eq_true, decide_eq_true_eq,
        EndpointRegistration.Sendable, and_assoc]
  | policyRequest => exact (BareRequest.codes roomy (isDomain .policyRequest)).fits_iff fun _ _ => plain
  | policyReport => exact (PolicyReport.codes roomy).fits_iff fun _ _ => plain
  | shutdownRequest => exact (BareRequest.codes roomy (isDomain .shutdownRequest)).fits_iff fun _ _ => plain
  | shutdownAck => exact (CodedAnswer.codes roomy (isDomain .shutdownAck)).fits_iff fun _ _ => coded
  | errorMessage => exact (ErrorMessage.codes roomy).fits_iff fun _ _ => coded
  | peerIdentityHint => exact (PeerIdentityHint.codes roomy).fits_iff fun _ _ => plain

theorem decode_eq_ok {kind : MessageKind} {frame : Frame} {message : kind.Carrier} :
    decodeMessage kind.decode frame = .ok message ↔
      (kind.validate message = .ok () ∧ kind.declared message = true ∧
        kind.carried message = true) ∧ frame.payload = kind.encode message :=
  decodeMessage_eq_ok fun _ roomy => codes_kind roomy kind

/-- Limits under which every message can be read. -/
theorem roomy_generous : Roomy ⟨kMaxChunkBytes, kMaxObjectNameBytes, 0⟩ :=
  ⟨Nat.le_refl _, Nat.le_refl _⟩

/-- Of two accepted encodings one of which starts the other, both are the same. -/
theorem eq_of_isPrefix {kind : MessageKind} {first second : Frame} {one other : kind.Carrier}
    (acceptedFirst : decodeMessage kind.decode first = .ok one)
    (acceptedSecond : decodeMessage kind.decode second = .ok other)
    (starts : first.payload <+: second.payload) : first.payload = second.payload := by
  rw [decode_eq_ok] at acceptedFirst acceptedSecond
  rcases starts with ⟨rest, longer⟩
  have readFirst := (codes_kind roomy_generous kind).reads one trivial acceptedFirst.1 rest
  have readSecond := (codes_kind roomy_generous kind).reads other trivial acceptedSecond.1 []
  rw [← acceptedFirst.2, longer] at readFirst
  rw [← acceptedSecond.2, List.append_nil, readFirst] at readSecond
  -- the decoder stops at the end of the first message, so nothing is left behind it
  cases readSecond
  rw [← longer, List.append_nil]

theorem encode_eq_domain (kind : MessageKind) (message : kind.Carrier) :
    exists body, kind.encode message = domain kind.domainName ++ body := by
  cases kind <;> exact ⟨_, rfl⟩

theorem domainName_injective {first second : MessageKind}
    (same : ascii first.domainName = ascii second.domainName) : first = second := by
  -- as numbers the strings are compared faster
  have distinct : (all.map fun kind => Foundation.loadLe (ascii kind.domainName)).Nodup := by
    decide +kernel
  exact List.inj_on_of_nodup_map distinct first.mem_all second.mem_all
    (congrArg Foundation.loadLe same)

/-- The domain string tells the types apart. -/
theorem eq_of_accepted {first second : MessageKind} {frame again : Frame}
    {one : first.Carrier} {other : second.Carrier}
    (acceptedFirst : decodeMessage first.decode frame = .ok one)
    (acceptedSecond : decodeMessage second.decode again = .ok other)
    (same : frame.payload = again.payload) : first = second := by
  rw [decode_eq_ok] at acceptedFirst acceptedSecond
  rcases encode_eq_domain first one with ⟨body, opened⟩
  rcases encode_eq_domain second other with ⟨rest, reopened⟩
  have short : kMaxWireDomainBytes ≤ kMaxObjectNameBytes := by decide
  have names := Codes.boundedText roomy_generous short
  have readFirst := names.reads (ascii first.domainName) trivial
    ⟨(isDomain first).short, (isDomain first).valid⟩ body
  have readSecond := names.reads (ascii second.domainName) trivial
    ⟨(isDomain second).short, (isDomain second).valid⟩ rest
  have shared : domain first.domainName ++ body = domain second.domainName ++ rest := by
    rw [← opened, ← reopened, ← acceptedFirst.2, ← acceptedSecond.2, same]
  unfold domain at shared
  rw [shared, readSecond] at readFirst
  have names := congrArg Prod.fst (Except.ok.inj readFirst)
  exact (domainName_injective names).symm

/-- What a decoder accepts is the encoding of the value that it returns; no beginning and no
continuation of it is accepted, and no other type accepts it. -/
theorem canonical_of_accepted (kind : MessageKind) (type : MessageType) (bytes : Bytes)
    (message : kind.Carrier) (accepted : decodeMessage kind.decode ⟨type, bytes⟩ = .ok message) :
    kind.encode message = bytes ∧
      (forall other : Bytes, other ≠ bytes -> other <+: bytes ∨ bytes <+: other ->
        forall found, decodeMessage kind.decode ⟨type, other⟩ ≠ .ok found) ∧
      forall foreign : MessageKind, foreign ≠ kind -> forall otherType found,
        decodeMessage foreign.decode ⟨otherType, bytes⟩ ≠ .ok found := by
  refine ⟨(decode_eq_ok.mp accepted).2.symm, ?_, ?_⟩
  · intro other differs related found acceptedOther
    rcases related with shorter | longer
    · exact differs (eq_of_isPrefix acceptedOther accepted shorter)
    · exact differs (eq_of_isPrefix accepted acceptedOther longer).symm
  · intro foreign differs otherType found acceptedForeign
    exact differs (eq_of_accepted acceptedForeign accepted rfl)

/-- A request for the topology is its domain string alone. -/
theorem canonical_of_accepted_request :
    TopologyRequest.encode ⟨⟩ = domain "SMF-MSG-TOPOLOGY-REQUEST-v1" ∧
      forall found, decodeMessage PolicyRequest.decode
        ⟨.POLICY_REQUEST, domain "SMF-MSG-TOPOLOGY-REQUEST-v1"⟩ ≠ .ok found := by
  have accepted : decodeMessage TopologyRequest.decode
      ⟨.TOPOLOGY_REQUEST, domain "SMF-MSG-TOPOLOGY-REQUEST-v1"⟩ = .ok ⟨⟩ := by
    decide +kernel
  have canonical := canonical_of_accepted topologyRequest .TOPOLOGY_REQUEST
    (domain "SMF-MSG-TOPOLOGY-REQUEST-v1") BareRequest.mk accepted
  exact ⟨canonical.1, canonical.2.2 policyRequest (by decide) .POLICY_REQUEST⟩

end MessageKind

end StateMovementFabric
