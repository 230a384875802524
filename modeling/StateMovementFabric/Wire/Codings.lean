import StateMovementFabric.Wire.AdminMessages
import StateMovementFabric.Wire.DataMessages
import StateMovementFabric.Wire.RoundTrips

namespace StateMovementFabric

open Foundation Wire CanonicalDecoder CanonicalEncoder

/-!
# One encoding per message

Every message type has its fields settled here: which values are read back, and that a
decoder accepts the encodings of those and nothing else.  The condition under which a value
is read back is its own check together with what the check leaves open.
-/

/-- The message types, one for each structure of the protocol. -/
inductive MessageKind where
  | registerRequest | registerAck | announceObject | announceAck | grantTransfer | grantAck
  | executeMovement | attemptResult | cancelRequest | cancelAck | commitRequest | commitResult
  | verifyRequest | verifyResponse | authorityQuery | authorityReport | cleanupRequest
  | cleanupResult | dataBegin | dataBeginAck | dataChunk | dataChunkAck | dataEnd | dataResult
  | dataAbort | submitMovement | movementAccepted | queryMovement | movementStatus | listMovements
  | movementSummary | movementList | cancelMovement | reconcileMovement | provenanceRequest
  | provenanceReport | topologyRequest | topologyReport | policyRequest | policyReport
  | shutdownRequest | shutdownAck | errorMessage | peerIdentityHint
  deriving DecidableEq, Repr

namespace MessageKind

def all : List MessageKind :=
  [.registerRequest, .registerAck, .announceObject, .announceAck, .grantTransfer, .grantAck,
    .executeMovement, .attemptResult, .cancelRequest, .cancelAck, .commitRequest, .commitResult,
    .verifyRequest, .verifyResponse, .authorityQuery, .authorityReport, .cleanupRequest,
    .cleanupResult, .dataBegin, .dataBeginAck, .dataChunk, .dataChunkAck, .dataEnd, .dataResult,
    .dataAbort, .submitMovement, .movementAccepted, .queryMovement, .movementStatus,
    .listMovements, .movementSummary, .movementList, .cancelMovement, .reconcileMovement,
    .provenanceRequest, .provenanceReport, .topologyRequest, .topologyReport, .policyRequest,
    .policyReport, .shutdownRequest, .shutdownAck, .errorMessage, .peerIdentityHint]

/-- The domain string of each type. -/
def domainName : MessageKind -> String
  | registerRequest => "SMF-MSG-REGISTER-REQUEST-v1"
  | registerAck => "SMF-MSG-REGISTER-ACK-v1"
  | announceObject => "SMF-MSG-ANNOUNCE-OBJECT-v1"
  | announceAck => "SMF-MSG-ANNOUNCE-ACK-v1"
  | grantTransfer => "SMF-MSG-GRANT-TRANSFER-v1"
  | grantAck => "SMF-MSG-GRANT-ACK-v1"
  | executeMovement => "SMF-MSG-EXECUTE-MOVEMENT-v1"
  | attemptResult => "SMF-MSG-ATTEMPT-RESULT-v1"
  | cancelRequest => "SMF-MSG-CANCEL-REQUEST-v1"
  | cancelAck => "SMF-MSG-CANCEL-ACK-v1"
  | commitRequest => "SMF-MSG-COMMIT-REQUEST-v1"
  | commitResult => "SMF-MSG-COMMIT-RESULT-v1"
  | verifyRequest => "SMF-MSG-VERIFY-REQUEST-v1"
  | verifyResponse => "SMF-MSG-VERIFY-RESPONSE-v1"
  | authorityQuery => "SMF-MSG-AUTHORITY-QUERY-v1"
  | authorityReport => "SMF-MSG-AUTHORITY-REPORT-v1"
  | cleanupRequest => "SMF-MSG-CLEANUP-REQUEST-v1"
  | cleanupResult => "SMF-MSG-CLEANUP-RESULT-v1"
  | dataBegin => "SMF-MSG-DATA-BEGIN-v1"
  | dataBeginAck => "SMF-MSG-DATA-BEGIN-ACK-v1"
  | dataChunk => "SMF-MSG-DATA-CHUNK-v1"
  | dataChunkAck => "SMF-MSG-DATA-CHUNK-ACK-v1"
  | dataEnd => "SMF-MSG-DATA-END-v1"
  | dataResult => "SMF-MSG-DATA-RESULT-v1"
  | dataAbort => "SMF-MSG-DATA-ABORT-v1"
  | submitMovement => "SMF-MSG-SUBMIT-MOVEMENT-v1"
  | movementAccepted => "SMF-MSG-MOVEMENT-ACCEPTED-v1"
  | queryMovement => "SMF-MSG-QUERY-MOVEMENT-v1"
  | movementStatus => "SMF-MSG-MOVEMENT-STATUS-v1"
  | listMovements => "SMF-MSG-LIST-MOVEMENTS-v1"
  | movementSummary => "SMF-MSG-MOVEMENT-SUMMARY-v1"
  | movementList => "SMF-MSG-MOVEMENT-LIST-v1"
  | cancelMovement => "SMF-MSG-CANCEL-MOVEMENT-v1"
  | reconcileMovement => "SMF-MSG-RECONCILE-MOVEMENT-v1"
  | provenanceRequest => "SMF-MSG-PROVENANCE-REQUEST-v1"
  | provenanceReport => "SMF-MSG-PROVENANCE-REPORT-v1"
  | topologyRequest => "SMF-MSG-TOPOLOGY-REQUEST-v1"
  | topologyReport => "SMF-MSG-TOPOLOGY-REPORT-v1"
  | policyRequest => "SMF-MSG-POLICY-REQUEST-v1"
  | policyReport => "SMF-MSG-POLICY-REPORT-v1"
  | shutdownRequest => "SMF-MSG-SHUTDOWN-REQUEST-v1"
  | shutdownAck => "SMF-MSG-SHUTDOWN-ACK-v1"
  | errorMessage => "SMF-MSG-ERROR-MESSAGE-v1"
  | peerIdentityHint => "SMF-MSG-PEER-IDENTITY-HINT-v1"

theorem mem_all (kind : MessageKind) : kind ∈ all := by
  cases kind <;> decide

end MessageKind

/-- The named codes, which are those that a reader accepts. -/
def ReasonCode.isDeclared (code : ReasonCode) : Bool := code.toNat ≤ ReasonCode.NO_EVIDENCE.toNat

variable {name what : String} {α : Type}

namespace Wire

/-! ## Readers -/

section Readers

variable {limits : DecodeLimits}

theorem codes_readGeneration {tag : GenerationTag} :
    Codes limits Any (readGeneration : Decode (Generation tag))
      (fun generation => u64 generation.value) Any :=
  Generation.codes

theorem codes_readDetail (roomy : Roomy limits) :
    Codes limits Any readDetail text
      (fun value => value.length ≤ kMaxDetailBytes ∧ isValidUtf8 value = true) :=
  .boundedText roomy (by decide)

theorem codes_readEndpoint (roomy : Roomy limits) :
    Codes limits Any readEndpoint (fun endpoint => text endpoint.value)
      (fun endpoint => endpoint.isEmpty = false) := by
  have named : Codes limits (fun endpoint : EndpointId => endpoint.isEmpty = false) readEndpoint
      (fun endpoint => text endpoint.value)
      (fun endpoint => endpoint.value.length ≤ kMaxEndpointIdBytes ∧
        isValidUtf8 endpoint.value = true) := by
    refine .settled EndpointId.value (EndpointId.codes_name roomy) (fun _ _ => trivial)
      fun name _ _ before endpoint after => ?_
    by_cases empty : name.isEmpty
    · simp only [if_pos empty]
      refine iff_of_false nofun ?_
      rintro ⟨_, inhabited, rfl⟩
      exact Bool.false_ne_true (inhabited.symm.trans empty)
    · simp only [if_neg empty]
      exact Codes.run_check_part EndpointId.parse_eq_ok
  exact named.unselected.fits_iff fun endpoint _ => and_iff_left endpoint.fits

theorem codes_readReason :
    Codes limits Any readReason writeReason (fun code => code.isDeclared = true) := by
  have named : Codes limits (fun code : ReasonCode => code.isDeclared = true) readReason
      writeReason Any := by
    refine .settled (fun code : ReasonCode => UInt16.ofNat code.toNat) .u16 (fun _ _ => trivial)
      fun raw _ _ before code after => ?_
    rw [ReasonCode.eq_ofUInt16]
    by_cases unknown : raw.toNat > ReasonCode.NO_EVIDENCE.toNat
    · simp only [if_pos unknown]
      refine iff_of_false nofun ?_
      rintro ⟨_, declared, rfl⟩
      rw [ReasonCode.isDeclared, decide_eq_true_eq, ReasonCode.toNat_ofUInt16] at declared
      omega
    · simp only [if_neg unknown]
      change Except.ok (ReasonCode.ofUInt16 raw, before) = Except.ok (code, after) ↔ _
      rw [Except.ok.injEq, Prod.mk.injEq, and_comm]
      refine and_congr_right fun _ => ?_
      constructor
      · rintro rfl
        refine ⟨?_, rfl⟩
        rw [ReasonCode.isDeclared, decide_eq_true_eq, ReasonCode.toNat_ofUInt16]
        omega
      · exact fun same => same.2.symm
  exact named.unselected.fits_iff fun _ _ => and_iff_left trivial

theorem codes_readMovementState :
    Codes limits Any readMovementState (fun state => u8 state.toUInt8) Any := by
  refine .settled MovementState.toUInt8 .u8 (fun _ _ => trivial) fun raw _ _ before state after => ?_
  rw [true_and, ← MovementState.ofUInt8_eq_some]
  cases MovementState.ofUInt8 raw with
  | none => exact iff_of_false nofun nofun
  | some found =>
      change Except.ok (found, before) = Except.ok (state, after) ↔ _
      rw [Except.ok.injEq, Prod.mk.injEq, and_comm, Option.some.injEq]

theorem codes_readIncarnation {tag : IncarnationTag} (roomy : Roomy limits) :
    Codes limits Any (readIncarnation : Decode (Incarnation tag)) MovementRecord.encodeIncarnation
      (fun incarnation => incarnation.endpoint.isEmpty = false) := by
  refine .bounded
      (fun incarnation : Incarnation tag => incarnation.endpoint) (codes_readEndpoint roomy)
      (fun _ named => named) fun endpoint named => ?_
  refine .field (fun incarnation : Incarnation tag => incarnation.boot)
      (FixedId.codes roomy (by decide))
      fun _ => ?_
  refine .field (fun incarnation : Incarnation tag => incarnation.epoch) codes_readGeneration
      fun _ =>
    .pure (fun incarnation => ?_) named
  rcases incarnation with ⟨⟩
  simp only [Incarnation.mk.injEq, true_and, and_assoc]

theorem codes_readAddress (roomy : Roomy limits) :
    Codes limits Any readAddress writeAddress
      (fun address => address.host.length ≤ kMaxWireHostBytes ∧
        isValidUtf8 address.host = true) := by
  refine .bounded SocketAddress.host (.boundedText roomy (by decide)) (fun _ fits => fits)
      fun host fits =>
    .field SocketAddress.port .u16 fun port => .pure (fun address => ?_) fits
  rcases address with ⟨⟩
  simp only [SocketAddress.mk.injEq, true_and]

theorem codes_readList {maxCount : Nat} {decode : Decode α} {encode : α -> Bytes} {fit : α -> Prop}
    (small : maxCount < 4294967296) (codes : Codes limits Any decode encode fit) :
    Codes limits Any (readList maxCount decode) (writeList encode)
      (fun values => values.length ≤ maxCount ∧ forall value, value ∈ values -> fit value) := by
  refine .bounded List.length (.count small) (fun _ fits => fits.1) fun number within => ?_
  constructor
  · rintro values ⟨_, counted⟩ fits
    exact (codes.repeated number).reads values counted fits.2
  · intro input values after ran
    rcases (codes.repeated number).takes input values after ran with ⟨counted, fits, rest⟩
    exact ⟨⟨trivial, counted⟩, ⟨counted.trans_le within, fits⟩, rest⟩

/-- The bytes of one chunk. -/
theorem codes_payload (roomy : Roomy limits) :
    Codes limits Any (blob kMaxWireChunkBytes) blob
      (fun value => value.length ≤ kMaxWireChunkBytes) := by
  have blobs := roomy.blobs
  simp only [kMaxChunkBytes, kMaxWireChunkBytes] at *
  exact .blob (by omega) (by omega)

theorem codes_readRole :
    Codes limits Any readRole u8 (fun role => requireRole role = .ok ()) := by
  have checked : forall role, Codes limits (fun other : UInt8 => Any other ∧ id other = role)
      (do
        check (requireRole role)
        return role) (fun _ => []) (fun role => requireRole role = .ok ()) :=
    fun role => .checked (fun _ => true_and _ ▸ Iff.rfl) Iff.rfl
  exact Codes.cast (.field id .u8 checked) (fun _ _ => List.append_nil _) (fun _ _ => Iff.rfl)

/-! ## The shape of a message -/

theorem codes_checkDomain (roomy : Roomy limits) (isDomain : IsDomain name) :
    Codes limits Any (checkDomain name) (fun _ => domain name) Any := by
  constructor
  · intro _ _ _
    exact reads_checkDomain roomy isDomain
  · intro input _ after ran
    rcases run_bind_eq_ok.mp ran with ⟨found, between, ranName, ran⟩
    have short : kMaxWireDomainBytes ≤ kMaxObjectNameBytes := by decide
    rcases (Codes.boundedText roomy short).takes input found between ranName with
      ⟨_, _, rest, rfl, rfl⟩
    split at ran
    · cases ran
    · rename_i same
      rw [not_not] at same
      cases ran
      exact ⟨trivial, trivial, rest, by rw [same, domain], rfl⟩

/-- A message whose fields are settled.  Its own check joins the condition on the fields. -/
theorem codes_readMessage {fields : Decode α} {validate : α -> Result Unit} {on whole : α -> Prop}
    {encode : α -> Bytes} (roomy : Roomy limits) (isDomain : IsDomain name) (fit : α -> Prop)
    (codesFields : Codes limits on fields encode fit) (same : forall message, on message ->
      (whole message ↔ fit message ∧ validate message = .ok ())) :
    Codes limits on (readMessage name fields validate) (fun message => domain name ++ encode message)
      whole := by
  constructor
  · intro message selected fitting
    have both := (same message selected).mp fitting
    refine .bind ((codes_checkDomain roomy isDomain).reads () trivial trivial) ?_
    rw [← List.append_nil (encode message)]
    exact .bind (codesFields.reads message selected both.1)
      (.checked both.2 (.pure message))
  · intro input message after ran
    rcases run_bind_eq_ok.mp ran with ⟨⟨⟩, between, ranName, ran⟩
    rcases (codes_checkDomain roomy isDomain).takes input () between ranName with
      ⟨_, _, rest, rfl, rfl⟩
    rcases run_bind_eq_ok.mp ran with ⟨found, between, ranFields, ran⟩
    rcases codesFields.takes rest found between ranFields with
      ⟨selected, fits, last, rfl, rfl⟩
    rcases run_bind_eq_ok.mp ran with ⟨⟨⟩, between, verdict, returned⟩
    rcases run_check_eq_ok.mp verdict with ⟨passed, rfl⟩
    cases returned
    exact ⟨selected, (same message selected).mpr ⟨fits, passed⟩, last, List.append_assoc .. |>.symm,
      rfl⟩

end Readers

/-- The domain strings fit in front of their messages. -/
theorem isDomain (kind : MessageKind) : IsDomain kind.domainName := by
  have fits : (MessageKind.all.all fun kind => isValidUtf8 (ascii kind.domainName) &&
      decide ((ascii kind.domainName).length ≤ kMaxWireDomainBytes)) = true := by
    decide +kernel
  have both := List.all_eq_true.mp fits kind kind.mem_all
  rw [Bool.and_eq_true, decide_eq_true_eq] at both
  exact ⟨both.1, both.2⟩

/-! ## Checks -/

theorem requireBound_eq_ok {value : Text} {bound : Nat} :
    requireBound value bound what = .ok () ↔ value.length ≤ bound ∧ isValidUtf8 value = true := by
  rw [requireBound, refuseNaming, refuseNaming, refuseWhen_bind_eq_ok, refuseWhen_eq_ok,
    decide_eq_false_iff_not, gt_iff_lt, Nat.not_lt]
  refine and_congr_right fun _ => ?_
  cases value with
  | nil => exact iff_of_true rfl rfl
  | cons first rest => simp

theorem requireEndpoint_eq_ok {endpoint : EndpointId} :
    requireEndpoint endpoint what = .ok () ↔ endpoint.isEmpty = false := by
  rw [requireEndpoint, refuseNaming, refuseWhen_eq_ok, Bool.or_eq_false_iff, Bool.not_eq_false']
  exact and_iff_left_of_imp EndpointId.valid_of_named

theorem requireIncarnation_eq_ok {tag : IncarnationTag} {incarnation : Incarnation tag}
    {expected : EndpointId} :
    requireIncarnation incarnation expected what = .ok () ↔
      (incarnation.endpoint.isEmpty = false ∧ incarnation.boot.isZero = false ∧
        incarnation.epoch.isSet = true) ∧ incarnation.endpoint = expected := by
  rw [requireIncarnation, refuseNaming, refuseNaming, refuseWhen_bind_eq_ok, refuseWhen_eq_ok,
    Bool.not_eq_false', bne_eq_false_iff_eq, Incarnation.isSet_iff]

/-! ## Messages that are restricted in the same way -/

section Families

variable {limits : DecodeLimits} {α : Type} {name : String} {fields : Decode α}
  {validate : α -> Result Unit} {encode : α -> Bytes} (roomy : Roomy limits)
  (isDomain : IsDomain name)

include roomy isDomain

/-- A message that nothing but its own check restricts. -/
theorem codes_readChecked (codesFields : Codes limits Any fields encode Any) :
    Codes limits Any (readMessage name fields validate)
      (fun message => domain name ++ encode message) (fun message => validate message = .ok ()) :=
  codes_readMessage roomy isDomain Any codesFields fun _ _ => (and_iff_right trivial).symm

/-- A message that gives a reason and a detail, and whose check includes the detail. -/
theorem codes_readAnswer (code : α -> ReasonCode) (detail : α -> Text)
    (codesFields : Codes limits Any fields encode fun message =>
      (code message).isDeclared = true ∧ (detail message).length ≤ kMaxDetailBytes ∧
        isValidUtf8 (detail message) = true)
    (bounds : forall message, validate message = .ok () ->
      requireBound (detail message) kMaxDetailBytes "detail" = .ok ()) :
    Codes limits Any (readMessage name fields validate)
      (fun message => domain name ++ encode message)
      (fun message => validate message = .ok () ∧ (code message).isDeclared = true) := by
  refine codes_readMessage roomy isDomain _ codesFields fun message _ => ?_
  constructor
  · rintro ⟨valid, declared⟩
    exact ⟨⟨declared, requireBound_eq_ok.mp (bounds message valid)⟩, valid⟩
  · rintro ⟨⟨declared, _⟩, valid⟩
    exact ⟨valid, declared⟩

end Families

end Wire

theorem TransferGrant.parts_of_validate {grant : TransferGrant} (valid : grant.validate = .ok ()) :
    grant.object.validate = .ok () ∧ grant.source.isEmpty = false ∧
      grant.destination.isEmpty = false ∧ grant.sourceIncarnation.endpoint.isEmpty = false ∧
      grant.destinationIncarnation.endpoint.isEmpty = false := by
  simp only [validate, check_bind_eq_ok, requireEndpoint_eq_ok, requireIncarnation_eq_ok] at valid
  tauto

theorem requireAddress_host {address : SocketAddress} {allowUnset : Bool}
    (passed : requireAddress address allowUnset what = .ok ()) :
    address.host.length ≤ kMaxWireHostBytes := by
  unfold requireAddress at passed
  split at passed
  · rename_i unset
    simp only [Bool.and_eq_true, List.isEmpty_iff] at unset
    rw [unset.1.2]
    exact Nat.zero_le _
  · simp only [refuseNaming, refuseWhen_bind_eq_ok, decide_eq_false_iff_not, gt_iff_lt,
      Nat.not_lt] at passed
    exact passed.2.1

theorem validateAll_eq_ok {validate : α -> Result Unit} {values : List α} :
    validateAll validate values = .ok () ↔ forall value, value ∈ values -> validate value = .ok () := by
  induction values with
  | nil => exact iff_of_true rfl nofun
  | cons first rest ih => rw [validateAll, check_bind_eq_ok, ih, List.forall_mem_cons]

theorem ProvenanceReport.valid_of_validateEvents {place : Nat} {events : List ProvenanceEvent}
    (passed : validateEvents place events = .ok ()) :
    forall event, event ∈ events -> event.validate = .ok () := by
  induction events generalizing place with
  | nil =>
      intro event inside
      cases inside
  | cons first rest ih =>
      unfold validateEvents at passed
      rw [check_bind_eq_ok, refuseWhen_bind_eq_ok] at passed
      rw [List.forall_mem_cons]
      exact ⟨passed.1, ih passed.2.2⟩

theorem EndpointRegistration.named_of_validate {registration : EndpointRegistration}
    (valid : registration.validate = .ok ()) :
    registration.endpoint.isEmpty = false ∧ registration.incarnation.endpoint.isEmpty = false := by
  simp only [validate, check_bind_eq_ok, refuseWhen_eq_ok, Bool.not_eq_false',
    Incarnation.isSet_iff] at valid
  exact ⟨valid.1, valid.2.1.1⟩

section Messages

variable {limits : DecodeLimits}

theorem EffectClass.codes_read : Codes limits Any read
    (fun effect => u8 effect.toUInt8) Any := by
  refine .settled EffectClass.toUInt8 .u8 (fun _ _ => trivial) fun raw _ _ before effect after => ?_
  by_cases repeatable : raw = 0
  · subst repeatable
    change Except.ok (REPEATABLE, before) = Except.ok (effect, after) ↔ _
    rw [Except.ok.injEq, Prod.mk.injEq, and_comm, true_and]
    exact and_congr_right fun _ => by cases effect <;> decide
  by_cases single : raw = 1
  · subst single
    change Except.ok (NON_REPEATABLE, before) = Except.ok (effect, after) ↔ _
    rw [Except.ok.injEq, Prod.mk.injEq, and_comm, true_and]
    exact and_congr_right fun _ => by cases effect <;> decide
  simp only [beq_iff_eq, if_neg repeatable, if_neg single]
  refine iff_of_false nofun ?_
  rintro ⟨_, _, rfl⟩
  cases effect with
  | REPEATABLE => exact repeatable rfl
  | NON_REPEATABLE => exact single rfl

theorem MovementPolicy.codes :
    Codes limits Any decode encode (fun policy => policy.validate = .ok ()) := by
  refine .field maxAttempts .u32 fun _ => .field maxInflightChunks .u32 fun _ =>
    .field minChunkBytes .u64 fun _ => .field maxChunkBytes .u64 fun _ =>
    .field maxObjectBytes .u64 fun _ => .field maxMovementBytes .u64 fun _ => ?_
  refine .field maxEndpoints .u32 fun _ => .field maxSessions .u32 fun _ =>
    .field maxMovementsInFlight .u32 fun _ => .field maxProvenanceEvents .u32 fun _ =>
    .field maxHistoryRecords .u32 fun _ => .field maxStoreBytes .u64 fun _ =>
    .field maxStagingBytesPerEndpoint .u64 fun _ => ?_
  refine .field allowResume .boolean fun _ => .field requireCompatibilityEvidence .boolean fun _ =>
    .field allowUnknownKind .boolean fun _ => .field verifySampleChunks .boolean fun _ =>
    .field verifySampleChunksCount .u32 fun _ => .field ioBudgetMillis .u32 fun _ =>
    .field transferBudgetMillis .u32 fun _ => .checked (fun policy => ?_) Iff.rfl
  rcases policy with ⟨⟩
  simp only [mk.injEq, true_and, and_assoc]

theorem PolicySet.codes : Codes limits Any decode encode (fun set => set.validate = .ok ()) := by
  refine .field generation codes_readGeneration fun _ =>
    .bounded policy MovementPolicy.codes (fun set valid => ?_) fun _ _ =>
    .checked (fun set => ?_) Iff.rfl
  · rw [validate, refuseWhen_bind_eq_ok] at valid
    exact valid.2
  · rcases set with ⟨⟩
    simp only [mk.injEq, true_and]

variable (roomy : Roomy limits)

include roomy

/-! ## Grants -/

theorem TransferGrant.codes :
    Codes limits Any decode encode (fun grant => grant.validate = .ok ()) := by
  have flat : Codes limits Any decode (fun grant =>
      [grant.movementId.encode, u64 grant.movementGeneration.value,
        grant.attempt.encode, grant.object.encode, text grant.source.value,
        MovementRecord.encodeIncarnation grant.sourceIncarnation,
        text grant.destination.value,
        MovementRecord.encodeIncarnation grant.destinationIncarnation,
        u64 grant.policyGeneration.value, grant.grantNonce.encode,
        u64 grant.maxBytes, u32 grant.maxChunks,
        i64 grant.issuedUnixMillis,
        u8 grant.effectClass.toUInt8,
        digest grant.signature].flatten) (fun grant => grant.validate = .ok ()) := by
    refine .field movementId (FixedId.codes roomy (by decide)) fun _ =>
      .field movementGeneration codes_readGeneration fun _ =>
      .field attempt (FixedId.codes roomy (by decide)) fun _ =>
      .bounded object (StateObjectDescriptor.codes roomy)
        (fun _ valid => (parts_of_validate valid).1) fun _ _ => ?_
    refine .bounded source (codes_readEndpoint roomy)
        (fun _ valid => (parts_of_validate valid).2.1) fun _ _ =>
      .bounded sourceIncarnation (codes_readIncarnation roomy)
        (fun _ valid => (parts_of_validate valid).2.2.2.1) fun _ _ => ?_
    refine .bounded destination (codes_readEndpoint roomy)
        (fun _ valid => (parts_of_validate valid).2.2.1) fun _ _ =>
      .bounded destinationIncarnation (codes_readIncarnation roomy)
        (fun _ valid => (parts_of_validate valid).2.2.2.2) fun _ _ => ?_
    refine .field policyGeneration codes_readGeneration fun _ =>
      .field grantNonce (FixedId.codes roomy (by decide)) fun _ => .field maxBytes .u64 fun _ =>
      .field maxChunks .u32 fun _ => ?_
    refine .field issuedUnixMillis .i64 fun _ => .field effectClass EffectClass.codes_read fun _ =>
      .field signature .digest fun _ => .checked (fun grant => ?_) Iff.rfl
    rcases grant with ⟨⟩
    simp only [mk.injEq, true_and, and_assoc]
  refine flat.cast (fun grant _ => ?_) (fun _ _ => Iff.rfl)
  simp only [encode, encodeUnsigned, List.flatten_cons, List.flatten_nil, List.append_assoc,
    List.append_nil]

theorem GrantTransfer.codes :
    Codes limits Any decode encode (fun message => message.grant.validate = .ok ()) := by
  refine codes_readMessage roomy (isDomain .grantTransfer)
    (fun message : GrantTransfer => message.grant.validate = .ok ()) ?_ fun message _ => ?_
  · refine .bounded grant (TransferGrant.codes roomy) (fun _ fits => fits) fun _ valid =>
      .pure (fun message => ?_) valid
    rcases message with ⟨⟩
    simp only [mk.injEq, true_and]
  · exact (and_self_iff).symm

theorem GrantAck.codes :
    Codes limits Any decode encode
      (fun message => message.validate = .ok () ∧ message.code.isDeclared = true) := by
  refine codes_readAnswer roomy (isDomain .grantAck) code detail ?_ fun message valid => ?_
  · refine .field nonce .digest fun _ =>
      .bounded code codes_readReason (fun _ fits => fits.1) fun _ declared =>
      .bounded detail (codes_readDetail roomy) (fun _ fits => fits.2) fun _ short =>
      .pure (fun message => ?_) ⟨declared, short⟩
    rcases message with ⟨⟩
    simp only [mk.injEq, true_and, and_assoc]
  · simp only [validate, check_bind_eq_ok] at valid
    tauto

/-! ## One attempt -/

theorem ExecuteMovement.codes :
    Codes limits Any decode encode (fun message => message.validate = .ok ()) := by
  refine codes_readMessage roomy (isDomain .executeMovement)
    (fun message : ExecuteMovement => message.source.isEmpty = false)
    ?_ fun message _ => ?_
  · refine .field movementId (FixedId.codes roomy (by decide)) fun _ =>
      .field movementGeneration codes_readGeneration fun _ =>
      .field attempt (FixedId.codes roomy (by decide)) fun _ => .field nonce .digest fun _ =>
      .bounded source (codes_readEndpoint roomy) (fun _ fits => fits) fun _ sourceNamed =>
      .pure (fun message => ?_) sourceNamed
    rcases message with ⟨⟩
    simp only [mk.injEq, true_and, and_assoc]
  · simp only [validate, check_bind_eq_ok, requireEndpoint_eq_ok]
    tauto

theorem AttemptResult.codes :
    Codes limits Any decode encode
      (fun message => message.validate = .ok () ∧ message.code.isDeclared = true) := by
  refine codes_readAnswer roomy (isDomain .attemptResult) code detail ?_ fun message valid => ?_
  · refine .field movementId (FixedId.codes roomy (by decide)) fun _ =>
      .field movementGeneration codes_readGeneration fun _ =>
      .field attempt (FixedId.codes roomy (by decide)) fun _ =>
      .field state codes_readMovementState fun _ =>
      .bounded code codes_readReason (fun _ fits => fits.1) fun _ declared => ?_
    refine .bounded detail (codes_readDetail roomy) (fun _ fits => fits.2) fun _ short =>
      .field verifiedDigest .digest fun _ => .field bytes .u64 fun _ => .field chunks .u32 fun _ =>
      .field markerDigest .digest fun _ => .pure (fun message => ?_) ⟨declared, short⟩
    rcases message with ⟨⟩
    simp only [mk.injEq, true_and, and_assoc]
  · simp only [validate, check_bind_eq_ok] at valid
    tauto

theorem CancelRequest.codes :
    Codes limits Any decode encode (fun message => message.validate = .ok ()) := by
  refine codes_readChecked roomy (isDomain .cancelRequest) ?_
  refine .field movementId (FixedId.codes roomy (by decide)) fun _ =>
    .field movementGeneration codes_readGeneration fun _ => .pure (fun message => ?_) trivial
  rcases message with ⟨⟩
  simp only [mk.injEq, true_and]

theorem CancelAck.codes :
    Codes limits Any decode encode
      (fun message => message.validate = .ok () ∧ message.code.isDeclared = true) := by
  refine codes_readAnswer roomy (isDomain .cancelAck) code detail ?_ fun message valid => ?_
  · refine .field movementId (FixedId.codes roomy (by decide)) fun _ =>
      .field movementGeneration codes_readGeneration fun _ =>
      .bounded code codes_readReason (fun _ fits => fits.1) fun _ declared =>
      .bounded detail (codes_readDetail roomy) (fun _ fits => fits.2) fun _ short =>
      .pure (fun message => ?_) ⟨declared, short⟩
    rcases message with ⟨⟩
    simp only [mk.injEq, true_and, and_assoc]
  · simp only [validate, check_bind_eq_ok] at valid
    tauto

/-! ## Commit, verification, authority and cleanup -/

theorem CommitRequest.codes :
    Codes limits Any decode encode (fun message => message.validate = .ok ()) := by
  refine codes_readMessage roomy (isDomain .commitRequest)
    (fun message : CommitRequest => message.object.validate = .ok ()) ?_ fun message _ => ?_
  · refine .field movementId (FixedId.codes roomy (by decide)) fun _ =>
      .field movementGeneration codes_readGeneration fun _ =>
      .field attempt (FixedId.codes roomy (by decide)) fun _ =>
      .bounded object (StateObjectDescriptor.codes roomy) (fun _ fits => fits) fun _ valid => ?_
    refine .bounded
        (fun message : CommitRequest => message.source.value) (EndpointId.codes_name roomy)
        (fun message _ => message.source.fits) fun name _ =>
      .check source (fun message => and_congr_right
        fun _ => ProvenanceEvent.decodeActor_eq_ok.symm) fun source _ =>
      .pure (fun message => ?_) valid
    rcases message with ⟨⟩
    simp only [mk.injEq, true_and, and_assoc]
  · simp only [validate, check_bind_eq_ok]
    tauto

theorem CommitResult.codes :
    Codes limits Any decode encode
      (fun message => message.validate = .ok () ∧ message.code.isDeclared = true) := by
  refine codes_readAnswer roomy (isDomain .commitResult) code detail ?_ fun message valid => ?_
  · refine .field movementId (FixedId.codes roomy (by decide)) fun _ =>
      .field movementGeneration codes_readGeneration fun _ =>
      .bounded code codes_readReason (fun _ fits => fits.1) fun _ declared =>
      .field markerDigest .digest fun _ =>
      .bounded detail (codes_readDetail roomy) (fun _ fits => fits.2) fun _ short =>
      .pure (fun message => ?_) ⟨declared, short⟩
    rcases message with ⟨⟩
    simp only [mk.injEq, true_and, and_assoc]
  · simp only [validate, check_bind_eq_ok] at valid
    tauto

theorem VerifyRequest.codes :
    Codes limits Any decode encode (fun message => message.validate = .ok ()) := by
  refine codes_readChecked roomy (isDomain .verifyRequest) ?_
  refine .field movementId (FixedId.codes roomy (by decide)) fun _ =>
    .field movementGeneration codes_readGeneration fun _ =>
    .field objectId (FixedId.codes roomy (by decide)) fun _ =>
    .field objectGeneration codes_readGeneration fun _ =>
    .field fullDigestRequested .boolean fun _ => ?_
  refine .field chunkIndex .u32 fun _ => .field chunkBytes .u64 fun _ =>
    .pure (fun message => ?_) trivial
  rcases message with ⟨⟩
  simp only [mk.injEq, true_and, and_assoc]

theorem VerifyResponse.codes :
    Codes limits Any decode encode
      (fun message => message.validate = .ok () ∧ message.code.isDeclared = true) := by
  refine codes_readMessage roomy (isDomain .verifyResponse)
    (fun message : VerifyResponse =>
      message.code.isDeclared = true ∧ message.chunkPayload.length ≤ kMaxWireChunkBytes)
    ?_ fun message _ => ?_
  · refine .field movementId (FixedId.codes roomy (by decide)) fun _ =>
      .field objectId (FixedId.codes roomy (by decide)) fun _ =>
      .field objectGeneration codes_readGeneration fun _ =>
      .bounded code codes_readReason (fun _ fits => fits.1) fun _ declared =>
      .field storedDigest .digest fun _ => ?_
    refine .field storedBytes .u64 fun _ => .field storedChunks .u32 fun _ =>
      .field chunkIndex .u32 fun _ => .field chunkDigest .digest fun _ =>
      .bounded chunkPayload (codes_payload roomy) (fun _ fits => fits.2) fun _ short =>
      .pure (fun message => ?_) ⟨declared, short⟩
    rcases message with ⟨⟩
    simp only [mk.injEq, true_and, and_assoc]
  · simp only [validate, check_bind_eq_ok, refuseWhen_eq_ok, decide_eq_false_iff_not, gt_iff_lt,
      Nat.not_lt]
    tauto

theorem AuthorityQuery.codes :
    Codes limits Any decode encode (fun message => message.validate = .ok ()) := by
  refine codes_readChecked roomy (isDomain .authorityQuery) ?_
  refine .field movementId (FixedId.codes roomy (by decide)) fun _ =>
    .field objectId (FixedId.codes roomy (by decide)) fun _ =>
    .field objectGeneration codes_readGeneration fun _ => .pure (fun message => ?_) trivial
  rcases message with ⟨⟩
  simp only [mk.injEq, true_and, and_assoc]

theorem AuthorityReport.codes :
    Codes limits Any decode encode
      (fun message => message.validate = .ok () ∧ message.code.isDeclared = true) := by
  refine codes_readAnswer roomy (isDomain .authorityReport) code detail ?_ fun message valid => ?_
  · refine .field movementId (FixedId.codes roomy (by decide)) fun _ =>
      .bounded code codes_readReason (fun _ fits => fits.1) fun _ declared =>
      .field bytesPresent .boolean fun _ => .field verified .boolean fun _ =>
      .field markerPresent .boolean fun _ => ?_
    refine .field authoritative .boolean fun _ => .field markerDigest .digest fun _ =>
      .field storedBytes .u64 fun _ =>
      .bounded detail (codes_readDetail roomy) (fun _ fits => fits.2) fun _ short =>
      .pure (fun message => ?_) ⟨declared, short⟩
    rcases message with ⟨⟩
    simp only [mk.injEq, true_and, and_assoc]
  · simp only [validate, check_bind_eq_ok] at valid
    tauto

theorem CleanupRequest.codes :
    Codes limits Any decode encode (fun message => message.validate = .ok ()) := by
  refine codes_readChecked roomy (isDomain .cleanupRequest) ?_
  refine .field movementId (FixedId.codes roomy (by decide)) fun _ =>
    .field quarantine .boolean fun _ =>
    .pure (fun message => ?_) trivial
  rcases message with ⟨⟩
  simp only [mk.injEq, true_and]

theorem CleanupResult.codes :
    Codes limits Any decode encode
      (fun message => message.validate = .ok () ∧ message.code.isDeclared = true) := by
  refine codes_readAnswer roomy (isDomain .cleanupResult) code detail ?_ fun message valid => ?_
  · refine .field movementId (FixedId.codes roomy (by decide)) fun _ =>
      .bounded code codes_readReason (fun _ fits => fits.1) fun _ declared =>
      .field bytesRemoved .u64 fun _ => .field entriesRemoved .u32 fun _ =>
      .bounded detail (codes_readDetail roomy) (fun _ fits => fits.2) fun _ short =>
      .pure (fun message => ?_) ⟨declared, short⟩
    rcases message with ⟨⟩
    simp only [mk.injEq, true_and, and_assoc]
  · simp only [validate, check_bind_eq_ok] at valid
    tauto

theorem ErrorMessage.codes :
    Codes limits Any decode encode
      (fun message => message.validate = .ok () ∧ message.code.isDeclared = true) := by
  refine codes_readAnswer roomy (isDomain .errorMessage) code detail ?_ fun message valid => ?_
  · refine .bounded code codes_readReason (fun _ fits => fits.1) fun _ declared =>
      .bounded detail (codes_readDetail roomy) (fun _ fits => fits.2) fun _ short =>
      .pure (fun message => ?_) ⟨declared, short⟩
    rcases message with ⟨⟩
    simp only [mk.injEq, true_and]
  · exact valid

/-! ## The data plane -/

/-- The fields for a resumption are not sent, so they have to be as the decoder sets them. -/
theorem DataBegin.codes :
    Codes limits Any decode encode (fun message =>
      (message.resumeFromChunk = 0 ∧ message.resumeFromOffset = 0) ∧ message.validate = .ok ()) := by
  have fresh : Codes limits (fun message : DataBegin =>
      message.resumeFromChunk = 0 ∧ message.resumeFromOffset = 0) decode encode
      (fun message => message.validate = .ok ()) := by
    refine codes_readMessage roomy (isDomain .dataBegin)
      (fun message : DataBegin => message.object.validate = .ok () ∧
        message.destination.isEmpty = false ∧
        message.destinationIncarnation.endpoint.isEmpty = false) ?_ fun message _ => ?_
    · refine .field nonce .digest fun _ =>
        .field movementId (FixedId.codes roomy (by decide)) fun _ =>
        .field movementGeneration codes_readGeneration fun _ =>
        .field attempt (FixedId.codes roomy (by decide)) fun _ => ?_
      refine .bounded object (StateObjectDescriptor.codes roomy) (fun _ fits => fits.1)
          fun _ valid =>
        .bounded destination (codes_readEndpoint roomy) (fun _ fits => fits.2.1) fun _ named =>
        .bounded destinationIncarnation (codes_readIncarnation roomy) (fun _ fits => fits.2.2)
          fun _ known =>
        .pure (fun message => ?_) ⟨valid, named, known⟩
      rcases message with ⟨⟩
      simp only [mk.injEq]
      tauto
    · simp only [validate, check_bind_eq_ok, requireEndpoint_eq_ok, requireIncarnation_eq_ok]
      tauto
  exact fresh.unselected

theorem DataBeginAck.codes :
    Codes limits Any decode encode
      (fun message => message.validate = .ok () ∧ message.code.isDeclared = true) := by
  refine codes_readAnswer roomy (isDomain .dataBeginAck) code detail ?_ fun message valid => ?_
  · refine .field nonce .digest fun _ =>
      .bounded code codes_readReason (fun _ fits => fits.1) fun _ declared =>
      .field resumeFromChunk .u32 fun _ => .field resumeFromOffset .u64 fun _ =>
      .bounded detail (codes_readDetail roomy) (fun _ fits => fits.2) fun _ short =>
      .pure (fun message => ?_) ⟨declared, short⟩
    rcases message with ⟨⟩
    simp only [mk.injEq, true_and, and_assoc]
  · simp only [validate, check_bind_eq_ok] at valid
    tauto

theorem DataChunk.codes :
    Codes limits Any decode encode (fun message => message.validate = .ok ()) := by
  refine codes_readMessage roomy (isDomain .dataChunk)
    (fun message : DataChunk => message.payload.length ≤ kMaxWireChunkBytes)
    ?_ fun message _ => ?_
  · refine .field movementId (FixedId.codes roomy (by decide)) fun _ =>
      .field attempt (FixedId.codes roomy (by decide)) fun _ => .field chunkIndex .u32 fun _ =>
      .field chunkOffset .u64 fun _ => .field chunkLength .u64 fun _ => ?_
    refine .field chunkDigest .digest fun _ =>
      .bounded payload (codes_payload roomy) (fun _ fits => fits) fun _ short =>
      .pure (fun message => ?_) short
    rcases message with ⟨⟩
    simp only [mk.injEq, true_and, and_assoc]
  · simp only [validate, check_bind_eq_ok, refuseWhen_eq_ok, decide_eq_false_iff_not, gt_iff_lt,
      Nat.not_lt]
    tauto

theorem DataChunkAck.codes :
    Codes limits Any decode encode (fun message => message.validate = .ok ()) := by
  refine codes_readChecked roomy (isDomain .dataChunkAck) ?_
  refine .field movementId (FixedId.codes roomy (by decide)) fun _ =>
    .field attempt (FixedId.codes roomy (by decide)) fun _ =>
    .field highestContiguousIndex .u32 fun _ =>
    .field duplicatesIgnored .u32 fun _ => .pure (fun message => ?_) trivial
  rcases message with ⟨⟩
  simp only [mk.injEq, true_and, and_assoc]

theorem DataEnd.codes :
    Codes limits Any decode encode (fun message => message.validate = .ok ()) := by
  refine codes_readChecked roomy (isDomain .dataEnd) ?_
  refine .field movementId (FixedId.codes roomy (by decide)) fun _ =>
    .field attempt (FixedId.codes roomy (by decide)) fun _ => .field totalChunks .u32 fun _ =>
    .field totalBytes .u64 fun _ => .field contentDigest .digest fun _ =>
    .pure (fun message => ?_) trivial
  rcases message with ⟨⟩
  simp only [mk.injEq, true_and, and_assoc]

theorem DataResult.codes :
    Codes limits Any decode encode
      (fun message => message.validate = .ok () ∧ message.code.isDeclared = true) := by
  refine codes_readAnswer roomy (isDomain .dataResult) code detail ?_ fun message valid => ?_
  · refine .field movementId (FixedId.codes roomy (by decide)) fun _ =>
      .field attempt (FixedId.codes roomy (by decide)) fun _ =>
      .bounded code codes_readReason (fun _ fits => fits.1) fun _ declared =>
      .field storedDigest .digest fun _ => .field storedBytes .u64 fun _ => ?_
    refine .field storedChunks .u32 fun _ => .field markerDigest .digest fun _ =>
      .bounded detail (codes_readDetail roomy) (fun _ fits => fits.2) fun _ short =>
      .pure (fun message => ?_) ⟨declared, short⟩
    rcases message with ⟨⟩
    simp only [mk.injEq, true_and, and_assoc]
  · simp only [validate, check_bind_eq_ok] at valid
    tauto

theorem DataAbort.codes :
    Codes limits Any decode encode
      (fun message => message.validate = .ok () ∧ message.code.isDeclared = true) := by
  refine codes_readAnswer roomy (isDomain .dataAbort) code detail ?_ fun message valid => ?_
  · refine .field movementId (FixedId.codes roomy (by decide)) fun _ =>
      .field attempt (FixedId.codes roomy (by decide)) fun _ =>
      .bounded code codes_readReason (fun _ fits => fits.1) fun _ declared =>
      .bounded detail (codes_readDetail roomy) (fun _ fits => fits.2) fun _ short =>
      .pure (fun message => ?_) ⟨declared, short⟩
    rcases message with ⟨⟩
    simp only [mk.injEq, true_and, and_assoc]
  · simp only [validate, check_bind_eq_ok] at valid
    tauto

/-! ## Registration and administration -/

theorem PeerIdentityHint.codes :
    Codes limits Any decode encode (fun message => message.validate = .ok ()) := by
  refine codes_readMessage roomy (isDomain .peerIdentityHint)
    (fun message : PeerIdentityHint =>
      message.endpoint.isEmpty = false ∧ requireRole message.role = .ok () ∧
      message.contract.length ≤ kMaxWireContractBytes ∧ isValidUtf8 message.contract = true)
    ?_ fun message _ => ?_
  · refine .bounded endpoint (codes_readEndpoint roomy) (fun _ fits => fits.1)
        fun _ endpointNamed =>
      .field boot (FixedId.codes roomy (by decide)) fun _ =>
      .field epoch codes_readGeneration fun _ =>
      .bounded role codes_readRole (fun _ fits => fits.2.1) fun _ known =>
      .bounded contract (.boundedText roomy (by decide)) (fun _ fits => fits.2.2) fun _ short => ?_
    refine .field capabilityDigest .digest fun _ =>
      .pure (fun message => ?_) ⟨endpointNamed, known, short⟩
    rcases message with ⟨⟩
    simp only [mk.injEq, true_and, and_assoc]
  · simp only [validate, check_bind_eq_ok, requireBound_eq_ok, requireEndpoint_eq_ok]
    tauto

theorem RegisterAck.codes :
    Codes limits Any decode encode (fun message => message.validate = .ok ()) := by
  refine codes_readMessage roomy (isDomain .registerAck)
    (fun message : RegisterAck => message.coordinator.endpoint.isEmpty = false)
    ?_ fun message _ => ?_
  · refine .field topologyGeneration codes_readGeneration fun _ =>
      .field policyGeneration codes_readGeneration fun _ =>
      .bounded coordinator (codes_readIncarnation roomy) (fun _ fits => fits)
        fun _ coordinatorNamed =>
      .field policyDigest .digest fun _ => .field maxInflightChunks .u32 fun _ => ?_
    refine .field maxChunkBytes .u64 fun _ => .field maxObjectBytes .u64 fun _ =>
      .field ioBudgetMillis .u32 fun _ => .field transferBudgetMillis .u32 fun _ =>
      .pure (fun message => ?_) coordinatorNamed
    rcases message with ⟨⟩
    simp only [mk.injEq, true_and, and_assoc]
  · simp only [validate, check_bind_eq_ok, refuseWhen_eq_ok, Bool.not_eq_false',
      Incarnation.isSet_iff]
    tauto

theorem AnnounceObject.codes :
    Codes limits Any decode encode (fun message => message.validate = .ok ()) := by
  refine codes_readMessage roomy (isDomain .announceObject)
    (fun message : AnnounceObject => message.descriptor.validate = .ok ())
    ?_ fun message _ => ?_
  · refine .bounded descriptor (StateObjectDescriptor.codes roomy) (fun _ fits => fits)
        fun _ valid =>
      .pure (fun message => ?_) valid
    rcases message with ⟨⟩
    simp only [mk.injEq, true_and]
  · simp only [validate]
    tauto

theorem SubmitMovement.codes :
    Codes limits Any decode encode (fun message => message.validate = .ok ()) := by
  refine codes_readMessage roomy (isDomain .submitMovement)
    (fun message : SubmitMovement =>
      message.source.isEmpty = false ∧ message.destination.isEmpty = false)
    ?_ fun message _ => ?_
  · refine .field objectId (FixedId.codes roomy (by decide)) fun _ =>
      .field objectGeneration codes_readGeneration fun _ =>
      .bounded source (codes_readEndpoint roomy) (fun _ fits => fits.1) fun _ sourceNamed =>
      .bounded destination (codes_readEndpoint roomy) (fun _ fits => fits.2)
        fun _ destinationNamed =>
      .pure (fun message => ?_) ⟨sourceNamed, destinationNamed⟩
    rcases message with ⟨⟩
    simp only [mk.injEq, true_and, and_assoc]
  · simp only [validate, check_bind_eq_ok, requireEndpoint_eq_ok]
    tauto

theorem MovementAccepted.codes :
    Codes limits Any decode encode
      (fun message => message.validate = .ok () ∧ message.code.isDeclared = true) := by
  refine codes_readAnswer roomy (isDomain .movementAccepted) code detail ?_ fun message valid => ?_
  · refine .field movementId (FixedId.codes roomy (by decide)) fun _ =>
      .field state codes_readMovementState fun _ =>
      .bounded code codes_readReason (fun _ fits => fits.1) fun _ declared =>
      .bounded detail (codes_readDetail roomy) (fun _ fits => fits.2) fun _ short =>
      .pure (fun message => ?_) ⟨declared, short⟩
    rcases message with ⟨⟩
    simp only [mk.injEq, true_and, and_assoc]
  · simp only [validate, check_bind_eq_ok] at valid
    tauto

theorem ListMovements.codes :
    Codes limits Any decode encode (fun message => message.validate = .ok ()) := by
  refine codes_readChecked roomy (isDomain .listMovements) ?_
  refine .field limit .u32 fun _ => .field offset .u32 fun _ => .pure (fun message => ?_) trivial
  rcases message with ⟨⟩
  simp only [mk.injEq, true_and]

theorem MovementSummary.codes :
    Codes limits Any decode encode
      (fun message => message.validate = .ok () ∧ message.lastReason.isDeclared = true) := by
  refine codes_readMessage roomy (isDomain .movementSummary)
    (fun message : MovementSummary =>
      message.source.isEmpty = false ∧ message.destination.isEmpty = false ∧
      message.lastReason.isDeclared = true)
    ?_ fun message _ => ?_
  · refine .field movementId (FixedId.codes roomy (by decide)) fun _ =>
      .field state codes_readMovementState fun _ =>
      .field objectId (FixedId.codes roomy (by decide)) fun _ =>
      .field objectGeneration codes_readGeneration fun _ =>
      .bounded source (codes_readEndpoint roomy) (fun _ fits => fits.1) fun _ sourceNamed => ?_
    refine .bounded destination (codes_readEndpoint roomy) (fun _ fits => fits.2.1)
        fun _ destinationNamed =>
      .bounded lastReason codes_readReason (fun _ fits => fits.2.2) fun _ declared =>
      .field attemptCount .u32 fun _ => .field bytesTransferred .u64 fun _ =>
      .pure (fun message => ?_) ⟨sourceNamed, destinationNamed, declared⟩
    rcases message with ⟨⟩
    simp only [mk.injEq, true_and, and_assoc]
  · simp only [validate, check_bind_eq_ok, requireEndpoint_eq_ok]
    tauto

/-- The check of an address leaves open whether the host is a text. -/
theorem RegisterRequest.codes :
    Codes limits Any decode encode (fun message => message.validate = .ok () ∧
      isValidUtf8 message.serviceAddress.host = true ∧
      isValidUtf8 message.dataAddress.host = true) := by
  refine codes_readMessage roomy (isDomain .registerRequest)
    (fun message : RegisterRequest => message.identity.validate = .ok () ∧
      (message.serviceAddress.host.length ≤ kMaxWireHostBytes ∧
        isValidUtf8 message.serviceAddress.host = true) ∧
      message.dataAddress.host.length ≤ kMaxWireHostBytes ∧
        isValidUtf8 message.dataAddress.host = true) ?_ fun message _ => ?_
  · refine .bounded identity (PeerIdentityHint.codes roomy) (fun _ fits => fits.1) fun _ valid =>
      .bounded serviceAddress (codes_readAddress roomy) (fun _ fits => fits.2.1) fun _ service =>
      .bounded dataAddress (codes_readAddress roomy) (fun _ fits => fits.2.2) fun _ data =>
      .field inventoryDigest .digest fun _ => .pure (fun message => ?_) ⟨valid, service, data⟩
    rcases message with ⟨⟩
    simp only [mk.injEq, true_and, and_assoc]
  · simp only [validate, check_bind_eq_ok]
    constructor
    · rintro ⟨⟨valid, service, data, digest⟩, serviceText, dataText⟩
      exact ⟨⟨valid, ⟨requireAddress_host service, serviceText⟩, requireAddress_host data, dataText⟩,
        valid, service, data, digest⟩
    · rintro ⟨⟨_, ⟨_, serviceText⟩, _, dataText⟩, valid⟩
      exact ⟨valid, serviceText, dataText⟩

theorem CodedAnswer.codes (isDomain : IsDomain name) :
    Codes limits Any (decode name) (encode name)
      (fun message => message.validate = .ok () ∧ message.code.isDeclared = true) := by
  refine codes_readAnswer roomy isDomain code detail ?_ fun message valid => ?_
  · refine .bounded code codes_readReason (fun _ fits => fits.1) fun _ declared =>
      .bounded detail (codes_readDetail roomy) (fun _ fits => fits.2) fun _ short =>
      .pure (fun message => ?_) ⟨declared, short⟩
    rcases message with ⟨⟩
    simp only [mk.injEq, true_and]
  · exact valid

theorem BareRequest.codes (isDomain : IsDomain name) :
    Codes limits Any (decode name) (encode name) (fun message => message.validate = .ok ()) := by
  refine codes_readChecked roomy isDomain ?_
  exact .pure (fun message => iff_of_true trivial rfl) trivial

theorem MovementReference.codes (isDomain : IsDomain name) :
    Codes limits Any (decode name what) (encode name)
      (fun message => message.validate what = .ok ()) := by
  refine codes_readChecked roomy isDomain ?_
  refine .field movementId (FixedId.codes roomy (by decide)) fun _ =>
    .pure (fun message => ?_) trivial
  rcases message with ⟨⟩
  simp only [mk.injEq, true_and]

/-- A record is stored without the bound of its provenance chain. -/
theorem MovementStatus.codes :
    Codes limits Any decode encode (fun message =>
      message.record.provenance.bound = kMaxProvenanceEvents ∧ message.validate = .ok () ∧
        isValidUtf8 message.record.lastDetail = true) := by
  have bounded : Codes limits (fun message : MovementStatus =>
      message.record.provenance.bound = kMaxProvenanceEvents) decode encode
      (fun message => message.validate = .ok () ∧
        isValidUtf8 message.record.lastDetail = true) := by
    refine codes_readMessage roomy (isDomain .movementStatus)
      (fun message : MovementStatus => message.record.validate = .ok () ∧
        isValidUtf8 message.record.lastDetail = true) ?_ fun message _ => ?_
    · refine .bind record (MovementRecord.codes roomy) (fun _ selected => selected)
        (fun _ _ fits => fits) fun record selected valid => .pure (fun message => ?_) valid
      rcases message with ⟨⟩
      simp only [mk.injEq]
      refine and_iff_right_of_imp ?_
      rintro rfl
      exact selected
    · simp only [validate]
      tauto
  exact bounded.unselected

/-! ## Lists -/

theorem MovementList.codes :
    Codes limits Any decode encode (fun message => message.validate = .ok () ∧
      forall summary, summary ∈ message.movements -> summary.lastReason.isDeclared = true) := by
  refine codes_readMessage roomy (isDomain .movementList)
    (fun message : MovementList => message.movements.length ≤ kMaxMovementSummaries ∧
      forall summary, summary ∈ message.movements ->
        summary.validate = .ok () ∧ summary.lastReason.isDeclared = true) ?_ fun message _ => ?_
  · refine Codes.cast (.bounded movements (codes_readList (by decide) (MovementSummary.codes roomy))
      (fun _ fits => fits) fun _ fits => .pure (fun message => ?_) fits)
      (fun _ _ => rfl) (fun _ _ => Iff.rfl)
    rcases message with ⟨⟩
    simp only [mk.injEq, true_and]
  · simp only [validate, check_bind_eq_ok, refuseWhen_eq_ok, validateAll_eq_ok,
      decide_eq_false_iff_not, gt_iff_lt, Nat.not_lt]
    constructor
    · rintro ⟨⟨short, valid⟩, declared⟩
      exact ⟨⟨short, fun summary inside => ⟨valid summary inside, declared summary inside⟩⟩,
        short, valid⟩
    · rintro ⟨⟨_, both⟩, short, valid⟩
      exact ⟨⟨short, valid⟩, fun summary inside => (both summary inside).2⟩

theorem ProvenanceReport.codes :
    Codes limits Any decode encode
      (fun message => message.validate = .ok () ∧ message.code.isDeclared = true) := by
  refine codes_readMessage roomy (isDomain .provenanceReport)
    (fun message : ProvenanceReport => message.code.isDeclared = true ∧
      message.events.length ≤ kMaxProvenanceEvents ∧
      forall event, event ∈ message.events -> event.validate = .ok ()) ?_ fun message _ => ?_
  · refine .field movementId (FixedId.codes roomy (by decide)) fun _ =>
      .bounded code codes_readReason (fun _ fits => fits.1) fun _ declared =>
      .bounded events (codes_readList (by decide) (ProvenanceEvent.codes roomy))
        (fun _ fits => fits.2) fun _ valid =>
      .pure (fun message => ?_) ⟨declared, valid⟩
    rcases message with ⟨⟩
    simp only [mk.injEq, true_and, and_assoc]
  · simp only [validate, check_bind_eq_ok, refuseWhen_eq_ok, decide_eq_false_iff_not, gt_iff_lt,
      Nat.not_lt]
    constructor
    · rintro ⟨⟨named, short, valid⟩, declared⟩
      exact ⟨⟨declared, short, valid_of_validateEvents valid⟩, named, short, valid⟩
    · rintro ⟨⟨declared, _⟩, valid⟩
      exact ⟨valid, declared⟩

/-! ## Topology and policy -/

/-- The texts of a registration are within the bounds of the wire. -/
def EndpointRegistration.Sendable (registration : EndpointRegistration) : Prop :=
  (registration.serviceAddress.host.length ≤ kMaxWireHostBytes ∧
    isValidUtf8 registration.serviceAddress.host = true) ∧
  (registration.dataAddress.host.length ≤ kMaxWireHostBytes ∧
    isValidUtf8 registration.dataAddress.host = true) ∧
  registration.contract.length ≤ kMaxWireContractBytes ∧
    isValidUtf8 registration.contract = true

theorem EndpointRegistration.codes :
    Codes limits Any readRegistration writeRegistration (fun registration =>
      (registration.endpoint.isEmpty = false ∧
        registration.incarnation.endpoint.isEmpty = false) ∧ registration.Sendable) := by
  refine .bounded endpoint (codes_readEndpoint roomy) (fun _ fits => fits.1.1) fun _ named =>
    .bounded incarnation (codes_readIncarnation roomy) (fun _ fits => fits.1.2) fun _ known =>
    .bounded serviceAddress (codes_readAddress roomy) (fun _ fits => fits.2.1) fun _ service => ?_
  refine .bounded dataAddress (codes_readAddress roomy) (fun _ fits => fits.2.2.1) fun _ data =>
    .bounded contract (.boundedText roomy (by decide)) (fun _ fits => fits.2.2.2) fun _ short => ?_
  refine .field capabilityDigest .digest fun _ => .field registeredUnixMillis .i64 fun _ =>
    .field live .boolean fun _ =>
    .pure (fun registration => ?_) ⟨⟨named, known⟩, service, data, short⟩
  rcases registration with ⟨⟩
  simp only [mk.injEq, true_and, and_assoc]

theorem TopologyReport.codes :
    Codes limits Any decode encode (fun message => message.validate = .ok () ∧
      forall registration, registration ∈ message.endpoints -> registration.Sendable) := by
  refine codes_readMessage roomy (isDomain .topologyReport)
    (fun message : TopologyReport => message.coordinator.endpoint.isEmpty = false ∧
      message.endpoints.length ≤ kMaxEndpoints ∧
      forall registration, registration ∈ message.endpoints ->
        (registration.endpoint.isEmpty = false ∧
          registration.incarnation.endpoint.isEmpty = false) ∧ registration.Sendable)
    ?_ fun message _ => ?_
  · refine .field topologyGeneration codes_readGeneration fun _ =>
      .bounded coordinator (codes_readIncarnation roomy) (fun _ fits => fits.1) fun _ named =>
      .bounded endpoints (codes_readList (by decide) (EndpointRegistration.codes roomy))
        (fun _ fits => fits.2) fun _ fits =>
      .pure (fun message => ?_) ⟨named, fits⟩
    rcases message with ⟨⟩
    simp only [mk.injEq, true_and, and_assoc]
  · simp only [validate, check_bind_eq_ok, refuseWhen_eq_ok, validateAll_eq_ok, Bool.not_eq_false',
      Incarnation.isSet_iff, decide_eq_false_iff_not, gt_iff_lt, Nat.not_lt]
    constructor
    · rintro ⟨⟨generation, known, short, valid⟩, sendable⟩
      exact ⟨⟨known.1, short, fun registration inside =>
        ⟨EndpointRegistration.named_of_validate (valid registration inside),
          sendable registration inside⟩⟩, generation, known, short, valid⟩
    · rintro ⟨⟨_, _, both⟩, valid⟩
      exact ⟨valid, fun registration inside => (both registration inside).2⟩

theorem PolicyReport.codes :
    Codes limits Any decode encode (fun message => message.validate = .ok ()) := by
  refine codes_readMessage roomy (isDomain .policyReport)
    (fun message : PolicyReport => message.policy.validate = .ok ()) ?_ fun message _ => ?_
  · refine .bounded policy PolicySet.codes (fun _ fits => fits) fun _ valid =>
      .field policyDigest .digest fun _ => .pure (fun message => ?_) valid
    rcases message with ⟨⟩
    simp only [mk.injEq, true_and]
  · simp only [validate, check_bind_eq_ok]
    tauto

end Messages

end StateMovementFabric
