import StateMovementFabric.Core.Canonical
import StateMovementFabric.Wire.Messages

namespace StateMovementFabric

open Foundation Wire

/-!
# Messages that are read back

What `encode` writes, `decode` reads back, provided that the message passes its own
check.  The fields are read one after the other, so the proof follows the list of
fields.
-/

namespace Reads

variable {limits : DecodeLimits}

theorem generation {tag : GenerationTag} (value : Generation tag) :
    Reads limits readGeneration (CanonicalEncoder.u64 value.value) value := by
  intro rest
  rw [readGeneration, StateT.run_bind, u64 value.value rest]
  rfl

theorem reasonOK : Reads limits readReason (writeReason .OK) .OK := by
  intro rest
  rw [readReason, StateT.run_bind, writeReason, u16 _ rest]
  rfl

end Reads

namespace Wire

/-- A name that can stand as the domain string of a message. -/
structure IsDomain (name : String) : Prop where
  valid : isValidUtf8 (ascii name) = true
  short : (ascii name).length ≤ kMaxWireDomainBytes

theorem reads_checkDomain {limits : DecodeLimits} (roomy : Roomy limits) {name : String}
    (isDomain : IsDomain name) : Reads limits (checkDomain name) (domain name) () := by
  have short := isDomain.short
  have texts := roomy.texts
  have blobs := roomy.blobs
  have bounded : (ascii name).length ≤
      min (min kMaxWireDomainBytes limits.maxTextBytes) limits.maxBlobBytes := by
    simp only [kMaxWireDomainBytes, kMaxObjectNameBytes, kMaxChunkBytes] at *
    omega
  have wide : (ascii name).length < 18446744073709551616 :=
    Nat.lt_of_le_of_lt short (by decide)
  intro rest
  rw [checkDomain, StateT.run_bind, domain, Reads.text isDomain.valid bounded wide rest]
  change (if ascii name ≠ ascii name then _ else _ : Decode Unit).run ⟨rest, limits, false⟩ = _
  rw [if_neg (not_not_intro rfl)]
  rfl

section Messages

variable {α : Type} {name : String} {fields : Decode α} {validate : α -> Result Unit}
  {bytes : Bytes} {message : α}

theorem run_readMessage {limits : DecodeLimits} (roomy : Roomy limits) (isDomain : IsDomain name)
    (reads : Reads limits fields bytes message) (rest : Bytes) :
    (readMessage name fields validate).run ⟨domain name ++ (bytes ++ rest), limits, false⟩ =
      (validate message).map fun _ => (message, ⟨rest, limits, false⟩) := by
  rw [readMessage, StateT.run_bind, reads_checkDomain roomy isDomain (bytes ++ rest)]
  change StateT.run (do
    let message ← fields
    CanonicalDecoder.check (validate message)
    return message) ⟨bytes ++ rest, limits, false⟩ = _
  rw [StateT.run_bind, reads rest]
  change StateT.run (do
    CanonicalDecoder.check (validate message)
    return message) ⟨rest, limits, false⟩ = _
  cases checked : validate message with
  | error status => rfl
  | ok passed => rfl

/-- A message is read back if it passes its check, and refused with the status of the
check otherwise. -/
theorem decodeMessage_readMessage {type : MessageType} (isDomain : IsDomain name)
    (reads : forall limits, Roomy limits -> Reads limits fields bytes message) :
    decodeMessage (readMessage name fields validate) ⟨type, domain name ++ bytes⟩ =
      (validate message).map fun _ => message := by
  have roomy : Roomy ⟨if (domain name ++ bytes).length > kMaxChunkBytes then
      (domain name ++ bytes).length else kMaxChunkBytes, kMaxObjectNameBytes,
      (domain name ++ bytes).length + 1⟩ := by
    constructor
    · exact Nat.le_refl _
    · change kMaxChunkBytes ≤ if _ then _ else _
      split <;> omega
  have started : forall limits : DecodeLimits, (domain name ++ bytes).length < limits.maxInputBytes ->
      CanonicalDecoder.start (domain name ++ bytes) limits =
        ⟨domain name ++ (bytes ++ []), limits, false⟩ := by
    intro limits small
    rw [CanonicalDecoder.start, List.append_nil, decide_eq_false (by omega)]
  rw [decodeMessage, decodeAll, started _ (Nat.lt_succ_self _), StateT.run_bind,
    run_readMessage roomy isDomain (reads _ roomy) []]
  cases validate message with
  | error status => rfl
  | ok passed => rfl

/-- A message that was decoded has passed its check. -/
theorem validate_of_decodeMessage {frame : Frame}
    (decoded : decodeMessage (readMessage name fields validate) frame = .ok message) :
    validate message = .ok () := by
  rw [decodeMessage, decodeAll] at decoded
  cases ran : StateT.run (do
      let message ← readMessage name fields validate
      CanonicalDecoder.requireEnd
      return message) (.start frame.payload _) with
  | error status =>
      rw [ran] at decoded
      cases decoded
  | ok pair =>
      rw [ran] at decoded
      cases decoded
      rcases run_bind_eq_ok.mp ran with ⟨found, between, read, ended⟩
      rcases run_bind_eq_ok.mp ended with ⟨⟨⟩, last, _, returned⟩
      cases returned
      rcases run_bind_eq_ok.mp read with ⟨⟨⟩, named, _, read⟩
      rcases run_bind_eq_ok.mp read with ⟨filled, checking, _, read⟩
      rcases run_bind_eq_ok.mp read with ⟨⟨⟩, checked, passed, returned⟩
      cases returned
      cases verdict : validate pair.1 with
      | error status =>
          rw [verdict] at passed
          cases passed
      | ok accepted => rfl

end Messages

end Wire

theorem reads_id {tag : IdTag} {width : Nat} {limits : DecodeLimits} (roomy : Roomy limits)
    (narrow : width ≤ 32) (id : FixedId tag width) : Reads limits FixedId.decode id.encode id := by
  have blobs : 67108864 ≤ limits.maxBlobBytes := roomy.blobs
  exact id.reads_decode (by omega) (by omega)

/-! ## Verification messages -/

theorem requireGeneration_eq_ok {tag : GenerationTag} (value : Generation tag) (what : String) :
    requireGeneration value what = .ok () ↔ value.isSet = true := by
  rw [requireGeneration, refuseNaming, refuseWhen_eq_ok, Bool.not_eq_false']

namespace VerifyRequest

theorem validate_eq_ok {question : VerifyRequest} :
    question.validate = .ok () ↔
      question.movementId.isZero = false ∧ question.movementGeneration.isSet = true ∧
        question.objectId.isZero = false ∧ question.objectGeneration.isSet = true := by
  simp only [validate, check_bind_eq_ok, refuseWhen_eq_ok, requireGeneration_eq_ok]

theorem decode_frame (question : VerifyRequest) :
    decodeMessage decode question.frame = question.validate.map fun _ => question := by
  rw [frame, encode, List.flatten_cons, decode]
  refine decodeMessage_readMessage ⟨by decide +kernel, by decide +kernel⟩ (fun limits roomy => ?_)
  simp only [List.flatten_cons, List.flatten_nil]
  exact .bind (reads_id roomy (by decide) _) (.bind (.generation _)
    (.bind (reads_id roomy (by decide) _) (.bind (.generation _) (.bind (.boolean _)
    (.bind (.u32 _) (.bind (.u64 _) (.pure question)))))))

end VerifyRequest

namespace VerifyResponse

theorem validate_eq_ok {answer : VerifyResponse} :
    answer.validate = .ok () ↔
      answer.movementId.isZero = false ∧ answer.objectId.isZero = false ∧
        answer.objectGeneration.isSet = true ∧
        answer.chunkPayload.length ≤ kMaxWireChunkBytes := by
  simp only [validate, check_bind_eq_ok, refuseWhen_eq_ok, requireGeneration_eq_ok,
    decide_eq_false_iff_not, Nat.not_lt, gt_iff_lt]

/-- A favourable answer that passes its check is read back. -/
theorem decode_frame {answer : VerifyResponse} (favourable : answer.code = .OK)
    (checked : answer.validate = .ok ()) :
    decodeMessage decode answer.frame = .ok answer := by
  have short : answer.chunkPayload.length ≤ 1048576 := (validate_eq_ok.mp checked).2.2.2
  have read : decodeMessage decode answer.frame = answer.validate.map fun _ => answer := by
    rw [frame, encode, List.flatten_cons, decode]
    refine decodeMessage_readMessage ⟨by decide +kernel, by decide +kernel⟩ (fun limits roomy => ?_)
    have blobs : 67108864 ≤ limits.maxBlobBytes := roomy.blobs
    have reason : Reads limits readReason (writeReason answer.code) answer.code := by
      rw [favourable]
      exact .reasonOK
    have payload : Reads limits (CanonicalDecoder.blob kMaxWireChunkBytes)
        (CanonicalEncoder.blob answer.chunkPayload) answer.chunkPayload := by
      apply Reads.blob
      · simp only [kMaxWireChunkBytes]
        omega
      · omega
    simp only [List.flatten_cons, List.flatten_nil]
    exact .bind (reads_id roomy (by decide) _) (.bind (reads_id roomy (by decide) _)
      (.bind (.generation _) (.bind reason (.bind (.digest _) (.bind (.u64 _) (.bind (.u32 _)
      (.bind (.u32 _) (.bind (.digest _) (.bind payload (.pure answer))))))))))
  rw [read, checked]
  rfl

end VerifyResponse

end StateMovementFabric
