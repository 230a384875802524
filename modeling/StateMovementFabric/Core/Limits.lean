import StateMovementFabric.Core.Canonical

namespace StateMovementFabric

open Foundation

/-!
# Decoders that do not feel the blob limit

A byte string is held against the blob limit of its decoder before it is held against the
input that is left.  On an input that is itself within the blob limit the first check
never decides: what is accepted under one such limit is accepted under every other.  The
decoder of a stored record is walked field by field to say so of the whole.
-/

/-- What `decode` accepts does not depend on the blob limit, as long as the input is within
it, and the limits of the decoder are still there afterwards. -/
def Steady {α : Type} (decode : Decode α) : Prop :=
  forall input limits other value after, other.maxTextBytes = limits.maxTextBytes ->
    input.length ≤ other.maxBlobBytes ->
    decode.run ⟨input, limits, false⟩ = .ok (value, after) ->
    exists rest, after = ⟨rest, limits, false⟩ ∧ rest.length ≤ input.length ∧
      decode.run ⟨input, other, false⟩ = .ok (value, ⟨rest, other, false⟩)

namespace Steady

variable {α β : Type}

theorem pure (value : α) : Steady (Pure.pure value : Decode α) := by
  intro input limits other found after _ _ ran
  cases ran
  exact ⟨input, rfl, Nat.le_refl _, rfl⟩

theorem fail (code : ReasonCode) (message : String) :
    Steady (CanonicalDecoder.fail code message : Decode α) := by
  intro input limits other found after _ _ ran
  cases ran

theorem check (result : Result α) : Steady (CanonicalDecoder.check result) := by
  intro input limits other value after _ _ ran
  rcases run_check_eq_ok.mp ran with ⟨passed, rfl⟩
  exact ⟨input, rfl, Nat.le_refl _, run_check_eq_ok.mpr ⟨passed, rfl⟩⟩

/-- The input only gets shorter, so the second decoder also runs within the limit. -/
theorem bind {first : Decode α} {next : α -> Decode β} (steadyFirst : Steady first)
    (steadyNext : forall value, Steady (next value)) : Steady (first >>= next) := by
  intro input limits other result after texts within ran
  rcases run_bind_eq_ok.mp ran with ⟨value, between, ranFirst, ranNext⟩
  rcases steadyFirst input limits other value between texts within ranFirst with
    ⟨rest, rfl, shorter, sameFirst⟩
  rcases steadyNext value rest limits other result after texts (Nat.le_trans shorter within)
    ranNext with ⟨last, left, shortest, sameNext⟩
  exact ⟨last, left, Nat.le_trans shortest shorter,
    run_bind_eq_ok.mpr ⟨value, ⟨rest, other, false⟩, sameFirst, sameNext⟩⟩

theorem ite {condition : Prop} [Decidable condition] {yes no : Decode α} (steadyYes : Steady yes)
    (steadyNo : Steady no) : Steady (if condition then yes else no) := by
  by_cases holds : condition
  · rw [if_pos holds]
    exact steadyYes
  · rw [if_neg holds]
    exact steadyNo

/-- Nothing follows a refusal. -/
theorem refused (code : ReasonCode) (message : String) (next : α -> Decode β) :
    Steady (CanonicalDecoder.fail code message >>= next) := by
  intro input limits other found after _ _ ran
  cases ran

/-! ## The fields -/

theorem fixed (width : Nat) (what : String) : Steady (CanonicalDecoder.fixed width what) := by
  intro input limits other value after _ _ ran
  have unfolded : forall held : DecodeLimits,
      (CanonicalDecoder.fixed width what).run ⟨input, held, false⟩ =
        if input.length < width then CanonicalDecoder.boundsFailure false what
        else .ok (input.take width, ⟨input.drop width, held, false⟩) := by
    intro held
    change (if false || decide (input.length < width) then _ else _) = _
    simp only [Bool.false_or, decide_eq_true_eq]
  rw [unfolded] at ran
  by_cases short : input.length < width
  · rw [if_pos short] at ran
    cases ran
  · rw [if_neg short] at ran
    cases ran
    refine ⟨input.drop width, rfl, ?_, ?_⟩
    · rw [List.length_drop]
      exact Nat.sub_le _ _
    · rw [unfolded, if_neg short]

theorem u8 : Steady CanonicalDecoder.u8 :=
  .bind (fixed 1 _) fun _ => pure _

theorem u16 : Steady CanonicalDecoder.u16 :=
  .bind (fixed 2 _) fun _ => pure _

theorem u32 : Steady CanonicalDecoder.u32 :=
  .bind (fixed 4 _) fun _ => pure _

theorem u64 : Steady CanonicalDecoder.u64 :=
  .bind (fixed 8 _) fun _ => pure _

theorem i64 : Steady CanonicalDecoder.i64 :=
  .bind u64 fun _ => pure _

theorem boolean : Steady CanonicalDecoder.boolean :=
  .bind u8 fun _ => .ite (fail _ _) (pure _)

theorem digest : Steady CanonicalDecoder.digest :=
  .bind (fixed 32 _) fun _ => check _

theorem count (maxCount : Nat) : Steady (CanonicalDecoder.count maxCount) :=
  .bind u32 fun _ => .ite (fail _ _) (pure _)

/-- The payload of a byte string whose length has been read. -/
theorem payload (maxBytes length : Nat) : Steady (do
    let decoder ← get
    if length > min maxBytes decoder.limits.maxBlobBytes then
      CanonicalDecoder.fail .PROTOCOL_BOUNDS_EXCEEDED
        "declared blob length exceeds the permitted maximum"
    else if length > decoder.remaining.length then
      CanonicalDecoder.fail .PROTOCOL_TRUNCATED "declared blob length exceeds the remaining input"
    else
      set { decoder with remaining := decoder.remaining.drop length }
      return decoder.remaining.take length : Decode Bytes) := by
  intro input limits other value after _ within ran
  change (if length > min maxBytes limits.maxBlobBytes then _
    else if length > input.length then _ else _ : Decode Bytes).run ⟨input, limits, false⟩ =
      _ at ran
  change exists rest, after = _ ∧ _ ∧ (if length > min maxBytes other.maxBlobBytes then _
    else if length > input.length then _ else _ : Decode Bytes).run ⟨input, other, false⟩ = _
  by_cases long : length > min maxBytes limits.maxBlobBytes
  · rw [if_pos long] at ran
    cases ran
  · rw [if_neg long] at ran
    by_cases missing : length > input.length
    · rw [if_pos missing] at ran
      cases ran
    · rw [if_neg missing] at ran
      have admitted : ¬length > min maxBytes other.maxBlobBytes := by omega
      cases ran
      refine ⟨input.drop length, rfl, ?_, ?_⟩
      · rw [List.length_drop]
        exact Nat.sub_le _ _
      · rw [if_neg admitted, if_neg missing]
        rfl

theorem blob (maxBytes : Nat) : Steady (CanonicalDecoder.blob maxBytes) :=
  .bind u64 fun length => payload maxBytes length.toNat

/-- The text limit is read from the decoder, and it is the same on both sides. -/
theorem text (maxBytes : Nat) : Steady (CanonicalDecoder.text maxBytes) := by
  intro input limits other value after texts within ran
  have fixedLimit : Steady (do
      let raw ← CanonicalDecoder.blob (min maxBytes limits.maxTextBytes)
      if isValidUtf8 raw then return raw
      else CanonicalDecoder.fail .INVALID_UTF8 "text field is not valid UTF-8" : Decode Text) :=
    .bind (blob _) fun _ => .ite (pure _) (fail _ _)
  rcases fixedLimit input limits other value after texts within ran with
    ⟨rest, left, shorter, same⟩
  refine ⟨rest, left, shorter, ?_⟩
  rw [← same, ← texts]
  rfl

/-! ## The decoder of a record -/

theorem fixedId {tag : IdTag} {width : Nat} : Steady (FixedId.decode : Decode (FixedId tag width)) :=
  .bind (blob _) fun _ => .ite (fail _ _) (check _)

theorem object : Steady StateObjectDescriptor.decode := by
  refine .bind digest fun _ => .bind u8 fun rawKind => ?_
  cases StateKind.ofUInt8 rawKind with
  | none => exact refused _ _ _
  | some kind =>
      refine .bind (pure kind) fun _ => .bind (text _) fun _ => .bind u64 fun _ => ?_
      refine .bind digest fun _ => .bind u64 fun _ => .bind u64 fun _ => .bind u32 fun _ => ?_
      refine .bind i64 fun _ => .bind (text _) fun _ => .bind boolean fun _ => ?_
      exact .bind (check _) fun _ => pure _

theorem event : Steady ProvenanceEvent.decode := by
  refine .bind u64 fun _ => .bind i64 fun _ => .bind u8 fun rawKind => ?_
  cases ProvenanceEventKind.ofUInt8 rawKind with
  | none => exact refused _ _ _
  | some kind =>
      refine .bind (pure kind) fun _ => .bind u8 fun rawState => ?_
      cases MovementState.ofUInt8 rawState with
      | none => exact refused _ _ _
      | some state =>
          refine .bind (pure state) fun _ => .bind u64 fun _ => .bind u16 fun _ => ?_
          refine .bind (text _) fun _ => .bind (check _) fun _ => .bind fixedId fun _ => ?_
          refine .bind u64 fun _ => .bind fixedId fun _ => .bind digest fun _ => ?_
          exact .bind (text _) fun _ => .bind (check _) fun _ => pure _

/-- By induction on the number of events that are left. -/
theorem events (left : Nat) (chain : ProvenanceChain) :
    Steady (ProvenanceChain.decodeEvents left chain) := by
  induction left generalizing chain with
  | zero => exact pure chain
  | succ left ih =>
      exact .bind event fun _ => .ite (fail _ _) (.bind (check _) fun longer => ih longer)

theorem chain : Steady ProvenanceChain.decode :=
  .bind (count _) fun number => .bind (events number _) fun _ => .ite (fail _ _) (pure _)

theorem endpoint : Steady MovementRecord.decodeEndpoint :=
  .bind (text _) fun _ => check _

theorem incarnations : Steady MovementRecord.decodeIncarnations := by
  refine .bind (text _) fun _ => .bind fixedId fun _ => .bind u64 fun _ => ?_
  refine .bind (text _) fun _ => .bind fixedId fun _ => .bind u64 fun _ => ?_
  exact .bind (check _) fun _ => .bind (check _) fun _ => .bind (check _) fun _ =>
    .bind (check _) fun _ => pure _

theorem state : Steady MovementRecord.decodeState := by
  refine .bind u8 fun raw => ?_
  cases MovementState.ofUInt8 raw with
  | none => exact fail _ _
  | some state => exact pure state

theorem record : Steady MovementRecord.decode := by
  refine .bind fixedId fun _ => .bind u64 fun _ => .bind object fun _ => .bind endpoint fun _ => ?_
  refine .bind endpoint fun _ => .bind incarnations fun _ => .bind u64 fun _ => ?_
  refine .bind digest fun _ => .bind u64 fun _ => .bind u64 fun _ => ?_
  refine .bind state fun _ => .bind u16 fun _ => ?_
  refine .bind (text _) fun _ => .bind fixedId fun _ => .bind u32 fun _ => .bind u64 fun _ => ?_
  refine .bind u32 fun _ => .bind digest fun _ => .bind digest fun _ => .bind digest fun _ => ?_
  refine .bind i64 fun _ => .bind i64 fun _ => .bind boolean fun _ => .bind boolean fun _ => ?_
  exact .bind chain fun _ => .bind (check _) fun _ => pure _

end Steady

/-! ## How large a chain is -/

theorem ProvenanceEvent.length_encode_le {event : ProvenanceEvent}
    (valid : event.validate = .ok ()) : event.encode.length ≤ 1300 := by
  have detail : event.detail.length ≤ kMaxDetailBytes := by
    simp only [ProvenanceEvent.validate, check_bind_eq_ok, refuseWhen_eq_ok,
      decide_eq_false_iff_not, gt_iff_lt, Nat.not_lt] at valid
    exact valid.2.2.2.1
  have actor := event.actor.fits
  simp only [kMaxDetailBytes, kMaxEndpointIdBytes] at detail actor
  simp only [ProvenanceEvent.encode, FixedId.encode, List.flatten_cons, List.flatten_nil,
    List.length_append, List.length_nil, CanonicalEncoder.length_u64, CanonicalEncoder.length_i64,
    CanonicalEncoder.length_u8, CanonicalEncoder.length_u16, CanonicalEncoder.length_text,
    CanonicalEncoder.length_digest, CanonicalEncoder.length_blob, FixedId.bytes_length]
  omega

theorem ProvenanceChain.length_encode_le (chain : ProvenanceChain) :
    chain.encode.length ≤ 332804 := by
  have counted := chain.length_le
  have each : forall events : List ProvenanceEvent,
      (forall event, event ∈ events -> event.validate = .ok ()) ->
      (events.flatMap ProvenanceEvent.encode).length ≤ 1300 * events.length := by
    intro events checked
    induction events with
    | nil => exact Nat.le_refl 0
    | cons event rest ih =>
        have first := ProvenanceEvent.length_encode_le (checked event List.mem_cons_self)
        have others := ih fun other member => checked other (List.mem_cons_of_mem _ member)
        rw [List.flatMap_cons, List.length_append, List.length_cons]
        omega
  have all := each chain.events chain.checked
  rw [kMaxProvenanceEvents] at counted
  rw [ProvenanceChain.encode, List.length_append, CanonicalEncoder.length_u32]
  omega

/-- Whatever was appended to a chain is read back, whatever bound the chain was built with. -/
theorem ProvenanceChain.decodeAll_encode (chain : ProvenanceChain) {limits : DecodeLimits}
    (texts : kMaxTextBytes ≤ limits.maxTextBytes)
    (blobs : chain.encode.length ≤ limits.maxBlobBytes)
    (inputs : chain.encode.length ≤ limits.maxInputBytes) :
    exists decoded, decodeAll ProvenanceChain.decode chain.encode limits = .ok decoded ∧
      decoded.events = chain.events := by
  let whole : ProvenanceChain :=
    { chain with bound := kMaxProvenanceEvents, bound_le := Nat.le_refl _ }
  let roomy : DecodeLimits := { limits with maxBlobBytes := kMaxChunkBytes }
  have reading := (@ProvenanceChain.codes roomy ⟨texts, Nat.le_refl _⟩).reads whole rfl trivial []
  rw [List.append_nil] at reading
  rcases Steady.chain whole.encode roomy limits whole _ rfl blobs reading with ⟨rest, _, _, other⟩
  refine ⟨whole, ?_, rfl⟩
  have within : ¬chain.encode.length > limits.maxInputBytes := Nat.not_lt.mpr inputs
  unfold decodeAll CanonicalDecoder.start
  rw [decide_eq_false within]
  exact congrArg (Except.map Prod.fst) other

end StateMovementFabric
