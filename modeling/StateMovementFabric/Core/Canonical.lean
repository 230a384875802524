import StateMovementFabric.Core.Codes
import StateMovementFabric.Core.Movement

namespace StateMovementFabric

open Foundation CanonicalDecoder CanonicalEncoder

/-!
# The encodings of the core types

Identities, enumerations, endpoints, object descriptors, provenance and movement records
each have one encoding per value, and a decoder accepts nothing else.
-/

/-- In a table of all values in the order of their numbers, a value stands at its own
number. -/
theorem number_of_table {α : Type} {table : List α} (number : α -> Nat)
    (numbered : table.map number = List.range table.length) {place : Nat} {value : α}
    (found : table[place]? = some value) : number value = place := by
  have mapped : (table.map number)[place]? = some (number value) := by
    rw [List.getElem?_map, found, Option.map_some]
  rw [numbered] at mapped
  rcases List.getElem?_eq_some_iff.mp mapped with ⟨_, same⟩
  rw [List.getElem_range] at same
  exact same.symm

/-! ## Enumerations -/

theorem StateKind.ofUInt8_eq_some {raw : UInt8} {kind : StateKind} :
    ofUInt8 raw = some kind ↔ kind.toUInt8 = raw := by
  constructor
  · intro found
    exact UInt8.toNat_inj.mp
      (number_of_table (fun kind => kind.toUInt8.toNat) (by decide) found)
  · rintro rfl
    cases kind <;> rfl

theorem StateKind.toUInt8_inj {first second : StateKind} :
    first.toUInt8 = second.toUInt8 ↔ first = second := by
  rw [← ofUInt8_eq_some, ofUInt8_eq_some.mpr rfl, Option.some.injEq, eq_comm]

theorem MovementState.ofUInt8_eq_some {raw : UInt8} {state : MovementState} :
    ofUInt8 raw = some state ↔ state.toUInt8 = raw := by
  constructor
  · intro found
    exact UInt8.toNat_inj.mp
      (number_of_table (fun state => state.toUInt8.toNat) (by decide) found)
  · rintro rfl
    cases state <;> rfl

theorem MovementState.toUInt8_inj {first second : MovementState} :
    first.toUInt8 = second.toUInt8 ↔ first = second := by
  rw [← ofUInt8_eq_some, ofUInt8_eq_some.mpr rfl, Option.some.injEq, eq_comm]

theorem ProvenanceEventKind.ofUInt8_eq_some {raw : UInt8} {kind : ProvenanceEventKind} :
    ofUInt8 raw = some kind ↔ kind.toUInt8 = raw := by
  constructor
  · intro found
    exact UInt8.toNat_inj.mp
      (number_of_table (fun kind => kind.toUInt8.toNat) (by decide) found)
  · rintro rfl
    cases kind <;> rfl

theorem ProvenanceEventKind.toUInt8_inj {first second : ProvenanceEventKind} :
    first.toUInt8 = second.toUInt8 ↔ first = second := by
  rw [← ofUInt8_eq_some, ofUInt8_eq_some.mpr rfl, Option.some.injEq, eq_comm]

namespace ReasonCode

theorem ofUInt16_toNat (code : ReasonCode) : ofUInt16 (UInt16.ofNat code.toNat) = code := by
  cases code with
  | unnamed offset =>
      have bound := offset.isLt
      have back : (UInt16.ofNat (130 + offset.val)).toNat = 130 + offset.val :=
        UInt16.toNat_ofNat_of_lt' (by change 130 + offset.val < 65536; omega)
      change ofUInt16 (UInt16.ofNat (130 + offset.val)) = _
      unfold ofUInt16
      rw [dif_pos (by omega)]
      exact congrArg unnamed (Fin.ext (show (UInt16.ofNat (130 + offset.val)).toNat - 130 =
        offset.val by omega))
  | _ => rfl

theorem toNat_ofUInt16 (raw : UInt16) : (ofUInt16 raw).toNat = raw.toNat := by
  unfold ofUInt16
  split
  · rename_i above
    change 130 + (raw.toNat - 130) = raw.toNat
    omega
  · rename_i below
    have inside : raw.toNat < named.length := by
      change raw.toNat < 130
      omega
    have found : named[raw.toNat]? = some (named.getD raw.toNat .OK) := by
      rw [List.getD_eq_getElem?_getD, List.getElem?_eq_getElem inside, Option.getD_some]
    exact number_of_table toNat (by decide +kernel) found

/-- A code and its number determine each other. -/
theorem eq_ofUInt16 {code : ReasonCode} {raw : UInt16} :
    UInt16.ofNat code.toNat = raw ↔ code = ofUInt16 raw := by
  constructor
  · rintro rfl
    exact (ofUInt16_toNat code).symm
  · rintro rfl
    rw [toNat_ofUInt16, UInt16.ofNat_toNat]

end ReasonCode

/-! ## Fields -/

section Fields

variable {limits : DecodeLimits}

theorem FixedId.codes {tag : IdTag} {width : Nat} (roomy : Roomy limits)
    (narrow : width ≤ 32) :
    Codes limits Any (FixedId.decode : Decode (FixedId tag width)) FixedId.encode Any := by
  have blobs := roomy.blobs
  simp only [kMaxChunkBytes] at blobs
  have raw : Codes limits Any (blob width) blob
      (fun value => value.length ≤ width) := .blob (by omega) (by omega)
  refine (Codes.settled FixedId.bytes raw (fun _ _ => trivial) ?_).cast (fun _ _ => rfl)
    (fun id _ => iff_of_true (Nat.le_of_eq id.bytes_length) trivial)
  intro found _ _ before id after
  by_cases wide : found.length = width
  · simp only [ne_eq, wide, not_true_eq_false, if_false]
    apply Codes.run_check_part
    rw [FixedId.fromBytes, dif_pos wide, Except.ok.injEq, true_and, FixedId.ext_iff, eq_comm]
  · simp only [ne_eq, wide, not_false_eq_true, if_true]
    constructor
    · intro refused
      cases refused
    · rintro ⟨_, _, rfl⟩
      exact absurd id.bytes_length wide

theorem Generation.codes {tag : GenerationTag} :
    Codes limits Any (do
      let raw ← u64
      return (⟨raw⟩ : Generation tag)) (fun generation => u64 generation.value)
      Any := by
  refine Codes.through Generation.value .u64 (fun _ _ => trivial) ?_
  intro raw _ _ generation
  constructor
  · rintro ⟨_, rfl⟩
    rfl
  · rintro rfl
    exact ⟨trivial, rfl⟩

variable {endpoint : EndpointId} {name : Text} {event : ProvenanceEvent}

/-- A name is parsed as the endpoint that has it. -/
theorem EndpointId.parse_eq_ok :
    parse name = .ok endpoint ↔ endpoint.isEmpty = false ∧ endpoint.value = name := by
  constructor
  · intro parsed
    unfold parse at parsed
    split at parsed
    · cases parsed
    rename_i inhabited
    split at parsed
    · cases parsed
    split at parsed
    · cases parsed
    split at parsed
    · cases parsed
      exact ⟨Bool.eq_false_iff.mpr inhabited, rfl⟩
    · cases parsed
  · rintro ⟨named, rfl⟩
    exact parse_value named

/-- An optional name is parsed as the endpoint that has it. -/
theorem ProvenanceEvent.decodeActor_eq_ok {actor : EndpointId} :
    decodeActor name = .ok actor ↔ actor.value = name := by
  unfold decodeActor
  split
  · rename_i empty
    rw [List.isEmpty_iff] at empty
    subst empty
    rw [Except.ok.injEq]
    constructor
    · rintro rfl
      rfl
    · rcases actor with ⟨value, checked⟩
      rintro rfl
      rfl
  · rename_i inhabited
    rw [EndpointId.parse_eq_ok]
    refine ⟨fun both => both.2, fun same => ⟨?_, same⟩⟩
    rw [EndpointId.isEmpty, same]
    exact Bool.eq_false_iff.mpr inhabited

/-- Endpoint names are within the bounds of the codec. -/
theorem EndpointId.fits (endpoint : EndpointId) :
    endpoint.value.length ≤ kMaxEndpointIdBytes ∧ isValidUtf8 endpoint.value = true :=
  ⟨endpoint.length_value, endpoint.isValidUtf8_value⟩

theorem EndpointId.codes_name (roomy : Roomy limits) :
    Codes limits Any (text kMaxEndpointIdBytes) text
      (fun value => value.length ≤ kMaxEndpointIdBytes ∧ isValidUtf8 value = true) :=
  .boundedText roomy (by decide)

theorem MovementRecord.codes_decodeEndpoint (roomy : Roomy limits) :
    Codes limits Any decodeEndpoint (fun endpoint => text endpoint.value)
      (fun endpoint => endpoint.isEmpty = false) := by
  have named : Codes limits (fun endpoint : EndpointId => endpoint.isEmpty = false) decodeEndpoint
      (fun endpoint => text endpoint.value) _ :=
    .settled EndpointId.value (EndpointId.codes_name roomy) (fun _ _ => trivial)
      fun name _ _ before endpoint after => Codes.run_check_part EndpointId.parse_eq_ok
  exact named.unselected.cast (fun _ _ => rfl) fun endpoint _ => and_iff_left endpoint.fits

/-! ## Object descriptors -/

theorem FixedId.asDigest_eq {tag : IdTag} {id : FixedId tag 32} {digest : Digest} :
    id.asDigest = digest ↔ id = .fromDigest digest := by
  constructor
  · rintro rfl
    rfl
  · rintro rfl
    rfl

theorem Generation.value_eq {tag : GenerationTag} {generation : Generation tag} {raw : UInt64} :
    generation.value = raw ↔ generation = ⟨raw⟩ := by
  constructor
  · rintro rfl
    rfl
  · rintro rfl
    rfl

theorem StateObjectDescriptor.codes (roomy : Roomy limits) :
    Codes limits Any decode encode (fun object => object.validate = .ok ()) := by
  refine .field (fun object : StateObjectDescriptor => object.objectId.asDigest) .digest
    fun objectId => .field (fun object : StateObjectDescriptor => object.kind.toUInt8) .u8
    fun rawKind => ?_
  cases kinds : StateKind.ofUInt8 rawKind with
  | none =>
      refine Codes.fail fun object selected => ?_
      rw [StateKind.ofUInt8_eq_some.mpr selected.2] at kinds
      cases kinds
  | some kind =>
      rw [← StateKind.ofUInt8_eq_some.mp kinds]
      simp only [pure_bind]
      refine .bounded name (.boundedText roomy (Nat.le_refl _)) (fun _ valid => ?_) fun name _ => ?_
      · exact (texts_of_validate valid).1.symm
      refine .field (fun object : StateObjectDescriptor => object.generation.value) .u64
        fun generation => .field contentDigest .digest fun contentDigest =>
        .field totalBytes .u64 fun totalBytes => .field chunkBytes .u64 fun chunkBytes =>
        .field chunkCount .u32 fun chunkCount =>
        .field createdUnixMillis .i64 fun createdUnixMillis => ?_
      refine .bounded producer (.boundedText roomy (Nat.le_refl _)) (fun _ valid => ?_)
        fun producer _ => ?_
      · exact (texts_of_validate valid).2.symm
      refine .field repeatable .boolean fun repeatable => .checked (fun object => ?_) Iff.rfl
      rcases object with ⟨⟩
      simp only [mk.injEq, true_and, and_assoc, FixedId.asDigest_eq, StateKind.toUInt8_inj,
        Generation.value_eq]

/-! ## Provenance -/

theorem ProvenanceEvent.detail_of_validate (valid : event.validate = .ok ()) :
    event.detail.length ≤ kMaxDetailBytes ∧ isValidUtf8 event.detail = true := by
  simp only [validate, refuseWhen_bind_eq_ok, refuseWhen_eq_ok, decide_eq_false_iff_not,
    Nat.not_lt, gt_iff_lt, Bool.and_eq_false_imp, Bool.not_eq_true', Bool.not_eq_false'] at valid
  rcases valid with ⟨_, _, _, short, utf8⟩
  refine ⟨short, ?_⟩
  by_cases empty : event.detail = []
  · rw [empty]
    rfl
  · exact utf8 (List.isEmpty_eq_false_iff.mpr empty)

theorem ProvenanceEvent.codes (roomy : Roomy limits) :
    Codes limits Any decode encode (fun event => event.validate = .ok ()) := by
  refine .field sequence .u64 fun sequence => .field unixMillis .i64 fun unixMillis =>
    .field (fun event : ProvenanceEvent => event.kind.toUInt8) .u8 fun rawKind => ?_
  cases kinds : ProvenanceEventKind.ofUInt8 rawKind with
  | none =>
      refine Codes.fail fun object selected => ?_
      rw [ProvenanceEventKind.ofUInt8_eq_some.mpr selected.2] at kinds
      cases kinds
  | some kind =>
      rw [← ProvenanceEventKind.ofUInt8_eq_some.mp kinds]
      simp only [pure_bind]
      refine .field (fun event : ProvenanceEvent => event.state.toUInt8) .u8 fun rawState => ?_
      cases states : MovementState.ofUInt8 rawState with
      | none =>
          refine Codes.fail fun object selected => ?_
          rw [MovementState.ofUInt8_eq_some.mpr selected.2] at states
          cases states
      | some state =>
          rw [← MovementState.ofUInt8_eq_some.mp states]
          dsimp only
          refine .field (fun event : ProvenanceEvent => event.movementGeneration.value) .u64
            fun generation => .field (fun event : ProvenanceEvent =>
              UInt16.ofNat event.reason.toNat) .u16 fun reason => ?_
          refine .bounded (fun event : ProvenanceEvent => event.actor.value)
            (EndpointId.codes_name roomy) (fun event _ => event.actor.fits) fun name _ => ?_
          refine .check actor (fun event => and_congr_right fun _ =>
            decodeActor_eq_ok.symm) fun actor _ => ?_
          refine .field actorBoot (FixedId.codes roomy (by decide)) fun actorBoot => ?_
          refine .field (fun event : ProvenanceEvent => event.actorEpoch.value) .u64 fun actorEpoch => ?_
          refine .field attempt (FixedId.codes roomy (by decide)) fun attempt => ?_
          refine .field evidence .digest fun evidence => ?_
          refine .bounded detail (.boundedText roomy (by decide))
            (fun _ => detail_of_validate) fun detail _ => ?_
          refine .checked (fun event => ?_) Iff.rfl
          rcases event with ⟨⟩
          simp only [mk.injEq, true_and, and_assoc, ProvenanceEventKind.toUInt8_inj,
            MovementState.toUInt8_inj, Generation.value_eq, ReasonCode.eq_ofUInt16]

namespace ProvenanceChain

variable {chain longer : ProvenanceChain}

/-- An event that already has the next number is appended as it is. -/
theorem append_eq_ok (numbered : event.sequence.toNat = chain.events.length + 1) :
    chain.append event = .ok longer ↔
      chain.events.length < chain.bound ∧ event.validate = .ok () ∧
        longer.events = chain.events ++ [event] ∧ longer.bound = chain.bound := by
  have next : event.sequence = chain.nextSequence := by
    rw [← UInt64.toNat_inj, numbered, nextSequence_toNat]
  have started : (event.sequence == 0) = false := by
    rw [beq_eq_false_iff_ne]
    intro zero
    rw [zero] at numbered
    cases numbered
  unfold append
  simp only [started, Bool.false_eq_true, if_false]
  by_cases room : chain.events.length < chain.bound
  · rw [dif_pos room, dif_pos next]
    split
    · rename_i valid
      simp only [started, Bool.false_eq_true, if_false] at valid
      rw [Except.ok.injEq]
      constructor
      · rintro rfl
        refine ⟨room, valid, ?_, rfl⟩
        simp only [push]
      · rintro ⟨_, _, sameEvents, sameBound⟩
        refine ext_events ?_ sameBound.symm
        rw [sameEvents]
        simp only [push]
    · rename_i status refused
      simp only [started, Bool.false_eq_true, if_false] at refused
      simp [refused]
  · simp [room, refuse]

/-- The events behind the first ones are numbered on. -/
theorem sequence_of_append {later : List ProvenanceEvent}
    (grown : longer.events = chain.events ++ event :: later) :
    event.sequence.toNat = chain.events.length + 1 := by
  have numbered := longer.numbered
  rw [grown, List.map_append, List.map_cons] at numbered
  have place := congrArg (fun numbers : List Nat => numbers[chain.events.length]?) numbered
  simp only [List.getElem?_append_right, List.length_map, Nat.le_refl, Nat.sub_self,
    List.getElem?_cons_zero, List.length_append, List.length_cons] at place
  rw [List.getElem?_range' (by omega), Option.some.injEq] at place
  omega

theorem codes_decodeEvents (roomy : Roomy limits) (left : Nat) (chain : ProvenanceChain)
    (default : chain.bound = kMaxProvenanceEvents) :
    Codes limits (fun longer => longer.bound = kMaxProvenanceEvents ∧ exists later,
        later.length = left ∧ longer.events = chain.events ++ later)
      (decodeEvents left chain)
      (fun longer => (longer.events.drop chain.events.length).flatMap ProvenanceEvent.encode)
      Any := by
  -- the events of a chain are read one by one, each onto the chain of those before it
  induction left generalizing chain with
  | zero =>
      constructor
      · rintro longer ⟨bounded, later, none, same⟩ _
        rw [List.length_eq_zero_iff.mp none, List.append_nil] at same
        rw [ext_events same (bounded.trans default.symm), List.drop_length]
        exact Reads.pure chain
      · intro input longer after ran
        cases ran
        refine ⟨⟨default, [], rfl, (List.append_nil _).symm⟩, trivial, input, ?_, rfl⟩
        rw [List.drop_length]
        rfl
  | succ left ih =>
      constructor
      · rintro longer ⟨bounded, later, counted, same⟩ _
        rcases later with _ | ⟨event, later⟩
        · cases counted
        have numbered := sequence_of_append same
        have valid : event.validate = .ok () := longer.checked event (by simp [same])
        have room : chain.events.length < chain.bound := by
          have short := longer.length_le
          rw [same, List.length_append, List.length_cons] at short
          omega
        cases appended : chain.append event with
        | error status =>
            have next : event.sequence = chain.nextSequence := by
              rw [← UInt64.toNat_inj, numbered, nextSequence_toNat]
            have grows : chain.append event = .ok (chain.push event room next valid) :=
              (append_eq_ok numbered).mpr ⟨room, valid, rfl, rfl⟩
            rw [appended] at grows
            cases grows
        | ok grown =>
            rcases (append_eq_ok numbered).mp appended with ⟨_, _, grownEvents, grownBound⟩
            have rest := (ih grown (grownBound.trans default)).reads longer
              ⟨bounded, later, Nat.succ.inj counted, by rw [grownEvents, same]; simp⟩ trivial
            rw [same, List.drop_left, List.flatMap_cons]
            refine .bind ((ProvenanceEvent.codes roomy).reads event trivial valid) ?_
            rw [if_neg (not_not_intro numbered)]
            refine .checked appended ?_
            rw [same, grownEvents] at rest
            simpa using rest
      · intro input longer after ran
        rcases run_bind_eq_ok.mp ran with ⟨event, between, ranEvent, ran⟩
        rcases (ProvenanceEvent.codes roomy).takes input event between ranEvent with
          ⟨_, valid, rest, rfl, rfl⟩
        split at ran
        · cases ran
        rename_i numbered
        rw [not_not] at numbered
        rcases run_bind_eq_ok.mp ran with ⟨grown, same, appended, ran⟩
        rcases run_check_eq_ok.mp appended with ⟨accepted, rfl⟩
        rcases (append_eq_ok numbered).mp accepted with ⟨_, _, grownEvents, grownBound⟩
        rcases (ih grown (grownBound.trans default)).takes rest longer after ran with
          ⟨⟨bounded, later, counted, same⟩, _, last, rfl, left⟩
        have whole : longer.events = chain.events ++ event :: later := by
          rw [same, grownEvents, List.append_assoc]
          rfl
        refine ⟨⟨bounded, event :: later, by rw [List.length_cons, counted], whole⟩, trivial, last,
          ?_, left⟩
        rw [whole, grownEvents, List.drop_left, List.flatMap_cons]
        simp

theorem codes (roomy : Roomy limits) :
    Codes limits (fun chain => chain.bound = kMaxProvenanceEvents) decode encode Any := by
  have counted : kMaxProvenanceEvents < 4294967296 := by decide
  refine .bind (fun chain : ProvenanceChain => chain.events.length) (.count counted)
    (fun _ _ => trivial) (fun chain _ _ => chain.length_le) fun number _ _ => ?_
  refine (Codes.settled id (codes_decodeEvents roomy number empty rfl) ?_ ?_).cast
    (fun chain _ => rfl) (fun _ _ => Iff.rfl)
  · rintro chain ⟨bounded, counted⟩
    exact ⟨bounded, chain.events, counted, rfl⟩
  · rintro chain ⟨bounded, later, counted, same⟩ _ before found after
    have short : ¬chain.events.length > chain.bound := by
      rw [bounded, Nat.not_lt]
      exact chain.length_le
    have whole : chain.events.length = number := by
      rw [same, ← counted]
      rfl
    simp only [if_neg short]
    change Except.ok (chain, before) = Except.ok (found, after) ↔ _
    rw [Except.ok.injEq, Prod.mk.injEq, and_comm]
    refine and_congr_right fun _ => ⟨?_, fun selected => selected.2.symm⟩
    rintro rfl
    exact ⟨⟨bounded, whole⟩, rfl⟩

end ProvenanceChain

/-! ## Movement records -/

theorem Incarnation.isSet_iff {tag : IncarnationTag} {incarnation : Incarnation tag} :
    incarnation.isSet = true ↔ incarnation.endpoint.isEmpty = false ∧
      incarnation.boot.isZero = false ∧ incarnation.epoch.isSet = true := by
  simp only [isSet, Bool.and_eq_true, Bool.not_eq_true', and_assoc]

theorem Incarnation.make_eq_ok {tag : IncarnationTag} {boot : BootId} {epoch : IncarnationEpoch}
    {incarnation : Incarnation tag} :
    Incarnation.make endpoint boot epoch = .ok incarnation ↔
      incarnation.isSet = true ∧ incarnation = ⟨endpoint, boot, epoch⟩ := by
  simp only [make, refuseWhen_bind_eq_ok, Bool.not_eq_false']
  constructor
  · rintro ⟨started, named, booted, made⟩
    cases made
    exact ⟨isSet_iff.mpr ⟨named, booted, started⟩, rfl⟩
  · rintro ⟨set, rfl⟩
    rcases isSet_iff.mp set with ⟨named, booted, started⟩
    exact ⟨started, named, booted, rfl⟩

namespace MovementRecord

theorem codes_decodeState : Codes limits Any decodeState
    (fun state => u8 state.toUInt8) Any := by
  refine .settled MovementState.toUInt8 .u8 (fun _ _ => trivial) fun raw _ _ before state after => ?_
  rw [true_and, ← MovementState.ofUInt8_eq_some]
  cases MovementState.ofUInt8 raw with
  | none => exact iff_of_false nofun nofun
  | some found =>
      change Except.ok (found, before) = Except.ok (state, after) ↔ _
      rw [Except.ok.injEq, Prod.mk.injEq, and_comm, Option.some.injEq]

theorem codes_decodeIncarnations (roomy : Roomy limits) :
    Codes limits Any decodeIncarnations
      (fun pair => encodeIncarnation pair.1 ++ encodeIncarnation pair.2)
      (fun pair => pair.1.isSet = true ∧ pair.2.isSet = true) := by
  have set : Codes limits (fun pair : SourceIncarnation × DestinationIncarnation =>
      pair.1.isSet = true ∧ pair.2.isSet = true) decodeIncarnations
      (fun pair => [text pair.1.endpoint.value, pair.1.boot.encode,
        u64 pair.1.epoch.value, text pair.2.endpoint.value,
        pair.2.boot.encode, u64 pair.2.epoch.value].flatten) Any := by
    refine .bounded (fun pair : SourceIncarnation × DestinationIncarnation => pair.1.endpoint.value)
      (EndpointId.codes_name roomy) (fun pair _ => pair.1.endpoint.fits) fun sourceName _ => ?_
    refine .field (fun pair : SourceIncarnation × DestinationIncarnation => pair.1.boot)
      (FixedId.codes roomy (by decide)) fun sourceBoot => ?_
    refine .field (fun pair : SourceIncarnation × DestinationIncarnation => pair.1.epoch.value)
      .u64 fun sourceEpoch => ?_
    refine .bounded (fun pair : SourceIncarnation × DestinationIncarnation => pair.2.endpoint.value)
      (EndpointId.codes_name roomy) (fun pair _ => pair.2.endpoint.fits) fun destinationName _ => ?_
    refine .field (fun pair : SourceIncarnation × DestinationIncarnation => pair.2.boot)
      (FixedId.codes roomy (by decide)) fun destinationBoot => ?_
    refine .field (fun pair : SourceIncarnation × DestinationIncarnation => pair.2.epoch.value)
      .u64 fun destinationEpoch => ?_
    refine .check (fun pair : SourceIncarnation × DestinationIncarnation => pair.1.endpoint)
      (fun pair => iff_self_and.mpr fun selected => ?_) fun sourceParsed parsedSource => ?_
    · rcases selected with ⟨⟨⟨⟨⟨⟨⟨set, _⟩, rfl⟩, _⟩, _⟩, _⟩, _⟩, _⟩
      exact EndpointId.parse_eq_ok.mpr ⟨(Incarnation.isSet_iff.mp set).1, rfl⟩
    refine .check (fun pair : SourceIncarnation × DestinationIncarnation => pair.2.endpoint)
      (fun pair => iff_self_and.mpr fun selected => ?_) fun destinationParsed parsedDestination => ?_
    · rcases selected with ⟨⟨⟨⟨⟨⟨⟨⟨_, set⟩, _⟩, _⟩, _⟩, rfl⟩, _⟩, _⟩, _⟩
      exact EndpointId.parse_eq_ok.mpr ⟨(Incarnation.isSet_iff.mp set).1, rfl⟩
    refine .check (fun pair : SourceIncarnation × DestinationIncarnation => pair.1)
      (fun pair => iff_self_and.mpr fun selected => ?_) fun source madeSource => ?_
    · rcases selected with ⟨⟨⟨⟨⟨⟨⟨⟨⟨set, _⟩, _⟩, rfl⟩, rfl⟩, _⟩, _⟩, _⟩, rfl⟩, _⟩
      exact Incarnation.make_eq_ok.mpr ⟨set, rfl⟩
    refine .check (fun pair : SourceIncarnation × DestinationIncarnation => pair.2)
      (fun pair => iff_self_and.mpr fun selected => ?_) fun destination madeDestination => ?_
    · rcases selected with ⟨⟨⟨⟨⟨⟨⟨⟨⟨⟨_, set⟩, _⟩, _⟩, _⟩, _⟩, rfl⟩, rfl⟩, _⟩, rfl⟩, _⟩
      exact Incarnation.make_eq_ok.mpr ⟨set, rfl⟩
    refine .pure (fun pair => ?_) trivial
    rcases EndpointId.parse_eq_ok.mp parsedSource with ⟨_, rfl⟩
    rcases EndpointId.parse_eq_ok.mp parsedDestination with ⟨_, rfl⟩
    rcases Incarnation.make_eq_ok.mp madeSource with ⟨setSource, rfl⟩
    rcases Incarnation.make_eq_ok.mp madeDestination with ⟨setDestination, rfl⟩
    constructor
    · rintro ⟨⟨_, first⟩, second⟩
      exact Prod.ext first second
    · rintro rfl
      simp [setSource, setDestination]
  refine set.unselected.cast (fun pair _ => ?_) fun pair _ => and_iff_left trivial
  simp [encodeIncarnation]

/-- The records a decoder accepts, with the one field that is not stored. -/
theorem codes (roomy : Roomy limits) :
    Codes limits (fun record => record.provenance.bound = kMaxProvenanceEvents) decode encode
      (fun record => record.validate = .ok () ∧ isValidUtf8 record.lastDetail = true) := by
  refine .field id (FixedId.codes roomy (by decide)) fun id => ?_
  refine .field (fun record : MovementRecord => record.generation.value) .u64 fun generation => ?_
  refine .bounded object (StateObjectDescriptor.codes roomy)
    (fun _ fitting => (validate_eq_ok.mp fitting.1).object) fun object _ => ?_
  refine .bounded source (codes_decodeEndpoint roomy)
    (fun _ fitting => (validate_eq_ok.mp fitting.1).source) fun source _ => ?_
  refine .bounded destination (codes_decodeEndpoint roomy)
    (fun _ fitting => (validate_eq_ok.mp fitting.1).destination) fun destination _ => ?_
  refine Codes.cast (.bounded (fun record : MovementRecord =>
      (record.sourceIncarnation, record.destinationIncarnation))
    (codes_decodeIncarnations roomy) (fun record fitting => ?_) fun incarnations _ => ?_)
    (fun record _ => List.append_assoc (encodeIncarnation record.sourceIncarnation)
      (encodeIncarnation record.destinationIncarnation) _) (fun _ _ => Iff.rfl)
  · exact ⟨(validate_eq_ok.mp fitting.1).sourceSet, (validate_eq_ok.mp fitting.1).destinationSet⟩
  refine .field (fun record : MovementRecord => record.compatibilityGeneration.value) .u64
    fun compatibilityGeneration => .field compatibilityEvidence .digest
    fun compatibilityEvidence => ?_
  refine .field (fun record : MovementRecord => record.topologyGeneration.value) .u64
    fun topologyGeneration => ?_
  refine .field (fun record : MovementRecord => record.policyGeneration.value) .u64
    fun policyGeneration => .field state codes_decodeState fun state => ?_
  refine .field (fun record : MovementRecord => UInt16.ofNat record.lastReason.toNat) .u16
    fun lastReason => ?_
  refine .bounded lastDetail (.boundedText roomy (by decide))
    (fun _ fitting => ⟨(validate_eq_ok.mp fitting.1).detail, fitting.2⟩) fun lastDetail detail => ?_
  refine .field attempt (FixedId.codes roomy (by decide)) fun attempt =>
    .field attemptCount .u32 fun attemptCount => .field bytesTransferred .u64
    fun bytesTransferred => .field chunksVerified .u32 fun chunksVerified => ?_
  refine .field sourceVerifiedDigest .digest fun sourceVerifiedDigest =>
    .field destinationVerifiedDigest .digest fun destinationVerifiedDigest =>
    .field commitMarkerDigest .digest fun commitMarkerDigest => ?_
  refine .field createdUnixMillis .i64 fun createdUnixMillis =>
    .field updatedUnixMillis .i64 fun updatedUnixMillis =>
    .field repeatable .boolean fun repeatable => .field cancelRequested .boolean
    fun cancelRequested => ?_
  refine .bind provenance (ProvenanceChain.codes roomy) ?_ (fun _ _ _ => trivial)
    fun provenance default _ => ?_
  · intro record selected
    simp only [and_assoc] at selected
    exact selected.1
  refine .checked (fun record => ?_) (and_iff_left detail.2)
  rcases record with ⟨⟩
  rcases incarnations with ⟨⟩
  simp only [mk.injEq, and_assoc, Prod.mk.injEq, Generation.value_eq, ReasonCode.eq_ofUInt16]
  refine and_iff_right_of_imp fun fields => ?_
  rw [fields.2.2.2.2.2.2.2.2.2.2.2.2.2.2.2.2.2.2.2.2.2.2.2.2.2]
  exact default

end MovementRecord

end Fields

end StateMovementFabric
