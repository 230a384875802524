import StateMovementFabric.Foundation.SelfDelimiting
import StateMovementFabric.Core.Canonical

namespace StateMovementFabric

open Foundation

/-!
# The canonical encoding is unambiguous

What is hashed or signed is never decoded, so nothing bounds or checks its fields.  The
canonical encoding still shows where every field ends: integers, ids and digests have a
width of their own, and a text is preceded by its length.  The one condition is that the
length of a text can be written down, which a `std::string` guarantees.
-/

/-- A text that a `std::string` can hold. -/
def Text.Holdable (text : Text) : Prop := text.length < 18446744073709551616

instance (text : Text) : Decidable text.Holdable := inferInstanceAs (Decidable (_ < _))

namespace CanonicalEncoder

theorem selfDelimiting_u8 : SelfDelimiting Any u8 := by
  refine .of_width (fun _ _ => rfl) ?_
  intro first second _ _ same
  exact List.singleton_inj.mp same

theorem selfDelimiting_boolean : SelfDelimiting Any boolean := by
  refine .of_width (fun _ _ => rfl) ?_
  intro first second _ _ same
  cases first <;> cases second <;> first | rfl | cases same

theorem selfDelimiting_u32 : SelfDelimiting Any u32 :=
  (selfDelimiting_storeLe 4).comap UInt32.toNat (fun value _ => value.toNat_lt)
    fun _ _ _ _ same => UInt32.toNat_inj.mp same

theorem selfDelimiting_u64 : SelfDelimiting Any u64 :=
  (selfDelimiting_storeLe 8).comap UInt64.toNat (fun value _ => value.toNat_lt)
    fun _ _ _ _ same => UInt64.toNat_inj.mp same

theorem selfDelimiting_i64 : SelfDelimiting Any i64 :=
  selfDelimiting_u64.comap Int64.toUInt64 (fun _ _ => trivial)
    fun first second _ _ same => by
      rw [← Int64.toInt64_toUInt64 first, same, Int64.toInt64_toUInt64]

theorem selfDelimiting_text : SelfDelimiting Text.Holdable text :=
  (selfDelimiting_storeLe 8).counted

theorem selfDelimiting_digest : SelfDelimiting Any digest := by
  refine .of_width (fun value _ => value.width) ?_
  rintro ⟨first, _⟩ ⟨second, _⟩ _ _ same
  cases show first = second from same
  rfl

end CanonicalEncoder

open CanonicalEncoder

theorem FixedId.selfDelimiting {tag : IdTag} {width : Nat} (narrow : width < 18446744073709551616) :
    SelfDelimiting Any (@FixedId.encode tag width) := by
  refine selfDelimiting_text.comap FixedId.bytes ?_ ?_
  · intro id _
    rw [Text.Holdable, id.bytes_length]
    exact narrow
  · rintro ⟨first, _⟩ ⟨second, _⟩ _ _ same
    cases show first = second from same
    rfl

theorem EndpointId.selfDelimiting :
    SelfDelimiting Any fun endpoint : EndpointId => CanonicalEncoder.text endpoint.value := by
  refine selfDelimiting_text.comap EndpointId.value ?_ ?_
  · intro endpoint _
    have short : endpoint.value.length ≤ 63 := endpoint.length_value
    rw [Text.Holdable]
    omega
  · rintro ⟨first, _⟩ ⟨second, _⟩ _ _ same
    cases show first = second from same
    rfl

theorem Generation.selfDelimiting {tag : GenerationTag} :
    SelfDelimiting Any fun generation : Generation tag =>
      CanonicalEncoder.u64 generation.value := by
  refine selfDelimiting_u64.comap Generation.value (fun _ _ => trivial) ?_
  rintro ⟨first⟩ ⟨second⟩ _ _ same
  cases show first = second from same
  rfl

theorem Incarnation.selfDelimiting {tag : IncarnationTag} :
    SelfDelimiting Any (@MovementRecord.encodeIncarnation tag) := by
  intro first second _ _ rest other same
  simp only [MovementRecord.encodeIncarnation, List.flatten_cons, List.flatten_nil,
    List.append_nil, List.append_assoc] at same
  rcases EndpointId.selfDelimiting _ _ trivial trivial _ _ same with ⟨endpoint, same⟩
  rcases FixedId.selfDelimiting (by decide) _ _ trivial trivial _ _ same with ⟨boot, same⟩
  rcases Generation.selfDelimiting _ _ trivial trivial _ _ same with ⟨epoch, rests⟩
  refine ⟨?_, rests⟩
  cases first
  cases second
  simp only [Incarnation.mk.injEq]
  exact ⟨endpoint, boot, epoch⟩

/-- The texts of a descriptor are ones that a `std::string` can hold. -/
def StateObjectDescriptor.Holdable (object : StateObjectDescriptor) : Prop :=
  Text.Holdable object.name ∧ Text.Holdable object.producer

theorem StateObjectDescriptor.selfDelimiting :
    SelfDelimiting StateObjectDescriptor.Holdable StateObjectDescriptor.encode := by
  intro first second firstHeld secondHeld rest other same
  simp only [encode, List.flatten_cons, List.flatten_nil, List.append_nil, List.append_assoc] at same
  rcases selfDelimiting_digest _ _ trivial trivial _ _ same with ⟨objectId, same⟩
  rcases selfDelimiting_u8 _ _ trivial trivial _ _ same with ⟨kind, same⟩
  rcases selfDelimiting_text _ _ firstHeld.1 secondHeld.1 _ _ same with ⟨name, same⟩
  rcases Generation.selfDelimiting _ _ trivial trivial _ _ same with ⟨generation, same⟩
  rcases selfDelimiting_digest _ _ trivial trivial _ _ same with ⟨contentDigest, same⟩
  rcases selfDelimiting_u64 _ _ trivial trivial _ _ same with ⟨totalBytes, same⟩
  rcases selfDelimiting_u64 _ _ trivial trivial _ _ same with ⟨chunkBytes, same⟩
  rcases selfDelimiting_u32 _ _ trivial trivial _ _ same with ⟨chunkCount, same⟩
  rcases selfDelimiting_i64 _ _ trivial trivial _ _ same with ⟨created, same⟩
  rcases selfDelimiting_text _ _ firstHeld.2 secondHeld.2 _ _ same with ⟨producer, same⟩
  rcases selfDelimiting_boolean _ _ trivial trivial _ _ same with ⟨repeatable, rests⟩
  have ids : first.objectId = second.objectId := by
    rw [FixedId.asDigest_eq] at objectId
    exact objectId
  refine ⟨?_, rests⟩
  rw [StateKind.toUInt8_inj] at kind
  cases first
  cases second
  simp only [StateObjectDescriptor.mk.injEq]
  exact ⟨ids, kind, name, generation, contentDigest, totalBytes, chunkBytes, chunkCount, created,
    producer, repeatable⟩

end StateMovementFabric
