import StateMovementFabric.Wire.Protocol

namespace StateMovementFabric

open Foundation Wire CanonicalEncoder

/-!
# What a receiver learns of a message

A decoder accepts only the encoding of what it returns.  So when a frame that was made
for one message is accepted as another, the two have the same bytes, and they agree in
every field whose bytes can be told from what follows them.  The sender need not have
checked its message for that.
-/

/-! ## Fields in front of the rest -/

section Fields

variable {rest others : Bytes}

theorem u64_append_inj {value other : UInt64}
    (same : u64 value ++ rest = u64 other ++ others) : value = other ∧ rest = others := by
  rcases List.append_inj same (by rw [length_u64, length_u64]) with ⟨fields, left⟩
  refine ⟨?_, left⟩
  have numbers := congrArg loadLe fields
  rw [u64, u64, loadLe_storeLe_of_lt value.toNat_lt, loadLe_storeLe_of_lt other.toNat_lt] at numbers
  exact UInt64.toNat_inj.mp numbers

theorem boolean_append_inj {value other : Bool}
    (same : boolean value ++ rest = boolean other ++ others) : value = other ∧ rest = others := by
  rcases List.append_inj same rfl with ⟨fields, left⟩
  refine ⟨?_, left⟩
  cases value <;> cases other <;> first | rfl | cases fields

theorem text_append_inj {value other : Text}
    (short : value.length < 18446744073709551616) (alsoShort : other.length < 18446744073709551616)
    (same : text value ++ rest = text other ++ others) : value = other ∧ rest = others := by
  rw [text, text, List.append_assoc, List.append_assoc] at same
  rcases List.append_inj same (by rw [storeLe_length, storeLe_length]) with ⟨lengths, left⟩
  have numbers := congrArg loadLe lengths
  rw [loadLe_storeLe_of_lt short, loadLe_storeLe_of_lt alsoShort] at numbers
  exact List.append_inj left numbers

theorem FixedId.encode_append_inj {tag : IdTag} {width : Nat} {id other : FixedId tag width}
    (same : id.encode ++ rest = other.encode ++ others) : id = other ∧ rest = others := by
  rcases List.append_inj same (by rw [length_encode, length_encode]) with ⟨fields, left⟩
  refine ⟨?_, left⟩
  rw [encode, encode, blob, blob] at fields
  exact FixedId.ext (List.append_inj fields (by rw [storeLe_length, storeLe_length])).2

/-- A descriptor that is not absurdly long is recognized by its version. -/
theorem StateObjectDescriptor.version_of_encode {object other : StateObjectDescriptor}
    (short : (object.encode ++ rest).length < 18446744073709551616)
    (same : object.encode ++ rest = other.encode ++ others) :
    object.objectId = other.objectId ∧ object.generation = other.generation := by
  have alsoShort := same ▸ short
  rw [List.length_append, length_encode] at short alsoShort
  simp only [encode, List.flatten_cons, List.flatten_nil, List.append_assoc] at same
  rcases List.append_inj same (by rw [length_digest, length_digest])
    with ⟨ids, same⟩
  rcases List.append_inj same rfl with ⟨-, same⟩
  rcases text_append_inj (by omega) (by omega) same with ⟨-, same⟩
  exact ⟨FixedId.ext ids, congrArg Generation.mk (u64_append_inj same).1⟩

end Fields

/-! ## Messages -/

theorem AuthorityQuery.eq_of_decode {query found : AuthorityQuery}
    (decoded : decodeMessage decode query.frame = .ok found) : found = query := by
  have same := (decodeMessage_eq_ok fun _ roomy => AuthorityQuery.codes roomy).mp decoded |>.2
  change query.encode = found.encode at same
  simp only [encode, List.flatten_cons, List.flatten_nil] at same
  rcases FixedId.encode_append_inj (List.append_cancel_left same) with ⟨movement, same⟩
  rcases FixedId.encode_append_inj same with ⟨object, same⟩
  have generation := (u64_append_inj same).1
  rcases query with ⟨_, _, ⟨_⟩⟩
  rcases found with ⟨_, _, ⟨_⟩⟩
  cases movement
  cases object
  cases generation
  rfl

/-- What a report says about the marker is received as it was sent. -/
theorem AuthorityReport.marker_of_decode {report found : AuthorityReport}
    (decoded : decodeMessage decode report.frame = .ok found) :
    found.movementId = report.movementId ∧ found.verified = report.verified ∧
      found.markerPresent = report.markerPresent ∧ found.authoritative = report.authoritative := by
  have same := (decodeMessage_eq_ok fun _ roomy => AuthorityReport.codes roomy).mp decoded |>.2
  change report.encode = found.encode at same
  simp only [encode, List.flatten_cons, List.flatten_nil] at same
  rcases FixedId.encode_append_inj (List.append_cancel_left same) with ⟨movement, same⟩
  rcases List.append_inj same (by rw [writeReason, writeReason, length_u16,
    length_u16]) with ⟨-, same⟩
  rcases boolean_append_inj same with ⟨-, same⟩
  rcases boolean_append_inj same with ⟨verified, same⟩
  rcases boolean_append_inj same with ⟨present, same⟩
  exact ⟨movement.symm, verified.symm, present.symm,
    (boolean_append_inj same).1.symm⟩

/-- The movement and the version of a commit are received as they were sent. -/
theorem CommitRequest.version_of_decode {commit found : CommitRequest}
    (decoded : decodeMessage decode commit.frame = .ok found) :
    found.movementId = commit.movementId ∧ found.object.objectId = commit.object.objectId ∧
      found.object.generation = commit.object.generation := by
  rcases (decodeMessage_eq_ok fun _ roomy => CommitRequest.codes roomy).mp decoded with
    ⟨valid, same⟩
  change commit.encode = found.encode at same
  simp only [encode, List.flatten_cons, List.flatten_nil] at same
  rcases FixedId.encode_append_inj (List.append_cancel_left same) with ⟨movement, same⟩
  rcases u64_append_inj same with ⟨-, same⟩
  rcases FixedId.encode_append_inj same with ⟨-, same⟩
  -- what was accepted is short, so what was sent is
  have short : (found.object.encode ++ (text found.source.value ++ [])).length <
      18446744073709551616 := by
    rw [validate] at valid
    rcases check_bind_eq_ok.mp valid with ⟨-, valid⟩
    rcases check_bind_eq_ok.mp valid with ⟨-, valid⟩
    rcases check_bind_eq_ok.mp valid with ⟨-, valid⟩
    rcases StateObjectDescriptor.texts_of_validate valid with ⟨⟨-, name⟩, -, producer⟩
    have source := found.source.length_value
    rw [kMaxEndpointIdBytes] at source
    rw [List.append_nil, List.length_append, StateObjectDescriptor.length_encode,
      length_text]
    omega
  exact ⟨movement.symm, StateObjectDescriptor.version_of_encode short same.symm⟩

end StateMovementFabric
