import Mathlib.Algebra.Order.Floor.Div
import StateMovementFabric.Core.Movement
import StateMovementFabric.Core.Segmentation

namespace StateMovementFabric

/-!
# Creating a descriptor

`create` derives the object id, computes the chunk count and leaves every other check to
`validate`.  The count is a quotient, and it is taken before the chunk size is looked at.
The model of `create` computes with total functions; here the same call is run as the machine
runs it, where a quotient by zero has no value.
-/

/-- The arguments of `create`. -/
structure Creation where
  kind : StateKind
  name : Text
  generation : StateGeneration
  contentDigest : Digest
  totalBytes : UInt64
  chunkBytes : UInt64
  createdUnixMillis : Millis
  producer : Text

namespace Creation

open StateObjectDescriptor

/-- `create` with these arguments, where every quotient has a value. -/
def create (arguments : Creation) : Result StateObjectDescriptor :=
  StateObjectDescriptor.create arguments.kind arguments.name arguments.generation
    arguments.contentDigest arguments.totalBytes arguments.chunkBytes arguments.createdUnixMillis
    arguments.producer

/-- `ceil_div` on the machine: `none` is a division by zero. -/
def machineCeilDiv (numerator denominator : UInt64) : Option UInt64 :=
  if denominator == 0 then none else some ((numerator + denominator - 1) / denominator)

/-- The descriptor that `create` puts together. -/
def descriptor (arguments : Creation) (objectId : StateObjectId) (chunks : UInt64) :
    StateObjectDescriptor :=
  { objectId := objectId
    kind := arguments.kind
    name := arguments.name
    generation := arguments.generation
    contentDigest := arguments.contentDigest
    totalBytes := arguments.totalBytes
    chunkBytes := arguments.chunkBytes
    chunkCount := chunks.toUInt32
    createdUnixMillis := arguments.createdUnixMillis
    producer := arguments.producer
    repeatable := true }

/-- `create` on the machine; `none` is a division by zero.  The quotient that `validate`
takes stands behind its check of the chunk size. -/
def run (arguments : Creation) : Option (Result StateObjectDescriptor) :=
  match deriveStateObjectId arguments.kind arguments.name with
  | .error status => some (.error status)
  | .ok objectId =>
      let chunks :=
        if arguments.totalBytes == 0 then some 0
        else machineCeilDiv arguments.totalBytes arguments.chunkBytes
      chunks.map fun chunks => do
        let created := arguments.descriptor objectId chunks
        created.validate
        return created

/-- The name and the producer are valid texts, and the derived id is not the zero digest. -/
structure Named (arguments : Creation) : Prop where
  present : arguments.name ≠ []
  short : arguments.name.length ≤ 4096
  text : isValidUtf8 arguments.name = true
  producerShort : arguments.producer.length ≤ 4096
  producerText : isValidUtf8 arguments.producer = true
  distinct : forall id, deriveStateObjectId arguments.kind arguments.name = .ok id ->
    id.isZero = false

/-- The arguments for which there is a descriptor. -/
def Describable (arguments : Creation) : Prop :=
  arguments.generation.isSet = true ∧ arguments.contentDigest.isZero = false ∧
    arguments.totalBytes.toNat ≤ 2 ^ 40 ∧
    (2 ^ 10 ≤ arguments.chunkBytes.toNat ∧ arguments.chunkBytes.toNat ≤ 2 ^ 26) ∧
    arguments.totalBytes.toNat ⌈/⌉ arguments.chunkBytes.toNat ≤ 2 ^ 24

/-- The call never divides by zero, succeeds exactly where there is a descriptor, and has then
computed the chunk count without wrapping or truncating it. -/
def Safe (arguments : Creation) : Prop :=
  exists result, arguments.run = some result ∧
    ((exists object, result = .ok object) ↔ arguments.Describable) ∧
    forall object, result = .ok object ->
      arguments.totalBytes.toNat + arguments.chunkBytes.toNat < 2 ^ 64 ∧
        object.totalBytes = arguments.totalBytes ∧ object.chunkBytes = arguments.chunkBytes ∧
        object.chunkCount.toNat = arguments.totalBytes.toNat ⌈/⌉ arguments.chunkBytes.toNat

section Calls

variable {arguments : Creation}

theorem exists_objectId (named : arguments.Named) :
    exists id, deriveStateObjectId arguments.kind arguments.name = .ok id := by
  have present : arguments.name.isEmpty = false := by
    rw [List.isEmpty_eq_false_iff]
    exact named.present
  have short : ¬ arguments.name.length > 4096 := Nat.not_lt.mpr named.short
  rw [deriveStateObjectId, present, if_neg Bool.false_ne_true, if_neg short, named.text]
  exact ⟨_, rfl⟩

/-- Where the quotient has a value, the machine computes what the model computes. -/
theorem run_eq_create (divides : arguments.chunkBytes ≠ 0 ∨ arguments.totalBytes = 0) :
    arguments.run = some arguments.create := by
  have chunks : (if arguments.totalBytes == 0 then some 0
      else machineCeilDiv arguments.totalBytes arguments.chunkBytes) =
      some (expectedChunks arguments.totalBytes arguments.chunkBytes) := by
    rw [expectedChunks, machineCeilDiv]
    by_cases empty : arguments.totalBytes = 0
    · rw [if_pos (beq_iff_eq.mpr empty), if_pos (beq_iff_eq.mpr empty)]
    · have nonzero : ¬ arguments.chunkBytes = 0 := by
        rcases divides with nonzero | zero
        · exact nonzero
        · exact absurd zero empty
      have filled : (arguments.totalBytes == 0) = false := beq_eq_false_iff_ne.mpr empty
      have cut : (arguments.chunkBytes == 0) = false := beq_eq_false_iff_ne.mpr nonzero
      rw [filled, cut]
      rfl
  rw [run, create, StateObjectDescriptor.create]
  cases deriveStateObjectId arguments.kind arguments.name with
  | error status => rfl
  | ok id =>
      dsimp only
      rw [chunks]
      rfl

/-- Where it has none, the call does not come back. -/
theorem run_eq_none (named : arguments.Named) (zero : arguments.chunkBytes = 0)
    (some : arguments.totalBytes ≠ 0) : arguments.run = none := by
  rcases exists_objectId named with ⟨id, derived⟩
  rw [run, derived]
  dsimp only
  rw [if_neg (by simpa using some), machineCeilDiv, if_pos (beq_iff_eq.mpr zero)]
  rfl

theorem create_eq_ok {id : StateObjectId}
    (derived : deriveStateObjectId arguments.kind arguments.name = .ok id)
    {object : StateObjectDescriptor} :
    arguments.create = .ok object ↔
      object = arguments.descriptor id
          (expectedChunks arguments.totalBytes arguments.chunkBytes) ∧
        object.validate = .ok () := by
  rw [create, StateObjectDescriptor.create, derived, ok_bind, check_bind_eq_ok]
  constructor
  · rintro ⟨valid, returned⟩
    cases returned
    exact ⟨rfl, valid⟩
  · rintro ⟨rfl, valid⟩
    exact ⟨valid, rfl⟩

/-- The chunk count fits into 32 bits once it is within its bound. -/
theorem toUInt64_toUInt32 {chunks : UInt64} (few : chunks.toNat ≤ 16777216) :
    chunks.toUInt32.toUInt64 = chunks := by
  apply UInt64.toNat_inj.mp
  rw [UInt32.toNat_toUInt64, UInt64.toNat_toUInt32]
  exact Nat.mod_eq_of_lt (by omega)

theorem validateIdentity_descriptor (named : arguments.Named) {id : StateObjectId}
    (derived : deriveStateObjectId arguments.kind arguments.name = .ok id) (chunks : UInt64) :
    (arguments.descriptor id chunks).validateIdentity = .ok () := by
  have present : arguments.name.isEmpty = false := by
    rw [List.isEmpty_eq_false_iff]
    exact named.present
  have short : ¬ 4096 < arguments.name.length := Nat.not_lt.mpr named.short
  rw [validateIdentity]
  simp only [descriptor, named.distinct id derived, present, named.text, derived,
    kMaxObjectNameBytes, kMaxTextBytes, gt_iff_lt, short, decide_false, Bool.not_true,
    refuseWhen_false, ok_bind, bne_self_eq_false]

/-- A descriptor is valid exactly where there is one. -/
theorem validate_descriptor (named : arguments.Named) {id : StateObjectId}
    (derived : deriveStateObjectId arguments.kind arguments.name = .ok id) :
    (arguments.descriptor id
        (expectedChunks arguments.totalBytes arguments.chunkBytes)).validate = .ok () ↔
      arguments.Describable := by
  have producerShort : ¬ 4096 < arguments.producer.length := Nat.not_lt.mpr named.producerShort
  rw [validate, validateIdentity_descriptor named derived, ok_bind, refuseWhen_bind_eq_ok,
    refuseWhen_bind_eq_ok, check_bind_eq_ok, refuseWhen_bind_eq_ok, refuseWhen_eq_ok,
    validateSizes_eq_ok, Bool.not_eq_false']
  simp only [descriptor, kMaxTextBytes, gt_iff_lt, producerShort, decide_false,
    named.producerText, Bool.not_true, Bool.and_false, and_true]
  refine and_congr_right fun _ => and_congr_right fun _ => and_congr_right fun total =>
    and_congr_right fun range => ?_
  rw [Nat.ceilDiv_eq_add_pred_div, ← toNat_expectedChunks total range.1 range.2]
  constructor
  · rintro ⟨few, -⟩
    exact few
  · intro few
    exact ⟨few, (toUInt64_toUInt32 few).symm⟩

/-- The call is safe exactly if it is not asked to cut bytes into chunks of no size. -/
theorem safe_iff (named : arguments.Named) :
    arguments.Safe ↔ arguments.chunkBytes ≠ 0 ∨ arguments.totalBytes = 0 := by
  rcases exists_objectId named with ⟨id, derived⟩
  constructor
  · rintro ⟨result, returned, -⟩
    by_contra trapped
    rw [not_or, not_not] at trapped
    rw [run_eq_none named trapped.1 trapped.2] at returned
    cases returned
  · intro divides
    refine ⟨arguments.create, run_eq_create divides, ?_, ?_⟩
    · simp only [create_eq_ok derived, exists_eq_left]
      exact validate_descriptor named derived
    · intro object created
      rcases (create_eq_ok derived).mp created with ⟨rfl, valid⟩
      have sized := sized_of_validate valid
      have count := sized.count
      exact ⟨sized.partitioned.rounding, rfl, rfl, count⟩

end Calls

/-- The object whose only byte is `1`, in chunks of a given size. -/
def oneByte (chunkBytes : UInt64) : Creation where
  kind := .GENERIC_BLOB
  name := ascii "o"
  generation := ⟨1⟩
  contentDigest := oneByteDigest
  totalBytes := 1
  chunkBytes := chunkBytes
  createdUnixMillis := 1
  producer := []

theorem named_oneByte (chunkBytes : UInt64) : (oneByte chunkBytes).Named := by
  have derived : deriveStateObjectId .GENERIC_BLOB (ascii "o") = .ok oneByteObjectId := by
    decide +kernel
  have name : ascii "o" ≠ [] ∧ (ascii "o").length ≤ 4096 ∧ isValidUtf8 (ascii "o") = true := by
    decide
  refine ⟨name.1, name.2.1, name.2.2, Nat.zero_le _, rfl, ?_⟩
  intro id isDerived
  cases derived.symm.trans isDerived
  decide

theorem safe_oneByte : (oneByte 1024).Named ∧ (oneByte 1024).Safe :=
  ⟨named_oneByte 1024, (safe_iff (named_oneByte 1024)).mpr (.inl (by decide))⟩

/-- One byte in chunks of no size divides by zero before any size is checked. -/
theorem not_safe_oneByte_uncut : (oneByte 0).Named ∧ ¬ (oneByte 0).Safe := by
  refine ⟨named_oneByte 0, ?_⟩
  rintro ⟨result, returned, -⟩
  rw [run_eq_none (named_oneByte 0) rfl (by decide)] at returned
  cases returned

end Creation

end StateMovementFabric
