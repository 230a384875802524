import StateMovementFabric.Core.StateObject

namespace StateMovementFabric
namespace StateObjectDescriptor

/-!
# How a valid object is cut

The bytes of an object are cut into chunks of one size, the last of which may be
shorter.  The machine arithmetic of `chunk_offset` and `chunk_length` cannot overflow
within the bounds that `validate` checks, so both are what the plan on natural numbers
says.
-/

/-- What `validate` says about the sizes. -/
structure Sized (object : StateObjectDescriptor) : Prop where
  total : object.totalBytes.toNat ≤ 1099511627776
  least : 1024 ≤ object.chunkBytes.toNat
  most : object.chunkBytes.toNat ≤ 67108864
  count : object.chunkCount.toNat =
    (object.totalBytes.toNat + object.chunkBytes.toNat - 1) / object.chunkBytes.toNat

/-- Within the bounds the 64-bit sum of `ceil_div` does not wrap. -/
theorem toNat_expectedChunks {totalBytes chunkBytes : UInt64}
    (total : totalBytes.toNat ≤ 1099511627776) (least : 1024 ≤ chunkBytes.toNat)
    (most : chunkBytes.toNat ≤ 67108864) :
    (expectedChunks totalBytes chunkBytes).toNat =
      (totalBytes.toNat + chunkBytes.toNat - 1) / chunkBytes.toNat := by
  rw [expectedChunks]
  split
  · rename_i zero
    rw [beq_iff_eq.mp zero]
    change 0 = (0 + chunkBytes.toNat - 1) / chunkBytes.toNat
    rw [Nat.div_eq_of_lt (by omega)]
  · rw [ceilDiv, UInt64.toNat_div]
    congr 1
    have sum : (totalBytes + chunkBytes).toNat = totalBytes.toNat + chunkBytes.toNat := by
      rw [UInt64.toNat_add]
      exact Nat.mod_eq_of_lt (by omega)
    have one : (1 : UInt64).toNat ≤ (totalBytes + chunkBytes).toNat := by
      rw [sum]
      change 1 ≤ _
      omega
    rw [UInt64.toNat_sub_of_le _ _ (UInt64.le_iff_toNat_le.mpr one), sum]
    rfl

/-- What the size part of `validate` checks. -/
theorem validateSizes_eq_ok {object : StateObjectDescriptor} :
    object.validateSizes = .ok () ↔
      object.totalBytes.toNat ≤ 1099511627776 ∧
        (1024 ≤ object.chunkBytes.toNat ∧ object.chunkBytes.toNat ≤ 67108864) ∧
        (expectedChunks object.totalBytes object.chunkBytes).toNat ≤ 16777216 ∧
        expectedChunks object.totalBytes object.chunkBytes = object.chunkCount.toUInt64 := by
  have nonzero : 1024 ≤ object.chunkBytes.toNat -> (object.chunkBytes == 0) = false := by
    intro least
    rw [beq_eq_false_iff_ne]
    intro zero
    rw [zero] at least
    exact absurd least (by decide)
  rw [validateSizes, refuseWhen_bind_eq_ok, refuseWhen_bind_eq_ok, refuseWhen_bind_eq_ok,
    refuseWhen_bind_eq_ok, refuseWhen_eq_ok, bne_eq_false_iff_eq, Bool.or_eq_false_iff,
    decide_eq_false_iff_not, decide_eq_false_iff_not, decide_eq_false_iff_not,
    decide_eq_false_iff_not, gt_iff_lt, gt_iff_lt, gt_iff_lt, Nat.not_lt, Nat.not_lt, Nat.not_lt,
    Nat.not_lt, kMaxObjectBytes, kMinChunkBytes, kMaxChunkBytes, kMaxChunksPerObject]
  constructor
  · rintro ⟨total, range, -, few, same⟩
    exact ⟨total, range, few, same⟩
  · rintro ⟨total, range, few, same⟩
    exact ⟨total, range, nonzero range.1, few, same⟩

theorem sized_of_validate {object : StateObjectDescriptor} (valid : object.validate = .ok ()) :
    object.Sized := by
  rw [validate] at valid
  rcases check_bind_eq_ok.mp valid with ⟨-, valid⟩
  rcases check_bind_eq_ok.mp valid with ⟨-, valid⟩
  rcases check_bind_eq_ok.mp valid with ⟨-, valid⟩
  rcases check_bind_eq_ok.mp valid with ⟨sizes, -⟩
  rcases validateSizes_eq_ok.mp sizes with ⟨total, ⟨least, most⟩, -, same⟩
  refine ⟨total, least, most, ?_⟩
  rw [← toNat_expectedChunks total least most, same]
  rfl

/-- The number of bytes in the first chunks. -/
def plannedBytes (object : StateObjectDescriptor) (chunks : Nat) : Nat :=
  min (chunks * object.chunkBytes.toNat) object.totalBytes.toNat

section Plan

variable {object : StateObjectDescriptor}

theorem plannedBytes_zero : object.plannedBytes 0 = 0 := by
  rw [plannedBytes, Nat.zero_mul, Nat.zero_min]

theorem plannedBytes_le_total (chunks : Nat) :
    object.plannedBytes chunks ≤ object.totalBytes.toNat := Nat.min_le_right _ _

theorem plannedBytes_mono {fewer more : Nat} (le : fewer ≤ more) :
    object.plannedBytes fewer ≤ object.plannedBytes more := by
  have product := Nat.mul_le_mul_right object.chunkBytes.toNat le
  rw [plannedBytes, plannedBytes]
  omega

theorem plannedBytes_succ_le (chunks : Nat) :
    object.plannedBytes (chunks + 1) ≤ object.plannedBytes chunks + object.chunkBytes.toNat := by
  rw [plannedBytes, plannedBytes, Nat.succ_mul]
  omega

/-- All chunks together hold all bytes. -/
theorem Sized.plannedBytes_count (sized : object.Sized) :
    object.plannedBytes object.chunkCount.toNat = object.totalBytes.toNat := by
  have least := sized.least
  have remainder := Nat.div_add_mod (object.totalBytes.toNat + object.chunkBytes.toNat - 1)
    object.chunkBytes.toNat
  have bound := Nat.mod_lt (object.totalBytes.toNat + object.chunkBytes.toNat - 1)
    (show 0 < object.chunkBytes.toNat by omega)
  rw [plannedBytes, sized.count, Nat.mul_comm]
  omega

/-- A chunk that exists starts inside the object. -/
theorem Sized.lt_total (sized : object.Sized) {index : Nat}
    (inside : index < object.chunkCount.toNat) :
    index * object.chunkBytes.toNat < object.totalBytes.toNat := by
  have least := sized.least
  have below : index + 1 ≤ object.chunkCount.toNat := inside
  have product := Nat.mul_le_mul_right object.chunkBytes.toNat below
  have remainder := Nat.div_mul_le_self (object.totalBytes.toNat + object.chunkBytes.toNat - 1)
    object.chunkBytes.toNat
  rw [← sized.count] at remainder
  rw [Nat.succ_mul] at product
  omega

theorem Sized.plannedBytes_eq (sized : object.Sized) {index : Nat}
    (inside : index < object.chunkCount.toNat) :
    object.plannedBytes index = index * object.chunkBytes.toNat :=
  Nat.min_eq_left (Nat.le_of_lt (sized.lt_total inside))

theorem chunkOffset_eq (sized : object.Sized) {index : UInt32}
    (inside : index < object.chunkCount) :
    object.chunkOffset index = .ok (.ofNat (object.plannedBytes index.toNat)) := by
  have below := UInt32.lt_iff_toNat_lt.mp inside
  have start := sized.lt_total below
  have total := sized.total
  have wide : index.toUInt64.toNat = index.toNat := UInt32.toNat_toUInt64 index
  have product : (index.toUInt64 * object.chunkBytes).toNat =
      index.toNat * object.chunkBytes.toNat := by
    rw [UInt64.toNat_mul, wide]
    exact Nat.mod_eq_of_lt (by omega)
  have multiplied : checkedMul index.toUInt64 object.chunkBytes =
      some (index.toUInt64 * object.chunkBytes) := by
    rw [checkedMul, if_neg]
    rintro ⟨nonzero, beyond⟩
    rw [wide] at nonzero beyond
    have product := Nat.mul_le_mul_left index.toNat (Nat.succ_le_of_lt beyond)
    have enough := Nat.lt_mul_div_succ 18446744073709551615 (Nat.pos_of_ne_zero nonzero)
    rw [Nat.succ_eq_add_one] at product
    omega
  have planned : index.toUInt64 * object.chunkBytes =
      UInt64.ofNat (object.plannedBytes index.toNat) := by
    rw [sized.plannedBytes_eq below, ← product, UInt64.ofNat_toNat]
  have inBounds : ¬ index.toUInt64 * object.chunkBytes ≥ object.totalBytes := by
    rw [ge_iff_le, UInt64.le_iff_toNat_le, product]
    omega
  rw [chunkOffset, if_neg (by rw [ge_iff_le, UInt32.le_iff_toNat_le]; omega), multiplied]
  simp only [if_neg inBounds]
  rw [planned]

/-- The bytes of one chunk, as the plan has it. -/
def plannedLength (object : StateObjectDescriptor) (index : Nat) : Nat :=
  object.plannedBytes (index + 1) - object.plannedBytes index

theorem plannedBytes_add_plannedLength (index : Nat) :
    object.plannedBytes index + object.plannedLength index = object.plannedBytes (index + 1) :=
  Nat.add_sub_cancel' (plannedBytes_mono (Nat.le_succ index))

theorem plannedLength_le (index : Nat) : object.plannedLength index ≤ object.chunkBytes.toNat :=
  Nat.sub_le_iff_le_add'.mpr (plannedBytes_succ_le index)

theorem toNat_plannedBytes (sized : object.Sized) (chunks : Nat) :
    (UInt64.ofNat (object.plannedBytes chunks)).toNat = object.plannedBytes chunks := by
  have total := sized.total
  have planned : object.plannedBytes chunks ≤ _ := plannedBytes_le_total chunks
  exact UInt64.toNat_ofNat_of_lt' (show _ < 18446744073709551616 by omega)

theorem toNat_plannedLength (sized : object.Sized) (index : Nat) :
    (UInt64.ofNat (object.plannedLength index)).toNat = object.plannedLength index := by
  have most := sized.most
  have planned : object.plannedLength index ≤ _ := plannedLength_le index
  exact UInt64.toNat_ofNat_of_lt' (show _ < 18446744073709551616 by omega)

theorem chunkLength_eq (sized : object.Sized) {index : UInt32}
    (inside : index < object.chunkCount) :
    object.chunkLength index = .ok (.ofNat (object.plannedLength index.toNat)) := by
  have below := UInt32.lt_iff_toNat_lt.mp inside
  have start := sized.lt_total below
  have planned := sized.plannedBytes_eq below
  have remaining : (object.totalBytes - UInt64.ofNat (object.plannedBytes index.toNat)).toNat =
      object.totalBytes.toNat - index.toNat * object.chunkBytes.toNat := by
    rw [UInt64.toNat_sub_of_le, toNat_plannedBytes sized, planned]
    rw [UInt64.le_iff_toNat_le, toNat_plannedBytes sized]
    exact plannedBytes_le_total _
  rw [chunkLength, chunkOffset_eq sized inside, ok_bind]
  change Except.ok _ = Except.ok _
  congr 1
  apply UInt64.toNat_inj.mp
  have length : object.plannedLength index.toNat =
      min object.chunkBytes.toNat
        (object.totalBytes.toNat - index.toNat * object.chunkBytes.toNat) := by
    rw [plannedLength, planned, plannedBytes, Nat.succ_mul]
    omega
  rw [toNat_plannedLength sized, length]
  split
  · rename_i last
    rw [UInt64.lt_iff_toNat_lt, remaining] at last
    rw [remaining]
    omega
  · rename_i inner
    rw [UInt64.lt_iff_toNat_lt, remaining] at inner
    omega

/-- Outside the object there is no chunk. -/
theorem chunkOffset_outside {index : UInt32} (outside : ¬ index < object.chunkCount) :
    object.chunkOffset index =
      refuse .CHUNK_INDEX_OUT_OF_RANGE "chunk index is outside the object" := by
  rw [chunkOffset, if_pos (by rw [ge_iff_le]; exact UInt32.not_lt.mp outside)]

theorem chunkLength_outside {index : UInt32} (outside : ¬ index < object.chunkCount) :
    object.chunkLength index =
      refuse .CHUNK_INDEX_OUT_OF_RANGE "chunk index is outside the object" := by
  rw [chunkLength, chunkOffset_outside outside]
  rfl

/-- No chunk is empty, and only the last one is shorter than the others. -/
theorem Sized.plannedLength_pos (sized : object.Sized) {index : Nat}
    (inside : index < object.chunkCount.toNat) : 0 < object.plannedLength index := by
  have start := sized.lt_total inside
  have least := sized.least
  rw [plannedLength, sized.plannedBytes_eq inside, plannedBytes, Nat.succ_mul]
  omega

theorem Sized.plannedLength_eq (sized : object.Sized) {index : Nat}
    (inside : index + 1 < object.chunkCount.toNat) :
    object.plannedLength index = object.chunkBytes.toNat := by
  rw [plannedLength, sized.plannedBytes_eq inside, sized.plannedBytes_eq (Nat.lt_of_succ_lt inside),
    Nat.succ_mul]
  exact Nat.add_sub_cancel_left _ _

/-- Every byte of the object is in a chunk. -/
theorem Sized.exists_planned (sized : object.Sized) {position : Nat}
    (inside : position < object.totalBytes.toNat) :
    exists index, index < object.chunkCount.toNat ∧ object.plannedBytes index ≤ position ∧
      position < object.plannedBytes (index + 1) := by
  have positive : 0 < object.chunkBytes.toNat := Nat.lt_of_lt_of_le (by decide) sized.least
  have start := Nat.div_mul_le_self position object.chunkBytes.toNat
  have stop := Nat.lt_mul_div_succ position positive
  rw [Nat.mul_comm, Nat.succ_mul] at stop
  refine ⟨position / object.chunkBytes.toNat, ?_, ?_, ?_⟩
  · have whole := sized.plannedBytes_count
    rw [plannedBytes] at whole
    by_contra beyond
    have product := Nat.mul_le_mul_right object.chunkBytes.toNat (Nat.not_lt.mp beyond)
    omega
  · rw [plannedBytes]
    omega
  · rw [plannedBytes, Nat.succ_mul]
    omega

/-! ## The chunks as a partition -/

/-- A chunk has a place exactly if it is one of the object's. -/
theorem Sized.chunkOffset_eq_ok (sized : object.Sized) {index : UInt32} {offset : UInt64} :
    object.chunkOffset index = .ok offset ↔
      index < object.chunkCount ∧ offset = .ofNat (object.plannedBytes index.toNat) := by
  by_cases inside : index < object.chunkCount
  · rw [chunkOffset_eq sized inside, Except.ok.injEq]
    exact ⟨fun same => ⟨inside, same.symm⟩, fun found => found.2.symm⟩
  · rw [chunkOffset_outside inside]
    constructor
    · intro impossible
      cases impossible
    · rintro ⟨present, -⟩
      exact absurd present inside

theorem Sized.chunkLength_eq_ok (sized : object.Sized) {index : UInt32} {length : UInt64} :
    object.chunkLength index = .ok length ↔
      index < object.chunkCount ∧ length = .ofNat (object.plannedLength index.toNat) := by
  by_cases inside : index < object.chunkCount
  · rw [chunkLength_eq sized inside, Except.ok.injEq]
    exact ⟨fun same => ⟨inside, same.symm⟩, fun found => found.2.symm⟩
  · rw [chunkLength_outside inside]
    constructor
    · intro impossible
      cases impossible
    · rintro ⟨present, -⟩
      exact absurd present inside

end Plan

/-- The position is one of the bytes of the chunk. -/
def Occupies (object : StateObjectDescriptor) (index : UInt32) (position : Nat) : Prop :=
  exists offset length : UInt64,
    object.chunkOffset index = .ok offset ∧ object.chunkLength index = .ok length ∧
      offset.toNat ≤ position ∧ position < offset.toNat + length.toNat

/-- The chunks cut the bytes of the object into pieces that follow each other, and the
arithmetic that says so stays inside 64 bits. -/
structure Partitioned (object : StateObjectDescriptor) : Prop where
  offsets : forall index,
    (exists offset, object.chunkOffset index = .ok offset) ↔ index < object.chunkCount
  lengths : forall index,
    (exists length, object.chunkLength index = .ok length) ↔ index < object.chunkCount
  disjoint : forall first second position,
    object.Occupies first position -> object.Occupies second position -> first = second
  cover : forall position,
    (exists index, object.Occupies index position) ↔ position < object.totalBytes.toNat
  starts : 0 < object.chunkCount -> object.chunkOffset 0 = .ok 0
  follows : forall index offset length,
    object.chunkOffset index = .ok offset -> object.chunkLength index = .ok length ->
      index.toNat + 1 < object.chunkCount.toNat ->
        object.chunkOffset (index + 1) = .ok (offset + length)
  ends : forall index offset length,
    object.chunkOffset index = .ok offset -> object.chunkLength index = .ok length ->
      index.toNat + 1 = object.chunkCount.toNat -> offset + length = object.totalBytes
  bounded : forall index length, object.chunkLength index = .ok length ->
    1 ≤ length.toNat ∧ length.toNat ≤ object.chunkBytes.toNat ∧
      (index.toNat + 1 < object.chunkCount.toNat -> length = object.chunkBytes)
  rounding : object.totalBytes.toNat + object.chunkBytes.toNat < 2 ^ 64
  product : forall index, index < object.chunkCount ->
    index.toNat * object.chunkBytes.toNat < 2 ^ 64
  remaining : forall index offset, object.chunkOffset index = .ok offset ->
    offset.toNat ≤ object.totalBytes.toNat
  stop : forall index offset length,
    object.chunkOffset index = .ok offset -> object.chunkLength index = .ok length ->
      offset.toNat + length.toNat < 2 ^ 64

section Partition

variable {object : StateObjectDescriptor}

/-- A chunk's bytes are those between two planned offsets. -/
theorem Sized.occupies_iff (sized : object.Sized) {index : UInt32} {position : Nat} :
    object.Occupies index position ↔ index < object.chunkCount ∧
      object.plannedBytes index.toNat ≤ position ∧
        position < object.plannedBytes (index.toNat + 1) := by
  unfold Occupies
  simp only [sized.chunkOffset_eq_ok, sized.chunkLength_eq_ok]
  constructor
  · rintro ⟨offset, length, ⟨inside, rfl⟩, ⟨-, rfl⟩, start, stop⟩
    rw [toNat_plannedBytes sized] at start stop
    rw [toNat_plannedLength sized, plannedBytes_add_plannedLength] at stop
    exact ⟨inside, start, stop⟩
  · rintro ⟨inside, start, stop⟩
    refine ⟨_, _, ⟨inside, rfl⟩, ⟨inside, rfl⟩, ?_, ?_⟩
    · rw [toNat_plannedBytes sized]
      exact start
    · rw [toNat_plannedBytes sized, toNat_plannedLength sized, plannedBytes_add_plannedLength]
      exact stop

/-- Two places of the plan that share a position are the same. -/
theorem index_le_of_planned {first second position : Nat}
    (start : object.plannedBytes first ≤ position)
    (stop : position < object.plannedBytes (second + 1)) : first ≤ second := by
  by_contra beyond
  have later : object.plannedBytes (second + 1) ≤ object.plannedBytes first :=
    plannedBytes_mono (Nat.not_le.mp beyond)
  omega

theorem toNat_succ_of_lt {index : UInt32} (below : index.toNat + 1 < 2 ^ 32) :
    (index + 1).toNat = index.toNat + 1 := by
  rw [UInt32.toNat_add]
  exact Nat.mod_eq_of_lt below

theorem Sized.partitioned (sized : object.Sized) : object.Partitioned where
  offsets index := by
    simp only [sized.chunkOffset_eq_ok]
    exact ⟨fun ⟨_, inside, _⟩ => inside, fun inside => ⟨_, inside, rfl⟩⟩
  lengths index := by
    simp only [sized.chunkLength_eq_ok]
    exact ⟨fun ⟨_, inside, _⟩ => inside, fun inside => ⟨_, inside, rfl⟩⟩
  disjoint first second position inFirst inSecond := by
    rcases sized.occupies_iff.mp inFirst with ⟨-, startFirst, stopFirst⟩
    rcases sized.occupies_iff.mp inSecond with ⟨-, startSecond, stopSecond⟩
    apply UInt32.toNat_inj.mp
    exact Nat.le_antisymm (index_le_of_planned startFirst stopSecond)
      (index_le_of_planned startSecond stopFirst)
  cover position := by
    simp only [sized.occupies_iff]
    constructor
    · rintro ⟨index, -, -, stop⟩
      exact Nat.lt_of_lt_of_le stop (plannedBytes_le_total _)
    · intro inside
      rcases sized.exists_planned inside with ⟨index, below, start, stop⟩
      have bound := object.chunkCount.toNat_lt
      have same : (UInt32.ofNat index).toNat = index :=
        UInt32.toNat_ofNat_of_lt' (Nat.lt_trans below bound)
      refine ⟨UInt32.ofNat index, ?_, ?_, ?_⟩
      · rw [UInt32.lt_iff_toNat_lt, same]
        exact below
      · rw [same]
        exact start
      · rw [same]
        exact stop
  starts some := by
    rw [sized.chunkOffset_eq_ok]
    refine ⟨some, ?_⟩
    change 0 = UInt64.ofNat (object.plannedBytes 0)
    rw [plannedBytes_zero]
    rfl
  follows index offset length atOffset ofLength more := by
    rcases sized.chunkOffset_eq_ok.mp atOffset with ⟨inside, rfl⟩
    rcases sized.chunkLength_eq_ok.mp ofLength with ⟨-, rfl⟩
    have next : (index + 1).toNat = index.toNat + 1 :=
      toNat_succ_of_lt (Nat.lt_trans more object.chunkCount.toNat_lt)
    rw [sized.chunkOffset_eq_ok, ← UInt64.ofNat_add, plannedBytes_add_plannedLength, next]
    refine ⟨?_, rfl⟩
    rw [UInt32.lt_iff_toNat_lt, next]
    exact more
  ends index offset length atOffset ofLength last := by
    rcases sized.chunkOffset_eq_ok.mp atOffset with ⟨inside, rfl⟩
    rcases sized.chunkLength_eq_ok.mp ofLength with ⟨-, rfl⟩
    rw [← UInt64.ofNat_add, plannedBytes_add_plannedLength, last, sized.plannedBytes_count,
      UInt64.ofNat_toNat]
  bounded index length ofLength := by
    rcases sized.chunkLength_eq_ok.mp ofLength with ⟨inside, rfl⟩
    have below := UInt32.lt_iff_toNat_lt.mp inside
    rw [toNat_plannedLength sized]
    refine ⟨sized.plannedLength_pos below, plannedLength_le _, ?_⟩
    intro more
    rw [sized.plannedLength_eq more, UInt64.ofNat_toNat]
  rounding := by
    have total := sized.total
    have most := sized.most
    omega
  product index inside := by
    have start := sized.lt_total (UInt32.lt_iff_toNat_lt.mp inside)
    have total := sized.total
    omega
  remaining index offset atOffset := by
    rcases sized.chunkOffset_eq_ok.mp atOffset with ⟨-, rfl⟩
    rw [toNat_plannedBytes sized]
    exact plannedBytes_le_total _
  stop index offset length atOffset ofLength := by
    rcases sized.chunkOffset_eq_ok.mp atOffset with ⟨-, rfl⟩
    rcases sized.chunkLength_eq_ok.mp ofLength with ⟨-, rfl⟩
    have total := sized.total
    have planned : object.plannedBytes (index.toNat + 1) ≤ _ := plannedBytes_le_total _
    rw [toNat_plannedBytes sized, toNat_plannedLength sized, plannedBytes_add_plannedLength]
    omega

end Partition

end StateObjectDescriptor
end StateMovementFabric
