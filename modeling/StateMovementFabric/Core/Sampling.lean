import StateMovementFabric.Core.ChunkPlan
import StateMovementFabric.Foundation.Runs

namespace StateMovementFabric

/-!
# The loop behind the verification sample

`verification_sample` draws until it has enough indices or has tried sixteen times as often as
it was asked for.  Both limits are 32-bit values, and the second is a product.  A limit that
wrapped would end the loop at once and leave a sample with nothing in it, which reads as a
verification that found nothing wrong.  Below the bound on chunks it cannot wrap.
-/

open Foundation

namespace VerificationSample

/-- The variables of the loop. -/
structure Draws where
  attempts : UInt32
  mixer : UInt64
  unique : List UInt32

/-- The variables as the loop finds them. -/
def Draws.start (movementId : MovementId) : Draws where
  attempts := 0
  mixer := startMixer (sha256 movementId.bytes)
  unique := []

/-- The condition of the loop, with its 32-bit product. -/
def Draws.continues (sampleCount : UInt32) (draws : Draws) : Bool :=
  draws.unique.length < sampleCount.toNat && draws.attempts < sampleCount * 16

/-- `std::set::insert`. -/
def insertIndex (unique : List UInt32) (index : UInt32) : List UInt32 :=
  if index ∈ unique then unique else unique.orderedInsert (· ≤ ·) index

/-- The body of the loop. -/
def Draws.step (chunkCount : UInt32) (draws : Draws) : Draws where
  attempts := draws.attempts + 1
  mixer := draws.mixer + 0x9E3779B97F4A7C15
  unique := insertIndex draws.unique
    (mixed (draws.mixer + 0x9E3779B97F4A7C15) % chunkCount.toUInt64).toUInt32

variable {chunkCount sampleCount : UInt32}

variable {rounds : Nat} {index : UInt32} {unique : List UInt32}

/-- The recursion over the remaining rounds is the loop: it ends within them, with what the
recursion returns. -/
theorem exists_ends {draws : Draws}
    (left : draws.attempts.toNat + rounds = (sampleCount * 16).toNat) :
    exists steps last, steps ≤ rounds ∧
      Ends (Draws.continues sampleCount) (Draws.step chunkCount) draws steps last ∧
      last.unique = draw chunkCount sampleCount rounds draws.mixer draws.unique := by
  induction rounds generalizing draws with
  | zero =>
      refine ⟨0, draws, Nat.le_refl 0, ends_of_stopped ?_, rfl⟩
      have spent : ¬ draws.attempts < sampleCount * 16 := by
        rw [UInt32.lt_iff_toNat_lt]
        omega
      simp [Draws.continues, spent]
  | succ rounds ih =>
      by_cases wanted : draws.unique.length < sampleCount.toNat
      · have open_ : draws.attempts < sampleCount * 16 := by
          rw [UInt32.lt_iff_toNat_lt]
          omega
        have bound := (sampleCount * 16).toNat_lt
        have counted : (draws.step chunkCount).attempts.toNat = draws.attempts.toNat + 1 := by
          change (draws.attempts + 1).toNat = _
          rw [UInt32.toNat_add]
          exact Nat.mod_eq_of_lt (by change draws.attempts.toNat + 1 < _; omega)
        rcases @ih (draws.step chunkCount) (by omega) with ⟨steps, last, few, ends, drawn⟩
        refine ⟨steps + 1, last, Nat.succ_le_succ few, ends.cons ?_, ?_⟩
        · simp [Draws.continues, wanted, open_]
        · rw [drawn, draw, if_pos wanted]
          rfl
      · refine ⟨0, draws, Nat.zero_le _, ends_of_stopped ?_, ?_⟩
        · simp [Draws.continues, wanted]
        · rw [draw, if_neg wanted]

/-- The counter counts, as long as there is room for it. -/
theorem attempts_iterate (draws : Draws) (fresh : draws.attempts = 0) {count : Nat}
    (below : count < 2 ^ 32) : ((Draws.step chunkCount)^[count] draws).attempts.toNat = count := by
  induction count with
  | zero =>
      change draws.attempts.toNat = 0
      rw [fresh]
      rfl
  | succ count ih =>
      rw [Function.iterate_succ_apply']
      change (((Draws.step chunkCount)^[count] draws).attempts + 1).toNat = count + 1
      rw [UInt32.toNat_add, ih (Nat.lt_of_succ_lt below)]
      exact Nat.mod_eq_of_lt below

/-! ## What is drawn -/

/-- A set of indices in order. -/
structure Drawn (chunkCount sampleCount : UInt32) (unique : List UInt32) : Prop where
  increasing : unique.Pairwise (· < ·)
  below : forall index, index ∈ unique -> index < chunkCount
  few : unique.length ≤ sampleCount.toNat

theorem mem_insertIndex {other : UInt32} :
    other ∈ insertIndex unique index ↔ other = index ∨ other ∈ unique := by
  unfold insertIndex
  split
  · rename_i present
    constructor
    · exact Or.inr
    · rintro (rfl | inside)
      · exact present
      · exact inside
  · exact List.mem_orderedInsert _

theorem length_insertIndex_le (unique : List UInt32) (index : UInt32) :
    (insertIndex unique index).length ≤ unique.length + 1 := by
  unfold insertIndex
  split
  · exact Nat.le_succ _
  · rw [List.orderedInsert_length]

theorem pairwise_insertIndex (increasing : unique.Pairwise (· < ·)) (index : UInt32) :
    (insertIndex unique index).Pairwise (· < ·) := by
  unfold insertIndex
  split
  · exact increasing
  · rename_i absent
    induction unique with
    | nil => exact List.pairwise_singleton _ _
    | cons head tail ih =>
        rcases List.pairwise_cons.mp increasing with ⟨first, rest⟩
        rcases not_or.mp (mt List.mem_cons.mpr absent) with ⟨other, behind⟩
        rw [List.orderedInsert]
        split
        · rename_i before
          have less : index < head := UInt32.lt_of_le_of_ne before other
          refine List.pairwise_cons.mpr ⟨?_, increasing⟩
          intro later inside
          rcases List.mem_cons.mp inside with rfl | inside
          · exact less
          · exact UInt32.lt_trans less (first later inside)
        · rename_i after
          refine List.pairwise_cons.mpr ⟨?_, ih rest behind⟩
          intro later inside
          rcases (List.mem_orderedInsert _).mp inside with rfl | inside
          · exact UInt32.not_le.mp after
          · exact first later inside

/-- A number below the chunk count. -/
theorem remainder_lt (some : 0 < chunkCount.toNat) (value : UInt64) :
    (value % chunkCount.toUInt64).toUInt32 < chunkCount := by
  have remainder : (value % chunkCount.toUInt64).toNat < chunkCount.toNat := by
    rw [UInt64.toNat_mod, UInt32.toNat_toUInt64]
    exact Nat.mod_lt _ some
  have bound := chunkCount.toNat_lt
  rw [UInt32.lt_iff_toNat_lt, UInt64.toNat_toUInt32, Nat.mod_eq_of_lt (by omega)]
  exact remainder

theorem Drawn.insertIndex (drawn : Drawn chunkCount sampleCount unique) (below : index < chunkCount)
    (wanted : unique.length < sampleCount.toNat) :
    Drawn chunkCount sampleCount (insertIndex unique index) where
  increasing := pairwise_insertIndex drawn.increasing index
  below other inside := by
    rcases mem_insertIndex.mp inside with rfl | inside
    · exact below
    · exact drawn.below other inside
  few := Nat.le_trans (length_insertIndex_le unique index) wanted

/-- What one draw keeps is kept by all of them. -/
theorem Drawn.draw (some : 0 < chunkCount.toNat) (drawn : Drawn chunkCount sampleCount unique)
    (rounds : Nat) (mixer : UInt64) :
    Drawn chunkCount sampleCount
      (VerificationSample.draw chunkCount sampleCount rounds mixer unique) := by
  induction rounds generalizing mixer unique with
  | zero => exact drawn
  | succ rounds ih =>
      rw [VerificationSample.draw]
      split
      · rename_i wanted
        exact ih (drawn.insertIndex (remainder_lt some _) wanted) _
      · exact drawn

/-- Nothing that was drawn is lost. -/
theorem mem_draw (inside : index ∈ unique) (rounds : Nat) (mixer : UInt64) :
    index ∈ draw chunkCount sampleCount rounds mixer unique := by
  induction rounds generalizing mixer unique with
  | zero => exact inside
  | succ rounds ih =>
      rw [draw]
      split
      · exact ih (mem_insertIndex.mpr (.inr inside)) _
      · exact inside

theorem draw_ne_nil (wanted : 0 < sampleCount.toNat) (tries : 0 < rounds) (mixer : UInt64) :
    draw chunkCount sampleCount rounds mixer [] ≠ [] := by
  cases rounds with
  | zero => exact absurd tries (Nat.lt_irrefl 0)
  | succ rounds =>
      rw [draw, List.length_nil, if_pos wanted]
      exact List.ne_nil_of_mem (mem_draw (mem_insertIndex.mpr (.inl rfl)) _ _)

/-- A sample that a verification can use. -/
structure WellFormed (chunkCount sampleCount : UInt32) (sample : List UInt32) : Prop where
  nonempty : sample ≠ []
  increasing : sample.Pairwise (· < ·)
  below : forall index, index ∈ sample -> index < chunkCount
  few : sample.length ≤ min sampleCount.toNat chunkCount.toNat
  full : chunkCount ≤ sampleCount -> sample = (List.range chunkCount.toNat).map UInt32.ofNat

/-- The product that limits the tries. -/
theorem toNat_limit (bounded : sampleCount.toNat < 2 ^ 24) :
    (sampleCount * 16).toNat = 16 * sampleCount.toNat := by
  rw [UInt32.toNat_mul]
  change sampleCount.toNat * 16 % 2 ^ 32 = _
  omega

theorem wellFormed_full (some : 1 ≤ chunkCount.toNat) (all : chunkCount ≤ sampleCount) :
    WellFormed chunkCount sampleCount ((List.range chunkCount.toNat).map UInt32.ofNat) := by
  have bound := chunkCount.toNat_lt
  have same : forall index, index < chunkCount.toNat -> (UInt32.ofNat index).toNat = index := by
    intro index below
    exact UInt32.toNat_ofNat_of_lt' (Nat.lt_trans below bound)
  refine ⟨?_, ?_, ?_, ?_, fun _ => rfl⟩
  · intro empty
    have none := congrArg List.length empty
    rw [List.length_map, List.length_range, List.length_nil] at none
    omega
  · rw [List.pairwise_map]
    refine List.pairwise_lt_range.imp_of_mem ?_
    intro first second inFirst inSecond less
    rw [UInt32.lt_iff_toNat_lt, same first (List.mem_range.mp inFirst),
      same second (List.mem_range.mp inSecond)]
    exact less
  · intro index inside
    rcases List.mem_map.mp inside with ⟨place, placed, rfl⟩
    rw [UInt32.lt_iff_toNat_lt, same place (List.mem_range.mp placed)]
    exact List.mem_range.mp placed
  · rw [List.length_map, List.length_range]
    exact Nat.le_min.mpr ⟨UInt32.le_iff_toNat_le.mp all, Nat.le_refl _⟩

theorem wellFormed_draw (asked : 1 ≤ sampleCount.toNat) (fewer : sampleCount < chunkCount)
    (tries : 0 < rounds) (mixer : UInt64) :
    WellFormed chunkCount sampleCount (draw chunkCount sampleCount rounds mixer []) := by
  have less := UInt32.lt_iff_toNat_lt.mp fewer
  have nothing : Drawn chunkCount sampleCount [] :=
    ⟨List.Pairwise.nil, fun _ impossible => absurd impossible List.not_mem_nil, Nat.zero_le _⟩
  have drawn := nothing.draw (by omega) rounds mixer
  refine ⟨draw_ne_nil asked tries mixer, drawn.increasing, drawn.below, ?_, ?_⟩
  · have few := drawn.few
    omega
  · intro all
    exact absurd fewer (UInt32.not_lt.mpr all)

/-- Every sample is well formed, and where it is drawn the loop ends within its limit, without
a product or a counter that wraps. -/
theorem verificationSample_wellFormed (movementId : MovementId) (some : 1 ≤ chunkCount.toNat)
    (bounded : chunkCount.toNat ≤ 2 ^ 24) (asked : 1 ≤ sampleCount.toNat) :
    WellFormed chunkCount sampleCount (verificationSample movementId chunkCount sampleCount) ∧
      (sampleCount < chunkCount -> exists steps last,
        Ends (Draws.continues sampleCount) (Draws.step chunkCount) (Draws.start movementId) steps
            last ∧
          steps ≤ 16 * sampleCount.toNat ∧ (sampleCount * 16).toNat = 16 * sampleCount.toNat ∧
          (forall count, count ≤ steps ->
            ((Draws.step chunkCount)^[count] (Draws.start movementId)).attempts.toNat = count) ∧
          verificationSample movementId chunkCount sampleCount = last.unique) := by
  have nonzero : (chunkCount == 0 || sampleCount == 0) = false := by
    rw [Bool.or_eq_false_iff, beq_eq_false_iff_ne, beq_eq_false_iff_ne]
    constructor
    · rintro rfl
      exact absurd some (by decide)
    · rintro rfl
      exact absurd asked (by decide)
  rw [verificationSample, nonzero, if_neg Bool.false_ne_true]
  by_cases all : chunkCount ≤ sampleCount
  · rw [if_pos all]
    refine ⟨wellFormed_full some all, ?_⟩
    intro fewer
    exact absurd fewer (UInt32.not_lt.mpr all)
  · have fewer : sampleCount < chunkCount := UInt32.not_le.mp all
    have less := UInt32.lt_iff_toNat_lt.mp fewer
    have limit := @toNat_limit sampleCount (by omega)
    rw [if_neg all]
    refine ⟨wellFormed_draw asked fewer (by omega) _, ?_⟩
    intro _
    rcases @exists_ends chunkCount sampleCount (sampleCount * 16).toNat (Draws.start movementId)
      (Nat.zero_add _) with ⟨steps, last, few, ends, drawn⟩
    refine ⟨steps, last, ends, by omega, limit, ?_, drawn.symm⟩
    intro count earlier
    exact attempts_iterate _ rfl (by omega)

theorem verificationSample_wellFormed_small :
    WellFormed 5 2 (verificationSample (.filled 1) 5 2) :=
  (verificationSample_wellFormed (.filled 1) (by decide) (by decide) (by decide)).1

end VerificationSample

end StateMovementFabric
