import StateMovementFabric.Core.Digest

namespace StateMovementFabric
namespace Sha256

/-!
# Hashing in pieces

The incremental hasher compresses whole blocks as they fill up and keeps the rest.  What
it holds depends only on the bytes it was fed, not on how they were cut, so a digest
that was built up chunk by chunk is the digest of the whole.
-/

/-- The hasher after a message: its whole blocks compressed, what is left over
buffered. -/
def absorbed (message : Bytes) : Sha256 where
  state := (compressBlocks (message.length / 64) kInitialState message).1
  buffer := message.drop (64 * (message.length / 64))
  total := UInt64.ofNat message.length

theorem initial_eq : initial = absorbed [] := rfl

section Blocks

variable (state : HashWords) (data more : Bytes)

theorem compressBlocks_left (blocks : Nat) :
    (compressBlocks blocks state data).2 = data.drop (64 * blocks) := by
  induction blocks generalizing state data with
  | zero => rfl
  | succ blocks ih =>
      rw [compressBlocks, ih, List.drop_drop]
      congr 1
      omega

/-- Blocks are compressed one after another. -/
theorem compressBlocks_add (first second : Nat) :
    (compressBlocks (first + second) state data).1 =
      (compressBlocks second (compressBlocks first state data).1 (data.drop (64 * first))).1 := by
  induction first generalizing state data with
  | zero => rw [Nat.zero_add]; rfl
  | succ first ih =>
      rw [Nat.succ_add, compressBlocks, ih, compressBlocks, List.drop_drop]
      congr 3
      omega

/-- Bytes behind the blocks do not matter. -/
theorem compressBlocks_append {blocks : Nat} (whole : 64 * blocks ≤ data.length) :
    (compressBlocks blocks state (data ++ more)).1 = (compressBlocks blocks state data).1 := by
  induction blocks generalizing state data with
  | zero => rfl
  | succ blocks ih =>
      have enough : 64 ≤ data.length := by omega
      rw [compressBlocks, compressBlocks, List.take_append_of_le_length enough,
        List.drop_append_of_le_length enough]
      apply ih
      rw [List.length_drop]
      omega

end Blocks

/-- A hasher between two blocks compresses the blocks of what it is fed. -/
theorem compress_rest (message data : Bytes) {blocks : Nat}
    (whole : message.length = 64 * blocks) :
    absorbed (message ++ data) =
      { state := (compressBlocks (data.length / 64)
          (compressBlocks blocks kInitialState message).1 data).1
        buffer := data.drop (64 * (data.length / 64))
        total := UInt64.ofNat message.length + UInt64.ofNat data.length } := by
  have count : (message ++ data).length / 64 = blocks + data.length / 64 := by
    rw [List.length_append, whole, Nat.mul_add_div (by decide)]
  have behind : (message ++ data).drop (64 * blocks) = data := by
    rw [← whole, List.drop_left]
  rw [absorbed, count, compressBlocks_add, behind,
    compressBlocks_append _ _ _ (Nat.le_of_eq whole.symm), Nat.mul_add, ← List.drop_drop, behind,
    List.length_append, UInt64.ofNat_add]

/-- The total over two pieces is the total of the whole. -/
theorem total_append (first second : Bytes) :
    UInt64.ofNat (first ++ second).length =
      UInt64.ofNat first.length + UInt64.ofNat second.length := by
  rw [List.length_append, UInt64.ofNat_add]

/-- The hasher as the blocks in front and the bytes that are buffered behind them. -/
theorem absorbed_split {front rest : Bytes} {blocks : Nat} (whole : front.length = 64 * blocks)
    (short : rest.length < 64) :
    absorbed (front ++ rest) =
      { state := (compressBlocks blocks kInitialState front).1
        buffer := rest
        total := UInt64.ofNat (front ++ rest).length } := by
  rw [compress_rest front rest whole, total_append, Nat.div_eq_of_lt short]
  rfl

/-- Feeding more bytes is feeding them behind the earlier ones. -/
theorem update_absorbed (message data : Bytes) :
    (absorbed message).update data = absorbed (message ++ data) := by
  obtain ⟨front, rest, blocks, whole, short, rfl⟩ : exists (front rest : Bytes) (blocks : Nat),
      front.length = 64 * blocks ∧ rest.length < 64 ∧ message = front ++ rest := by
    refine ⟨message.take (64 * (message.length / 64)), message.drop (64 * (message.length / 64)),
      message.length / 64, ?_, ?_, (List.take_append_drop _ _).symm⟩
    · rw [List.length_take]
      omega
    · rw [List.length_drop]
      omega
  rw [absorbed_split whole short, update, fillBuffer]
  by_cases empty : rest = []
  · subst empty
    rw [List.append_nil, compress_rest front data whole]
    simp only [List.isEmpty_nil, if_true, compressBlocks_left]
    cases data.drop (64 * (data.length / 64)) <;> rfl
  · have started : rest.isEmpty = false := List.isEmpty_eq_false_iff.mpr empty
    by_cases fills : 64 - rest.length ≤ data.length
    · -- The buffer is completed, and the blocks of the remaining data follow.
      have full : (rest ++ data.take (64 - rest.length)).length = 64 := by
        rw [List.length_append, List.length_take]
        omega
      have regrouped : front ++ rest ++ data =
          (front ++ (rest ++ data.take (64 - rest.length))) ++ data.drop (64 - rest.length) := by
        simp
      have wholeNext : (front ++ (rest ++ data.take (64 - rest.length))).length =
          64 * (blocks + 1) := by
        rw [List.length_append, full, whole]
        omega
      have one : (compressBlocks (blocks + 1) kInitialState
          (front ++ (rest ++ data.take (64 - rest.length)))).1 =
          compress (compressBlocks blocks kInitialState front).1
            (rest ++ data.take (64 - rest.length)) := by
        rw [compressBlocks_add, ← whole, List.drop_left,
          compressBlocks_append _ _ _ (Nat.le_of_eq whole.symm)]
        change compress _ ((rest ++ data.take (64 - rest.length)).take 64) = _
        rw [List.take_of_length_le (Nat.le_of_eq full)]
      have totals : UInt64.ofNat (front ++ (rest ++ data.take (64 - rest.length))).length +
          UInt64.ofNat (data.drop (64 - rest.length)).length =
          UInt64.ofNat (front ++ rest).length + UInt64.ofNat data.length := by
        rw [← total_append, ← total_append, ← regrouped]
      rw [regrouped, compress_rest _ _ wholeNext, one, totals]
      simp only [started, full, beq_self_eq_true, Bool.false_eq_true, if_false, if_true,
        compressBlocks_left]
      cases (data.drop (64 - rest.length)).drop
        (64 * ((data.drop (64 - rest.length)).length / 64)) <;> rfl
    · -- Everything still fits the buffer.
      have taken : data.take (64 - rest.length) = data := List.take_of_length_le (by omega)
      have dropped : data.drop (64 - rest.length) = [] := List.drop_eq_nil_of_le (by omega)
      have shortNext : (rest ++ data).length < 64 := by
        rw [List.length_append]
        omega
      have totals : UInt64.ofNat (front ++ (rest ++ data)).length =
          UInt64.ofNat (front ++ rest).length + UInt64.ofNat data.length := by
        rw [← total_append, List.append_assoc]
      rw [List.append_assoc, absorbed_split whole shortNext, totals]
      have unfilled : ((rest ++ data).length == 64) = false :=
        beq_eq_false_iff_ne.mpr (Nat.ne_of_lt shortNext)
      simp only [started, taken, dropped, unfilled, Bool.false_eq_true, if_false, List.length_nil,
        Nat.zero_div, compressBlocks, List.isEmpty_nil, if_true]

/-- The digest of what was fed. -/
theorem finalize_absorbed (message : Bytes) : (absorbed message).finalize = sha256 message := by
  rw [sha256, initial_eq, update_absorbed, List.nil_append]

end Sha256
end StateMovementFabric
