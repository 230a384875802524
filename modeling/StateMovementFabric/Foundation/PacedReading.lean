namespace StateMovementFabric
namespace Foundation

/-!
# Reading from a source that delivers in pieces

A source hands out its items in order, but how many it hands out at a time is not in the
reader's hand.  A reader that wants a fixed number of items asks again until it has them.
Whatever the pieces are, it ends up with the front of what was left; if that is too short,
it learns whether the source was exhausted from the beginning or on the way.
-/

/-- What a source has not handed out yet, and how often it has been asked. -/
structure Source (α : Type) where
  remaining : List α
  reads : Nat := 0
  deriving DecidableEq

/-- The end of an attempt to fill a buffer. -/
inductive Filling (α : Type) where
  | full (items : List α)
  | nothing
  | short
  deriving DecidableEq

namespace Source

variable {α : Type} {pace : Nat -> Nat} {count : Nat}

/-- One read into a buffer with some room left.  The pace says how many items come, at least
one of those that are there. -/
def readSome (pace : Nat -> Nat) (source : Source α) (room : Nat) : List α × Source α :=
  let size := min (max 1 (pace source.reads)) room
  (source.remaining.take size, ⟨source.remaining.drop size, source.reads + 1⟩)

/-- Read until `count` items are there, in at most `left` further reads. -/
def fill (pace : Nat -> Nat) (count : Nat) : Nat -> List α -> Source α -> Source α × Filling α
  | 0, items, source => (source, .full items)
  | left + 1, items, source =>
      if items.length < count then
        let read := source.readSome pace (count - items.length)
        if read.1.isEmpty then (read.2, if items.isEmpty then .nothing else .short)
        else fill pace count left (items ++ read.1) read.2
      else (source, .full items)

/-- Every read brings an item, so that as many reads as items are enough. -/
def readExactly (pace : Nat -> Nat) (source : Source α) (count : Nat) : Source α × Filling α :=
  fill pace count count [] source

theorem fill_of_length {left : Nat} {items : List α} (source : Source α)
    (done : items.length = count) : fill pace count left items source = (source, .full items) := by
  cases left with
  | zero => rfl
  | succ left => rw [fill, if_neg (by omega)]

/-- A round on a source that has items left moves some of them to the buffer. -/
theorem fill_more (pace : Nat -> Nat) (left : Nat) {items : List α} {source : Source α} (room : items.length < count)
    (more : source.remaining ≠ []) :
    exists size, 0 < size ∧ size ≤ count - items.length ∧
      fill pace count (left + 1) items source =
        fill pace count left (items ++ source.remaining.take size)
          ⟨source.remaining.drop size, source.reads + 1⟩ := by
  refine ⟨min (max 1 (pace source.reads)) (count - items.length), by omega, by omega, ?_⟩
  have brought : (source.readSome pace (count - items.length)).1.isEmpty = false := by
    change (source.remaining.take _).isEmpty = false
    rw [List.isEmpty_eq_false_iff, ne_eq, List.take_eq_nil_iff, not_or]
    exact ⟨by omega, more⟩
  rw [fill, if_pos room]
  dsimp only
  rw [brought, if_neg Bool.false_ne_true]
  rfl

/-- A round on an exhausted source ends the attempt. -/
theorem fill_exhausted {left : Nat} {items : List α} {source : Source α}
    (room : items.length < count) (exhausted : source.remaining = []) :
    (fill pace count (left + 1) items source).2 =
      if items.isEmpty then .nothing else .short := by
  have nothing : (source.readSome pace (count - items.length)).1.isEmpty = true := by
    change (source.remaining.take _).isEmpty = true
    rw [exhausted, List.take_nil]
    rfl
  rw [fill, if_pos room]
  dsimp only
  rw [nothing, if_pos rfl]

/-- What is there in sufficient number is read, in whatever pieces. -/
theorem fill_whole (pace : Nat -> Nat) {left : Nat} {items : List α} {source : Source α}
    (room : items.length ≤ count) (patience : count ≤ items.length + left)
    (enough : count ≤ items.length + source.remaining.length) :
    exists reads, fill pace count left items source =
      (⟨source.remaining.drop (count - items.length), reads⟩,
        .full (items ++ source.remaining.take (count - items.length))) := by
  induction left generalizing items source with
  | zero =>
      have done : count - items.length = 0 := by omega
      rw [done, List.drop_zero, List.take_zero, List.append_nil]
      exact ⟨source.reads, rfl⟩
  | succ left ih =>
      by_cases done : items.length = count
      · rw [fill_of_length source done, done, Nat.sub_self, List.drop_zero, List.take_zero,
          List.append_nil]
        exact ⟨source.reads, rfl⟩
      · have more : source.remaining ≠ [] := by
          intro exhausted
          rw [exhausted, List.length_nil] at enough
          omega
        rcases fill_more pace left (Nat.lt_of_le_of_ne room done) more with
          ⟨size, positive, fits, round⟩
        have taken : (items ++ source.remaining.take size).length = items.length + size := by
          rw [List.length_append, List.length_take_of_le (by omega)]
        have split : count - items.length = size + (count - (items.length + size)) := by omega
        have later : exists reads, fill pace count left (items ++ source.remaining.take size)
            ⟨source.remaining.drop size, source.reads + 1⟩ = _ :=
          ih (by omega) (by omega) (by rw [List.length_drop]; omega)
        rcases later with ⟨reads, filled⟩
        refine ⟨reads, ?_⟩
        rw [round, filled, taken, List.drop_drop, List.append_assoc, ← List.take_add, ← split]

/-- When there is too little, the attempt ends as the first read found it: with nothing, or
short. -/
theorem fill_lacking (pace : Nat -> Nat) {left : Nat} {items : List α} {source : Source α}
    (patience : count ≤ items.length + left)
    (lacking : items.length + source.remaining.length < count) :
    (fill pace count left items source).2 =
      if items.isEmpty && source.remaining.isEmpty then .nothing else .short := by
  induction left generalizing items source with
  | zero => omega
  | succ left ih =>
      by_cases exhausted : source.remaining = []
      · rw [fill_exhausted (by omega) exhausted, exhausted, List.isEmpty_nil, Bool.and_true]
      · have room : items.length < count := by omega
        rcases fill_more pace left room exhausted with ⟨size, positive, fits, round⟩
        have lengths : (items ++ source.remaining.take size).length +
            (source.remaining.drop size).length = items.length + source.remaining.length := by
          rw [List.length_append, List.length_take, List.length_drop]
          omega
        have grown : (items ++ source.remaining.take size) ≠ [] := by
          intro nothing
          rw [List.append_eq_nil_iff, List.take_eq_nil_iff] at nothing
          rcases nothing.2 with none | ended
          · omega
          · exact exhausted ended
        have longer : items.length < (items ++ source.remaining.take size).length := by
          have some := List.length_pos_iff.mpr exhausted
          rw [List.length_append, List.length_take]
          omega
        rw [round, ih (by omega) (by dsimp only; omega),
          List.isEmpty_eq_false_iff.mpr grown, List.isEmpty_eq_false_iff.mpr exhausted,
          Bool.and_false, Bool.false_and]

/-! ## The two outcomes -/

theorem readExactly_whole (pace : Nat -> Nat) {source : Source α}
    (enough : count ≤ source.remaining.length) :
    exists reads, source.readExactly pace count =
      (⟨source.remaining.drop count, reads⟩, .full (source.remaining.take count)) := by
  have patience : count ≤ ([] : List α).length + count := Nat.le_add_left _ _
  have present : count ≤ ([] : List α).length + source.remaining.length := by
    rw [List.length_nil, Nat.zero_add]
    exact enough
  rcases fill_whole pace (Nat.zero_le count) patience present with ⟨reads, filled⟩
  exact ⟨reads, filled⟩

theorem readExactly_lacking (pace : Nat -> Nat) {source : Source α}
    (lacking : source.remaining.length < count) :
    (source.readExactly pace count).2 =
      if source.remaining.isEmpty then .nothing else .short := by
  have patience : count ≤ ([] : List α).length + count := Nat.le_add_left _ _
  have absent : ([] : List α).length + source.remaining.length < count := by
    rw [List.length_nil, Nat.zero_add]
    exact lacking
  exact fill_lacking pace patience absent

end Source

end Foundation
end StateMovementFabric
