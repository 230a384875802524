import Mathlib.Data.List.Basic
import Mathlib.Data.List.Nodup

namespace StateMovementFabric
namespace Foundation

/-!
# Keys in order of insertion

A list of keys that is extended by a key when the key comes in and is not there, and
from which a key is filtered when it goes, lists its keys in the order in which they came
in, counted from the last time that they went.  Histories are kept latest first.
-/

inductive KeyEvent (Key : Type) where
  | inserted (key : Key)
  | removed (key : Key)
  deriving DecidableEq

section Order

variable {Key : Type} [DecidableEq Key]

/-- The keys after one more event. -/
def KeyEvent.after (keys : List Key) : KeyEvent Key -> List Key
  | .inserted key => if key ∈ keys then keys else keys ++ [key]
  | .removed key => keys.filter fun other => other != key

/-- The number of events before the first insertion of the key since its last removal. -/
def bornAt (key : Key) : List (KeyEvent Key) -> Option Nat
  | [] => none
  | .inserted other :: earlier =>
      if other = key then some ((bornAt key earlier).getD earlier.length) else bornAt key earlier
  | .removed other :: earlier => if other = key then none else bornAt key earlier

/-- The keys are those that came in and did not go, in the order in which they came. -/
structure InInsertionOrder (history : List (KeyEvent Key)) (keys : List Key) : Prop where
  complete : forall key, key ∈ keys ↔ (bornAt key history).isSome = true
  sorted : keys.Pairwise fun first second => exists earlier later,
    bornAt first history = some earlier ∧ bornAt second history = some later ∧ earlier < later

variable {history : List (KeyEvent Key)} {keys : List Key} {key : Key}

theorem bornAt_lt {number : Nat} (born : bornAt key history = some number) :
    number < history.length := by
  induction history generalizing number with
  | nil => cases born
  | cons event earlier ih =>
      rw [List.length_cons]
      cases event with
      | inserted other =>
          rw [bornAt] at born
          split at born
          · cases before : bornAt key earlier with
            | none =>
                rw [before] at born
                cases born
                exact Nat.lt_succ_self _
            | some found =>
                rw [before] at born
                cases born
                exact Nat.lt_succ_of_lt (ih before)
          · exact Nat.lt_succ_of_lt (ih born)
      | removed other =>
          rw [bornAt] at born
          split at born
          · cases born
          · exact Nat.lt_succ_of_lt (ih born)

theorem inInsertionOrder_nil : InInsertionOrder ([] : List (KeyEvent Key)) [] where
  complete _ := by simp [bornAt]
  sorted := .nil

namespace InInsertionOrder

/-- A key that is there stays where it is when it comes in again. -/
theorem bornAt_inserted (ordered : InInsertionOrder history keys) (inside : key ∈ keys)
    (other : Key) : bornAt other (.inserted key :: history) = bornAt other history := by
  rw [bornAt]
  split
  · rename_i same
    subst same
    rcases Option.isSome_iff_exists.mp ((ordered.complete key).mp inside) with ⟨number, born⟩
    rw [born, Option.getD_some]
  · rfl

theorem insert_old (ordered : InInsertionOrder history keys) (inside : key ∈ keys) :
    InInsertionOrder (.inserted key :: history) keys := by
  have same : (fun other => bornAt other (.inserted key :: history)) =
      fun other => bornAt other history := by
    funext other
    exact ordered.bornAt_inserted inside other
  constructor
  · intro other
    rw [congrFun same other]
    exact ordered.complete other
  · have sorted := ordered.sorted
    simp only [← congrFun same] at sorted
    exact sorted

theorem insert_new (ordered : InInsertionOrder history keys) (outside : key ∉ keys) :
    InInsertionOrder (.inserted key :: history) (keys ++ [key]) := by
  have unborn : bornAt key history = none := by
    rw [← Option.not_isSome_iff_eq_none, ← ordered.complete key]
    exact outside
  have new : bornAt key (.inserted key :: history) = some history.length := by
    rw [bornAt, if_pos rfl, unborn, Option.getD_none]
  have old : forall other, other ∈ keys ->
      bornAt other (.inserted key :: history) = bornAt other history := by
    intro other inside
    rw [bornAt, if_neg]
    rintro rfl
    exact outside inside
  constructor
  · intro other
    rw [List.mem_append, List.mem_singleton]
    by_cases same : other = key
    · subst same
      rw [new]
      exact iff_of_true (.inr rfl) rfl
    · have kept : bornAt other (.inserted key :: history) = bornAt other history := by
        rw [bornAt, if_neg fun equal => same equal.symm]
      rw [kept, ← ordered.complete other]
      exact or_iff_left same
  · rw [List.pairwise_append]
    refine ⟨?_, List.pairwise_singleton _ _, ?_⟩
    · refine ordered.sorted.imp_of_mem ?_
      rintro first second inside also ⟨earlier, later, born, bornLater, less⟩
      exact ⟨earlier, later, (old first inside).trans born, (old second also).trans bornLater, less⟩
    · intro first inside last same
      rw [List.mem_singleton.mp same]
      rcases Option.isSome_iff_exists.mp ((ordered.complete first).mp inside) with ⟨number, born⟩
      exact ⟨number, history.length, (old first inside).trans born, new, bornAt_lt born⟩

theorem remove (ordered : InInsertionOrder history keys) (key : Key) :
    InInsertionOrder (.removed key :: history) (keys.filter fun other => other != key) := by
  constructor
  · intro other
    rw [List.mem_filter, bne_iff_ne, bornAt, ordered.complete other]
    split
    · rename_i same
      exact iff_of_false (fun both => both.2 same.symm) Bool.false_ne_true
    · rename_i different
      exact and_iff_left fun same => different same.symm
  · refine (ordered.sorted.filter _).imp_of_mem ?_
    rintro first second inside also ⟨earlier, later, born, bornLater, less⟩
    have kept : forall other, other ∈ keys.filter (fun other => other != key) ->
        bornAt other (.removed key :: history) = bornAt other history := by
      intro other left
      rw [bornAt, if_neg]
      rintro rfl
      exact bne_iff_ne.mp (List.mem_filter.mp left).2 rfl
    exact ⟨earlier, later, (kept first inside).trans born, (kept second also).trans bornLater, less⟩

/-- Every event keeps the order. -/
theorem event (ordered : InInsertionOrder history keys) (event : KeyEvent Key) :
    InInsertionOrder (event :: history) (event.after keys) := by
  cases event with
  | inserted key =>
      rw [KeyEvent.after]
      split
      · rename_i inside
        exact ordered.insert_old inside
      · rename_i outside
        exact ordered.insert_new outside
  | removed key => exact ordered.remove key

end InInsertionOrder

end Order

end Foundation
end StateMovementFabric
