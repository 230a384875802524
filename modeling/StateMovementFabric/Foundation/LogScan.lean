import Mathlib.Data.List.Basic

namespace StateMovementFabric
namespace Foundation

/-!
# Sequential recovery of a framed log

A log is a concatenation of frames.  Recovery looks at the front of the unread
part, and either accepts one frame, or decides that the rest is the torn end of
an interrupted write, or refuses the log.  The results below need two facts about
a frame format: a frame is accepted whatever stands behind it, and a proper
non-empty front part of a frame is recognised as torn.  They then describe
recovery of a whole log, of a log with something behind it, and of a log cut at
an arbitrary place.
-/

/-- What one look at the unread part of a log decides. -/
inductive ScanStep (State Refusal : Type) where
  | torn
  | refused (refusal : Refusal)
  | consumed (length : Nat) (next : State)

/-- The end of a scan: the state reached, how much was accepted, and whether
something unaccepted was left over. -/
structure Scanned (State : Type) where
  state : State
  length : Nat
  torn : Bool
  deriving DecidableEq, Repr

variable {Symbol State Refusal Entry : Type}

/-- The same result, counted from `length` symbols further back. -/
def Scanned.shift (length : Nat) (result : Scanned State) : Scanned State :=
  { result with length := length + result.length }

@[simp] theorem Scanned.shift_zero (result : Scanned State) : result.shift 0 = result := by
  simp [Scanned.shift]

@[simp] theorem Scanned.shift_shift (first second : Nat) (result : Scanned State) :
    (result.shift second).shift first = result.shift (first + second) := by
  simp [Scanned.shift, Nat.add_assoc]

/-- The recovery loop.  Every accepted frame is non-empty, so the length of the
unread part bounds the number of rounds. -/
def scan (step : State -> List Symbol -> ScanStep State Refusal) :
    Nat -> State -> List Symbol -> Except Refusal (Scanned State)
  | _, state, [] => .ok ⟨state, 0, false⟩
  | 0, state, _ :: _ => .ok ⟨state, 0, true⟩
  | fuel + 1, state, first :: rest =>
      match step state (first :: rest) with
      | .torn => .ok ⟨state, 0, true⟩
      | .refused refusal => .error refusal
      | .consumed length next =>
          (scan step fuel next ((first :: rest).drop length)).map (Scanned.shift length)

@[simp] theorem scan_nil (step : State -> List Symbol -> ScanStep State Refusal) (fuel : Nat)
    (state : State) : scan step fuel state [] = .ok ⟨state, 0, false⟩ := by
  cases fuel <;> rfl

/-- One accepted frame moves the scan to what stands behind it. -/
theorem scan_of_consumed {step : State -> List Symbol -> ScanStep State Refusal}
    {state next : State} {front rest : List Symbol} (nonempty : front ≠ [])
    (accepted : step state (front ++ rest) = .consumed front.length next) (fuel : Nat) :
    scan step (fuel + 1) state (front ++ rest) =
      (scan step fuel next rest).map (Scanned.shift front.length) := by
  rcases front with _ | ⟨first, others⟩
  · exact absurd rfl nonempty
  · have dropped : (first :: (others ++ rest)).drop (first :: others).length = rest :=
      List.drop_left
    rw [List.cons_append] at accepted ⊢
    rw [scan, accepted]
    simp only [dropped]

/-- A torn front ends the scan where it is. -/
theorem scan_of_torn {step : State -> List Symbol -> ScanStep State Refusal} {fuel : Nat}
    {state : State} {unread : List Symbol} (nonempty : unread ≠ [])
    (torn : step state unread = .torn) :
    scan step (fuel + 1) state unread = .ok ⟨state, 0, true⟩ := by
  rcases unread with _ | ⟨first, rest⟩
  · exact absurd rfl nonempty
  · rw [scan, torn]

/-- A refused front refuses the log. -/
theorem scan_of_refused {step : State -> List Symbol -> ScanStep State Refusal} {fuel : Nat}
    {state : State} {unread : List Symbol} {refusal : Refusal} (nonempty : unread ≠ [])
    (refused : step state unread = .refused refusal) :
    scan step (fuel + 1) state unread = .error refusal := by
  rcases unread with _ | ⟨first, rest⟩
  · exact absurd rfl nonempty
  · rw [scan, refused]

/-- A scan that was not refused: the frames it accepted one after another, up to the end
of the log or to a torn rest. -/
inductive Traversed (step : State -> List Symbol -> ScanStep State Refusal) :
    State -> List Symbol -> Scanned State -> Prop where
  | ended (state : State) : Traversed step state [] ⟨state, 0, false⟩
  | torn (state : State) (unread : List Symbol) (left : step state unread = .torn) :
      Traversed step state unread ⟨state, 0, true⟩
  | consumed (state next : State) (unread : List Symbol) (length : Nat) (later : Scanned State)
      (accepted : step state unread = .consumed length next)
      (goesOn : Traversed step next (unread.drop length) later) :
      Traversed step state unread (later.shift length)

/-- The rounds suffice when every accepted frame is non-empty. -/
theorem traversed_of_scan {step : State -> List Symbol -> ScanStep State Refusal}
    (advances : forall state unread length next,
      step state unread = .consumed length next -> 0 < length)
    {fuel : Nat} {state : State} {unread : List Symbol} {scanned : Scanned State}
    (enough : unread.length ≤ fuel) (read : scan step fuel state unread = .ok scanned) :
    Traversed step state unread scanned := by
  induction fuel generalizing state unread scanned with
  | zero =>
      cases List.eq_nil_of_length_eq_zero (Nat.eq_zero_of_le_zero enough)
      cases read
      exact .ended state
  | succ fuel ih =>
      rcases unread with _ | ⟨first, rest⟩
      · cases read
        exact .ended state
      · rw [scan] at read
        cases decided : step state (first :: rest) with
        | torn =>
            rw [decided] at read
            cases read
            exact .torn state (first :: rest) decided
        | refused refusal =>
            rw [decided] at read
            cases read
        | consumed length next =>
            rw [decided] at read
            have positive := advances state (first :: rest) length next decided
            have fewer : ((first :: rest).drop length).length ≤ fuel := by
              rw [List.length_drop, List.length_cons] at *
              omega
            dsimp only at read
            cases later : scan step fuel next ((first :: rest).drop length) with
            | error refusal =>
                rw [later] at read
                cases read
            | ok found =>
                rw [later] at read
                cases read
                exact .consumed state next (first :: rest) length found decided (ih fewer later)

/-! ## Frame formats -/

/-- A frame format that recovery reads: when an entry is `Ready` in a state, its
frame is accepted there in front of anything, and a proper non-empty front part
of it is torn. -/
structure FrameFormat (Symbol State Refusal Entry : Type) where
  step : State -> List Symbol -> ScanStep State Refusal
  frame : Entry -> List Symbol
  apply : State -> Entry -> State
  Ready : State -> Entry -> Prop
  frame_ne_nil : forall entry, frame entry ≠ []
  accepts : forall {state entry} (rest : List Symbol), Ready state entry ->
    step state (frame entry ++ rest) = .consumed (frame entry).length (apply state entry)
  tears : forall {state entry} {cut : Nat}, Ready state entry -> 0 < cut ->
    cut < (frame entry).length -> step state ((frame entry).take cut) = .torn

namespace FrameFormat

variable (format : FrameFormat Symbol State Refusal Entry)

/-- The log that holds the given entries. -/
def encode (entries : List Entry) : List Symbol := entries.flatMap format.frame

/-- The state after applying the given entries in order. -/
def replay (state : State) (entries : List Entry) : State := entries.foldl format.apply state

/-- Every entry is ready in the state its predecessors lead to. -/
def AllReady : State -> List Entry -> Prop
  | _, [] => True
  | state, entry :: rest => format.Ready state entry ∧ AllReady (format.apply state entry) rest

/-- How many of the entries have their whole frames within `room` symbols. -/
def fitting : Nat -> List Entry -> Nat
  | _, [] => 0
  | room, entry :: rest =>
      if (format.frame entry).length ≤ room then
        fitting (room - (format.frame entry).length) rest + 1
      else 0

@[simp] theorem encode_nil : format.encode [] = [] := rfl

@[simp] theorem encode_cons (entry : Entry) (rest : List Entry) :
    format.encode (entry :: rest) = format.frame entry ++ format.encode rest := by
  simp [encode]

theorem allReady_append (state : State) (first second : List Entry) :
    format.AllReady state (first ++ second) ↔
      format.AllReady state first ∧ format.AllReady (format.replay state first) second := by
  induction first generalizing state with
  | nil => simp [AllReady, replay]
  | cons entry rest ih =>
      change format.Ready state entry ∧ format.AllReady _ (rest ++ second) ↔
        (format.Ready state entry ∧ format.AllReady _ rest) ∧ _
      rw [ih, and_assoc]
      rfl

theorem length_le_encode (entries : List Entry) :
    entries.length ≤ (format.encode entries).length := by
  induction entries with
  | nil => simp
  | cons entry rest ih =>
      have := List.length_pos_of_ne_nil (format.frame_ne_nil entry)
      rw [encode_cons, List.length_append, List.length_cons]
      omega

/-- Recovery of a log with something behind it accepts every entry of the log and
then meets the rest. -/
theorem scan_encode_append {state : State} {entries : List Entry} (fuel : Nat)
    (rest : List Symbol) (ready : format.AllReady state entries)
    (enough : entries.length ≤ fuel) :
    scan format.step fuel state (format.encode entries ++ rest) =
      (scan format.step (fuel - entries.length) (format.replay state entries) rest).map
        (Scanned.shift (format.encode entries).length) := by
  induction entries generalizing state fuel with
  | nil =>
      cases found : scan format.step fuel state rest with
      | error refusal => simp [replay, found, Except.map]
      | ok result => simp [replay, found, Except.map]
  | cons entry others ih =>
      rcases fuel with _ | fuel
      · simp at enough
      · have fits : others.length ≤ fuel := by simpa using enough
        rw [encode_cons, List.append_assoc,
          scan_of_consumed (format.frame_ne_nil entry) (format.accepts _ ready.1),
          ih fuel ready.2 fits]
        have rounds : fuel + 1 - (entry :: others).length = fuel - others.length := by
          simp
        rw [rounds]
        change _ = Except.map _ (scan format.step _ (format.replay (format.apply state entry) others) rest)
        cases scan format.step (fuel - others.length)
            (format.replay (format.apply state entry) others) rest with
        | error refusal => rfl
        | ok result => simp [Except.map]

/-- Recovery of a whole log accepts all of it. -/
theorem scan_encode {state : State} {entries : List Entry} {fuel : Nat}
    (ready : format.AllReady state entries) (enough : entries.length ≤ fuel) :
    scan format.step fuel state (format.encode entries) =
      .ok ⟨format.replay state entries, (format.encode entries).length, false⟩ := by
  have whole := format.scan_encode_append fuel [] ready enough
  rw [List.append_nil] at whole
  rw [whole]
  simp [Except.map, Scanned.shift]

/-- The entries that fit are a front part of the cut log. -/
theorem encode_take_fitting_le (room : Nat) (entries : List Entry) :
    (format.encode (entries.take (format.fitting room entries))).length ≤ room := by
  induction entries generalizing room with
  | nil => simp [fitting]
  | cons entry rest ih =>
      rw [fitting]
      split
      · rename_i fits
        have := ih (room - (format.frame entry).length)
        rw [List.take_succ_cons, encode_cons, List.length_append]
        omega
      · simp

/-- Recovery of a log cut at an arbitrary place accepts exactly the entries whose
frames are whole, and reports a torn end unless the cut is between two frames. -/
theorem scan_cut {state : State} {entries : List Entry} {room fuel : Nat}
    (ready : format.AllReady state entries) (within : room ≤ (format.encode entries).length)
    (enough : room ≤ fuel) :
    scan format.step fuel state ((format.encode entries).take room) =
      .ok ⟨format.replay state (entries.take (format.fitting room entries)),
        (format.encode (entries.take (format.fitting room entries))).length,
        decide ((format.encode (entries.take (format.fitting room entries))).length ≠ room)⟩ := by
  induction entries generalizing state room fuel with
  | nil =>
      have empty : room = 0 := by simpa using within
      simp [empty, fitting, replay]
  | cons entry rest ih =>
      have size := List.length_pos_of_ne_nil (format.frame_ne_nil entry)
      rw [encode_cons] at within ⊢
      rw [List.length_append] at within
      by_cases fits : (format.frame entry).length ≤ room
      · -- the first frame is whole: it is accepted, and the cut moves into the rest
        obtain ⟨fuel, rfl⟩ : exists smaller, fuel = smaller + 1 := ⟨fuel - 1, by omega⟩
        have front : (format.frame entry ++ format.encode rest).take room =
            format.frame entry ++ (format.encode rest).take (room - (format.frame entry).length) := by
          rw [List.take_append, List.take_of_length_le fits]
        rw [front, scan_of_consumed (format.frame_ne_nil entry) (format.accepts _ ready.1),
          ih ready.2 (by omega) (by omega), fitting, if_pos fits]
        simp only [Except.map, Scanned.shift, List.take_succ_cons, encode_cons, List.length_append,
          Except.ok.injEq, Scanned.mk.injEq, true_and]
        refine ⟨rfl, ?_⟩
        apply decide_eq_decide.mpr
        omega
      · -- the cut is inside the first frame: nothing fits
        have inside : room < (format.frame entry).length := Nat.lt_of_not_le fits
        rw [fitting, if_neg fits, List.take_append_of_le_length (Nat.le_of_lt inside)]
        rcases Nat.eq_zero_or_pos room with none | some
        · simp [none, replay]
        · obtain ⟨fuel, rfl⟩ : exists smaller, fuel = smaller + 1 := ⟨fuel - 1, by omega⟩
          have nonempty : (format.frame entry).take room ≠ [] := by
            apply List.ne_nil_of_length_pos
            rw [List.length_take]
            omega
          rw [scan_of_torn nonempty (format.tears ready.1 some inside)]
          have gap : (0 : Nat) ≠ room := by omega
          simp [replay, gap]

end FrameFormat

end Foundation
end StateMovementFabric
