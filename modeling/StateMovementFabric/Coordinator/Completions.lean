import StateMovementFabric.Foundation.Inevitability
import StateMovementFabric.Coordinator.Process
import Mathlib.Logic.Function.Basic

namespace StateMovementFabric

open Foundation Wire

/-!
# Completions and their waiters

The reader of a session hands a completion to the slot that is reserved for its key, and
drops it when there is none.  A slot takes one frame.  The driver that waits for the
result of an attempt reserves a new slot after each stale completion, in its own time, so
what the reader reads in between finds no slot.
-/

/-! ## The slots of a link -/

/-- `ControlLink::pending`, and what has been delivered to the slots that were reserved.
Two keys never wait on one slot, and a slot that is waited on is empty. -/
structure LinkSlots where
  pending : PendingKey -> Option Nat
  filled : Nat -> Option Frame
  fresh : Nat
  distinct : forall first second slot, pending first = some slot -> pending second = some slot ->
    first = second
  empty : forall key slot, pending key = some slot -> filled slot = none
  used : forall key slot, pending key = some slot -> slot < fresh
  unused : forall slot, fresh ≤ slot -> filled slot = none

namespace LinkSlots

/-- A link on which nothing is waited for. -/
def idle : LinkSlots where
  pending := fun _ => none
  filled := fun _ => none
  fresh := 0
  distinct := fun _ _ _ waits => (by cases waits)
  empty := fun _ _ waits => (by cases waits)
  used := fun _ _ waits => (by cases waits)
  unused := fun _ _ => rfl

/-- Enter a new slot for a key. -/
def enter (slots : LinkSlots) (key : PendingKey) : LinkSlots where
  pending := Function.update slots.pending key (some slots.fresh)
  filled := slots.filled
  fresh := slots.fresh + 1
  distinct := by
    have below : forall other slot, other ≠ key ->
        Function.update slots.pending key (some slots.fresh) other = some slot ->
        slots.pending other = some slot ∧ slot ≠ slots.fresh := by
      intro other slot different waits
      rw [Function.update_of_ne different] at waits
      exact ⟨waits, Nat.ne_of_lt (slots.used other slot waits)⟩
    intro first second slot firstWaits secondWaits
    by_cases firstKey : first = key
    · by_cases secondKey : second = key
      · exact firstKey.trans secondKey.symm
      · rw [firstKey, Function.update_self] at firstWaits
        cases firstWaits
        exact absurd rfl (below second _ secondKey secondWaits).2
    · by_cases secondKey : second = key
      · rw [secondKey, Function.update_self] at secondWaits
        cases secondWaits
        exact absurd rfl (below first _ firstKey firstWaits).2
      · exact slots.distinct first second slot (below first slot firstKey firstWaits).1
          (below second slot secondKey secondWaits).1
  empty := by
    intro other slot waits
    by_cases here : other = key
    · rw [here, Function.update_self] at waits
      cases waits
      exact slots.unused slots.fresh (Nat.le_refl _)
    · rw [Function.update_of_ne here] at waits
      exact slots.empty other slot waits
  used := by
    intro other slot waits
    by_cases here : other = key
    · rw [here, Function.update_self] at waits
      cases waits
      exact Nat.lt_succ_self _
    · rw [Function.update_of_ne here] at waits
      exact Nat.lt_succ_of_lt (slots.used other slot waits)
  unused := fun slot above => slots.unused slot (Nat.le_of_succ_le above)

/-- `release`. -/
def release (slots : LinkSlots) (key : PendingKey) : LinkSlots :=
  have kept : forall other slot, Function.update slots.pending key none other = some slot ->
      slots.pending other = some slot := by
    intro other slot waits
    by_cases here : other = key
    · rw [here, Function.update_self] at waits
      cases waits
    · rw [Function.update_of_ne here] at waits
      exact waits
  { slots with
    pending := Function.update slots.pending key none
    distinct := fun first second slot firstWaits secondWaits =>
      slots.distinct first second slot (kept first slot firstWaits) (kept second slot secondWaits)
    empty := fun other slot waits => slots.empty other slot (kept other slot waits)
    used := fun other slot waits => slots.used other slot (kept other slot waits) }

/-- `reserve`. -/
def reserve (slots : LinkSlots) (key : PendingKey) : LinkSlots × Result Future :=
  match slots.pending key with
  | some _ => (slots, refuse .BUSY "an identical request is already in flight")
  | none => (slots.enter key, .ok ⟨key, slots.fresh⟩)

/-- Hand a frame to the slot of a key. -/
def fill (slots : LinkSlots) (key : PendingKey) (slot : Nat) (frame : Frame)
    (waits : slots.pending key = some slot) : LinkSlots where
  pending := (slots.release key).pending
  filled := Function.update slots.filled slot (some frame)
  fresh := slots.fresh
  distinct := (slots.release key).distinct
  empty := by
    intro other held otherWaits
    have different : other ≠ key := by
      rintro rfl
      rw [show (slots.release other).pending other = none from Function.update_self ..] at otherWaits
      cases otherWaits
    have before : slots.pending other = some held := by
      rw [← otherWaits]
      exact (Function.update_of_ne different ..).symm
    have apart : held ≠ slot := by
      rintro rfl
      exact different (slots.distinct other key held before waits)
    rw [Function.update_of_ne apart]
    exact slots.empty other held before
  used := (slots.release key).used
  unused := by
    intro other above
    rw [Function.update_of_ne (Nat.ne_of_gt (Nat.lt_of_lt_of_le (slots.used key slot waits) above))]
    exact slots.unused other above

/-- `deliver`.  A frame that nobody waits for is dropped. -/
def deliver (slots : LinkSlots) (frame : Frame) : LinkSlots :=
  match pendingKey frame with
  | none => slots
  | some key =>
      match waits : slots.pending key with
      | none => slots
      | some slot => slots.fill key slot frame waits

variable {slots : LinkSlots} {key : PendingKey} {slot : Nat} {frame : Frame}

/-- A frame for a key that waits goes into the slot of the key, which waits no longer. -/
theorem deliver_waiting (keyed : pendingKey frame = some key) (waits : slots.pending key = some slot) :
    (slots.deliver frame).pending key = none ∧ (slots.deliver frame).filled slot = some frame := by
  have delivered : slots.deliver frame = slots.fill key slot frame waits := by
    unfold deliver
    split
    · rename_i unkeyed
      rw [keyed] at unkeyed
      cases unkeyed
    · rename_i other otherKeyed
      rw [keyed] at otherKeyed
      cases otherKeyed
      split
      · rename_i absent
        rw [waits] at absent
        cases absent
      · rename_i found present
        rw [waits] at present
        cases present
        rfl
  rw [delivered]
  exact ⟨Function.update_self .., Function.update_self ..⟩

/-- What a delivery can do to the slots. -/
theorem deliver_cases (slots : LinkSlots) (frame : Frame) :
    slots.deliver frame = slots ∨ exists key slot, exists waits : slots.pending key = some slot,
      pendingKey frame = some key ∧ slots.deliver frame = slots.fill key slot frame waits := by
  unfold deliver
  split
  · exact Or.inl rfl
  · rename_i key keyed
    split
    · exact Or.inl rfl
    · rename_i slot waits
      exact Or.inr ⟨key, slot, waits, keyed, rfl⟩

theorem pending_deliver_of_ne (other : pendingKey frame ≠ some key) :
    (slots.deliver frame).pending key = slots.pending key := by
  rcases slots.deliver_cases frame with same | ⟨found, slot, waits, keyed, filled⟩
  · rw [same]
  · rw [filled]
    refine Function.update_of_ne ?_ ..
    rintro rfl
    exact other keyed

theorem pending_deliver_of_none (unreserved : slots.pending key = none) :
    (slots.deliver frame).pending key = none := by
  rcases slots.deliver_cases frame with same | ⟨found, slot, waits, keyed, filled⟩
  · rw [same]
    exact unreserved
  · rw [filled]
    by_cases here : key = found
    · rw [here]
      exact Function.update_self ..
    · exact (Function.update_of_ne here ..).trans unreserved

/-- A slot that has its frame keeps it. -/
theorem filled_deliver {held : Frame} (full : slots.filled slot = some held) :
    (slots.deliver frame).filled slot = some held := by
  rcases slots.deliver_cases frame with same | ⟨key, waiting, waits, keyed, filled⟩
  · rw [same]
    exact full
  · rw [filled]
    refine (Function.update_of_ne ?_ ..).trans full
    rintro rfl
    rw [slots.empty key slot waits] at full
    cases full

/-- What the callers and the reader do to a link. -/
inductive Act where
  | reserves (key : PendingKey)
  | releases (key : PendingKey)
  | delivers (frame : Frame)

def act (slots : LinkSlots) : Act -> LinkSlots
  | .reserves key => (slots.reserve key).1
  | .releases key => slots.release key
  | .delivers frame => slots.deliver frame

/-- The frame that is brought for a key. -/
def Act.brings (key : PendingKey) : Act -> Option Frame
  | .delivers frame => if pendingKey frame = some key then some frame else none
  | _ => none

end LinkSlots

/-! ## The reader and one call -/

/-- A session reader with what it has not read yet, and a call that uses the link. -/
structure Exchange (α : Type) where
  slots : LinkSlots
  incoming : List Frame
  driver : CoordinatorProgram α

/-- The reader reads a frame, the call performs its next operation, or it gives up
waiting.  Operations that do not concern the link get any answer. -/
inductive ExchangeAct where
  | reads
  | drives (answer : forall op : CoordinatorOp, op.Reply)
  | timesOut

namespace Exchange

variable {α : Type}

/-- One move.  A call that waits cannot go on before its slot is filled, and it does not
give up before everything has arrived. -/
def step (exchange : Exchange α) : ExchangeAct -> Option (Exchange α)
  | .reads =>
      match exchange.incoming with
      | [] => none
      | frame :: rest =>
          some { exchange with slots := exchange.slots.deliver frame, incoming := rest }
  | .drives answer =>
      match exchange.driver with
      | .finish _ => none
      | .perform (.reserve _ key) next =>
          some { exchange with
            slots := (exchange.slots.reserve key).1
            driver := next (exchange.slots.reserve key).2 }
      | .perform (.release _ key) next =>
          some { exchange with slots := exchange.slots.release key, driver := next () }
      | .perform (.await _ future _) next =>
          (exchange.slots.filled future.slot).map fun frame =>
            { exchange with driver := next (.ok frame) }
      | .perform op next => some { exchange with driver := next (answer op) }
  | .timesOut =>
      match exchange.driver with
      | .perform (.await _ future what) next =>
          if exchange.incoming = [] ∧ exchange.slots.filled future.slot = none then
            some { exchange with
              slots := exchange.slots.release future.key
              driver := next (refuse .IO_TIMEOUT ("the endpoint did not answer " ++ what)) }
          else none
      | _ => none

end Exchange

/-- The result for a movement that a frame brings. -/
def resultFor (id : MovementId) (frame : Frame) : Option AttemptResult :=
  if pendingKey frame = some (.attemptResult id) then
    (decodeMessage AttemptResult.decode frame).toOption
  else none

theorem resultFor_eq_some {id : MovementId} {frame : Frame} {result : AttemptResult}
    (brought : resultFor id frame = some result) :
    pendingKey frame = some (.attemptResult id) ∧
      decodeMessage AttemptResult.decode frame = .ok result ∧ result.movementId = id := by
  unfold resultFor at brought
  split at brought
  · rename_i keyed
    have decoded := toOption_eq_some.mp brought
    have type : MessageType.ATTEMPT_RESULT = frame.type := type_of_pendingKey keyed
    have key := keyed
    unfold pendingKey at key
    rw [← type] at key
    rcases keyOf_eq_some key with ⟨message, same, equal⟩
    cases decoded.symm.trans same
    exact ⟨keyed, decoded, FixedId.ext (congrArg PendingKey.subject equal)⟩
  · cases brought

theorem pendingKey_of_resultFor_none {id : MovementId} {frame : Frame}
    (unrelated : resultFor id frame = none) : pendingKey frame ≠ some (.attemptResult id) := by
  intro keyed
  unfold resultFor at unrelated
  rw [if_pos keyed] at unrelated
  have type : MessageType.ATTEMPT_RESULT = frame.type := type_of_pendingKey keyed
  unfold pendingKey at keyed
  rw [← type] at keyed
  rcases keyOf_eq_some keyed with ⟨message, decoded, -⟩
  rw [decoded] at unrelated
  cases unrelated

/-! ## The result loop -/

variable {allowed : Nat} {frames : List Frame}

section ResultLoop

variable {link : LinkId} {attempt : TransferAttemptId} {patience : Nat} {future : Future}
  {record : MovementRecord}

/-- The record with the note that a stale completion leaves. -/
def noteStale (record : MovementRecord) (now : Millis) : MovementRecord :=
  record.note .STALE_REJECTED .STALE_ATTEMPT now
    (ascii "discarded a completion that names a different movement or attempt")

/-- What the loop does with a completion that it has taken. -/
structure Takes (link : LinkId) (attempt : TransferAttemptId) (patience : Nat)
    (record : MovementRecord)
    (next : Result Frame -> CoordinatorProgram (Progress (MovementRecord × AttemptResult))) :
    Prop where
  mine : forall frame result, decodeMessage AttemptResult.decode frame = .ok result ->
    result.movementId = record.id -> result.attempt = attempt ->
    next (.ok frame) = .finish (.goOn (record, result))
  stale : forall frame result, decodeMessage AttemptResult.decode frame = .ok result ->
    result.attempt ≠ attempt -> exists noted, next (.ok frame) = .perform .unixMillis noted ∧
      forall left, patience = left + 1 -> forall now, exists again,
        noted now = .perform (.reserve link (.attemptResult record.id)) again ∧
          forall reserved, again (.ok reserved) =
            awaitResult link attempt left reserved (noteStale record now)

theorem awaitResult_takes : exists next,
    awaitResult link attempt patience future record =
        .perform (.await link future "the attempt result") next ∧
      Takes link attempt patience record next := by
  have ours : forall result : AttemptResult, result.movementId = record.id ->
      result.attempt = attempt ->
      ¬ (result.movementId ≠ record.id ∨ result.attempt ≠ attempt) := by
    rintro result named own (otherMovement | otherAttempt)
    · exact otherMovement named
    · exact otherAttempt own
  cases patience with
  | zero =>
      refine ⟨_, rfl, ⟨fun frame result decoded named own => ?_,
        fun frame result decoded other => ?_⟩⟩
      · dsimp only [Program.bind]
        rw [decoded]
        dsimp only
        rw [if_neg (ours result named own)]
        rfl
      · dsimp only [Program.bind]
        rw [decoded]
        dsimp only
        rw [if_pos (Or.inr other)]
        exact ⟨_, rfl, fun left impossible => (by cases impossible)⟩
  | succ left =>
      refine ⟨_, rfl, ⟨fun frame result decoded named own => ?_,
        fun frame result decoded other => ?_⟩⟩
      · dsimp only [Program.bind]
        rw [decoded]
        dsimp only
        rw [if_neg (ours result named own)]
        rfl
      · dsimp only [Program.bind]
        rw [decoded]
        dsimp only
        rw [if_pos (Or.inr other)]
        refine ⟨_, rfl, fun fewer same now => ⟨_, rfl, fun reserved => ?_⟩⟩
        cases same
        rfl

/-! ## No completion is lost that finds a slot -/

/-- What is still to be read: at most so many results of other attempts, and at the end
the result of this one. -/
inductive Outstanding (id : MovementId) (attempt : TransferAttemptId) (current : AttemptResult) :
    Nat -> List Frame -> Prop where
  | mine (allowed : Nat) (frame : Frame) (brought : resultFor id frame = some current) :
      Outstanding id attempt current allowed [frame]
  | unrelated (allowed : Nat) (frame : Frame) (rest : List Frame)
      (silent : resultFor id frame = none) (later : Outstanding id attempt current allowed rest) :
      Outstanding id attempt current allowed (frame :: rest)
  | stale (allowed : Nat) (frame : Frame) (rest : List Frame) (result : AttemptResult)
      (brought : resultFor id frame = some result) (other : result.attempt ≠ attempt)
      (later : Outstanding id attempt current allowed rest) :
      Outstanding id attempt current (allowed + 1) (frame :: rest)

theorem Outstanding.mono {id : MovementId} {current : AttemptResult} {more : Nat}
    (outstanding : Outstanding id attempt current allowed frames) (atMost : allowed ≤ more) :
    Outstanding id attempt current more frames := by
  induction outstanding generalizing more with
  | mine allowed frame brought => exact .mine more frame brought
  | unrelated allowed frame rest silent later ih => exact .unrelated more frame rest silent (ih atMost)
  | stale allowed frame rest result brought other later ih =>
      rcases more with _ | more
      · cases atMost
      · exact .stale more frame rest result brought other (ih (Nat.le_of_succ_le_succ atMost))

theorem outstanding_of_early {id : MovementId} {current : AttemptResult} {early : List Frame}
    {last : Frame}
    (stale : forall frame, frame ∈ early -> forall result, resultFor id frame = some result ->
      result.attempt ≠ attempt) (brought : resultFor id last = some current) :
    Outstanding id attempt current (early.filterMap (resultFor id)).length (early ++ [last]) := by
  induction early with
  | nil => exact .mine 0 last brought
  | cons frame rest ih =>
      have later := ih fun other inside => stale other (List.mem_cons_of_mem frame inside)
      cases found : resultFor id frame with
      | none =>
          rw [List.filterMap_cons_none found]
          exact .unrelated _ frame _ found later
      | some result =>
          rw [List.filterMap_cons_some found, List.length_cons]
          exact .stale _ frame _ result found (stale frame List.mem_cons_self result found) later

/-- Where the loop is, with the number of moves that are left at most. -/
inductive Waiting (id : MovementId) (link : LinkId) (attempt : TransferAttemptId)
    (current : AttemptResult) :
    Nat -> Exchange (Progress (MovementRecord × AttemptResult)) -> Prop where
  | reserved (slots : LinkSlots) (incoming : List Frame) (patience : Nat) (future : Future)
      (record : MovementRecord) (same : record.id = id)
      (waits : slots.pending (.attemptResult id) = some future.slot)
      (outstanding : Outstanding id attempt current patience incoming) :
      Waiting id link attempt current (incoming.length + 3 * patience + 3)
        ⟨slots, incoming, awaitResult link attempt patience future record⟩
  | stale (slots : LinkSlots) (incoming : List Frame) (left : Nat) (future : Future)
      (record : MovementRecord) (same : record.id = id) (frame : Frame) (result : AttemptResult)
      (unreserved : slots.pending (.attemptResult id) = none)
      (full : slots.filled future.slot = some frame) (brought : resultFor id frame = some result)
      (other : result.attempt ≠ attempt)
      (outstanding : Outstanding id attempt current left incoming) :
      Waiting id link attempt current (incoming.length + 3 * (left + 1) + 3)
        ⟨slots, incoming, awaitResult link attempt (left + 1) future record⟩
  | noting (slots : LinkSlots) (incoming : List Frame) (left : Nat) (record : MovementRecord)
      (same : record.id = id) (unreserved : slots.pending (.attemptResult id) = none)
      (outstanding : Outstanding id attempt current left incoming)
      (noted : Millis -> CoordinatorProgram (Progress (MovementRecord × AttemptResult)))
      (goesOn : forall now, exists again,
        noted now = .perform (.reserve link (.attemptResult record.id)) again ∧
          forall reserved, again (.ok reserved) =
            awaitResult link attempt left reserved (noteStale record now)) :
      Waiting id link attempt current (incoming.length + 3 * left + 5)
        ⟨slots, incoming, .perform .unixMillis noted⟩
  | reserving (slots : LinkSlots) (incoming : List Frame) (left : Nat) (record : MovementRecord)
      (same : record.id = id) (unreserved : slots.pending (.attemptResult id) = none)
      (outstanding : Outstanding id attempt current left incoming)
      (again : Result Future -> CoordinatorProgram (Progress (MovementRecord × AttemptResult)))
      (goesOn : forall reserved, again (.ok reserved) =
        awaitResult link attempt left reserved record) :
      Waiting id link attempt current (incoming.length + 3 * left + 4)
        ⟨slots, incoming, .perform (.reserve link (.attemptResult id)) again⟩
  | delivered (slots : LinkSlots) (patience : Nat) (future : Future) (record : MovementRecord)
      (same : record.id = id) (frame : Frame) (full : slots.filled future.slot = some frame)
      (brought : resultFor id frame = some current) :
      Waiting id link attempt current 1
        ⟨slots, [], awaitResult link attempt patience future record⟩
  | accepted (slots : LinkSlots) (record : MovementRecord) :
      Waiting id link attempt current 0 ⟨slots, [], .finish (.goOn (record, current))⟩

/-- The loop has ended with this result. -/
def AcceptsCurrent (current : AttemptResult)
    (exchange : Exchange (Progress (MovementRecord × AttemptResult))) : Prop :=
  exists record, exchange.driver = .finish (.goOn (record, current))

end ResultLoop

/-- The reader reads the result of the current attempt only while a slot is reserved for
it. -/
def findsSlot {α : Type} (id : MovementId) (attempt : TransferAttemptId) (exchange : Exchange α) :
    ExchangeAct -> Bool
  | .reads =>
      match exchange.incoming with
      | [] => true
      | frame :: _ =>
          (resultFor id frame).all fun result =>
            result.attempt != attempt || (exchange.slots.pending (.attemptResult id)).isSome
  | _ => true

section NoLoss

variable {id : MovementId} {link : LinkId} {attempt : TransferAttemptId} {current : AttemptResult}
  {rank : Nat} {exchange next : Exchange (Progress (MovementRecord × AttemptResult))}

theorem Outstanding.ne_nil (outstanding : Outstanding id attempt current allowed frames) :
    frames ≠ [] := by
  cases outstanding <;> exact List.cons_ne_nil _ _

/-- While no slot is reserved only other frames are read, and the result stays
outstanding. -/
theorem Outstanding.read_unreserved {frame : Frame} {rest : List Frame} {slots : LinkSlots}
    {driver : CoordinatorProgram (Progress (MovementRecord × AttemptResult))}
    (outstanding : Outstanding id attempt current allowed (frame :: rest))
    (own : current.attempt = attempt) (unreserved : slots.pending (.attemptResult id) = none)
    (finds : findsSlot id attempt ⟨slots, frame :: rest, driver⟩ .reads = true) :
    Outstanding id attempt current allowed rest := by
  cases outstanding with
  | mine _ _ brought =>
      unfold findsSlot at finds
      dsimp only at finds
      rw [brought, unreserved, Option.all_some, own, bne_self_eq_false] at finds
      cases finds
  | unrelated _ _ _ silent later => exact later
  | stale fewer _ _ result brought other later => exact later.mono (Nat.le_succ fewer)

theorem Waiting.reads (waiting : Waiting id link attempt current rank exchange)
    (own : current.attempt = attempt) (finds : findsSlot id attempt exchange .reads = true)
    (moved : exchange.step .reads = some next) :
    exists lower, lower < rank ∧ Waiting id link attempt current lower next := by
  cases waiting with
  | reserved slots incoming patience future record same waits outstanding =>
      cases outstanding with
      | mine _ frame brought =>
          cases moved
          have delivered := LinkSlots.deliver_waiting (resultFor_eq_some brought).1 waits
          exact ⟨1, by omega, .delivered _ patience future record same frame delivered.2 brought⟩
      | unrelated _ frame rest silent later =>
          cases moved
          have waits' := (LinkSlots.pending_deliver_of_ne
            (pendingKey_of_resultFor_none silent)).trans waits
          exact ⟨_, by rw [List.length_cons]; omega,
            .reserved _ rest patience future record same waits' later⟩
      | stale fewer frame rest result brought other later =>
          cases moved
          have delivered := LinkSlots.deliver_waiting (resultFor_eq_some brought).1 waits
          exact ⟨_, by rw [List.length_cons]; omega,
            .stale _ rest fewer future record same frame result delivered.1 delivered.2 brought
              other later⟩
  | stale slots incoming left future record same frame result unreserved full brought other
      outstanding =>
      rcases incoming with _ | ⟨first, rest⟩
      · cases moved
      · cases moved
        exact ⟨_, by rw [List.length_cons]; omega,
          .stale _ rest left future record same frame result
            (LinkSlots.pending_deliver_of_none unreserved) (LinkSlots.filled_deliver full) brought
            other (outstanding.read_unreserved own unreserved finds)⟩
  | noting slots incoming left record same unreserved outstanding noted goesOn =>
      rcases incoming with _ | ⟨first, rest⟩
      · cases moved
      · cases moved
        exact ⟨_, by rw [List.length_cons]; omega,
          .noting _ rest left record same (LinkSlots.pending_deliver_of_none unreserved)
            (outstanding.read_unreserved own unreserved finds) noted goesOn⟩
  | reserving slots incoming left record same unreserved outstanding again goesOn =>
      rcases incoming with _ | ⟨first, rest⟩
      · cases moved
      · cases moved
        exact ⟨_, by rw [List.length_cons]; omega,
          .reserving _ rest left record same (LinkSlots.pending_deliver_of_none unreserved)
            (outstanding.read_unreserved own unreserved finds) again goesOn⟩
  | delivered slots patience future record same frame full brought => cases moved
  | accepted slots record => cases moved

/-- A call that waits takes the frame of its slot. -/
theorem step_awaiting {slots : LinkSlots} {incoming : List Frame} {future : Future} {what : String}
    {answers : coordinatorSignature.Reply (.await link future what) ->
      CoordinatorProgram (Progress (MovementRecord × AttemptResult))}
    (answer : forall op : CoordinatorOp, op.Reply) {frame : Frame}
    (full : slots.filled future.slot = some frame) :
    Exchange.step ⟨slots, incoming, .perform (.await link future what) answers⟩ (.drives answer) =
      some ⟨slots, incoming, answers (.ok frame)⟩ := by
  change (slots.filled future.slot).map _ = _
  rw [full]
  rfl

theorem Waiting.drives (waiting : Waiting id link attempt current rank exchange)
    (own : current.attempt = attempt) {answer : forall op : CoordinatorOp, op.Reply}
    (moved : exchange.step (.drives answer) = some next) :
    exists lower, lower < rank ∧ Waiting id link attempt current lower next := by
  cases waiting with
  | reserved slots incoming patience future record same waits outstanding =>
      rcases awaitResult_takes with ⟨answers, program, -⟩
      rw [program] at moved
      change (slots.filled future.slot).map _ = _ at moved
      rw [slots.empty _ _ waits] at moved
      cases moved
  | stale slots incoming left future record same frame result unreserved full brought other
      outstanding =>
      rcases awaitResult_takes with ⟨answers, program, takes⟩
      rw [program, step_awaiting answer full] at moved
      cases moved
      rcases takes.stale frame result (resultFor_eq_some brought).2.1 other with
        ⟨noted, performs, goesOn⟩
      rw [performs]
      exact ⟨_, by omega, .noting slots incoming left record same unreserved outstanding noted
        (goesOn left rfl)⟩
  | noting slots incoming left record same unreserved outstanding noted goesOn =>
      cases moved
      rcases goesOn (answer .unixMillis) with ⟨again, performs, resumes⟩
      rw [performs, same]
      exact ⟨_, Nat.lt_succ_self _, .reserving slots incoming left
        (noteStale record (answer .unixMillis)) same unreserved outstanding again resumes⟩
  | reserving slots incoming left record same unreserved outstanding again goesOn =>
      cases moved
      have granted : slots.reserve (.attemptResult id) =
          (slots.enter (.attemptResult id), .ok ⟨.attemptResult id, slots.fresh⟩) := by
        unfold LinkSlots.reserve
        rw [unreserved]
      rw [granted, goesOn]
      exact ⟨_, Nat.lt_succ_self _, .reserved _ incoming left ⟨.attemptResult id, slots.fresh⟩
        record same (Function.update_self ..) outstanding⟩
  | delivered slots patience future record same frame full brought =>
      rcases awaitResult_takes with ⟨answers, program, takes⟩
      rw [program, step_awaiting answer full] at moved
      cases moved
      rcases resultFor_eq_some brought with ⟨-, decoded, named⟩
      rw [takes.mine frame current decoded (named.trans same.symm) own]
      exact ⟨0, Nat.one_pos, .accepted slots record⟩
  | accepted slots record => cases moved

/-- The loop never gives up: what it waits for has arrived or is still to be read. -/
theorem Waiting.not_timesOut (waiting : Waiting id link attempt current rank exchange) :
    exchange.step .timesOut = none := by
  cases waiting with
  | reserved slots incoming patience future record same waits outstanding =>
      rcases awaitResult_takes with ⟨answers, program, -⟩
      rw [program]
      exact if_neg fun both => outstanding.ne_nil both.1
  | stale slots incoming left future record same frame result unreserved full brought other
      outstanding =>
      rcases awaitResult_takes with ⟨answers, program, -⟩
      rw [program]
      refine if_neg fun both => ?_
      rw [full] at both
      cases both.2
  | noting slots incoming left record same unreserved outstanding noted goesOn => rfl
  | reserving slots incoming left record same unreserved outstanding again goesOn => rfl
  | delivered slots patience future record same frame full brought =>
      rcases awaitResult_takes with ⟨answers, program, -⟩
      rw [program]
      refine if_neg fun both => ?_
      rw [full] at both
      cases both.2
  | accepted slots record => rfl

/-- Answers for the operations that do not concern the link. -/
def someAnswers (op : CoordinatorOp) : op.Reply := ({} : Environment).reply newStore op

theorem Waiting.accepted_of_stuck (waiting : Waiting id link attempt current rank exchange)
    (stuck : Stuck (restricted (findsSlot id attempt) Exchange.step) exchange) :
    AcceptsCurrent current exchange := by
  have drives : exchange.step (.drives someAnswers) = none := stuck (.drives someAnswers)
  cases waiting with
  | reserved slots incoming patience future record same waits outstanding =>
      rcases incoming with _ | ⟨frame, rest⟩
      · exact absurd rfl outstanding.ne_nil
      · have reads := stuck .reads
        have finds : findsSlot id attempt
            ⟨slots, frame :: rest, awaitResult link attempt patience future record⟩ .reads = true := by
          unfold findsSlot
          dsimp only
          rw [waits]
          cases resultFor id frame with
          | none => rfl
          | some result => exact Bool.or_true _
        rw [restricted, if_pos finds] at reads
        cases reads
  | stale slots incoming left future record same frame result unreserved full brought other
      outstanding =>
      rcases awaitResult_takes with ⟨answers, program, -⟩
      rw [program, step_awaiting someAnswers full] at drives
      cases drives
  | noting slots incoming left record same unreserved outstanding noted goesOn => cases drives
  | reserving slots incoming left record same unreserved outstanding again goesOn => cases drives
  | delivered slots patience future record same frame full brought =>
      rcases awaitResult_takes with ⟨answers, program, -⟩
      rw [program, step_awaiting someAnswers full] at drives
      cases drives
  | accepted slots record => exact ⟨record, rfl⟩

/-- The driver waits with a reserved slot.  Among the frames still to be read at most three
are results of other attempts, and the last one is the result of this attempt.  However
reader and driver take turns, if the last frame is read only while a slot is reserved, the
driver accepts that result. -/
theorem accepted_of_findsSlot (link : LinkId) (slots : LinkSlots) (future : Future)
    (record : MovementRecord) (attempt : TransferAttemptId) (early : List Frame) (last : Frame)
    (current : AttemptResult)
    (waits : slots.pending (.attemptResult record.id) = some future.slot)
    (stale : forall frame, frame ∈ early -> forall result,
      resultFor record.id frame = some result -> result.attempt ≠ attempt)
    (few : (early.filterMap (resultFor record.id)).length ≤ 3)
    (brought : resultFor record.id last = some current) (own : current.attempt = attempt) :
    Inevitable (restricted (findsSlot record.id attempt) Exchange.step) (AcceptsCurrent current)
      ⟨slots, early ++ [last], awaitResult link attempt 3 future record⟩ := by
  have outstanding := (outstanding_of_early stale brought).mono few
  have begins : Waiting record.id link attempt current _
      ⟨slots, early ++ [last], awaitResult link attempt 3 future record⟩ :=
    .reserved slots _ 3 future record rfl waits outstanding
  refine inevitable_of_rank (fun rank exchange waiting stuck => waiting.accepted_of_stuck stuck)
    (fun rank exchange act next waiting moved => ?_) begins
  rcases restricted_eq_some.mp moved with ⟨finds, moved⟩
  cases act with
  | reads => exact waiting.reads own finds moved
  | drives answer => exact waiting.drives own moved
  | timesOut =>
      rw [waiting.not_timesOut] at moved
      cases moved

end NoLoss

/-! ## Two completions in a row -/

/-- The result of an attempt of the smallest movement. -/
def resultOf (attempt : TransferAttemptId) : AttemptResult :=
  ⟨.filled 1, ⟨2⟩, attempt, .BYTES_ARRIVED, .OK, [], oneByteDigest, 1, 1, .zero⟩

/-- Attempt 3 waits; the results of attempt 2 and of attempt 3 are still to be read. -/
def backToBack : Exchange (Progress (MovementRecord × AttemptResult)) where
  slots := LinkSlots.idle.enter (.attemptResult (.filled 1))
  incoming := [(resultOf (.filled 2)).frame] ++ [(resultOf (.filled 3)).frame]
  driver := awaitResult 0 (.filled 3) 3 ⟨.attemptResult (.filled 1), 0⟩
    (oneByteMovement .TRANSFERRING)

theorem accepted_backToBack :
    Inevitable (restricted (findsSlot (.filled 1) (.filled 3)) Exchange.step)
      (AcceptsCurrent (resultOf (.filled 3))) backToBack := by
  have stale : resultFor (.filled 1) (resultOf (.filled 2)).frame = some (resultOf (.filled 2)) := by
    decide +kernel
  refine accepted_of_findsSlot 0 (LinkSlots.idle.enter (.attemptResult (.filled 1)))
    ⟨.attemptResult (.filled 1), 0⟩ (oneByteMovement .TRANSFERRING) (.filled 3)
    [(resultOf (.filled 2)).frame] (resultOf (.filled 3)).frame (resultOf (.filled 3))
    (by decide) ?_ ?_ (by decide +kernel) rfl
  · intro frame inside result brought
    cases List.mem_singleton.mp inside
    rw [show (oneByteMovement .TRANSFERRING).id = .filled 1 from rfl, stale] at brought
    cases brought
    decide
  · decide +kernel

/-- The call has returned without a result, and nothing is left to be read. -/
def Exchange.hasGivenUp (exchange : Exchange (Progress (MovementRecord × AttemptResult))) : Bool :=
  match exchange.incoming, exchange.driver with
  | [], .finish (.returned _) => true
  | _, _ => false

theorem Exchange.lost_of_hasGivenUp
    {exchange : Exchange (Progress (MovementRecord × AttemptResult))}
    (gaveUp : exchange.hasGivenUp = true) (current : AttemptResult) :
    Stuck Exchange.step exchange ∧ ¬ AcceptsCurrent current exchange := by
  rcases exchange with ⟨slots, incoming, driver⟩
  unfold hasGivenUp at gaveUp
  split at gaveUp
  · rename_i status noFrames returned
    cases noFrames
    cases returned
    constructor
    · intro act
      cases act <;> rfl
    · rintro ⟨record, accepted⟩
      cases accepted
  · cases gaveUp

/-- The reader reads both results; the driver takes one, reserves a slot again and gives
up. -/
def bothReadFirst : List ExchangeAct :=
  [.reads, .reads] ++ List.replicate 3 (.drives someAnswers) ++ [.timesOut] ++
    List.replicate 3 (.drives someAnswers)

/-- Both results are read before the driver has taken the first one.  The second one finds
no slot and is dropped, and the driver waits in vain for another. -/
theorem lost_backToBack :
    resultFor (.filled 1) (resultOf (.filled 2)).frame = some (resultOf (.filled 2)) ∧
      resultFor (.filled 1) (resultOf (.filled 3)).frame = some (resultOf (.filled 3)) ∧
      ¬ Inevitable Exchange.step (AcceptsCurrent (resultOf (.filled 3))) backToBack := by
  refine ⟨by decide +kernel, by decide +kernel, ?_⟩
  have gaveUp : (follow Exchange.step backToBack bothReadFirst).any Exchange.hasGivenUp = true := by
    decide +kernel
  cases followed : follow Exchange.step backToBack bothReadFirst with
  | none =>
      rw [followed] at gaveUp
      cases gaveUp
  | some last =>
      rw [followed] at gaveUp
      rcases Exchange.lost_of_hasGivenUp gaveUp (resultOf (.filled 3)) with ⟨stuck, missed⟩
      exact not_inevitable_of_follow followed stuck missed

end StateMovementFabric
