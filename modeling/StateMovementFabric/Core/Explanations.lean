import Mathlib.Data.List.Chain
import StateMovementFabric.Core.Transitions
import StateMovementFabric.Core.Limits

namespace StateMovementFabric

/-!
# Provenance explains the state

A record is changed by transitions, by attempts and by notes.  A transition or an attempt
that succeeds leaves one event with the state and the generation that the record then has.
A note carries the state and the generation that the record already has; it may be
refused, and its caller does not look.  After any sequence of such calls the chain tells
how the record came to its state, also when it has been written and read back under
another bound.
-/

/-! ## Calls on a record -/

inductive RecordCall where
  | transition (next : MovementState) (decision : MovementDecision) (kind : ProvenanceEventKind)
      (now : Millis)
  | attempt (id : TransferAttemptId) (now : Millis)
  | note (event : ProvenanceEvent)
  deriving DecidableEq

namespace RecordCall

/-- The record after a call, and what the call returns. -/
def perform (record : MovementRecord) : RecordCall -> MovementRecord × Result Unit
  | .transition next decision kind now => applyTransition record next decision kind now
  | .attempt id now => recordAttemptStarted record id now
  | .note event =>
      let appended := appendOrKeep record.provenance event
      ({ record with provenance := appended.1 }, appended.2)

/-- A transition or an attempt succeeds; a note speaks of the record as it is. -/
def Proper (record : MovementRecord) : RecordCall -> Prop
  | note event => event.state = record.state ∧ event.movementGeneration = record.generation
  | call => (call.perform record).2 = .ok ()

instance (record : MovementRecord) (call : RecordCall) : Decidable (call.Proper record) :=
  match call with
  | note _ => inferInstanceAs (Decidable (_ ∧ _))
  | transition _ _ _ _ => inferInstanceAs (Decidable (_ = _))
  | attempt _ _ => inferInstanceAs (Decidable (_ = _))

def isAttempt : RecordCall -> Bool
  | attempt _ _ => true
  | _ => false

end RecordCall

namespace MovementRecord

/-- Every call of a sequence is proper where it is made. -/
def Accepts : MovementRecord -> List RecordCall -> Prop
  | _, [] => True
  | record, call :: rest => call.Proper record ∧ Accepts (call.perform record).1 rest

/-- Decides `Accepts` by making the calls. -/
def decidableAccepts : (record : MovementRecord) -> (calls : List RecordCall) ->
    Decidable (record.Accepts calls)
  | _, [] => .isTrue trivial
  | record, call :: rest =>
      have := decidableAccepts (call.perform record).1 rest
      inferInstanceAs (Decidable (call.Proper record ∧ Accepts (call.perform record).1 rest))

instance (record : MovementRecord) (calls : List RecordCall) : Decidable (record.Accepts calls) :=
  decidableAccepts record calls

/-- The record after a sequence of calls. -/
def after (record : MovementRecord) (calls : List RecordCall) : MovementRecord :=
  calls.foldl (fun record call => (call.perform record).1) record

/-- A planned record that no attempt was made for and whose only event says that it was
created. -/
structure Fresh (record : MovementRecord) : Prop where
  state : record.state = .PLANNED
  attemptCount : record.attemptCount = 0
  created : exists (empty : ProvenanceChain) (event : ProvenanceEvent), empty.events = [] ∧
    empty.append event = .ok record.provenance ∧ event.kind = .CREATED ∧
    event.state = .PLANNED ∧ event.movementGeneration = record.generation

/-- The chain of a record explains its state. -/
structure Explained (record : MovementRecord) (attempts : Nat) : Prop where
  numbered : record.provenance.events.map (fun event => event.sequence.toNat) =
    List.range' 1 record.provenance.events.length
  bounded : record.provenance.events.length ≤ record.provenance.bound
  generations : record.provenance.events.Pairwise fun earlier later =>
    earlier.movementGeneration.value ≤ later.movementGeneration.value
  states : record.provenance.events.IsChain fun earlier later =>
    later.state = earlier.state ∨ (earlier.state, later.state) ∈ kTransitions
  last : exists event, record.provenance.events.getLast? = some event ∧
    event.state = record.state ∧ event.movementGeneration = record.generation
  attempts : record.attemptCount.toNat = attempts
  survives : exists decoded,
    decodeAll ProvenanceChain.decode record.provenance.encode {} = .ok decoded ∧
      decoded.events = record.provenance.events

end MovementRecord

/-! ## What an append does -/

variable {event : ProvenanceEvent}

/-- An event that is appended is the last one, with the number it was given. -/
theorem ProvenanceChain.grown_of_append {chain longer : ProvenanceChain}
    (appended : chain.append event = .ok longer) :
    chain.events.length < chain.bound ∧ longer.bound = chain.bound ∧
      exists last, longer.events = chain.events ++ [last] ∧ last.kind = event.kind ∧
        last.state = event.state ∧ last.movementGeneration = event.movementGeneration := by
  unfold append at appended
  split at appended
  · rename_i room
    dsimp only at appended
    generalize same : (if (event.sequence == 0) = true then
      { event with sequence := chain.nextSequence } else event) = given at appended
    split at appended
    · split at appended
      · cases appended
        refine ⟨room, rfl, given, rfl, ?_⟩
        rw [← same]
        split
        · exact ⟨rfl, rfl, rfl⟩
        · exact ⟨rfl, rfl, rfl⟩
      · cases appended
    · cases appended
  · cases appended

theorem appendOrKeep_cases (chain : ProvenanceChain) (event : ProvenanceEvent) :
    (exists longer, chain.append event = .ok longer ∧ appendOrKeep chain event = (longer, .ok ())) ∨
      exists status, appendOrKeep chain event = (chain, .error status) := by
  unfold appendOrKeep
  cases chain.append event with
  | ok longer => exact .inl ⟨longer, rfl, rfl⟩
  | error status => exact .inr ⟨status, rfl⟩

/-! ## What a call does -/

namespace MovementRecord

/-- The record got one more event, which speaks of the record as it is now. -/
structure Grows (record changed : MovementRecord) : Prop where
  room : record.provenance.events.length < record.provenance.bound
  bound : changed.provenance.bound = record.provenance.bound
  event : exists last, changed.provenance.events = record.provenance.events ++ [last] ∧
    last.state = changed.state ∧ last.movementGeneration = changed.generation
  state : changed.state = record.state ∨ (record.state, changed.state) ∈ kTransitions
  generation : record.generation.value ≤ changed.generation.value

variable {changed record : MovementRecord} {now : Millis} {attempts : Nat}

theorem grows_of_append (appended : record.provenance.append event = .ok changed.provenance)
    (state : event.state = changed.state)
    (generation : event.movementGeneration = changed.generation)
    (edge : changed.state = record.state ∨ (record.state, changed.state) ∈ kTransitions)
    (grown : record.generation.value ≤ changed.generation.value) : record.Grows changed := by
  rcases ProvenanceChain.grown_of_append appended with ⟨room, bound, last, events, _, named, dated⟩
  exact ⟨room, bound, ⟨last, events, named.trans state, dated.trans generation⟩, edge, grown⟩

theorem grows_of_applyTransition {next : MovementState} {decision : MovementDecision}
    {kind : ProvenanceEventKind}
    (success : (applyTransition record next decision kind now).2 = .ok ()) :
    record.Grows (applyTransition record next decision kind now).1 ∧
      (applyTransition record next decision kind now).1.attemptCount = record.attemptCount := by
  unfold applyTransition at success ⊢
  cases legal : checkTransition record.state next with
  | error status =>
      rw [legal] at success
      cases success
  | ok _ =>
      rw [legal] at success
      dsimp only at success ⊢
      cases advanced : record.generation.next with
      | error status =>
          rw [advanced] at success
          cases success
      | ok successor =>
          rw [advanced] at success
          dsimp only at success ⊢
          rcases appendOrKeep_cases record.provenance (record.provenance.nextEvent kind next successor
            decision.code now decision.detail) with ⟨longer, appended, kept⟩ | ⟨status, kept⟩
          · rw [kept]
            exact ⟨grows_of_append appended rfl rfl (.inr (mem_kTransitions_of_legal legal))
              (UInt64.le_of_lt (Generation.lt_of_next advanced)), rfl⟩
          · rw [kept] at success
            cases success

theorem grows_of_recordAttemptStarted {attempt : TransferAttemptId}
    (success : (recordAttemptStarted record attempt now).2 = .ok ()) :
    record.Grows (recordAttemptStarted record attempt now).1 ∧
      (recordAttemptStarted record attempt now).1.attemptCount = record.attemptCount + 1 := by
  unfold recordAttemptStarted at success ⊢
  split at success
  · cases success
  · rename_i running
    rw [if_neg running]
    cases advanced : record.generation.next with
    | error status =>
        rw [advanced] at success
        cases success
    | ok successor =>
        rw [advanced] at success
        dsimp only at success ⊢
        rcases appendOrKeep_cases record.provenance
          { record.provenance.nextEvent .ATTEMPT_STARTED record.state successor .OK now
              (ascii "attempt " ++ decimal (record.attemptCount + 1).toNat) with attempt := attempt }
          with ⟨longer, appended, kept⟩ | ⟨status, kept⟩
        · rw [kept]
          exact ⟨grows_of_append appended rfl rfl (.inl rfl)
            (UInt64.le_of_lt (Generation.lt_of_next advanced)), rfl⟩
        · rw [kept] at success
          cases success

/-! ## Whole sequences -/

theorem survives_of_chain (chain : ProvenanceChain) :
    exists decoded, decodeAll ProvenanceChain.decode chain.encode {} = .ok decoded ∧
      decoded.events = chain.events := by
  have size := chain.length_encode_le
  exact chain.decodeAll_encode (by decide) (Nat.le_trans size (by decide))
    (Nat.le_trans size (by decide))

/-- One more event keeps the explanation. -/
theorem Explained.grow {before : Nat} (explained : record.Explained before)
    (grows : record.Grows changed) (counted : changed.attemptCount.toNat = attempts) :
    changed.Explained attempts := by
  rcases grows.event with ⟨last, events, named, dated⟩
  rcases explained.last with ⟨previous, final, sameState, sameGeneration⟩
  refine ⟨changed.provenance.numbered, ?_, ?_, ?_, ⟨last, ?_, named, dated⟩, counted,
    survives_of_chain _⟩
  · rw [events, grows.bound, List.length_append, List.length_singleton]
    exact grows.room
  · rw [events, List.pairwise_append]
    refine ⟨explained.generations, List.pairwise_singleton _ _, ?_⟩
    intro earlier inside newest same
    rw [List.mem_singleton.mp same, dated]
    -- The last event before had the largest generation so far, that of the record.
    have below : earlier.movementGeneration.value ≤ record.generation.value := by
      rw [← sameGeneration]
      rcases List.getLast?_eq_some_iff.mp final with ⟨front, split⟩
      have ordered := explained.generations
      rw [split] at ordered inside
      rcases List.mem_append.mp inside with front | end_
      · exact (List.pairwise_append.mp ordered).2.2 earlier front previous List.mem_cons_self
      · rw [List.mem_singleton.mp end_]
        exact UInt64.le_refl _
    exact UInt64.le_trans below grows.generation
  · rw [events]
    refine List.isChain_append.mpr ⟨explained.states, List.isChain_singleton _, ?_⟩
    intro earlier isLast newest isFirst
    rw [final] at isLast
    cases isLast
    cases isFirst
    rw [named, sameState]
    exact grows.state
  · rw [events, List.getLast?_append, List.getLast?_singleton]
    rfl

theorem Fresh.explained (fresh : record.Fresh) : record.Explained 0 := by
  rcases fresh.created with ⟨empty, event, none, appended, _, state, generation⟩
  rcases ProvenanceChain.grown_of_append appended with ⟨room, bound, last, events, _, named, dated⟩
  rw [none, List.nil_append] at events
  rw [none] at room
  refine ⟨record.provenance.numbered, ?_, ?_, ?_, ⟨last, ?_, ?_, dated.trans generation⟩, ?_,
    survives_of_chain _⟩
  · rw [events, bound]
    exact room
  · rw [events]
    exact List.pairwise_singleton _ _
  · rw [events]
    exact List.isChain_singleton _
  · rw [events]
    rfl
  · rw [named, state, fresh.state]
  · rw [fresh.attemptCount]
    rfl

/-- As many attempts as the count says, and no more events than the chain has room for. -/
theorem Explained.perform (explained : record.Explained attempts)
    (fewer : attempts < record.provenance.events.length) {call : RecordCall}
    (proper : call.Proper record) :
    (call.perform record).1.Explained (attempts + if call.isAttempt then 1 else 0) ∧
      (attempts + if call.isAttempt then 1 else 0) <
        (call.perform record).1.provenance.events.length := by
  have longer : forall changed, record.Grows changed ->
      changed.provenance.events.length = record.provenance.events.length + 1 := by
    intro changed grows
    rcases grows.event with ⟨last, events, _⟩
    rw [events, List.length_append, List.length_singleton]
  cases call with
  | transition next decision kind now =>
      rcases grows_of_applyTransition proper with ⟨grows, counted⟩
      refine ⟨explained.grow grows ?_, ?_⟩
      · change (applyTransition record next decision kind now).1.attemptCount.toNat = attempts
        rw [counted, explained.attempts]
      · change attempts + 0 < (applyTransition record next decision kind now).1.provenance.events.length
        rw [longer _ grows]
        omega
  | attempt id now =>
      rcases grows_of_recordAttemptStarted proper with ⟨grows, counted⟩
      have small : record.provenance.events.length ≤ 256 := record.provenance.length_le
      refine ⟨explained.grow grows ?_, ?_⟩
      · change (recordAttemptStarted record id now).1.attemptCount.toNat = attempts + 1
        rw [counted, UInt32.toNat_add, explained.attempts]
        change (attempts + 1) % 2 ^ 32 = attempts + 1
        omega
      · change attempts + 1 < (recordAttemptStarted record id now).1.provenance.events.length
        rw [longer _ grows]
        omega
  | note event =>
      change MovementRecord.Explained { record with
          provenance := (appendOrKeep record.provenance event).1 } attempts ∧
        attempts < (appendOrKeep record.provenance event).1.events.length
      rcases appendOrKeep_cases record.provenance event with ⟨chain, appended, kept⟩ | ⟨status, kept⟩
      · rw [kept]
        have grows : record.Grows { record with provenance := chain } :=
          grows_of_append appended proper.1 proper.2 (.inl rfl) (UInt64.le_refl _)
        refine ⟨explained.grow grows explained.attempts, ?_⟩
        rw [longer _ grows]
        omega
      · rw [kept]
        exact ⟨explained, fewer⟩

theorem Explained.after (explained : record.Explained attempts)
    (fewer : attempts < record.provenance.events.length) {calls : List RecordCall}
    (accepts : record.Accepts calls) :
    (record.after calls).Explained (attempts + calls.countP RecordCall.isAttempt) := by
  induction calls generalizing record attempts with
  | nil => exact explained
  | cons call rest ih =>
      rcases explained.perform fewer accepts.1 with ⟨kept, still⟩
      have later := ih kept still accepts.2
      rw [List.countP_cons, Nat.add_comm (List.countP _ rest), ← Nat.add_assoc]
      exact later

/-- After any sequence of proper calls on a fresh record, its provenance explains its
state. -/
theorem explained_of_fresh (record : MovementRecord) (fresh : record.Fresh)
    (calls : List RecordCall) (accepts : record.Accepts calls) :
    (record.after calls).Explained (calls.countP RecordCall.isAttempt) := by
  have started : 0 < record.provenance.events.length := by
    rcases fresh.created with ⟨empty, event, none, appended, _⟩
    rcases ProvenanceChain.grown_of_append appended with ⟨_, _, last, events, _⟩
    rw [events, List.length_append, List.length_singleton]
    exact Nat.succ_pos _
  have later := fresh.explained.after started accepts
  rw [Nat.zero_add] at later
  exact later

/-- The event that says that a movement was created. -/
def creation : ProvenanceEvent :=
  ProvenanceChain.empty.nextEvent .CREATED .PLANNED ⟨1⟩ .OK 1 []

/-- A movement that was just created. -/
def newMovement : MovementRecord :=
  { oneByteMovement .PLANNED with provenance := (appendOrKeep .empty creation).1 }

/-- It is authorized, starts its first attempt, and a stale completion is noted. -/
def firstCalls : List RecordCall :=
  [.transition .AUTHORIZED (.allow .OK []) .AUTHORIZED 2,
    .transition .TRANSFERRING (.allow .OK []) .PROGRESS 3, .attempt (.filled 5) 4,
    .note { creation with
      sequence := 0, kind := .STALE_REJECTED, state := .TRANSFERRING, movementGeneration := ⟨4⟩ }]

theorem explained_newMovement : (newMovement.after firstCalls).Explained 1 := by
  have fresh : newMovement.Fresh :=
    ⟨rfl, rfl, .empty, creation, rfl, by decide +kernel, rfl, rfl, rfl⟩
  exact explained_of_fresh newMovement fresh firstCalls (by decide +kernel)

end MovementRecord

end StateMovementFabric
