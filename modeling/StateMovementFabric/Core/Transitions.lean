import StateMovementFabric.Core.Canonical

namespace StateMovementFabric

/-!
# What a transition leaves behind

`applyTransition` changes the record before its last step, the append to the provenance
chain, which can still be refused.  The four ways in which a call can end are listed here
once.  In one of them the record has moved on although the caller is told that it has not.
-/

/-! ## The last step -/

theorem ProvenanceEvent.validate_eq_ok_iff {event : ProvenanceEvent} :
    event.validate = .ok () ↔ event.sequence ≠ 0 ∧ 0 < event.unixMillis ∧
      event.movementGeneration.isSet = true ∧ event.detail.length ≤ kMaxDetailBytes ∧
      (event.detail = [] ∨ isValidUtf8 event.detail = true) := by
  simp only [validate, check_bind_eq_ok, refuseWhen_eq_ok, beq_eq_false_iff_ne, ne_eq,
    decide_eq_false_iff_not, Bool.not_eq_false', gt_iff_lt, Nat.not_lt, Bool.and_eq_false_iff,
    List.isEmpty_iff, Int64.not_le]

/-- The successor of a generation is never the unset one. -/
theorem Generation.isSet_of_next {tag : GenerationTag} {generation successor : Generation tag}
    (advanced : generation.next = .ok successor) : successor.isSet = true := by
  have grown := Generation.next_toNat advanced
  rw [Generation.isSet, bne_iff_ne]
  intro zero
  rw [zero] at grown
  cases grown

theorem Generation.exists_next_iff {tag : GenerationTag} {generation : Generation tag} :
    (exists successor, generation.next = .ok successor) ↔
      generation.value ≠ 18446744073709551615 := by
  unfold Generation.next
  constructor
  · rintro ⟨successor, advanced⟩ exhausted
    rw [if_pos (beq_iff_eq.mpr exhausted)] at advanced
    cases advanced
  · intro remaining
    exact ⟨_, if_neg (mt beq_iff_eq.mp remaining)⟩

namespace ProvenanceChain

theorem nextSequence_ne_zero (chain : ProvenanceChain) : chain.nextSequence ≠ 0 := by
  intro zero
  have numbered := chain.nextSequence_toNat
  rw [zero] at numbered
  cases numbered

/-- There is room for one more event, and a time and a text for it. -/
def takes (chain : ProvenanceChain) (now : Millis) (detail : Text) : Bool :=
  decide (chain.events.length < chain.bound) && decide (0 < now) &&
    decide (detail.length ≤ kMaxDetailBytes) && (detail.isEmpty || isValidUtf8 detail)

variable {chain : ProvenanceChain} {kind : ProvenanceEventKind} {state : MovementState}
  {generation : MovementGeneration} {reason : ReasonCode} {now : Millis} {detail : Text}

theorem takes_iff : chain.takes now detail = true ↔
    chain.events.length < chain.bound ∧ 0 < now ∧ detail.length ≤ kMaxDetailBytes ∧
      (detail = [] ∨ isValidUtf8 detail = true) := by
  simp only [takes, Bool.and_eq_true, Bool.or_eq_true, decide_eq_true_eq, List.isEmpty_iff,
    and_assoc]

/-- The next event of a chain is appended, or the chain stays as it was. -/
theorem appendOrKeep_nextEvent (set : generation.isSet = true) :
    (chain.takes now detail = true ∧ exists longer : ProvenanceChain,
        longer.events =
          chain.events ++ [chain.nextEvent kind state generation reason now detail] ∧
        longer.bound = chain.bound ∧
        appendOrKeep chain (chain.nextEvent kind state generation reason now detail) =
          (longer, .ok ())) ∨
      chain.takes now detail = false ∧ exists status,
        appendOrKeep chain (chain.nextEvent kind state generation reason now detail) =
          (chain, .error status) := by
  have numbered : (chain.nextEvent kind state generation reason now detail).sequence.toNat =
      chain.events.length + 1 := chain.nextSequence_toNat
  have valid_iff : (chain.nextEvent kind state generation reason now detail).validate = .ok () ↔
      0 < now ∧ detail.length ≤ kMaxDetailBytes ∧ (detail = [] ∨ isValidUtf8 detail = true) := by
    rw [ProvenanceEvent.validate_eq_ok_iff]
    constructor
    · rintro ⟨_, positive, _, text⟩
      exact ⟨positive, text⟩
    · rintro ⟨positive, text⟩
      exact ⟨chain.nextSequence_ne_zero, positive, set, text⟩
  unfold appendOrKeep
  cases appended : chain.append (chain.nextEvent kind state generation reason now detail) with
  | ok longer =>
      rcases (append_eq_ok numbered).mp appended with ⟨room, valid, events, bound⟩
      exact .inl ⟨takes_iff.mpr ⟨room, valid_iff.mp valid⟩, longer, events, bound, rfl⟩
  | error status =>
      refine .inr ⟨?_, status, rfl⟩
      rw [Bool.eq_false_iff]
      intro taken
      rcases takes_iff.mp taken with ⟨room, valid⟩
      have pushed : chain.append (chain.nextEvent kind state generation reason now detail) =
          .ok (chain.push _ room rfl (valid_iff.mpr valid)) :=
        (append_eq_ok numbered).mpr ⟨room, valid_iff.mpr valid, rfl, rfl⟩
      cases appended.symm.trans pushed

/-- An event of the next number is appended if the chain takes its time and its text. -/
theorem append_of_takes (event : ProvenanceEvent)
    (numbered : event.sequence = chain.nextSequence) (set : event.movementGeneration.isSet = true)
    (taken : chain.takes event.unixMillis event.detail = true) :
    exists longer : ProvenanceChain, longer.events = chain.events ++ [event] ∧
      longer.bound = chain.bound ∧ chain.append event = .ok longer := by
  rcases takes_iff.mp taken with ⟨room, valid⟩
  have sound : event.validate = .ok () := by
    rw [ProvenanceEvent.validate_eq_ok_iff, numbered]
    exact ⟨chain.nextSequence_ne_zero, valid.1, set, valid.2⟩
  refine ⟨chain.push event room numbered sound, rfl, rfl, ?_⟩
  rw [append_eq_ok (numbered ▸ chain.nextSequence_toNat)]
  exact ⟨room, sound, rfl, rfl⟩

theorem appendOrKeep_of_takes (event : ProvenanceEvent)
    (numbered : event.sequence = chain.nextSequence) (set : event.movementGeneration.isSet = true)
    (taken : chain.takes event.unixMillis event.detail = true) :
    exists longer : ProvenanceChain, longer.events = chain.events ++ [event] ∧
      longer.bound = chain.bound ∧ appendOrKeep chain event = (longer, .ok ()) := by
  rcases chain.append_of_takes event numbered set taken with ⟨longer, events, bound, appended⟩
  refine ⟨longer, events, bound, ?_⟩
  unfold appendOrKeep
  rw [appended]

end ProvenanceChain

/-! ## Calls that succeed -/

/-- A legal transition whose event is taken leaves the changed record. -/
theorem applyTransition_of_takes {record : MovementRecord} {next : MovementState}
    {successor : MovementGeneration} {decision : MovementDecision} {kind : ProvenanceEventKind}
    {now : Millis} (legal : checkTransition record.state next = .ok ())
    (advanced : record.generation.next = .ok successor)
    (taken : record.provenance.takes now decision.detail = true) :
    exists longer : ProvenanceChain,
      longer.events.length = record.provenance.events.length + 1 ∧
      longer.bound = record.provenance.bound ∧
      applyTransition record next decision kind now =
        ({ record with
            generation := successor
            state := next
            lastReason := decision.code
            lastDetail := decision.detail
            updatedUnixMillis := now
            provenance := longer }, .ok ()) := by
  rcases ProvenanceChain.appendOrKeep_of_takes
      (record.provenance.nextEvent kind next successor decision.code now decision.detail) rfl
      (Generation.isSet_of_next advanced) taken with ⟨longer, events, bound, appended⟩
  refine ⟨longer, by rw [events, List.length_append]; rfl, bound, ?_⟩
  unfold applyTransition
  rw [legal, advanced]
  dsimp only
  rw [appended]

/-- An attempt whose event is taken is recorded. -/
theorem recordAttemptStarted_of_takes {record : MovementRecord} {attempt : TransferAttemptId}
    {successor : MovementGeneration} {now : Millis} (running : isTerminal record.state = false)
    (advanced : record.generation.next = .ok successor)
    (taken : record.provenance.takes now
      (ascii "attempt " ++ decimal (record.attemptCount + 1).toNat) = true) :
    exists longer : ProvenanceChain,
      longer.events.length = record.provenance.events.length + 1 ∧
      longer.bound = record.provenance.bound ∧
      recordAttemptStarted record attempt now =
        ({ record with
            generation := successor
            attempt := attempt
            attemptCount := record.attemptCount + 1
            updatedUnixMillis := now
            provenance := longer }, .ok ()) := by
  rcases ProvenanceChain.appendOrKeep_of_takes
      { record.provenance.nextEvent .ATTEMPT_STARTED record.state successor .OK now
          (ascii "attempt " ++ decimal (record.attemptCount + 1).toNat) with attempt := attempt } rfl
      (Generation.isSet_of_next advanced) taken with ⟨longer, events, bound, appended⟩
  refine ⟨longer, by rw [events, List.length_append]; rfl, bound, ?_⟩
  unfold recordAttemptStarted
  rw [if_neg (Bool.eq_false_iff.mp running), advanced]
  dsimp only
  rw [appended]

/-- A transition that is not to a commit leaves a valid record valid. -/
theorem MovementRecord.validate_applyTransition {record : MovementRecord} {next : MovementState}
    {decision : MovementDecision} {kind : ProvenanceEventKind} {now : Millis}
    (valid : record.validate = .ok ()) (uncommitted : next ≠ .COMMITTED)
    (short : decision.detail.length ≤ kMaxDetailBytes)
    (applied : succeeded (applyTransition record next decision kind now).2 = true) :
    (applyTransition record next decision kind now).1.validate = .ok () := by
  have checks := validate_eq_ok.mp valid
  unfold applyTransition at applied ⊢
  cases legal : checkTransition record.state next with
  | error status =>
      rw [legal] at applied
      cases applied
  | ok _ =>
      rw [legal] at applied
      dsimp only at applied ⊢
      cases advanced : record.generation.next with
      | error status =>
          rw [advanced] at applied
          cases applied
      | ok successor =>
          rw [validate_eq_ok]
          exact { checks with
            generation := Generation.isSet_of_next advanced
            marker := fun committed => absurd committed uncommitted
            detail := short }

/-! ## The whole call -/

/-- How `apply_transition` ends: the transition is not allowed, the generations are used up,
the event is refused after the record has changed, or all is done. -/
inductive Transition (record : MovementRecord) (next : MovementState) (decision : MovementDecision)
    (now : Millis) : MovementRecord -> Result Unit -> Prop where
  | illegal (changed : MovementRecord) (status : Status)
      (refused : checkTransition record.state next = .error status)
      (state : changed.state = record.state) (generation : changed.generation = record.generation) :
      Transition record next decision now changed (.error status)
  | exhausted (status : Status) (legal : checkTransition record.state next = .ok ())
      (refused : record.generation.next = .error status) :
      Transition record next decision now record (.error status)
  | unrecorded (changed : MovementRecord) (status : Status)
      (moved : record.Moved next changed)
      (refused : record.provenance.takes now decision.detail = false) :
      Transition record next decision now changed (.error status)
  | applied (changed : MovementRecord) (event : ProvenanceEvent) (moved : record.Moved next changed)
      (taken : record.provenance.takes now decision.detail = true)
      (events : changed.provenance.events = record.provenance.events ++ [event])
      (state : event.state = next) (generation : event.movementGeneration = changed.generation)
      (reason : event.reason = decision.code) :
      Transition record next decision now changed (.ok ())

section

variable (record : MovementRecord) (next : MovementState) (decision : MovementDecision)
  (kind : ProvenanceEventKind) (now : Millis)

theorem transition_applyTransition :
    Transition record next decision now (applyTransition record next decision kind now).1
      (applyTransition record next decision kind now).2 := by
  unfold applyTransition
  cases legal : checkTransition record.state next with
  | error status => exact .illegal _ status legal rfl rfl
  | ok _ =>
      dsimp only
      cases advanced : record.generation.next with
      | error status => exact .exhausted status legal advanced
      | ok successor =>
          dsimp only
          rcases ProvenanceChain.appendOrKeep_nextEvent (Generation.isSet_of_next advanced) with
            ⟨taken, longer, events, _, appended⟩ | ⟨refused, status, kept⟩
          · rw [appended]
            exact .applied _ _ ⟨rfl, rfl, rfl, rfl, legal, advanced⟩ taken events rfl rfl rfl
          · rw [kept]
            exact .unrecorded _ status ⟨rfl, rfl, rfl, rfl, legal, advanced⟩ refused

/-- A transition whose event is not taken is refused. -/
theorem error_of_not_takes (refused : record.provenance.takes now decision.detail = false) :
    exists changed status,
      applyTransition record next decision kind now = (changed, .error status) := by
  have ends := transition_applyTransition record next decision kind now
  generalize applyTransition record next decision kind now = after at ends ⊢
  rcases after with ⟨changed, result⟩
  cases ends with
  | illegal _ status => exact ⟨changed, status, rfl⟩
  | exhausted status => exact ⟨_, status, rfl⟩
  | unrecorded _ status => exact ⟨changed, status, rfl⟩
  | applied _ event moved taken => cases refused.symm.trans taken

/-- The transition is allowed and there is a generation for it. -/
def MovementRecord.movesTo (record : MovementRecord) (next : MovementState) : Bool :=
  succeeded (checkTransition record.state next) &&
    record.generation.value != 18446744073709551615

theorem MovementRecord.movesTo_of_moved {record changed : MovementRecord} {next : MovementState}
    (moved : record.Moved next changed) : record.movesTo next = true := by
  rw [movesTo, Bool.and_eq_true, bne_iff_ne, moved.legal]
  exact ⟨rfl, Generation.exists_next_iff.mp ⟨_, moved.generation⟩⟩

theorem mem_kTransitions_of_legal {source target : MovementState}
    (legal : checkTransition source target = .ok ()) : (source, target) ∈ kTransitions := by
  unfold checkTransition at legal
  split at legal
  · cases legal
  · split at legal
    · rename_i listed
      exact List.contains_iff_mem.mp listed
    · cases legal

/-- A call that succeeds has taken an edge of the table, advanced the generation by one and
appended one event that says so; one that fails has left state and generation alone. -/
def AllOrNothing : Prop :=
  let after := applyTransition record next decision kind now
  (after.2 = .ok () ->
    (record.state, after.1.state) ∈ kTransitions ∧ after.1.state = next ∧
      after.1.generation.value.toNat = record.generation.value.toNat + 1 ∧
      exists event, after.1.provenance.events = record.provenance.events ++ [event] ∧
        event.state = after.1.state ∧ event.movementGeneration = after.1.generation ∧
        event.reason = decision.code) ∧
  forall status, after.2 = .error status ->
    after.1.state = record.state ∧ after.1.generation = record.generation

/-- A call is all or nothing exactly when a transition that goes ahead finds its place in
the provenance chain. -/
theorem allOrNothing_iff_takes :
    AllOrNothing record next decision kind now ↔
      (record.movesTo next = true -> record.provenance.takes now decision.detail = true) := by
  have ends := transition_applyTransition record next decision kind now
  unfold AllOrNothing
  dsimp only
  generalize (applyTransition record next decision kind now).1 = changed at ends ⊢
  generalize (applyTransition record next decision kind now).2 = result at ends ⊢
  cases ends with
  | illegal _ status refused state generation =>
      refine iff_of_true ⟨fun success => (by cases success), fun _ _ => ⟨state, generation⟩⟩ ?_
      intro moves
      rw [MovementRecord.movesTo, refused] at moves
      cases moves
  | exhausted status legal refused =>
      refine iff_of_true ⟨fun success => (by cases success), fun _ _ => ⟨rfl, rfl⟩⟩ ?_
      intro moves
      rw [MovementRecord.movesTo, Bool.and_eq_true, bne_iff_ne] at moves
      rcases Generation.exists_next_iff.mpr moves.2 with ⟨successor, advanced⟩
      cases refused.symm.trans advanced
  | unrecorded _ status moved refused =>
      refine iff_of_false ?_ ?_
      · rintro ⟨_, unchanged⟩
        have same := (unchanged status rfl).1
        rw [moved.state] at same
        exact ne_of_checkTransition moved.legal same.symm
      · intro taken
        rw [taken (MovementRecord.movesTo_of_moved moved)] at refused
        cases refused
  | applied _ event moved taken events state generation reason =>
      refine iff_of_true ⟨fun _ => ⟨?_, moved.state, Generation.next_toNat moved.generation, event,
        events, ?_, generation, reason⟩, fun _ failure => (by cases failure)⟩ fun _ => taken
      · rw [moved.state]
        exact mem_kTransitions_of_legal moved.legal
      · rw [state, moved.state]

end

/-- The movement as `submit` creates it under a policy that keeps one provenance event. -/
def shortHistoryMovement : MovementRecord :=
  let planned := { oneByteMovement .PLANNED with provenance := ProvenanceChain.empty.setBound 1 }
  let event := planned.provenance.nextEvent .CREATED .PLANNED planned.generation .OK 1 []
  { planned with provenance := (appendOrKeep planned.provenance event).1 }

/-- The authorization of that movement is refused, and the record is authorized. -/
theorem not_allOrNothing_shortHistory :
    ¬AllOrNothing shortHistoryMovement .AUTHORIZED (.allow .OK []) .AUTHORIZED 1 := by
  rintro ⟨_, unchanged⟩
  have refused : (applyTransition shortHistoryMovement .AUTHORIZED (.allow .OK []) .AUTHORIZED 1).2 =
      refuse .HISTORY_LIMIT_REACHED
        "provenance bound reached; the movement's history is already complete" ∧
      (applyTransition shortHistoryMovement .AUTHORIZED (.allow .OK []) .AUTHORIZED 1).1.state ≠
        shortHistoryMovement.state := by
    decide +kernel
  exact refused.2 (unchanged _ refused.1).1

end StateMovementFabric
