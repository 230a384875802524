import StateMovementFabric.Coordinator.Process
import Mathlib.Data.List.Forall2

namespace StateMovementFabric

open Foundation Wire

/-!
# What a call has read, written and received

The guards of the calls are conditions on the history of a call at the moment it
writes a record: which version of the movement it holds, what it has written before,
and which answers it has received since the attempt began.
-/

abbrev CoordinatorHistory := Program.History coordinatorSignature

/-- Neither touches a movement record nor begins an attempt. -/
def CoordinatorOp.isQuiet : CoordinatorOp -> Bool
  | storeGet _ | storePut _ | storeList _ | newMovementId | newAttemptId | enqueue _ => false
  | _ => true

/-! ## The version that a call holds -/

def noteSnapshot (last : Option MovementRecord) : CoordinatorEvent -> Option MovementRecord
  | ⟨.storeGet _, .ok record⟩ => some record
  | ⟨.storePut record, .ok _⟩ => some record
  | _ => last

/-- The record that the call last read or wrote with success. -/
def lastSnapshot (history : CoordinatorHistory) : Option MovementRecord :=
  history.foldl noteSnapshot none

@[simp] theorem lastSnapshot_concat (history : CoordinatorHistory) (event : CoordinatorEvent) :
    lastSnapshot (history ++ [event]) = noteSnapshot (lastSnapshot history) event :=
  List.foldl_append ..

variable {op : CoordinatorOp} {id : MovementId} {record : MovementRecord}
  {source : MovementState -> Prop} {event : CoordinatorEvent}
  {kinds : List (CoordinatorEvent -> Prop)} {history : CoordinatorHistory}
  {kind : CoordinatorEvent -> Prop} {attempt : TransferAttemptId}

theorem noteSnapshot_of_isQuiet (quiet : op.isQuiet = true) (last : Option MovementRecord)
    (reply : op.Reply) : noteSnapshot last ⟨op, reply⟩ = last := by
  cases op <;> first | rfl | cases quiet

/-- The ways in which an operation changes the version that a call holds. -/
theorem lastSnapshot_reply {past : CoordinatorHistory} {store : OpenStore}
    {environment : Environment} {base : MovementRecord}
    (last : lastSnapshot (past ++ [⟨op, environment.reply store op⟩]) = some base) :
    lastSnapshot past = some base ∨ (exists id, op = .storeGet id ∧ store.get id = .ok base) ∨
      (op = .storePut base ∧ (store.put base environment.outcomes).2 = .ok ()) := by
  rw [lastSnapshot_concat] at last
  cases op with
  | storeGet id =>
      change noteSnapshot _ ⟨.storeGet id, store.get id⟩ = some base at last
      cases found : store.get id with
      | error status =>
          rw [found] at last
          exact Or.inl last
      | ok record =>
          rw [found] at last
          cases last
          exact Or.inr (Or.inl ⟨id, rfl, found⟩)
  | storePut record =>
      change noteSnapshot _ ⟨.storePut record, (store.put record environment.outcomes).2⟩ =
        some base at last
      cases put : (store.put record environment.outcomes).2 with
      | error status =>
          rw [put] at last
          exact Or.inl last
      | ok _ =>
          rw [put] at last
          cases last
          exact Or.inr (Or.inr ⟨rfl, put⟩)
  | _ => exact Or.inl last

/-- The call began by reading this movement. -/
def Opened (past : CoordinatorHistory) (id : MovementId) : Prop :=
  past.head?.map Event.op = some (.storeGet id)

theorem Opened.later {past : CoordinatorHistory} (opened : Opened past id)
    (event : CoordinatorEvent) : Opened (past ++ [event]) id := by
  cases past with
  | nil => cases opened
  | cons first rest => exact opened

theorem Opened.ne_nil {past : CoordinatorHistory} (opened : Opened past id) :
    past ≠ [] := by
  rintro rfl
  cases opened

theorem Opened.eq {past : CoordinatorHistory} {other : MovementId} (opened : Opened past id)
    (began : past.head?.map Event.op = some (.storeGet other)) : id = other := by
  rw [opened] at began
  cases began
  rfl

/-- The call holds a copy of the record it last read or wrote, in the same version. -/
structure Holds (past : CoordinatorHistory) (record : MovementRecord) : Prop where
  opened : Opened past record.id
  version : exists base, lastSnapshot past = some base ∧ base.id = record.id ∧
    base.state = record.state ∧ base.generation = record.generation

/-- The record to be written is a legal successor of the one that was last read or
written, which was in one of the given states. -/
structure Advances (source : MovementState -> Prop) (past : CoordinatorHistory)
    (record : MovementRecord) : Prop where
  opened : Opened past record.id
  successor : exists base, lastSnapshot past = some base ∧ base.id = record.id ∧
    LegalStep base record ∧ source base.state

theorem Holds.advances {past : CoordinatorHistory} {next : MovementRecord}
    (holds : Holds past record) (sameId : next.id = record.id) (legal : LegalStep record next)
    (admitted : source record.state) : Advances source past next := by
  rcases holds.version with ⟨base, last, id, state, generation⟩
  refine ⟨sameId ▸ holds.opened, base, last, id.trans sameId.symm, ⟨?_, ?_, ?_⟩, state ▸ admitted⟩
  · rw [state]
    exact legal.state
  · rw [generation]
    exact legal.generation
  · rw [state, generation]
    exact legal.advances

theorem Advances.weaken {wider : MovementState -> Prop} {past : CoordinatorHistory}
    (advances : Advances source past record) (implies : forall state, source state -> wider state) :
    Advances wider past record := by
  rcases advances.successor with ⟨base, last, id, legal, admitted⟩
  exact ⟨advances.opened, base, last, id, legal, implies _ admitted⟩

theorem Holds.of_same {past : CoordinatorHistory} {same : MovementRecord}
    (holds : Holds past record) (id : same.id = record.id) (state : same.state = record.state)
    (generation : same.generation = record.generation) : Holds past same := by
  rcases holds.version with ⟨base, last, sameId, sameState, sameGeneration⟩
  exact ⟨id ▸ holds.opened, base, last, sameId.trans id.symm, sameState.trans state.symm,
    sameGeneration.trans generation.symm⟩

/-- An operation that reads or writes no record. -/
theorem Holds.later {past : CoordinatorHistory} (holds : Holds past record)
    (silent : forall last, noteSnapshot last event = last) : Holds (past ++ [event]) record := by
  rcases holds.version with ⟨base, last, same⟩
  refine ⟨holds.opened.later event, base, ?_, same⟩
  rw [lastSnapshot_concat, silent, last]

theorem holds_put {past : CoordinatorHistory} (opened : Opened past record.id) :
    Holds (past ++ [⟨.storePut record, .ok ()⟩]) record :=
  ⟨opened.later _, record, lastSnapshot_concat past _, rfl, rfl, rfl⟩

theorem holds_get (record : MovementRecord) : Holds [⟨.storeGet record.id, .ok record⟩] record :=
  ⟨rfl, record, rfl, rfl, rfl, rfl⟩

/-! ## Conditions that quiet operations keep -/

def Stable (condition : CoordinatorHistory -> Prop) : Prop :=
  forall past (op : CoordinatorOp) (reply : op.Reply), op.isQuiet = true -> condition past ->
    condition (past ++ [⟨op, reply⟩])

theorem Stable.and {first second : CoordinatorHistory -> Prop} (left : Stable first)
    (right : Stable second) : Stable (fun past => first past ∧ second past) :=
  fun past op reply quiet both =>
    ⟨left past op reply quiet both.1, right past op reply quiet both.2⟩

theorem stable_holds (record : MovementRecord) : Stable (Holds · record) := by
  intro past op reply quiet holds
  exact holds.later fun last => noteSnapshot_of_isQuiet quiet last reply

/-! ## Events in order -/

/-- The history contains, in this order, an event of each kind. -/
def InOrder (kinds : List (CoordinatorEvent -> Prop)) (history : CoordinatorHistory) : Prop :=
  List.SublistForall₂ (fun kind event => kind event) kinds history

theorem InOrder.later (ordered : InOrder kinds history) (event : CoordinatorEvent) :
    InOrder kinds (history ++ [event]) := by
  rcases List.sublistForall₂_iff.mp ordered with ⟨chosen, matching, inside⟩
  exact List.sublistForall₂_iff.mpr
    ⟨chosen, matching, inside.trans (List.sublist_append_left history [event])⟩

theorem InOrder.concat (ordered : InOrder kinds history) (occurs : kind event) :
    InOrder (kinds ++ [kind]) (history ++ [event]) := by
  rcases List.sublistForall₂_iff.mp ordered with ⟨chosen, matching, inside⟩
  exact List.sublistForall₂_iff.mpr ⟨chosen ++ [event],
    List.rel_append matching (List.Forall₂.cons occurs List.Forall₂.nil),
    inside.append (List.Sublist.refl [event])⟩

/-- The frame that an event delivered. -/
def deliveredFrame : CoordinatorEvent -> Option Frame
  | ⟨.await _ _ _, .ok frame⟩ => some frame
  | _ => none

/-- The event is the arrival of this message. -/
def received {α : Type} (decode : Decode α) (message : α) (event : CoordinatorEvent) : Prop :=
  exists frame, deliveredFrame event = some frame ∧ decodeMessage decode frame = .ok message

/-- The event is a successful write of this record. -/
def written (record : MovementRecord) (event : CoordinatorEvent) : Prop :=
  event = ⟨.storePut record, .ok ()⟩

/-- Since the last attempt began, with this identity, these kinds of events have
occurred in this order. -/
def SinceAttempt (attempt : TransferAttemptId) (kinds : List (CoordinatorEvent -> Prop))
    (past : CoordinatorHistory) : Prop :=
  exists earlier later, past = earlier ++ ⟨.newAttemptId, attempt⟩ :: later ∧
    (forall event, event ∈ later -> event.op ≠ .newAttemptId) ∧ InOrder kinds later

theorem sinceAttempt_begins (past : CoordinatorHistory) (attempt : TransferAttemptId) :
    SinceAttempt attempt [] (past ++ [⟨.newAttemptId, attempt⟩]) :=
  ⟨past, [], rfl, fun _ member => absurd member List.not_mem_nil, List.SublistForall₂.nil⟩

theorem SinceAttempt.concat {past : CoordinatorHistory} (since : SinceAttempt attempt kinds past)
    (same : event.op ≠ .newAttemptId) (occurs : kind event) :
    SinceAttempt attempt (kinds ++ [kind]) (past ++ [event]) := by
  rcases since with ⟨earlier, later, rfl, within, ordered⟩
  refine ⟨earlier, later ++ [event], by simp, ?_, ordered.concat occurs⟩
  intro member inside
  rcases List.mem_append.mp inside with before | last
  · exact within member before
  · exact List.mem_singleton.mp last ▸ same

theorem SinceAttempt.later {past : CoordinatorHistory} (since : SinceAttempt attempt kinds past)
    (same : event.op ≠ .newAttemptId) : SinceAttempt attempt kinds (past ++ [event]) := by
  rcases since with ⟨earlier, later, rfl, within, ordered⟩
  refine ⟨earlier, later ++ [event], by simp, ?_, ordered.later event⟩
  intro member inside
  rcases List.mem_append.mp inside with before | last
  · exact within member before
  · exact List.mem_singleton.mp last ▸ same

theorem stable_sinceAttempt (attempt : TransferAttemptId)
    (kinds : List (CoordinatorEvent -> Prop)) : Stable (SinceAttempt attempt kinds) := by
  intro past op reply quiet since
  apply since.later
  rintro rfl
  cases quiet

/-! ## Guards on writes -/

/-- Records are written where `allowed` says so, and nothing is queued. -/
def putGuard (allowed : CoordinatorHistory -> MovementRecord -> Prop) :
    Program.Guard coordinatorSignature
  | past, .storePut record => allowed past record
  | _, .enqueue _ => False
  | _, _ => True

section Guards

variable {allowed : CoordinatorHistory -> MovementRecord -> Prop} {α : Type}
variable {done : CoordinatorHistory -> α -> Prop} {past : CoordinatorHistory}

theorem putGuard_of_isQuiet (quiet : op.isQuiet = true) :
    putGuard allowed past op := by
  cases op <;> first | trivial | cases quiet

variable {condition : CoordinatorHistory -> Prop} {link : LinkId}

/-- A quiet operation keeps every stable condition. -/
theorem guarded_quiet (stable : Stable condition) (holds : condition past)
    (quiet : op.isQuiet = true) {next : op.Reply -> CoordinatorProgram α}
    (continues : forall reply : op.Reply, op.Possible reply -> condition (past ++ [⟨op, reply⟩]) ->
      Program.Guarded (putGuard allowed) done (past ++ [⟨op, reply⟩]) (next reply)) :
    Program.Guarded (putGuard allowed) done past (ask op >>= next) :=
  ⟨putGuard_of_isQuiet quiet,
    fun reply possible => continues reply possible (stable past op reply quiet holds)⟩

theorem guarded_storeGet {next : Result MovementRecord -> CoordinatorProgram α}
    (missing : forall status,
      Program.Guarded (putGuard allowed) done (past ++ [⟨.storeGet id, .error status⟩])
        (next (.error status))) (found : forall record, record.id = id ->
      Program.Guarded (putGuard allowed) done (past ++ [⟨.storeGet id, .ok record⟩])
        (next (.ok record))) :
    Program.Guarded (putGuard allowed) done past (storeGet id >>= next) := by
  refine ⟨trivial, fun reply possible => ?_⟩
  rcases reply with status | record
  · exact missing status
  · exact found record (possible record rfl)

theorem guarded_storePut {next : Result Unit -> CoordinatorProgram α} (may : allowed past record)
    (refused : forall status,
      Program.Guarded (putGuard allowed) done (past ++ [⟨.storePut record, .error status⟩])
        (next (.error status)))
    (accepted : Program.Guarded (putGuard allowed) done (past ++ [⟨.storePut record, .ok ()⟩])
      (next (.ok ()))) :
    Program.Guarded (putGuard allowed) done past (storePut record >>= next) := by
  refine ⟨may, fun reply _ => ?_⟩
  rcases reply with status | ⟨⟩
  · exact refused status
  · exact accepted

/-- An answer that is awaited. -/
theorem guarded_await (stable : Stable condition) (holds : condition past) {future : Future}
    {what : String} {next : Result Frame -> CoordinatorProgram α}
    (refused : forall later status, condition later ->
      Program.Guarded (putGuard allowed) done later (next (.error status)))
    (answered : forall answer, pendingKey answer = some future.key ->
      Program.Guarded (putGuard allowed) done
        (past ++ [⟨.await link future what, .ok answer⟩]) (next (.ok answer))) :
    Program.Guarded (putGuard allowed) done past (await link future what >>= next) := by
  refine ⟨trivial, fun reply delivered => ?_⟩
  rcases reply with status | answer
  · exact refused _ status (stable _ _ _ rfl holds)
  · exact answered answer (delivered answer rfl)

/-- A request keeps every stable condition, and its answer has the awaited key. -/
theorem guarded_request (stable : Stable condition) (holds : condition past) {key : PendingKey}
    {frame : Frame} {next : Result Frame -> CoordinatorProgram α}
    (refused : forall later status, condition later ->
      Program.Guarded (putGuard allowed) done later (next (.error status)))
    (answered : forall before future what answer, condition before ->
      pendingKey answer = some key ->
      Program.Guarded (putGuard allowed) done
        (before ++ [⟨.await link future what, .ok answer⟩]) (next (.ok answer))) :
    Program.Guarded (putGuard allowed) done past (request link key frame >>= next) := by
  apply Program.guarded_bind
  unfold request
  refine guarded_quiet stable holds rfl fun reserved possible holds => ?_
  rcases reserved with status | future
  · exact refused _ status holds
  refine guarded_quiet stable holds rfl fun sent _ holds => ?_
  rcases sent with status | ⟨⟩
  · refine guarded_quiet stable holds rfl fun _ _ holds => ?_
    exact refused _ status holds
  change Program.Guarded _ _ _ (await link future frame.type.name >>= pure)
  apply guarded_await stable holds refused
  intro answer keyed
  exact answered _ future _ answer holds (possible future rfl ▸ keyed)

end Guards

end StateMovementFabric
