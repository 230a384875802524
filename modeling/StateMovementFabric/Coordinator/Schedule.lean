import StateMovementFabric.Coordinator.CallGuards

namespace StateMovementFabric

open Foundation

/-!
# Every movement has at most one driver

A movement id is queued once, by the call it was issued to, and taken from the queue
once.  As long as the issuer never hands out an id twice, no movement is driven by
two workers.
-/

/-- The movement that a call drives. -/
def Call.driven : Call -> Option MovementId
  | .drive id => some id
  | _ => none

namespace Coordinator

/-- The movements that workers have taken. -/
def taken (threads : List CoordinatorThread) : List MovementId :=
  (threads.map Thread.call).filterMap Call.driven

/-- A new movement id is none of those handed out before. -/
def issuesFresh (coordinator : Coordinator) : Action -> Bool
  | .run index environment =>
      match coordinator.performing index with
      | some (_, .newMovementId) => !coordinator.issued.contains environment.movementId
      | _ => true
  | _ => true

/-- Issued ids are distinct, each call has queued only what was issued to it, and what is
queued or taken is exactly what has been queued. -/
structure Scheduled (config : CoordinatorConfig) (coordinator : Coordinator) : Prop where
  disciplined : coordinator.Disciplined config (callGuard config)
  nodup : (coordinator.threads.flatMap fun thread => issuedIn thread.history).Nodup
  known : forall id, id ∈ (coordinator.threads.flatMap fun thread => issuedIn thread.history) ->
    id ∈ coordinator.issued
  owned : forall thread, thread ∈ coordinator.threads ->
    (queuedIn thread.history).Subperm (issuedIn thread.history)
  exact : (coordinator.queue ++ taken coordinator.threads).Perm
    (coordinator.threads.flatMap fun thread => queuedIn thread.history)

theorem scheduled_started (config : CoordinatorConfig) (store : OpenStore) :
    Scheduled config (started store []) where
  disciplined := disciplined_started config (callGuard config) store []
  nodup := List.nodup_nil
  known := fun _ inside => absurd inside List.not_mem_nil
  owned := fun _ inside => absurd inside List.not_mem_nil
  exact := List.Perm.refl []

variable {config : CoordinatorConfig} {coordinator : Coordinator} {op : CoordinatorOp} {index : Nat}
  {thread : CoordinatorThread}

theorem Scheduled.nodup_taken (scheduled : Scheduled config coordinator) :
    (taken coordinator.threads).Nodup := by
  rcases subperm_flatMap scheduled.owned with ⟨part, permuted, inside⟩
  have queued : (coordinator.threads.flatMap fun thread => queuedIn thread.history).Nodup :=
    permuted.nodup_iff.mp (inside.nodup scheduled.nodup)
  exact (List.nodup_append.mp (scheduled.exact.nodup_iff.mpr queued)).2.1

/-- Two threads that drive one movement are one thread. -/
theorem Scheduled.driver_unique (scheduled : Scheduled config coordinator) {first second : Nat}
    {one other : CoordinatorThread} {id : MovementId}
    (atFirst : coordinator.threads[first]? = some one)
    (atSecond : coordinator.threads[second]? = some other) (drives : one.call = .drive id)
    (alsoDrives : other.call = .drive id) : first = second := by
  have apart := List.pairwise_filterMap.mp scheduled.nodup_taken
  rw [List.pairwise_map, List.pairwise_iff_getElem] at apart
  rcases List.getElem?_eq_some_iff.mp atFirst with ⟨inFirst, isOne⟩
  rcases List.getElem?_eq_some_iff.mp atSecond with ⟨inSecond, isOther⟩
  have same : one.call.driven = some id := by rw [drives]; rfl
  have alsoSame : other.call.driven = some id := by rw [alsoDrives]; rfl
  rcases Nat.lt_trichotomy first second with before | equal | after
  · have differs := apart first second inFirst inSecond before
    rw [isOne, isOther] at differs
    exact absurd rfl (differs id same id alsoSame)
  · exact equal
  · have differs := apart second first inSecond inFirst after
    rw [isOne, isOther] at differs
    exact absurd rfl (differs id alsoSame id same)

/-! ## Steps -/

theorem issuedIn_concat (past : CoordinatorHistory) (event : CoordinatorEvent) :
    issuedIn (past ++ [event]) = issuedIn past ++ issuedIn [event] :=
  List.filterMap_append ..

theorem queuedIn_concat (past : CoordinatorHistory) (event : CoordinatorEvent) :
    queuedIn (past ++ [event]) = queuedIn past ++ queuedIn [event] :=
  List.filterMap_append ..

theorem issuedIn_reply (environment : Environment) (store : OpenStore) (op : CoordinatorOp) :
    issuedIn [⟨op, environment.reply store op⟩] = issuedBy environment op := by
  cases op <;> rfl

theorem queueAfter_eq (queue : List MovementId) (environment : Environment) (store : OpenStore)
    (op : CoordinatorOp) :
    queueAfter queue op = queue ++ queuedIn [⟨op, environment.reply store op⟩] := by
  cases op <;> first | exact (List.append_nil queue).symm | rfl

/-- An id is queued by the call it was issued to, which has queued nothing before. -/
theorem owned_resume {call : Call} {past : CoordinatorHistory} (reply : op.Reply)
    (may : callGuard config call past op) (owned : (queuedIn past).Subperm (issuedIn past)) :
    (queuedIn (past ++ [⟨op, reply⟩])).Subperm (issuedIn (past ++ [⟨op, reply⟩])) := by
  rw [queuedIn_concat, issuedIn_concat]
  have kept := (List.sublist_append_left (issuedIn past) (issuedIn [⟨op, reply⟩])).subperm
  cases op with
  | enqueue id =>
      cases call with
      | submit request =>
          have allowed : id ∈ issuedIn past ∧ queuedIn past = [] := may
          rw [allowed.2]
          exact (List.singleton_subperm_iff.mpr allowed.1).trans kept
      | _ => exact False.elim may
  | _ =>
      change (queuedIn past ++ []).Subperm _
      rw [List.append_nil]
      exact owned.trans kept

theorem taken_set {threads : List CoordinatorThread} (located : threads[index]? = some thread)
    (answer : forall op : CoordinatorOp, op.Reply) :
    taken (threads.set index (thread.resume answer)) = taken threads := by
  rcases List.getElem?_eq_some_iff.mp located with ⟨inside, rfl⟩
  unfold taken
  rw [List.map_set, Thread.resume_call, ← List.map_set, List.set_getElem_self]

theorem Scheduled.perform {environment : Environment} (scheduled : Scheduled config coordinator)
    (located : coordinator.threads[index]? = some thread) (pends : thread.pending = some op)
    (fresh : coordinator.issuesFresh (.run index environment) = true) :
    Scheduled config (coordinator.perform index thread environment op) := by
  have present := List.mem_of_getElem? located
  have history := Thread.history_resume pends (environment.reply coordinator.store)
  have issues : issuedIn (thread.resume (environment.reply coordinator.store)).history =
      issuedIn thread.history ++ issuedBy environment op := by
    rw [history, issuedIn_concat, issuedIn_reply]
  have issued := perm_flatMap_set (fun thread => issuedIn thread.history) located issues
  have unissued : forall id, id ∈ issuedBy environment op -> id ∉ coordinator.issued := by
    intro id member
    simp only [issuesFresh, performing_of_pending located pends] at fresh
    cases op with
    | newMovementId =>
        cases List.mem_singleton.mp member
        simpa using fresh
    | _ => cases member
  refine ⟨?_, ?_, ?_, ?_, ?_⟩
  · exact scheduled.disciplined.steps (guarded_call config) _ _ _
      (.performs index environment thread op located pends)
  · apply issued.nodup_iff.mpr
    apply scheduled.nodup.append
    · cases op <;> first | exact List.nodup_singleton _ | exact List.nodup_nil
    · exact fun id before new => unissued id new (scheduled.known id before)
  · intro id inside
    rcases List.mem_append.mp (issued.mem_iff.mp inside) with earlier | new
    · exact List.mem_append_left _ (scheduled.known id earlier)
    · exact List.mem_append_right _ new
  · intro member inside
    rcases mem_threads_perform inside with earlier | rfl
    · exact scheduled.owned member earlier
    · rw [history]
      exact owned_resume _ ((scheduled.disciplined.follows thread present).allowed pends)
        (scheduled.owned thread present)
  · have queues : queuedIn (thread.resume (environment.reply coordinator.store)).history =
        queuedIn thread.history ++ queuedIn [⟨op, environment.reply coordinator.store op⟩] := by
      rw [history, queuedIn_concat]
    have queued := perm_flatMap_set (fun thread => queuedIn thread.history) located queues
    change (queueAfter coordinator.queue op ++ taken (coordinator.threads.set index _)).Perm _
    rw [taken_set located, queueAfter_eq _ environment coordinator.store]
    refine List.Perm.trans ?_ ((scheduled.exact.append_right _).trans queued.symm)
    rw [List.append_assoc, List.append_assoc]
    exact List.perm_append_comm.append_left _

theorem Scheduled.steps_fresh {after : Coordinator} {action : Action}
    (scheduled : Scheduled config coordinator) (fresh : coordinator.issuesFresh action = true)
    (steps : Steps config coordinator action after) :
    Scheduled config after := by
  have disciplined := scheduled.disciplined.steps (guarded_call config) _ _ _ steps
  cases steps with
  | idles => exact scheduled
  | begins _ call rest opened recovered =>
      have unborn (done : CoordinatorHistory -> List MovementId) (empty : done [] = []) :
          ((coordinator.spawn config call rest).threads.flatMap fun thread => done thread.history) =
            coordinator.threads.flatMap fun thread => done thread.history := by
        change (coordinator.threads ++ [Thread.start call (call.program config)]).flatMap _ = _
        rw [List.flatMap_append, List.flatMap_singleton]
        change _ ++ done [] = _
        rw [empty, List.append_nil]
      refine ⟨disciplined, ?_, ?_, ?_, ?_⟩
      · rw [unborn issuedIn rfl]
        exact scheduled.nodup
      · rw [unborn issuedIn rfl]
        exact scheduled.known
      · intro thread inside
        rcases mem_threads_spawn inside with earlier | rfl
        · exact scheduled.owned thread earlier
        · exact List.Subperm.refl []
      · rw [unborn queuedIn rfl]
        refine List.Perm.trans ?_ scheduled.exact
        have started : taken (coordinator.spawn config call rest).threads =
            taken coordinator.threads ++ call.driven.toList := by
          unfold taken
          change ((coordinator.threads ++ [Thread.start call (call.program config)]).map
            Thread.call).filterMap Call.driven = _
          rw [List.map_append, List.filterMap_append]
          cases call <;> rfl
        rw [started]
        cases opened with
        | pickUp id _ queued =>
            rw [queued, ← List.append_assoc]
            exact List.perm_append_comm
        | _ =>
            change (coordinator.queue ++ (taken coordinator.threads ++ [])).Perm _
            rw [List.append_nil]
  | performs index environment thread op located pends => exact scheduled.perform located pends fresh
  | restarts =>
      refine ⟨disciplined, List.nodup_nil, fun _ inside => absurd inside List.not_mem_nil, ?_,
        List.Perm.refl []⟩
      intro thread inside
      cases List.mem_singleton.mp inside
      exact List.Subperm.refl []

end Coordinator

end StateMovementFabric
