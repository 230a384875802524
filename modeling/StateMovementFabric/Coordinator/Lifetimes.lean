import StateMovementFabric.Coordinator.ControlPlane

namespace StateMovementFabric

open Foundation

/-!
# One coordinator after another

Each run of the coordinator opens the store of the same directory, saves its own state
in it, recovers, and then serves sessions until it stops or is killed.  The epoch of a
run continues the one that was saved.  The topology generation is saved too, but no run
reads it back: the view of every run starts from the first generation.
-/

/-! ## Starting -/

/-- What one start is given. -/
structure Startup where
  config : CoordinatorConfig
  endpointId : EndpointId
  boot : BootId
  now : Millis
  outcomes : WriteOutcomes := noFailure

namespace OpenStore

/-- `open` on the directory of a store that has been closed. -/
def reopen (store : OpenStore) (options : MovementStoreOptions) : OpenStore :=
  ⟨{ store.reload.val with options := options }, store.reload.property⟩

theorem saveCoordinatorState_consistent (store : OpenStore) (state : CoordinatorPersistentState)
    (outcomes : WriteOutcomes) :
    (store.val.saveCoordinatorState state outcomes).1.contents.Consistent := by
  have kept := store.val.appendRecord_contents (.coordinatorState state) (outcomes 0)
  unfold MovementStore.saveCoordinatorState
  rcases appending : store.val.appendRecord (.coordinatorState state) (outcomes 0) with
    ⟨appended, status | _⟩
  · rw [appending] at kept
    exact kept.symm ▸ store.property
  · rw [appending] at kept
    have same : appended.contents = store.val.contents := kept
    change ({ appended.contents with coordinatorState := some state } : StoreContents).Consistent
    rw [same]
    exact ⟨store.property.nodup, store.property.listed, store.property.filed⟩

/-- `save_coordinator_state`. -/
def saveCoordinatorState (store : OpenStore) (state : CoordinatorPersistentState)
    (outcomes : WriteOutcomes) : OpenStore × Result Unit :=
  (⟨(store.val.saveCoordinatorState state outcomes).1,
    store.saveCoordinatorState_consistent state outcomes⟩,
    (store.val.saveCoordinatorState state outcomes).2)

end OpenStore

/-- A process that has opened its store and begins to recover. -/
def Coordinator.recoveringFrom (config : CoordinatorConfig) (store : OpenStore) : Coordinator where
  store := store
  threads := [Thread.start .recover (Call.recover.program config)]
  issued := store.val.contents.order

namespace Startup

/-- The checks of `start` on its configuration. -/
def check (startup : Startup) : Result Unit := do
  refuseWhen startup.endpointId.isEmpty .INVALID_ID "the coordinator needs an endpoint name"
  refuseWhen (startup.config.sharedSecret.length != 32) .INVALID_ARGUMENT
    "the shared secret must be exactly 32 bytes"
  startup.config.policy.validate

/-- The epoch after the one that was saved last. -/
def epoch (store : OpenStore) : IncarnationEpoch :=
  match store.val.contents.coordinatorState with
  | none => ⟨1⟩
  | some previous =>
      match previous.epoch.next with
      | .ok next => next
      | .error _ => ⟨1⟩

/-- The state that a run saves before it recovers. -/
def savedState (startup : Startup) (epoch : IncarnationEpoch) : CoordinatorPersistentState where
  epoch := epoch
  policyGeneration := policyGeneration
  compatibilityGeneration := ⟨1⟩
  topologyGeneration := TopologyView.initial.generation
  policyDigest := PolicySet.digest ⟨policyGeneration, startup.config.policy⟩
  lastSavedUnixMillis := startup.now

/-- `start` up to the listeners: the store it leaves, and the run that recovers next. -/
def start (startup : Startup) (store : OpenStore) : OpenStore × Result ControlPlane :=
  match startup.check with
  | .error status => (store, .error status)
  | .ok () =>
      let opened := store.reopen startup.config.storeOptions
      match Incarnation.make startup.endpointId startup.boot (epoch opened) with
      | .error status => (opened, .error status)
      | .ok incarnation =>
          match opened.saveCoordinatorState (startup.savedState (epoch opened))
              startup.outcomes with
          | (saved, .error status) => (saved, .error status)
          | (saved, .ok ()) =>
              (saved, .ok
                { coordinator := .recoveringFrom startup.config saved
                  table := .recovered TopologyView.initial.resetDynamicState
                  incarnation := incarnation })

end Startup

/-! ## Whole runs -/

/-- One run: how it is started, whether it is still there when recovery begins, and what
happens from then on until it stops or is killed. -/
structure Lifetime where
  startup : Startup
  survives : Bool
  actions : List PlaneAction

/-- How far a run came: it ended before the topology was reset, before its recovery was
over, or later. -/
inductive Reach where
  | STARTING | RECOVERING | RECOVERED
  deriving DecidableEq, Repr

/-- The topology generations of one run: those in force at any time, those it stored in
movement records, and those in force after its recovery. -/
structure Chronicle where
  reach : Reach
  inForce : List TopologyGeneration
  recorded : List TopologyGeneration
  afterRecovery : List TopologyGeneration

namespace ControlPlane

def generation (plane : ControlPlane) : TopologyGeneration := plane.table.topology.generation

/-- The states that a run passes through. -/
def trace (config : CoordinatorConfig) : ControlPlane -> List PlaneAction -> List ControlPlane
  | plane, [] => [plane]
  | plane, action :: rest => plane :: trace config (plane.step config action) rest

/-- The state in which a run ends. -/
def final (config : CoordinatorConfig) (plane : ControlPlane) (actions : List PlaneAction) :
    ControlPlane :=
  runFrom (step config) plane actions

/-- Recovery is over. -/
def hasRecovered (plane : ControlPlane) : Bool := !plane.coordinator.recovering

end ControlPlane

namespace Lifetime

/-- The topology generations of a run that came to its recovery. -/
def chronicle (lifetime : Lifetime) (plane : ControlPlane) : Chronicle :=
  let config := lifetime.startup.config
  let states := plane.trace config lifetime.actions
  { reach := if states.any ControlPlane.hasRecovered then .RECOVERED else .RECOVERING
    inForce := TopologyView.initial.generation :: states.map ControlPlane.generation
    recorded := (plane.final config lifetime.actions).coordinator.log.map
      (Snapshot.record · |>.topologyGeneration)
    afterRecovery := (states.filter ControlPlane.hasRecovered).map ControlPlane.generation }

/-- One run on a directory: the store it leaves and the generations of its topology. -/
def live (lifetime : Lifetime) (store : OpenStore) : OpenStore × Chronicle :=
  let started := lifetime.startup.start store
  match started.2, lifetime.survives with
  | .ok plane, true =>
      ((plane.final lifetime.startup.config lifetime.actions).coordinator.store,
        lifetime.chronicle plane)
  | _, _ => (started.1, ⟨.STARTING, [TopologyView.initial.generation], [], []⟩)

end Lifetime

/-- The chronicles of runs on one directory, one after another. -/
def chronicles : OpenStore -> List Lifetime -> List Chronicle
  | _, [] => []
  | store, lifetime :: rest => (lifetime.live store).2 :: chronicles (lifetime.live store).1 rest

/-! ## The generations of different runs -/

/-- Every generation in force after the recovery of the later run is greater than every
generation that was in force or was stored during the earlier one. -/
def Chronicle.Exceeds (earlier later : Chronicle) : Prop :=
  forall after, after ∈ later.afterRecovery ->
    forall before, before ∈ earlier.inForce ++ earlier.recorded -> before.value < after.value

/-- The later run does not complete a recovery after the earlier one began its own. -/
def Chronicle.RecoversFirst (earlier later : Chronicle) : Prop :=
  earlier.reach = .STARTING ∨ later.reach ≠ .RECOVERED

/-- What is true of the generations of every run.  The view of each run starts at the
first generation and is at the second when recovery begins. -/
structure Chronicle.StartsOver (chronicle : Chronicle) : Prop where
  starting : chronicle.reach = .STARTING ->
    chronicle.inForce = [⟨1⟩] ∧ chronicle.recorded = []
  began : chronicle.reach ≠ .STARTING -> ⟨2⟩ ∈ chronicle.inForce
  recovered : chronicle.reach = .RECOVERED -> ⟨2⟩ ∈ chronicle.afterRecovery
  unrecovered : chronicle.reach ≠ .RECOVERED -> chronicle.afterRecovery = []
  above : forall generation, generation ∈ chronicle.afterRecovery -> 2 ≤ generation.value

namespace ControlPlane

variable {config : CoordinatorConfig} {plane : ControlPlane}

theorem generation_step_le (action : PlaneAction) :
    plane.generation.value ≤ (plane.step config action).generation.value := by
  change plane.table.topology.generation.value ≤
    (plane.tableAfter config action).topology.generation.value
  unfold tableAfter
  split
  · split
    · exact UInt64.le_refl _
    · exact (SessionTable.step_steps _ _ _).generation_le
  · exact UInt64.le_refl _

theorem generation_le_of_mem_trace {actions : List PlaneAction} {state : ControlPlane}
    (passed : state ∈ plane.trace config actions) :
    plane.generation.value ≤ state.generation.value := by
  induction actions generalizing plane with
  | nil =>
      rw [List.mem_singleton.mp passed]
      exact UInt64.le_refl _
  | cons action rest ih =>
      rcases List.mem_cons.mp passed with rfl | later
      · exact UInt64.le_refl _
      · exact UInt64.le_trans (generation_step_le action) (ih later)

theorem self_mem_trace (actions : List PlaneAction) : plane ∈ plane.trace config actions := by
  cases actions <;> exact List.mem_cons_self

/-- No session is served during recovery, so the generation is still the first one of the
run when recovery is over. -/
theorem recovered_generation {actions : List PlaneAction}
    (recovers : (plane.trace config actions).any hasRecovered = true) :
    exists state, state ∈ plane.trace config actions ∧ state.hasRecovered = true ∧
      state.generation = plane.generation := by
  induction actions generalizing plane with
  | nil =>
      rcases List.any_eq_true.mp recovers with ⟨state, passed, recovered⟩
      cases List.mem_singleton.mp passed
      exact ⟨plane, passed, recovered, rfl⟩
  | cons action rest ih =>
      by_cases recovered : plane.hasRecovered = true
      · exact ⟨plane, self_mem_trace _, recovered, rfl⟩
      · have later : ((plane.step config action).trace config rest).any hasRecovered = true := by
          rw [trace, List.any_cons, Bool.or_eq_true] at recovers
          exact recovers.resolve_left recovered
        rcases ih later with ⟨state, passed, reached, same⟩
        refine ⟨state, List.mem_cons_of_mem _ passed, reached, same.trans ?_⟩
        have recovering : plane.coordinator.recovering = true := by
          simpa [hasRecovered] using recovered
        change (plane.tableAfter config action).topology.generation = _
        unfold tableAfter
        split
        · rw [if_pos recovering]
          rfl
        · rfl

end ControlPlane

/-- A run that comes to its recovery does so at the second generation. -/
theorem Startup.generation_of_start {startup : Startup} {store : OpenStore} {plane : ControlPlane}
    (started : (startup.start store).2 = .ok plane) : plane.generation = ⟨2⟩ := by
  unfold start at started
  split at started
  · cases started
  · dsimp only at started
    split at started
    · cases started
    · split at started
      · cases started
      · cases started
        rfl

theorem Lifetime.startsOver_chronicle {lifetime : Lifetime} {plane : ControlPlane}
    (second : plane.generation = ⟨2⟩) : (lifetime.chronicle plane).StartsOver where
  starting := by
    intro reach
    unfold chronicle at reach
    dsimp only at reach
    split at reach <;> cases reach
  began := by
    intro _
    refine List.mem_cons_of_mem _ (List.mem_map.mpr ⟨plane, ControlPlane.self_mem_trace _, second⟩)
  recovered := by
    intro reach
    have recovers : (plane.trace lifetime.startup.config lifetime.actions).any
        ControlPlane.hasRecovered = true := by
      by_contra never
      rw [chronicle, if_neg never] at reach
      cases reach
    rcases ControlPlane.recovered_generation recovers with ⟨state, passed, reached, same⟩
    exact List.mem_map.mpr ⟨state, List.mem_filter.mpr ⟨passed, reached⟩, same.trans second⟩
  unrecovered := by
    intro reach
    have never : ¬ (plane.trace lifetime.startup.config lifetime.actions).any
        ControlPlane.hasRecovered = true := by
      intro recovers
      rw [chronicle, if_pos recovers] at reach
      exact reach rfl
    apply List.map_eq_nil_iff.mpr
    rw [List.filter_eq_nil_iff]
    intro state passed reached
    exact never (List.any_eq_true.mpr ⟨state, passed, reached⟩)
  above := by
    intro generation after
    rcases List.mem_map.mp after with ⟨state, passed, rfl⟩
    have grown := ControlPlane.generation_le_of_mem_trace (List.mem_filter.mp passed).1
    rw [second] at grown
    exact grown

theorem Lifetime.startsOver_live (lifetime : Lifetime) (store : OpenStore) :
    (lifetime.live store).2.StartsOver := by
  unfold live
  dsimp only
  split
  · rename_i started _
    exact startsOver_chronicle (Startup.generation_of_start started)
  · exact ⟨fun _ => ⟨rfl, rfl⟩, fun reach => absurd rfl reach, fun reach => (by cases reach),
      fun _ => rfl, fun _ after => absurd after List.not_mem_nil⟩

theorem startsOver_of_mem_chronicles {store : OpenStore} {lifetimes : List Lifetime}
    {chronicle : Chronicle} (member : chronicle ∈ chronicles store lifetimes) :
    chronicle.StartsOver := by
  induction lifetimes generalizing store with
  | nil => cases member
  | cons lifetime rest ih =>
      rcases List.mem_cons.mp member with rfl | later
      · exact lifetime.startsOver_live store
      · exact ih later

theorem Chronicle.exceeds_iff {earlier later : Chronicle} (first : earlier.StartsOver)
    (second : later.StartsOver) : earlier.Exceeds later ↔ earlier.RecoversFirst later := by
  constructor
  · intro exceeds
    by_contra both
    rcases not_or.mp both with ⟨began, completed⟩
    have recovered := second.recovered (not_not.mp completed)
    -- Both runs have the second generation in force.
    exact absurd (exceeds ⟨2⟩ recovered ⟨2⟩ (List.mem_append_left _ (first.began began)))
      (UInt64.lt_irrefl 2)
  · rintro (starting | unrecovered)
    · intro after inside before outside
      rw [(first.starting starting).1, (first.starting starting).2] at outside
      cases List.mem_singleton.mp outside
      exact UInt64.lt_of_lt_of_le (by decide) (second.above after inside)
    · intro after inside
      rw [second.unrecovered unrecovered] at inside
      cases inside

/-- The topology generations grow from run to run exactly when no run completes its
recovery after another one began to recover. -/
theorem topologyGenerations_grow_iff (store : OpenStore) (lifetimes : List Lifetime) :
    (chronicles store lifetimes).Pairwise Chronicle.Exceeds ↔
      (chronicles store lifetimes).Pairwise Chronicle.RecoversFirst :=
  List.Pairwise.iff_of_mem fun first second =>
    Chronicle.exceeds_iff (startsOver_of_mem_chronicles first) (startsOver_of_mem_chronicles second)

/-- A coordinator that is started, recovers and is stopped. -/
def briefLifetime : Lifetime where
  startup := ⟨{ sharedSecret := List.replicate 32 7, policy := {} }, endpointA, .filled 9, 1,
    noFailure⟩
  survives := true
  actions := [.run 0 {}]

/-- Two such runs have the same topology generation in force. -/
theorem topologyGenerations_repeat :
    ¬ (chronicles newStore [briefLifetime, briefLifetime]).Pairwise Chronicle.Exceeds := by
  intro grow
  rw [chronicles, chronicles, chronicles] at grow
  have exceeds := (List.pairwise_cons.mp grow).1 _ List.mem_cons_self
  exact absurd (exceeds ⟨2⟩ (by decide +kernel) ⟨2⟩ (by decide +kernel)) (UInt64.lt_irrefl 2)

end StateMovementFabric
