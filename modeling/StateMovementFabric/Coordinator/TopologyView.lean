import StateMovementFabric.Core.Topology

namespace StateMovementFabric

/-!
# The topology view

Who is registered, who of them is reachable, and the generation that every change of
this advances.  The view lives in memory only and starts with generation one.
-/

/-- `TopologyView`.  The index of the source makes an endpoint occur once. -/
structure TopologyView where
  generation : TopologyGeneration
  endpoints : List EndpointRegistration
  unique : (endpoints.map EndpointRegistration.endpoint).Nodup

namespace TopologyView

/-- A view that was just constructed. -/
def initial : TopologyView := ⟨⟨1⟩, [], List.nodup_nil⟩

/-- The registration of an endpoint, by the index. -/
def lookup (view : TopologyView) (endpoint : EndpointId) : Option EndpointRegistration :=
  view.endpoints.find? fun registration => registration.endpoint == endpoint

/-- `find`. -/
def find (view : TopologyView) (endpoint : EndpointId) : Result EndpointRegistration :=
  match view.lookup endpoint with
  | some registration => .ok registration
  | none => refuse .ENDPOINT_NOT_FOUND "endpoint is not registered"

/-- `advance`. -/
def advance (view : TopologyView) : Result TopologyView := do
  let next ← view.generation.next
  return { view with generation := next }

/-- Change the registration of one endpoint in its place. -/
def modify (view : TopologyView) (endpoint : EndpointId)
    (change : EndpointRegistration -> EndpointRegistration)
    (keeps : forall slot, slot.endpoint = endpoint -> (change slot).endpoint = endpoint) :
    TopologyView where
  generation := view.generation
  endpoints := view.endpoints.map fun slot => if slot.endpoint = endpoint then change slot else slot
  unique := by
    have names : (view.endpoints.map fun slot =>
        if slot.endpoint = endpoint then change slot else slot).map EndpointRegistration.endpoint =
        view.endpoints.map EndpointRegistration.endpoint := by
      rw [List.map_map]
      apply List.map_congr_left
      intro slot _
      change (if slot.endpoint = endpoint then change slot else slot).endpoint = slot.endpoint
      split
      · rename_i same
        rw [keeps slot same, same]
      · rfl
    rw [names]
    exact view.unique

/-- Add the registration of an endpoint that has none. -/
def extend (view : TopologyView) (registration : EndpointRegistration)
    (absent : view.lookup registration.endpoint = none) : TopologyView where
  generation := view.generation
  endpoints := view.endpoints ++ [registration]
  unique := by
    rw [List.map_append, List.nodup_append']
    refine ⟨view.unique, List.nodup_singleton _, ?_⟩
    intro name inside last
    rcases List.mem_map.mp inside with ⟨slot, member, named⟩
    have different := List.find?_eq_none.mp absent slot member
    rw [named, List.mem_singleton.mp last] at different
    exact different (beq_self_eq_true _)

/-- `put`.  A registration with an older epoch does not displace a newer one. -/
def put (view : TopologyView) (registration : EndpointRegistration) (maxEndpoints : UInt32) :
    Result TopologyView := do
  registration.validate
  match found : view.lookup registration.endpoint with
  | some slot =>
      if slot.incarnation.epoch.value > registration.incarnation.epoch.value then
        refuse .STALE_EPOCH "registration carries an epoch older than the one already recorded"
      else return view.modify registration.endpoint (fun _ => registration) fun _ _ => rfl
  | none =>
      if view.endpoints.length ≥ maxEndpoints.toNat then
        refuse .RESOURCE_EXHAUSTED "topology endpoint bound reached"
      else return view.extend registration found

/-- The view in which an endpoint is no longer reachable. -/
def silence (view : TopologyView) (endpoint : EndpointId) : TopologyView :=
  view.modify endpoint (fun slot => { slot with live := false }) fun _ same => same

/-- `mark_dead`.  The endpoint is dead also when the generation cannot advance. -/
def markDead (view : TopologyView) (endpoint : EndpointId) : TopologyView × Result Unit :=
  match view.lookup endpoint with
  | none => (view, refuse .ENDPOINT_NOT_FOUND "endpoint is not registered")
  | some _ =>
      match (view.silence endpoint).advance with
      | .error status => (view.silence endpoint, .error status)
      | .ok advanced => (advanced, .ok ())

/-- `reset_dynamic_state`. -/
def resetDynamicState (view : TopologyView) : TopologyView :=
  let cleared : TopologyView := ⟨view.generation, [], List.nodup_nil⟩
  match cleared.advance with
  | .error _ => cleared
  | .ok advanced => advanced

/-! ## What the operations leave -/

variable {view next : TopologyView} {endpoint other : EndpointId}
  {registration : EndpointRegistration} {maxEndpoints : UInt32}

theorem lookup_of_mem (member : registration ∈ view.endpoints) :
    view.lookup registration.endpoint = some registration := by
  rcases view with ⟨generation, endpoints, unique⟩
  change endpoints.find? _ = _
  change registration ∈ endpoints at member
  induction endpoints with
  | nil => cases member
  | cons first rest ih =>
      rw [List.map_cons, List.nodup_cons] at unique
      rcases List.mem_cons.mp member with rfl | later
      · simp
      · have different : first.endpoint ≠ registration.endpoint := by
          intro same
          exact unique.1 (same ▸ List.mem_map_of_mem later)
        rw [List.find?_cons_of_neg (by simpa using different)]
        exact ih unique.2 later

theorem lookup_modify {change : EndpointRegistration -> EndpointRegistration}
    (keeps : forall slot, slot.endpoint = endpoint -> (change slot).endpoint = endpoint) :
    (view.modify endpoint change keeps).lookup other =
      if other = endpoint then (view.lookup endpoint).map change else view.lookup other := by
  change (view.endpoints.map _).find? _ = if _ then (view.endpoints.find? _).map _ else
    view.endpoints.find? _
  induction view.endpoints with
  | nil => split <;> rfl
  | cons first rest ih =>
      rw [List.map_cons]
      by_cases here : first.endpoint = endpoint
      · by_cases asked : other = endpoint
        · subst asked
          simp [here, keeps first here]
        · have passed : endpoint ≠ other := fun same => asked same.symm
          simpa [here, keeps first here, asked, passed] using ih
      · by_cases asked : other = endpoint
        · subst asked
          simpa [here] using ih
        · simp only [here, asked, if_false] at ih ⊢
          rw [List.find?_cons, List.find?_cons, ih]

theorem lookup_extend (absent : view.lookup registration.endpoint = none) :
    (view.extend registration absent).lookup other =
      if other = registration.endpoint then some registration else view.lookup other := by
  change (view.endpoints ++ [registration]).find? _ = _
  rw [List.find?_append]
  change (view.lookup other).or _ = _
  by_cases here : other = registration.endpoint
  · subst here
    simp [absent]
  · have different : registration.endpoint ≠ other := fun same => here same.symm
    simp [here, different]

/-- What a successful `advance` leaves. -/
theorem advance_eq_ok (advanced : view.advance = .ok next) :
    next.generation.value.toNat = view.generation.value.toNat + 1 ∧
      next.endpoints = view.endpoints := by
  rcases bind_eq_ok.mp advanced with ⟨generation, found, returned⟩
  cases returned
  exact ⟨Generation.next_toNat found, rfl⟩

/-- Only the last generation has no successor. -/
theorem generation_of_advance_error {status : Status} (refused : view.advance = .error status) :
    view.generation.value = 18446744073709551615 := by
  by_contra below
  unfold advance Generation.next at refused
  rw [if_neg (by simpa using below)] at refused
  cases refused

theorem lookup_advance (advanced : view.advance = .ok next) (endpoint : EndpointId) :
    next.lookup endpoint = view.lookup endpoint := by
  unfold lookup
  rw [(advance_eq_ok advanced).2]

/-- The end of an endpoint never lowers the generation. -/
theorem generation_markDead_le (view : TopologyView) (endpoint : EndpointId) :
    view.generation.value ≤ (view.markDead endpoint).1.generation.value := by
  unfold markDead
  split
  · exact UInt64.le_refl _
  · split
    · exact UInt64.le_refl _
    · rename_i advanced advances
      rw [UInt64.le_iff_toNat_le, (advance_eq_ok advances).1]
      exact Nat.le_succ _

/-- What a successful `put` leaves. -/
theorem put_eq_ok (added : view.put registration maxEndpoints = .ok next) :
    next.generation = view.generation ∧ forall other, next.lookup other =
      if other = registration.endpoint then some registration else view.lookup other := by
  rcases check_bind_eq_ok.mp added with ⟨-, added⟩
  split at added
  · rename_i slot found
    split at added
    · cases added
    · cases added
      refine ⟨rfl, fun other => ?_⟩
      rw [lookup_modify, found]
      rfl
  · rename_i absent
    split at added
    · cases added
    · cases added
      exact ⟨rfl, fun other => lookup_extend absent⟩

theorem lookup_silence (other : EndpointId) :
    (view.silence endpoint).lookup other =
      if other = endpoint then (view.lookup endpoint).map fun slot => { slot with live := false }
      else view.lookup other := by
  unfold silence
  exact lookup_modify _

theorem lookup_markDead (other : EndpointId) :
    (view.markDead endpoint).1.lookup other =
      if other = endpoint then (view.lookup endpoint).map fun slot => { slot with live := false }
      else view.lookup other := by
  unfold markDead
  split
  · rename_i absent
    split
    · rename_i same
      rw [same, absent]
      rfl
    · rfl
  · split
    · exact lookup_silence other
    · rename_i advanced
      rw [lookup_advance advanced]
      exact lookup_silence other

end TopologyView

end StateMovementFabric
