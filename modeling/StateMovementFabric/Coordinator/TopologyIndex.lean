import StateMovementFabric.Coordinator.TopologyView

namespace StateMovementFabric

/-!
# The tables behind the topology view

The registrations are kept in a vector, and a map gives the position of every endpoint in it.
A removal from the middle of the vector shifts the positions behind it, and the map has to
follow.  Here the two tables are modelled as they are, together with the links between
endpoints, and shown to be a finite map from endpoints to registrations: whatever sequence of
operations was performed, what is found is what the history of accepted operations says.

An access behind the end of the vector has no result.  That there is none is part of what is
shown.
-/

structure LinkDescriptor where
  fromEndpoint : EndpointId
  toEndpoint : EndpointId
  observed : Bool := false
  rttMicros : UInt32 := 0
  bytesPerSecond : UInt64 := 0
  deriving DecidableEq

/-- The endpoint is at one of the ends of the link. -/
def LinkDescriptor.names (link : LinkDescriptor) (endpoint : EndpointId) : Bool :=
  link.fromEndpoint == endpoint || link.toEndpoint == endpoint

def LinkDescriptor.pair (link : LinkDescriptor) : EndpointId × EndpointId :=
  (link.fromEndpoint, link.toEndpoint)

/-- The members of `TopologyView` that change.  The index is a map from endpoints to positions. -/
structure TopologyTables where
  generation : TopologyGeneration
  endpoints : List EndpointRegistration
  links : List LinkDescriptor
  index : EndpointId -> Option Nat

namespace TopologyTables

/-- A view that was just constructed. -/
def empty (generation : TopologyGeneration) : TopologyTables := ⟨generation, [], [], fun _ => none⟩

/-- `advance`. -/
def advance (tables : TopologyTables) : TopologyTables × Result TopologyGeneration :=
  match tables.generation.next with
  | .error status => (tables, .error status)
  | .ok next => ({ tables with generation := next }, .ok next)

/-- The end of `put` for an endpoint that has a slot. -/
def replaceSlot (tables : TopologyTables) (registration : EndpointRegistration) (position : Nat)
    (slot : EndpointRegistration) : TopologyTables × Result Unit :=
  if slot.incarnation.epoch.value > registration.incarnation.epoch.value then
    (tables, refuse .STALE_EPOCH
      "registration carries an epoch older than the one already recorded")
  else ({ tables with endpoints := tables.endpoints.set position registration }, .ok ())

/-- The end of `put` for an endpoint that has none. -/
def addSlot (tables : TopologyTables) (registration : EndpointRegistration)
    (maxEndpoints : UInt32) : TopologyTables × Result Unit :=
  if tables.endpoints.length ≥ maxEndpoints.toNat then
    (tables, refuse .RESOURCE_EXHAUSTED "topology endpoint bound reached")
  else
    ({ tables with
        index := Function.update tables.index registration.endpoint (some tables.endpoints.length)
        endpoints := tables.endpoints ++ [registration] }, .ok ())

/-- `put`; `none` is an access outside the vector. -/
def put (tables : TopologyTables) (registration : EndpointRegistration) (maxEndpoints : UInt32) :
    Option (TopologyTables × Result Unit) :=
  match registration.validate with
  | .error status => some (tables, .error status)
  | .ok () =>
      match tables.index registration.endpoint with
      | some position =>
          tables.endpoints[position]?.map (tables.replaceSlot registration position)
      | none => some (tables.addSlot registration maxEndpoints)

/-- The tables once the slot at a position is gone. -/
def dropSlot (tables : TopologyTables) (endpoint : EndpointId) (position : Nat) : TopologyTables :=
  { tables with
    endpoints := tables.endpoints.eraseIdx position
    index := fun other =>
      if other = endpoint then none
      else (tables.index other).map fun place => if place > position then place - 1 else place
    links := tables.links.filter fun link => !link.names endpoint }

/-- `remove`; `none` is an access outside the vector. -/
def remove (tables : TopologyTables) (endpoint : EndpointId) :
    Option (TopologyTables × Result Unit) :=
  match tables.index endpoint with
  | none => some (tables, refuse .ENDPOINT_NOT_FOUND "endpoint is not registered")
  | some position =>
      if position < tables.endpoints.length then some (tables.dropSlot endpoint position, .ok ())
      else none

/-- The tables once the endpoint at a position is not reachable any more. -/
def silenceSlot (tables : TopologyTables) (position : Nat) (slot : EndpointRegistration) :
    TopologyTables :=
  { tables with endpoints := tables.endpoints.set position { slot with live := false } }

/-- `mark_dead`; `none` is an access outside the vector. -/
def markDead (tables : TopologyTables) (endpoint : EndpointId) :
    Option (TopologyTables × Result Unit) :=
  match tables.index endpoint with
  | none => some (tables, refuse .ENDPOINT_NOT_FOUND "endpoint is not registered")
  | some position =>
      tables.endpoints[position]?.map fun slot =>
        let advanced := (tables.silenceSlot position slot).advance
        (advanced.1, advanced.2.map fun _ => ())

/-- `find`; `none` is an access outside the vector. -/
def find (tables : TopologyTables) (endpoint : EndpointId) :
    Option (Result EndpointRegistration) :=
  match tables.index endpoint with
  | none => some (refuse .ENDPOINT_NOT_FOUND "endpoint is not registered")
  | some position => tables.endpoints[position]?.map .ok

/-- `put_link`. -/
def putLink (tables : TopologyTables) (link : LinkDescriptor) (maxLinks : UInt32) :
    TopologyTables × Result Unit :=
  if link.fromEndpoint = link.toEndpoint then
    (tables, refuse .INVALID_ARGUMENT "a link must connect two distinct endpoints")
  else
    match tables.links.findIdx? fun item => item.pair == link.pair with
    | some place => ({ tables with links := tables.links.set place link }, .ok ())
    | none =>
        if tables.links.length ≥ maxLinks.toNat then
          (tables, refuse .RESOURCE_EXHAUSTED "topology link bound reached")
        else ({ tables with links := tables.links ++ [link] }, .ok ())

/-- `reset_dynamic_state`. -/
def resetDynamicState (tables : TopologyTables) : TopologyTables :=
  (empty tables.generation).advance.1

end TopologyTables

/-! ## Operations and their history -/

inductive TopologyAction where
  | advance
  | put (registration : EndpointRegistration) (maxEndpoints : UInt32)
  | remove (endpoint : EndpointId)
  | markDead (endpoint : EndpointId)
  | putLink (link : LinkDescriptor) (maxLinks : UInt32)
  | resetDynamicState

/-- An operation, and whether it was accepted. -/
abbrev TopologyEvent := TopologyAction × Bool

/-- An operation on the tables. -/
def TopologyTables.step (tables : TopologyTables) :
    TopologyAction -> Option (TopologyTables × Bool)
  | .advance => some (tables.advance.1, succeeded tables.advance.2)
  | .put registration maxEndpoints =>
      (tables.put registration maxEndpoints).map fun left => (left.1, succeeded left.2)
  | .remove endpoint => (tables.remove endpoint).map fun left => (left.1, succeeded left.2)
  | .markDead endpoint => (tables.markDead endpoint).map fun left => (left.1, succeeded left.2)
  | .putLink link maxLinks =>
      some ((tables.putLink link maxLinks).1, succeeded (tables.putLink link maxLinks).2)
  | .resetDynamicState => some (tables.resetDynamicState, true)

/-- The tables and what was done to them, latest first. -/
structure TopologyRecord where
  tables : TopologyTables
  history : List TopologyEvent := []

namespace TopologyRecord

def step (record : TopologyRecord) (action : TopologyAction) : Option TopologyRecord :=
  (record.tables.step action).map fun left => ⟨left.1, (action, left.2) :: record.history⟩

def run (record : TopologyRecord) (actions : List TopologyAction) : Option TopologyRecord :=
  actions.foldlM step record

end TopologyRecord

namespace TopologyEvent

/-- What an event makes of the registration of an endpoint. -/
def registration (endpoint : EndpointId) (before : Option EndpointRegistration) :
    TopologyEvent -> Option EndpointRegistration
  | (.put registration _, true) =>
      if endpoint = registration.endpoint then some registration else before
  | (.remove removed, true) => if endpoint = removed then none else before
  | (.markDead dead, _) =>
      if endpoint = dead then before.map fun slot => { slot with live := false } else before
  | (.resetDynamicState, _) => none
  | _ => before

/-- Whether an endpoint was removed and has no link since. -/
def unlinked (endpoint : EndpointId) (before : Bool) : TopologyEvent -> Bool
  | (.remove removed, true) => if endpoint = removed then true else before
  | (.putLink link _, true) => if link.names endpoint then false else before
  | _ => before

/-- The registration of the endpoint is given up. -/
def drops (endpoint : EndpointId) : TopologyEvent -> Bool
  | (.remove removed, true) => endpoint == removed
  | (.resetDynamicState, _) => true
  | _ => false

end TopologyEvent

/-- The latest accepted registration of an endpoint since it was removed or the view was reset. -/
def registeredIn (history : List TopologyEvent) (endpoint : EndpointId) :
    Option EndpointRegistration :=
  history.foldr (fun event before => event.registration endpoint before) none

/-- The endpoint was removed, and no link was added to it since. -/
def unlinkedIn (history : List TopologyEvent) (endpoint : EndpointId) : Bool :=
  history.foldr (fun event before => event.unlinked endpoint before) false

/-! ## The index is right -/

namespace TopologyTables

/-- The index has every endpoint at the position of its entry, and nothing else. -/
def Located (tables : TopologyTables) : Prop :=
  forall endpoint position, tables.index endpoint = some position ↔
    exists registration, tables.endpoints[position]? = some registration ∧
      registration.endpoint = endpoint

/-- What is found for an endpoint. -/
def content (tables : TopologyTables) (endpoint : EndpointId) : Option EndpointRegistration :=
  (tables.index endpoint).bind fun position => tables.endpoints[position]?

section Content

variable {tables : TopologyTables} {endpoint : EndpointId} {position : Nat}
  {registration slot : EndpointRegistration}

theorem located_empty (generation : TopologyGeneration) : (empty generation).Located := by
  intro endpoint position
  simp [empty]

/-- A position of the index is a slot of its endpoint. -/
theorem Located.exists_slot (located : tables.Located)
    (found : tables.index endpoint = some position) :
    exists slot, tables.endpoints[position]? = some slot ∧ slot.endpoint = endpoint ∧
      tables.content endpoint = some slot := by
  rcases (located endpoint position).mp found with ⟨slot, placed, named⟩
  refine ⟨slot, placed, named, ?_⟩
  rw [content, found]
  exact placed

theorem content_of_absent (absent : tables.index endpoint = none) :
    tables.content endpoint = none := by
  rw [content, absent]
  rfl

/-- `find` returns what is found, and never reaches outside the vector. -/
theorem Located.find (located : tables.Located) (endpoint : EndpointId) :
    tables.find endpoint = some ((tables.content endpoint).elim
      (refuse .ENDPOINT_NOT_FOUND "endpoint is not registered") .ok) := by
  unfold TopologyTables.find
  cases found : tables.index endpoint with
  | none =>
      rw [content_of_absent found]
      rfl
  | some position =>
      rcases located.exists_slot found with ⟨slot, placed, -, content⟩
      dsimp only
      rw [placed, content]
      rfl

/-! A slot is replaced by one of the same endpoint. -/

theorem Located.set (located : tables.Located) (placed : tables.endpoints[position]? = some slot)
    (same : registration.endpoint = slot.endpoint) :
    Located { tables with endpoints := tables.endpoints.set position registration } := by
  intro endpoint place
  have inside := (List.getElem?_eq_some_iff.mp placed).1
  change tables.index endpoint = some place ↔ exists found,
    (tables.endpoints.set position registration)[place]? = some found ∧ found.endpoint = endpoint
  rw [located endpoint place]
  by_cases here : position = place
  · subst here
    rw [List.getElem?_set_self inside, placed]
    simp [same]
  · rw [List.getElem?_set_ne here]

theorem Located.content_set (located : tables.Located)
    (placed : tables.endpoints[position]? = some slot) (other : EndpointId) :
    content { tables with endpoints := tables.endpoints.set position registration } other =
      if other = slot.endpoint then some registration else tables.content other := by
  have inside := (List.getElem?_eq_some_iff.mp placed).1
  have at_ : tables.index slot.endpoint = some position :=
    (located slot.endpoint position).mpr ⟨slot, placed, rfl⟩
  change (tables.index other).bind (fun place =>
    (tables.endpoints.set position registration)[place]?) = _
  by_cases asked : other = slot.endpoint
  · rw [if_pos asked, asked, at_]
    exact List.getElem?_set_self inside
  · rw [if_neg asked, content]
    cases found : tables.index other with
    | none => rfl
    | some place =>
        have apart : position ≠ place := by
          rintro rfl
          rcases (located other position).mp found with ⟨again, placedAgain, named⟩
          rw [placed] at placedAgain
          cases placedAgain
          exact asked named.symm
        exact List.getElem?_set_ne apart

/-! A slot is added behind the others. -/

theorem Located.append (located : tables.Located)
    (absent : tables.index registration.endpoint = none) :
    Located { tables with
      index := Function.update tables.index registration.endpoint (some tables.endpoints.length)
      endpoints := tables.endpoints ++ [registration] } := by
  intro endpoint place
  change Function.update tables.index registration.endpoint (some tables.endpoints.length)
      endpoint = some place ↔ exists found,
    (tables.endpoints ++ [registration])[place]? = some found ∧ found.endpoint = endpoint
  have outside (beyond : tables.endpoints.length ≤ place) : tables.index endpoint ≠ some place := by
    intro found
    rcases (located endpoint place).mp found with ⟨slot, placed, -⟩
    exact absurd (List.getElem?_eq_some_iff.mp placed).1 (Nat.not_lt.mpr beyond)
  rcases Nat.lt_trichotomy place tables.endpoints.length with before | rfl | beyond
  · rw [List.getElem?_append_left before, ← located endpoint place]
    by_cases asked : endpoint = registration.endpoint
    · rw [asked, Function.update_self, absent]
      constructor
      · intro last
        cases last
        exact absurd before (Nat.lt_irrefl _)
      · intro impossible
        cases impossible
    · rw [Function.update_of_ne asked]
  · rw [List.getElem?_concat_length]
    by_cases asked : endpoint = registration.endpoint
    · rw [asked, Function.update_self]
      simp
    · rw [Function.update_of_ne asked]
      constructor
      · intro found
        exact absurd found (outside (Nat.le_refl _))
      · rintro ⟨found, last, named⟩
        cases last
        exact absurd named.symm asked
  · rw [List.getElem?_eq_none (by rw [List.length_append, List.length_singleton]; omega)]
    constructor
    · intro found
      by_cases asked : endpoint = registration.endpoint
      · rw [asked, Function.update_self] at found
        cases found
        exact absurd beyond (Nat.lt_irrefl _)
      · rw [Function.update_of_ne asked] at found
        exact absurd found (outside (Nat.le_of_lt beyond))
    · rintro ⟨found, impossible, -⟩
      cases impossible

theorem Located.content_append (located : tables.Located) (other : EndpointId) :
    content { tables with
        index := Function.update tables.index registration.endpoint (some tables.endpoints.length)
        endpoints := tables.endpoints ++ [registration] } other =
      if other = registration.endpoint then some registration else tables.content other := by
  change (Function.update tables.index registration.endpoint (some tables.endpoints.length)
    other).bind (fun place => (tables.endpoints ++ [registration])[place]?) = _
  by_cases asked : other = registration.endpoint
  · rw [if_pos asked, asked, Function.update_self]
    exact List.getElem?_concat_length
  · rw [if_neg asked, Function.update_of_ne asked, content]
    cases found : tables.index other with
    | none => rfl
    | some place =>
        rcases located.exists_slot found with ⟨slot, placed, -, -⟩
        exact List.getElem?_append_left (List.getElem?_eq_some_iff.mp placed).1

/-! A slot is taken out of the vector. -/

/-- An entry that is still there is found one position earlier if it was behind the slot. -/
theorem getElem?_eraseIdx_shift {place : Nat} (apart : place ≠ position) :
    (tables.endpoints.eraseIdx position)[if place > position then place - 1 else place]? =
      tables.endpoints[place]? := by
  rw [List.getElem?_eraseIdx]
  split
  · rename_i behind
    rw [if_neg (by omega), Nat.sub_add_cancel (by omega)]
  · rw [if_pos (by omega)]

/-- Every position that is left was another position before. -/
theorem exists_shift (place : Nat) :
    exists before, before ≠ position ∧
      (if before > position then before - 1 else before) = place := by
  by_cases early : place < position
  · exact ⟨place, by omega, if_neg (by omega)⟩
  · exact ⟨place + 1, by omega, by rw [if_pos (by omega)]; omega⟩

/-- The slot at the position of an endpoint is not that of another. -/
theorem Located.apart (located : tables.Located) (found : tables.index endpoint = some position)
    {other : EndpointId} (different : other ≠ endpoint) {place : Nat}
    (elsewhere : tables.index other = some place) : place ≠ position := by
  rintro rfl
  rcases located.exists_slot found with ⟨slot, placed, named, -⟩
  rcases located.exists_slot elsewhere with ⟨again, placedAgain, namedAgain, -⟩
  cases placed.symm.trans placedAgain
  exact different (namedAgain.symm.trans named)

theorem Located.drop (located : tables.Located) (found : tables.index endpoint = some position) :
    (tables.dropSlot endpoint position).Located := by
  intro other place
  rcases @exists_shift position place with ⟨before, apart, rfl⟩
  change (if other = endpoint then none else (tables.index other).map _) = _ ↔
    exists slot : EndpointRegistration,
      (tables.endpoints.eraseIdx position)[_]? = some slot ∧ slot.endpoint = other
  rw [getElem?_eraseIdx_shift apart, ← located other before]
  by_cases asked : other = endpoint
  · rw [if_pos asked, asked, found]
    constructor
    · intro impossible
      cases impossible
    · intro same
      cases same
      exact absurd rfl apart
  · rw [if_neg asked]
    constructor
    · intro shifted
      rcases Option.map_eq_some_iff.mp shifted with ⟨place, elsewhere, same⟩
      have distinct := located.apart found asked elsewhere
      rw [elsewhere]
      congr 1
      split at same <;> split at same <;> omega
    · intro elsewhere
      rw [elsewhere]
      rfl

theorem Located.content_drop (located : tables.Located)
    (found : tables.index endpoint = some position) (other : EndpointId) :
    (tables.dropSlot endpoint position).content other =
      if other = endpoint then none else tables.content other := by
  change (if other = endpoint then none else (tables.index other).map _).bind
    (fun place => (tables.endpoints.eraseIdx position)[place]?) = _
  by_cases asked : other = endpoint
  · rw [if_pos asked, if_pos asked]
    rfl
  · rw [if_neg asked, if_neg asked, content]
    cases elsewhere : tables.index other with
    | none => rfl
    | some place => exact getElem?_eraseIdx_shift (located.apart found asked elsewhere)

end Content

/-! ## What one operation does -/

/-- The tables after an event: the index is right again, every endpoint has the registration
that the event gives it, and the links and the generation follow their own rules. -/
structure Follows (tables : TopologyTables) (event : TopologyEvent) (next : TopologyTables) :
    Prop where
  located : next.Located
  content : forall endpoint,
    next.content endpoint = event.registration endpoint (tables.content endpoint)
  renewed : forall registration maxEndpoints slot,
    event = (.put registration maxEndpoints, true) ->
      tables.content registration.endpoint = some slot ->
        slot.incarnation.epoch.value ≤ registration.incarnation.epoch.value
  unlinked : forall endpoint before,
    (before = true -> forall link, link ∈ tables.links -> link.names endpoint = false) ->
      event.unlinked endpoint before = true ->
        forall link, link ∈ next.links -> link.names endpoint = false
  pairs : (tables.links.map LinkDescriptor.pair).Nodup -> (next.links.map LinkDescriptor.pair).Nodup
  generation : tables.generation.value ≤ next.generation.value

section Steps

variable {tables next : TopologyTables} {event : TopologyEvent} {endpoint : EndpointId}

/-- A call that is refused and changes nothing. -/
theorem follows_refused (located : tables.Located) {action : TopologyAction}
    (idle : forall endpoint, TopologyEvent.registration endpoint (tables.content endpoint)
      (action, false) = tables.content endpoint)
    (keeps : forall endpoint before,
      TopologyEvent.unlinked endpoint before (action, false) = before) :
    Follows tables (action, false) tables where
  located := located
  content endpoint := (idle endpoint).symm
  renewed registration maxEndpoints slot impossible := by cases impossible
  unlinked endpoint before free same := free (by rw [← same, keeps])
  pairs distinct := distinct
  generation := UInt64.le_refl _

theorem generation_advance_le (tables : TopologyTables) :
    tables.generation.value ≤ tables.advance.1.generation.value := by
  unfold advance
  cases advanced : tables.generation.next with
  | error status => exact UInt64.le_refl _
  | ok next =>
      rw [UInt64.le_iff_toNat_le]
      change _ ≤ next.value.toNat
      rw [Generation.next_toNat advanced]
      exact Nat.le_succ _

theorem advance_endpoints (tables : TopologyTables) :
    tables.advance.1.endpoints = tables.endpoints ∧ tables.advance.1.index = tables.index ∧
      tables.advance.1.links = tables.links := by
  unfold advance
  cases tables.generation.next with
  | error status => exact ⟨rfl, rfl, rfl⟩
  | ok next => exact ⟨rfl, rfl, rfl⟩

/-- To advance changes the generation only. -/
theorem Follows.advance (follows : Follows tables event next) :
    Follows tables event next.advance.1 := by
  rcases next.advance_endpoints with ⟨endpoints, index, links⟩
  refine ⟨?_, ?_, follows.renewed, ?_, ?_, ?_⟩
  · unfold Located
    rw [endpoints, index]
    exact follows.located
  · intro endpoint
    rw [← follows.content endpoint]
    unfold TopologyTables.content
    rw [endpoints, index]
  · rw [links]
    exact follows.unlinked
  · rw [links]
    exact follows.pairs
  · exact UInt64.le_trans follows.generation (generation_advance_le next)

theorem follows_put (located : tables.Located) (registration : EndpointRegistration)
    (maxEndpoints : UInt32) :
    exists left, tables.put registration maxEndpoints = some left ∧
      Follows tables (.put registration maxEndpoints, succeeded left.2) left.1 := by
  have refused : Follows tables (.put registration maxEndpoints, false) tables :=
    follows_refused located (fun _ => rfl) fun _ _ => rfl
  unfold put
  split
  · exact ⟨_, rfl, refused⟩
  · split
    · rename_i position found
      rcases located.exists_slot found with ⟨slot, placed, named, content⟩
      rw [placed]
      refine ⟨_, rfl, ?_⟩
      unfold replaceSlot
      split
      · exact refused
      · rename_i notOlder
        refine ⟨located.set placed named.symm, ?_, ?_, fun _ _ free same => free same,
          fun distinct => distinct, UInt64.le_refl _⟩
        · intro endpoint
          rw [located.content_set placed, named]
          rfl
        · rintro given maxGiven before same recorded
          cases same
          cases content.symm.trans recorded
          exact UInt64.not_lt.mp notOlder
    · rename_i absent
      refine ⟨_, rfl, ?_⟩
      unfold addSlot
      split
      · exact refused
      · refine ⟨located.append absent, located.content_append, ?_, fun _ _ free same => free same,
          fun distinct => distinct, UInt64.le_refl _⟩
        rintro given maxGiven before same recorded
        cases same
        rw [content_of_absent absent] at recorded
        cases recorded

theorem follows_remove (located : tables.Located) (endpoint : EndpointId) :
    exists left, tables.remove endpoint = some left ∧
      Follows tables (.remove endpoint, succeeded left.2) left.1 := by
  unfold remove
  split
  · exact ⟨_, rfl, follows_refused located (fun _ => rfl) fun _ _ => rfl⟩
  · rename_i position found
    rcases located.exists_slot found with ⟨slot, placed, -, -⟩
    rw [if_pos (List.getElem?_eq_some_iff.mp placed).1]
    refine ⟨_, rfl, located.drop found, located.content_drop found, ?_, ?_, ?_, UInt64.le_refl _⟩
    · intro registration maxEndpoints slot impossible
      cases impossible
    · intro other before free same link inside
      rcases List.mem_filter.mp inside with ⟨present, kept⟩
      by_cases asked : other = endpoint
      · rw [asked]
        simpa using kept
      · exact free (by simpa [TopologyEvent.unlinked, succeeded, asked] using same) link present
    · intro distinct
      exact distinct.sublist (List.filter_sublist.map _)

theorem follows_markDead (located : tables.Located) (endpoint : EndpointId) :
    exists left, tables.markDead endpoint = some left ∧
      Follows tables (.markDead endpoint, succeeded left.2) left.1 := by
  unfold markDead
  split
  · rename_i absent
    refine ⟨_, rfl, follows_refused located ?_ fun _ _ => rfl⟩
    intro other
    rw [TopologyEvent.registration]
    split
    · rename_i same
      rw [same, content_of_absent absent]
      rfl
    · rfl
  · rename_i position found
    rcases located.exists_slot found with ⟨slot, placed, rfl, content⟩
    rw [placed]
    refine ⟨_, rfl, Follows.advance ⟨located.set placed rfl, ?_, ?_,
      fun _ _ free same => free same, fun distinct => distinct, UInt64.le_refl _⟩⟩
    · intro other
      rw [silenceSlot, located.content_set placed, TopologyEvent.registration]
      split
      · rename_i same
        rw [same, content]
        rfl
      · rfl
    · intro registration maxEndpoints slot impossible
      cases impossible

/-- A link takes the place of the one between the same endpoints, or comes behind the others. -/
theorem putLink_cases (tables : TopologyTables) (link : LinkDescriptor) (maxLinks : UInt32) :
    ((tables.putLink link maxLinks).1 = tables ∧
        succeeded (tables.putLink link maxLinks).2 = false) ∨
      exists links, tables.putLink link maxLinks = ({ tables with links := links }, .ok ()) ∧
        (forall other, other ∈ links -> other = link ∨ other ∈ tables.links) ∧
        ((tables.links.map LinkDescriptor.pair).Nodup ->
          (links.map LinkDescriptor.pair).Nodup) := by
  unfold putLink
  split
  · exact .inl ⟨rfl, rfl⟩
  · split
    · rename_i place found
      refine .inr ⟨_, rfl, ?_, ?_⟩
      · intro other inside
        rcases List.mem_or_eq_of_mem_set inside with old | same
        · exact .inr old
        · exact .inl same
      · intro distinct
        rcases List.findIdx?_eq_some_iff_getElem.mp found with ⟨inside, same, -⟩
        have unchanged : (tables.links.set place link).map LinkDescriptor.pair =
            tables.links.map LinkDescriptor.pair := by
          rw [List.map_set, ← beq_iff_eq.mp same]
          apply List.ext_getElem?
          intro other
          by_cases here : place = other
          · subst here
            rw [List.getElem?_set_self (by rw [List.length_map]; exact inside), List.getElem?_map,
              List.getElem?_eq_getElem inside]
            rfl
          · rw [List.getElem?_set_ne here]
        rw [unchanged]
        exact distinct
    · rename_i absent
      split
      · exact .inl ⟨rfl, rfl⟩
      · refine .inr ⟨_, rfl, ?_, ?_⟩
        · intro other inside
          rcases List.mem_append.mp inside with old | new
          · exact .inr old
          · exact .inl (List.mem_singleton.mp new)
        · intro distinct
          rw [List.map_append, List.nodup_append']
          refine ⟨distinct, List.nodup_singleton _, ?_⟩
          intro pair inside last
          rcases List.mem_map.mp inside with ⟨item, member, same⟩
          have different := List.findIdx?_eq_none_iff.mp absent item member
          rw [same, List.mem_singleton.mp last] at different
          simp at different

theorem follows_putLink (located : tables.Located) (link : LinkDescriptor) (maxLinks : UInt32) :
    Follows tables (.putLink link maxLinks, succeeded (tables.putLink link maxLinks).2)
      (tables.putLink link maxLinks).1 := by
  rcases putLink_cases tables link maxLinks with ⟨same, refused⟩ |
    ⟨links, added, from_, distinct⟩
  · rw [same, refused]
    exact follows_refused located (fun _ => rfl) fun _ _ => rfl
  · rw [added]
    refine ⟨located, fun _ => rfl, ?_, ?_, distinct, UInt64.le_refl _⟩
    · intro registration maxEndpoints slot impossible
      cases impossible
    · intro endpoint before free same other inside
      cases named : link.names endpoint with
      | true =>
          rw [succeeded, TopologyEvent.unlinked, named] at same
          cases same
      | false =>
          rw [succeeded, TopologyEvent.unlinked, named] at same
          rcases from_ other inside with rfl | old
          · exact named
          · exact free same other old

theorem follows_resetDynamicState (tables : TopologyTables) :
    Follows tables (.resetDynamicState, true) tables.resetDynamicState := by
  refine Follows.advance ⟨located_empty _, fun _ => rfl, ?_, ?_, fun _ => List.nodup_nil,
    UInt64.le_refl _⟩
  · intro registration maxEndpoints slot impossible
    cases impossible
  · intro endpoint before free same link impossible
    cases impossible

/-- Every operation can be performed, and does what its event says. -/
theorem follows_step (located : tables.Located) (action : TopologyAction) :
    exists left, tables.step action = some left ∧ Follows tables (action, left.2) left.1 := by
  cases action with
  | advance =>
      refine ⟨_, rfl, Follows.advance ?_⟩
      refine ⟨located, fun _ => rfl, ?_, fun _ _ free same => free same,
        fun distinct => distinct, UInt64.le_refl _⟩
      intro registration maxEndpoints slot impossible
      cases impossible
  | put registration maxEndpoints =>
      rcases follows_put located registration maxEndpoints with ⟨left, returned, follows⟩
      refine ⟨(left.1, succeeded left.2), ?_, follows⟩
      rw [step, returned]
      rfl
  | remove endpoint =>
      rcases follows_remove located endpoint with ⟨left, returned, follows⟩
      refine ⟨(left.1, succeeded left.2), ?_, follows⟩
      rw [step, returned]
      rfl
  | markDead endpoint =>
      rcases follows_markDead located endpoint with ⟨left, returned, follows⟩
      refine ⟨(left.1, succeeded left.2), ?_, follows⟩
      rw [step, returned]
      rfl
  | putLink link maxLinks => exact ⟨_, rfl, follows_putLink located link maxLinks⟩
  | resetDynamicState => exact ⟨_, rfl, follows_resetDynamicState tables⟩

/-- An endpoint that an event does not drop keeps a registration, and its epoch does not go
back. -/
theorem Follows.epoch (follows : Follows tables event next) {slot : EndpointRegistration}
    (recorded : tables.content endpoint = some slot) (kept : event.drops endpoint = false) :
    exists later, next.content endpoint = some later ∧
      slot.incarnation.epoch.value ≤ later.incarnation.epoch.value := by
  have unchanged : event.registration endpoint (some slot) = some slot ->
      exists later, event.registration endpoint (some slot) = some later ∧
        slot.incarnation.epoch.value ≤ later.incarnation.epoch.value := by
    intro same
    exact ⟨slot, same, UInt64.le_refl _⟩
  rw [follows.content endpoint, recorded]
  rcases event with ⟨action, accepted⟩
  cases action with
  | advance => exact unchanged rfl
  | putLink link maxLinks => exact unchanged rfl
  | put registration maxEndpoints =>
      cases accepted with
      | false => exact unchanged rfl
      | true =>
          by_cases same : endpoint = registration.endpoint
          · rw [TopologyEvent.registration, if_pos same]
            rw [same] at recorded
            exact ⟨registration, rfl, follows.renewed registration maxEndpoints slot rfl recorded⟩
          · exact unchanged (if_neg same)
  | remove removed =>
      cases accepted with
      | false => exact unchanged rfl
      | true => exact unchanged (if_neg (beq_eq_false_iff_ne.mp kept))
  | markDead dead =>
      rw [TopologyEvent.registration]
      split
      · exact ⟨_, rfl, UInt64.le_refl _⟩
      · exact ⟨_, rfl, UInt64.le_refl _⟩
  | resetDynamicState => cases kept

/-- `put` adds a slot only where there is room for it. -/
theorem length_put_le {registration : EndpointRegistration} {maxEndpoints : UInt32}
    {left : TopologyTables × Result Unit}
    (returned : tables.put registration maxEndpoints = some left) :
    left.1.endpoints.length ≤ max tables.endpoints.length maxEndpoints.toNat := by
  unfold put at returned
  split at returned
  · cases returned
    exact Nat.le_max_left _ _
  · split at returned
    · rcases Option.map_eq_some_iff.mp returned with ⟨slot, -, rfl⟩
      unfold replaceSlot
      split
      · exact Nat.le_max_left _ _
      · dsimp only
        rw [List.length_set]
        exact Nat.le_max_left _ _
    · cases returned
      unfold addSlot
      split
      · exact Nat.le_max_left _ _
      · rename_i room
        dsimp only
        rw [List.length_append, List.length_singleton]
        omega

end Steps

end TopologyTables

/-! ## Whole runs -/

namespace TopologyRecord

/-- The tables are what their history says. -/
structure Kept (record : TopologyRecord) : Prop where
  located : record.tables.Located
  content : forall endpoint,
    record.tables.content endpoint = registeredIn record.history endpoint
  unlinked : forall endpoint, unlinkedIn record.history endpoint = true ->
    forall link, link ∈ record.tables.links -> link.names endpoint = false
  pairs : (record.tables.links.map LinkDescriptor.pair).Nodup

/-- What later operations leave of a record. -/
structure Continues (record : TopologyRecord) (recent : List TopologyEvent)
    (later : TopologyRecord) : Prop where
  history : later.history = recent ++ record.history
  generation : record.tables.generation.value ≤ later.tables.generation.value
  epochs : forall endpoint slot, record.tables.content endpoint = some slot ->
    (forall event, event ∈ recent -> event.drops endpoint = false) ->
      exists newer, later.tables.content endpoint = some newer ∧
        slot.incarnation.epoch.value ≤ newer.incarnation.epoch.value

section Runs

variable {record : TopologyRecord}

theorem kept_empty (generation : TopologyGeneration) : Kept ⟨.empty generation, []⟩ where
  located := TopologyTables.located_empty generation
  content _ := rfl
  unlinked _ impossible := by cases impossible
  pairs := List.nodup_nil

theorem Kept.step (kept : record.Kept) (action : TopologyAction) :
    exists later event, record.step action = some later ∧ later.Kept ∧
      record.Continues [event] later := by
  rcases TopologyTables.follows_step kept.located action with ⟨left, performed, follows⟩
  refine ⟨⟨left.1, (action, left.2) :: record.history⟩, (action, left.2), ?_, ?_, ?_⟩
  · rw [TopologyRecord.step, performed]
    rfl
  · refine ⟨follows.located, ?_, ?_, follows.pairs kept.pairs⟩
    · intro endpoint
      rw [follows.content endpoint, kept.content endpoint]
      rfl
    · intro endpoint free
      exact follows.unlinked endpoint (unlinkedIn record.history endpoint) (kept.unlinked endpoint)
        free
  · refine ⟨rfl, follows.generation, ?_⟩
    intro endpoint slot recorded keeps
    exact follows.epoch recorded (keeps _ List.mem_cons_self)

theorem continues_refl (record : TopologyRecord) : record.Continues [] record where
  history := rfl
  generation := UInt64.le_refl _
  epochs _ slot recorded _ := ⟨slot, recorded, UInt64.le_refl _⟩

theorem Continues.trans {between later : TopologyRecord} {first second : List TopologyEvent}
    (before : record.Continues first between) (after : between.Continues second later) :
    record.Continues (second ++ first) later where
  history := by
    rw [after.history, before.history, List.append_assoc]
  generation := UInt64.le_trans before.generation after.generation
  epochs endpoint slot recorded keeps := by
    rcases before.epochs endpoint slot recorded fun event inside =>
      keeps event (List.mem_append_right _ inside) with ⟨middle, recordedMiddle, rises⟩
    rcases after.epochs endpoint middle recordedMiddle fun event inside =>
      keeps event (List.mem_append_left _ inside) with ⟨newer, recordedNewer, risesAgain⟩
    exact ⟨newer, recordedNewer, UInt64.le_trans rises risesAgain⟩

/-- Every sequence of operations can be performed, and keeps the tables what they say. -/
theorem Kept.run (kept : record.Kept) (actions : List TopologyAction) :
    exists later recent, record.run actions = some later ∧ later.Kept ∧
      record.Continues recent later := by
  induction actions generalizing record with
  | nil => exact ⟨record, [], rfl, kept, continues_refl record⟩
  | cons action rest ih =>
      rcases kept.step action with ⟨next, event, performed, keptNext, continues⟩
      rcases ih keptNext with ⟨later, recent, ran, keptLater, continuesLater⟩
      refine ⟨later, recent ++ [event], ?_, keptLater, continues.trans continuesLater⟩
      rw [TopologyRecord.run, List.foldlM_cons, performed]
      exact ran

end Runs

/-- What is recorded of an endpoint, in the form in which `find` returns it. -/
def answer (recorded : Option EndpointRegistration) : Result EndpointRegistration :=
  recorded.elim (refuse .ENDPOINT_NOT_FOUND "endpoint is not registered") .ok

theorem answer_eq_ok {recorded : Option EndpointRegistration} {slot : EndpointRegistration} :
    answer recorded = .ok slot ↔ recorded = some slot := by
  cases recorded with
  | none => simp [answer, refuse]
  | some found => simp [answer]

/-- The view is a finite map, whatever was done to it: every endpoint stands in the index at the
position of its only entry and is found with its latest registration; a removed endpoint has
no links until one is added; no pair has two links; `put` keeps to its bound; the generation
does not go back, and neither does the epoch of an endpoint that is not dropped. -/
theorem topology_refines_map (generation : TopologyGeneration) (actions : List TopologyAction) :
    exists record, (TopologyRecord.mk (.empty generation) []).run actions = some record ∧
      record.tables.Located ∧
      (forall endpoint,
        record.tables.find endpoint = some (answer (registeredIn record.history endpoint))) ∧
      (forall endpoint, unlinkedIn record.history endpoint = true ->
        forall link, link ∈ record.tables.links -> link.names endpoint = false) ∧
      (record.tables.links.map LinkDescriptor.pair).Nodup ∧
      (forall registration maxEndpoints left,
        record.tables.put registration maxEndpoints = some left ->
          left.1.endpoints.length ≤ max record.tables.endpoints.length maxEndpoints.toNat) ∧
      forall more, exists later recent, record.run more = some later ∧
        later.history = recent ++ record.history ∧
        record.tables.generation.value ≤ later.tables.generation.value ∧
        forall endpoint slot, record.tables.find endpoint = some (.ok slot) ->
          (forall event, event ∈ recent -> event.drops endpoint = false) ->
            exists newer, later.tables.find endpoint = some (.ok newer) ∧
              slot.incarnation.epoch.value ≤ newer.incarnation.epoch.value := by
  rcases (kept_empty generation).run actions with ⟨record, -, ran, kept, -⟩
  refine ⟨record, ran, kept.located, ?_, kept.unlinked, kept.pairs, ?_, ?_⟩
  · intro endpoint
    rw [kept.located.find, kept.content]
    rfl
  · intro registration maxEndpoints left
    exact TopologyTables.length_put_le
  · intro more
    rcases kept.run more with ⟨later, recent, ranMore, keptLater, continues⟩
    refine ⟨later, recent, ranMore, continues.history, continues.generation, ?_⟩
    intro endpoint slot found keeps
    rw [kept.located.find] at found
    have recorded := answer_eq_ok.mp (Option.some.inj found)
    rcases continues.epochs endpoint slot recorded keeps with ⟨newer, recordedNewer, rises⟩
    refine ⟨newer, ?_, rises⟩
    rw [keptLater.located.find, recordedNewer]
    rfl

end TopologyRecord

/-! ## The view that the coordinator is modelled with -/

/-- The tables hold a view: the same generation and the same registrations. -/
structure TopologyTables.Represents (tables : TopologyTables) (view : TopologyView) : Prop where
  located : tables.Located
  generation : view.generation = tables.generation
  endpoints : view.endpoints = tables.endpoints

namespace TopologyTables.Represents

variable {tables : TopologyTables} {view : TopologyView} {endpoint : EndpointId}

/-- The index finds what a search of the registrations finds. -/
theorem lookup (represents : tables.Represents view) (endpoint : EndpointId) :
    view.lookup endpoint = tables.content endpoint := by
  cases found : tables.index endpoint with
  | none =>
      rw [content_of_absent found, TopologyView.lookup, List.find?_eq_none, represents.endpoints]
      intro registration inside same
      rcases List.getElem?_of_mem inside with ⟨position, placed⟩
      have located := (represents.located endpoint position).mpr
        ⟨registration, placed, beq_iff_eq.mp same⟩
      rw [found] at located
      cases located
  | some position =>
      rcases represents.located.exists_slot found with ⟨slot, placed, rfl, content⟩
      rw [content]
      apply TopologyView.lookup_of_mem
      rw [represents.endpoints]
      exact List.mem_of_getElem? placed

theorem find (represents : tables.Represents view) (endpoint : EndpointId) :
    tables.find endpoint = some (view.find endpoint) := by
  rw [represents.located.find, TopologyView.find, represents.lookup]
  cases tables.content endpoint with
  | none => rfl
  | some slot => rfl

/-- A change in the place of an endpoint is a change of its slot. -/
theorem modify (represents : tables.Represents view) {position : Nat}
    {slot : EndpointRegistration} (placed : tables.endpoints[position]? = some slot)
    {change : EndpointRegistration -> EndpointRegistration}
    (keeps : forall other, other.endpoint = slot.endpoint ->
      (change other).endpoint = slot.endpoint) :
    Represents { tables with endpoints := tables.endpoints.set position (change slot) }
      (view.modify slot.endpoint change keeps) where
  located := represents.located.set placed (keeps slot rfl)
  generation := represents.generation
  endpoints := by
    have inside := (List.getElem?_eq_some_iff.mp placed).1
    change view.endpoints.map _ = tables.endpoints.set position (change slot)
    rw [represents.endpoints]
    apply List.ext_getElem?
    intro place
    rw [List.getElem?_map]
    by_cases here : position = place
    · subst here
      rw [List.getElem?_set_self inside, placed, Option.map_some, if_pos rfl]
    · rw [List.getElem?_set_ne here]
      cases other : tables.endpoints[place]? with
      | none => rfl
      | some found =>
          have different : found.endpoint ≠ slot.endpoint := by
            intro same
            have atPlace := (represents.located slot.endpoint place).mpr ⟨found, other, same⟩
            have atPosition := (represents.located slot.endpoint position).mpr ⟨slot, placed, rfl⟩
            exact here (Option.some.inj (atPosition.symm.trans atPlace))
          rw [Option.map_some, if_neg different]

/-- `advance` on the tables is `advance` on the view. -/
theorem advance (represents : tables.Represents view) :
    succeeded tables.advance.2 = succeeded view.advance ∧
      tables.advance.1.Represents (valueOr view view.advance) := by
  unfold TopologyView.advance TopologyTables.advance
  rw [represents.generation]
  cases tables.generation.next with
  | error status => exact ⟨rfl, represents⟩
  | ok next => exact ⟨rfl, represents.located, rfl, represents.endpoints⟩

/-- `put` on the tables is `put` on the view. -/
theorem put (represents : tables.Represents view) (registration : EndpointRegistration)
    (maxEndpoints : UInt32) :
    exists left, tables.put registration maxEndpoints = some left ∧
      succeeded left.2 = succeeded (view.put registration maxEndpoints) ∧
      left.1.Represents (valueOr view (view.put registration maxEndpoints)) := by
  unfold TopologyTables.put TopologyView.put
  cases registration.validate with
  | error status => exact ⟨_, rfl, rfl, represents⟩
  | ok checked =>
      cases checked
      rw [ok_bind]
      cases found : tables.index registration.endpoint with
      | none =>
          refine ⟨_, rfl, ?_⟩
          split
          · rename_i slot recorded
            rw [represents.lookup, content_of_absent found] at recorded
            cases recorded
          · rw [represents.endpoints, addSlot]
            split
            · exact ⟨rfl, represents⟩
            · refine ⟨rfl, represents.located.append found, represents.generation, ?_⟩
              change view.endpoints ++ [registration] = tables.endpoints ++ [registration]
              rw [represents.endpoints]
      | some position =>
          rcases represents.located.exists_slot found with ⟨slot, placed, named, content⟩
          dsimp only
          rw [placed]
          refine ⟨_, rfl, ?_⟩
          split
          · rename_i other recorded
            rw [represents.lookup, content] at recorded
            cases recorded
            rw [replaceSlot]
            split
            · exact ⟨rfl, represents⟩
            · have changed := @modify tables view represents position slot placed
                (fun _ => registration) (fun _ _ => named.symm)
              refine ⟨rfl, changed.located, changed.generation, ?_⟩
              rw [← changed.endpoints]
              change view.endpoints.map _ = view.endpoints.map _
              rw [named]
          · rename_i absent
            rw [represents.lookup, content] at absent
            cases absent

/-- `mark_dead` on the tables is `mark_dead` on the view. -/
theorem markDead (represents : tables.Represents view) (endpoint : EndpointId) :
    exists left, tables.markDead endpoint = some left ∧
      succeeded left.2 = succeeded (view.markDead endpoint).2 ∧
      left.1.Represents (view.markDead endpoint).1 := by
  unfold TopologyTables.markDead TopologyView.markDead
  rw [represents.lookup]
  cases found : tables.index endpoint with
  | none =>
      rw [content_of_absent found]
      exact ⟨_, rfl, rfl, represents⟩
  | some position =>
      rcases represents.located.exists_slot found with ⟨slot, placed, rfl, content⟩
      have silent : (tables.silenceSlot position slot).Represents (view.silence slot.endpoint) :=
        @modify tables view represents position slot placed
          (fun slot => { slot with live := false }) fun _ same => same
      dsimp only
      rw [content, placed]
      refine ⟨_, rfl, ?_⟩
      rcases silent.advance with ⟨answered, later⟩
      have mapped : succeeded ((tables.silenceSlot position slot).advance.2.map fun _ => ()) =
          succeeded (tables.silenceSlot position slot).advance.2 := by
        cases (tables.silenceSlot position slot).advance.2 <;> rfl
      generalize (view.silence slot.endpoint).advance = advanced at answered later ⊢
      cases advanced <;> exact ⟨mapped.trans answered, later⟩

/-- `reset_dynamic_state` on the tables is `reset_dynamic_state` on the view. -/
theorem resetDynamicState (represents : tables.Represents view) :
    tables.resetDynamicState.Represents view.resetDynamicState := by
  have cleared : (empty tables.generation).Represents ⟨view.generation, [], List.nodup_nil⟩ :=
    ⟨located_empty _, represents.generation, rfl⟩
  have later := cleared.advance.2
  unfold TopologyTables.resetDynamicState TopologyView.resetDynamicState
  dsimp only
  generalize TopologyView.advance _ = advanced at later ⊢
  cases advanced <;> exact later

end TopologyTables.Represents

namespace TopologyView

/-- The operations of the coordinator, which removes no endpoint and describes no link. -/
def step (view : TopologyView) : TopologyAction -> Option (TopologyView × Bool)
  | .advance => some (valueOr view view.advance, succeeded view.advance)
  | .put registration maxEndpoints =>
      let left := view.put registration maxEndpoints
      some (valueOr view left, succeeded left)
  | .markDead endpoint => some ((view.markDead endpoint).1, succeeded (view.markDead endpoint).2)
  | .resetDynamicState => some (view.resetDynamicState, true)
  | _ => none

/-- A sequence of operations, with their answers latest first. -/
def run : TopologyView × List TopologyEvent -> List TopologyAction ->
    Option (TopologyView × List TopologyEvent) :=
  List.foldlM fun state action =>
    (state.1.step action).map fun left => (left.1, (action, left.2) :: state.2)

variable {tables : TopologyTables} {view next : TopologyView} {action : TopologyAction}
  {accepted : Bool}

end TopologyView

end StateMovementFabric
