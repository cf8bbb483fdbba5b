import HarborGate.Fleet.Updates

/-!
What the device was last told. Each generation's newest queued update names the state the route is
in, as long as no invalidation clears a pending proof and keeps the route's own device.
-/

namespace HarborGate

namespace NaviFleet

/-- Every update a run queued on the route, in order. -/
def queuedUpdates (host : FleetHost) : List FleetStep → Directory → String → List RouteUpdate
  | [], _, _ => []
  | step :: rest, directory, name =>
      step.queued host directory name ++ queuedUpdates host rest (step.apply host directory) name

/-- The update of the generation with the highest revision has this status. -/
def LatestStatus (queued : List RouteUpdate) (generation : String) (status : RouteStatus) : Prop :=
  ∃ update ∈ queued, update.selection.generation = generation ∧ update.status = status ∧
    ∀ other ∈ queued, other.selection.generation = generation → other.revision ≤ update.revision

/-- The generation whose place another selection took. -/
def replacedGeneration (before after : Option Selection) : Option String :=
  match before, after with
  | some old, some new => if old = new then none else some old.generation
  | _, _ => none

def replacedGenerations (host : FleetHost) : List FleetStep → Directory → String → List String
  | [], _, _ => []
  | step :: rest, directory, name =>
      (replacedGeneration (activeOf directory name)
        (activeOf (step.apply host directory) name)).toList ++
      replacedGenerations host rest (step.apply host directory) name

/-- `invalidate_identity` would clear the route's pending proof and keep its active selection. -/
def Strands (selection : Selection) (route : Route) : Prop :=
  ∃ active pending, route.active = some active ∧ Selection.matches selection active = false ∧
    route.pending = some pending ∧ pending.hubId = selection.hubId ∧
    pending.hubIdentity.all (· == selection.hubIdentity) = true

def expectedStatus (route : Route) : RouteStatus :=
  if route.pending.isSome then .paused else .active

section

variable {queued added : List RouteUpdate} {generation : String} {status : RouteStatus}

theorem LatestStatus.append_other (latest : LatestStatus queued generation status)
    (other : ∀ update ∈ added, update.selection.generation ≠ generation) :
    LatestStatus (queued ++ added) generation status := by
  obtain ⟨update, member, key, state, newest⟩ := latest
  refine ⟨update, List.mem_append_left _ member, key, state, ?_⟩
  intro later present same
  rcases List.mem_append.mp present with known | new
  · exact newest later known same
  · exact absurd same (other later new)

theorem LatestStatus.append_new {update : RouteUpdate} (member : update ∈ added)
    (key : update.selection.generation = generation) (state : update.status = status)
    (above : ∀ other ∈ queued, other.selection.generation = generation →
      other.revision < update.revision)
    (newest : ∀ other ∈ added, other.selection.generation = generation →
      other.revision ≤ update.revision) :
    LatestStatus (queued ++ added) generation status := by
  refine ⟨update, List.mem_append_right _ member, key, state, ?_⟩
  intro later present same
  rcases List.mem_append.mp present with known | new
  · exact Nat.le_of_lt (above later known same)
  · exact newest later new same

end

/-! ## The updates of one move -/

theorem newUpdates_of_same_revision {host : FleetHost} {name : String} {before after : Route}
    (numbered : Numbered host name after) (same : after.revision = before.revision)
    (update : RouteUpdate) : update ∉ newUpdates before after := by
  intro member
  obtain ⟨⟨generation, stored⟩, above⟩ := mem_newUpdates.mp member
  have bounded := numbered.bounded generation update stored
  omega

/-- The update that `queue_route_update` stores for the active selection. -/
def Route.update (now : Int) (status : RouteStatus) (route : Route) (selection : Selection) :
    RouteUpdate where
  selection := selection
  recipient := route.recipient
  routeKey := route.routeKey
  revision := route.revision + 1
  status := status
  issuedAt := now
  nextPoll := 0

theorem newUpdates_queue {host : FleetHost} {name : String} {now : Int} {status : RouteStatus}
    {before route after : Route} (ok : queueRouteUpdate now status route = .ok after)
    (numbered : Numbered host name before) (updates : route.updates = before.updates)
    (revision : route.revision = before.revision)
    (addressed : route.recipient ≠ "" ∧ route.routeKey ≠ "") :
    (∀ update, update ∈ newUpdates before after ↔
      ∃ selection, route.active = some selection ∧ update = Route.update now status route selection) ∧
    (∀ selection, route.active = some selection → after.revision = before.revision + 1) ∧
    before.revision ≤ after.revision := by
  rcases queueRouteUpdate_cases ok with ⟨rfl, unaddressed⟩ | ⟨selection, active, -, -, rfl⟩
  · have inactive : after.active = none := by
      rcases unaddressed with none_active | blank | blank
      · exact none_active
      · exact absurd blank addressed.1
      · exact absurd blank addressed.2
    refine ⟨fun update => ?_, by simp [inactive], revision.ge⟩
    have nothing := newUpdates_of_same_revision (numbered.congr revision updates) revision update
    simp [inactive, nothing]
  · refine ⟨fun update => ?_, fun _ _ => by simp [revision], by simp [revision]⟩
    rw [mem_newUpdates]
    constructor
    · rintro ⟨⟨generation, stored⟩, above⟩
      simp only [Std.TreeMap.getElem?_insert, Std.LawfulEqCmp.compare_eq_iff_eq] at stored
      split at stored
      · exact ⟨selection, active, (Option.some.inj stored).symm⟩
      · have bounded := numbered.bounded generation update (updates ▸ stored)
        omega
    · rintro ⟨other, same, rfl⟩
      obtain rfl := Option.some.inj (active.symm.trans same)
      refine ⟨⟨selection.generation, Std.TreeMap.getElem?_insert_self⟩, ?_⟩
      show before.revision < route.revision + 1
      omega

/-- What a second queueing of one transaction adds, and what it leaves of the first. -/
theorem newUpdates_queue_again {host : FleetHost} {name : String} {now : Int}
    {status : RouteStatus} {before middle route after : Route} {selection : Selection}
    (ok : queueRouteUpdate now status route = .ok after)
    (numbered : Numbered host name middle) (onward : before.revision ≤ middle.revision)
    (updates : route.updates = middle.updates) (revision : route.revision = middle.revision)
    (addressed : route.recipient ≠ "" ∧ route.routeKey ≠ "")
    (active : route.active = some selection) (update : RouteUpdate) :
    update ∈ newUpdates before after ↔
      update = Route.update now status route selection ∨
      update ∈ newUpdates before middle ∧ update.selection.generation ≠ selection.generation := by
  rcases queueRouteUpdate_cases ok with ⟨rfl, unaddressed⟩ | ⟨chosen, same, -, -, rfl⟩
  · rcases unaddressed with none_active | blank | blank
    · simp [active] at none_active
    · exact absurd blank addressed.1
    · exact absurd blank addressed.2
  obtain rfl := Option.some.inj (active.symm.trans same)
  rw [mem_newUpdates, mem_newUpdates]
  constructor
  · rintro ⟨⟨generation, stored⟩, above⟩
    simp only [Std.TreeMap.getElem?_insert, Std.LawfulEqCmp.compare_eq_iff_eq] at stored
    split at stored
    · exact Or.inl (Option.some.inj stored).symm
    · rename_i apart
      rw [updates] at stored
      have key := (numbered.keyed generation update stored).1
      exact Or.inr ⟨⟨⟨generation, stored⟩, above⟩, fun equal => apart (equal.symm.trans key)⟩
  · rintro (rfl | ⟨⟨⟨generation, stored⟩, above⟩, apart⟩)
    · refine ⟨⟨selection.generation, Std.TreeMap.getElem?_insert_self⟩, ?_⟩
      show before.revision < route.revision + 1
      omega
    · have key := (numbered.keyed generation update stored).1
      refine ⟨⟨generation, ?_⟩, above⟩
      rw [Std.TreeMap.getElem?_insert, if_neg]
      · rw [updates]
        exact stored
      · rw [Std.LawfulEqCmp.compare_eq_iff_eq]
        exact fun equal => apart (key.trans equal.symm)

/-! ## Agreement along a run -/

structure Agrees (used : List String) (queued : List RouteUpdate) (replaced : List String)
    (route : Route) : Prop where
  known : ∀ update ∈ queued, update.revision ≤ route.revision ∧
    update.selection.generation ∈ used
  active : ∀ selection, route.active = some selection → selection.generation ∈ used ∧
    LatestStatus queued selection.generation (expectedStatus route)
  replaced : ∀ generation ∈ replaced, generation ∈ used ∧
    LatestStatus queued generation .retired ∧
    ∀ selection, route.active = some selection → selection.generation ≠ generation

section

variable {host : FleetHost} {step : FleetStep} {name : String} {used replaced : List String}
  {queued : List RouteUpdate} {before after : Route}

/-- A move that queues nothing and keeps or loses the active selection. -/
theorem Agrees.of_silent (agrees : Agrees used queued replaced before)
    (numbered : Numbered host name after) (revision : after.revision = before.revision)
    (kept : ∀ selection, after.active = some selection →
      before.active = some selection ∧ expectedStatus after = expectedStatus before)
    (more : List String) :
    Agrees (used ++ more) (queued ++ newUpdates before after)
      (replaced ++ (replacedGeneration before.active after.active).toList) after := by
  have nothing : newUpdates before after = [] :=
    List.eq_nil_iff_forall_not_mem.mpr (newUpdates_of_same_revision numbered revision)
  have none_replaced : replacedGeneration before.active after.active = none := by
    cases held : after.active with
    | none => cases before.active <;> rfl
    | some selection => simp [replacedGeneration, (kept selection held).1]
  rw [nothing, none_replaced, List.append_nil, Option.toList_none, List.append_nil]
  constructor
  · intro update member
    obtain ⟨bounded, drawn⟩ := agrees.known update member
    exact ⟨revision ▸ bounded, List.mem_append_left _ drawn⟩
  · intro selection held
    obtain ⟨earlier, same⟩ := kept selection held
    obtain ⟨drawn, latest⟩ := agrees.active selection earlier
    exact ⟨List.mem_append_left _ drawn, same ▸ latest⟩
  · intro generation member
    obtain ⟨drawn, latest, apart⟩ := agrees.replaced generation member
    exact ⟨List.mem_append_left _ drawn, latest, fun selection held =>
      apart selection (kept selection held).1⟩

/-- A move that keeps the active selection and queues the status its proof calls for. -/
theorem Agrees.of_queue {now : Int} {status : RouteStatus} {route : Route}
    (agrees : Agrees used queued replaced before) (numbered : Numbered host name before)
    (ok : queueRouteUpdate now status route = .ok after)
    (updates : route.updates = before.updates) (revision : route.revision = before.revision)
    (active : route.active = before.active)
    (addressed : route.recipient ≠ "" ∧ route.routeKey ≠ "")
    (expected : expectedStatus route = status) (more : List String) :
    Agrees (used ++ more) (queued ++ newUpdates before after)
      (replaced ++ (replacedGeneration before.active after.active).toList) after := by
  obtain ⟨added, numberedNext, onward⟩ :=
    newUpdates_queue ok numbered updates revision addressed
  obtain ⟨sameActive, samePending⟩ := queueRouteUpdate_ok ok
  rw [active] at sameActive added numberedNext
  have none_replaced : replacedGeneration before.active after.active = none := by
    rw [sameActive]
    cases before.active <;> simp [replacedGeneration]
  have expectedAfter : expectedStatus after = status := by
    rw [← expected]
    simp only [expectedStatus, samePending]
  rw [none_replaced, Option.toList_none, List.append_nil]
  constructor
  · intro update member
    rcases List.mem_append.mp member with old | new
    · obtain ⟨bounded, drawn⟩ := agrees.known update old
      exact ⟨bounded.trans onward, List.mem_append_left _ drawn⟩
    · obtain ⟨selection, held, rfl⟩ := (added update).mp new
      refine ⟨?_, List.mem_append_left _ (agrees.active selection held).1⟩
      show route.revision + 1 ≤ after.revision
      rw [numberedNext selection held, revision]
  · intro selection held
    rw [sameActive] at held
    refine ⟨List.mem_append_left _ (agrees.active selection held).1, ?_⟩
    rw [expectedAfter]
    refine LatestStatus.append_new ((added _).mpr ⟨selection, held, rfl⟩) rfl rfl ?_ ?_
    · intro other member _
      have bounded := (agrees.known other member).1
      show other.revision < route.revision + 1
      omega
    · intro other member _
      obtain ⟨chosen, same, rfl⟩ := (added other).mp member
      exact Nat.le_refl _
  · intro generation member
    obtain ⟨drawn, latest, apart⟩ := agrees.replaced generation member
    refine ⟨List.mem_append_left _ drawn, latest.append_other ?_, ?_⟩
    · intro update new
      obtain ⟨selection, held, rfl⟩ := (added update).mp new
      exact apart selection held
    · intro selection held
      exact apart selection (sameActive ▸ held)

/-- A bound proof: the selection it replaces is told to retire, the new one starts active. -/
theorem Agrees.of_bind {now : Int} {selection : Selection} {proof : Option Pending}
    {retired : Route}
    (agrees : Agrees used queued replaced before) (numbered : Numbered host name before)
    (addressed : before.recipient ≠ "" ∧ before.routeKey ≠ "")
    (named : host.key before.recipient before.routeKey = name)
    (fresh : selection.generation ∉ used)
    (first : queueRouteUpdate now .retired { before with pending := proof } = .ok retired)
    (second : queueRouteUpdate now .active
      { retired with active := some selection, pending := none } = .ok after) :
    Agrees (used ++ [selection.generation]) (queued ++ newUpdates before after)
      (replaced ++ (replacedGeneration before.active after.active).toList) after := by
  obtain ⟨retiring, numberedNext, onward⟩ := newUpdates_queue first numbered rfl rfl addressed
  obtain ⟨-, -, recipient, routeKey⟩ := queueRouteUpdate_frame first
  have middle : Numbered host name retired :=
    Numbered.queue first (numbered.congr rfl rfl) fun _ => named
  have addressed' : retired.recipient ≠ "" ∧ retired.routeKey ≠ "" := by
    rw [recipient, routeKey]
    exact addressed
  have added := newUpdates_queue_again second middle onward rfl rfl addressed' rfl
  obtain ⟨-, last, -⟩ := newUpdates_queue second middle rfl rfl addressed'
  have final := last selection rfl
  obtain ⟨nowActive, nowPending⟩ := queueRouteUpdate_ok second
  have isNew : ∀ other, before.active = some other → other.generation ≠ selection.generation := by
    intro other held same
    exact fresh (same ▸ (agrees.active other held).1)
  constructor
  · intro update member
    rcases List.mem_append.mp member with old | new
    · obtain ⟨bounded, drawn⟩ := agrees.known update old
      exact ⟨by omega, List.mem_append_left _ drawn⟩
    · rcases (added update).mp new with rfl | ⟨first, -⟩
      · exact ⟨final.ge, by simp [Route.update]⟩
      · obtain ⟨old, held, rfl⟩ := (retiring update).mp first
        refine ⟨?_, List.mem_append_left _ (agrees.active old held).1⟩
        have count := numberedNext old held
        show before.revision + 1 ≤ after.revision
        omega
  · intro chosen held
    rw [nowActive] at held
    obtain rfl := Option.some.inj held
    refine ⟨by simp, ?_⟩
    have idle : expectedStatus after = .active := by simp [expectedStatus, nowPending]
    rw [idle]
    refine LatestStatus.append_new ((added _).mpr (Or.inl rfl)) rfl rfl ?_ ?_
    · intro other member same
      exact absurd (same ▸ (agrees.known other member).2) fresh
    · intro other member same
      rcases (added other).mp member with rfl | ⟨-, apart⟩
      · exact Nat.le_refl _
      · exact absurd same apart
  · intro generation member
    rcases List.mem_append.mp member with old | new
    · obtain ⟨drawn, latest, apart⟩ := agrees.replaced generation old
      refine ⟨List.mem_append_left _ drawn, latest.append_other ?_, ?_⟩
      · intro update present
        rcases (added update).mp present with rfl | ⟨first, -⟩
        · exact fun same => fresh (same ▸ drawn)
        · obtain ⟨held, active, rfl⟩ := (retiring update).mp first
          exact apart held active
      · intro chosen held
        rw [nowActive] at held
        obtain rfl := Option.some.inj held
        exact fun same => fresh (same ▸ drawn)
    · -- The generation this proof replaces: its retirement is the newest update it has.
      rw [nowActive] at new
      cases held : before.active with
      | none => simp [held, replacedGeneration] at new
      | some old =>
          simp only [held, replacedGeneration, Option.mem_toList] at new
          split at new
          · simp at new
          obtain rfl := Option.some.inj new
          refine ⟨List.mem_append_left _ (agrees.active old held).1, ?_, ?_⟩
          · refine LatestStatus.append_new
              ((added _).mpr (Or.inr ⟨(retiring _).mpr ⟨old, held, rfl⟩, isNew old held⟩))
              rfl rfl ?_ ?_
            · intro other member _
              exact Nat.lt_succ_of_le (agrees.known other member).1
            · intro other member same
              rcases (added other).mp member with rfl | ⟨first, -⟩
              · exact absurd same.symm (isNew old held)
              · obtain ⟨_, _, rfl⟩ := (retiring other).mp first
                exact Nat.le_refl _
          · intro chosen active
            rw [nowActive] at active
            obtain rfl := Option.some.inj active
            exact (isNew old held).symm

theorem Agrees.move (agrees : Agrees used queued replaced before)
    (addressed : Addressed host name before) (numbered : Numbered host name before)
    (fresh : ∀ generation, step.generation? = some generation → generation ∉ used)
    (unstranded : ∀ selection, step.op = .invalidateIdentity selection → ¬Strands selection before)
    (move : RouteMove host step name before after) :
    Agrees (used ++ step.generation?.toList) (queued ++ newUpdates before after)
      (replaced ++ (replacedGeneration before.active after.active).toList) after := by
  have next := numbered.move addressed move
  cases move with
  | keep | notified | refreshed | updatePolled | acknowledged =>
      exact agrees.of_silent next rfl (fun _ held => ⟨held, rfl⟩) _
  | installed _ _ read _ _ queued =>
      obtain ⟨-, -, user, key⟩ := readProof_recent read
      exact agrees.of_queue numbered queued rfl rfl rfl ⟨user, key⟩ rfl _
  | lapsed _ present _ queued =>
      have known := addressed.known (Or.inr (by simp [present]))
      exact agrees.of_queue numbered queued rfl rfl rfl known rfl _
  | polled _ present =>
      refine agrees.of_silent next rfl (fun _ held => ⟨held, ?_⟩) _
      simp [expectedStatus, present]
  | @finished generation _ _ _ _ _ _ performed _ present _ finishing =>
      have known := addressed.known (Or.inr (by simp [present]))
      rcases finishRoute_cases finishing with
        ⟨-, queued⟩ | ⟨session, pinned, -, -, pin, ⟨-, rfl⟩ | ⟨-, bound⟩⟩
      · exact agrees.of_queue numbered queued rfl rfl rfl known rfl _
      · refine agrees.of_silent next rfl (fun _ held => ⟨held, ?_⟩) _
        simp [expectedStatus, present]
      · obtain ⟨_, _, retired, -, -, -, -, -, first, second⟩ := bindProof_ok bound
        have drew : step.generation? = some generation := by simp [FleetStep.generation?, performed]
        have bind := agrees.of_bind numbered known (addressed.named known.1) (fresh _ drew) first
          second
        simpa [drew] using bind
  | @invalidated selection performed =>
      refine agrees.of_silent next rfl (fun active held => ?_) _
      simp only [invalidateRoute, Option.filter_eq_some_iff, Bool.not_eq_true'] at held
      refine ⟨held.1, ?_⟩
      -- Were the pending proof cleared here, the kept selection would be stranded.
      have kept := unstranded selection performed
      cases present : before.pending with
      | none => simp [expectedStatus, invalidateRoute, present]
      | some pending =>
          by_cases cleared : (pending.hubId == selection.hubId &&
              pending.hubIdentity.all (· == selection.hubIdentity)) = true
          · simp only [Bool.and_eq_true, beq_iff_eq] at cleared
            exact absurd ⟨active, pending, held.1, held.2, present, cleared.1, cleared.2⟩ kept
          · simp only [expectedStatus, invalidateRoute, present, Option.filter_some]
            simp [cleared]

end

/-- No stored `invalidate_identity` of the run strands a route. -/
def Unstranded (host : FleetHost) (steps : List FleetStep) : Prop :=
  ∀ before step after selection name, steps = before ++ step :: after → step.stored = true →
    step.op = .invalidateIdentity selection →
    ¬Strands selection (routeOf (runFleet host before ∅) name)

theorem Agrees.apply {host : FleetHost} {step : FleetStep} {directory : Directory} {name : String}
    {used replaced : List String} {queued : List RouteUpdate}
    (agrees : Agrees used queued replaced (routeOf directory name))
    (addressed : Addressed host name (routeOf directory name))
    (numbered : Numbered host name (routeOf directory name))
    (fresh : ∀ generation, step.generation? = some generation → generation ∉ used)
    (unstranded : ∀ selection, step.stored = true → step.op = .invalidateIdentity selection →
      ¬Strands selection (routeOf directory name)) :
    Agrees (used ++ step.generation?.toList) (queued ++ step.queued host directory name)
      (replaced ++ (replacedGeneration (activeOf directory name)
        (activeOf (step.apply host directory) name)).toList)
      (routeOf (step.apply host directory) name) := by
  rw [← routeOf_active, ← routeOf_active]
  by_cases stored : step.stored = true
  · exact agrees.move addressed numbered fresh (fun selection => unstranded selection stored)
      (step.apply_moves host directory name)
  · have unchanged : step.apply host directory = directory := by
      simp [FleetStep.apply, FleetStep.outcome, stored]
    simp only [FleetStep.queued, unchanged]
    exact agrees.of_silent numbered rfl (fun _ held => ⟨held, rfl⟩) _

theorem queuedUpdates_snoc (host : FleetHost) (step : FleetStep) (name : String)
    (steps : List FleetStep) : ∀ directory,
      queuedUpdates host (steps ++ [step]) directory name =
        queuedUpdates host steps directory name ++
          step.queued host (runFleet host steps directory) name := by
  induction steps with
  | nil => simp [queuedUpdates, runFleet]
  | cons first rest ih =>
      intro directory
      simp only [List.cons_append, queuedUpdates, ih, List.append_assoc, runFleet_cons]

theorem replacedGenerations_append (host : FleetHost) (name : String) (later : List FleetStep)
    (steps : List FleetStep) : ∀ directory,
      replacedGenerations host (steps ++ later) directory name =
        replacedGenerations host steps directory name ++
          replacedGenerations host later (runFleet host steps directory) name := by
  induction steps with
  | nil => simp [replacedGenerations, runFleet]
  | cons first rest ih =>
      intro directory
      simp only [List.cons_append, replacedGenerations, ih, List.append_assoc, runFleet_cons]

theorem Unstranded.of_append {host : FleetHost} {steps later : List FleetStep}
    (unstranded : Unstranded host (steps ++ later)) : Unstranded host steps := by
  rintro before step after selection name rfl stored performed
  exact unstranded before step (after ++ later) selection name (by simp) stored performed

theorem runFleet_agrees {host : FleetHost} (name : String) (steps : List FleetStep) :
    (drawnGenerations steps).Nodup → Unstranded host steps →
    Agrees (drawnGenerations steps) (queuedUpdates host steps ∅ name)
      (replacedGenerations host steps ∅ name) (routeOf (runFleet host steps ∅) name) := by
  induction steps using List.reverseRecOn with
  | nil =>
      intro _ _
      constructor <;> simp [queuedUpdates, replacedGenerations, runFleet, Route.default]
  | append_singleton steps step ih =>
      intro fresh unstranded
      have draws : drawnGenerations (steps ++ [step]) =
          drawnGenerations steps ++ step.generation?.toList := by
        rw [drawnGenerations_append, drawnGenerations_cons]
        simp [drawnGenerations]
      rw [draws] at fresh ⊢
      obtain ⟨earlier, -, apart⟩ := List.nodup_append.mp fresh
      have agrees := ih earlier unstranded.of_append
      have isNew : ∀ generation, step.generation? = some generation →
          generation ∉ drawnGenerations steps := by
        intro generation drew member
        exact apart generation member generation (by simp [drew]) rfl
      have next := agrees.apply (runFleet_isAddressed host steps name)
        (runFleet_numbered host steps name) isNew
        fun selection => unstranded steps step [] selection name rfl
      rw [queuedUpdates_snoc, replacedGenerations_append, runFleet_snoc]
      simpa [replacedGenerations] using next

theorem latest_update_agrees (host : FleetHost) (steps : List FleetStep)
    (fresh : (drawnGenerations steps).Nodup) (unstranded : Unstranded host steps) :
    (∀ name selection, activeOf (runFleet host steps ∅) name = some selection →
      LatestStatus (queuedUpdates host steps ∅ name) selection.generation
        (if (routeOf (runFleet host steps ∅) name).pending.isSome then .paused else .active)) ∧
    ∀ before step after name generation, steps = before ++ step :: after →
      replacedGeneration (activeOf (runFleet host before ∅) name)
        (activeOf (runFleet host (before ++ [step]) ∅) name) = some generation →
      LatestStatus (queuedUpdates host steps ∅ name) generation .retired := by
  constructor
  · intro name selection active
    rw [← routeOf_active] at active
    exact ((runFleet_agrees name steps fresh unstranded).active selection active).2
  · rintro before step after name generation rfl replaced
    refine ((runFleet_agrees name _ fresh unstranded).replaced generation ?_).2.1
    rw [replacedGenerations_append]
    rw [runFleet_snoc] at replaced
    simp [replacedGenerations, replaced]

theorem bound_phone_is_told_active :
    LatestStatus (queuedUpdates phoneHost phoneBinding ∅ phoneRoute) boundSelection.generation
      (if (routeOf (runFleet phoneHost phoneBinding ∅) phoneRoute).pending.isSome then .paused
        else .active) :=
  (latest_update_agrees phoneHost phoneBinding (by decide) (by
    intro before step after selection name split stored performed
    have member : step ∈ phoneBinding := by simp [split]
    simp only [phoneBinding, List.mem_cons, List.not_mem_nil, or_false] at member
    rcases member with rfl | rfl
    · cases performed
    · cases performed)).1 phoneRoute boundSelection phone_bound

/-- Two phones: the second is bound to the hub whose link the first one sends later. -/
def twoPhones : FleetHost where
  key := fun recipient route =>
    if recipient = "15551234567" ∧ route = "route-1" then
      "7c38a6ae2e90c4d15c3de4a1ad5ac7440327172ac6ad579d747b52808c3e3cb1"
    else "482cbabba410abf51d6f43e687c1090466d87fab21c44254688700311abf7143"
  proofId := fun hub token =>
    if hub = "hub-one" then "e7580a82d8e3b091426f1391b0bf5bdffd8091bc73a98e26af6e5cd4fbb6d156"
    else if token = "bbbbbbbbbbbbbbbbbbbbbbbbbbbbbbbbbbbbbbbbbbbbbbbbbbbbbbbbbbbbbbbb" then
      "61ae163bc72f00bf29bc99caab5c1dad4f65c47d421b1763648e10f6484cf7f7"
    else "9520ccfb7519f20e97cf4aa704d21bbc02d1d45a6cd52c3b590caea8b7950652"
  timestamp := resendHost.timestamp

def secondPhoneProof : InboundMessage :=
  { phoneProof with
    chatId := "15557654321"
    userId := "15557654321"
    text := "NAVI hub-two.bbbbbbbbbbbbbbbbbbbbbbbbbbbbbbbbbbbbbbbbbbbbbbbbbbbbbbbbbbbbbbbb"
    messageId := "wamid.3"
    routeKey := "route-2" }

def secondPolled : Pending :=
  { polledProof with
    id := "61ae163bc72f00bf29bc99caab5c1dad4f65c47d421b1763648e10f6484cf7f7"
    hubId := "hub-two"
    token := "bbbbbbbbbbbbbbbbbbbbbbbbbbbbbbbbbbbbbbbbbbbbbbbbbbbbbbbbbbbbbbbb"
    recipient := "15557654321"
    routeKey := "route-2" }

def secondSelection : Selection where
  hubId := "hub-two"
  hubIdentity := "fedcba9876543210fedcba9876543210fedcba9876543210fedcba9876543210"
  bindingId := "00000000000000000000000000000002"
  generation := "22222222222222222222222222222222"
  selectedAt := 1790000010

def secondAnswer : Json :=
  .obj [("binding_id", .str secondSelection.bindingId), ("confirmed_at", .num 1790000005),
    ("expires_at", .num 1790000200), ("session_id", .str secondSelection.bindingId),
    ("status", .str "bound")]

def switchingProof : InboundMessage :=
  { phoneProof with
    text := "NAVI hub-two.cccccccccccccccccccccccccccccccccccccccccccccccccccccccccccccccc"
    messageId := "wamid.4"
    timestamp := "2026-09-21T14:14:20Z" }

/-- Both phones are bound, the first starts to switch to `hub-two`, and a delivery of the second
finds that `hub-two` has a new identity. -/
def strandingRun : List FleetStep :=
  [⟨1790000001, .begin 1790000001 secondPhoneProof, true⟩,
    ⟨1790000010, .finish secondSelection.generation secondPolled 200 secondAnswer
      secondSelection.hubIdentity, true⟩] ++ phoneBinding ++
  [⟨1790000061, .begin 1790000061 switchingProof, true⟩,
    ⟨1790000070, .invalidateIdentity secondSelection, true⟩]

theorem stranded_phone_stays_paused :
    activeOf (runFleet twoPhones strandingRun ∅) phoneRoute = some boundSelection ∧
      (routeOf (runFleet twoPhones strandingRun ∅) phoneRoute).pending = none ∧
      ¬LatestStatus (queuedUpdates twoPhones strandingRun ∅ phoneRoute)
        boundSelection.generation .active := by
  have evaluated : (activeOf (runFleet twoPhones strandingRun ∅) phoneRoute,
      (routeOf (runFleet twoPhones strandingRun ∅) phoneRoute).pending,
      (queuedUpdates twoPhones strandingRun ∅ phoneRoute).map fun update =>
        (update.selection.generation, update.revision, update.status)) =
      (some boundSelection, none,
        [(boundSelection.generation, 1, .active), (boundSelection.generation, 2, .paused)]) := by
    set_option maxRecDepth 1000 in
    with_unfolding_all decide
  simp only [Prod.mk.injEq] at evaluated
  obtain ⟨active, pending, queued⟩ := evaluated
  refine ⟨active, pending, ?_⟩
  rintro ⟨update, member, key, status, newest⟩
  have first := List.mem_map_of_mem (f := fun update : RouteUpdate =>
    (update.selection.generation, update.revision, update.status)) member
  rw [queued] at first
  have last : (boundSelection.generation, 2, RouteStatus.paused) ∈
      (queuedUpdates twoPhones strandingRun ∅ phoneRoute).map fun update =>
        (update.selection.generation, update.revision, update.status) := by
    rw [queued]
    simp
  obtain ⟨other, present, same⟩ := List.mem_map.mp last
  simp only [Prod.mk.injEq] at same
  simp only [status, List.mem_cons, Prod.mk.injEq, reduceCtorEq, and_false, and_true,
    List.not_mem_nil, or_false] at first
  have bounded := newest other present same.1
  omega

end NaviFleet

end HarborGate
