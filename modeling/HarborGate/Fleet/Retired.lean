import HarborGate.Lib.Result
import HarborGate.Fleet.Directory

/-!
Runs of directory transactions. A selection is identified by its generation: it is the active
one of at most one route, and once it is not active any more no transaction authorises it.
-/

namespace HarborGate

namespace NaviFleet

inductive FleetOp
  | begin (checkedAt : Int) (incoming : InboundMessage)
  | claim
  | finish (generation : String) (pending : Pending) (status : Nat) (proof : Json)
      (identity : String)
  | invalidateIdentity (selection : Selection)
  | notificationTarget
  | select (incoming : InboundMessage)
  | check (outbound : OutboundMessage)
  | claimRouteUpdate
  | finishRouteUpdate (update : RouteUpdate) (status : Nat) (receipt : Json)

/-- `stored` is false when reading, sizing or writing the file failed. -/
structure FleetStep where
  now : Int
  op : FleetOp
  stored : Bool

inductive FleetAnswer
  | done
  | proof (pending : Option Pending)
  | target (found : Option (Selection × Json))
  | selected (selection : Selection)
  | update (due : Option RouteUpdate)

def FleetAnswer.authorised : FleetAnswer → Option Selection
  | .target (some (selection, _)) => some selection
  | .selected selection => some selection
  | _ => none

def FleetStep.transact (host : FleetHost) (step : FleetStep) (directory : Directory) :
    FleetResult (FleetAnswer × Directory) :=
  match step.op with
  | .begin checkedAt incoming => do
      return (.done, ← begin host checkedAt step.now incoming directory)
  | .claim => do
      let (pending, after) ← claim step.now directory
      return (.proof pending, after)
  | .finish generation pending status proof identity => do
      return (.done, ← finish host step.now generation pending status proof identity directory)
  | .invalidateIdentity selection => return (.done, invalidateIdentity selection directory)
  | .notificationTarget => do
      let (found, after) ← notificationTarget step.now directory
      return (.target found, after)
  | .select incoming => do return (.selected (← select host step.now incoming directory), directory)
  | .check outbound => do return (.selected (← check host step.now outbound directory), directory)
  | .claimRouteUpdate =>
      let (due, after) := claimRouteUpdate step.now directory
      return (.update due, after)
  | .finishRouteUpdate update status receipt => do
      return (.done, ← finishRouteUpdate host update status receipt directory)

def FleetStep.outcome (host : FleetHost) (step : FleetStep) (directory : Directory) :
    FleetResult (FleetAnswer × Directory) :=
  if step.stored then step.transact host directory else .error unavailable

def FleetStep.apply (host : FleetHost) (step : FleetStep) (directory : Directory) : Directory :=
  match step.outcome host directory with
  | .ok (_, after) => after
  | .error _ => directory

def FleetStep.authorised (host : FleetHost) (step : FleetStep) (directory : Directory) :
    Option Selection :=
  match step.outcome host directory with
  | .ok (answer, _) => answer.authorised
  | .error _ => none

/-- The UUID a `finish` draws for the selection it may install. -/
def FleetStep.generation? (step : FleetStep) : Option String :=
  match step.op with
  | .finish generation _ _ _ _ => some generation
  | _ => none

def runFleet (host : FleetHost) (steps : List FleetStep) (directory : Directory) : Directory :=
  steps.foldl (fun state step => step.apply host state) directory

def activeOf (directory : Directory) (name : String) : Option Selection :=
  directory[name]?.bind (·.active)

theorem ensure_ok {condition : Prop} [Decidable condition] {error : GatewayError} :
    ensure condition error = .ok () ↔ condition := by
  simp only [ensure]
  split <;> simp [*]

theorem require_ok {α : Type} {value : Option α} {error : GatewayError} {result : α} :
    require value error = .ok result ↔ value = some result := by
  cases value <;> simp [require]

theorem minByKey_mem {α : Type} {measure : α → Int} {entries : List α} {least : α}
    (found : minByKey measure entries = some least) : least ∈ entries := by
  induction entries generalizing least with
  | nil => simp [minByKey] at found
  | cons first rest ih =>
      simp only [minByKey] at found
      split at found
      · simp_all
      · rename_i other otherFound
        split at found
        · obtain rfl := Option.some.inj found
          exact List.mem_cons_of_mem _ (ih otherFound)
        · simp_all

theorem activeOf_insert {directory : Directory} {name : String} {route : Route}
    (same : route.active = activeOf directory name) (query : String) :
    activeOf (directory.insert name route) query = activeOf directory query := by
  by_cases hit : name = query
  · subst hit
    simp [activeOf, same]
  · simp [activeOf, Std.TreeMap.getElem?_insert, hit]

theorem queueRouteUpdate_ok {now : Int} {status : RouteStatus} {route after : Route}
    (ok : queueRouteUpdate now status route = .ok after) :
    after.active = route.active ∧ after.pending = route.pending := by
  simp only [queueRouteUpdate] at ok
  split at ok
  · simp_all
  · split at ok
    · simp_all
    · split at ok
      · simp at ok
      · split at ok
        · simp at ok
        · obtain rfl := Except.ok.inj ok
          exact ⟨rfl, rfl⟩

theorem dropLapsedProof_active {now : Int} {route after : Route}
    (ok : dropLapsedProof now route = .ok after) : after.active = route.active := by
  simp only [dropLapsedProof] at ok
  split at ok
  · exact (queueRouteUpdate_ok ok).1
  · obtain rfl := Except.ok.inj ok
    rfl

theorem activeOf_of_stored {directory : Directory} {name : String} {route : Route}
    (stored : directory[name]? = some route) : activeOf directory name = route.active := by
  simp [activeOf, stored]

theorem activeOf_of_listed {directory : Directory} {name : String} {route : Route}
    (listed : (name, route) ∈ directory.toList) : activeOf directory name = route.active :=
  activeOf_of_stored (Std.TreeMap.mem_toList_iff_getElem?_eq_some.mp listed)

/-- The pass over all routes keeps what its body keeps. -/
theorem updateRoutes_active {update : Route → FleetResult Route} {directory after : Directory}
    (keeps : ∀ route changed, update route = .ok changed → changed.active = route.active)
    (ok : updateRoutes update directory = .ok after) (query : String) :
    activeOf after query = activeOf directory query := by
  have fold : ∀ (entries : List (String × Route)) (routes : Directory),
      (∀ entry ∈ entries, activeOf directory entry.1 = entry.2.active) →
      (∀ name, activeOf routes name = activeOf directory name) →
      entries.foldlM (fun routes entry => do
        let route ← update entry.2
        return routes.insert entry.1 route) routes = .ok after →
      activeOf after query = activeOf directory query := by
    intro entries
    induction entries with
    | nil =>
        intro routes _ same ok
        simp only [List.foldlM_nil, Result.pure_eq_ok] at ok
        rw [← ok, same]
    | cons entry entries ih =>
        intro routes listed same ok
        simp only [List.foldlM_cons, Result.bind_eq_ok, Result.pure_eq_ok] at ok
        obtain ⟨_, ⟨changed, updated, rfl⟩, ok⟩ := ok
        refine ih _ (fun other member => listed other (List.mem_cons_of_mem _ member)) ?_ ok
        intro name
        rw [activeOf_insert, same]
        rw [keeps _ _ updated, same, listed entry List.mem_cons_self]
  exact fold directory.toList directory (fun _ listed => activeOf_of_listed listed)
    (fun _ => rfl) ok

/-! ## What one transaction does to the active selections -/

section

variable {host : FleetHost} {now : Int} {directory after : Directory}

theorem begin_active {checkedAt : Int} {incoming : InboundMessage}
    (ok : begin host checkedAt now incoming directory = .ok after) (query : String) :
    activeOf after query = activeOf directory query := by
  simp only [begin, Result.bind_eq_ok] at ok
  obtain ⟨⟨hub, token, occurred⟩, -, ⟨⟩, -, ok⟩ := ok
  have fresh : (refreshRoute now incoming
      (directory[host.key incoming.userId incoming.routeKey]?.getD Route.default)).active =
      activeOf directory (host.key incoming.userId incoming.routeKey) := by
    simp only [activeOf]
    cases directory[host.key incoming.userId incoming.routeKey]? <;> rfl
  split at ok
  · simp only [Result.pure_eq_ok] at ok
    rw [← ok, activeOf_insert fresh]
  · simp only [Result.bind_eq_ok, Result.pure_eq_ok] at ok
    obtain ⟨⟨⟩, -, route, queued, rfl⟩ := ok
    rw [activeOf_insert]
    rw [(queueRouteUpdate_ok queued).1]
    exact fresh

theorem claim_active {pending : Option Pending}
    (ok : claim now directory = .ok (pending, after)) (query : String) :
    activeOf after query = activeOf directory query := by
  simp only [claim, Result.bind_eq_ok] at ok
  obtain ⟨middle, swept, ok⟩ := ok
  have kept := updateRoutes_active (fun _ _ => dropLapsedProof_active) swept
  split at ok
  · simp only [Result.pure_eq_ok, Prod.mk.injEq] at ok
    rw [← ok.2, kept]
  · rename_i name route due found
    simp only [Result.pure_eq_ok, Prod.mk.injEq] at ok
    have member := minByKey_mem found
    simp only [List.mem_filterMap, Option.map_eq_some_iff] at member
    obtain ⟨entry, listed, _, -, same⟩ := member
    simp only [Prod.mk.injEq] at same
    obtain ⟨rfl, rfl, rfl⟩ := same
    rw [← ok.2, activeOf_insert, kept]
    exact (activeOf_of_listed listed).symm

theorem notificationTarget_ok {found : Option (Selection × Json)}
    (ok : notificationTarget now directory = .ok (found, after)) :
    (∀ query, activeOf after query = activeOf directory query) ∧
    ∀ selection scope, found = some (selection, scope) → ∃ name route,
      directory[name]? = some route ∧ route.active = some selection ∧
      Route.hasOpenProof now route = false ∧
      after = directory.insert name { route with notificationNextPoll := now + 15 } := by
  simp only [notificationTarget] at ok
  split at ok
  · simp only [Except.ok.injEq, Prod.mk.injEq] at ok
    obtain ⟨rfl, rfl⟩ := ok
    exact ⟨fun _ => rfl, by simp⟩
  · rename_i name route least
    simp only [Result.bind_eq_ok, require_ok, Result.pure_eq_ok, Prod.mk.injEq] at ok
    obtain ⟨selection, active, rfl, rfl⟩ := ok
    have member := minByKey_mem least
    simp only [List.mem_filter, isNotificationCandidate, Bool.and_eq_true,
      Bool.not_eq_true'] at member
    obtain ⟨listed, -, settled⟩ := member
    refine ⟨fun query => ?_, ?_⟩
    · rw [activeOf_insert]
      exact (activeOf_of_listed listed).symm
    intro chosen scope same
    simp only [Option.some.injEq, Prod.mk.injEq] at same
    refine ⟨name, route, Std.TreeMap.mem_toList_iff_getElem?_eq_some.mp listed, ?_, settled, rfl⟩
    rw [active, same.1]

theorem claimRouteUpdate_active (query : String) :
    activeOf (claimRouteUpdate now directory).2 query = activeOf directory query := by
  simp only [claimRouteUpdate]
  split
  · rfl
  · rename_i name route generation update found
    have member := minByKey_mem found
    simp only [List.mem_flatMap, List.mem_map] at member
    obtain ⟨entry, listed, _, -, same⟩ := member
    simp only [Prod.mk.injEq] at same
    obtain ⟨rfl, rfl, rfl, rfl⟩ := same
    show activeOf (directory.insert entry.1 _) query = _
    rw [activeOf_insert]
    exact (activeOf_of_listed listed).symm

theorem finishRouteUpdate_active {update : RouteUpdate} {status : Nat} {receipt : Json}
    (ok : finishRouteUpdate host update status receipt directory = .ok after) (query : String) :
    activeOf after query = activeOf directory query := by
  simp only [finishRouteUpdate] at ok
  split at ok
  · simp_all [Result.pure_eq_ok]
  · rename_i route stored
    split at ok
    · simp_all [Result.pure_eq_ok]
    · split at ok
      · simp_all [Result.pure_eq_ok]
      · simp only [Result.bind_eq_ok, Result.pure_eq_ok] at ok
        obtain ⟨⟨⟩, -, rfl⟩ := ok
        exact activeOf_insert (by simp [activeOf, stored]) query

theorem invalidateIdentity_active (directory : Directory) (selection : Selection) (query : String) :
    activeOf (invalidateIdentity selection directory) query =
      (activeOf directory query).filter (!Selection.matches selection ·) := by
  simp only [activeOf, invalidateIdentity, Std.TreeMap.getElem?_map]
  cases directory[query]? <;> simp [invalidateRoute]

theorem bindProof_active {generation identity session : String} {pending current : Pending}
    {proof : Json} {route bound : Route}
    (ok : bindProof host now generation pending proof identity session current route = .ok bound) :
    ∃ selection, bound.active = some selection ∧ selection.generation = generation := by
  simp only [bindProof, Result.bind_eq_ok] at ok
  obtain ⟨occurred, -, ⟨⟩, -, retired, -, queued⟩ := ok
  exact ⟨_, (queueRouteUpdate_ok queued).1, rfl⟩

theorem finishRoute_active {generation identity : String} {pending current : Pending} {status : Nat}
    {proof : Json} {route finished : Route}
    (ok : finishRoute host now generation pending status proof identity current route =
      .ok finished) :
    finished.active = route.active ∨
      ∃ selection, finished.active = some selection ∧ selection.generation = generation := by
  simp only [finishRoute] at ok
  split at ok
  · exact Or.inl (queueRouteUpdate_ok ok).1
  · simp only [Result.bind_eq_ok] at ok
    obtain ⟨⟨⟩, -, ⟨session, pinned⟩, -, ok⟩ := ok
    split at ok
    · obtain rfl := Result.pure_eq_ok.mp ok
      exact Or.inl rfl
    · exact Or.inr (bindProof_active ok)
    · simp [throw, throwThe, MonadExceptOf.throw] at ok

/-- `finish` keeps every active selection, or installs one of its own generation in one route. -/
theorem finish_active {generation identity : String} {pending : Pending} {status : Nat}
    {proof : Json}
    (ok : finish host now generation pending status proof identity directory = .ok after) :
    (∀ query, activeOf after query = activeOf directory query) ∨
    ∃ name selection, selection.generation = generation ∧
      ∀ query, activeOf after query =
        if query = name then some selection else activeOf directory query := by
  simp only [finish, Result.bind_eq_ok, require_ok] at ok
  obtain ⟨route, stored, ok⟩ := ok
  split at ok
  · obtain rfl := Result.pure_eq_ok.mp ok
    exact Or.inl fun _ => rfl
  · simp only [Result.bind_eq_ok, Result.pure_eq_ok] at ok
    obtain ⟨finished, finishing, rfl⟩ := ok
    rcases finishRoute_active finishing with kept | ⟨selection, active, fresh⟩
    · refine Or.inl fun query => activeOf_insert ?_ query
      simp [kept, activeOf, stored]
    · refine Or.inr ⟨host.key pending.recipient pending.routeKey, selection, fresh, fun query => ?_⟩
      by_cases hit : query = host.key pending.recipient pending.routeKey
      · simp [activeOf, hit, active]
      · simp [activeOf, Std.TreeMap.getElem?_insert, hit, Ne.symm hit]

/-- A transaction keeps an active selection, clears it, or is a `finish` that installs one of
the generation it drew in a single route. -/
theorem FleetStep.apply_active (step : FleetStep) (host : FleetHost) (directory : Directory) :
    (∀ query, activeOf (step.apply host directory) query = activeOf directory query ∨
      activeOf (step.apply host directory) query = none) ∨
    ∃ name selection, step.generation? = some selection.generation ∧
      ∀ query, activeOf (step.apply host directory) query =
        if query = name then some selection else activeOf directory query := by
  simp only [FleetStep.apply]
  cases result : step.outcome host directory with
  | error reason => exact Or.inl fun query => Or.inl rfl
  | ok answer =>
      obtain ⟨answer, after⟩ := answer
      simp only [FleetStep.outcome] at result
      split at result
      · simp only [FleetStep.transact] at result
        split at result
        · simp only [Result.bind_eq_ok, Result.pure_eq_ok, Prod.mk.injEq] at result
          obtain ⟨_, ok, -, rfl⟩ := result
          exact Or.inl fun query => Or.inl (begin_active ok query)
        · simp only [Result.bind_eq_ok, Result.pure_eq_ok, Prod.mk.injEq] at result
          obtain ⟨⟨pending, _⟩, ok, -, rfl⟩ := result
          exact Or.inl fun query => Or.inl (claim_active ok query)
        · rename_i operation
          simp only [Result.bind_eq_ok, Result.pure_eq_ok, Prod.mk.injEq] at result
          obtain ⟨_, ok, -, rfl⟩ := result
          rcases finish_active ok with kept | ⟨name, selection, fresh, installed⟩
          · exact Or.inl fun query => Or.inl (kept query)
          · exact Or.inr ⟨name, selection, by simp [FleetStep.generation?, operation, fresh],
              installed⟩
        · rename_i selection _
          simp only [Result.pure_eq_ok, Prod.mk.injEq] at result
          obtain ⟨-, rfl⟩ := result
          refine Or.inl fun query => ?_
          rw [invalidateIdentity_active]
          cases activeOf directory query with
          | none => exact Or.inl rfl
          | some active =>
              by_cases matched : Selection.matches selection active
              · exact Or.inr (by simp [matched])
              · exact Or.inl (by simp [matched])
        · simp only [Result.bind_eq_ok, Result.pure_eq_ok, Prod.mk.injEq] at result
          obtain ⟨⟨found, _⟩, ok, -, rfl⟩ := result
          exact Or.inl fun query => Or.inl ((notificationTarget_ok ok).1 query)
        · simp only [Result.bind_eq_ok, Result.pure_eq_ok, Prod.mk.injEq] at result
          obtain ⟨_, -, -, rfl⟩ := result
          exact Or.inl fun query => Or.inl rfl
        · simp only [Result.bind_eq_ok, Result.pure_eq_ok, Prod.mk.injEq] at result
          obtain ⟨_, -, -, rfl⟩ := result
          exact Or.inl fun query => Or.inl rfl
        · simp only [Result.pure_eq_ok, Prod.mk.injEq] at result
          obtain ⟨-, rfl⟩ := result
          exact Or.inl fun query => Or.inl (claimRouteUpdate_active query)
        · simp only [Result.bind_eq_ok, Result.pure_eq_ok, Prod.mk.injEq] at result
          obtain ⟨_, ok, -, rfl⟩ := result
          exact Or.inl fun query => Or.inl (finishRouteUpdate_active ok query)
      · simp at result

theorem select_ok {incoming : InboundMessage} {selection : Selection}
    (ok : select host now incoming directory = .ok selection) :
    ∃ route, directory[host.key incoming.userId incoming.routeKey]? = some route ∧
      Route.hasOpenProof now route = false ∧ route.active = some selection := by
  simp only [select, Result.bind_eq_ok, require_ok, Result.pure_eq_ok] at ok
  obtain ⟨route, stored, ⟨⟩, settled, active, present, _, -, ⟨⟩, -, rfl⟩ := ok
  exact ⟨route, stored, by simpa using ensure_ok.mp settled, present⟩

/-- A successful check: the message's own selection is the active one of its route, and no
proof is open there. -/
theorem check_ok {outbound : OutboundMessage} {selection : Selection}
    (ok : check host now outbound directory = .ok selection) :
    ∃ routeKey route, claimedSelection outbound = .ok (selection, routeKey) ∧
      directory[host.key outbound.chatId routeKey]? = some route ∧
      Route.hasOpenProof now route = false ∧ route.active = some selection := by
  simp only [check, Result.bind_eq_ok, require_ok, Result.pure_eq_ok] at ok
  obtain ⟨⟨original, routeKey⟩, claimed, route, stored, ⟨⟩, settled, ⟨⟩, active, rfl⟩ := ok
  exact ⟨routeKey, route, claimed, stored, by simpa using ensure_ok.mp settled,
    ensure_ok.mp active⟩

/-- Whatever a transaction authorises is active in some route. -/
theorem FleetStep.authorised_active {step : FleetStep} {selection : Selection}
    (authorised : step.authorised host directory = some selection) :
    ∃ name, activeOf directory name = some selection := by
  simp only [FleetStep.authorised] at authorised
  split at authorised
  · rename_i answer after result
    simp only [FleetStep.outcome] at result
    split at result
    · simp only [FleetStep.transact] at result
      split at result
      all_goals
        simp only [Result.bind_eq_ok, Result.pure_eq_ok, Prod.mk.injEq] at result
      · obtain ⟨_, -, rfl, -⟩ := result
        simp [FleetAnswer.authorised] at authorised
      · obtain ⟨_, -, rfl, -⟩ := result
        simp [FleetAnswer.authorised] at authorised
      · obtain ⟨_, -, rfl, -⟩ := result
        simp [FleetAnswer.authorised] at authorised
      · obtain ⟨rfl, -⟩ := result
        simp [FleetAnswer.authorised] at authorised
      · obtain ⟨⟨found, _⟩, ok, rfl, -⟩ := result
        cases found with
        | none => simp [FleetAnswer.authorised] at authorised
        | some target =>
            simp only [FleetAnswer.authorised, Option.some.injEq] at authorised
            obtain ⟨name, route, stored, active, -⟩ :=
              (notificationTarget_ok ok).2 target.1 target.2 rfl
            exact ⟨name, by rw [activeOf_of_stored stored, active, authorised]⟩
      · obtain ⟨chosen, ok, rfl, -⟩ := result
        simp only [FleetAnswer.authorised, Option.some.injEq] at authorised
        obtain ⟨route, stored, -, active⟩ := select_ok ok
        exact ⟨_, by rw [activeOf_of_stored stored, active, authorised]⟩
      · obtain ⟨chosen, ok, rfl, -⟩ := result
        simp only [FleetAnswer.authorised, Option.some.injEq] at authorised
        obtain ⟨routeKey, route, -, stored, -, active⟩ := check_ok ok
        exact ⟨_, by rw [activeOf_of_stored stored, active, authorised]⟩
      · obtain ⟨rfl, -⟩ := result
        simp [FleetAnswer.authorised] at authorised
      · obtain ⟨_, -, rfl, -⟩ := result
        simp [FleetAnswer.authorised] at authorised
    · simp at result
  · simp at authorised

end

/-! ## Runs -/

/-- After a run that drew the generations `used`: every active selection carries one of them,
and no two routes share one. -/
structure Distinct (used : List String) (directory : Directory) : Prop where
  drawn : ∀ name selection, activeOf directory name = some selection → selection.generation ∈ used
  single : ∀ left right first second, activeOf directory left = some first →
    activeOf directory right = some second → first.generation = second.generation → left = right

def drawnGenerations (steps : List FleetStep) : List String :=
  steps.filterMap FleetStep.generation?

/-- The selection was active once and is not any more. -/
structure IsRetired (used : List String) (directory : Directory) (selection : Selection) : Prop where
  drawn : selection.generation ∈ used
  absent : ∀ name, activeOf directory name ≠ some selection

section

variable {host : FleetHost} {used : List String} {directory : Directory} {step : FleetStep}

theorem Distinct.apply (distinct : Distinct used directory)
    (fresh : ∀ generation, step.generation? = some generation → generation ∉ used) :
    Distinct (used ++ step.generation?.toList) (step.apply host directory) := by
  rcases step.apply_active host directory with
    kept | ⟨name, selection, drew, installed⟩
  · have source : ∀ query selection, activeOf (step.apply host directory) query = some selection →
        activeOf directory query = some selection := by
      intro query selection active
      rcases kept query with same | cleared
      · rw [← same, active]
      · simp [cleared] at active
    constructor
    · intro query selection active
      exact List.mem_append_left _ (distinct.drawn query selection (source query selection active))
    · intro left right first second leftActive rightActive same
      exact distinct.single left right first second (source left first leftActive)
        (source right second rightActive) same
  · have isNew : ∀ query other, activeOf directory query = some other →
        other.generation ≠ selection.generation := by
      intro query other active same
      exact fresh _ drew (same ▸ distinct.drawn query other active)
    constructor
    · intro query other active
      rw [installed] at active
      split at active
      · simp [drew, Option.some.inj active]
      · exact List.mem_append_left _ (distinct.drawn query other active)
    · intro left right first second leftActive rightActive same
      rw [installed] at leftActive rightActive
      split at leftActive <;> split at rightActive
      · simp_all
      · obtain rfl := Option.some.inj leftActive
        exact absurd same.symm (isNew right second rightActive)
      · obtain rfl := Option.some.inj rightActive
        exact absurd same (isNew left first leftActive)
      · exact distinct.single left right first second leftActive rightActive same

theorem IsRetired.apply {selection : Selection} (retired : IsRetired used directory selection)
    (fresh : ∀ generation, step.generation? = some generation → generation ∉ used) :
    IsRetired (used ++ step.generation?.toList) (step.apply host directory) selection := by
  refine ⟨List.mem_append_left _ retired.drawn, ?_⟩
  intro query active
  rcases step.apply_active host directory with
    kept | ⟨name, installedSelection, drew, installed⟩
  · rcases kept query with same | cleared
    · exact retired.absent query (same ▸ active)
    · simp [cleared] at active
  · rw [installed] at active
    split at active
    · obtain rfl := Option.some.inj active
      exact fresh _ drew retired.drawn
    · exact retired.absent query active

/-- Losing a selection in its own route retires it: no other route can hold it. -/
theorem Distinct.retires (distinct : Distinct used directory) {name : String}
    {selection : Selection}
    (fresh : ∀ generation, step.generation? = some generation → generation ∉ used)
    (active : activeOf directory name = some selection)
    (lost : activeOf (step.apply host directory) name ≠ some selection) :
    IsRetired (used ++ step.generation?.toList) (step.apply host directory) selection := by
  have known := distinct.drawn name selection active
  refine ⟨List.mem_append_left _ known, ?_⟩
  intro query still
  have before : activeOf directory query = some selection := by
    rcases step.apply_active host directory with
      kept | ⟨_, installedSelection, drew, installed⟩
    · rcases kept query with same | cleared
      · rw [← same, still]
      · simp [cleared] at still
    · rw [installed] at still
      split at still
      · obtain rfl := Option.some.inj still
        exact absurd known (fresh _ drew)
      · exact still
  have sameRoute := distinct.single name query selection selection active before rfl
  exact lost (sameRoute ▸ still)

end

theorem runFleet_append (host : FleetHost) (first second : List FleetStep) (directory : Directory) :
    runFleet host (first ++ second) directory =
      runFleet host second (runFleet host first directory) := by
  simp [runFleet]

theorem drawnGenerations_cons (step : FleetStep) (steps : List FleetStep) :
    drawnGenerations (step :: steps) = step.generation?.toList ++ drawnGenerations steps := by
  cases drew : step.generation? <;> simp [drawnGenerations, drew]

/-- A run that draws pairwise different generations, none of them drawn before, keeps every
property of used generations and directory that a fresh step keeps. -/
theorem runFleet_keeps (host : FleetHost) {P : List String → Directory → Prop}
    (step : ∀ used directory step, P used directory →
      (∀ generation, FleetStep.generation? step = some generation → generation ∉ used) →
      P (used ++ step.generation?.toList) (step.apply host directory))
    (steps : List FleetStep) : ∀ used directory, P used directory →
      (used ++ drawnGenerations steps).Nodup →
      P (used ++ drawnGenerations steps) (runFleet host steps directory) := by
  induction steps with
  | nil =>
      intro used directory holds _
      simpa [drawnGenerations, runFleet] using holds
  | cons first rest ih =>
      intro used directory holds distinct
      rw [drawnGenerations_cons, ← List.append_assoc] at distinct ⊢
      refine ih _ _ (step used directory first holds ?_) distinct
      intro generation drew member
      have apart := (List.nodup_append.mp (List.nodup_append.mp distinct).1).2.2
      exact apart generation member generation (by simp [drew]) rfl

theorem distinct_empty : Distinct [] ∅ := by
  constructor <;> simp [activeOf]

theorem runFleet_distinct {host : FleetHost} {steps : List FleetStep}
    (fresh : (drawnGenerations steps).Nodup) :
    Distinct (drawnGenerations steps) (runFleet host steps ∅) := by
  simpa using runFleet_keeps host (fun _ _ _ distinct drew => distinct.apply drew) steps [] ∅
    distinct_empty (by simpa using fresh)

theorem drawnGenerations_append (first second : List FleetStep) :
    drawnGenerations (first ++ second) = drawnGenerations first ++ drawnGenerations second := by
  simp [drawnGenerations]

/-- The transaction does not succeed for the route `name`, which holds `route`. -/
def FleetStep.RefusesRoute (host : FleetHost) (step : FleetStep) (directory : Directory)
    (name : String) (route : Route) : Prop :=
  match step.op with
  | .select incoming =>
      host.key incoming.userId incoming.routeKey = name →
        ∃ error, step.outcome host directory = .error error
  | .check outbound =>
      ∀ routeKey, (outbound.metadata.get "route_key").bind Json.asStr = some routeKey →
        host.key outbound.chatId routeKey = name →
        ∃ error, step.outcome host directory = .error error
  | .notificationTarget =>
      ∀ selection scope after,
        step.outcome host directory = .ok (.target (some (selection, scope)), after) →
        route.active ≠ some selection ∧ after[name]? = some route
  | _ => True

theorem claimedSelection_ok {outbound : OutboundMessage} {selection : Selection}
    {routeKey : String} (ok : claimedSelection outbound = .ok (selection, routeKey)) :
    (outbound.metadata.get "navi_selection").bind Selection.ofJson = some selection ∧
      (outbound.metadata.get "route_key").bind Json.asStr = some routeKey := by
  simp only [claimedSelection, Result.bind_eq_ok, require_ok, Result.pure_eq_ok,
    Prod.mk.injEq] at ok
  obtain ⟨value, carried, _, read, _, found, rfl, rfl⟩ := ok
  exact ⟨by rw [carried]; exact read, found⟩

theorem open_proof_refuses {host : FleetHost} {step : FleetStep} {used : List String}
    {directory : Directory} {name : String} {route : Route} (distinct : Distinct used directory)
    (stored : directory[name]? = some route)
    (proof : Route.hasOpenProof step.now route = true) :
    step.RefusesRoute host directory name route := by
  obtain ⟨now, op, written⟩ := step
  cases op with
  | begin _ _ | claim | finish _ _ _ _ _ | invalidateIdentity _ | claimRouteUpdate
  | finishRouteUpdate _ _ _ => trivial
  | select incoming =>
      intro addressed
      cases result : FleetStep.outcome host ⟨now, .select incoming, written⟩ directory with
      | error error => exact ⟨error, rfl⟩
      | ok answer =>
          simp only [FleetStep.outcome, FleetStep.transact] at result
          split at result
          · simp only [Result.bind_eq_ok] at result
            obtain ⟨selection, ok, -⟩ := result
            obtain ⟨found, here, settled, -⟩ := select_ok ok
            rw [addressed, stored] at here
            obtain rfl := Option.some.inj here
            simp [settled] at proof
          · simp at result
  | check outbound =>
      intro routeKey named addressed
      cases result : FleetStep.outcome host ⟨now, .check outbound, written⟩ directory with
      | error error => exact ⟨error, rfl⟩
      | ok answer =>
          simp only [FleetStep.outcome, FleetStep.transact] at result
          split at result
          · simp only [Result.bind_eq_ok] at result
            obtain ⟨selection, ok, -⟩ := result
            obtain ⟨otherKey, found, claimed, here, settled, -⟩ := check_ok ok
            have sameKey := (claimedSelection_ok claimed).2
            rw [named] at sameKey
            obtain rfl := Option.some.inj sameKey
            rw [addressed, stored] at here
            obtain rfl := Option.some.inj here
            simp [settled] at proof
          · simp at result
  | notificationTarget =>
      intro selection scope after result
      simp only [FleetStep.outcome, FleetStep.transact] at result
      split at result
      · simp only [Result.bind_eq_ok, Result.pure_eq_ok, Prod.mk.injEq,
          FleetAnswer.target.injEq] at result
        obtain ⟨⟨found, _⟩, ok, rfl, rfl⟩ := result
        obtain ⟨chosen, other, here, active, settled, rfl⟩ :=
          (notificationTarget_ok ok).2 selection scope rfl
        have apart : name ≠ chosen := by
          rintro rfl
          obtain rfl := Option.some.inj (here.symm.trans stored)
          simp [settled] at proof
        constructor
        · intro same
          exact apart (distinct.single name chosen selection selection
            ((activeOf_of_stored stored).trans same) ((activeOf_of_stored here).trans active) rfl)
        · simp [Std.TreeMap.getElem?_insert, Ne.symm apart, stored]
      · simp at result

theorem retired_selection_never_authorised_again (host : FleetHost) (steps : List FleetStep)
    (fresh : (drawnGenerations steps).Nodup) :
    (∀ before retire middle later after name selection,
      steps = before ++ retire :: middle ++ later :: after →
      activeOf (runFleet host before ∅) name = some selection →
      activeOf (runFleet host (before ++ [retire]) ∅) name ≠ some selection →
      later.authorised host (runFleet host (before ++ retire :: middle) ∅) ≠ some selection) ∧
    ∀ before step after name route, steps = before ++ step :: after →
      (runFleet host before ∅)[name]? = some route →
      Route.hasOpenProof step.now route = true →
      step.RefusesRoute host (runFleet host before ∅) name route := by
  constructor
  · rintro before retire middle later after name selection rfl active lost authorised
    have nodup : (drawnGenerations before ++ retire.generation?.toList ++
        drawnGenerations middle).Nodup := by
      rw [drawnGenerations_append, drawnGenerations_append, drawnGenerations_cons,
        ← List.append_assoc] at fresh
      exact (List.nodup_append.mp fresh).1
    have early := (List.nodup_append.mp nodup).1
    have distinct : Distinct (drawnGenerations before) (runFleet host before ∅) :=
      runFleet_distinct (List.nodup_append.mp early).1
    have retired : IsRetired (drawnGenerations before ++ retire.generation?.toList)
        (retire.apply host (runFleet host before ∅)) selection := by
      refine distinct.retires ?_ active (by simpa [runFleet] using lost)
      intro generation drew member
      exact (List.nodup_append.mp early).2.2 generation member generation (by simp [drew]) rfl
    have stays := runFleet_keeps host (P := fun used directory => IsRetired used directory selection)
      (fun _ _ _ holds drew => holds.apply drew) middle _ _ retired nodup
    obtain ⟨query, found⟩ := FleetStep.authorised_active authorised
    refine stays.absent query ?_
    simpa [runFleet] using found
  · rintro before step after name route rfl stored proof
    rw [drawnGenerations_append] at fresh
    exact open_proof_refuses (runFleet_distinct (List.nodup_append.mp fresh).1) stored proof

/-- The digests and the instant of the proof below. -/
def phoneHost : FleetHost where
  key := fun recipient route =>
    if recipient = "15551234567" ∧ route = "route-1" then
      "7c38a6ae2e90c4d15c3de4a1ad5ac7440327172ac6ad579d747b52808c3e3cb1"
    else "other"
  proofId := fun _ _ => "e7580a82d8e3b091426f1391b0bf5bdffd8091bc73a98e26af6e5cd4fbb6d156"
  timestamp := fun text => if text = "2026-09-21T14:13:20Z" then some 1790000000 else none

def phoneProof : InboundMessage where
  platform := "whatsapp"
  chatId := "15551234567"
  userId := "15551234567"
  text := "NAVI hub-one.aaaaaaaaaaaaaaaaaaaaaaaaaaaaaaaaaaaaaaaaaaaaaaaaaaaaaaaaaaaaaaaa"
  messageId := "wamid.1"
  chatType := "p2p"
  routeKey := "route-1"
  sessionId := ""
  mentions := []
  attachments := []
  metadata := []
  timestamp := "2026-09-21T14:13:20Z"
  rawPayload := .null

def polledProof : Pending where
  id := "e7580a82d8e3b091426f1391b0bf5bdffd8091bc73a98e26af6e5cd4fbb6d156"
  hubId := "hub-one"
  token := "aaaaaaaaaaaaaaaaaaaaaaaaaaaaaaaaaaaaaaaaaaaaaaaaaaaaaaaaaaaaaaaa"
  recipient := "15551234567"
  routeKey := "route-1"
  occurredAt := "2026-09-21T14:13:20Z"
  expiresAt := 1790000300
  nextPoll := 1790000012
  sessionId := none
  hubIdentity := none

def boundSelection : Selection where
  hubId := "hub-one"
  hubIdentity := "0123456789abcdef0123456789abcdef0123456789abcdef0123456789abcdef"
  bindingId := "00000000000000000000000000000001"
  generation := "11111111111111111111111111111111"
  selectedAt := 1790000010

def boundAnswer : Json :=
  .obj [("binding_id", .str boundSelection.bindingId), ("confirmed_at", .num 1790000005),
    ("expires_at", .num 1790000200), ("session_id", .str boundSelection.bindingId),
    ("status", .str "bound")]

def phoneBinding : List FleetStep :=
  [⟨1790000001, .begin 1790000001 phoneProof, true⟩,
    ⟨1790000010, .finish boundSelection.generation polledProof 200 boundAnswer
      boundSelection.hubIdentity, true⟩]

def staleReply : OutboundMessage where
  platform := "whatsapp"
  chatId := "15551234567"
  text := "late answer"
  attachments := []
  timestamp := "2026-09-21T14:15:30Z"
  metadata := [("navi_selection", boundSelection.toJson), ("route_key", .str "route-1")]

theorem phone_bound : activeOf (runFleet phoneHost phoneBinding ∅)
    (phoneHost.key "15551234567" "route-1") = some boundSelection := by
  set_option maxRecDepth 1000 in
  decide

theorem cleared_selection_is_refused :
    activeOf (runFleet phoneHost phoneBinding ∅) (phoneHost.key "15551234567" "route-1") =
        some boundSelection ∧
      FleetStep.authorised phoneHost ⟨1790000120, .check staleReply, true⟩
        (runFleet phoneHost
          (phoneBinding ++ [⟨1790000060, .invalidateIdentity boundSelection, true⟩]) ∅) ≠
        some boundSelection := by
  have lost : activeOf (runFleet phoneHost
      (phoneBinding ++ [⟨1790000060, .invalidateIdentity boundSelection, true⟩]) ∅)
      (phoneHost.key "15551234567" "route-1") ≠ some boundSelection := by
    rw [runFleet_append]
    have cleared := invalidateIdentity_active (runFleet phoneHost phoneBinding ∅)
      boundSelection (phoneHost.key "15551234567" "route-1")
    rw [phone_bound] at cleared
    intro still
    have none_left := cleared.symm.trans still
    simp [Selection.matches] at none_left
  refine ⟨phone_bound, ?_⟩
  exact (retired_selection_never_authorised_again phoneHost
    (phoneBinding ++ ⟨1790000060, .invalidateIdentity boundSelection, true⟩ :: [] ++
      ⟨1790000120, .check staleReply, true⟩ :: [])
    (by decide)).1 phoneBinding _ [] _ [] _ boundSelection rfl phone_bound lost

end NaviFleet

end HarborGate
