import HarborGate.Fleet.Retired

/-!
What one transaction of the directory can do to one route. Every law of a route over whole runs
is a case analysis on `RouteMove` followed by an induction over the run.
-/

namespace HarborGate

namespace NaviFleet

/-- A route that was never stored reads as the default one, as `entry(..).or_default()` has it. -/
def routeOf (directory : Directory) (name : String) : Route :=
  directory[name]?.getD Route.default

/-- The answer that lets `finish_route_update` drop a claimed update. -/
def Settles (update : RouteUpdate) (status : Nat) (receipt : Json) : Prop :=
  if status = 200 then
    (receipt.index "binding_id").asStr = some update.selection.bindingId ∧
      (receipt.index "generation").asStr = some update.selection.generation ∧
      (receipt.index "revision").asInt = some (update.revision : Int) ∧
      (receipt.index "status").asStr = some update.status.text ∧
      (receipt.index "applied").asBool = some true
  else status = 403 ∨ status = 410

inductive RouteMove (host : FleetHost) (step : FleetStep) (name : String) (route : Route) :
    Route → Prop
  | keep : RouteMove host step name route route
  | notified : step.op = .notificationTarget →
      RouteMove host step name route { route with notificationNextPoll := step.now + 15 }
  | refreshed {checkedAt incoming} : step.op = .begin checkedAt incoming →
      name = host.key incoming.userId incoming.routeKey →
      (∃ proof, readProof host checkedAt incoming = .ok proof) →
      RouteMove host step name route (refreshRoute step.now incoming route)
  | installed {checkedAt incoming hub token occurred after} :
      step.op = .begin checkedAt incoming →
      name = host.key incoming.userId incoming.routeKey →
      readProof host checkedAt incoming = .ok (hub, token, occurred) →
      (refreshRoute step.now incoming route).seen[host.proofId hub token]? = none →
      route.newestProofAt ≤ occurred →
      queueRouteUpdate step.now .paused (acceptProof host step.now incoming (hub, token, occurred)
        (refreshRoute step.now incoming route)) = .ok after →
      RouteMove host step name route after
  | lapsed {pending after} : step.op = .claim → route.pending = some pending →
      pending.expiresAt ≤ step.now →
      queueRouteUpdate step.now .active { route with pending := none } = .ok after →
      RouteMove host step name route after
  | polled {pending} : step.op = .claim → route.pending = some pending →
      RouteMove host step name route
        { route with pending := some { pending with nextPoll := step.now + 10 } }
  | finished {generation pending status proof identity current after} :
      step.op = .finish generation pending status proof identity →
      name = host.key pending.recipient pending.routeKey →
      route.pending = some current → current.id = pending.id →
      finishRoute host step.now generation pending status proof identity current route =
        .ok after →
      RouteMove host step name route after
  | invalidated {selection} : step.op = .invalidateIdentity selection →
      RouteMove host step name route (invalidateRoute selection route)
  | updatePolled {generation update} : step.op = .claimRouteUpdate →
      route.updates[generation]? = some update →
      RouteMove host step name route { route with
        updates := route.updates.insert generation { update with nextPoll := step.now + 10 } }
  | acknowledged {update status receipt current} :
      step.op = .finishRouteUpdate update status receipt →
      name = host.key update.recipient update.routeKey →
      route.updates[update.selection.generation]? = some current →
      current.revision = update.revision → Settles update status receipt →
      RouteMove host step name route
        { route with updates := route.updates.erase update.selection.generation }

/-! ## Reading a route back -/

theorem routeOf_of_stored {directory : Directory} {name : String} {route : Route}
    (stored : directory[name]? = some route) : routeOf directory name = route := by
  simp [routeOf, stored]

theorem routeOf_insert (directory : Directory) (name query : String) (route : Route) :
    routeOf (directory.insert name route) query =
      if query = name then route else routeOf directory query := by
  by_cases hit : query = name
  · simp [routeOf, hit]
  · simp [routeOf, Std.TreeMap.getElem?_insert, hit, Ne.symm hit]

theorem routeOf_active (directory : Directory) (name : String) :
    (routeOf directory name).active = activeOf directory name := by
  simp only [routeOf, activeOf]
  cases directory[name]? <;> rfl

@[simp] theorem routeOf_empty (name : String) : routeOf ∅ name = Route.default := by
  simp [routeOf]

/-- Storing a moved route moves that route and keeps the others. -/
theorem RouteMove.insert {host : FleetHost} {step : FleetStep} {directory : Directory}
    {name : String} {route : Route}
    (moved : RouteMove host step name (routeOf directory name) route) (query : String) :
    RouteMove host step query (routeOf directory query)
      (routeOf (directory.insert name route) query) := by
  rw [routeOf_insert]
  split
  · rename_i hit
    subst hit
    exact moved
  · exact .keep

/-! ## The pass over all routes -/

theorem foldRoutes_ok {update : Route → FleetResult Route} (entries : List (String × Route)) :
    ∀ {routes after : Directory},
      entries.Pairwise (fun left right => left.1 ≠ right.1) →
      entries.foldlM (fun routes entry => do
        let route ← update entry.2
        return routes.insert entry.1 route) routes = .ok after →
      (∀ entry ∈ entries, ∃ changed, update entry.2 = .ok changed ∧
        after[entry.1]? = some changed) ∧
      ∀ name, (∀ entry ∈ entries, entry.1 ≠ name) → after[name]? = routes[name]? := by
  induction entries with
  | nil =>
      intro routes after _ ok
      simp only [List.foldlM_nil, Result.pure_eq_ok] at ok
      simp [ok]
  | cons entry entries ih =>
      intro routes after distinct ok
      simp only [List.foldlM_cons, Result.bind_eq_ok, Result.pure_eq_ok] at ok
      obtain ⟨_, ⟨changed, updated, rfl⟩, ok⟩ := ok
      obtain ⟨apart, distinct⟩ := List.pairwise_cons.mp distinct
      obtain ⟨listed, others⟩ := ih distinct ok
      constructor
      · intro other member
        rcases List.mem_cons.mp member with rfl | member
        · refine ⟨changed, updated, ?_⟩
          rw [others other.1 fun later member => Ne.symm (apart later member)]
          simp
        · exact listed other member
      · intro name absent
        rw [others name fun later member => absent later (List.mem_cons_of_mem _ member)]
        have missed := absent entry List.mem_cons_self
        simp [Std.TreeMap.getElem?_insert, missed]

theorem updateRoutes_ok {update : Route → FleetResult Route} {directory after : Directory}
    (ok : updateRoutes update directory = .ok after) (name : String) :
    (∃ route changed, directory[name]? = some route ∧ update route = .ok changed ∧
      after[name]? = some changed) ∨ directory[name]? = none ∧ after[name]? = none := by
  have distinct : directory.toList.Pairwise (fun left right => left.1 ≠ right.1) := by
    refine Std.TreeMap.distinct_keys_toList.imp ?_
    intro left right apart same
    simp [same] at apart
  obtain ⟨listed, others⟩ := foldRoutes_ok directory.toList distinct ok
  cases stored : directory[name]? with
  | some route =>
      have member : (name, route) ∈ directory.toList :=
        Std.TreeMap.mem_toList_iff_getElem?_eq_some.mpr stored
      obtain ⟨changed, updated, found⟩ := listed _ member
      exact Or.inl ⟨route, changed, rfl, updated, found⟩
  | none =>
      have absent : ∀ entry ∈ directory.toList, entry.1 ≠ name := by
        rintro ⟨other, route⟩ member rfl
        simp [Std.TreeMap.mem_toList_iff_getElem?_eq_some.mp member] at stored
      exact Or.inr ⟨rfl, (others name absent).trans stored⟩

/-- A pass whose body succeeds on every stored route succeeds. -/
theorem updateRoutes_succeeds {update : Route → FleetResult Route} {directory : Directory}
    (each : ∀ (name : String) (route : Route), directory[name]? = some route → ∃ changed, update route = .ok changed) :
    ∃ after, updateRoutes update directory = .ok after := by
  have fold : ∀ (entries : List (String × Route)) (routes : Directory),
      (∀ entry ∈ entries, ∃ changed, update entry.2 = .ok changed) →
      ∃ after, entries.foldlM (fun routes entry => do
        let route ← update entry.2
        return routes.insert entry.1 route) routes = .ok after := by
    intro entries
    induction entries with
    | nil => exact fun routes _ => ⟨routes, rfl⟩
    | cons entry entries ih =>
        intro routes each
        obtain ⟨changed, updated⟩ := each entry List.mem_cons_self
        obtain ⟨after, rest⟩ := ih (routes.insert entry.1 changed)
          fun later member => each later (List.mem_cons_of_mem _ member)
        refine ⟨after, ?_⟩
        simp only [List.foldlM_cons, Result.bind_eq_ok, Result.pure_eq_ok]
        exact ⟨_, ⟨changed, updated, rfl⟩, rest⟩
  refine fold directory.toList directory ?_
  rintro ⟨name, route⟩ member
  exact each name route (Std.TreeMap.mem_toList_iff_getElem?_eq_some.mp member)

/-! ## The moves of each transaction -/

section

variable {host : FleetHost} {step : FleetStep} {directory after : Directory}

theorem begin_moves {checkedAt : Int} {incoming : InboundMessage}
    (performed : step.op = .begin checkedAt incoming)
    (ok : begin host checkedAt step.now incoming directory = .ok after) (query : String) :
    RouteMove host step query (routeOf directory query) (routeOf after query) := by
  simp only [begin, Result.bind_eq_ok] at ok
  obtain ⟨⟨hub, token, occurred⟩, read, ⟨⟩, -, ok⟩ := ok
  split at ok
  · obtain rfl := Result.pure_eq_ok.mp ok
    exact RouteMove.insert (.refreshed performed rfl ⟨_, read⟩) query
  · rename_i unseen
    simp only [Result.bind_eq_ok, Result.pure_eq_ok] at ok
    obtain ⟨⟨⟩, timely, route, queued, rfl⟩ := ok
    refine RouteMove.insert (.installed performed rfl read ?_ ?_ queued) query
    · simpa [routeOf] using unseen
    · exact Int.not_lt.mp (not_or.mp (ensure_ok.mp timely)).1

theorem claim_moves {pending : Option Pending} (performed : step.op = .claim)
    (ok : claim step.now directory = .ok (pending, after)) (query : String) :
    RouteMove host step query (routeOf directory query) (routeOf after query) := by
  simp only [claim, Result.bind_eq_ok] at ok
  obtain ⟨middle, swept, ok⟩ := ok
  -- The sweep either drops a lapsed proof, which leaves nothing to poll, or keeps the route.
  have sweep : ∀ name, (routeOf middle name = routeOf directory name) ∨
      (routeOf middle name).pending = none ∧
        RouteMove host step name (routeOf directory name) (routeOf middle name) := by
    intro name
    rcases updateRoutes_ok swept name with ⟨route, changed, stored, updated, found⟩ | ⟨stored, found⟩
    · rw [routeOf_of_stored stored, routeOf_of_stored found]
      simp only [dropLapsedProof] at updated
      split at updated
      · rename_i expired
        cases present : route.pending with
        | none => simp [present] at expired
        | some pending =>
            have late : pending.expiresAt ≤ step.now := by simpa [present] using expired
            exact Or.inr ⟨(queueRouteUpdate_ok updated).2,
              .lapsed performed present late updated⟩
      · exact Or.inl (Except.ok.inj updated).symm
    · exact Or.inl (by simp [routeOf, stored, found])
  split at ok
  · simp only [Result.pure_eq_ok, Prod.mk.injEq] at ok
    obtain ⟨-, rfl⟩ := ok
    rcases sweep query with same | ⟨-, moved⟩
    · rw [same]
      exact .keep
    · exact moved
  · rename_i name route due found
    simp only [Result.pure_eq_ok, Prod.mk.injEq] at ok
    obtain ⟨-, rfl⟩ := ok
    have member := minByKey_mem found
    simp only [List.mem_filterMap, Option.map_eq_some_iff, Option.filter_eq_some_iff,
      Prod.mk.injEq] at member
    obtain ⟨⟨_, _⟩, listed, _, ⟨present, -⟩, rfl, rfl, rfl⟩ := member
    have here := routeOf_of_stored (Std.TreeMap.mem_toList_iff_getElem?_eq_some.mp listed)
    rw [routeOf_insert]
    split
    · rename_i hit
      subst hit
      rcases sweep query with same | ⟨cleared, -⟩
      · rw [here] at same
        subst same
        exact .polled performed present
      · rw [here, present] at cleared
        simp at cleared
    · rcases sweep query with same | ⟨-, moved⟩
      · rw [same]
        exact .keep
      · exact moved

theorem finish_moves {generation identity : String} {pending : Pending} {status : Nat}
    {proof : Json} (performed : step.op = .finish generation pending status proof identity)
    (ok : finish host step.now generation pending status proof identity directory = .ok after)
    (query : String) :
    RouteMove host step query (routeOf directory query) (routeOf after query) := by
  simp only [finish, Result.bind_eq_ok, require_ok] at ok
  obtain ⟨route, stored, ok⟩ := ok
  split at ok
  · obtain rfl := Result.pure_eq_ok.mp ok
    exact .keep
  · rename_i current found
    simp only [Result.bind_eq_ok, Result.pure_eq_ok] at ok
    obtain ⟨finished, finishing, rfl⟩ := ok
    simp only [Option.filter_eq_some_iff, decide_eq_true_eq] at found
    refine RouteMove.insert ?_ query
    rw [routeOf_of_stored stored]
    exact .finished performed rfl found.1 found.2 finishing

theorem invalidateIdentity_moves {selection : Selection}
    (performed : step.op = .invalidateIdentity selection) (query : String) :
    RouteMove host step query (routeOf directory query)
      (routeOf (invalidateIdentity selection directory) query) := by
  simp only [routeOf, invalidateIdentity, Std.TreeMap.getElem?_map]
  cases directory[query]? with
  | none => exact .keep
  | some route => exact .invalidated performed

theorem notificationTarget_moves {found : Option (Selection × Json)}
    (performed : step.op = .notificationTarget)
    (ok : notificationTarget step.now directory = .ok (found, after)) (query : String) :
    RouteMove host step query (routeOf directory query) (routeOf after query) := by
  simp only [notificationTarget] at ok
  split at ok
  · simp only [Except.ok.injEq, Prod.mk.injEq] at ok
    obtain ⟨-, rfl⟩ := ok
    exact .keep
  · rename_i name route least
    simp only [Result.bind_eq_ok, Result.pure_eq_ok, Prod.mk.injEq] at ok
    obtain ⟨selection, -, -, rfl⟩ := ok
    have listed := (List.mem_filter.mp (minByKey_mem least)).1
    have here := routeOf_of_stored (Std.TreeMap.mem_toList_iff_getElem?_eq_some.mp listed)
    refine RouteMove.insert ?_ query
    rw [here]
    exact .notified performed

theorem claimRouteUpdate_moves (performed : step.op = .claimRouteUpdate) (query : String) :
    RouteMove host step query (routeOf directory query)
      (routeOf (claimRouteUpdate step.now directory).2 query) := by
  simp only [claimRouteUpdate]
  split
  · exact .keep
  · rename_i name route generation update found
    have member := minByKey_mem found
    simp only [List.mem_flatMap, List.mem_map, List.mem_filter, Prod.mk.injEq] at member
    obtain ⟨⟨_, _⟩, listed, ⟨_, _⟩, ⟨queued, -⟩, rfl, rfl, rfl, rfl⟩ := member
    have here := routeOf_of_stored (Std.TreeMap.mem_toList_iff_getElem?_eq_some.mp listed)
    refine RouteMove.insert ?_ query
    rw [here]
    exact .updatePolled performed (Std.TreeMap.mem_toList_iff_getElem?_eq_some.mp queued)

theorem finishRouteUpdate_moves {update : RouteUpdate} {status : Nat} {receipt : Json}
    (performed : step.op = .finishRouteUpdate update status receipt)
    (ok : finishRouteUpdate host update status receipt directory = .ok after) (query : String) :
    RouteMove host step query (routeOf directory query) (routeOf after query) := by
  simp only [finishRouteUpdate] at ok
  split at ok
  · obtain rfl := Result.pure_eq_ok.mp ok
    exact .keep
  rename_i route stored
  split at ok
  · obtain rfl := Result.pure_eq_ok.mp ok
    exact .keep
  rename_i current queued
  split at ok
  · obtain rfl := Result.pure_eq_ok.mp ok
    exact .keep
  rename_i same
  simp only [Result.bind_eq_ok, Result.pure_eq_ok] at ok
  obtain ⟨⟨⟩, settles, rfl⟩ := ok
  have settled := ensure_ok.mp settles
  refine RouteMove.insert ?_ query
  rw [routeOf_of_stored stored]
  exact .acknowledged performed rfl queued (by simpa using same) settled

end

theorem FleetStep.apply_moves (host : FleetHost) (step : FleetStep) (directory : Directory)
    (name : String) :
    RouteMove host step name (routeOf directory name)
      (routeOf (step.apply host directory) name) := by
  simp only [FleetStep.apply]
  split
  · rename_i answer after ok
    simp only [FleetStep.outcome] at ok
    split at ok
    · simp only [FleetStep.transact] at ok
      split at ok <;> rename_i performed
      · simp only [Result.bind_eq_ok, Result.pure_eq_ok, Prod.mk.injEq] at ok
        obtain ⟨_, done, -, rfl⟩ := ok
        exact begin_moves performed done name
      · simp only [Result.bind_eq_ok, Result.pure_eq_ok, Prod.mk.injEq] at ok
        obtain ⟨⟨_, _⟩, done, -, rfl⟩ := ok
        exact claim_moves performed done name
      · simp only [Result.bind_eq_ok, Result.pure_eq_ok, Prod.mk.injEq] at ok
        obtain ⟨_, done, -, rfl⟩ := ok
        exact finish_moves performed done name
      · simp only [Result.pure_eq_ok, Prod.mk.injEq] at ok
        obtain ⟨-, rfl⟩ := ok
        exact invalidateIdentity_moves performed name
      · simp only [Result.bind_eq_ok, Result.pure_eq_ok, Prod.mk.injEq] at ok
        obtain ⟨⟨_, _⟩, done, -, rfl⟩ := ok
        exact notificationTarget_moves performed done name
      · simp only [Result.bind_eq_ok, Result.pure_eq_ok, Prod.mk.injEq] at ok
        obtain ⟨_, -, -, rfl⟩ := ok
        exact .keep
      · simp only [Result.bind_eq_ok, Result.pure_eq_ok, Prod.mk.injEq] at ok
        obtain ⟨_, -, -, rfl⟩ := ok
        exact .keep
      · simp only [Result.pure_eq_ok, Prod.mk.injEq] at ok
        obtain ⟨-, rfl⟩ := ok
        exact claimRouteUpdate_moves performed name
      · simp only [Result.bind_eq_ok, Result.pure_eq_ok, Prod.mk.injEq] at ok
        obtain ⟨_, done, -, rfl⟩ := ok
        exact finishRouteUpdate_moves performed done name
    · simp at ok
  · exact .keep

/-! ## The parts of a move -/

/-- Queueing keeps the route as it is, or stores the next revision under the active generation. -/
theorem queueRouteUpdate_cases {now : Int} {status : RouteStatus} {route after : Route}
    (ok : queueRouteUpdate now status route = .ok after) :
    after = route ∧ (route.active = none ∨ route.recipient = "" ∨ route.routeKey = "") ∨
    ∃ selection, route.active = some selection ∧ route.recipient ≠ "" ∧
      (64 ≤ route.updates.size → selection.generation ∈ route.updates) ∧
      after = { route with
        revision := route.revision + 1
        updates := route.updates.insert selection.generation
          { selection
            recipient := route.recipient
            routeKey := route.routeKey
            revision := route.revision + 1
            status := status
            issuedAt := now
            nextPoll := 0 } } := by
  simp only [queueRouteUpdate] at ok
  split at ok
  · exact Or.inl ⟨(Except.ok.inj ok).symm, Or.inl ‹_›⟩
  · rename_i selection active
    split at ok
    · rename_i unaddressed
      exact Or.inl ⟨(Except.ok.inj ok).symm, Or.inr unaddressed⟩
    · split at ok
      · simp at ok
      · rename_i room
        split at ok
        · simp at ok
        · refine Or.inr ⟨selection, active, (not_or.mp ‹_›).1, ?_, (Except.ok.inj ok).symm⟩
          intro full
          simp only [not_and, Std.TreeMap.mem_iff_contains] at room ⊢
          simpa using room full

/-- Queueing can only fail for want of room or of revisions. -/
theorem queueRouteUpdate_succeeds (now : Int) (status : RouteStatus) (route : Route)
    (room : ∀ selection, route.active = some selection → 64 ≤ route.updates.size →
      selection.generation ∈ route.updates)
    (revisions : route.revision < maxRevision) :
    ∃ after, queueRouteUpdate now status route = .ok after := by
  simp only [queueRouteUpdate]
  split
  · exact ⟨_, rfl⟩
  · rename_i selection active
    split
    · exact ⟨_, rfl⟩
    · split
      · rename_i full
        exact absurd (room selection active full.1) (by simpa using full.2)
      · split
        · omega
        · exact ⟨_, rfl⟩

/-- The three ways a device's answer is recorded. -/
theorem finishRoute_cases {host : FleetHost} {now : Int} {generation identity : String}
    {pending current : Pending} {status : Nat} {proof : Json} {route finished : Route}
    (ok : finishRoute host now generation pending status proof identity current route =
      .ok finished) :
    (current.expiresAt ≤ now ∨ status ∈ [400, 401, 403, 404, 410, 422]) ∧
        queueRouteUpdate now .active { route with pending := none } = .ok finished ∨
    ∃ session pinned, now < current.expiresAt ∧ status = 200 ∧
      pinProof now proof identity current = .ok (session, pinned) ∧
      ((proof.index "status").asStr = some "awaiting_owner_confirmation" ∧
          finished = { route with pending := some { pinned with nextPoll := now + 1 } } ∨
        (proof.index "status").asStr = some "bound" ∧
          bindProof host now generation pending proof identity session pinned route =
            .ok finished) := by
  simp only [finishRoute] at ok
  split at ok
  · exact Or.inl ⟨‹_›, ok⟩
  · rename_i timely
    simp only [Result.bind_eq_ok] at ok
    obtain ⟨⟨⟩, success, ⟨session, pinned⟩, pin, ok⟩ := ok
    have inTime : now < current.expiresAt := Int.not_le.mp (not_or.mp timely).1
    refine Or.inr ⟨session, pinned, inTime, ensure_ok.mp success, pin, ?_⟩
    split at ok <;> rename_i answer
    · exact Or.inl ⟨answer, (Result.pure_eq_ok.mp ok).symm⟩
    · exact Or.inr ⟨answer, ok⟩
    · simp [throw, throwThe, MonadExceptOf.throw] at ok

/-- A recorded answer carries the identity and the session the proof was pinned to, if any. -/
theorem pinProof_ok {now : Int} {proof : Json} {identity session : String}
    {current pinned : Pending} (ok : pinProof now proof identity current = .ok (session, pinned)) :
    (∀ known, current.hubIdentity = some known → known = identity) ∧
    (∀ known, current.sessionId = some known → known = session) ∧
    ∃ expires, pinned = { current with
      hubIdentity := some identity
      sessionId := some session
      expiresAt := min current.expiresAt expires } := by
  simp only [pinProof, Result.bind_eq_ok, require_ok, Result.pure_eq_ok, Prod.mk.injEq] at ok
  obtain ⟨⟨⟩, identified, _, -, expires, -, ⟨⟩, continued, rfl, rfl⟩ := ok
  have sameIdentity := (ensure_ok.mp identified).2
  have sameSession := ensure_ok.mp continued
  refine ⟨?_, ?_, expires, rfl⟩
  · intro known pinned
    simpa [pinned] using sameIdentity
  · intro known pinned
    simpa [pinned] using sameSession

/-- A bound answer retires the selection the route had and queues the new one as active. -/
theorem bindProof_ok {host : FleetHost} {now : Int} {generation identity session : String}
    {pending current : Pending} {proof : Json} {route bound : Route}
    (ok : bindProof host now generation pending proof identity session current route =
      .ok bound) :
    ∃ occurred confirmed retired, host.timestamp current.occurredAt = some occurred ∧
      (proof.index "binding_id").asStr = some session ∧
      (proof.index "confirmed_at").asI64 = some confirmed ∧
      occurred ≤ confirmed ∧ confirmed ≤ now + 60 ∧
      queueRouteUpdate now .retired { route with pending := some current } = .ok retired ∧
      queueRouteUpdate now .active { retired with
        active := some ⟨pending.hubId, identity, session, generation, now⟩
        pending := none } = .ok bound := by
  simp only [bindProof, Result.bind_eq_ok, require_ok] at ok
  obtain ⟨occurred, dated, ⟨⟩, checked, retired, first, second⟩ := ok
  obtain ⟨sameBinding, confirmation⟩ := ensure_ok.mp checked
  cases at_ : (proof.index "confirmed_at").asI64 with
  | none => simp [at_] at confirmation
  | some confirmed =>
      simp only [at_, Option.any_some, decide_eq_true_eq] at confirmation
      exact ⟨occurred, confirmed, retired, dated, sameBinding, rfl, confirmation.1,
        confirmation.2, first, second⟩

end NaviFleet

end HarborGate
