import HarborGate.Fleet.Proofs

/-!
The queue of route updates. Updates are keyed by generation and numbered by the route's revision,
and an update stays queued until its own acknowledgement, a newer one of its generation, or the
invalidation of its device.
-/

namespace HarborGate

namespace NaviFleet

/-- The updates a move added: those numbered above the route's revision before it. -/
def newUpdates (before after : Route) : List RouteUpdate :=
  (after.updates.toList.map Prod.snd).filter fun update => before.revision < update.revision

def FleetStep.queued (host : FleetHost) (step : FleetStep) (directory : Directory)
    (name : String) : List RouteUpdate :=
  newUpdates (routeOf directory name) (routeOf (step.apply host directory) name)

theorem mem_newUpdates {before after : Route} {update : RouteUpdate} :
    update ∈ newUpdates before after ↔
      (∃ generation : String, after.updates[generation]? = some update) ∧
        before.revision < update.revision := by
  simp only [newUpdates, List.mem_filter, List.mem_map, decide_eq_true_eq]
  constructor
  · rintro ⟨⟨⟨generation, _⟩, listed, rfl⟩, above⟩
    exact ⟨⟨generation, Std.TreeMap.mem_toList_iff_getElem?_eq_some.mp listed⟩, above⟩
  · rintro ⟨⟨generation, stored⟩, above⟩
    exact ⟨⟨(generation, update), Std.TreeMap.mem_toList_iff_getElem?_eq_some.mpr stored, rfl⟩,
      above⟩

/-! ## Capacity -/

/-- One place is kept free for the active generation, unless that generation is queued. -/
structure HasRoom (route : Route) : Prop where
  bounded : route.updates.size ≤ 64
  spare : ∀ selection, route.active = some selection →
    selection.generation ∉ route.updates → route.updates.size ≤ 63

theorem HasRoom.room {route : Route} (room : HasRoom route) (selection : Selection)
    (active : route.active = some selection) (full : 64 ≤ route.updates.size) :
    selection.generation ∈ route.updates := by
  by_contra absent
  have free := room.spare selection active absent
  omega

theorem HasRoom.congr {before after : Route} (room : HasRoom before)
    (active : after.active = before.active) (updates : after.updates = before.updates) :
    HasRoom after := by
  constructor
  · rw [updates]
    exact room.bounded
  · rw [updates, active]
    exact room.spare

theorem size_insert_present {updates : Std.TreeMap String RouteUpdate} {generation : String}
    {update : RouteUpdate} (present : generation ∈ updates) :
    (updates.insert generation update).size = updates.size := by
  simp [Std.TreeMap.size_insert, present]

/-- Whatever room a route had, queueing leaves some: the active generation is now queued. -/
theorem HasRoom.queue {now : Int} {status : RouteStatus} {route after : Route}
    (ok : queueRouteUpdate now status route = .ok after) (bounded : route.updates.size ≤ 64)
    (spare : route.active = none ∨ route.recipient = "" ∨ route.routeKey = "" → HasRoom route) :
    HasRoom after := by
  rcases queueRouteUpdate_cases ok with ⟨rfl, unaddressed⟩ | ⟨selection, active, -, room, rfl⟩
  · exact spare unaddressed
  · constructor
    · by_cases present : selection.generation ∈ route.updates
      · rw [size_insert_present present]
        exact bounded
      · have small : ¬64 ≤ route.updates.size := fun full => present (room full)
        simp [Std.TreeMap.size_insert, present]
        omega
    · intro other same absent
      rw [active] at same
      obtain rfl := Option.some.inj same
      simp at absent

/-- A proof or a selection is only ever held by a route that knows its phone. -/
structure Addressed (host : FleetHost) (name : String) (route : Route) : Prop where
  known : route.active.isSome ∨ route.pending.isSome →
    route.recipient ≠ "" ∧ route.routeKey ≠ ""
  named : route.recipient ≠ "" → host.key route.recipient route.routeKey = name

theorem Addressed.move {host : FleetHost} {step : FleetStep} {name : String}
    {before after : Route} (addressed : Addressed host name before)
    (move : RouteMove host step name before after) : Addressed host name after := by
  cases move with
  | keep | notified | updatePolled | acknowledged => exact ⟨addressed.known, addressed.named⟩
  | refreshed _ named read =>
      obtain ⟨⟨_, _, _⟩, read⟩ := read
      obtain ⟨-, -, user, key⟩ := readProof_recent read
      exact ⟨fun _ => ⟨user, key⟩, fun _ => named.symm⟩
  | installed _ named read _ _ queued =>
      obtain ⟨-, -, recipient, routeKey⟩ := queueRouteUpdate_frame queued
      obtain ⟨-, -, user, key⟩ := readProof_recent read
      constructor
      · rw [recipient, routeKey]
        exact fun _ => ⟨user, key⟩
      · rw [recipient, routeKey]
        exact fun _ => named.symm
  | lapsed _ present _ queued =>
      obtain ⟨-, -, recipient, routeKey⟩ := queueRouteUpdate_frame queued
      constructor
      · rw [recipient, routeKey]
        exact fun _ => addressed.known (Or.inr (by simp [present]))
      · rw [recipient, routeKey]
        exact addressed.named
  | polled _ present =>
      exact ⟨fun _ => addressed.known (Or.inr (by simp [present])), addressed.named⟩
  | finished _ _ present _ finishing =>
      obtain ⟨-, -, recipient, routeKey⟩ := finishRoute_frame finishing
      constructor
      · rw [recipient, routeKey]
        exact fun _ => addressed.known (Or.inr (by simp [present]))
      · rw [recipient, routeKey]
        exact addressed.named
  | invalidated =>
      refine ⟨fun held => addressed.known (held.imp ?_ ?_), addressed.named⟩
      · simp only [invalidateRoute]
        cases before.active <;> simp
      · simp only [invalidateRoute]
        cases before.pending <;> simp

theorem HasRoom.move {host : FleetHost} {step : FleetStep} {name : String} {before after : Route}
    (addressed : Addressed host name before) (room : HasRoom before)
    (move : RouteMove host step name before after) : HasRoom after := by
  have cleared : HasRoom { before with pending := none } := room.congr rfl rfl
  cases move with
  | keep | notified | refreshed | polled => exact room.congr rfl rfl
  | installed _ _ _ _ _ queued =>
      exact HasRoom.queue queued room.bounded fun _ => room.congr rfl rfl
  | lapsed _ _ _ queued => exact HasRoom.queue queued room.bounded fun _ => cleared
  | finished _ _ present _ finishing =>
      rcases finishRoute_cases finishing with
        ⟨-, queued⟩ | ⟨session, pinned, -, -, pin, ⟨-, rfl⟩ | ⟨-, bound⟩⟩
      · exact HasRoom.queue queued room.bounded fun _ => cleared
      · exact room.congr rfl rfl
      · obtain ⟨_, _, retired, -, -, -, -, -, first, second⟩ := bindProof_ok bound
        have middle : HasRoom retired :=
          HasRoom.queue first room.bounded fun _ => room.congr rfl rfl
        obtain ⟨-, -, recipient, routeKey⟩ := queueRouteUpdate_frame first
        refine HasRoom.queue second middle.bounded ?_
        -- A pending proof means the route knows its phone, so the new selection is queued.
        obtain ⟨user, key⟩ := addressed.known (Or.inr (by simp [present]))
        rintro (none_active | blank | blank)
        · simp at none_active
        · exact absurd (recipient.symm.trans blank) user
        · exact absurd (routeKey.symm.trans blank) key
  | @invalidated selection =>
      have shrinks : (before.updates.filter fun _ update =>
          !Selection.matches selection update.selection).size ≤ before.updates.size :=
        Std.TreeMap.size_filter_le_size
      constructor
      · exact shrinks.trans room.bounded
      · intro other active absent
        simp only [invalidateRoute, Option.filter_eq_some_iff] at active
        by_cases queued : other.generation ∈ before.updates
        · -- Its update was dropped, which freed a place.
          have fewer : (before.updates.filter fun _ update =>
              !Selection.matches selection update.selection).size ≠ before.updates.size := by
            intro same
            have unchanged := Std.TreeMap.filter_equiv_self_iff.mpr
              (Std.TreeMap.size_filter_eq_size_iff.mp same)
            exact absent (unchanged.mem_iff.mpr queued)
          have bounded := room.bounded
          show (before.updates.filter _).size ≤ 63
          omega
        · exact shrinks.trans (room.spare other active.1 queued)
  | updatePolled _ stored =>
      rename_i generation update _
      have present : generation ∈ before.updates := by
        rw [Std.TreeMap.mem_iff_isSome_getElem?, stored]
        rfl
      constructor
      · show (before.updates.insert _ _).size ≤ 64
        rw [size_insert_present present]
        exact room.bounded
      · intro other active absent
        show (before.updates.insert _ _).size ≤ 63
        rw [size_insert_present present]
        refine room.spare other active fun queued => absent ?_
        exact Std.TreeMap.mem_insert.mpr (Or.inr queued)
  | @acknowledged update _ _ _ _ _ stored _ _ =>
      have present : update.selection.generation ∈ before.updates := by
        rw [Std.TreeMap.mem_iff_isSome_getElem?, stored]
        rfl
      have dropped : (before.updates.erase update.selection.generation).size =
          before.updates.size - 1 := by
        simp [Std.TreeMap.size_erase, present]
      have bounded := room.bounded
      constructor
      · show (before.updates.erase _).size ≤ 64
        omega
      · intro _ _ _
        show (before.updates.erase _).size ≤ 63
        omega

theorem runFleet_isAddressed (host : FleetHost) (steps : List FleetStep) (name : String) :
    Addressed host name (routeOf (runFleet host steps ∅) name) := by
  refine runFleet_route host (fun _ _ _ addressed move => Addressed.move addressed move) steps ∅ ?_
  rw [routeOf_empty]
  constructor <;> simp [Route.default]

/-- A property that every move keeps on an addressed route holds along every run. -/
theorem runFleet_addressed (host : FleetHost) {name : String} {P : Route → Prop}
    (start : P Route.default)
    (keeps : ∀ step before after, Addressed host name before → P before →
      RouteMove host step name before after → P after) (steps : List FleetStep) :
    P (routeOf (runFleet host steps ∅) name) := by
  induction steps using List.reverseRecOn with
  | nil => simpa [runFleet] using start
  | append_singleton steps step ih =>
      rw [runFleet_snoc]
      exact keeps step _ _ (runFleet_isAddressed host steps name) ih
        (step.apply_moves host _ name)

theorem runFleet_hasRoom (host : FleetHost) (steps : List FleetStep) (name : String) :
    HasRoom (routeOf (runFleet host steps ∅) name) := by
  refine runFleet_addressed host ?_ (fun _ _ _ => fun addressed room => room.move addressed)
    steps
  constructor <;> simp [Route.default]

theorem queue_capacity_suffices (host : FleetHost) (steps : List FleetStep) :
    (∀ name, (routeOf (runFleet host steps ∅) name).updates.size ≤ 64 ∧
      ∀ selection, (routeOf (runFleet host steps ∅) name).active = some selection →
        selection.generation ∉ (routeOf (runFleet host steps ∅) name).updates →
        (routeOf (runFleet host steps ∅) name).updates.size ≤ 63) ∧
    (∀ now error, claim now (runFleet host steps ∅) = .error error →
      ∃ name, maxRevision ≤ (routeOf (runFleet host steps ∅) name).revision) ∧
    (∀ now generation pending status proof identity current,
      (routeOf (runFleet host steps ∅)
        (host.key pending.recipient pending.routeKey)).pending = some current →
      current.id = pending.id →
      current.expiresAt ≤ now ∨ status ∈ [400, 401, 403, 404, 410, 422] →
      (∃ after, finish host now generation pending status proof identity
        (runFleet host steps ∅) = .ok after) ∨
      maxRevision ≤ (routeOf (runFleet host steps ∅)
        (host.key pending.recipient pending.routeKey)).revision) ∧
    ∀ now incoming proof,
      (∃ after, queueRouteUpdate now .paused (acceptProof host now incoming proof
        (refreshRoute now incoming (routeOf (runFleet host steps ∅)
          (host.key incoming.userId incoming.routeKey)))) = .ok after) ∨
      maxRevision ≤ (routeOf (runFleet host steps ∅)
        (host.key incoming.userId incoming.routeKey)).revision := by
  have room := runFleet_hasRoom host steps
  have queues : ∀ now status name route,
      route.active = (routeOf (runFleet host steps ∅) name).active →
      route.updates = (routeOf (runFleet host steps ∅) name).updates →
      route.revision = (routeOf (runFleet host steps ∅) name).revision →
      (∃ after, queueRouteUpdate now status route = .ok after) ∨
        maxRevision ≤ (routeOf (runFleet host steps ∅) name).revision := by
    intro now status name route active updates revision
    by_cases exhausted : maxRevision ≤ (routeOf (runFleet host steps ∅) name).revision
    · exact Or.inr exhausted
    · refine Or.inl (queueRouteUpdate_succeeds now status route ?_ (by omega))
      exact ((room name).congr active updates).room
  refine ⟨fun name => ⟨(room name).bounded, (room name).spare⟩, ?_, ?_, ?_⟩
  · intro now error failed
    by_contra below
    push Not at below
    have sweeps : ∃ after, updateRoutes (dropLapsedProof now) (runFleet host steps ∅) =
        .ok after := by
      refine updateRoutes_succeeds ?_
      intro name route stored
      have here := routeOf_of_stored stored
      simp only [dropLapsedProof]
      split
      · rcases queues now .active name { route with pending := none } (by rw [here])
          (by rw [here]) (by rw [here]) with ok | exhausted
        · exact ok
        · have enough := below name
          omega
      · exact ⟨route, rfl⟩
    obtain ⟨swept, sweep⟩ := sweeps
    simp only [claim, sweep, bind, Except.bind] at failed
    split at failed
    · simp [pure, Except.pure] at failed
    · simp [pure, Except.pure] at failed
  · intro now generation pending status proof identity current known same refused
    obtain ⟨route, stored⟩ : ∃ route, (runFleet host steps ∅)[
        host.key pending.recipient pending.routeKey]? = some route := by
      cases stored : (runFleet host steps ∅)[host.key pending.recipient pending.routeKey]? with
      | none => simp [routeOf, stored, Route.default] at known
      | some route => exact ⟨route, rfl⟩
    have here := routeOf_of_stored stored
    rw [here] at known
    have room := queues now .active _ { route with pending := none } (by rw [here]) (by rw [here])
      (by rw [here])
    rcases room with ⟨finished, queued⟩ | exhausted
    · refine Or.inl ⟨(runFleet host steps ∅).insert
        (host.key pending.recipient pending.routeKey) finished, ?_⟩
      simp only [finish, Result.bind_eq_ok, require_ok]
      refine ⟨route, stored, ?_⟩
      have matched : route.pending.filter (fun item => decide (item.id = pending.id)) =
          some current := by
        simp [Option.filter_eq_some_iff, known, same]
      simp only [matched, finishRoute, if_pos refused, queued, bind, Except.bind, pure, Except.pure]
    · exact Or.inr exhausted
  · intro now incoming proof
    exact queues now .paused _ _ rfl rfl rfl

/-! ## Order -/

/-- The queue of one route: numbered below its revision, one generation an update. -/
structure Numbered (host : FleetHost) (name : String) (route : Route) : Prop where
  bounded : ∀ (generation : String) update, route.updates[generation]? = some update →
    update.revision ≤ route.revision
  keyed : ∀ (generation : String) update, route.updates[generation]? = some update →
    update.selection.generation = generation ∧ host.key update.recipient update.routeKey = name
  distinct : ∀ (left right : String) first second, route.updates[left]? = some first →
    route.updates[right]? = some second → first.revision = second.revision → left = right

theorem Numbered.of_entries {host : FleetHost} {name : String} {before after : Route}
    (numbered : Numbered host name before) (revision : after.revision = before.revision)
    (entries : ∀ (generation : String) update, after.updates[generation]? = some update →
      ∃ old next, before.updates[generation]? = some old ∧ update = { old with nextPoll := next }) :
    Numbered host name after := by
  constructor
  · intro generation update stored
    obtain ⟨old, _, known, rfl⟩ := entries generation update stored
    rw [revision]
    exact numbered.bounded generation old known
  · intro generation update stored
    obtain ⟨old, _, known, rfl⟩ := entries generation update stored
    exact numbered.keyed generation old known
  · intro left right first second leftStored rightStored same
    obtain ⟨firstOld, _, leftKnown, rfl⟩ := entries left first leftStored
    obtain ⟨secondOld, _, rightKnown, rfl⟩ := entries right second rightStored
    exact numbered.distinct left right firstOld secondOld leftKnown rightKnown same

theorem Numbered.congr {host : FleetHost} {name : String} {before after : Route}
    (numbered : Numbered host name before) (revision : after.revision = before.revision)
    (updates : after.updates = before.updates) : Numbered host name after := by
  refine numbered.of_entries revision fun generation update stored => ?_
  exact ⟨update, update.nextPoll, updates ▸ stored, rfl⟩

theorem Numbered.queue {host : FleetHost} {name : String} {now : Int} {status : RouteStatus}
    {route after : Route} (ok : queueRouteUpdate now status route = .ok after)
    (numbered : Numbered host name route)
    (named : route.recipient ≠ "" → host.key route.recipient route.routeKey = name) :
    Numbered host name after := by
  rcases queueRouteUpdate_cases ok with ⟨rfl, -⟩ | ⟨selection, active, addressed, -, rfl⟩
  · exact numbered
  have older : ∀ (generation : String) update, route.updates[generation]? = some update →
      update.revision ≠ route.revision + 1 := by
    intro generation update stored
    have bound := numbered.bounded generation update stored
    omega
  constructor
  · intro generation update stored
    simp only [Std.TreeMap.getElem?_insert, Std.LawfulEqCmp.compare_eq_iff_eq] at stored
    split at stored
    · obtain rfl := Option.some.inj stored
      exact Nat.le_refl _
    · exact Nat.le_succ_of_le (numbered.bounded generation update stored)
  · intro generation update stored
    simp only [Std.TreeMap.getElem?_insert, Std.LawfulEqCmp.compare_eq_iff_eq] at stored
    split at stored
    · rename_i same
      obtain rfl := Option.some.inj stored
      exact ⟨same, named addressed⟩
    · exact numbered.keyed generation update stored
  · intro left right first second leftStored rightStored same
    simp only [Std.TreeMap.getElem?_insert, Std.LawfulEqCmp.compare_eq_iff_eq]
      at leftStored rightStored
    split at leftStored <;> split at rightStored
    · simp_all
    · obtain rfl := Option.some.inj leftStored
      exact absurd same.symm (older right second rightStored)
    · obtain rfl := Option.some.inj rightStored
      exact absurd same (older left first leftStored)
    · exact numbered.distinct left right first second leftStored rightStored same

theorem Numbered.move {host : FleetHost} {step : FleetStep} {name : String} {before after : Route}
    (addressed : Addressed host name before) (numbered : Numbered host name before)
    (move : RouteMove host step name before after) : Numbered host name after := by
  cases move with
  | keep | notified | refreshed | polled => exact numbered.congr rfl rfl
  | installed _ named _ _ _ queued =>
      exact Numbered.queue queued (numbered.congr rfl rfl) fun _ => named.symm
  | lapsed _ _ _ queued => exact Numbered.queue queued (numbered.congr rfl rfl) addressed.named
  | finished _ _ _ _ finishing =>
      rcases finishRoute_cases finishing with
        ⟨-, queued⟩ | ⟨session, pinned, -, -, pin, ⟨-, rfl⟩ | ⟨-, bound⟩⟩
      · exact Numbered.queue queued (numbered.congr rfl rfl) addressed.named
      · exact numbered.congr rfl rfl
      · obtain ⟨_, _, retired, -, -, -, -, -, first, second⟩ := bindProof_ok bound
        have middle : Numbered host name retired :=
          Numbered.queue first (numbered.congr rfl rfl) addressed.named
        obtain ⟨-, -, recipient, routeKey⟩ := queueRouteUpdate_frame first
        refine Numbered.queue second (middle.congr rfl rfl) ?_
        simp only [recipient, routeKey]
        exact addressed.named
  | invalidated =>
      refine numbered.of_entries rfl fun generation update stored => ?_
      simp only [invalidateRoute, Std.TreeMap.getElem?_filter', Option.filter_eq_some_iff] at stored
      exact ⟨update, update.nextPoll, stored.1, rfl⟩
  | @updatePolled polled update _ known =>
      refine numbered.of_entries rfl fun generation entry stored => ?_
      simp only [Std.TreeMap.getElem?_insert, Std.LawfulEqCmp.compare_eq_iff_eq] at stored
      split at stored
      · rename_i same
        obtain rfl := Option.some.inj stored
        exact ⟨update, _, same ▸ known, rfl⟩
      · exact ⟨entry, entry.nextPoll, stored, rfl⟩
  | acknowledged =>
      refine numbered.of_entries rfl fun generation entry stored => ?_
      simp only [Std.TreeMap.getElem?_erase, Std.LawfulEqCmp.compare_eq_iff_eq] at stored
      split at stored
      · simp at stored
      · exact ⟨entry, entry.nextPoll, stored, rfl⟩

theorem runFleet_numbered (host : FleetHost) (steps : List FleetStep) (name : String) :
    Numbered host name (routeOf (runFleet host steps ∅) name) := by
  refine runFleet_addressed host ?_ (fun _ _ _ => fun addressed numbered => numbered.move addressed) steps
  constructor <;> simp [Route.default]

/-- Queueing renumbers nothing: an update keeps its entry, or a newer one replaces it. -/
theorem queueRouteUpdate_entries {now : Int} {status : RouteStatus} {route after : Route}
    (ok : queueRouteUpdate now status route = .ok after) :
    route.revision ≤ after.revision ∧
    (∀ (generation : String) update, route.updates[generation]? = some update →
      ∃ later, after.updates[generation]? = some later ∧
        (later = update ∨ route.revision < later.revision)) ∧
    ∀ (generation : String) update, after.updates[generation]? = some update →
      route.updates[generation]? = some update ∨ route.revision < update.revision := by
  rcases queueRouteUpdate_cases ok with ⟨rfl, -⟩ | ⟨selection, -, -, -, rfl⟩
  · exact ⟨Nat.le_refl _, fun _ update stored => ⟨update, stored, Or.inl rfl⟩,
      fun _ _ stored => Or.inl stored⟩
  refine ⟨Nat.le_succ _, ?_, ?_⟩
  · intro generation update stored
    by_cases same : selection.generation = generation
    · refine ⟨_, by rw [same]; exact Std.TreeMap.getElem?_insert_self, Or.inr ?_⟩
      exact Nat.lt_succ_self _
    · exact ⟨update, by simp [Std.TreeMap.getElem?_insert, same, stored], Or.inl rfl⟩
  · intro generation update stored
    simp only [Std.TreeMap.getElem?_insert, Std.LawfulEqCmp.compare_eq_iff_eq] at stored
    split at stored
    · obtain rfl := Option.some.inj stored
      exact Or.inr (Nat.lt_succ_self _)
    · exact Or.inl stored

/-- An update that a move does not keep was replaced by a newer one, acknowledged, or belonged to
an invalidated device. -/
theorem RouteMove.entry_cases {host : FleetHost} {step : FleetStep} {name generation : String}
    {before after : Route} {update : RouteUpdate} (move : RouteMove host step name before after)
    (stored : before.updates[generation]? = some update) :
    (∃ later next, after.updates[generation]? = some later ∧
      (later = { update with nextPoll := next } ∨ before.revision < later.revision)) ∨
    (∃ claimed status receipt, step.op = .finishRouteUpdate claimed status receipt ∧
      name = host.key claimed.recipient claimed.routeKey ∧
      claimed.selection.generation = generation ∧ claimed.revision = update.revision ∧
      Settles claimed status receipt) ∨
    ∃ selection, step.op = .invalidateIdentity selection ∧
      Selection.matches selection update.selection = true := by
  have queue : ∀ {now status after} {route : Route},
      queueRouteUpdate now status route = .ok after →
      route.updates = before.updates → route.revision = before.revision →
      ∃ later next, after.updates[generation]? = some later ∧
        (later = { update with nextPoll := next } ∨ before.revision < later.revision) := by
    intro now status after route queued updates revision
    obtain ⟨later, found, kept⟩ :=
      (queueRouteUpdate_entries queued).2.1 generation update (updates ▸ stored)
    exact ⟨later, update.nextPoll, found, kept.imp id (revision ▸ ·)⟩
  cases move with
  | keep | notified | refreshed | polled =>
      exact Or.inl ⟨update, update.nextPoll, stored, Or.inl rfl⟩
  | installed _ _ _ _ _ queued => exact Or.inl (queue queued rfl rfl)
  | lapsed _ _ _ queued => exact Or.inl (queue queued rfl rfl)
  | finished _ _ _ _ finishing =>
      rcases finishRoute_cases finishing with
        ⟨-, queued⟩ | ⟨session, pinned, -, -, pin, ⟨-, rfl⟩ | ⟨-, bound⟩⟩
      · exact Or.inl (queue queued rfl rfl)
      · exact Or.inl ⟨update, update.nextPoll, stored, Or.inl rfl⟩
      · obtain ⟨_, _, retired, -, -, -, -, -, first, second⟩ := bindProof_ok bound
        obtain ⟨middle, next, found, kept⟩ := queue first rfl rfl
        have onward := (queueRouteUpdate_entries first).1
        obtain ⟨later, present, again⟩ :=
          (queueRouteUpdate_entries second).2.1 generation middle found
        rcases again with rfl | newer
        · exact Or.inl ⟨later, next, present, kept⟩
        · exact Or.inl ⟨later, next, present, Or.inr (Nat.lt_of_le_of_lt onward newer)⟩
  | @invalidated selection performed =>
      by_cases gone : Selection.matches selection update.selection = true
      · exact Or.inr (Or.inr ⟨selection, performed, gone⟩)
      · refine Or.inl ⟨update, update.nextPoll, ?_, Or.inl rfl⟩
        simp [invalidateRoute, stored, gone]
  | @updatePolled polled entry _ known =>
      by_cases same : polled = generation
      · subst same
        obtain rfl := Option.some.inj (known.symm.trans stored)
        exact Or.inl ⟨_, step.now + 10, Std.TreeMap.getElem?_insert_self, Or.inl rfl⟩
      · exact Or.inl ⟨update, update.nextPoll,
          by simp [Std.TreeMap.getElem?_insert, same, stored], Or.inl rfl⟩
  | @acknowledged claimed status receipt current performed named known revision settles =>
      by_cases same : claimed.selection.generation = generation
      · subst same
        obtain rfl := Option.some.inj (known.symm.trans stored)
        exact Or.inr (Or.inl ⟨claimed, status, receipt, performed, named, rfl, revision.symm,
          settles⟩)
      · exact Or.inl ⟨update, update.nextPoll,
          by simp [Std.TreeMap.getElem?_erase, same, stored], Or.inl rfl⟩

/-- Every entry after a move is an entry before it, polled or not, or newly numbered. -/
theorem RouteMove.entry_origin {host : FleetHost} {step : FleetStep} {name : String}
    {before after : Route} (move : RouteMove host step name before after) :
    before.revision ≤ after.revision ∧
    ∀ (generation : String) update, after.updates[generation]? = some update →
      (∃ old next, before.updates[generation]? = some old ∧
        update = { old with nextPoll := next }) ∨ before.revision < update.revision := by
  have queue : ∀ {now status after} {route : Route},
      queueRouteUpdate now status route = .ok after →
      route.updates = before.updates → route.revision = before.revision →
      before.revision ≤ after.revision ∧
      ∀ (generation : String) update, after.updates[generation]? = some update →
        (∃ old next, before.updates[generation]? = some old ∧
          update = { old with nextPoll := next }) ∨ before.revision < update.revision := by
    intro now status after route queued updates revision
    obtain ⟨onward, -, origin⟩ := queueRouteUpdate_entries queued
    refine ⟨revision ▸ onward, fun generation update stored => ?_⟩
    rcases origin generation update stored with known | newer
    · exact Or.inl ⟨update, update.nextPoll, updates ▸ known, rfl⟩
    · exact Or.inr (revision ▸ newer)
  have kept : ∀ {after : Route}, after.revision = before.revision →
      (∀ (generation : String) update, after.updates[generation]? = some update →
        ∃ old next, before.updates[generation]? = some old ∧
          update = { old with nextPoll := next }) →
      before.revision ≤ after.revision ∧
      ∀ (generation : String) update, after.updates[generation]? = some update →
        (∃ old next, before.updates[generation]? = some old ∧
          update = { old with nextPoll := next }) ∨ before.revision < update.revision :=
    fun revision entries => ⟨revision.ge, fun generation update stored =>
      Or.inl (entries generation update stored)⟩
  cases move with
  | keep | notified | refreshed | polled =>
      exact kept rfl fun _ update stored => ⟨update, update.nextPoll, stored, rfl⟩
  | installed _ _ _ _ _ queued => exact queue queued rfl rfl
  | lapsed _ _ _ queued => exact queue queued rfl rfl
  | finished _ _ _ _ finishing =>
      rcases finishRoute_cases finishing with
        ⟨-, queued⟩ | ⟨session, pinned, -, -, pin, ⟨-, rfl⟩ | ⟨-, bound⟩⟩
      · exact queue queued rfl rfl
      · exact kept rfl fun _ update stored => ⟨update, update.nextPoll, stored, rfl⟩
      · obtain ⟨_, _, retired, -, -, -, -, -, first, second⟩ := bindProof_ok bound
        obtain ⟨onward, origin⟩ := queue first rfl rfl
        obtain ⟨further, -, later⟩ := queueRouteUpdate_entries second
        refine ⟨onward.trans further, fun generation update stored => ?_⟩
        rcases later generation update stored with known | newer
        · exact origin generation update known
        · exact Or.inr (Nat.lt_of_le_of_lt onward newer)
  | invalidated =>
      refine kept rfl fun generation update stored => ?_
      simp only [invalidateRoute, Std.TreeMap.getElem?_filter', Option.filter_eq_some_iff] at stored
      exact ⟨update, update.nextPoll, stored.1, rfl⟩
  | @updatePolled polled update _ known =>
      refine kept rfl fun generation entry stored => ?_
      simp only [Std.TreeMap.getElem?_insert, Std.LawfulEqCmp.compare_eq_iff_eq] at stored
      split at stored
      · rename_i same
        obtain rfl := Option.some.inj stored
        exact ⟨update, _, same ▸ known, rfl⟩
      · exact ⟨entry, entry.nextPoll, stored, rfl⟩
  | acknowledged =>
      refine kept rfl fun generation entry stored => ?_
      simp only [Std.TreeMap.getElem?_erase, Std.LawfulEqCmp.compare_eq_iff_eq] at stored
      split at stored
      · simp at stored
      · exact ⟨entry, entry.nextPoll, stored, rfl⟩

theorem runFleet_revision_le (host : FleetHost) (name : String) (steps : List FleetStep) :
    ∀ directory, (routeOf directory name).revision ≤
      (routeOf (runFleet host steps directory) name).revision := by
  intro directory
  exact runFleet_route host
    (P := fun route => (routeOf directory name).revision ≤ route.revision)
    (fun _ _ _ onward move => onward.trans move.entry_origin.1) steps directory (Nat.le_refl _)

/-- No update of the route carries the number of `claimed` but `claimed` itself. -/
structure Issued (claimed : RouteUpdate) (route : Route) : Prop where
  numbered : claimed.revision ≤ route.revision
  only : ∀ (generation : String) update, route.updates[generation]? = some update →
    update.revision = claimed.revision → { update with nextPoll := claimed.nextPoll } = claimed

theorem Issued.move {host : FleetHost} {step : FleetStep} {name : String} {before after : Route}
    {claimed : RouteUpdate} (issued : Issued claimed before)
    (move : RouteMove host step name before after) : Issued claimed after := by
  obtain ⟨onward, origin⟩ := move.entry_origin
  refine ⟨issued.numbered.trans onward, ?_⟩
  intro generation update stored same
  rcases origin generation update stored with ⟨old, next, known, rfl⟩ | newer
  · exact issued.only generation old known same
  · have known := issued.numbered
    omega

/-- The update that a `claim_route_update` of the run answered with. -/
def FleetStep.claimed? (host : FleetHost) (step : FleetStep) (directory : Directory) :
    Option RouteUpdate :=
  match step.outcome host directory with
  | .ok (.update due, _) => due
  | _ => none

theorem claimRouteUpdate_due {now : Int} {directory : Directory} {claimed : RouteUpdate}
    (due : (claimRouteUpdate now directory).1 = some claimed) :
    ∃ (name : String) (route : Route) (generation : String) (update : RouteUpdate),
      directory[name]? = some route ∧ route.updates[generation]? = some update ∧
        claimed = { update with nextPoll := now + 10 } := by
  simp only [claimRouteUpdate] at due
  split at due
  · simp at due
  · rename_i name route generation update found
    have member := minByKey_mem found
    simp only [List.mem_flatMap, List.mem_map, List.mem_filter, Prod.mk.injEq] at member
    obtain ⟨⟨_, _⟩, listed, ⟨_, _⟩, ⟨queued, -⟩, rfl, rfl, rfl, rfl⟩ := member
    exact ⟨_, _, _, _, Std.TreeMap.mem_toList_iff_getElem?_eq_some.mp listed,
      Std.TreeMap.mem_toList_iff_getElem?_eq_some.mp queued, (Option.some.inj due).symm⟩

/-- A claimed update is the one its route holds under that number. -/
theorem FleetStep.claimed?_issued {host : FleetHost} {step : FleetStep} {directory : Directory}
    {claimed : RouteUpdate}
    (numbered : ∀ name, Numbered host name (routeOf directory name))
    (due : step.claimed? host directory = some claimed) :
    Issued claimed (routeOf directory (host.key claimed.recipient claimed.routeKey)) := by
  simp only [FleetStep.claimed?] at due
  split at due
  · rename_i answer after ok
    subst due
    obtain ⟨now, op, written⟩ := step
    simp only [FleetStep.outcome] at ok
    split at ok
    · cases op with
      | claimRouteUpdate =>
          simp only [FleetStep.transact, Result.pure_eq_ok, Prod.mk.injEq,
            FleetAnswer.update.injEq] at ok
          obtain ⟨name, route, generation, update, stored, queued, rfl⟩ :=
            claimRouteUpdate_due ok.1
          have here := numbered name
          rw [routeOf_of_stored stored] at here
          obtain ⟨-, addressed⟩ := here.keyed generation update queued
          have same : routeOf directory (host.key update.recipient update.routeKey) = route := by
            rw [addressed]
            exact routeOf_of_stored stored
          simp only [same]
          refine ⟨here.bounded generation update queued, ?_⟩
          intro other entry present equal
          have sameKey := here.distinct other generation entry update present queued equal
          subst sameKey
          obtain rfl := Option.some.inj (present.symm.trans queued)
          rfl
      | begin | claim | finish | invalidateIdentity | notificationTarget | select | check
      | finishRouteUpdate =>
          simp only [FleetStep.transact, Result.bind_eq_ok, Result.pure_eq_ok, Prod.mk.injEq,
            reduceCtorEq, false_and, and_false, exists_false] at ok
    · simp at ok
  · simp at due

theorem route_updates_are_ordered (host : FleetHost) (steps : List FleetStep) :
    (∀ before first middle second after name earlier later,
      steps = before ++ first :: middle ++ second :: after →
      earlier ∈ first.queued host (runFleet host before ∅) name →
      later ∈ second.queued host (runFleet host (before ++ first :: middle) ∅) name →
      earlier.revision < later.revision) ∧
    (∀ before step after name left right, steps = before ++ step :: after →
      left ∈ step.queued host (runFleet host before ∅) name →
      right ∈ step.queued host (runFleet host before ∅) name →
      left.revision = right.revision → left = right) ∧
    ∀ before step after name generation update, steps = before ++ step :: after →
      (routeOf (runFleet host before ∅) name).updates[generation]? = some update →
      (∀ later,
        (routeOf (runFleet host (before ++ [step]) ∅) name).updates[generation]? = some later →
        later.revision ≠ update.revision) →
      (∃ claimed status receipt, step.op = .finishRouteUpdate claimed status receipt ∧
        name = host.key claimed.recipient claimed.routeKey ∧
        claimed.selection.generation = generation ∧ claimed.revision = update.revision ∧
        Settles claimed status receipt ∧
        ∀ earlier claim since, before = earlier ++ claim :: since →
          claim.claimed? host (runFleet host earlier ∅) = some claimed →
          { update with nextPoll := claimed.nextPoll } = claimed) ∨
      (∃ later,
        (routeOf (runFleet host (before ++ [step]) ∅) name).updates[generation]? = some later ∧
        update.revision < later.revision) ∨
      ∃ selection, step.op = .invalidateIdentity selection ∧
        Selection.matches selection update.selection = true := by
  refine ⟨?_, ?_, ?_⟩
  · rintro before first middle second after name earlier later - queued again
    obtain ⟨⟨generation, stored⟩, -⟩ := mem_newUpdates.mp queued
    obtain ⟨-, above⟩ := mem_newUpdates.mp again
    rw [← runFleet_snoc] at stored
    have bounded := (runFleet_numbered host (before ++ [first]) name).bounded _ _ stored
    have onward := runFleet_revision_le host name middle (runFleet host (before ++ [first]) ∅)
    rw [← runFleet_append, List.append_assoc, List.singleton_append] at onward
    omega
  · rintro before step after name left right - leftQueued rightQueued same
    obtain ⟨⟨first, leftStored⟩, -⟩ := mem_newUpdates.mp leftQueued
    obtain ⟨⟨second, rightStored⟩, -⟩ := mem_newUpdates.mp rightQueued
    rw [← runFleet_snoc] at leftStored rightStored
    have sameKey := (runFleet_numbered host (before ++ [step]) name).distinct _ _ _ _
      leftStored rightStored same
    subst sameKey
    exact Option.some.inj (leftStored.symm.trans rightStored)
  · rintro before step after name generation update - stored gone
    rw [runFleet_snoc] at gone ⊢
    have bounded := (runFleet_numbered host before name).bounded _ _ stored
    rcases (step.apply_moves host _ name).entry_cases stored with
      ⟨later, next, found, rfl | newer⟩ |
      ⟨claimed, status, receipt, performed, rfl, key, revision, settles⟩ | invalidated
    · have renumbered := gone _ found
      exact absurd rfl renumbered
    · exact Or.inr (Or.inl ⟨later, found, by omega⟩)
    · refine Or.inl ⟨claimed, status, receipt, performed, rfl, key, revision, settles, ?_⟩
      rintro earlier claim since rfl due
      have issued := FleetStep.claimed?_issued (runFleet_numbered host earlier) due
      have kept := runFleet_route host (fun _ _ _ issued move => Issued.move issued move)
        (claim :: since) _ issued
      rw [← runFleet_append] at kept
      exact kept.only generation update stored revision.symm
    · exact Or.inr (Or.inr invalidated)

end NaviFleet

end HarborGate
