import HarborGate.Fleet.Moves

/-!
The proof a phone sends: when a route accepts it, what later answers of the device may do with
it, and how it becomes the active selection.
-/

namespace HarborGate

namespace NaviFleet

/-- A `begin` that installs a pending proof on the route: the hub, the token and the second of its
message. A replayed proof succeeds without installing one. -/
def FleetStep.install? (host : FleetHost) (step : FleetStep) (directory : Directory)
    (name : String) : Option (String × String × Int) :=
  match step.op with
  | .begin checkedAt incoming =>
      match step.outcome host directory, readProof host checkedAt incoming with
      | .ok _, .ok (hub, token, occurred) =>
          if name = host.key incoming.userId incoming.routeKey ∧
              ¬(refreshRoute step.now incoming (routeOf directory name)).seen.contains
                (host.proofId hub token) then
            some (hub, token, occurred)
          else none
      | _, _ => none
  | _ => none

/-- The device identity and the session that a successful poll of the route's pending proof
recorded in it. -/
def FleetStep.recorded? (host : FleetHost) (step : FleetStep) (directory : Directory)
    (name : String) : Option (String × String) :=
  match step.op with
  | .finish _ pending _ _ _ =>
      match step.outcome host directory with
      | .ok (_, after) =>
          if name = host.key pending.recipient pending.routeKey ∧
              (routeOf directory name).pending.any (·.id == pending.id) then do
            let recorded ← (routeOf after name).pending
            return (← recorded.hubIdentity, ← recorded.sessionId)
          else none
      | .error _ => none
  | _ => none

theorem runFleet_snoc (host : FleetHost) (steps : List FleetStep) (step : FleetStep)
    (directory : Directory) :
    runFleet host (steps ++ [step]) directory =
      step.apply host (runFleet host steps directory) := by
  simp [runFleet]

theorem runFleet_cons (host : FleetHost) (step : FleetStep) (steps : List FleetStep)
    (directory : Directory) :
    runFleet host (step :: steps) directory =
      runFleet host steps (step.apply host directory) := rfl

/-- A property of one route that every move keeps holds along every run. -/
theorem runFleet_route (host : FleetHost) {name : String} {P : Route → Prop}
    (keeps : ∀ step before after, P before → RouteMove host step name before after → P after)
    (steps : List FleetStep) : ∀ directory, P (routeOf directory name) →
      P (routeOf (runFleet host steps directory) name) := by
  induction steps with
  | nil => exact fun _ holds => holds
  | cons step rest ih =>
      intro directory holds
      exact ih _ (keeps step _ _ holds (step.apply_moves host directory name))

/-! ## Acceptance -/

theorem queueRouteUpdate_frame {now : Int} {status : RouteStatus} {route after : Route}
    (ok : queueRouteUpdate now status route = .ok after) :
    after.seen = route.seen ∧ after.newestProofAt = route.newestProofAt ∧
      after.recipient = route.recipient ∧ after.routeKey = route.routeKey := by
  rcases queueRouteUpdate_cases ok with ⟨rfl, -⟩ | ⟨_, -, -, -, rfl⟩
  · exact ⟨rfl, rfl, rfl, rfl⟩
  · exact ⟨rfl, rfl, rfl, rfl⟩

theorem finishRoute_frame {host : FleetHost} {now : Int} {generation identity : String}
    {pending current : Pending} {status : Nat} {proof : Json} {route finished : Route}
    (ok : finishRoute host now generation pending status proof identity current route =
      .ok finished) :
    finished.seen = route.seen ∧ finished.newestProofAt = route.newestProofAt ∧
      finished.recipient = route.recipient ∧ finished.routeKey = route.routeKey := by
  rcases finishRoute_cases ok with
    ⟨-, queued⟩ | ⟨session, pinned, -, -, -, ⟨-, rfl⟩ | ⟨-, bound⟩⟩
  · have frame := queueRouteUpdate_frame queued
    exact frame
  · exact ⟨rfl, rfl, rfl, rfl⟩
  · obtain ⟨_, _, retired, -, -, -, -, -, first, second⟩ := bindProof_ok bound
    obtain ⟨seen, newest, recipient, routeKey⟩ := queueRouteUpdate_frame first
    obtain ⟨seen', newest', recipient', routeKey'⟩ := queueRouteUpdate_frame second
    exact ⟨seen'.trans seen, newest'.trans newest, recipient'.trans recipient,
      routeKey'.trans routeKey⟩

/-- What a move does to the ids of accepted proofs and to the newest of them. -/
theorem RouteMove.seen_cases {host : FleetHost} {step : FleetStep} {name : String}
    {before after : Route} (move : RouteMove host step name before after) :
    after.newestProofAt = before.newestProofAt ∧
        (after.seen = before.seen ∨
          after.seen = before.seen.filter fun _ expiry => step.now < expiry) ∨
    ∃ hub token occurred, before.newestProofAt ≤ occurred ∧ after.newestProofAt = occurred ∧
      after.seen = (before.seen.filter fun _ expiry => step.now < expiry).insert
        (host.proofId hub token) (occurred + 360) := by
  cases move with
  | keep | notified | polled | invalidated | updatePolled | acknowledged =>
      exact Or.inl ⟨rfl, Or.inl rfl⟩
  | refreshed => exact Or.inl ⟨rfl, Or.inr rfl⟩
  | @installed checkedAt incoming hub token occurred _ _ _ _ _ timely queued =>
      obtain ⟨seen, newest, -⟩ := queueRouteUpdate_frame queued
      exact Or.inr ⟨hub, token, occurred, timely, newest, seen⟩
  | lapsed _ _ _ queued =>
      obtain ⟨seen, newest, -⟩ := queueRouteUpdate_frame queued
      exact Or.inl ⟨newest, Or.inl seen⟩
  | finished _ _ _ _ finishing =>
      obtain ⟨seen, newest, -⟩ := finishRoute_frame finishing
      exact Or.inl ⟨newest, Or.inl seen⟩

theorem RouteMove.newest_le {host : FleetHost} {step : FleetStep} {name : String}
    {before after : Route} (move : RouteMove host step name before after) :
    before.newestProofAt ≤ after.newestProofAt := by
  rcases move.seen_cases with ⟨same, -⟩ | ⟨_, _, occurred, timely, newest, -⟩
  · omega
  · omega

/-- The route still knows the proof `id` of second `occurred`, or the clock has passed its
retention. -/
structure Remembers (id : String) (occurred clock : Int) (route : Route) : Prop where
  newest : occurred ≤ route.newestProofAt
  seen : (∃ expiry, route.seen[id]? = some expiry ∧ occurred + 360 ≤ expiry) ∨
    occurred + 360 ≤ clock

theorem Remembers.move {host : FleetHost} {step : FleetStep} {name id : String}
    {before after : Route} {occurred clock : Int}
    (remembers : Remembers id occurred clock before) (onward : clock ≤ step.now)
    (move : RouteMove host step name before after) :
    Remembers id occurred step.now after := by
  have newest : occurred ≤ after.newestProofAt := by
    have mono := move.newest_le
    have known := remembers.newest
    omega
  refine ⟨newest, ?_⟩
  rcases remembers.seen with ⟨expiry, stored, late⟩ | passed
  · by_cases past : occurred + 360 ≤ step.now
    · exact Or.inr past
    have kept : (before.seen.filter fun _ expiry => step.now < expiry)[id]? = some expiry := by
      rw [Std.TreeMap.getElem?_filter', stored]
      simp only [Option.filter_some, decide_eq_true_eq, ite_eq_left_iff, reduceCtorEq, imp_false]
      omega
    rcases move.seen_cases with ⟨-, same | pruned⟩ | ⟨hub, token, second, timely, -, inserted⟩
    · exact Or.inl ⟨expiry, by rw [same, stored], late⟩
    · exact Or.inl ⟨expiry, by rw [pruned, kept], late⟩
    · by_cases again : host.proofId hub token = id
      · refine Or.inl ⟨second + 360, by simp [inserted, again], ?_⟩
        have known := remembers.newest
        omega
      · exact Or.inl ⟨expiry, by
          rw [inserted, Std.TreeMap.getElem?_insert, if_neg (by simpa using again), kept], late⟩
  · exact Or.inr (by omega)

theorem FleetStep.install?_eq_some {host : FleetHost} {step : FleetStep} {directory : Directory}
    {name hub token : String} {occurred : Int}
    (installs : step.install? host directory name = some (hub, token, occurred)) :
    ∃ checkedAt incoming after, step.op = .begin checkedAt incoming ∧
      name = host.key incoming.userId incoming.routeKey ∧
      readProof host checkedAt incoming = .ok (hub, token, occurred) ∧
      (refreshRoute step.now incoming (routeOf directory name)).seen[host.proofId hub token]? =
        none ∧
      begin host checkedAt step.now incoming directory = .ok after ∧
      step.apply host directory = after := by
  obtain ⟨now, op, stored⟩ := step
  cases op with
  | begin checkedAt incoming =>
      simp only [FleetStep.install?] at installs
      split at installs
      · rename_i answer _ _ _ performed read
        split at installs
        · rename_i fresh
          simp only [Option.some.injEq, Prod.mk.injEq] at installs
          obtain ⟨rfl, rfl, rfl⟩ := installs
          have applied : FleetStep.apply host ⟨now, .begin checkedAt incoming, stored⟩ directory =
              answer.2 := by
            simp [FleetStep.apply, performed]
          simp only [FleetStep.outcome, FleetStep.transact] at performed
          split at performed
          · simp only [Result.bind_eq_ok, Result.pure_eq_ok] at performed
            obtain ⟨after, ok, rfl⟩ := performed
            exact ⟨checkedAt, incoming, after, rfl, fresh.1, read, by simpa using fresh.2, ok,
              applied⟩
          · simp at performed
        · simp at installs
      · simp at installs
  | claim | finish | invalidateIdentity | notificationTarget | select | check | claimRouteUpdate
  | finishRouteUpdate => simp [FleetStep.install?] at installs

/-- The message of an accepted proof is at most 300 seconds old at the check. -/
theorem readProof_recent {host : FleetHost} {now occurred : Int} {incoming : InboundMessage}
    {hub token : String} (ok : readProof host now incoming = .ok (hub, token, occurred)) :
    now - 300 < occurred ∧ host.timestamp incoming.timestamp = some occurred ∧
      incoming.userId ≠ "" ∧ incoming.routeKey ≠ "" := by
  simp only [readProof, Result.bind_eq_ok, require_ok, Result.pure_eq_ok, Prod.mk.injEq] at ok
  obtain ⟨_, -, ⟨_, _⟩, -, _, dated, ⟨⟩, checked, rfl, rfl, rfl⟩ := ok
  obtain ⟨-, -, -, -, -, -, long, -, -, addressed, -, -, recent, -⟩ := ensure_ok.mp checked
  refine ⟨recent, dated, ?_, addressed⟩
  rintro blank
  simp [blank, Text.utf8Len] at long

/-- An install is one of the moves, with the fields of its own message. -/
theorem FleetStep.install?_route {host : FleetHost} {step : FleetStep} {directory : Directory}
    {name hub token : String} {occurred : Int}
    (installs : step.install? host directory name = some (hub, token, occurred)) :
    (routeOf (step.apply host directory) name).newestProofAt = occurred ∧
      (routeOf (step.apply host directory) name).seen[host.proofId hub token]? =
        some (occurred + 360) := by
  obtain ⟨checkedAt, incoming, after, performed, rfl, read, unseen, ok, applied⟩ :=
    FleetStep.install?_eq_some installs
  rw [applied]
  simp only [begin, read, Result.bind_eq_ok, Except.ok.injEq] at ok
  obtain ⟨_, rfl, ⟨⟩, -, ok⟩ := ok
  rw [if_neg (by simpa [routeOf] using unseen)] at ok
  simp only [Result.bind_eq_ok, Result.pure_eq_ok] at ok
  obtain ⟨⟨⟩, -, route, queued, rfl⟩ := ok
  obtain ⟨seen, newest, -⟩ := queueRouteUpdate_frame queued
  rw [routeOf_insert, if_pos rfl]
  exact ⟨newest, by simp [seen, acceptProof]⟩

theorem runFleet_remembers (host : FleetHost) {name id : String} {occurred : Int}
    (steps : List FleetStep) : ∀ (clock : Int) (directory : Directory),
      Remembers id occurred clock (routeOf directory name) →
      (∀ step ∈ steps, clock ≤ step.now) → steps.Pairwise (fun first later => first.now ≤ later.now) →
      ∀ last, clock ≤ last → (∀ step ∈ steps, step.now ≤ last) →
      Remembers id occurred last (routeOf (runFleet host steps directory) name) := by
  induction steps with
  | nil =>
      intro clock directory remembers _ _ last onward _
      refine ⟨remembers.newest, remembers.seen.imp_right ?_⟩
      omega
  | cons step rest ih =>
      intro clock directory remembers starts ordered last onward ends
      obtain ⟨first, ordered⟩ := List.pairwise_cons.mp ordered
      have moved := remembers.move (starts step List.mem_cons_self)
        (step.apply_moves host directory name)
      exact ih step.now _ moved first ordered last (ends step List.mem_cons_self)
        fun later member => ends later (List.mem_cons_of_mem _ member)

/-- The same proof at a later moment: what the device pinned stays pinned. -/
structure Pending.Continues (current later : Pending) : Prop where
  id : later.id = current.id
  occurredAt : later.occurredAt = current.occurredAt
  hubIdentity : ∀ known, current.hubIdentity = some known → later.hubIdentity = some known
  sessionId : ∀ known, current.sessionId = some known → later.sessionId = some known

theorem Pending.Continues.of_pinProof {now next : Int} {proof : Json} {identity session : String}
    {current pinned : Pending} (pin : pinProof now proof identity current = .ok (session, pinned)) :
    Pending.Continues current { pinned with nextPoll := next } := by
  obtain ⟨sameIdentity, sameSession, expires, rfl⟩ := pinProof_ok pin
  constructor
  · rfl
  · rfl
  · exact fun known earlier => congrArg some (sameIdentity known earlier).symm
  · exact fun known earlier => congrArg some (sameSession known earlier).symm

/-- A pending proof after a move is the one before it, or was installed by this `begin`. -/
theorem RouteMove.pending_cases {host : FleetHost} {step : FleetStep} {name : String}
    {before after : Route} {pending : Pending} (move : RouteMove host step name before after)
    (present : after.pending = some pending) :
    (∃ current, before.pending = some current ∧ Pending.Continues current pending ∧
      after.newestProofAt = before.newestProofAt) ∨
    ∃ checkedAt incoming hub token, step.op = .begin checkedAt incoming ∧
      name = host.key incoming.userId incoming.routeKey ∧
      readProof host checkedAt incoming = .ok (hub, token, after.newestProofAt) ∧
      (refreshRoute step.now incoming before).seen[host.proofId hub token]? = none ∧
      pending.occurredAt = incoming.timestamp := by
  have same (current : Pending) : Pending.Continues current current :=
    ⟨rfl, rfl, fun _ known => known, fun _ known => known⟩
  cases move with
  | keep | notified | refreshed | updatePolled | acknowledged =>
      exact Or.inl ⟨pending, present, same pending, rfl⟩
  | @installed checkedAt incoming hub token occurred _ performed named read unseen _ queued =>
      obtain ⟨-, latest, -⟩ := queueRouteUpdate_frame queued
      rw [(queueRouteUpdate_ok queued).2] at present
      obtain rfl := Option.some.inj present
      rw [latest]
      exact Or.inr ⟨checkedAt, incoming, hub, token, performed, named, read, unseen, rfl⟩
  | lapsed _ _ _ queued =>
      rw [(queueRouteUpdate_ok queued).2] at present
      simp at present
  | polled _ known =>
      obtain rfl := Option.some.inj present
      exact Or.inl ⟨_, known, ⟨rfl, rfl, fun _ pinned => pinned, fun _ pinned => pinned⟩, rfl⟩
  | finished _ _ known _ finishing =>
      rcases finishRoute_cases finishing with
        ⟨-, queued⟩ | ⟨session, pinned, -, -, pin, ⟨-, rfl⟩ | ⟨-, bound⟩⟩
      · rw [(queueRouteUpdate_ok queued).2] at present
        simp at present
      · obtain rfl := Option.some.inj present
        exact Or.inl ⟨_, known, Pending.Continues.of_pinProof pin, rfl⟩
      · obtain ⟨_, _, _, -, -, -, -, -, -, second⟩ := bindProof_ok bound
        rw [(queueRouteUpdate_ok second).2] at present
        simp at present
  | invalidated =>
      simp only [invalidateRoute, Option.filter_eq_some_iff] at present
      exact Or.inl ⟨pending, present.1, same pending, rfl⟩

/-- The pending proof is the newest one. -/
def PendingIsNewest (host : FleetHost) (route : Route) : Prop :=
  ∀ pending, route.pending = some pending →
    host.timestamp pending.occurredAt = some route.newestProofAt

theorem PendingIsNewest.move {host : FleetHost} {step : FleetStep} {name : String}
    {before after : Route} (newest : PendingIsNewest host before)
    (move : RouteMove host step name before after) : PendingIsNewest host after := by
  intro pending present
  rcases move.pending_cases present with
    ⟨current, known, continues, latest⟩ | ⟨_, _, _, _, -, -, read, -, dated⟩
  · rw [continues.occurredAt, latest]
    exact newest current known
  · rw [dated]
    exact (readProof_recent read).2.1

theorem accepted_proofs_are_apart (host : FleetHost) (steps : List FleetStep)
    (clock : steps.Pairwise fun first later => first.now ≤ later.now) :
    (∀ before first middle second after name hub token occurred later checkedAt incoming,
      steps = before ++ first :: middle ++ second :: after →
      first.install? host (runFleet host before ∅) name = some (hub, token, occurred) →
      second.install? host (runFleet host (before ++ first :: middle) ∅) name =
        some (hub, token, later) →
      second.op = .begin checkedAt incoming →
      occurred + 60 - (second.now - checkedAt) < later) ∧
    (∀ before step after name, steps = before ++ step :: after →
      (routeOf (runFleet host before ∅) name).newestProofAt ≤
        (routeOf (runFleet host (before ++ [step]) ∅) name).newestProofAt) ∧
    ∀ before after name pending, steps = before ++ after →
      (routeOf (runFleet host before ∅) name).pending = some pending →
      host.timestamp pending.occurredAt =
        some (routeOf (runFleet host before ∅) name).newestProofAt := by
  refine ⟨?_, ?_, ?_⟩
  · rintro before first middle second after name hub token occurred later checkedAt incoming rfl
      installs again performed
    have ordered : (first :: (middle ++ second :: after)).Pairwise
        (fun first later => first.now ≤ later.now) := by
      rw [List.append_assoc, List.cons_append] at clock
      exact (List.pairwise_append.mp clock).2.1
    obtain ⟨starts, rest⟩ := List.pairwise_cons.mp ordered
    obtain ⟨middleOrdered, -, ends⟩ := List.pairwise_append.mp rest
    obtain ⟨newest, seen⟩ := FleetStep.install?_route installs
    have initial : Remembers (host.proofId hub token) occurred first.now
        (routeOf (first.apply host (runFleet host before ∅)) name) :=
      ⟨by omega, Or.inl ⟨_, seen, by omega⟩⟩
    have kept := runFleet_remembers host middle first.now _ initial
      (fun step member => starts step (by simp [member])) middleOrdered second.now
      (starts second (by simp)) (fun step member => ends step member second (by simp))
    rw [← runFleet_cons, ← runFleet_append] at kept
    obtain ⟨readAt, message, _, sameStep, -, read, unseen, -, -⟩ :=
      FleetStep.install?_eq_some again
    rw [performed, FleetOp.begin.injEq] at sameStep
    obtain ⟨rfl, rfl⟩ := sameStep
    have recent := (readProof_recent read).1
    rcases kept.seen with ⟨expiry, stored, late⟩ | passed
    · -- The id was pruned at this very step.
      simp only [refreshRoute] at unseen
      rw [Std.TreeMap.getElem?_filter', stored] at unseen
      simp only [Option.filter_some, decide_eq_true_eq, ite_eq_right_iff, reduceCtorEq, imp_false]
        at unseen
      omega
    · omega
  · rintro before step after name rfl
    rw [runFleet_snoc]
    exact (step.apply_moves host _ name).newest_le
  · rintro before after name pending rfl present
    refine runFleet_route host (fun _ _ _ newest move => PendingIsNewest.move newest move) before ∅ ?_
      pending present
    intro pending present
    simp [Route.default] at present

def resendHost : FleetHost :=
  { phoneHost with
    timestamp := fun text =>
      if text = "2026-09-21T14:13:20Z" then some 1790000000
      else if text = "2026-09-21T14:14:20Z" then some 1790000060
      else if text = "2026-09-21T14:19:30Z" then some 1790000370
      else none }

/-- The link of `phoneProof` sent again from the same phone. -/
def resentProof (timestamp : String) : InboundMessage :=
  { phoneProof with
    messageId := "wamid.2"
    timestamp := timestamp }

def phoneRoute : String := resendHost.key "15551234567" "route-1"

def firstProof : FleetStep := ⟨1790000001, .begin 1790000001 phoneProof, true⟩

theorem resent_proof_is_accepted_apart :
    1790000000 + 60 - (1790000400 - 1790000400) < (1790000370 : Int) :=
  (accepted_proofs_are_apart resendHost
    [firstProof, ⟨1790000400, .begin 1790000400 (resentProof "2026-09-21T14:19:30Z"), true⟩]
    (by decide)).1 [] firstProof []
    ⟨1790000400, .begin 1790000400 (resentProof "2026-09-21T14:19:30Z"), true⟩ [] phoneRoute
    "hub-one" polledProof.token 1790000000 1790000370 1790000400
    (resentProof "2026-09-21T14:19:30Z") rfl (by with_unfolding_all decide)
    (by with_unfolding_all decide) rfl

/-- `begin` checks the age of a message before it waits for the lock and forgets old proofs after.
One second between the two accepts a link again 60 seconds after itself, and 61 seconds accept the
same message again. -/
theorem late_lock_accepts_a_proof_again :
    (firstProof.install? resendHost ∅ phoneRoute =
        some ("hub-one", polledProof.token, 1790000000) ∧
      FleetStep.install? resendHost
          ⟨1790000360, .begin 1790000359 (resentProof "2026-09-21T14:14:20Z"), true⟩
          (runFleet resendHost [firstProof] ∅) phoneRoute =
        some ("hub-one", polledProof.token, 1790000060) ∧
      ¬1790000000 + 60 < (1790000060 : Int)) ∧
    FleetStep.install? resendHost ⟨1790000360, .begin 1790000299 phoneProof, true⟩
        (runFleet resendHost [firstProof] ∅) phoneRoute =
      some ("hub-one", polledProof.token, 1790000000) := by
  with_unfolding_all decide

/-! ## Confirmation -/

theorem pinProof_session {now : Int} {proof : Json} {identity session : String}
    {current pinned : Pending} (ok : pinProof now proof identity current = .ok (session, pinned)) :
    (proof.index "session_id").asStr = some session := by
  simp only [pinProof, Result.bind_eq_ok, require_ok, Result.pure_eq_ok, Prod.mk.injEq] at ok
  obtain ⟨⟨⟩, -, _, answered, _, -, ⟨⟩, -, rfl, -⟩ := ok
  exact (Option.filter_eq_some_iff.mp answered).1

theorem RouteMove.active_cases {host : FleetHost} {step : FleetStep} {name : String}
    {before after : Route} {selection : Selection} (move : RouteMove host step name before after)
    (active : after.active = some selection) (changed : before.active ≠ some selection) :
    ∃ generation pending proof identity session current pinned occurred confirmed,
      step.op = .finish generation pending 200 proof identity ∧
      name = host.key pending.recipient pending.routeKey ∧
      before.pending = some current ∧ current.id = pending.id ∧
      pinProof step.now proof identity current = .ok (session, pinned) ∧
      selection = ⟨pending.hubId, identity, session, generation, step.now⟩ ∧
      (proof.index "status").asStr = some "bound" ∧
      (proof.index "binding_id").asStr = some session ∧
      host.timestamp current.occurredAt = some occurred ∧
      (proof.index "confirmed_at").asI64 = some confirmed ∧
      occurred ≤ confirmed ∧ confirmed ≤ step.now + 60 := by
  cases move with
  | keep | notified | refreshed | polled | updatePolled | acknowledged =>
      exact absurd active changed
  | installed _ _ _ _ _ queued =>
      rw [(queueRouteUpdate_ok queued).1] at active
      exact absurd active changed
  | lapsed _ _ _ queued =>
      rw [(queueRouteUpdate_ok queued).1] at active
      exact absurd active changed
  | invalidated =>
      simp only [invalidateRoute, Option.filter_eq_some_iff] at active
      exact absurd active.1 changed
  | @finished generation pending status proof identity current _ performed named known current_id
      finishing =>
      rcases finishRoute_cases finishing with
        ⟨-, queued⟩ | ⟨session, pinned, -, rfl, pin, ⟨-, rfl⟩ | ⟨answer, bound⟩⟩
      · rw [(queueRouteUpdate_ok queued).1] at active
        exact absurd active changed
      · exact absurd active changed
      · obtain ⟨occurred, confirmed, retired, dated, binding, confirmation, late, early, -, second⟩ :=
          bindProof_ok bound
        rw [(queueRouteUpdate_ok second).1] at active
        obtain ⟨-, -, expires, rfl⟩ := pinProof_ok pin
        exact ⟨generation, pending, proof, identity, session, current, _, occurred, confirmed,
          performed, named, known, current_id, pin, (Option.some.inj active).symm, answer, binding,
          dated, confirmation, late, early⟩

/-- The route's pending proof, if it has one, is pinned to this device and session. -/
def PinnedTo (identity session : String) (route : Route) : Prop :=
  ∀ pending, route.pending = some pending →
    pending.hubIdentity = some identity ∧ pending.sessionId = some session

/-- A step that installs no proof on the route leaves its proof pinned. -/
theorem PinnedTo.apply {host : FleetHost} {step : FleetStep} {directory : Directory}
    {name identity session : String} (pinned : PinnedTo identity session (routeOf directory name))
    (silent : step.install? host directory name = none) :
    PinnedTo identity session (routeOf (step.apply host directory) name) := by
  intro pending present
  rcases (step.apply_moves host directory name).pending_cases present with
    ⟨current, known, continues, -⟩ |
      ⟨checkedAt, incoming, hub, token, performed, named, read, unseen, -⟩
  · obtain ⟨sameIdentity, sameSession⟩ := pinned current known
    exact ⟨continues.hubIdentity _ sameIdentity, continues.sessionId _ sameSession⟩
  · cases result : step.outcome host directory with
    | error _ =>
        simp only [FleetStep.apply, result] at present
        exact pinned pending present
    | ok answer =>
        simp [FleetStep.install?, performed, result, read, ← named] at silent
        rw [Std.TreeMap.mem_iff_isSome_getElem?, unseen] at silent
        simp at silent

theorem runFleet_pinnedTo {host : FleetHost} {name identity session : String}
    (steps : List FleetStep) : ∀ directory,
      PinnedTo identity session (routeOf directory name) →
      (∀ first install rest, steps = first ++ install :: rest →
        install.install? host (runFleet host first directory) name = none) →
      PinnedTo identity session (routeOf (runFleet host steps directory) name) := by
  induction steps with
  | nil => exact fun _ pinned _ => pinned
  | cons step rest ih =>
      intro directory pinned silent
      refine ih _ (pinned.apply (silent [] step rest rfl)) ?_
      intro first install others split
      have later := silent (step :: first) install others (by simp [split])
      exact later

/-- A poll that recorded a device and a session leaves the proof pinned to them. -/
theorem FleetStep.recorded?_eq_some {host : FleetHost} {step : FleetStep} {directory : Directory}
    {name identity session : String}
    (polled : step.recorded? host directory name = some (identity, session)) :
    PinnedTo identity session (routeOf (step.apply host directory) name) := by
  intro pending present
  simp only [FleetStep.recorded?] at polled
  split at polled
  · split at polled
    · rename_i result
      split at polled
      · simp only [FleetStep.apply, result] at present
        simp only [present, Option.bind_eq_bind, Option.bind_some, Option.bind_eq_some_iff,
          Option.pure_def, Option.some.injEq, Prod.mk.injEq] at polled
        obtain ⟨_, sameIdentity, _, sameSession, rfl, rfl⟩ := polled
        exact ⟨sameIdentity, sameSession⟩
      · simp at polled
    · simp at polled
  · simp at polled

/-- `finish` for a proof the route does not have pending changes nothing. -/
theorem finish_other_proof {host : FleetHost} {now : Int} {generation identity : String}
    {pending : Pending} {status : Nat} {proof : Json} {directory after : Directory}
    (other : ∀ current,
      (routeOf directory (host.key pending.recipient pending.routeKey)).pending = some current →
      current.id ≠ pending.id)
    (ok : finish host now generation pending status proof identity directory = .ok after) :
    after = directory := by
  simp only [finish, Result.bind_eq_ok, require_ok] at ok
  obtain ⟨route, stored, ok⟩ := ok
  rw [routeOf_of_stored stored] at other
  split at ok
  · exact (Result.pure_eq_ok.mp ok).symm
  · rename_i current found
    simp only [Option.filter_eq_some_iff, decide_eq_true_eq] at found
    exact absurd found.2 (other current found.1)

theorem binding_is_replaced_by_its_confirmed_proof (host : FleetHost) (steps : List FleetStep) :
    (∀ before step after name selection, steps = before ++ step :: after →
      activeOf (runFleet host before ∅) name ≠ some selection →
      activeOf (runFleet host (before ++ [step]) ∅) name = some selection →
      ∃ generation pending proof current occurred confirmed,
        step.op = .finish generation pending 200 proof selection.hubIdentity ∧
        name = host.key pending.recipient pending.routeKey ∧
        (routeOf (runFleet host before ∅) name).pending = some current ∧
        current.id = pending.id ∧
        (proof.index "status").asStr = some "bound" ∧
        (proof.index "session_id").asStr = some selection.bindingId ∧
        (proof.index "binding_id").asStr = some selection.bindingId ∧
        host.timestamp current.occurredAt = some occurred ∧
        (proof.index "confirmed_at").asI64 = some confirmed ∧
        occurred ≤ confirmed ∧ confirmed ≤ step.now + 60 ∧
        ∀ earlier poll since identity session, before = earlier ++ poll :: since →
          poll.recorded? host (runFleet host earlier ∅) name = some (identity, session) →
          (∀ first install rest, since = first ++ install :: rest →
            install.install? host (runFleet host (earlier ++ poll :: first) ∅) name = none) →
          identity = selection.hubIdentity ∧ session = selection.bindingId) ∧
    ∀ before step after generation pending status proof identity,
      steps = before ++ step :: after →
      step.op = .finish generation pending status proof identity →
      (∀ current, (routeOf (runFleet host before ∅)
        (host.key pending.recipient pending.routeKey)).pending = some current →
        current.id ≠ pending.id) →
      runFleet host (before ++ [step]) ∅ = runFleet host before ∅ := by
  constructor
  · rintro before step after name selection rfl changed active
    rw [runFleet_snoc, ← routeOf_active] at active
    rw [← routeOf_active] at changed
    obtain ⟨generation, pending, proof, identity, session, current, pinned, occurred, confirmed,
      performed, named, known, current_id, pin, rfl, answer, binding, dated, confirmation, late,
      early⟩ := (step.apply_moves host _ name).active_cases active changed
    refine ⟨generation, pending, proof, current, occurred, confirmed, performed, named, known,
      current_id, answer, pinProof_session pin, binding, dated, confirmation, late, early, ?_⟩
    rintro earlier poll since knownIdentity knownSession rfl polled silent
    have initial := FleetStep.recorded?_eq_some polled
    have kept := runFleet_pinnedTo since _ initial fun first install rest split => by
      have none_between := silent first install rest split
      rwa [runFleet_append, runFleet_cons] at none_between
    rw [← runFleet_cons, ← runFleet_append] at kept
    obtain ⟨pinnedIdentity, pinnedSession⟩ := kept current known
    obtain ⟨sameIdentity, sameSession, -⟩ := pinProof_ok pin
    exact ⟨sameIdentity _ pinnedIdentity, sameSession _ pinnedSession⟩
  · rintro before step after generation pending status proof identity rfl performed other
    rw [runFleet_snoc]
    simp only [FleetStep.apply]
    split
    · rename_i answer next ok
      simp only [FleetStep.outcome, FleetStep.transact, performed] at ok
      split at ok
      · simp only [Result.bind_eq_ok, Result.pure_eq_ok, Prod.mk.injEq] at ok
        obtain ⟨_, done, -, rfl⟩ := ok
        exact finish_other_proof other done
      · simp at ok
    · rfl

theorem phone_binding_is_confirmed :
    ∃ (pending : Pending) (proof : Json) (current : Pending) (occurred confirmed : Int),
      (routeOf (runFleet phoneHost (phoneBinding.take 1) ∅) phoneRoute).pending = some current ∧
        current.id = pending.id ∧ phoneHost.timestamp current.occurredAt = some occurred ∧
        (proof.index "confirmed_at").asI64 = some confirmed ∧ occurred ≤ confirmed := by
  obtain ⟨_, pending, proof, current, occurred, confirmed, -, -, known, same, -, -, -, dated,
    confirmation, late, -⟩ :=
    (binding_is_replaced_by_its_confirmed_proof phoneHost phoneBinding).1 (phoneBinding.take 1)
      ⟨1790000010, .finish boundSelection.generation polledProof 200 boundAnswer
        boundSelection.hubIdentity, true⟩ [] phoneRoute boundSelection rfl (by decide)
      (by decide)
  exact ⟨pending, proof, current, occurred, confirmed, known, same, dated, confirmation, late⟩

end NaviFleet

end HarborGate
