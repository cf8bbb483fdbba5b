import HarborGate.Gateway.Once

/-!
Notifications under one idempotency key go out at most once, and for one effective request only.
The stored answer is written after the sends, so what keeps overlapping calls apart is the ledger:
the fingerprint of its record admits one effective request.
-/

namespace HarborGate

open Interleave

/-- The operations that call the adapter. -/
def Op.reachesAdapter : Op → Bool
  | .prepareOutbound _ _ | .sendPreparedOutbound _ _ _ _ | .sendOutbound _ _ => true
  | _ => false

def Op.persists : Op → Bool
  | .persistDeliveryPlan _ _ _ _ => true
  | _ => false

/-- The record that a lookup found, with its key. -/
def Op.loaded? : (op : Op) → Ans op → Option (String × DeliveryRecord)
  | .loadDeliveryRecord key, .ok (some record) => some (key, record)
  | _, _ => none

theorem persistItems_conflict {now : Time} {fingerprint : String} {planned : List DeliveryPlanItem}
    {error : StoreError} :
    ∀ {items : Std.TreeMap String LedgerItem},
      planned.foldlM (persistItem now fingerprint) items = .error error →
      error = .message "delivery item identity conflict" := by
  induction planned with
  | nil =>
      intro items failed
      simp [pure, Except.pure] at failed
  | cons item rest ih =>
      intro items failed
      rw [List.foldlM_cons] at failed
      cases stored : persistItem now fingerprint items item with
      | ok next =>
          rw [stored] at failed
          exact ih failed
      | error reason =>
          rw [stored] at failed
          obtain rfl : reason = error := Except.error.inj failed
          simp only [persistItem] at stored
          split at stored
          · exact (Except.error.inj stored).symm
          · simp [pure, Except.pure] at stored

/-- A plan is refused only for a conflict. -/
theorem persistDeliveryPlan_conflict {now : Time} {deliveryKey fingerprint : String}
    {outbound : OutboundMessage} {items : List DeliveryPlanItem} {records : Ledger}
    {error : StoreError}
    (failed : persistDeliveryPlan now deliveryKey fingerprint outbound items records =
      .error error) : Text.contains error.text "conflict" = true := by
  simp only [persistDeliveryPlan] at failed
  split at failed
  · obtain rfl : _ = error := Except.error.inj failed
    decide
  · cases stored : items.foldlM (persistItem now fingerprint) _ with
    | ok written =>
        rw [stored] at failed
        simp [bind, Except.bind, pure, Except.pure] at failed
    | error reason =>
        rw [stored] at failed
        obtain rfl : reason = error := Except.error.inj failed
        rw [persistItems_conflict stored]
        decide

/-! ## Phases -/

section

variable {phase : Phase} {op : Op} {answer : Ans op}

theorem Phase.next_loaded {record : DeliveryRecord} (next : phase.next op answer = .loaded record) :
    phase = .loaded record ∨ ∃ key, op.loaded? answer = some (key, record) := by
  cases op with
  | saveDeliveryRecord _ _ | persistDeliveryPlan _ _ _ _
  | claimDeliveryMaterialization _ _ _ _ | finishDeliveryMaterialization _ | claimDeliveryItem _
  | sendPreparedOutbound _ _ _ _ | finishDeliveryStage _ | finishDeliveryItem _ =>
      refine Or.inl ?_
      simp only [Phase.next] at next
      repeat' split at next
      all_goals first | exact next | simp at next
  | loadDeliveryRecord key =>
      simp only [Phase.next] at next
      split at next
      · obtain rfl := Phase.loaded.inj next
        exact Or.inr ⟨key, rfl⟩
      · exact Or.inl next
  | resolveRoute _ | recordDeliveryItemUpload _ | retryableDeliveryPlans | fleetCheck _
  | fleetInvalidateIdentity _ | authorizeCameraAttachments _ | authorizeWhatsappDelivery _
  | materializeAttachments _ _ | prepareOutbound _ _ | sendOutbound _ _ | utcNowIso =>
      exact Or.inl next

/-- Planning is over: the ledger took the plan, or named a conflict. -/
def Phase.Planned (phase : Phase) : Prop :=
  phase.plan?.isSome = true ∨
    ∃ error, phase = .refused error ∧ Text.contains error.text "conflict" = true

theorem Phase.Planned.next (planned : phase.Planned) (otherOp : op.persists = false) :
    (phase.next op answer).Planned := by
  rcases planned with some | ⟨error, rfl, conflict⟩
  · refine Or.inl ?_
    cases op with
    | loadDeliveryRecord _ | saveDeliveryRecord _ _ | claimDeliveryMaterialization _ _ _ _
    | finishDeliveryMaterialization _ | claimDeliveryItem _ | sendPreparedOutbound _ _ _ _
    | finishDeliveryStage _ | finishDeliveryItem _ =>
        simp only [Phase.next]
        repeat' split
        all_goals first | exact some | rfl
    | persistDeliveryPlan _ _ _ _ => simp [Op.persists] at otherOp
    | resolveRoute _ | recordDeliveryItemUpload _ | retryableDeliveryPlans | fleetCheck _
    | fleetInvalidateIdentity _ | authorizeCameraAttachments _ | authorizeWhatsappDelivery _
    | materializeAttachments _ _ | prepareOutbound _ _ | sendOutbound _ _ | utcNowIso => exact some
  · refine Or.inr ⟨error, ?_, conflict⟩
    cases op with
    | persistDeliveryPlan _ _ _ _ => simp [Op.persists] at otherOp
    | _ => rfl

end

/-! ## The invariant -/

section

variable {digests : Digests} {host : FleetHost}

/-- The stored answer is one to the request that the ledger admits. -/
def RecordsBound (key : String) (world : World) : Prop :=
  ∀ record, world.records[key]? = some record →
    world.ledger.fingerprint? key = some record.requestFingerprint

/-- What a call has done so far agrees with the ledger. -/
structure Accounted (own : Contract) (key : String) (world : World)
    (trace : List (gatewayMachine digests host).Event) (task : Nat) (phase : Phase) : Prop where
  loaded : ∀ record, phase = .loaded record →
    world.ledger.fingerprint? key = some record.requestFingerprint
  reached : ∀ event ∈ trace, event.task = task → event.op.reachesAdapter = true →
    ∃ plan, own.plan plan ∧ world.ledger.fingerprint? plan.deliveryKey = some plan.fingerprint
  persisted : ∀ event ∈ trace, event.task = task → event.op.persists = true → phase.Planned

variable {required : String → String → String → Prop} {world after : World} {own : Contract}
  {phase : Phase} {op : Op} {choice : Choice} {answer : Ans op} {task : Nat} {key : String}
  {trace : List (gatewayMachine digests host).Event}

theorem World.perform_loaded {record : DeliveryRecord} {name : String}
    (performed : World.perform host world op choice = some (answer, after))
    (loads : op.loaded? answer = some (name, record)) :
    op = .loadDeliveryRecord name ∧ world.records[name]? = some record := by
  cases op with
  | loadDeliveryRecord looked =>
      simp only [World.perform] at performed
      split at performed
      · simp at performed
      simp only [Option.some.injEq, Prod.mk.injEq, World.orFailure] at performed
      obtain ⟨found, -⟩ := performed
      cases answer with
      | error error => simp [Op.loaded?] at loads
      | ok loaded =>
          cases loaded with
          | none => simp [Op.loaded?] at loads
          | some stored =>
              simp only [Op.loaded?, Option.some.injEq, Prod.mk.injEq] at loads
              obtain ⟨rfl, rfl⟩ := loads
              split at found
              · simp at found
              · have stored := Except.ok.inj found
                simp only [World.loadDeliveryRecord] at stored
                split at stored
                · simp at stored
                · exact ⟨rfl, stored⟩
  | _ => simp [Op.loaded?] at loads

theorem RecordsBound.step (bound : RecordsBound key world)
    (placed : Placed required world.ledger phase) (allowed : Allowed own phase op)
    (performed : World.perform host world op choice = some (answer, after)) :
    RecordsBound key after := by
  have effect := World.perform_effect performed
  intro record stored
  rcases (World.perform_evolves performed).records with same | ⟨name, saved, rfl, inserted⟩
  · rw [same] at stored
    exact effect.fingerprint (bound record stored)
  · rw [inserted, Std.TreeMap.getElem?_insert] at stored
    split at stored
    · rename_i same
      obtain rfl := Option.some.inj stored
      cases allowed with
      | neutral harmless => simp [Op.isNeutral] at harmless
      | save last fingerprint answers =>
          rename_i plan itemKey response
          obtain ⟨-, planned, -⟩ := placed.planned plan rfl
          rw [fingerprint, ← Std.LawfulEqCmp.eq_of_compare same]
          exact effect.fingerprint planned
    · exact effect.fingerprint (bound record stored)

/-- A call that reaches its adapter has a plan that the ledger took. -/
theorem Allowed.reaches (allowed : Allowed own phase op) (indirect : ¬own.direct)
    (reaches : op.reachesAdapter = true) : ∃ plan, phase.plan? = some plan := by
  cases allowed with
  | prepare | send _ => exact ⟨_, rfl⟩
  | sendDirect direct => exact absurd direct indirect
  | neutral harmless => cases op <;> simp [Op.isNeutral, Op.reachesAdapter] at harmless reaches
  | load _ | persist _ _ _ | claimMaterialization _ _ | finishMaterialization _ | claimItem _ _ _
  | upload _ | stageSucceeded _ _ | stageFailed _ _ | itemSucceeded _ _ _ | itemFailed _ _ _ _
  | save _ _ _ => simp [Op.reachesAdapter] at reaches

/-- Either way, planning is over once the ledger has answered. -/
theorem Served.planned
    (served : Served (⟨task, op, answer, world, after⟩ : (gatewayMachine digests host).Event))
    (persists : op.persists = true) : (phase.next op answer).Planned := by
  cases op with
  | persistDeliveryPlan deliveryKey fingerprint outbound items =>
      cases answer with
      | ok done => exact Or.inl rfl
      | error error =>
          obtain ⟨choice, healthy, performed⟩ := served rfl
          simp only [World.perform] at performed
          split at performed
          · simp at performed
          have refused := (World.ledgerStep_error performed).2 healthy
          refine Or.inr ⟨error, rfl, ?_⟩
          cases written : persistDeliveryPlan choice.now deliveryKey fingerprint outbound items
              world.ledger with
          | ok ledger => simp [written, Except.map] at refused
          | error reason =>
              rw [written] at refused
              obtain rfl : reason = error := Except.error.inj refused
              exact persistDeliveryPlan_conflict written
  | _ => simp [Op.persists] at persists

theorem Accounted.step_own (accounted : Accounted own key world trace task phase)
    (bound : RecordsBound key world) (placed : Placed required world.ledger phase)
    (planned : ∀ plan, phase.plan? = some plan → own.plan plan)
    (allowed : Allowed own phase op) (indirect : ¬own.direct)
    (keyed : ∀ name, own.key name → name = key)
    (performed : World.perform host world op choice = some (answer, after))
    (served : Served (⟨task, op, answer, world, after⟩ : (gatewayMachine digests host).Event)) :
    Accounted own key after (trace ++ [⟨task, op, answer, world, after⟩]) task
      (phase.next op answer) := by
  have effect := World.perform_effect performed
  constructor
  · intro record next
    rcases Phase.next_loaded next with same | ⟨name, loads⟩
    · exact effect.fingerprint (accounted.loaded record same)
    · obtain ⟨rfl, stored⟩ := World.perform_loaded performed loads
      cases allowed with
      | neutral harmless => simp [Op.isNeutral] at harmless
      | load named =>
          obtain rfl := keyed name named
          exact effect.fingerprint (bound record stored)
  · intro event member ownTask reaches
    rcases List.mem_append.mp member with old | new
    · obtain ⟨plan, promised, fingerprint⟩ := accounted.reached event old ownTask reaches
      exact ⟨plan, promised, effect.fingerprint fingerprint⟩
    · obtain rfl := List.mem_singleton.mp new
      obtain ⟨plan, carried⟩ := allowed.reaches indirect reaches
      exact ⟨plan, planned plan carried, effect.fingerprint (placed.planned plan carried).2.1⟩
  · intro event member ownTask persists
    cases plans : op.persists with
    | true => exact served.planned plans
    | false =>
        rcases List.mem_append.mp member with old | new
        · exact (accounted.persisted event old ownTask persists).next plans
        · obtain rfl := List.mem_singleton.mp new
          simp [plans] at persists

theorem Accounted.step_other {other : Nat} (accounted : Accounted own key world trace other phase)
    (different : other ≠ task) (effect : LedgerEffect world after choice op answer) :
    Accounted own key after
      (trace ++ [(⟨task, op, answer, world, after⟩ : (gatewayMachine digests host).Event)]) other
      phase := by
  have earlier : ∀ event ∈ trace ++
      [(⟨task, op, answer, world, after⟩ : (gatewayMachine digests host).Event)],
      event.task = other → event ∈ trace := by
    intro event member ownTask
    rcases List.mem_append.mp member with old | new
    · exact old
    · obtain rfl := List.mem_singleton.mp new
      exact absurd ownTask.symm different
  constructor
  · exact fun record loaded => effect.fingerprint (accounted.loaded record loaded)
  · intro event member ownTask reaches
    obtain ⟨plan, promised, fingerprint⟩ :=
      accounted.reached event (earlier event member ownTask) ownTask reaches
    exact ⟨plan, promised, effect.fingerprint fingerprint⟩
  · intro event member ownTask
    exact accounted.persisted event (earlier event member ownTask) ownTask

theorem DeliveryRun.accounted {contract : Call → Contract}
    {permitted : (gatewayMachine digests host).Move → Prop} {origin : World}
    {phases : List (Call × Phase)}
    (run : DeliveryRun digests host contract permitted origin world phases trace)
    (empty : origin.ledger = ∅) (unanswered : origin.records = ∅)
    (plans : ∀ call plan, (contract call).plan plan → plan.Consistent required)
    (indirect : ∀ call, ¬(contract call).direct)
    (keyed : ∀ call name, (contract call).key name → name = key)
    (served : ∀ event ∈ trace, Served event) :
    RecordsBound key world ∧
      ∀ (task : Nat) (call : Call) (phase : Phase), phases[task]? = some (call, phase) →
        Accounted (contract call) key world trace task phase := by
  refine Machine.Phased.maintains_while Served (fun (world : World) _ => RecordsBound key world)
    (fun (world : World) trace task call phase =>
      Accounted (contract call) key world trace task phase) ?boot ?start ?step ?outside run served
  case boot =>
    intro record stored
    simp [unanswered] at stored
  case start =>
    intro world phases trace call _ run _
    have fresh : ∀ event ∈ trace, event.task ≠ phases.length := fun event member =>
      Nat.ne_of_lt (run.trace_tasks event member)
    exact ⟨by simp,
      fun event member ownTask => absurd ownTask (fresh event member),
      fun event member ownTask => absurd ownTask (fresh event member)⟩
  case step =>
    intro world after phases trace task call phase op choice answer run each holder allowed _
      performed served bound
    have placed := (DeliveryRun.sound run empty plans).2 task call phase holder
    refine ⟨bound.step placed allowed performed, ?_, ?_⟩
    · exact (each task call phase holder).step_own bound placed
        (DeliveryRun.planned run task call phase holder) allowed (indirect call) (keyed call)
        performed served
    · exact fun other started otherPhase different _ old =>
        old.step_other different (World.perform_effect performed)
  case outside =>
    intro world trace event _ bound
    have records : (event.apply host world).records = world.records := by
      cases event <;> rfl
    refine ⟨fun record stored => ?_, fun task call phase old => ⟨?_, ?_, old.persisted⟩⟩
    · show (event.apply host world).ledger.fingerprint? key = _
      rw [event.apply_fingerprint]
      exact bound record (records ▸ stored)
    · intro record loaded
      show (event.apply host world).ledger.fingerprint? key = _
      rw [event.apply_fingerprint]
      exact old.loaded record loaded
    · intro earlier member ownTask reaches
      obtain ⟨plan, promised, fingerprint⟩ := old.reached earlier member ownTask reaches
      refine ⟨plan, promised, ?_⟩
      show (event.apply host world).ledger.fingerprint? plan.deliveryKey = _
      rw [event.apply_fingerprint]
      exact fingerprint

/-! ## Runs -/

/-- The call neither reaches its adapter nor, when it has ended, got as far as a plan without
being told of the conflict. -/
def ShutOut (last : (gatewayMachine digests host).System) (task : Nat) (rest : Routine Outcome) :
    Prop :=
  (∀ event ∈ last.trace, event.task = task → event.op.reachesAdapter = false) ∧
    ∀ result, rest = .ret result → IsConflict result ∨ isSent result = false ∧
      ∀ event ∈ last.trace, event.task = task → event.op.persists = false

structure NotifiedOnce (origin : World) (last : (gatewayMachine digests host).System) : Prop where
  once : last.trace.Pairwise Apart
  exclusive : ∀ (task other : Nat) (call rival : Call) (program rest : Routine Outcome)
    (effective different : Json) (event : (gatewayMachine digests host).Event),
    last.tasks[task]? = some (call, program) → last.tasks[other]? = some (rival, rest) →
    Requests origin call effective → Requests origin rival different → effective ≠ different →
    event ∈ last.trace → event.task = task → event.op.reachesAdapter = true →
    ShutOut last other rest

/-- A plan that the ledger took names the effective request of its call. -/
theorem plan_fingerprint {origin : World} {moves : List (gatewayMachine digests host).Move}
    {call : Call} {plan : Plan} {effective : Json}
    (own : (notifyContract origin moves key call).plan plan)
    (requests : Requests origin call effective)
    (bound : world.ledger.fingerprint? plan.deliveryKey = some plan.fingerprint) :
    world.ledger.fingerprint? key = some (digests.fingerprint effective) := by
  obtain ⟨request, route, adapter, timestamp, items, -, sends, -, -, rfl⟩ := own
  obtain rfl := requests.unique ⟨request, route, sends, rfl⟩
  exact bound

/-- A notification that ends while the ledger admits another request was told of the conflict, or
never got to a plan. -/
theorem NotifyEnd.shutOut {origin : World} {rival : Call} {different : Json} {result : Outcome}
    {own : Contract} (ended : NotifyEnd digests origin rival phase result)
    (accounted : Accounted own key world trace task phase)
    (rivals : Requests origin rival different)
    (excluded : world.ledger.fingerprint? key ≠ some (digests.fingerprint different))
    (unplanned : phase.plan? = none) :
    IsConflict result ∨ isSent result = false ∧
      ∀ event ∈ trace, event.task = task → event.op.persists = false := by
  have untried : ¬phase.Planned → ∀ event ∈ trace, event.task = task →
      event.op.persists = false := by
    intro early event member ownTask
    by_contra persists
    exact early (accounted.persisted event member ownTask (Bool.not_eq_false _ ▸ persists))
  rcases ended with ⟨rfl, unsent⟩ | ⟨request, route, sends, done⟩
  · exact Or.inr ⟨unsent, untried (by simp [Phase.Planned, Phase.plan?])⟩
  obtain rfl := rivals.unique ⟨request, route, sends, rfl⟩
  cases phase with
  | idle => exact Or.inr ⟨done, untried (by simp [Phase.Planned, Phase.plan?])⟩
  | loaded record =>
      rcases done with ⟨-, conflict⟩ | ⟨same, -⟩
      · exact Or.inl conflict
      · have bound := accounted.loaded record rfl
        rw [same] at bound
        exact absurd bound excluded
  | refused error =>
      obtain ⟨unsent, conflicts⟩ := done
      by_cases conflict : Text.contains error.text "conflict" = true
      · exact Or.inl (conflicts conflict)
      · exact Or.inr ⟨unsent, untried (by simpa [Phase.Planned, Phase.plan?] using conflict)⟩
  | planned _ | materializing _ _ _ | ready _ _ | claimed _ _ _ | sent _ _ _ _ | recorded _ _ _ _
  | spoiled _ _ _ | settled _ _ _ | saved _ _ | stopped _ => simp [Phase.plan?] at unplanned

/-- Notifications under one key, however they overlap and fail, send each item at most once, and
only one of their effective requests ever reaches an adapter. -/
theorem notifications_are_delivered_once (routes : Std.TreeMap String Json) (directory : Directory)
    (key : String) (moves : List (gatewayMachine digests host).Move)
    (last : (gatewayMachine digests host).System)
    (under : ∀ move ∈ moves, NotifiesUnder key move)
    (noRestart : ∀ now ttl, .outside (.reconcileCache now ttl) ∉ moves)
    (distinct : CollisionFree (World.initial routes directory) moves)
    (undisturbed : ∀ event ∈ last.trace, Undisturbed event)
    (played : (Machine.System.boot (World.initial routes directory)).play moves = some last) :
    NotifiedOnce (World.initial routes directory) last := by
  obtain ⟨phases, run, tracks⟩ := notify_run under played
  have plans := fun call plan (own : (notifyContract (World.initial routes directory) moves key
    call).plan plan) => notifyContract_consistent distinct own
  have placed := (DeliveryRun.sound run rfl plans).2
  have accounts := (DeliveryRun.accounted run rfl rfl plans (fun _ => id) (fun _ _ same => same)
    fun event member => (undisturbed event member).served).2
  refine ⟨DeliveryRun.deliveredOnce run rfl plans noRestart undisturbed, ?_⟩
  intro task other call rival program rest effective different event found otherFound requests
    rivals apart member ownTask reaches
  obtain ⟨phase, listed, -⟩ := tracks.follows task call program found
  obtain ⟨otherPhase, otherListed, follows⟩ := tracks.follows other rival rest otherFound
  obtain ⟨plan, own, bound⟩ :=
    (accounts task call phase listed).reached event member ownTask reaches
  have admitted := plan_fingerprint own requests bound
  -- The ledger names one fingerprint, and different requests have different ones.
  have excluded : last.world.ledger.fingerprint? key ≠ some (digests.fingerprint different) := by
    intro same
    exact apart (distinct call rival effective different (run.started task call phase listed)
      (run.started other rival otherPhase otherListed) requests rivals
      (Option.some.inj (admitted.symm.trans same)))
  have accounted := accounts other rival otherPhase otherListed
  constructor
  · intro event member ownTask
    by_contra reaches
    obtain ⟨plan, own, bound⟩ :=
      accounted.reached event member ownTask (Bool.not_eq_false _ ▸ reaches)
    exact excluded (plan_fingerprint own rivals bound)
  · rintro result rfl
    have ended : NotifyEnd digests (World.initial routes directory) rival otherPhase result :=
      follows
    refine ended.shutOut accounted rivals excluded ?_
    cases planned : otherPhase.plan? with
    | none => rfl
    | some plan =>
        have fingerprint := ((placed other rival otherPhase otherListed).planned plan planned).2.1
        have own := DeliveryRun.planned run other rival otherPhase otherListed plan planned
        exact absurd (plan_fingerprint own rivals fingerprint) excluded

end

/-! ## Two notices under one key -/

def doorNotice (body : String) : Json :=
  .obj [("content", .obj [("body", .str body)]),
    ("delivery", .obj [("idempotency_key", .str "k"), ("mode", .str "send")]),
    ("destination", .obj [("id", .str "chat"), ("platform", .str "webhook")]),
    ("notification_id", .str "n1")]

/-- SHA-256 on the two effective requests and on the key. -/
def doorDigests : Digests where
  fingerprint request :=
    if (request.pointer ["content", "body"]).bind Json.asStr = some "door open" then
      "e76b03be38acea529fbd95d9b9d5dbca54e06a9b1cbbf0e70bcc32ac658d6ae8"
    else "ecf039efff2f6d4ae39b9093b7377d2e52156580c63d2b3fc41e006191f663a9"
  stableId label _ _ := label ++ "8254c329a92850f6d539dd37"

def doorCall (body : String) : Call :=
  .notify textGateway (doorNotice body) none

/-- Two calls of one notice and one of another overlap; the first to plan sends. -/
def doorRun : List (gatewayMachine doorDigests offlineHost).Move :=
  [.start (doorCall "door open"), .start (doorCall "door open"), .start (doorCall "door closed")] ++
    List.replicate 4 (.step 0 (smoothChoice 0 ⟨1⟩)) ++
    List.replicate 4 (.step 1 (smoothChoice 0 ⟨2⟩)) ++
    List.replicate 3 (.step 2 (smoothChoice 0 ⟨3⟩)) ++
    List.replicate 5 (.step 0 (smoothChoice 0 ⟨4⟩))

theorem doorRun_moves {move : (gatewayMachine doorDigests offlineHost).Move}
    (member : move ∈ doorRun) :
    (∃ body, move = .start (doorCall body) ∧ (body = "door open" ∨ body = "door closed")) ∨
      ∃ task token, move = .step task (smoothChoice 0 token) := by
  simp only [doorRun, List.mem_append, List.mem_cons, List.mem_replicate, List.not_mem_nil,
    or_false] at member
  rcases member with ((((rfl | rfl | rfl) | ⟨-, rfl⟩) | ⟨-, rfl⟩) | ⟨-, rfl⟩) | ⟨-, rfl⟩
  · exact Or.inl ⟨_, rfl, Or.inl rfl⟩
  · exact Or.inl ⟨_, rfl, Or.inl rfl⟩
  · exact Or.inl ⟨_, rfl, Or.inr rfl⟩
  · exact Or.inr ⟨_, _, rfl⟩
  · exact Or.inr ⟨_, _, rfl⟩
  · exact Or.inr ⟨_, _, rfl⟩
  · exact Or.inr ⟨_, _, rfl⟩

theorem doorNotice_key {body : String} {request : NotificationRequest}
    (known : body = "door open" ∨ body = "door closed")
    (read : readNotification (doorNotice body) none = .ok request) :
    request.idempotencyKey = "k" := by
  have keys : ∀ body ∈ ["door open", "door closed"],
      (match readNotification (doorNotice body) none with
        | .ok request => request.idempotencyKey
        | .error _ => "") = "k" := by decide
  have key := keys body (by simpa using known)
  rw [read] at key
  exact key

theorem doorRun_under : ∀ move ∈ doorRun, NotifiesUnder "k" move := by
  intro move member
  obtain ⟨body, rfl, known⟩ | ⟨task, token, rfl⟩ := doorRun_moves member
  · exact fun request read => doorNotice_key known read
  · trivial

/-- The digest under which a notice opens its plan, when it is read and routed. -/
def doorDigest? (body : String) : Option String :=
  match readNotification (doorNotice body) none with
  | .ok request =>
      match routeIn (World.initial ∅ ∅) request with
      | .ok route => some (doorDigests.fingerprint (effectiveRequest request route))
      | .error _ => none
  | .error _ => none

theorem doorRun_digest {call : Call} {effective : Json}
    (started : .start call ∈ doorRun) (requests : Requests (World.initial ∅ ∅) call effective) :
    ∃ body, call = doorCall body ∧ (body = "door open" ∨ body = "door closed") ∧
      (doorDigests.fingerprint effective =
        "e76b03be38acea529fbd95d9b9d5dbca54e06a9b1cbbf0e70bcc32ac658d6ae8" ↔ body = "door open") := by
  have digests : ∀ body ∈ ["door open", "door closed"],
      (doorDigest? body).all (fun digest => digest =
          "e76b03be38acea529fbd95d9b9d5dbca54e06a9b1cbbf0e70bcc32ac658d6ae8" ↔
            body = "door open") := by decide
  obtain ⟨body, same, known⟩ | ⟨task, token, step⟩ := doorRun_moves started
  · obtain rfl := Machine.Move.start.inj same
    obtain ⟨request, route, ⟨read, routed⟩, rfl⟩ := requests
    have digest := digests body (by simpa using known)
    rw [doorDigest?, read] at digest
    dsimp only at digest
    rw [routed] at digest
    exact ⟨body, rfl, known, by simpa using digest⟩
  · simp at step

theorem doorRun_distinct : CollisionFree (World.initial ∅ ∅) doorRun := by
  intro call other effective different started otherStarted requests rivals same
  obtain ⟨body, rfl, known, digest⟩ := doorRun_digest started requests
  obtain ⟨otherBody, rfl, otherKnown, otherDigest⟩ := doorRun_digest otherStarted rivals
  rw [same, otherDigest] at digest
  have bodies : body = otherBody := by
    rcases known with rfl | rfl <;> rcases otherKnown with rfl | rfl <;> simp_all
  subst bodies
  exact requests.unique rivals

theorem overlapping_notices_are_sent_once :
    ∃ last, (Machine.System.boot (World.initial ∅ ∅)).play doorRun = some last ∧
      last.trace.any (fun event => (deliveredBy event).isSome) = true ∧
      NotifiedOnce (World.initial ∅ ∅) last := by
  have plays : ((Machine.System.boot (World.initial ∅ ∅)).play doorRun).map (fun last =>
      (last.trace.any fun event => (deliveredBy event).isSome) &&
        decide (∀ event ∈ last.trace, LeasesHold event)) = some true := by decide
  obtain ⟨last, played, checked⟩ := Option.map_eq_some_iff.mp plays
  simp only [Bool.and_eq_true, decide_eq_true_eq] at checked
  obtain ⟨phases, run, -⟩ := notify_run doorRun_under played
  refine ⟨last, played, checked.1, notifications_are_delivered_once ∅ ∅ "k" doorRun last
    doorRun_under ?_ doorRun_distinct ?_ played⟩
  · intro now ttl member
    obtain ⟨body, same, -⟩ | ⟨task, token, same⟩ := doorRun_moves member <;> simp at same
  · intro event member
    refine ⟨fun _ => ?_, checked.2 event member⟩
    obtain ⟨choice, chosen, performed⟩ := run.performed event member
    obtain ⟨body, same, -⟩ | ⟨task, token, same⟩ := doorRun_moves chosen
    · simp at same
    · simp only [Machine.Move.step.injEq] at same
      exact ⟨choice, by rw [same.2]; rfl, performed⟩

end HarborGate
