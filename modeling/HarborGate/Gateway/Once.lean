import HarborGate.Gateway.Notified
import HarborGate.Store.Terminal

/-!
An item goes out at most once while leases hold and the store takes what it is given: whoever
sends it holds the one live claim on it, and gives the claim up only with the success on record.
-/

namespace HarborGate

open Interleave

/-! ## Items that a send has succeeded on -/

/-- The claim under which the adapter took an item. -/
def Op.delivered? : (op : Op) → Ans op → Option StageContext
  | .sendPreparedOutbound _ _ _ context, .ok _ => some context
  | _, _ => none

/-- The stage that the ledger refused to take. -/
def Op.refusedStage? : (op : Op) → Ans op → Option DeliveryStageCompletion
  | .finishDeliveryStage completion, .error _ => some completion
  | _, _ => none

/-- The operations that write `_deliveries.json` or `_delivery_items.json`. -/
def Op.writes : Op → Bool
  | .saveDeliveryRecord _ _ | .persistDeliveryPlan _ _ _ _ | .claimDeliveryMaterialization _ _ _ _
  | .finishDeliveryMaterialization _ | .claimDeliveryItem _ | .recordDeliveryItemUpload _
  | .finishDeliveryStage _ | .finishDeliveryItem _ => true
  | _ => false

section

variable {step : LedgerStep} {deliveryKey itemKey : String} {item moved granted : LedgerItem}

/-- A succeeded item stays one, with the message id it has. -/
theorem ItemMove.succeeded (move : ItemMove step deliveryKey itemKey item moved)
    (settled : item.Settled) (succeeded : item.status = .succeeded) :
    moved.status = .succeeded ∧ moved.providerMessageId = item.providerMessageId := by
  cases move with
  | keep | plan _ | claimMaterialization _ _ _ _ _ _ _ => exact ⟨succeeded, rfl⟩
  | finishMaterialization completion nested _ _ present active =>
      obtain ⟨ended, found, status⟩ := settled
      obtain rfl := Option.some.inj (found.symm.trans present)
      have running := (requireActiveNestedClaim_ok active).1
      simp [running] at status
  | claim _ _ _ _ _ unsuccessful _ _ _ => exact absurd succeeded unsuccessful
  | recordUpload _ _ _ active | finishStage _ _ _ active | finishItem _ _ _ active =>
      simp [active.sending] at succeeded
  | reconcile ttl _ =>
      have terminal : item.Terminal := Or.inl succeeded
      exact ⟨(terminal.reconcileItem step.now ttl).1.trans succeeded,
        (reconcileItem_frame step.now ttl item).providerMessageId⟩

end

/-- The item is still held under the claim that left it as `granted`. -/
def Alive (granted : LedgerItem) (world : World) (deliveryKey itemKey : String) (token : Uuid) :
    Prop :=
  Leased granted ∧ ∃ item, world.ledger.item? deliveryKey itemKey = some item ∧
    LiveClaim granted item token

/-- A lease beyond the year 9999 is written but cannot be read back: it neither expires nor
admits any use of the claim. -/
def Unreadable (granted : LedgerItem) : Prop :=
  ∀ instant, granted.claimExpiresAt ≠ .at instant

section

variable {digests : Digests} {host : FleetHost}

def deliveredBy (event : (gatewayMachine digests host).Event) : Option StageContext :=
  event.op.delivered? event.answer

/-- The store took the write, or refused it for a reason of its own. -/
def Served (event : (gatewayMachine digests host).Event) : Prop :=
  event.op.writes = true → ∃ choice : Choice, choice.failure = none ∧
    World.perform host event.before event.op choice = some (event.answer, event.after)

/-- No lease of an item that is being sent has run out. -/
def LeasesHold (event : (gatewayMachine digests host).Event) : Prop :=
  ∀ deliveryKey itemKey item, event.before.ledger.item? deliveryKey itemKey = some item →
    item.status = .sending → deliveryClaimIsUnexpired event.after.now item ≠ .ok false

instance (event : (gatewayMachine digests host).Event) : Decidable (LeasesHold event) :=
  decidable_of_iff (∀ entry ∈ event.before.ledger.toList, ∀ named ∈ entry.2.items.toList,
      named.2.status = .sending → deliveryClaimIsUnexpired event.after.now named.2 ≠ .ok false) <| by
    constructor
    · intro all deliveryKey itemKey item present sending
      obtain ⟨record, stored, found⟩ := item?_some.mp present
      exact all (deliveryKey, record) (Std.TreeMap.mem_toList_iff_getElem?_eq_some.mpr stored)
        (itemKey, item) (Std.TreeMap.mem_toList_iff_getElem?_eq_some.mpr found) sending
    · rintro holds ⟨deliveryKey, record⟩ stored ⟨itemKey, item⟩ found
      exact holds deliveryKey itemKey item (item?_some.mpr
        ⟨record, Std.TreeMap.mem_toList_iff_getElem?_eq_some.mp stored,
          Std.TreeMap.mem_toList_iff_getElem?_eq_some.mp found⟩)

structure Undisturbed (event : (gatewayMachine digests host).Event) : Prop where
  served : Served event
  leases : LeasesHold event

variable {required : String → String → String → Prop} {world after : World} {contract : Contract}
  {phase : Phase} {op : Op} {choice : Choice} {answer : Ans op} {task : Nat}
  {trace : List (gatewayMachine digests host).Event} {deliveryKey itemKey : String} {token : Uuid}
  {granted : LedgerItem}

/-- While leases hold, a claim ends only with `finish_delivery_item`. -/
theorem Alive.step (alive : Alive granted world deliveryKey itemKey token)
    (sound : LedgerSound required world.ledger)
    (effect : LedgerEffect world after choice op answer) (clock : after.now = choice.now)
    (leases : LeasesHold
      (⟨task, op, answer, world, after⟩ : (gatewayMachine digests host).Event)) :
    Alive granted after deliveryKey itemKey token ∨
      ∃ completion item, op = .finishDeliveryItem completion ∧ op.commits answer = true ∧
        completion.claimToken = token ∧ after.ledger.item? deliveryKey itemKey = some item ∧
        item.status = completion.status ∧ item.claimToken = some token := by
  obtain ⟨leased, item, present, live⟩ := alive
  obtain ⟨step, moved, found, move, moves⟩ := effect.moves present
  have settled := (sound _ _ _ present).claimed (by simp [live.holder])
  rcases moves with rfl | cause
  · exact Or.inl ⟨leased, moved, found, live⟩
  rcases live.moves settled move with stays | lapsed | ⟨completion, finishes, same, status⟩ |
    ⟨ttl, reconciles⟩
  · exact Or.inl ⟨leased, moved, found, stays⟩
  · rw [cause.now, ← clock] at lapsed
    exact absurd lapsed (leases _ _ _ present live.sending)
  · refine Or.inr ⟨completion, moved, Op.ledgerOp_finishItem (finishes ▸ cause.operation),
      cause.commits, same, found, status, ?_⟩
    rcases move.claimToken with kept | ⟨drawn, request, claims, -⟩
    · exact kept.trans live.holder
    · simp [finishes] at claims
  · exact absurd (reconciles ▸ cause.operation) (Op.ledgerOp_ne_reconcile ttl)

/-- A granted claim is alive. -/
theorem LedgerEffect.alive (effect : LedgerEffect world after choice op answer)
    (grants : op.grant? answer = some (deliveryKey, itemKey, token)) :
    ∃ granted, Alive granted after deliveryKey itemKey token := by
  obtain ⟨request, source, lease, -, -, -, -, expiry, present⟩ := effect.grants grants
  exact ⟨_, .claim expiry, _, present, rfl, rfl, rfl, _, rfl⟩

/-- The ledger refuses the stage of a live claim only if it cannot read the lease. -/
theorem Alive.stage_refused {completion : DeliveryStageCompletion}
    (alive : Alive granted world completion.deliveryKey completion.itemKey completion.claimToken)
    (refuses : op.refusedStage? answer = some completion)
    (undisturbed : Undisturbed
      (⟨task, op, answer, world, after⟩ : (gatewayMachine digests host).Event)) :
    Unreadable granted := by
  cases op with
  | finishDeliveryStage reported =>
      cases answer with
      | ok done => simp [Op.refusedStage?] at refuses
      | error error =>
          obtain rfl : reported = completion := Option.some.inj refuses
          intro instant lease
          obtain ⟨-, item, present, live⟩ := alive
          obtain ⟨choice, healthy, performed⟩ := undisturbed.served rfl
          have clock := (World.perform_evolves performed).clock.2
          have holds := undisturbed.leases _ _ _ present live.sending
          obtain ⟨stamp, stamped⟩ := live.stamped
          have unexpired : deliveryClaimIsUnexpired choice.now item = .ok true := by
            rw [clock] at holds
            simp only [deliveryClaimIsUnexpired, leaseIsUnexpired, stamped, live.lease, lease, ne_eq,
              Except.ok.injEq, decide_eq_false_iff_not, not_not] at holds ⊢
            simpa using holds
          simp only [World.perform] at performed
          split at performed
          · simp at performed
          have refused := (World.ledgerStep_error performed).2 healthy
          obtain ⟨record, stored, found⟩ := item?_some.mp present
          have located := locateClaimed_ok.mpr
            ⟨stored, found, live.sending, live.holder, unexpired⟩
          simp [finishDeliveryStage, located, bind, Except.bind, Except.map, pure,
            Except.pure] at refused
  | _ => simp [Op.refusedStage?] at refuses

/-- A claim with an unreadable lease cannot be finished. -/
theorem Alive.unreadable_stays {completion : DeliveryItemCompletion} {path : Option String}
    (alive : Alive granted world completion.deliveryKey completion.itemKey token)
    (unreadable : Unreadable granted)
    (effect : LedgerEffect world after choice (.finishDeliveryItem completion) (.ok path)) :
    False := by
  obtain ⟨leased, item, present, live⟩ := alive
  cases effect with
  | still same silent => simp [Op.commits] at silent
  | finishItem ok =>
      obtain ⟨stored, use⟩ := finishDeliveryItem_ok ok
      obtain rfl := Option.some.inj (use.present.symm.trans present)
      have read := use.active.unexpired
      rw [leased.unexpired_eq (live.leased leased) live.lease] at read
      simp only [deliveryClaimIsUnexpired, leaseIsUnexpired] at read
      split at read
      · simp [bail] at read
      · simp [bail] at read
      · split at read
        · rename_i expiry lease
          exact unreadable expiry lease
        · rename_i lease
          exact leased.lease lease
        · simp [bail] at read
        · simp [bail] at read

/-! ## The invariant -/

/-- Two sends that the adapter took are of different items. -/
def Apart (first second : (gatewayMachine digests host).Event) : Prop :=
  ∀ context again, deliveredBy first = some context → deliveredBy second = some again →
    ¬(context.deliveryKey = again.deliveryKey ∧ context.itemKey = again.itemKey)

/-- The item of this send is a success on record, or the claim of the send still stands. -/
def Spent (world : World) (context : StageContext) : Prop :=
  (∃ item, world.ledger.item? context.deliveryKey context.itemKey = some item ∧
    item.claimToken ≠ none ∧ item.status = .succeeded) ∨
  ∃ granted, Alive granted world context.deliveryKey context.itemKey context.claimToken

structure DeliveredKept (world : World) (trace : List (gatewayMachine digests host).Event) :
    Prop where
  once : trace.Pairwise Apart
  spent : ∀ event ∈ trace, ∀ context, deliveredBy event = some context →
    context.claimToken ∈ world.issued ∧ Spent world context

/-- Whoever holds a claim holds it in the ledger, and has not sent under it before it says so. -/
structure Holding (world : World) (trace : List (gatewayMachine digests host).Event)
    (phase : Phase) : Prop where
  live : ∀ plan itemKey token, phase.claim? = some (plan, itemKey, token) →
    ∃ granted, Alive granted world plan.deliveryKey itemKey token
  unsent : ∀ plan itemKey token, phase = .claimed plan itemKey token →
    ∀ event ∈ trace, ∀ context, deliveredBy event = some context → context.claimToken ≠ token
  spoiled : ∀ plan itemKey token, phase = .spoiled plan itemKey token →
    ∃ granted, Alive granted world plan.deliveryKey itemKey token ∧ Unreadable granted

theorem Allowed.delivers {context : StageContext} (allowed : Allowed contract phase op)
    (delivered : op.delivered? answer = some context) :
    op.commits answer = false ∧ ∃ plan itemKey token, phase = .claimed plan itemKey token ∧
      Addresses plan itemKey token context.deliveryKey context.itemKey context.claimToken ∧
      ∃ response, phase.next op answer = .sent plan itemKey token response := by
  cases op with
  | sendPreparedOutbound adapter outbound prepared under =>
      cases answer with
      | error error => simp [Op.delivered?] at delivered
      | ok response =>
          obtain rfl : under = context := Option.some.inj delivered
          cases allowed with
          | neutral harmless => simp [Op.isNeutral] at harmless
          | send addresses => exact ⟨rfl, _, _, _, rfl, addresses, response, rfl⟩
  | _ => simp [Op.delivered?] at delivered

theorem Allowed.finishes {completion : DeliveryItemCompletion}
    (allowed : Allowed contract phase (.finishDeliveryItem completion)) :
    ∃ plan itemKey token, phase.claim? = some (plan, itemKey, token) ∧
      Addresses plan itemKey token completion.deliveryKey completion.itemKey
        completion.claimToken ∧
      (completion.status = .succeeded ∨ phase = .claimed plan itemKey token ∨
        phase = .spoiled plan itemKey token) := by
  cases allowed with
  | neutral harmless => simp [Op.isNeutral] at harmless
  | itemSucceeded addresses status _ => exact ⟨_, _, _, rfl, addresses, Or.inl status⟩
  | itemFailed holder addresses _ _ =>
      refine ⟨_, _, _, ?_, addresses, Or.inr holder⟩
      rcases holder with rfl | rfl <;> rfl

/-- A finish that the ledger took reports a success if anything was sent under its claim. -/
theorem Holding.finishes {completion : DeliveryItemCompletion}
    {event : (gatewayMachine digests host).Event} {context : StageContext}
    (holding : Holding world trace phase)
    (allowed : Allowed contract phase (.finishDeliveryItem completion)) {path : Option String}
    (effect : LedgerEffect world after choice (.finishDeliveryItem completion) (.ok path))
    (member : event ∈ trace) (delivered : deliveredBy event = some context)
    (same : completion.claimToken = context.claimToken) : completion.status = .succeeded := by
  obtain ⟨plan, itemKey, token, -, addresses, succeeded | rfl | rfl⟩ := allowed.finishes
  · exact succeeded
  · exact absurd (same.symm.trans addresses.claim)
      (holding.unsent plan itemKey token rfl event member context delivered)
  · obtain ⟨granted, alive, unreadable⟩ := holding.spoiled plan itemKey token rfl
    rw [← addresses.delivery, ← addresses.item] at alive
    exact (alive.unreadable_stays unreadable effect).elim

theorem Spent.step {event : (gatewayMachine digests host).Event} {context : StageContext}
    (spent : Spent world context) (sound : LedgerSound required world.ledger)
    (holding : Holding world trace phase) (allowed : Allowed contract phase op)
    (effect : LedgerEffect world after choice op answer) (clock : after.now = choice.now)
    (leases : LeasesHold (⟨task, op, answer, world, after⟩ : (gatewayMachine digests host).Event))
    (member : event ∈ trace) (delivered : deliveredBy event = some context) :
    Spent after context := by
  rcases spent with ⟨item, present, claimed, succeeded⟩ | ⟨granted, alive⟩
  · obtain ⟨step, moved, found, move, -⟩ := effect.moves present
    have settled := (sound _ _ _ present).claimed claimed
    exact Or.inl ⟨moved, found, move.claimToken_ne_none claimed, (move.succeeded settled succeeded).1⟩
  · rcases alive.step sound effect clock leases with stays |
      ⟨completion, item, rfl, commits, same, found, status, held⟩
    · exact Or.inr ⟨granted, stays⟩
    · cases answer with
      | error error => simp [Op.commits] at commits
      | ok path =>
          refine Or.inl ⟨item, found, by simp [held], ?_⟩
          rw [status, holding.finishes allowed effect member delivered same]

theorem DeliveredKept.step (kept : DeliveredKept world trace)
    (grants : GrantsKept world trace) (own : Granted trace task phase)
    (sound : LedgerSound required world.ledger) (holding : Holding world trace phase)
    (allowed : Allowed contract phase op)
    (performed : World.perform host world op choice = some (answer, after))
    (undisturbed : Undisturbed
      (⟨task, op, answer, world, after⟩ : (gatewayMachine digests host).Event)) :
    DeliveredKept after (trace ++ [⟨task, op, answer, world, after⟩]) := by
  have effect := World.perform_effect performed
  have clock := (World.perform_evolves performed).clock.2
  constructor
  · refine List.pairwise_append.mpr ⟨kept.once, List.pairwise_singleton _ _, ?_⟩
    intro event member last new context again delivered deliveredAgain sameItem
    obtain rfl := List.mem_singleton.mp new
    obtain ⟨-, plan, itemKey, token, rfl, addresses, -⟩ := allowed.delivers deliveredAgain
    obtain ⟨granted, -, item, present, live⟩ := holding.live plan itemKey token rfl
    rw [← addresses.delivery, ← addresses.item, ← sameItem.1, ← sameItem.2] at present
    rcases (kept.spent event member context delivered).2 with
      ⟨stored, found, -, succeeded⟩ | ⟨claim, -, stored, found, alive⟩
    · obtain rfl := Option.some.inj (found.symm.trans present)
      simp [live.sending] at succeeded
    · obtain rfl := Option.some.inj (found.symm.trans present)
      exact holding.unsent plan itemKey token rfl event member context delivered
        (Option.some.inj (alive.holder.symm.trans live.holder))
  · intro event member context delivered
    rcases List.mem_append.mp member with old | new
    · obtain ⟨issued, spent⟩ := kept.spent event old context delivered
      exact ⟨World.perform_issued performed issued,
        spent.step sound holding allowed effect clock undisturbed.leases old delivered⟩
    · obtain rfl := List.mem_singleton.mp new
      obtain ⟨silent, plan, itemKey, token, rfl, addresses, -⟩ := allowed.delivers delivered
      obtain ⟨grant, grantMember, -, granted⟩ := own plan itemKey token rfl
      obtain ⟨claim, alive⟩ := holding.live plan itemKey token rfl
      have still : after.ledger = world.ledger := by
        rcases effect.applied with same | ⟨commits, -⟩
        · exact same
        · simp [silent] at commits
      rw [addresses.claim]
      refine ⟨World.perform_issued performed (grants.issued grant grantMember _ _ _ granted),
        Or.inr ⟨claim, ?_⟩⟩
      rw [addresses.delivery, addresses.item, addresses.claim, Alive, still]
      exact alive

/-- Only a stage that the ledger refused spoils a send. -/
theorem Phase.next_spoiled {plan : Plan} (next : phase.next op answer = .spoiled plan itemKey token) :
    phase = .spoiled plan itemKey token ∨ ∃ completion response,
      op.refusedStage? answer = some completion ∧ phase = .sent plan itemKey token response := by
  cases op with
  | loadDeliveryRecord _ | saveDeliveryRecord _ _ | persistDeliveryPlan _ _ _ _
  | claimDeliveryMaterialization _ _ _ _ | finishDeliveryMaterialization _ | claimDeliveryItem _
  | sendPreparedOutbound _ _ _ _ | finishDeliveryItem _ =>
      refine Or.inl ?_
      simp only [Phase.next] at next
      repeat' split at next
      all_goals first | exact next | simp at next
  | finishDeliveryStage completion =>
      simp only [Phase.next] at next
      split at next
      · simp at next
      · rename_i response error
        simp only [Phase.spoiled.injEq] at next
        obtain ⟨rfl, rfl, rfl⟩ := next
        exact Or.inr ⟨completion, response, rfl, rfl⟩
      · exact Or.inl next
  | resolveRoute _ | recordDeliveryItemUpload _ | retryableDeliveryPlans | fleetCheck _
  | fleetInvalidateIdentity _ | authorizeCameraAttachments _ | authorizeWhatsappDelivery _
  | materializeAttachments _ _ | prepareOutbound _ _ | sendOutbound _ _ | utcNowIso =>
      exact Or.inl next

/-- Whatever the ledger says, a call gives its claim up with `finish_delivery_item`. -/
theorem Allowed.finish_releases {completion : DeliveryItemCompletion} {reply : StoreResult (Option String)}
    (allowed : Allowed contract phase (.finishDeliveryItem completion)) :
    (phase.next (.finishDeliveryItem completion) reply).claim? = none := by
  cases allowed with
  | neutral harmless => simp [Op.isNeutral] at harmless
  | itemSucceeded _ _ _ => cases reply <;> rfl
  | itemFailed holder _ _ _ => rcases holder with rfl | rfl <;> rfl

/-- A claim that a call still holds after its step is still alive. -/
theorem Alive.keeps {plan : Plan} (alive : Alive granted world deliveryKey itemKey token)
    (sound : LedgerSound required world.ledger) (allowed : Allowed contract phase op)
    (effect : LedgerEffect world after choice op answer) (clock : after.now = choice.now)
    (leases : LeasesHold (⟨task, op, answer, world, after⟩ : (gatewayMachine digests host).Event))
    (held : (phase.next op answer).claim? = some (plan, itemKey, token)) :
    Alive granted after deliveryKey itemKey token := by
  rcases alive.step sound effect clock leases with stays | ⟨completion, -, rfl, -⟩
  · exact stays
  · rw [allowed.finish_releases] at held
    simp at held

theorem Holding.step_own (holding : Holding world trace phase) (kept : DeliveredKept world trace)
    (sound : LedgerSound required world.ledger) (allowed : Allowed contract phase op)
    (performed : World.perform host world op choice = some (answer, after))
    (undisturbed : Undisturbed
      (⟨task, op, answer, world, after⟩ : (gatewayMachine digests host).Event)) :
    Holding after (trace ++ [⟨task, op, answer, world, after⟩]) (phase.next op answer) := by
  have effect := World.perform_effect performed
  have clock := (World.perform_evolves performed).clock.2
  constructor
  · intro plan itemKey token held
    rcases Phase.next_claim held with same | ⟨planned, deliveryKey, grants⟩
    · obtain ⟨granted, alive⟩ := holding.live plan itemKey token same
      exact ⟨granted, alive.keeps sound allowed effect clock undisturbed.leases held⟩
    · obtain rfl := allowed.grant_key planned grants
      exact effect.alive grants
  · intro plan itemKey token next event member context delivered
    rcases List.mem_append.mp member with old | new
    · rcases Phase.next_claimed next with same | ⟨-, deliveryKey, grants⟩
      · exact holding.unsent plan itemKey token same event old context delivered
      · rintro rfl
        exact (effect.granted grants).1 (kept.spent event old context delivered).1
    · obtain rfl := List.mem_singleton.mp new
      obtain ⟨-, sentPlan, sentKey, used, -, -, response, sent⟩ := allowed.delivers delivered
      rw [sent] at next
      simp at next
  · intro plan itemKey token next
    have held : (phase.next op answer).claim? = some (plan, itemKey, token) := by rw [next]; rfl
    rcases Phase.next_spoiled next with same | ⟨completion, response, refuses, rfl⟩
    · obtain ⟨granted, alive, unreadable⟩ := holding.spoiled plan itemKey token same
      exact ⟨granted, alive.keeps sound allowed effect clock undisturbed.leases held, unreadable⟩
    · obtain ⟨granted, alive⟩ := holding.live plan itemKey token rfl
      have addresses : Addresses plan itemKey token completion.deliveryKey completion.itemKey
          completion.claimToken := by
        cases op with
        | finishDeliveryStage reported =>
            cases answer with
            | ok done => simp [Op.refusedStage?] at refuses
            | error error =>
                obtain rfl : reported = completion := Option.some.inj refuses
                cases allowed with
                | neutral harmless => simp [Op.isNeutral] at harmless
                | stageSucceeded addresses _ => exact addresses
        | _ => simp [Op.refusedStage?] at refuses
      refine ⟨granted, alive.keeps sound allowed effect clock undisturbed.leases held, ?_⟩
      rw [← addresses.delivery, ← addresses.item, ← addresses.claim] at alive
      exact alive.stage_refused refuses undisturbed

/-- A claim that another call holds survives the step. -/
theorem Alive.step_other {otherPhase : Phase} {other : Nat} {plan : Plan}
    (alive : Alive granted world plan.deliveryKey itemKey token)
    (held : otherPhase.claim? = some (plan, itemKey, token)) (different : other ≠ task)
    (kept : GrantsKept world trace) (own : Granted trace task phase)
    (otherOwn : Granted trace other otherPhase) (sound : LedgerSound required world.ledger)
    (allowed : Allowed contract phase op) (effect : LedgerEffect world after choice op answer)
    (clock : after.now = choice.now)
    (leases : LeasesHold
      (⟨task, op, answer, world, after⟩ : (gatewayMachine digests host).Event)) :
    Alive granted after plan.deliveryKey itemKey token := by
  rcases alive.step sound effect clock leases with stays | ⟨completion, -, rfl, -, same, -⟩
  · exact stays
  · obtain ⟨finished, name, used, holds, addresses, -⟩ := allowed.finishes
    rw [addresses.claim] at same
    subst same
    exact absurd (kept.holder_unique otherOwn own held holds) different

theorem Holding.step_other {otherPhase : Phase} {other : Nat}
    (holding : Holding world trace otherPhase) (different : other ≠ task)
    (kept : GrantsKept world trace) (own : Granted trace task phase)
    (otherOwn : Granted trace other otherPhase) (sound : LedgerSound required world.ledger)
    (allowed : Allowed contract phase op) (effect : LedgerEffect world after choice op answer)
    (clock : after.now = choice.now)
    (leases : LeasesHold
      (⟨task, op, answer, world, after⟩ : (gatewayMachine digests host).Event)) :
    Holding after (trace ++ [⟨task, op, answer, world, after⟩]) otherPhase := by
  constructor
  · intro plan itemKey token held
    obtain ⟨granted, alive⟩ := holding.live plan itemKey token held
    exact ⟨granted, alive.step_other held different kept own otherOwn sound allowed effect clock
      leases⟩
  · intro plan itemKey token claimed event member context delivered
    rcases List.mem_append.mp member with old | new
    · exact holding.unsent plan itemKey token claimed event old context delivered
    · obtain rfl := List.mem_singleton.mp new
      obtain ⟨-, sentPlan, sentKey, used, rfl, addresses, -⟩ := allowed.delivers delivered
      rw [addresses.claim]
      rintro rfl
      subst claimed
      exact different (kept.holder_unique otherOwn own rfl rfl)
  · intro plan itemKey token spoiled
    obtain ⟨granted, alive, unreadable⟩ := holding.spoiled plan itemKey token spoiled
    have held : otherPhase.claim? = some (plan, itemKey, token) := by rw [spoiled]; rfl
    exact ⟨granted, alive.step_other held different kept own otherOwn sound allowed effect clock
      leases, unreadable⟩

theorem DeliveryRun.deliveredOnce {contract : Call → Contract}
    {permitted : (gatewayMachine digests host).Move → Prop} {origin : World}
    {phases : List (Call × Phase)}
    (run : DeliveryRun digests host contract permitted origin world phases trace)
    (empty : origin.ledger = ∅)
    (plans : ∀ call plan, (contract call).plan plan → plan.Consistent required)
    (noRestart : ∀ now ttl, ¬permitted (.outside (.reconcileCache now ttl)))
    (undisturbed : ∀ event ∈ trace, Undisturbed event) : trace.Pairwise Apart := by
  have maintained := Machine.Phased.maintains_while Undisturbed DeliveredKept
    (fun (world : World) trace _ _ phase => Holding world trace phase)
    ⟨.nil, by simp⟩ ?start ?step ?outside run undisturbed
  · exact maintained.1.once
  case start => exact fun _ _ _ _ _ _ _ => ⟨by simp [Phase.claim?], by simp, by simp⟩
  case step =>
    intro world after phases trace task call phase op choice answer run each holder allowed _
      performed undisturbed kept
    obtain ⟨grants, granted⟩ := DeliveryRun.grants run empty
    have sound := (DeliveryRun.sound run empty plans).1
    have holding := each task call phase holder
    refine ⟨kept.step grants (granted task call phase holder) sound holding allowed performed
      undisturbed, holding.step_own kept sound allowed performed undisturbed, ?_⟩
    intro other started otherPhase different listed old
    exact old.step_other different grants (granted task call phase holder)
      (granted other started otherPhase listed) sound allowed (World.perform_effect performed)
      (World.perform_evolves performed).clock.2 undisturbed.leases
  case outside =>
    intro world trace event allowed kept
    cases event with
    | reconcileCache now ttl => exact absurd allowed (noRestart now ttl)
    | fleet _ | registerRoute _ _ =>
        exact ⟨⟨kept.once, kept.spent⟩, fun _ _ _ old => ⟨old.live, old.unsent, old.spoiled⟩⟩

end

end HarborGate
