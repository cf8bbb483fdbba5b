import HarborGate.Gateway.Calls

/-!
What one operation of a run does to the ledger, together with the answer the call gets: either
nothing is written, or the store function returned and the ledger is the one it wrote. The UUIDs
that calls hold are fresh, so a claim token names one claim.
-/

namespace HarborGate

open Interleave

/-- The operation is one on the ledger and the store accepted it. -/
def Op.commits : (op : Op) → Ans op → Bool
  | .persistDeliveryPlan _ _ _ _, .ok _ => true
  | .claimDeliveryMaterialization _ _ _ _, .ok _ => true
  | .finishDeliveryMaterialization _, .ok _ => true
  | .claimDeliveryItem _, .ok _ => true
  | .recordDeliveryItemUpload _, .ok _ => true
  | .finishDeliveryStage _, .ok _ => true
  | .finishDeliveryItem _, .ok _ => true
  | _, _ => false

inductive LedgerEffect (world after : World) (choice : Choice) : (op : Op) → Ans op → Prop
  | still {op : Op} {answer : Ans op} (same : after.ledger = world.ledger)
      (silent : op.commits answer = false) : LedgerEffect world after choice op answer
  | persistPlan {deliveryKey fingerprint : String} {outbound : OutboundMessage}
      {items : List DeliveryPlanItem}
      (ok : persistDeliveryPlan choice.now deliveryKey fingerprint outbound items world.ledger =
        .ok after.ledger) :
      LedgerEffect world after choice
        (.persistDeliveryPlan deliveryKey fingerprint outbound items) (.ok ())
  | claimMaterialization {deliveryKey itemKey owner : String} {leaseSeconds : Nat}
      {claim : MaterializationClaim}
      (ok : claimDeliveryMaterialization choice.now choice.token deliveryKey itemKey owner
        leaseSeconds world.ledger = .ok (claim, after.ledger)) :
      LedgerEffect world after choice
        (.claimDeliveryMaterialization deliveryKey itemKey owner leaseSeconds) (.ok claim)
  | finishMaterialization {completion : DeliveryMaterializationCompletion}
      (ok : finishDeliveryMaterialization choice.now completion world.ledger = .ok after.ledger) :
      LedgerEffect world after choice (.finishDeliveryMaterialization completion) (.ok ())
  | claimItem {request : DeliveryItemClaimRequest} {claim : ItemClaim}
      (fresh : choice.token ∉ world.issued)
      (issued : after.issued = choice.token :: world.issued)
      (ok : claimDeliveryItem choice.now choice.token request world.ledger =
        .ok (claim, after.ledger)) :
      LedgerEffect world after choice (.claimDeliveryItem request) (.ok claim)
  | recordUpload {upload : DeliveryItemUpload}
      (ok : recordDeliveryItemUpload choice.now upload world.ledger = .ok after.ledger) :
      LedgerEffect world after choice (.recordDeliveryItemUpload upload) (.ok ())
  | finishStage {completion : DeliveryStageCompletion}
      (ok : finishDeliveryStage choice.now completion world.ledger = .ok after.ledger) :
      LedgerEffect world after choice (.finishDeliveryStage completion) (.ok ())
  | finishItem {completion : DeliveryItemCompletion} {path : Option String}
      (ok : finishDeliveryItem choice.now completion world.ledger = .ok (path, after.ledger)) :
      LedgerEffect world after choice (.finishDeliveryItem completion) (.ok path)

theorem LedgerEffect.applied {world after : World} {choice : Choice} {op : Op} {answer : Ans op}
    (effect : LedgerEffect world after choice op answer) :
    after.ledger = world.ledger ∨ op.commits answer = true ∧
      ∃ ledgerOp, op.ledgerOp choice.token = some ledgerOp ∧
        after.ledger = LedgerStep.apply ⟨choice.now, ledgerOp⟩ world.ledger := by
  cases effect with
  | still same silent => exact Or.inl same
  | persistPlan ok | claimMaterialization ok | finishMaterialization ok | claimItem _ _ ok
  | recordUpload ok | finishStage ok | finishItem ok =>
      exact Or.inr ⟨rfl, _, rfl, by simp [LedgerStep.apply, ok, written]⟩

/-- How the step moved an item: not at all, or as the operation the store accepted does. -/
structure MovesBy (choice : Choice) (op : Op) (answer : Ans op) (step : LedgerStep) : Prop where
  now : step.now = choice.now
  operation : op.ledgerOp choice.token = some step.op
  commits : op.commits answer = true

/-- An item that exists stays, and moves as a ledger step moves it. -/
theorem LedgerEffect.moves {world after : World} {choice : Choice} {op : Op} {answer : Ans op}
    {deliveryKey itemKey : String} {item : LedgerItem}
    (effect : LedgerEffect world after choice op answer)
    (present : world.ledger.item? deliveryKey itemKey = some item) :
    ∃ step moved, after.ledger.item? deliveryKey itemKey = some moved ∧
      ItemMove step deliveryKey itemKey item moved ∧
      (moved = item ∨ MovesBy choice op answer step) := by
  rcases effect.applied with same | ⟨commits, ledgerOp, operation, applied⟩
  · exact ⟨⟨choice.now, .reconcileCache 0⟩, item, by rw [same, present], .keep, Or.inl rfl⟩
  · obtain ⟨moved, found, move⟩ := LedgerStep.apply_moves ⟨choice.now, ledgerOp⟩ present
    exact ⟨_, moved, by rw [applied, found], move, Or.inr ⟨rfl, operation, commits⟩⟩

theorem LedgerEffect.fingerprint {world after : World} {choice : Choice} {op : Op}
    {answer : Ans op} {deliveryKey fingerprint : String}
    (effect : LedgerEffect world after choice op answer)
    (bound : world.ledger.fingerprint? deliveryKey = some fingerprint) :
    after.ledger.fingerprint? deliveryKey = some fingerprint := by
  rcases effect.applied with same | ⟨-, ledgerOp, -, applied⟩
  · rwa [same]
  · rw [applied]
    exact LedgerStep.apply_fingerprint _ bound

namespace World

section

variable {α : Type} {host : FleetHost} {world after : World} {op : Op} {choice : Choice}

theorem ledgerStep_map_ok {result : StoreResult Ledger} {value : Unit}
    (stepped : world.ledgerStep choice (result.map fun ledger => ((), ledger)) =
      some (.ok value, after)) : result = .ok after.ledger := by
  obtain ⟨-, mapped, -⟩ := ledgerStep_ok stepped
  cases result with
  | error error => simp [Except.map] at mapped
  | ok ledger => simpa [Except.map] using mapped

theorem ledgerStep_still {result : StoreResult (α × Ledger)} {error : StoreError}
    (stepped : world.ledgerStep choice result = some (.error error, after)) :
    after.ledger = world.ledger := by
  rw [(ledgerStep_error stepped).1]
  rfl

/-- The operation behind a granted step and the world it leaves. -/
theorem perform_effect {answer : Ans op}
    (performed : perform host world op choice = some (answer, after)) :
    LedgerEffect world after choice op answer := by
  have evolves := perform_evolves performed
  simp only [perform] at performed
  split at performed
  · simp at performed
  cases op with
  | loadDeliveryRecord _ | saveDeliveryRecord _ _ | resolveRoute _ | retryableDeliveryPlans
  | fleetCheck _ | fleetInvalidateIdentity _ | authorizeCameraAttachments _
  | authorizeWhatsappDelivery _ | materializeAttachments _ _ | prepareOutbound _ _
  | sendPreparedOutbound _ _ _ _ | sendOutbound _ _ | utcNowIso =>
      rcases evolves.ledger with same | ⟨ledgerOp, operation, -⟩
      · exact .still same rfl
      · simp [Op.ledgerOp] at operation
  | persistDeliveryPlan deliveryKey fingerprint plannedOutbound plannedItems =>
      cases answer with
      | ok value => exact .persistPlan (ledgerStep_map_ok performed)
      | error error => exact .still (ledgerStep_still performed) rfl
  | finishDeliveryMaterialization completion =>
      cases answer with
      | ok value => exact .finishMaterialization (ledgerStep_map_ok performed)
      | error error => exact .still (ledgerStep_still performed) rfl
  | recordDeliveryItemUpload upload =>
      cases answer with
      | ok value => exact .recordUpload (ledgerStep_map_ok performed)
      | error error => exact .still (ledgerStep_still performed) rfl
  | finishDeliveryStage completion =>
      cases answer with
      | ok value => exact .finishStage (ledgerStep_map_ok performed)
      | error error => exact .still (ledgerStep_still performed) rfl
  | finishDeliveryItem completion =>
      cases answer with
      | ok value => exact .finishItem (ledgerStep_ok performed).2.1
      | error error => exact .still (ledgerStep_still performed) rfl
  | claimDeliveryMaterialization deliveryKey itemKey owner leaseSeconds =>
      simp only [Option.bind_eq_some_iff] at performed
      obtain ⟨drawn, drew, stepped⟩ := performed
      obtain ⟨-, rfl⟩ := draw_some drew
      cases answer with
      | ok claim => exact .claimMaterialization (ledgerStep_ok stepped).2.1
      | error error =>
          have same := ledgerStep_still stepped
          exact .still same rfl
  | claimDeliveryItem request =>
      simp only [Option.bind_eq_some_iff] at performed
      obtain ⟨drawn, drew, stepped⟩ := performed
      obtain ⟨fresh, rfl⟩ := draw_some drew
      cases answer with
      | ok claim =>
          exact .claimItem fresh (ledgerStep_issued stepped) (ledgerStep_ok stepped).2.1
      | error error =>
          have same := ledgerStep_still stepped
          exact .still same rfl

theorem perform_issued {answer : Ans op} {token : Uuid}
    (performed : perform host world op choice = some (answer, after))
    (issued : token ∈ world.issued) : token ∈ after.issued := by
  rcases (perform_evolves performed).issued with same | ⟨-, extended⟩
  · rwa [same]
  · rw [extended]
    exact List.mem_cons_of_mem _ issued

end

end World

/-! ## Moves from outside -/

section

variable {host : FleetHost} {world : World} {deliveryKey itemKey : String} {item moved : LedgerItem}

theorem Reconciled.refl (item : LedgerItem) : Reconciled item item :=
  ⟨Or.inl rfl, rfl, rfl, rfl, rfl, rfl⟩

theorem OutsideMove.apply_item? (event : OutsideMove) (world : World) (deliveryKey itemKey : String) :
    (∃ now ttl, (event.apply host world).ledger.item? deliveryKey itemKey =
      (world.ledger.item? deliveryKey itemKey).map fun item => (reconcileItem now ttl item).1) ∨
    (event.apply host world).ledger = world.ledger := by
  cases event with
  | reconcileCache now ttl => exact Or.inl ⟨_, ttl, reconcileDeliveryCache_item? _ ttl _ _ _⟩
  | fleet _ | registerRoute _ _ => exact Or.inr rfl

theorem OutsideMove.apply_fingerprint (event : OutsideMove) (world : World) (deliveryKey : String) :
    (event.apply host world).ledger.fingerprint? deliveryKey =
      world.ledger.fingerprint? deliveryKey := by
  cases event with
  | reconcileCache now ttl => exact reconcileDeliveryCache_fingerprint? _ ttl _ _
  | fleet _ | registerRoute _ _ => rfl

theorem OutsideMove.item_after (event : OutsideMove)
    (present : world.ledger.item? deliveryKey itemKey = some item) :
    ∃ moved, (event.apply host world).ledger.item? deliveryKey itemKey = some moved ∧
      Reconciled item moved := by
  rcases event.apply_item? world deliveryKey itemKey with ⟨now, ttl, mapped⟩ | same
  · exact ⟨_, by rw [mapped, present]; rfl, reconcileItem_frame now ttl item⟩
  · exact ⟨item, by rw [same, present], .refl item⟩

theorem OutsideMove.item_before (event : OutsideMove)
    (present : (event.apply host world).ledger.item? deliveryKey itemKey = some moved) :
    ∃ item, world.ledger.item? deliveryKey itemKey = some item ∧ Reconciled item moved := by
  cases before : world.ledger.item? deliveryKey itemKey with
  | some item =>
      obtain ⟨same, found, frame⟩ := event.item_after before
      obtain rfl := Option.some.inj (found.symm.trans present)
      exact ⟨item, rfl, frame⟩
  | none =>
      rcases event.apply_item? world deliveryKey itemKey with ⟨now, ttl, mapped⟩ | same
      · rw [mapped, before] at present
        simp at present
      · rw [same, before] at present
        simp at present

end

/-! ## Claim tokens -/

/-- The item claim that an operation was granted: delivery key, item key and token. -/
def Op.grant? : (op : Op) → Ans op → Option (String × String × Uuid)
  | .claimDeliveryItem request, .ok (.claimed token _ _) =>
      some (request.deliveryKey, request.itemKey, token)
  | _, _ => none

/-- A call acts under the claims it was granted and no others. -/
theorem Phase.next_claim {phase : Phase} {op : Op} {answer : Ans op} {plan : Plan}
    {itemKey : String} {token : Uuid}
    (held : (phase.next op answer).claim? = some (plan, itemKey, token)) :
    phase.claim? = some (plan, itemKey, token) ∨
      phase.plan? = some plan ∧ ∃ deliveryKey,
        op.grant? answer = some (deliveryKey, itemKey, token) := by
  cases op with
  | loadDeliveryRecord _ | saveDeliveryRecord _ _ | persistDeliveryPlan _ _ _ _
  | claimDeliveryMaterialization _ _ _ _ | finishDeliveryMaterialization _
  | sendPreparedOutbound _ _ _ _ | finishDeliveryStage _ | finishDeliveryItem _ =>
      refine Or.inl ?_
      simp only [Phase.next] at held
      repeat' split at held
      all_goals first | exact held | simp [Phase.claim?] at held
  | claimDeliveryItem request =>
      simp only [Phase.next] at held
      split at held
      · exact Or.inl held
      · rename_i _ planned claimed _ _ found
        obtain ⟨rfl, rfl, rfl⟩ : planned = plan ∧ request.itemKey = itemKey ∧ claimed = token := by
          simpa [Phase.claim?] using held
        exact Or.inr ⟨found, request.deliveryKey, rfl⟩
      · simp [Phase.claim?] at held
      · simp [Phase.claim?] at held
  | resolveRoute _ | recordDeliveryItemUpload _ | retryableDeliveryPlans | fleetCheck _
  | fleetInvalidateIdentity _ | authorizeCameraAttachments _ | authorizeWhatsappDelivery _
  | materializeAttachments _ _ | prepareOutbound _ _ | sendOutbound _ _ | utcNowIso =>
      exact Or.inl held

/-- Only a granted claim leads back to the phase in which a call may send. -/
theorem Phase.next_claimed {phase : Phase} {op : Op} {answer : Ans op} {plan : Plan}
    {itemKey : String} {token : Uuid}
    (held : phase.next op answer = .claimed plan itemKey token) :
    phase = .claimed plan itemKey token ∨
      phase.plan? = some plan ∧ ∃ deliveryKey,
        op.grant? answer = some (deliveryKey, itemKey, token) := by
  cases op with
  | loadDeliveryRecord _ | saveDeliveryRecord _ _ | persistDeliveryPlan _ _ _ _
  | claimDeliveryMaterialization _ _ _ _ | finishDeliveryMaterialization _
  | sendPreparedOutbound _ _ _ _ | finishDeliveryStage _ | finishDeliveryItem _ =>
      refine Or.inl ?_
      simp only [Phase.next] at held
      repeat' split at held
      all_goals first | exact held | simp at held
  | claimDeliveryItem request =>
      simp only [Phase.next] at held
      split at held
      · exact Or.inl held
      · rename_i _ planned claimed _ _ found
        simp only [Phase.claimed.injEq] at held
        obtain ⟨rfl, rfl, rfl⟩ := held
        exact Or.inr ⟨found, request.deliveryKey, rfl⟩
      · simp at held
      · simp at held
  | resolveRoute _ | recordDeliveryItemUpload _ | retryableDeliveryPlans | fleetCheck _
  | fleetInvalidateIdentity _ | authorizeCameraAttachments _ | authorizeWhatsappDelivery _
  | materializeAttachments _ _ | prepareOutbound _ _ | sendOutbound _ _ | utcNowIso =>
      exact Or.inl held

theorem Allowed.grant_key {contract : Contract} {phase : Phase} {op : Op} {answer : Ans op}
    {plan : Plan} {deliveryKey itemKey : String} {token : Uuid} (allowed : Allowed contract phase op)
    (planned : phase.plan? = some plan)
    (grant : op.grant? answer = some (deliveryKey, itemKey, token)) :
    deliveryKey = plan.deliveryKey := by
  cases op with
  | claimDeliveryItem request =>
      cases allowed with
      | neutral harmless => simp [Op.isNeutral] at harmless
      | claimItem source delivery fingerprint =>
          rename_i own
          have same : phase.plan? = some own := by
            rcases source with rfl | ⟨between, -⟩
            · rfl
            · exact between.plan?
          obtain rfl := Option.some.inj (same.symm.trans planned)
          cases answer with
          | error error => simp [Op.grant?] at grant
          | ok claim =>
              cases claim with
              | claimed drawn item previous =>
                  simp only [Op.grant?, Option.some.injEq, Prod.mk.injEq] at grant
                  rw [← grant.1, delivery]
              | succeeded _ | terminalFailed _ | busy _ => simp [Op.grant?] at grant
  | _ => simp [Op.grant?] at grant

/-- A granted claim carries the UUID that its step drew. -/
theorem LedgerEffect.granted {world after : World} {choice : Choice} {op : Op} {answer : Ans op}
    {deliveryKey itemKey : String} {token : Uuid}
    (effect : LedgerEffect world after choice op answer)
    (grant : op.grant? answer = some (deliveryKey, itemKey, token)) :
    token ∉ world.issued ∧ token ∈ after.issued := by
  cases effect with
  | still same silent =>
      cases op with
      | claimDeliveryItem request =>
          cases answer with
          | ok claim => simp [Op.commits] at silent
          | error error => simp [Op.grant?] at grant
      | _ => simp [Op.grant?] at grant
  | claimItem fresh issued ok =>
      rename_i request claim
      cases claim with
      | claimed drawn item previous =>
          obtain ⟨-, source, -, rfl, -⟩ := claimDeliveryItem_ok ok
          obtain rfl : choice.token = token := by
            simp only [Op.grant?, Option.some.injEq, Prod.mk.injEq] at grant
            exact grant.2.2
          exact ⟨fresh, by simp [issued]⟩
      | succeeded _ | terminalFailed _ | busy _ => simp [Op.grant?] at grant
  | persistPlan ok | claimMaterialization ok | finishMaterialization ok | recordUpload ok
  | finishStage ok | finishItem ok => simp [Op.grant?] at grant

end HarborGate
