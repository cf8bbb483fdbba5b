import HarborGate.Gateway.Grants

/-!
The media of an item are fetched before the item is claimed. `finish_delivery_materialization`
writes the item status without looking at the item claim; what keeps it away from claimed items
is the order of the protocol, as the invariant here shows.
-/

namespace HarborGate

open Interleave

/-- The nested materialization of the item is over: no claim on it can be taken or finished. -/
def LedgerItem.Settled (item : LedgerItem) : Prop :=
  ∃ materialization, item.materialization = some materialization ∧
    (materialization.status = .materialized ∨ materialization.status = .notRequired)

section

variable {step : LedgerStep} {deliveryKey itemKey : String} {item moved : LedgerItem}

/-- A settled materialization is never touched again. -/
theorem ItemMove.materialization (move : ItemMove step deliveryKey itemKey item moved)
    (settled : item.Settled) : moved.materialization = item.materialization := by
  obtain ⟨materialization, found, ended⟩ := settled
  cases move with
  | keep | claim _ _ _ _ _ _ _ _ _ | finishItem _ _ _ _ => rfl
  | plan planned => simp [LedgerItem.plan, found]
  | claimMaterialization token owner lease nested present unmaterialized required =>
      obtain rfl := Option.some.inj (found.symm.trans present)
      rcases ended with done | unneeded
      · exact absurd done unmaterialized
      · exact absurd unneeded required
  | finishMaterialization completion nested _ _ present active =>
      obtain rfl := Option.some.inj (found.symm.trans present)
      have running := (requireActiveNestedClaim_ok active).1
      rcases ended with done | unneeded
      · simp [running] at done
      · simp [running] at unneeded
  | recordUpload upload _ _ _ => cases stage : upload.stage <;> simp [LedgerItem.recordUpload, LedgerItem.setStage, stage]
  | finishStage completion _ _ _ =>
      cases stage : completion.stage <;> simp [LedgerItem.finishStage, LedgerItem.setStage, stage]
  | reconcile ttl _ => exact (reconcileItem_frame step.now ttl item).materialization

theorem LedgerItem.Settled.congr (settled : item.Settled)
    (same : moved.materialization = item.materialization) : moved.Settled := by
  obtain ⟨materialization, found, ended⟩ := settled
  exact ⟨materialization, same.trans found, ended⟩

theorem ItemMove.settled (move : ItemMove step deliveryKey itemKey item moved)
    (settled : item.Settled) : moved.Settled :=
  settled.congr (move.materialization settled)

/-- An item with a materialization entry keeps one. -/
theorem ItemMove.materialization_isSome (move : ItemMove step deliveryKey itemKey item moved)
    (present : item.materialization.isSome) : moved.materialization.isSome := by
  cases move with
  | keep | claim _ _ _ _ _ _ _ _ _ | finishItem _ _ _ _ => exact present
  | plan _ | claimMaterialization _ _ _ _ _ _ _ | finishMaterialization _ _ _ _ _ _ => rfl
  | recordUpload upload _ _ _ =>
      cases stage : upload.stage <;>
        simpa [LedgerItem.recordUpload, LedgerItem.setStage, stage] using present
  | finishStage completion _ _ _ =>
      cases stage : completion.stage <;>
        simpa [LedgerItem.finishStage, LedgerItem.setStage, stage] using present
  | reconcile ttl _ =>
      rw [(reconcileItem_frame step.now ttl item).materialization]
      exact present

end

/-! ## The invariant -/

/-- The plan marks exactly those items for materialization that `required` names. -/
def Plan.Consistent (required : String → String → String → Prop) (plan : Plan) : Prop :=
  ∀ item ∈ plan.items, item.materializationRequired = true ↔
    required plan.deliveryKey plan.fingerprint item.itemKey

/-- Of every item in the ledger: its materialization is planned, it is settled at once if there
is nothing to fetch, and it was settled before the item was claimed. -/
structure ItemSound (required : String → String → String → Prop) (records : Ledger)
    (deliveryKey itemKey : String) (item : LedgerItem) : Prop where
  planned : item.materialization.isSome
  unneeded : ∀ fingerprint, records.fingerprint? deliveryKey = some fingerprint →
    ¬required deliveryKey fingerprint itemKey → item.Settled
  claimed : item.claimToken ≠ none → item.Settled

def LedgerSound (required : String → String → String → Prop) (records : Ledger) : Prop :=
  ∀ deliveryKey itemKey item, records.item? deliveryKey itemKey = some item →
    ItemSound required records deliveryKey itemKey item

/-- Of every call: its plan stands in the ledger, and an item it is about to claim is settled. -/
structure Placed (required : String → String → String → Prop) (records : Ledger) (phase : Phase) :
    Prop where
  planned : ∀ plan, phase.plan? = some plan → plan.Consistent required ∧
    records.fingerprint? plan.deliveryKey = some plan.fingerprint ∧
    ∀ item ∈ plan.items, ∃ stored, records.item? plan.deliveryKey item.itemKey = some stored
  ready : ∀ plan itemKey, phase = .ready plan itemKey →
    ∃ stored, records.item? plan.deliveryKey itemKey = some stored ∧ stored.Settled

section

variable {required : String → String → String → Prop} {host : FleetHost} {world after : World}
  {contract : Contract} {phase : Phase} {op : Op} {choice : Choice} {answer : Ans op}

/-- A call claims an item only when its materialization is over. -/
theorem Placed.claims_settled {request : DeliveryItemClaimRequest}
    (placed : Placed required world.ledger phase) (sound : LedgerSound required world.ledger)
    (allowed : Allowed contract phase (.claimDeliveryItem request)) :
    ∃ stored, world.ledger.item? request.deliveryKey request.itemKey = some stored ∧
      stored.Settled := by
  cases allowed with
  | neutral harmless => simp [Op.isNeutral] at harmless
  | claimItem source delivery fingerprint =>
      rename_i plan
      rw [delivery]
      rcases source with rfl | ⟨between, item, member, key, unneeded⟩
      · exact placed.ready plan request.itemKey rfl
      · obtain ⟨consistent, bound, present⟩ := placed.planned plan between.plan?
        obtain ⟨stored, found⟩ := present item member
        rw [key] at found
        refine ⟨stored, found, (sound _ _ _ found).unneeded plan.fingerprint bound ?_⟩
        rw [← key, ← consistent item member, unneeded]
        simp

theorem item?_fingerprint {records : Ledger} {deliveryKey itemKey : String} {item : LedgerItem}
    (present : records.item? deliveryKey itemKey = some item) :
    ∃ fingerprint, records.fingerprint? deliveryKey = some fingerprint := by
  obtain ⟨record, found, -⟩ := item?_some.mp present
  exact ⟨record.requestFingerprint, by simp [Ledger.fingerprint?, found]⟩

/-- An item that is planned for the first time. -/
theorem Plan.Consistent.born {now : Time} {plan : Plan} {planned : DeliveryPlanItem}
    {records : Ledger} {itemKey : String} (consistent : plan.Consistent required)
    (bound : records.fingerprint? plan.deliveryKey = some plan.fingerprint)
    (first : plan.items.find? (·.itemKey = itemKey) = some planned) :
    ItemSound required records plan.deliveryKey itemKey
      ((planSource now plan.fingerprint planned none).plan now planned) := by
  constructor
  · rfl
  · intro fingerprint same unneeded
    obtain rfl := Option.some.inj (bound.symm.trans same)
    have key : planned.itemKey = itemKey := by simpa using List.find?_some first
    have unmarked : planned.materializationRequired = false := by
      rw [← key, ← consistent planned (List.mem_of_find?_eq_some first)] at unneeded
      simpa using unneeded
    exact ⟨newMaterialization now false, by simp [LedgerItem.plan, planSource, newItem, unmarked],
      Or.inr rfl⟩
  · intro claimed
    exact absurd rfl claimed

theorem LedgerSound.step (sound : LedgerSound required world.ledger)
    (placed : Placed required world.ledger phase)
    (plans : ∀ plan, contract.plan plan → plan.Consistent required)
    (allowed : Allowed contract phase op) (effect : LedgerEffect world after choice op answer) :
    LedgerSound required after.ledger := by
  intro deliveryKey itemKey item present
  rcases effect.applied with same | ⟨-, ledgerOp, operation, applied⟩
  · rw [same] at present ⊢
    exact sound deliveryKey itemKey item present
  have change := LedgerStep.apply_effect ⟨choice.now, ledgerOp⟩ world.ledger deliveryKey itemKey
  rw [← applied, present] at change
  generalize before : world.ledger.item? deliveryKey itemKey = entry at change
  cases change with
  | born birth =>
      cases birth with
      | plan fingerprint outbound items planned persists first =>
          obtain rfl : ledgerOp = .persistPlan deliveryKey fingerprint outbound items := persists
          obtain rfl := Op.ledgerOp_persistPlan operation
          have bound : after.ledger.fingerprint? deliveryKey = some fingerprint := by
            cases effect with
            | still same _ =>
                rw [same, before] at present
                simp at present
            | persistPlan ok => exact (persistDeliveryPlan_ok ok).2.1
          cases allowed with
          | neutral harmless => simp [Op.isNeutral] at harmless
          | persist plan free own => exact (plans plan own).born bound first
      | claim drawn request lease claims addressed =>
          obtain rfl : ledgerOp = .claimItem drawn request := claims
          obtain ⟨-, rfl⟩ := Op.ledgerOp_claimItem operation
          obtain ⟨stored, found, -⟩ := placed.claims_settled sound allowed
          rw [addressed.1, addressed.2, before] at found
          simp at found
  | moved move =>
      rename_i old
      have was := sound deliveryKey itemKey old before
      constructor
      · exact move.materialization_isSome was.planned
      · intro fingerprint bound unneeded
        obtain ⟨known, boundBefore⟩ := item?_fingerprint before
        obtain rfl := Option.some.inj ((effect.fingerprint boundBefore).symm.trans bound)
        exact move.settled (was.unneeded known boundBefore unneeded)
      · intro claimed
        rcases move.claimToken with same | ⟨drawn, request, claims, key, name⟩
        · rw [same] at claimed
          exact move.settled (was.claimed claimed)
        · obtain rfl : ledgerOp = .claimItem drawn request := claims
          obtain ⟨-, rfl⟩ := Op.ledgerOp_claimItem operation
          obtain ⟨stored, found, settled⟩ := placed.claims_settled sound allowed
          rw [key, name, before] at found
          obtain rfl := Option.some.inj found
          exact move.settled settled

theorem Placed.stays (placed : Placed required world.ledger phase)
    (effect : LedgerEffect world after choice op answer) : Placed required after.ledger phase := by
  constructor
  · intro plan planned
    obtain ⟨consistent, bound, present⟩ := placed.planned plan planned
    refine ⟨consistent, effect.fingerprint bound, fun item member => ?_⟩
    obtain ⟨stored, found⟩ := present item member
    obtain ⟨step, moved, foundAfter, -⟩ := effect.moves found
    exact ⟨moved, foundAfter⟩
  · intro plan itemKey ready
    obtain ⟨stored, found, settled⟩ := placed.ready plan itemKey ready
    obtain ⟨step, moved, foundAfter, move, -⟩ := effect.moves found
    exact ⟨moved, foundAfter, move.settled settled⟩

/-- A call has the plan it had, or one that the ledger has just taken. -/
theorem Phase.next_plan {plan : Plan} (planned : (phase.next op answer).plan? = some plan) :
    phase.plan? = some plan ∨ op.commits answer = true ∧ ∃ outbound,
      op = .persistDeliveryPlan plan.deliveryKey plan.fingerprint outbound plan.items := by
  cases op with
  | loadDeliveryRecord _ | saveDeliveryRecord _ _ | claimDeliveryMaterialization _ _ _ _
  | finishDeliveryMaterialization _ | claimDeliveryItem _ | sendPreparedOutbound _ _ _ _
  | finishDeliveryStage _ | finishDeliveryItem _ =>
      refine Or.inl ?_
      simp only [Phase.next] at planned
      repeat' split at planned
      all_goals first | exact planned | simp_all [Phase.plan?]
  | persistDeliveryPlan deliveryKey fingerprint outbound items =>
      cases answer with
      | ok done =>
          obtain rfl : (⟨deliveryKey, fingerprint, items⟩ : Plan) = plan := Option.some.inj planned
          exact Or.inr ⟨rfl, outbound, rfl⟩
      | error error => simp [Phase.next, Phase.plan?] at planned
  | resolveRoute _ | recordDeliveryItemUpload _ | retryableDeliveryPlans | fleetCheck _
  | fleetInvalidateIdentity _ | authorizeCameraAttachments _ | authorizeWhatsappDelivery _
  | materializeAttachments _ _ | prepareOutbound _ _ | sendOutbound _ _ | utcNowIso =>
      exact Or.inl planned

theorem Placed.next_planned {plan : Plan} (placed : Placed required world.ledger phase)
    (plans : ∀ plan, contract.plan plan → plan.Consistent required)
    (allowed : Allowed contract phase op) (effect : LedgerEffect world after choice op answer)
    (planned : (phase.next op answer).plan? = some plan) :
    plan.Consistent required ∧
      after.ledger.fingerprint? plan.deliveryKey = some plan.fingerprint ∧
      ∀ item ∈ plan.items, ∃ stored, after.ledger.item? plan.deliveryKey item.itemKey = some stored := by
  rcases Phase.next_plan planned with same | ⟨commits, outbound, persists⟩
  · exact (placed.stays effect).planned plan same
  · subst persists
    cases effect with
    | still _ silent => simp [commits] at silent
    | persistPlan ok =>
        obtain ⟨-, bound, -, items⟩ := persistDeliveryPlan_ok ok
        refine ⟨?_, bound, fun item member => ?_⟩
        · obtain ⟨deliveryKey, fingerprint, items⟩ := plan
          cases allowed with
          | neutral harmless => simp [Op.isNeutral] at harmless
          | persist own free promised => exact plans own promised
        · rw [items, if_pos rfl]
          cases found : plan.items.find? (·.itemKey = item.itemKey) with
          | some first => exact ⟨_, rfl⟩
          | none => simpa using List.find?_eq_none.mp found item member

theorem Placed.next_ready {plan : Plan} {itemKey : String}
    (placed : Placed required world.ledger phase) (allowed : Allowed contract phase op)
    (effect : LedgerEffect world after choice op answer)
    (ready : phase.next op answer = .ready plan itemKey) :
    ∃ stored, after.ledger.item? plan.deliveryKey itemKey = some stored ∧ stored.Settled := by
  have stays : phase = .ready plan itemKey → ∃ stored,
      after.ledger.item? plan.deliveryKey itemKey = some stored ∧ stored.Settled :=
    (placed.stays effect).ready plan itemKey
  cases op with
  | loadDeliveryRecord _ | saveDeliveryRecord _ _ | persistDeliveryPlan _ _ _ _
  | claimDeliveryItem _ | sendPreparedOutbound _ _ _ _ | finishDeliveryStage _
  | finishDeliveryItem _ =>
      simp only [Phase.next] at ready
      repeat' split at ready
      all_goals first | exact stays ready | simp at ready
  | claimDeliveryMaterialization deliveryKey name owner leaseSeconds =>
      obtain ⟨own, rfl, between⟩ : ∃ own : Plan, deliveryKey = own.deliveryKey ∧
          phase.Between own := by
        cases allowed with
        | neutral harmless => simp [Op.isNeutral] at harmless
        | claimMaterialization between planned => exact ⟨_, rfl, between⟩
      simp only [Phase.next, between.plan?] at ready
      cases effect with
      | still same silent =>
          cases answer with
          | ok claim => simp [Op.commits] at silent
          | error error => simp at ready
      | claimMaterialization ok =>
          rename_i claim
          obtain ⟨item, materialization, found, present, outcome⟩ :=
            claimDeliveryMaterialization_ok ok
          cases claim with
          | materialized _ =>
              simp only [Phase.ready.injEq] at ready
              obtain ⟨rfl, rfl⟩ := ready
              obtain ⟨-, same, status⟩ := outcome
              exact ⟨item, by rw [same, found], materialization, present, Or.inl status⟩
          | notRequired _ =>
              simp only [Phase.ready.injEq] at ready
              obtain ⟨rfl, rfl⟩ := ready
              obtain ⟨-, same, status⟩ := outcome
              exact ⟨item, by rw [same, found], materialization, present, Or.inr status⟩
          | terminalFailed _ | busy _ | claimed _ _ => simp at ready
  | finishDeliveryMaterialization completion =>
      cases allowed with
      | neutral harmless => simp [Op.isNeutral] at harmless
      | finishMaterialization addresses =>
          rename_i own name token
          cases effect with
          | still same silent =>
              cases answer with
              | ok done => simp [Op.commits] at silent
              | error error => simp [Phase.next] at ready
          | finishMaterialization ok =>
              obtain ⟨item, materialization, -, -, -, -, -, sets⟩ :=
                finishDeliveryMaterialization_ok ok
              simp only [Phase.next] at ready
              split at ready
              · rename_i done
                simp only [Phase.ready.injEq] at ready
                obtain ⟨rfl, rfl⟩ := ready
                refine ⟨_, by rw [← addresses.delivery, ← addresses.item, sets.self], ?_⟩
                exact ⟨_, rfl, Or.inl done⟩
              · simp at ready
  | resolveRoute _ | recordDeliveryItemUpload _ | retryableDeliveryPlans | fleetCheck _
  | fleetInvalidateIdentity _ | authorizeCameraAttachments _ | authorizeWhatsappDelivery _
  | materializeAttachments _ _ | prepareOutbound _ _ | sendOutbound _ _ | utcNowIso =>
      exact stays ready

theorem Placed.step (placed : Placed required world.ledger phase)
    (plans : ∀ plan, contract.plan plan → plan.Consistent required)
    (allowed : Allowed contract phase op) (effect : LedgerEffect world after choice op answer) :
    Placed required after.ledger (phase.next op answer) :=
  ⟨fun _ planned => placed.next_planned plans allowed effect planned,
    fun _ _ ready => placed.next_ready allowed effect ready⟩

theorem LedgerSound.outside (sound : LedgerSound required world.ledger) (event : OutsideMove) :
    LedgerSound required (event.apply host world).ledger := by
  intro deliveryKey itemKey moved present
  obtain ⟨item, found, frame⟩ := event.item_before present
  have was := sound deliveryKey itemKey item found
  constructor
  · rw [frame.materialization]
    exact was.planned
  · intro fingerprint bound unneeded
    rw [event.apply_fingerprint] at bound
    exact (was.unneeded fingerprint bound unneeded).congr frame.materialization
  · intro claimed
    rw [frame.claimToken] at claimed
    exact (was.claimed claimed).congr frame.materialization

theorem Placed.outside (placed : Placed required world.ledger phase) (event : OutsideMove) :
    Placed required (event.apply host world).ledger phase := by
  constructor
  · intro plan planned
    obtain ⟨consistent, bound, present⟩ := placed.planned plan planned
    refine ⟨consistent, by rw [event.apply_fingerprint, bound], fun item member => ?_⟩
    obtain ⟨stored, found⟩ := present item member
    obtain ⟨moved, foundAfter, -⟩ := event.item_after found
    exact ⟨moved, foundAfter⟩
  · intro plan itemKey ready
    obtain ⟨stored, found, settled⟩ := placed.ready plan itemKey ready
    obtain ⟨moved, foundAfter, frame⟩ := event.item_after found
    exact ⟨moved, foundAfter, settled.congr frame.materialization⟩

end

/-! ## Runs -/

section

variable {digests : Digests} {host : FleetHost} {contract : Call → Contract}
  {permitted : (gatewayMachine digests host).Move → Prop} {origin world : World}
  {phases : List (Call × Phase)} {trace : List (gatewayMachine digests host).Event}

theorem DeliveryRun.sound {required : String → String → String → Prop}
    (run : DeliveryRun digests host contract permitted origin world phases trace)
    (empty : origin.ledger = ∅)
    (plans : ∀ call plan, (contract call).plan plan → plan.Consistent required) :
    LedgerSound required world.ledger ∧
      ∀ (task : Nat) (call : Call) (phase : Phase), phases[task]? = some (call, phase) →
        Placed required world.ledger phase := by
  refine Machine.Phased.maintains (fun (world : World) _ => LedgerSound required world.ledger)
    (fun (world : World) _ _ _ phase => Placed required world.ledger phase) ?boot ?start ?step ?outside run
  case boot =>
    intro deliveryKey itemKey item present
    simp [empty, Ledger.item?] at present
  case start =>
    intro world phases trace call _ _ _
    exact ⟨by simp [Phase.plan?], by simp⟩
  case step =>
    intro world after phases trace task call phase op choice answer _ each holder allowed _
      performed sound
    have effect := World.perform_effect performed
    have placed := each task call phase holder
    exact ⟨sound.step placed (plans call) allowed effect, placed.step (plans call) allowed effect,
      fun other started otherPhase _ _ old => old.stays effect⟩
  case outside =>
    intro world trace event _ sound
    exact ⟨sound.outside event, fun _ _ _ placed => placed.outside event⟩

/-- The plan a call carries is one it may make. -/
theorem DeliveryRun.planned
    (run : DeliveryRun digests host contract permitted origin world phases trace) :
    ∀ (task : Nat) (call : Call) (phase : Phase), phases[task]? = some (call, phase) →
      ∀ plan, phase.plan? = some plan → (contract call).plan plan := by
  refine (Machine.Phased.maintains (fun _ _ => True)
    (fun _ _ _ call phase => ∀ plan, phase.plan? = some plan → (contract call).plan plan)
    trivial ?start ?step ?outside run).2
  case start => exact fun _ _ _ _ _ _ _ => by simp [Phase.plan?]
  case step =>
    intro world after phases trace task call phase op choice answer _ each holder allowed _ _ _
    refine ⟨trivial, fun plan planned => ?_, fun _ _ _ _ _ old => old⟩
    rcases Phase.next_plan planned with same | ⟨-, outbound, rfl⟩
    · exact each task call phase holder plan same
    · obtain ⟨deliveryKey, fingerprint, items⟩ := plan
      cases allowed with
      | neutral harmless => simp [Op.isNeutral] at harmless
      | persist plan free promised => exact promised
  case outside => exact fun _ _ _ _ _ => ⟨trivial, fun _ _ _ old => old⟩

end

end HarborGate
