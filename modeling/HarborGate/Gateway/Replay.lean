import HarborGate.Gateway.Exclusive

/-!
The answers of a notification that went out. One is built from what the adapter said, one from
what the ledger kept of it, and one is read back from the stored record. They agree as long as
the adapter's answer for the last item says nothing that the ledger does not keep.
-/

namespace HarborGate

open Interleave

/-- The claim under which the adapter took an item, and its answer. -/
def Op.answered? : (op : Op) → Ans op → Option (StageContext × Json)
  | .sendPreparedOutbound _ _ _ context, .ok response => some (context, response)
  | _, _ => none

theorem World.perform_answered {host : FleetHost} {world after : World} {op : Op} {choice : Choice}
    {answer : Ans op} {context : StageContext} {response : Json}
    (performed : World.perform host world op choice = some (answer, after))
    (answered : op.answered? answer = some (context, response)) : choice.sent = .ok response := by
  cases op with
  | sendPreparedOutbound adapter outbound prepared under =>
      simp only [World.perform] at performed
      split at performed
      · simp at performed
      · simp only [Option.some.injEq, Prod.mk.injEq] at performed
        rw [performed.1]
        cases answer with
        | error error => simp [Op.answered?] at answered
        | ok reply =>
            simp only [Op.answered?, Option.some.injEq, Prod.mk.injEq] at answered
            rw [answered.2]
  | _ => simp [Op.answered?] at answered

/-- The status that a notification reports for a last response. -/
def reportedStatus (response : Json) : String :=
  ((response.get "placeholder_status").bind Json.asStr).getD "sent"

/-- What a last response contributes to the answer. -/
structure Reports (response : Json) (text : String) : Prop where
  messageId : liveMessageId response = text
  status : reportedStatus response = "sent"

/-- The answer keeps its meaning when the ledger gives it back: it names the same message id
under both names, and no status of its own. -/
def Agrees (response : Json) : Prop :=
  Reports response (Text.trim ((ledgerMessageId response).getD ""))

theorem sentResponse_congr {digests : Digests} {request : NotificationRequest} {route : Json}
    {first second : Json} {text : String} (reports : Reports first text)
    (again : Reports second text) :
    sentResponse digests request route first = sentResponse digests request route second := by
  have messageId := reports.messageId.trans again.messageId.symm
  have status : reportedStatus first = reportedStatus second :=
    reports.status.trans again.status.symm
  simp only [reportedStatus] at status
  simp only [sentResponse, messageId, status]

theorem ledgerResponse_reports (item : LedgerItem) :
    Reports (ledgerResponse item) (Text.trim (item.providerMessageId.getD "")) := by
  constructor
  · have found : (ledgerResponse item).get "message_id" =
        some (Json.ofOption item.providerMessageId) := rfl
    simp only [liveMessageId, found, Option.some_or, Option.bind_some]
    cases item.providerMessageId with
    | none => rfl
    | some text => rfl
  · rfl

/-! ## The ledger -/

/-- An item has a message id only when it succeeded, and succeeded only under a claim. -/
structure LedgerItem.Marked (item : LedgerItem) : Prop where
  claimed : item.status = .succeeded → item.claimToken ≠ none
  named : item.providerMessageId ≠ none → item.status = .succeeded

section

variable {step : LedgerStep} {deliveryKey itemKey : String} {item moved : LedgerItem}

@[simp] theorem setStage_providerMessageId (item : LedgerItem) (stage : Stage)
    (value : StageRecord) :
    (item.setStage stage value).providerMessageId = item.providerMessageId := by
  cases stage <;> rfl

@[simp] theorem setStage_status (item : LedgerItem) (stage : Stage) (value : StageRecord) :
    (item.setStage stage value).status = item.status := by
  cases stage <;> rfl

/-- Only `finish_delivery_item` gives an item a message id or lets it succeed. -/
theorem ItemMove.outcome (move : ItemMove step deliveryKey itemKey item moved) :
    (moved.providerMessageId = item.providerMessageId ∧
      (moved.status = .succeeded → item.status = .succeeded)) ∨
    ∃ completion, step.op = .finishItem completion ∧ item.status = .sending ∧
      moved.claimToken ≠ none ∧ moved.status = completion.status ∧
      moved.providerMessageId = completion.providerMessageId.or item.providerMessageId := by
  cases move with
  | keep | plan _ | claimMaterialization _ _ _ _ _ _ _ => exact Or.inl ⟨rfl, id⟩
  | finishMaterialization completion nested _ _ _ _ =>
      refine Or.inl ⟨rfl, fun succeeded => ?_⟩
      simp only [LedgerItem.finishMaterialization] at succeeded
      split at succeeded <;> simp at succeeded
  | claim _ _ _ _ _ _ _ _ _ =>
      exact Or.inl ⟨rfl, fun succeeded => by simp [LedgerItem.claim] at succeeded⟩
  | recordUpload upload _ _ active =>
      exact Or.inl ⟨by simp [LedgerItem.recordUpload],
        fun succeeded => by simpa [LedgerItem.recordUpload] using succeeded⟩
  | finishStage completion _ _ active =>
      exact Or.inl ⟨by simp [LedgerItem.finishStage],
        fun succeeded => by simpa [LedgerItem.finishStage] using succeeded⟩
  | finishItem completion operation _ active =>
      exact Or.inr ⟨completion, operation, active.sending,
        by simp [LedgerItem.finish, active.holder], rfl, rfl⟩
  | reconcile ttl _ =>
      have frame := reconcileItem_frame step.now ttl item
      refine Or.inl ⟨frame.providerMessageId, fun succeeded => ?_⟩
      rcases frame.status with same | expired
      · exact same.symm.trans succeeded
      · simp [expired] at succeeded

end

section

variable {required : String → String → String → Prop} {host : FleetHost} {world after : World}
  {contract : Contract} {phase : Phase} {op : Op} {choice : Choice} {answer : Ans op}

def LedgerMarked (records : Ledger) : Prop :=
  ∀ deliveryKey itemKey item, records.item? deliveryKey itemKey = some item → item.Marked

theorem LedgerMarked.step (marked : LedgerMarked world.ledger)
    (sound : LedgerSound required world.ledger) (allowed : Allowed contract phase op)
    (effect : LedgerEffect world after choice op answer) : LedgerMarked after.ledger := by
  intro deliveryKey itemKey item present
  rcases effect.applied with same | ⟨-, ledgerOp, operation, applied⟩
  · rw [same] at present
    exact marked deliveryKey itemKey item present
  have change := LedgerStep.apply_effect ⟨choice.now, ledgerOp⟩ world.ledger deliveryKey itemKey
  rw [← applied, present] at change
  generalize before : world.ledger.item? deliveryKey itemKey = entry at change
  cases change with
  | born birth =>
      cases birth with
      | plan _ _ _ planned _ _ =>
          exact ⟨fun succeeded => by simp [LedgerItem.plan, planSource, newItem] at succeeded,
            fun named => absurd rfl named⟩
      | claim _ request lease _ _ =>
          exact ⟨fun _ => by simp [LedgerItem.claim], fun named => absurd rfl named⟩
  | moved move =>
      rename_i old
      have was := marked deliveryKey itemKey old before
      rcases move.outcome with ⟨sameId, onlyOld⟩ |
        ⟨completion, finishes, sending, claimed, status, messageId⟩
      · refine ⟨fun succeeded => move.claimToken_ne_none (was.claimed (onlyOld succeeded)), ?_⟩
        intro named
        rw [sameId] at named
        have succeeded := was.named named
        have settled := (sound _ _ _ before).claimed (was.claimed succeeded)
        exact (move.succeeded settled succeeded).1
      · refine ⟨fun _ => claimed, fun named => ?_⟩
        obtain rfl : ledgerOp = .finishItem completion := finishes
        obtain rfl := Op.ledgerOp_finishItem operation
        have unnamed : old.providerMessageId = none := by
          by_contra present
          simp [was.named present] at sending
        rw [messageId, unnamed, Option.or_none] at named
        cases allowed with
        | neutral harmless => simp [Op.isNeutral] at harmless
        | itemSucceeded _ succeeded _ => rw [status, succeeded]
        | itemFailed _ _ _ none_ => exact absurd none_ named

theorem LedgerMarked.outside (marked : LedgerMarked world.ledger) (event : OutsideMove) :
    LedgerMarked (event.apply host world).ledger := by
  intro deliveryKey itemKey moved present
  rcases OutsideMove.apply_item? event world deliveryKey itemKey with ⟨now, ttl, mapped⟩ | same
  · rw [mapped] at present
    obtain ⟨item, found, rfl⟩ := Option.map_eq_some_iff.mp present
    have was := marked deliveryKey itemKey item found
    have frame := reconcileItem_frame now ttl item
    constructor
    · intro succeeded
      rw [frame.claimToken]
      rcases frame.status with same | expired
      · exact was.claimed (same.symm.trans succeeded)
      · simp [expired] at succeeded
    · intro named
      rw [frame.providerMessageId] at named
      have terminal : item.Terminal := Or.inl (was.named named)
      exact (terminal.reconcileItem now ttl).1.trans (was.named named)
  · rw [same] at present
    exact marked deliveryKey itemKey moved present

end

/-! ## Phases with a response -/

/-- The response of a send that the item does not yet show. -/
def Phase.pending? : Phase → Option (String × Json)
  | .sent _ itemKey _ response | .recorded _ itemKey _ response => some (itemKey, response)
  | _ => none

/-- The item that an operation found succeeded. -/
def Op.succeeded? : (op : Op) → Ans op → Option (DeliveryItemClaimRequest × LedgerItem)
  | .claimDeliveryItem request, .ok (.succeeded item) => some (request, item)
  | _, _ => none

section

variable {phase : Phase} {op : Op} {answer : Ans op} {plan : Plan} {itemKey : String}
  {response payload : Json}

theorem Phase.next_pending (next : (phase.next op answer).pending? = some (itemKey, response)) :
    phase.pending? = some (itemKey, response) ∨
      ∃ plan token context, phase = .claimed plan itemKey token ∧
        op.answered? answer = some (context, response) := by
  cases op with
  | loadDeliveryRecord _ | saveDeliveryRecord _ _ | persistDeliveryPlan _ _ _ _
  | claimDeliveryMaterialization _ _ _ _ | finishDeliveryMaterialization _ | claimDeliveryItem _
  | finishDeliveryStage _ | finishDeliveryItem _ =>
      refine Or.inl ?_
      simp only [Phase.next] at next
      repeat' split at next
      all_goals first | exact next | simp [Phase.pending?] at next
  | sendPreparedOutbound adapter outbound prepared context =>
      simp only [Phase.next] at next
      split at next
      · rename_i plan name token reply
        simp only [Phase.pending?, Option.some.injEq, Prod.mk.injEq] at next
        obtain ⟨rfl, rfl⟩ := next
        exact Or.inr ⟨plan, token, context, rfl, rfl⟩
      · exact Or.inl next
  | resolveRoute _ | recordDeliveryItemUpload _ | retryableDeliveryPlans | fleetCheck _
  | fleetInvalidateIdentity _ | authorizeCameraAttachments _ | authorizeWhatsappDelivery _
  | materializeAttachments _ _ | prepareOutbound _ _ | sendOutbound _ _ | utcNowIso =>
      exact Or.inl next

theorem Phase.next_settled (next : phase.next op answer = .settled plan itemKey response) :
    phase = .settled plan itemKey response ∨
      (∃ request item, op.succeeded? answer = some (request, item) ∧ phase.plan? = some plan ∧
        request.itemKey = itemKey ∧ response = ledgerResponse item) ∨
      ∃ token completion, phase = .recorded plan itemKey token response ∧
        op = .finishDeliveryItem completion ∧ op.commits answer = true := by
  cases op with
  | loadDeliveryRecord _ | saveDeliveryRecord _ _ | persistDeliveryPlan _ _ _ _
  | claimDeliveryMaterialization _ _ _ _ | finishDeliveryMaterialization _
  | sendPreparedOutbound _ _ _ _ | finishDeliveryStage _ =>
      refine Or.inl ?_
      simp only [Phase.next] at next
      repeat' split at next
      all_goals first | exact next | simp at next
  | claimDeliveryItem request =>
      simp only [Phase.next] at next
      split at next
      · exact Or.inl next
      · simp at next
      · rename_i planned item found
        simp only [Phase.settled.injEq] at next
        obtain ⟨rfl, rfl, rfl⟩ := next
        exact Or.inr (Or.inl ⟨request, item, rfl, found, rfl, rfl⟩)
      · simp at next
  | finishDeliveryItem completion =>
      simp only [Phase.next] at next
      split at next
      · rename_i planned name token reply path
        simp only [Phase.settled.injEq] at next
        obtain ⟨rfl, rfl, rfl⟩ := next
        exact Or.inr (Or.inr ⟨token, completion, rfl, rfl, rfl⟩)
      · simp at next
      · simp at next
      · simp at next
      · exact Or.inl next
  | resolveRoute _ | recordDeliveryItemUpload _ | retryableDeliveryPlans | fleetCheck _
  | fleetInvalidateIdentity _ | authorizeCameraAttachments _ | authorizeWhatsappDelivery _
  | materializeAttachments _ _ | prepareOutbound _ _ | sendOutbound _ _ | utcNowIso =>
      exact Or.inl next

theorem Phase.next_saved (next : phase.next op answer = .saved plan payload) :
    phase = .saved plan payload ∨ ∃ itemKey response key record,
      phase = .settled plan itemKey response ∧ op = .saveDeliveryRecord key record ∧
        record.responsePayload = payload := by
  cases op with
  | loadDeliveryRecord _ | persistDeliveryPlan _ _ _ _ | claimDeliveryItem _
  | claimDeliveryMaterialization _ _ _ _ | finishDeliveryMaterialization _
  | sendPreparedOutbound _ _ _ _ | finishDeliveryStage _ | finishDeliveryItem _ =>
      refine Or.inl ?_
      simp only [Phase.next] at next
      repeat' split at next
      all_goals first | exact next | simp at next
  | saveDeliveryRecord key record =>
      simp only [Phase.next] at next
      split at next
      · rename_i planned itemKey response
        simp only [Phase.saved.injEq] at next
        obtain ⟨rfl, rfl⟩ := next
        exact Or.inr ⟨itemKey, response, key, record, rfl, rfl, rfl⟩
      · exact Or.inl next
  | resolveRoute _ | recordDeliveryItemUpload _ | retryableDeliveryPlans | fleetCheck _
  | fleetInvalidateIdentity _ | authorizeCameraAttachments _ | authorizeWhatsappDelivery _
  | materializeAttachments _ _ | prepareOutbound _ _ | sendOutbound _ _ | utcNowIso =>
      exact Or.inl next

end

/-! ## The invariant -/

section

variable {digests : Digests} {host : FleetHost}

/-- The item that closes the plans of the run succeeded, and this is its message id. -/
def Final (closes : String → Prop) (key : String) (world : World) (text : String) : Prop :=
  ∃ itemKey item, closes itemKey ∧ world.ledger.item? key itemKey = some item ∧
    item.status = .succeeded ∧ item.claimToken ≠ none ∧
    Text.trim (item.providerMessageId.getD "") = text

/-- An answer that reports what the ledger holds. -/
def Good (closes : String → Prop) (key : String) (answers : Json → Json → Prop) (world : World)
    (payload : Json) : Prop :=
  ∃ response text, answers response payload ∧ Reports response text ∧ Final closes key world text

/-- The adapter's answer for a closing item agrees with what the ledger keeps of it. -/
def Faithful (closes : String → Prop) (event : (gatewayMachine digests host).Event) : Prop :=
  ∀ context response, event.op.answered? event.answer = some (context, response) →
    closes context.itemKey → Agrees response

structure Answering (closes : String → Prop) (key : String) (answers : Json → Json → Prop)
    (world : World) (phase : Phase) : Prop where
  pending : ∀ itemKey response, phase.pending? = some (itemKey, response) → closes itemKey →
    Agrees response
  settled : ∀ plan itemKey response, phase = .settled plan itemKey response → closes itemKey →
    ∃ text, Reports response text ∧ Final closes key world text
  saved : ∀ plan payload, phase = .saved plan payload → Good closes key answers world payload
  loaded : ∀ record, phase = .loaded record →
    Good closes key answers world record.responsePayload

def RecordsGood (closes : String → Prop) (key : String) (answers : Json → Json → Prop)
    (world : World) : Prop :=
  ∀ record, world.records[key]? = some record →
    Good closes key answers world record.responsePayload

variable {required : String → String → String → Prop} {world after : World} {contract : Contract}
  {phase : Phase} {op : Op} {choice : Choice} {answer : Ans op} {task : Nat} {key text : String}
  {trace : List (gatewayMachine digests host).Event} {closes : String → Prop}
  {answers : Json → Json → Prop} {payload : Json}

theorem Final.step (final : Final closes key world text) (sound : LedgerSound required world.ledger)
    (effect : LedgerEffect world after choice op answer) : Final closes key after text := by
  obtain ⟨itemKey, item, closing, present, succeeded, claimed, same⟩ := final
  obtain ⟨step, moved, found, move, -⟩ := effect.moves present
  have settled := (sound _ _ _ present).claimed claimed
  obtain ⟨status, messageId⟩ := move.succeeded settled succeeded
  exact ⟨itemKey, moved, closing, found, status, move.claimToken_ne_none claimed,
    by rw [messageId, same]⟩

theorem Final.outside (final : Final closes key world text) (event : OutsideMove) :
    Final closes key (event.apply host world) text := by
  obtain ⟨itemKey, item, closing, present, succeeded, claimed, same⟩ := final
  rcases OutsideMove.apply_item? event world key itemKey with ⟨now, ttl, mapped⟩ | still
  · have frame := reconcileItem_frame now ttl item
    have terminal : item.Terminal := Or.inl succeeded
    exact ⟨itemKey, _, closing, by rw [mapped, present]; rfl,
      (terminal.reconcileItem now ttl).1.trans succeeded, by rwa [frame.claimToken],
      by rw [frame.providerMessageId, same]⟩
  · exact ⟨itemKey, item, closing, by rw [still, present], succeeded, claimed, same⟩

theorem Good.mono (good : Good closes key answers world payload)
    (kept : ∀ text, Final closes key world text → Final closes key after text) :
    Good closes key answers after payload := by
  obtain ⟨response, text, answered, reports, final⟩ := good
  exact ⟨response, text, answered, reports, kept text final⟩

theorem Answering.stays (answering : Answering closes key answers world phase)
    (kept : ∀ text, Final closes key world text → Final closes key after text) :
    Answering closes key answers after phase := by
  refine ⟨answering.pending, ?_, ?_, ?_⟩
  · intro plan itemKey response settled closing
    obtain ⟨text, reports, final⟩ := answering.settled plan itemKey response settled closing
    exact ⟨text, reports, kept text final⟩
  · exact fun plan payload saved => (answering.saved plan payload saved).mono kept
  · exact fun record loaded => (answering.loaded record loaded).mono kept

/-- The answer that a call is about to store reports what the ledger holds. -/
theorem Answering.saves {name : String} {record : DeliveryRecord}
    (answering : Answering closes key answers world phase)
    (allowed : Allowed contract phase (.saveDeliveryRecord name record))
    (ends : ∀ plan itemKey, phase.plan? = some plan → plan.lastKey? = some itemKey →
      closes itemKey)
    (own : ∀ response payload, contract.answer response payload → answers response payload) :
    Good closes key answers world record.responsePayload := by
  cases allowed with
  | neutral harmless => simp [Op.isNeutral] at harmless
  | save last fingerprint answered =>
      rename_i plan itemKey response
      obtain ⟨text, reports, final⟩ :=
        answering.settled plan itemKey response rfl (ends plan itemKey rfl last)
      exact ⟨response, text, own _ _ answered, reports, final⟩

/-- A claim that finds the item succeeded answers from the ledger. -/
theorem LedgerMarked.rebuilt {request : DeliveryItemClaimRequest} {item : LedgerItem}
    (marked : LedgerMarked world.ledger) (effect : LedgerEffect world after choice op answer)
    (found : op.succeeded? answer = some (request, item)) (keyed : request.deliveryKey = key)
    (closing : closes request.itemKey) :
    ∃ text, Reports (ledgerResponse item) text ∧ Final closes key world text := by
  cases op with
  | claimDeliveryItem claimed =>
      match answer with
      | .error _ | .ok (.claimed _ _ _) | .ok (.terminalFailed _) | .ok (.busy _) =>
          simp [Op.succeeded?] at found
      | .ok (.succeeded stored) =>
          simp only [Op.succeeded?, Option.some.injEq, Prod.mk.injEq] at found
          obtain ⟨rfl, rfl⟩ := found
          cases effect with
          | still same silent => simp [Op.commits] at silent
          | claimItem fresh issued ok =>
              obtain ⟨-, source, origin, rfl, -, succeeded⟩ := claimDeliveryItem_ok ok
              refine ⟨_, ledgerResponse_reports _, claimed.itemKey, source, closing, ?_, succeeded,
                ?_, rfl⟩
              · rcases origin with present | ⟨-, rfl⟩
                · rw [← keyed, present]
                · simp [newItem] at succeeded
              · rcases origin with present | ⟨-, rfl⟩
                · exact (marked _ _ _ present).claimed succeeded
                · simp [newItem] at succeeded
  | _ => simp [Op.succeeded?] at found

/-- A finish that the ledger took leaves the message id of the response it reports. -/
theorem LedgerMarked.finished {completion : DeliveryItemCompletion} {path : Option String}
    {plan : Plan} {itemKey : String} {token : Uuid} {response : Json}
    (marked : LedgerMarked world.ledger)
    (allowed : Allowed contract (.recorded plan itemKey token response)
      (.finishDeliveryItem completion))
    (effect : LedgerEffect world after choice (.finishDeliveryItem completion) (.ok path))
    (keyed : plan.deliveryKey = key) (closing : closes itemKey) :
    Final closes key after (Text.trim ((ledgerMessageId response).getD "")) := by
  cases effect with
  | still same silent => simp [Op.commits] at silent
  | finishItem ok =>
      obtain ⟨item, use⟩ := finishDeliveryItem_ok ok
      have unnamed : item.providerMessageId = none := by
        by_contra present
        have succeeded := (marked _ _ _ use.present).named present
        simp [use.active.sending] at succeeded
      cases allowed with
      | neutral harmless => simp [Op.isNeutral] at harmless
      | itemFailed holder _ _ _ => rcases holder with same | same <;> simp at same
      | itemSucceeded addresses status messageId =>
          refine ⟨itemKey, item.finish choice.now completion, closing, ?_, status, ?_, ?_⟩
          · rw [← keyed, ← addresses.delivery, ← addresses.item]
            exact use.sets.self
          · simp [LedgerItem.finish, use.active.holder]
          · simp [LedgerItem.finish, unnamed, messageId]

/-- What the plans of a call have to do with the run: they are made under its key, and their last
items close. -/
structure Closed (closes : String → Prop) (key : String) (phase : Phase) : Prop where
  keyed : ∀ plan, phase.plan? = some plan → plan.deliveryKey = key
  ends : ∀ plan itemKey, phase.plan? = some plan → plan.lastKey? = some itemKey → closes itemKey

theorem Answering.next_settled {plan : Plan} {itemKey : String} {response : Json}
    (answering : Answering closes key answers world phase) (closed : Closed closes key phase)
    (marked : LedgerMarked world.ledger) (sound : LedgerSound required world.ledger)
    (allowed : Allowed contract phase op) (effect : LedgerEffect world after choice op answer)
    (next : phase.next op answer = .settled plan itemKey response) (closing : closes itemKey) :
    ∃ text, Reports response text ∧ Final closes key after text := by
  rcases Phase.next_settled next with same | ⟨request, item, found, planned, rfl, rfl⟩ |
    ⟨token, completion, rfl, rfl, commits⟩
  · obtain ⟨text, reports, final⟩ := answering.settled plan itemKey response same closing
    exact ⟨text, reports, final.step sound effect⟩
  · have keyed : request.deliveryKey = key := by
      cases op with
      | claimDeliveryItem claimed =>
          match answer with
          | .error _ | .ok (.claimed _ _ _) | .ok (.terminalFailed _) | .ok (.busy _) =>
              simp [Op.succeeded?] at found
          | .ok (.succeeded stored) =>
              simp only [Op.succeeded?, Option.some.injEq, Prod.mk.injEq] at found
              obtain ⟨rfl, rfl⟩ := found
              cases allowed with
              | neutral harmless => simp [Op.isNeutral] at harmless
              | claimItem source delivery fingerprint =>
                  rename_i own
                  have held : phase.plan? = some own := by
                    rcases source with rfl | ⟨between, -⟩
                    · rfl
                    · exact between.plan?
                  rw [delivery]
                  exact closed.keyed own held
      | _ => simp [Op.succeeded?] at found
    obtain ⟨text, reports, final⟩ := marked.rebuilt effect found keyed closing
    exact ⟨text, reports, final.step sound effect⟩
  · cases answer with
    | error error => simp [Op.commits] at commits
    | ok path =>
        have agrees := answering.pending itemKey response rfl closing
        exact ⟨_, agrees, marked.finished allowed effect (closed.keyed plan rfl) closing⟩

theorem Answering.step_own (answering : Answering closes key answers world phase)
    (good : RecordsGood closes key answers world) (closed : Closed closes key phase)
    (marked : LedgerMarked world.ledger) (sound : LedgerSound required world.ledger)
    (allowed : Allowed contract phase op) (keyed : ∀ name, contract.key name → name = key)
    (own : ∀ response payload, contract.answer response payload → answers response payload)
    (performed : World.perform host world op choice = some (answer, after))
    (faithful : Faithful closes
      (⟨task, op, answer, world, after⟩ : (gatewayMachine digests host).Event)) :
    Answering closes key answers after (phase.next op answer) := by
  have effect := World.perform_effect performed
  have kept : ∀ text, Final closes key world text → Final closes key after text :=
    fun text final => final.step sound effect
  refine ⟨?_, fun plan itemKey response next closing =>
    answering.next_settled closed marked sound allowed effect next closing, ?_, ?_⟩
  · intro itemKey response next closing
    rcases Phase.next_pending next with same | ⟨plan, token, context, rfl, answered⟩
    · exact answering.pending itemKey response same closing
    · have named : context.itemKey = itemKey := by
        cases op with
        | sendPreparedOutbound adapter outbound prepared under =>
            cases answer with
            | error error => simp [Op.answered?] at answered
            | ok reply =>
                simp only [Op.answered?, Option.some.injEq, Prod.mk.injEq] at answered
                obtain ⟨rfl, rfl⟩ := answered
                cases allowed with
                | neutral harmless => simp [Op.isNeutral] at harmless
                | send addresses => exact addresses.item
        | _ => simp [Op.answered?] at answered
      exact faithful context response answered (named ▸ closing)
  · intro plan payload next
    rcases Phase.next_saved next with same | ⟨itemKey, response, name, record, rfl, rfl, rfl⟩
    · exact (answering.saved plan payload same).mono kept
    · exact (answering.saves allowed closed.ends own).mono kept
  · intro record next
    rcases Phase.next_loaded next with same | ⟨name, loads⟩
    · exact (answering.loaded record same).mono kept
    · obtain ⟨rfl, stored⟩ := World.perform_loaded performed loads
      cases allowed with
      | neutral harmless => simp [Op.isNeutral] at harmless
      | load named =>
          obtain rfl := keyed name named
          exact (good record stored).mono kept

theorem RecordsGood.step (good : RecordsGood closes key answers world)
    (answering : Answering closes key answers world phase) (closed : Closed closes key phase)
    (sound : LedgerSound required world.ledger) (allowed : Allowed contract phase op)
    (own : ∀ response payload, contract.answer response payload → answers response payload)
    (performed : World.perform host world op choice = some (answer, after)) :
    RecordsGood closes key answers after := by
  have kept : ∀ text, Final closes key world text → Final closes key after text :=
    fun text final => final.step sound (World.perform_effect performed)
  intro record stored
  rcases (World.perform_evolves performed).records with same | ⟨name, saved, rfl, inserted⟩
  · rw [same] at stored
    exact (good record stored).mono kept
  · rw [inserted, Std.TreeMap.getElem?_insert] at stored
    split at stored
    · obtain rfl := Option.some.inj stored
      exact (answering.saves allowed closed.ends own).mono kept
    · exact (good record stored).mono kept

theorem DeliveryRun.answering {contract : Call → Contract}
    {permitted : (gatewayMachine digests host).Move → Prop} {origin : World}
    {phases : List (Call × Phase)}
    (run : DeliveryRun digests host contract permitted origin world phases trace)
    (empty : origin.ledger = ∅) (unanswered : origin.records = ∅)
    (plans : ∀ call plan, (contract call).plan plan → plan.Consistent required)
    (made : ∀ call plan, (contract call).plan plan → plan.deliveryKey = key ∧
      ∀ itemKey, plan.lastKey? = some itemKey → closes itemKey)
    (keyed : ∀ call name, (contract call).key name → name = key)
    (own : ∀ call response payload, (contract call).answer response payload →
      answers response payload)
    (faithful : ∀ event ∈ trace, Faithful closes event) :
    ∀ (task : Nat) (call : Call) (phase : Phase), phases[task]? = some (call, phase) →
      Answering closes key answers world phase := by
  refine (Machine.Phased.maintains_while (Faithful closes)
    (fun (world : World) _ => LedgerMarked world.ledger ∧ RecordsGood closes key answers world)
    (fun (world : World) _ _ _ phase => Answering closes key answers world phase)
    ?boot ?start ?step ?outside run faithful).2
  case boot =>
    refine ⟨fun deliveryKey itemKey item present => ?_, fun record stored => ?_⟩
    · simp [empty, Ledger.item?] at present
    · simp [unanswered] at stored
  case start =>
    exact fun _ _ _ _ _ _ _ => ⟨by simp [Phase.pending?], by simp, by simp, by simp⟩
  case step =>
    rintro world after phases trace task call phase op choice answer run each holder allowed -
      performed faithful ⟨marked, good⟩
    have effect := World.perform_effect performed
    have sound := (DeliveryRun.sound run empty plans).1
    have planned := DeliveryRun.planned run task call phase holder
    have closed : Closed closes key phase :=
      ⟨fun plan carried => (made call plan (planned plan carried)).1,
        fun plan itemKey carried => (made call plan (planned plan carried)).2 itemKey⟩
    have answering := each task call phase holder
    refine ⟨⟨marked.step sound allowed effect,
      good.step answering closed sound allowed (own call) performed⟩,
      answering.step_own good closed marked sound allowed (keyed call) (own call) performed
        faithful, ?_⟩
    exact fun other started otherPhase _ _ old =>
      old.stays fun text final => final.step sound effect
  case outside =>
    rintro world trace event - ⟨marked, good⟩
    have kept : ∀ text, Final closes key world text →
        Final closes key (event.apply host world) text := fun text final => final.outside event
    refine ⟨⟨marked.outside event, fun record stored => ?_⟩, fun _ _ _ old => old.stays kept⟩
    have records : (event.apply host world).records = world.records := by
      cases event <;> rfl
    exact (good record (records ▸ stored)).mono kept

/-! ## Runs -/

/-- All notifications of the run have one effective request. -/
def SameRequests (origin : World) (moves : List (gatewayMachine digests host).Move) : Prop :=
  ∀ call other effective different, .start call ∈ moves → .start other ∈ moves →
    Requests origin call effective → Requests origin other different → effective = different

/-- The item is the last one of a plan of the run. -/
def ClosesPlan (origin : World) (moves : List (gatewayMachine digests host).Move) (key : String)
    (itemKey : String) : Prop :=
  ∃ call plan, (notifyContract origin moves key call).plan plan ∧ plan.lastKey? = some itemKey

/-- Some call of the run answers this to a last response. -/
def RunAnswers (origin : World) (moves : List (gatewayMachine digests host).Move) (key : String)
    (response payload : Json) : Prop :=
  ∃ call, (notifyContract origin moves key call).answer response payload

def AnswersAgree (last : (gatewayMachine digests host).System) : Prop :=
  ∀ task other result again, last.result? task = some result → last.result? other = some again →
    isSent result = true → isSent again = true → result = again

variable {origin : World} {moves : List (gatewayMachine digests host).Move}

theorem lastKey?_planItem (adapter : Adapter) (key fingerprint : String)
    (items : List DeliveryItem) :
    Plan.lastKey? ⟨key, fingerprint, items.map (planItem adapter key)⟩ =
      (items.map DeliveryItem.shape).getLast?.map fun shape => deliveryItemKey key shape.1 := by
  simp only [Plan.lastKey?, List.getLast?_map, Option.map_map]
  rfl

/-- The plans of one effective request end with the same item. -/
theorem ClosesPlan.unique {first second : String} (same : SameRequests origin moves)
    (closes : ClosesPlan origin moves key first) (again : ClosesPlan origin moves key second) :
    first = second := by
  obtain ⟨call, plan, ⟨request, route, adapter, timestamp, items, started, sends, -, split, rfl⟩,
    last⟩ := closes
  obtain ⟨other, plan, ⟨message, taken, used, later, others, otherStarted, otherSends, -,
    otherSplit, rfl⟩, otherLast⟩ := again
  have effective := effectiveRequest_same (same call other _ _ started otherStarted
    ⟨request, route, sends, rfl⟩ ⟨message, taken, otherSends, rfl⟩)
  have text : (notificationOutbound request route timestamp).text =
      (notificationOutbound message taken later).text := by
    simp only [notificationOutbound, effective.content]
  have attachments : (notificationOutbound request route timestamp).attachments =
      (notificationOutbound message taken later).attachments := by
    simp only [notificationOutbound, effective.content]
  have shapes := splitOutboundItems_shape text attachments
  simp only [split, otherSplit, Except.map, Except.ok.injEq] at shapes
  rw [lastKey?_planItem, shapes] at last
  rw [lastKey?_planItem] at otherLast
  exact Option.some.inj (last.symm.trans otherLast)

theorem Good.unique {payload other : Json} (same : SameRequests origin moves)
    (good : Good (ClosesPlan origin moves key) key (RunAnswers origin moves key) world payload)
    (again : Good (ClosesPlan origin moves key) key (RunAnswers origin moves key) world other) :
    payload = other := by
  obtain ⟨response, text, ⟨call, request, route, started, sends, keyed, rfl⟩, reports,
    firstKey, item, closes, present, -, -, rfl⟩ := good
  obtain ⟨reply, -, ⟨rival, message, taken, otherStarted, otherSends, otherKeyed, rfl⟩,
    otherReports, secondKey, stored, otherCloses, found, -, -, rfl⟩ := again
  obtain rfl := closes.unique same otherCloses
  obtain rfl := Option.some.inj (present.symm.trans found)
  have effective := effectiveRequest_same (same call rival _ _ started otherStarted
    ⟨request, route, sends, rfl⟩ ⟨message, taken, otherSends, rfl⟩)
  rw [effective.sentResponse sends.routed otherSends.routed (keyed.trans otherKeyed.symm)]
  exact sentResponse_congr reports otherReports

/-- Whatever overlaps, stops and restarts, all calls of one request that report a success report
the same one, provided that the adapter's answers for the last item agree with the ledger. -/
theorem sent_answers_agree (routes : Std.TreeMap String Json) (directory : Directory)
    (key : String) (moves : List (gatewayMachine digests host).Move)
    (last : (gatewayMachine digests host).System)
    (under : ∀ move ∈ moves, NotifiesUnder key move)
    (same : SameRequests (World.initial routes directory) moves)
    (faithful : ∀ event ∈ last.trace,
      Faithful (ClosesPlan (World.initial routes directory) moves key) event)
    (played : (Machine.System.boot (World.initial routes directory)).play moves = some last) :
    AnswersAgree last := by
  obtain ⟨phases, run, tracks⟩ := notify_run under played
  have distinct : CollisionFree (World.initial routes directory) moves :=
    fun call other effective different started otherStarted requests rivals _ =>
      same call other effective different started otherStarted requests rivals
  have made : ∀ call plan,
      (notifyContract (World.initial routes directory) moves key call).plan plan →
      plan.deliveryKey = key ∧ ∀ itemKey, plan.lastKey? = some itemKey →
        ClosesPlan (World.initial routes directory) moves key itemKey := by
    intro call plan own
    refine ⟨?_, fun itemKey last => ⟨call, plan, own, last⟩⟩
    obtain ⟨_, _, _, _, _, -, -, -, -, rfl⟩ := own
    rfl
  have own : ∀ call response payload,
      (notifyContract (World.initial routes directory) moves key call).answer response payload →
      RunAnswers (World.initial routes directory) moves key response payload :=
    fun call _ _ answered => ⟨call, answered⟩
  have answering := DeliveryRun.answering run rfl rfl
    (fun call plan own => notifyContract_consistent distinct own) made (fun _ _ named => named) own
    faithful
  have good : ∀ task result, last.result? task = some result → isSent result = true →
      ∃ payload, result = .ok payload ∧
        Good (ClosesPlan (World.initial routes directory) moves key) key
          (RunAnswers (World.initial routes directory) moves key) last.world payload := by
    intro task result ended sent
    obtain ⟨call, found⟩ := Machine.System.result?_eq_some ended
    obtain ⟨phase, listed, follows⟩ := tracks.follows task call _ found
    have ending : NotifyEnd digests (World.initial routes directory) call phase result := follows
    have answers := answering task call phase listed
    rcases ending with ⟨-, unsent⟩ | ⟨request, route, sends, done⟩
    · simp [unsent] at sent
    cases phase with
    | loaded record =>
        rcases done with ⟨-, conflict⟩ | ⟨-, replayed | unsent⟩
        · simp [conflict.not_sent] at sent
        · exact ⟨_, replayed, answers.loaded record rfl⟩
        · simp [unsent] at sent
    | saved plan payload => exact ⟨payload, done, answers.saved plan payload rfl⟩
    | refused error => simp [done.1] at sent
    | idle | planned _ | materializing _ _ _ | ready _ _ | claimed _ _ _ | sent _ _ _ _
    | recorded _ _ _ _ | spoiled _ _ _ | settled _ _ _ | stopped _ =>
        have unsent : isSent result = false := done
        simp [unsent] at sent
  intro task other result again ended otherEnded sent otherSent
  obtain ⟨payload, rfl, firstGood⟩ := good task result ended sent
  obtain ⟨reply, rfl, secondGood⟩ := good other again otherEnded otherSent
  rw [firstGood.unique same secondGood]

end

/-! ## A call that is overtaken between its last item and its record -/

def overtakenRun (response : Json) : List (gatewayMachine doorDigests offlineHost).Move :=
  [.start (doorCall "door open"), .start (doorCall "door open")] ++
    List.replicate 8 (.step 0 { smoothChoice 0 ⟨1⟩ with sent := .ok response }) ++
    List.replicate 5 (.step 1 (smoothChoice 0 ⟨2⟩)) ++ [.step 0 (smoothChoice 0 ⟨3⟩)]

theorem overtakenRun_moves {response : Json} {move : (gatewayMachine doorDigests offlineHost).Move}
    (member : move ∈ overtakenRun response) :
    move = .start (doorCall "door open") ∨
      ∃ task token, move = .step task { smoothChoice 0 token with sent := .ok response } ∨
        move = .step task (smoothChoice 0 token) := by
  simp only [overtakenRun, List.mem_append, List.mem_cons, List.mem_replicate, List.not_mem_nil,
    or_false] at member
  rcases member with (((rfl | rfl) | ⟨-, rfl⟩) | ⟨-, rfl⟩) | rfl
  · exact Or.inl rfl
  · exact Or.inl rfl
  · exact Or.inr ⟨0, ⟨1⟩, Or.inl rfl⟩
  · exact Or.inr ⟨1, ⟨2⟩, Or.inr rfl⟩
  · exact Or.inr ⟨0, ⟨3⟩, Or.inr rfl⟩

theorem overtakenRun_under (response : Json) :
    ∀ move ∈ overtakenRun response, NotifiesUnder "k" move := by
  intro move member
  obtain rfl | ⟨task, token, rfl | rfl⟩ := overtakenRun_moves member
  · exact fun request read => doorNotice_key (Or.inl rfl) read
  · trivial
  · trivial

theorem overtakenRun_same (response : Json) :
    SameRequests (World.initial ∅ ∅) (overtakenRun response) := by
  have only : ∀ call, .start call ∈ overtakenRun response → call = doorCall "door open" := by
    intro call started
    obtain same | ⟨task, token, same | same⟩ := overtakenRun_moves started
    · exact Machine.Move.start.inj same
    · simp at same
    · simp at same
  intro call other effective different started otherStarted requests rivals
  obtain rfl := only call started
  obtain rfl := only other otherStarted
  exact requests.unique rivals

/-- The message id of an answer that reports a success. -/
def sentMessageId (result : Outcome) : Option String :=
  match result with
  | .ok payload => if isSent result then (payload.get "provider_message_id").bind Json.asStr else none
  | .error _ => none

theorem sentMessageId_sent {result : Outcome} {text : String}
    (reported : sentMessageId result = some text) : isSent result = true := by
  cases result with
  | error error => simp [sentMessageId] at reported
  | ok payload =>
      simp only [sentMessageId] at reported
      split at reported
      · rename_i sent
        exact sent
      · simp at reported

theorem differing_message_ids_disagree :
    ∃ last, (Machine.System.boot (World.initial ∅ ∅)).play (overtakenRun
        (.obj [("message_id", .str "a"), ("provider_message_id", .str "b")])) = some last ∧
      (∀ move ∈ overtakenRun (.obj [("message_id", .str "a"), ("provider_message_id", .str "b")]),
        NotifiesUnder "k" move) ∧
      SameRequests (World.initial ∅ ∅)
        (overtakenRun (.obj [("message_id", .str "a"), ("provider_message_id", .str "b")])) ∧
      ¬AnswersAgree last := by
  have plays : ((Machine.System.boot (World.initial ∅ ∅)).play (overtakenRun
      (.obj [("message_id", .str "a"), ("provider_message_id", .str "b")]))).map (fun last =>
        ((last.result? 0).bind sentMessageId, (last.result? 1).bind sentMessageId)) =
      some (some "a", some "b") := by decide
  obtain ⟨last, played, reported⟩ := Option.map_eq_some_iff.mp plays
  simp only [Prod.mk.injEq, Option.bind_eq_some_iff] at reported
  obtain ⟨⟨result, ended, first⟩, again, otherEnded, second⟩ := reported
  refine ⟨last, played, overtakenRun_under _, overtakenRun_same _, fun agree => ?_⟩
  have same := agree 0 1 result again ended otherEnded (sentMessageId_sent first)
    (sentMessageId_sent second)
  rw [same, second] at first
  simp at first

theorem plain_message_id_agrees :
    ∃ last, (Machine.System.boot (World.initial ∅ ∅)).play
        (overtakenRun (.obj [("message_id", .str "m1")])) = some last ∧
      ((last.result? 0).bind sentMessageId = some "m1" ∧
        (last.result? 1).bind sentMessageId = some "m1") ∧ AnswersAgree last := by
  have plays : ((Machine.System.boot (World.initial ∅ ∅)).play
      (overtakenRun (.obj [("message_id", .str "m1")]))).map (fun last =>
        ((last.result? 0).bind sentMessageId, (last.result? 1).bind sentMessageId)) =
      some (some "m1", some "m1") := by decide
  obtain ⟨last, played, reported⟩ := Option.map_eq_some_iff.mp plays
  simp only [Prod.mk.injEq] at reported
  refine ⟨last, played, reported, sent_answers_agree ∅ ∅ "k" _ last (overtakenRun_under _)
    (overtakenRun_same _) ?_ played⟩
  obtain ⟨phases, run, -⟩ := notify_run (overtakenRun_under _) played
  have agrees : Agrees (.obj [("message_id", .str "m1")]) := by
    constructor
    · decide
    · decide
  intro event member context response answered closes
  obtain ⟨choice, chosen, performed⟩ := run.performed event member
  have sent : choice.sent = .ok (.obj [("message_id", .str "m1")]) := by
    obtain same | ⟨task, token, same | same⟩ := overtakenRun_moves chosen
    · simp at same
    · rw [(Machine.Move.step.inj same).2]
    · rw [(Machine.Move.step.inj same).2]
      rfl
  have replied := World.perform_answered performed answered
  rw [sent] at replied
  obtain rfl := Except.ok.inj replied
  exact agrees

end HarborGate
