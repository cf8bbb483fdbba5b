import HarborGate.Gateway.Machine

/-!
The protocol of a delivery: the phases a call goes through, and which operations it issues in
each of them. That the programs of `gateway.rs` keep to it is proved here once; every property
of interleaved deliveries is then about phases and the ledger.
-/

namespace HarborGate

open Interleave

structure Plan where
  deliveryKey : String
  fingerprint : String
  items : List DeliveryPlanItem

def Plan.lastKey? (plan : Plan) : Option String :=
  plan.items.getLast?.map (·.itemKey)

/-- `spoiled` is a send that succeeded while the ledger did not take its stage; `stopped` and
`refused` are deliveries that ended with an error. -/
inductive Phase
  | idle
  | loaded (record : DeliveryRecord)
  | refused (error : StoreError)
  | planned (plan : Plan)
  | materializing (plan : Plan) (itemKey : String) (token : Uuid)
  | ready (plan : Plan) (itemKey : String)
  | claimed (plan : Plan) (itemKey : String) (token : Uuid)
  | sent (plan : Plan) (itemKey : String) (token : Uuid) (response : Json)
  | recorded (plan : Plan) (itemKey : String) (token : Uuid) (response : Json)
  | spoiled (plan : Plan) (itemKey : String) (token : Uuid)
  | settled (plan : Plan) (itemKey : String) (response : Json)
  | saved (plan : Plan) (payload : Json)
  | stopped (plan : Plan)

namespace Phase

def plan? : Phase → Option Plan
  | .idle | .loaded _ | .refused _ => none
  | .planned plan | .materializing plan _ _ | .ready plan _ | .claimed plan _ _
  | .sent plan _ _ _ | .recorded plan _ _ _ | .spoiled plan _ _ | .settled plan _ _
  | .saved plan _ | .stopped plan => some plan

/-- The item claim a call holds, or held until another call took the item over. -/
def claim? : Phase → Option (Plan × String × Uuid)
  | .claimed plan itemKey token | .sent plan itemKey token _ | .recorded plan itemKey token _
  | .spoiled plan itemKey token => some (plan, itemKey, token)
  | _ => none

def token? (phase : Phase) : Option Uuid :=
  phase.claim?.map (·.2.2)

/-- The plan of a call that ends with an error before it claims its next item. -/
def halted? : Phase → Option Plan
  | .materializing plan _ _ | .ready plan _ | .stopped plan => some plan
  | _ => none

/-- Between two items of its plan. -/
def Between (phase : Phase) (plan : Plan) : Prop :=
  phase = .planned plan ∨ ∃ itemKey response, phase = .settled plan itemKey response

def next (phase : Phase) : (op : Op) → Ans op → Phase
  | .loadDeliveryRecord _, answer =>
      match phase, answer with
      | .idle, .ok (some record) => .loaded record
      | phase, _ => phase
  | .saveDeliveryRecord _ record, answer =>
      match phase, answer with
      | .settled plan _ _, .ok () => .saved plan record.responsePayload
      | phase, _ => phase
  | .persistDeliveryPlan deliveryKey fingerprint _ items, answer =>
      match answer with
      | .ok () => .planned ⟨deliveryKey, fingerprint, items⟩
      | .error error => .refused error
  | .claimDeliveryMaterialization _ itemKey _ _, answer =>
      match phase.plan?, answer with
      | none, _ => phase
      | some plan, .ok (.claimed token _) => .materializing plan itemKey token
      | some plan, .ok (.materialized _) => .ready plan itemKey
      | some plan, .ok (.notRequired _) => .ready plan itemKey
      | some plan, _ => .stopped plan
  | .finishDeliveryMaterialization completion, answer =>
      match phase, answer with
      | .materializing plan itemKey _, .ok () =>
          if completion.status = .materialized then .ready plan itemKey else .stopped plan
      | .materializing plan _ _, .error _ => .stopped plan
      | phase, _ => phase
  | .claimDeliveryItem request, answer =>
      match phase.plan?, answer with
      | none, _ => phase
      | some plan, .ok (.claimed token _ _) => .claimed plan request.itemKey token
      | some plan, .ok (.succeeded item) => .settled plan request.itemKey (ledgerResponse item)
      | some plan, _ => .stopped plan
  | .sendPreparedOutbound _ _ _ _, answer =>
      match phase, answer with
      | .claimed plan itemKey token, .ok response => .sent plan itemKey token response
      | phase, _ => phase
  | .finishDeliveryStage _, answer =>
      match phase, answer with
      | .sent plan itemKey token response, .ok () => .recorded plan itemKey token response
      | .sent plan itemKey token _, .error _ => .spoiled plan itemKey token
      | phase, _ => phase
  | .finishDeliveryItem _, answer =>
      match phase, answer with
      | .recorded plan itemKey _ response, .ok _ => .settled plan itemKey response
      | .recorded plan _ _ _, .error _ => .stopped plan
      | .claimed plan _ _, _ => .stopped plan
      | .spoiled plan _ _, _ => .stopped plan
      | phase, _ => phase
  | _, _ => phase

end Phase

/-- Operations that concern neither the ledger nor the provider. -/
def Op.isNeutral : Op → Bool
  | .resolveRoute _ | .retryableDeliveryPlans | .fleetCheck _ | .fleetInvalidateIdentity _
  | .authorizeCameraAttachments _ | .authorizeWhatsappDelivery _ | .materializeAttachments _ _
  | .utcNowIso => true
  | _ => false

/-- What one call is bound to: the keys under which it looks for a stored answer, the plans it
may persist, the answers it builds from a last response, whether it may send without a plan,
and what it knows of the answers it gets. -/
structure Contract where
  key : String → Prop
  plan : Plan → Prop
  answer : Json → Json → Prop
  direct : Prop
  possible : (op : Op) → Ans op → Prop

/-- An operation on behalf of the claim a phase holds. -/
structure Addresses (plan : Plan) (itemKey : String) (token : Uuid)
    (deliveryKey key : String) (claimToken : Uuid) : Prop where
  delivery : deliveryKey = plan.deliveryKey
  item : key = itemKey
  claim : claimToken = token

inductive Allowed (contract : Contract) : Phase → Op → Prop
  | neutral {phase : Phase} {op : Op} (harmless : op.isNeutral = true) : Allowed contract phase op
  | load {key : String} (own : contract.key key) :
      Allowed contract .idle (.loadDeliveryRecord key)
  | persist {phase : Phase} (plan : Plan) {outbound : OutboundMessage} (free : phase.token? = none)
      (own : contract.plan plan) :
      Allowed contract phase
        (.persistDeliveryPlan plan.deliveryKey plan.fingerprint outbound plan.items)
  | claimMaterialization {phase : Phase} {plan : Plan} {itemKey owner : String} {lease : Nat}
      (between : phase.Between plan)
      (planned : ∃ item ∈ plan.items, item.itemKey = itemKey ∧ item.materializationRequired = true) :
      Allowed contract phase
        (.claimDeliveryMaterialization plan.deliveryKey itemKey owner lease)
  | finishMaterialization {plan : Plan} {itemKey : String} {token : Uuid}
      {completion : DeliveryMaterializationCompletion}
      (addresses : Addresses plan itemKey token completion.deliveryKey completion.itemKey
        completion.claimToken) :
      Allowed contract (.materializing plan itemKey token)
        (.finishDeliveryMaterialization completion)
  | claimItem {phase : Phase} {plan : Plan} {request : DeliveryItemClaimRequest}
      (source : phase = .ready plan request.itemKey ∨ phase.Between plan ∧
        ∃ item ∈ plan.items, item.itemKey = request.itemKey ∧ item.materializationRequired = false)
      (delivery : request.deliveryKey = plan.deliveryKey)
      (fingerprint : request.requestFingerprint = plan.fingerprint) :
      Allowed contract phase (.claimDeliveryItem request)
  | prepare {plan : Plan} {itemKey : String} {token : Uuid} {adapter : String}
      {outbound : OutboundMessage} :
      Allowed contract (.claimed plan itemKey token) (.prepareOutbound adapter outbound)
  | upload {plan : Plan} {itemKey : String} {token : Uuid} {upload : DeliveryItemUpload}
      (addresses : Addresses plan itemKey token upload.deliveryKey upload.itemKey
        upload.claimToken) :
      Allowed contract (.claimed plan itemKey token) (.recordDeliveryItemUpload upload)
  | send {plan : Plan} {itemKey : String} {token : Uuid} {adapter : String}
      {outbound : OutboundMessage} {prepared : Option PreparedOutbound} {context : StageContext}
      (addresses : Addresses plan itemKey token context.deliveryKey context.itemKey
        context.claimToken) :
      Allowed contract (.claimed plan itemKey token)
        (.sendPreparedOutbound adapter outbound prepared context)
  | stageSucceeded {plan : Plan} {itemKey : String} {token : Uuid} {response : Json}
      {completion : DeliveryStageCompletion}
      (addresses : Addresses plan itemKey token completion.deliveryKey completion.itemKey
        completion.claimToken) (status : completion.status = .succeeded) :
      Allowed contract (.sent plan itemKey token response) (.finishDeliveryStage completion)
  | stageFailed {plan : Plan} {itemKey : String} {token : Uuid}
      {completion : DeliveryStageCompletion}
      (addresses : Addresses plan itemKey token completion.deliveryKey completion.itemKey
        completion.claimToken) (status : completion.status ≠ .succeeded) :
      Allowed contract (.claimed plan itemKey token) (.finishDeliveryStage completion)
  | itemSucceeded {plan : Plan} {itemKey : String} {token : Uuid} {response : Json}
      {completion : DeliveryItemCompletion}
      (addresses : Addresses plan itemKey token completion.deliveryKey completion.itemKey
        completion.claimToken) (status : completion.status = .succeeded)
      (messageId : completion.providerMessageId = ledgerMessageId response) :
      Allowed contract (.recorded plan itemKey token response) (.finishDeliveryItem completion)
  | itemFailed {phase : Phase} {plan : Plan} {itemKey : String} {token : Uuid}
      {completion : DeliveryItemCompletion}
      (holder : phase = .claimed plan itemKey token ∨ phase = .spoiled plan itemKey token)
      (addresses : Addresses plan itemKey token completion.deliveryKey completion.itemKey
        completion.claimToken) (status : completion.status = .failed)
      (messageId : completion.providerMessageId = none) :
      Allowed contract phase (.finishDeliveryItem completion)
  | save {plan : Plan} {itemKey : String} {response : Json} {record : DeliveryRecord}
      (last : plan.lastKey? = some itemKey) (fingerprint : record.requestFingerprint = plan.fingerprint)
      (own : contract.answer response record.responsePayload) :
      Allowed contract (.settled plan itemKey response)
        (.saveDeliveryRecord plan.deliveryKey record)
  | sendDirect {phase : Phase} {adapter : String} {outbound : OutboundMessage}
      (own : contract.direct) : Allowed contract phase (.sendOutbound adapter outbound)

def deliveryProtocol (contract : Contract) : Protocol Op Ans Phase where
  allows := Allowed contract
  possible := contract.possible
  next := Phase.next

/-! ## Programs that stay in their phase -/

section Neutral

variable {α β : Type} {test : Op → Bool}

theorem asks_ask {op : Op} (passes : test op = true) : Prog.Asks test (ask op).run :=
  .bind (.perform passes) fun _ => .pure _

theorem asks_propagate (result : Except GatewayError α) : Prog.Asks test (propagate result).run :=
  .pure _

theorem asks_throw (error : GatewayError) : Prog.Asks test (throw error : Gate α).run :=
  .pure _

theorem asks_pure (value : α) : Prog.Asks test (pure value : Gate α).run :=
  .pure _

theorem asks_attempt {call : Gate α} (asks : Prog.Asks test call.run) :
    Prog.Asks test (attempt call).run :=
  .bind asks fun _ => .pure _

end Neutral

theorem outboundTaskClient_neutral (gateway : Gateway) (outbound : OutboundMessage) :
    Prog.Asks Op.isNeutral (outboundTaskClient gateway outbound).run := by
  simp only [outboundTaskClient]
  split
  · refine .bindExcept (asks_ask rfl) fun _ => ?_
    refine .bindExcept (asks_propagate _) fun _ => ?_
    exact .bindExcept (asks_propagate _) fun _ => asks_propagate _
  · split
    · exact asks_throw _
    · split
      · exact asks_pure _
      · exact asks_throw _

theorem authorizeCameraDelivery_neutral (gateway : Gateway) (outbound : OutboundMessage) :
    Prog.Asks Op.isNeutral (authorizeCameraDelivery gateway outbound).run := by
  simp only [authorizeCameraDelivery]
  split
  · exact asks_pure _
  · refine .bindExcept (outboundTaskClient_neutral gateway outbound) fun _ => ?_
    exact .bindExcept (asks_ask rfl) fun _ => asks_propagate _

theorem checkSelection_neutral (gateway : Gateway) (outbound : OutboundMessage) :
    Prog.Asks Op.isNeutral (checkSelection gateway outbound).run := by
  simp only [checkSelection]
  split
  · refine .bindExcept (asks_ask rfl) fun _ => ?_
    exact .bindExcept (asks_propagate _) fun _ => asks_pure _
  · exact asks_pure _

theorem authorizeDelivery_neutral (gateway : Gateway) (outbound : OutboundMessage) :
    Prog.Asks Op.isNeutral (authorizeDelivery gateway outbound).run := by
  simp only [authorizeDelivery]
  refine .bindExcept (authorizeCameraDelivery_neutral gateway outbound) fun _ => ?_
  split
  · refine .bindExcept (outboundTaskClient_neutral gateway outbound) fun _ => ?_
    refine .bindExcept (asks_ask rfl) fun _ => ?_
    exact .bindExcept (asks_propagate _) fun _ => checkSelection_neutral gateway outbound
  · exact asks_pure _

theorem authorizeDeliveryContext_neutral (gateway : Gateway) (outbound : OutboundMessage) :
    Prog.Asks Op.isNeutral (authorizeDeliveryContext gateway outbound).run := by
  simp only [authorizeDeliveryContext]
  refine .bindExcept (asks_attempt (authorizeDelivery_neutral gateway outbound)) fun result => ?_
  split
  · exact asks_pure _
  · split
    · split
      · exact asks_throw _
      · refine .bindExcept (asks_ask rfl) fun _ => ?_
        exact .bindExcept (asks_propagate _) fun _ => asks_throw _
    · exact asks_throw _

def Quiet {α : Type} (contract : Contract) (program : Routine α) : Prop :=
  ∀ phase, program.Follows (deliveryProtocol contract) phase fun after _ => after = phase

variable {contract : Contract}

theorem quiet_of_neutral {α : Type} {program : Routine α} (asks : program.Asks Op.isNeutral) :
    Quiet contract program := by
  intro phase
  refine asks.follows (fun op harmless => .neutral harmless) fun op harmless answer => ?_
  cases op <;> first | rfl | simp [Op.isNeutral] at harmless

theorem quiet_ask {op : Op} (harmless : op.isNeutral = true) : Quiet contract (ask op).run :=
  quiet_of_neutral (asks_ask harmless)

theorem authorizeDeliveryContext_quiet (gateway : Gateway) (outbound : OutboundMessage) :
    Quiet contract (authorizeDeliveryContext gateway outbound).run :=
  quiet_of_neutral (authorizeDeliveryContext_neutral gateway outbound)

/-! ## Sending one item -/

/-- The phase after a stage: a success is on record; after a failure the call still holds its
claim, or has sent without the ledger taking it and will not fall back. -/
def StageDone (plan : Plan) (itemKey : String) (token : Uuid) (phase : Phase) :
    Except GatewayError Json → Prop
  | .ok response => phase = .recorded plan itemKey token response
  | .error error =>
      phase = .claimed plan itemKey token ∨
        phase = .spoiled plan itemKey token ∧ shouldFallbackToFile error = false

section Sending

variable {plan : Plan} {itemKey : String} {token : Uuid} {context : StageContext}

theorem storeFailure_keeps_stage (error : StoreError) :
    shouldFallbackToFile (storeFailure error) = false := by
  simp [shouldFallbackToFile, storeFailure, GatewayError.infrastructure, GatewayError.new]

/-- The phase in which a stage outcome is reported to the ledger. -/
def reportPhase (plan : Plan) (itemKey : String) (token : Uuid) :
    Except GatewayError Json → Phase
  | .ok response => .sent plan itemKey token response
  | .error _ => .claimed plan itemKey token

theorem completeStage_follows (prepared : Option PreparedOutbound)
    (result : Except GatewayError Json)
    (addresses : Addresses plan itemKey token context.deliveryKey context.itemKey
      context.claimToken) :
    (completeStage context prepared result).Follows (deliveryProtocol contract)
      (reportPhase plan itemKey token result)
      fun phase outcome => StageDone plan itemKey token phase outcome.1 := by
  simp only [completeStage]
  cases result with
  | ok response =>
      refine Prog.Follows.performBind (.stageSucceeded addresses rfl) fun answer _ => ?_
      cases answer with
      | ok done => rfl
      | error error => exact Or.inr ⟨rfl, storeFailure_keeps_stage error⟩
  | error failure =>
      have unsuccessful : (stageFailure context prepared failure).status ≠ .succeeded := by
        simp only [stageFailure]
        split <;> simp
      refine Prog.Follows.performBind (.stageFailed addresses unsuccessful) fun answer _ => ?_
      cases answer with
      | ok done => exact Or.inl rfl
      | error error => exact Or.inl rfl

/-- After the adapter answered, the call is in the phase that reports this answer. -/
theorem send_follows (adapter : Adapter) (outbound : OutboundMessage)
    (prepared : Option PreparedOutbound)
    (addresses : Addresses plan itemKey token context.deliveryKey context.itemKey
      context.claimToken) :
    (query (.sendPreparedOutbound adapter.name outbound prepared context)).Follows
      (deliveryProtocol contract) (.claimed plan itemKey token)
      fun phase result => phase = reportPhase plan itemKey token result := by
  refine Prog.Follows.perform (.send addresses) fun answer _ => ?_
  cases answer with
  | ok response => rfl
  | error error => rfl

theorem sendAuthorized_follows (gateway : Gateway) (adapter : Adapter) (outbound : OutboundMessage)
    (prepared : Option PreparedOutbound)
    (addresses : Addresses plan itemKey token context.deliveryKey context.itemKey
      context.claimToken) :
    (sendAuthorized gateway adapter outbound prepared context).Follows (deliveryProtocol contract)
      (.claimed plan itemKey token)
      fun phase result => phase = reportPhase plan itemKey token result := by
  simp only [sendAuthorized]
  refine Prog.Follows.bind (authorizeDeliveryContext_quiet gateway outbound _) ?_
  rintro _ result rfl
  cases result with
  | ok authorized => exact send_follows adapter outbound prepared addresses
  | error error => exact Prog.Follows.pure rfl

theorem prepareAndSend_follows (gateway : Gateway) (adapter : Adapter) (outbound : OutboundMessage)
    (addresses : Addresses plan itemKey token context.deliveryKey context.itemKey
      context.claimToken) :
    (prepareAndSend gateway adapter outbound context).Follows (deliveryProtocol contract)
      (.claimed plan itemKey token)
      fun phase outcome => StageDone plan itemKey token phase outcome.1 := by
  simp only [prepareAndSend]
  refine Prog.Follows.performBind .prepare fun answer _ => ?_
  match answer with
  | .error error => exact completeStage_follows none (.error error) addresses
  | .ok none =>
      refine Prog.Follows.bind (sendAuthorized_follows gateway adapter outbound none addresses) ?_
      rintro _ result rfl
      exact completeStage_follows none result addresses
  | .ok (some value) =>
      have own : Addresses plan itemKey token (stageUpload context value).deliveryKey
          (stageUpload context value).itemKey (stageUpload context value).claimToken := addresses
      refine Prog.Follows.performBind (.upload own) fun recorded _ => ?_
      cases recorded with
      | error error => exact Or.inl rfl
      | ok done =>
          refine Prog.Follows.bind
            (sendAuthorized_follows gateway adapter outbound (some value) addresses) ?_
          rintro _ result rfl
          exact completeStage_follows (some value) result addresses

theorem sendDeliveryStage_follows (gateway : Gateway) (adapter : Adapter)
    (outbound : OutboundMessage) (item : LedgerItem)
    (addresses : Addresses plan itemKey token context.deliveryKey context.itemKey
      context.claimToken) :
    (sendDeliveryStage gateway adapter outbound item context).Follows (deliveryProtocol contract)
      (.claimed plan itemKey token)
      fun phase outcome => StageDone plan itemKey token phase outcome.1 := by
  simp only [sendDeliveryStage]
  refine Prog.Follows.bind (authorizeDeliveryContext_quiet gateway outbound _) ?_
  rintro _ authorized rfl
  cases authorized with
  | error error => exact completeStage_follows _ (.error error) addresses
  | ok done =>
      cases resumedUpload item context.stage with
      | none => exact prepareAndSend_follows gateway adapter outbound addresses
      | some value =>
          refine Prog.Follows.bind (send_follows adapter outbound (some value) addresses) ?_
          rintro _ result rfl
          exact completeStage_follows (some value) result addresses

theorem sendStages_follows (gateway : Gateway) (adapter : Adapter) (outbound : OutboundMessage)
    (item : LedgerItem) :
    (sendStages gateway adapter outbound item plan.deliveryKey itemKey token).Follows
      (deliveryProtocol contract) (.claimed plan itemKey token)
      fun phase outcome => StageDone plan itemKey token phase outcome.result := by
  have own (stage : Stage) : Addresses plan itemKey token
      (StageContext.mk plan.deliveryKey itemKey token stage).deliveryKey
      (StageContext.mk plan.deliveryKey itemKey token stage).itemKey
      (StageContext.mk plan.deliveryKey itemKey token stage).claimToken := ⟨rfl, rfl, rfl⟩
  simp only [sendStages]
  split
  · split
    · rename_i fallback _
      refine Prog.Follows.bind
        (sendDeliveryStage_follows gateway adapter fallback item (own .fallback)) ?_
      exact fun _ _ done => done
    · exact Or.inl rfl
  · refine Prog.Follows.bind
      (sendDeliveryStage_follows gateway adapter outbound item (own .native)) ?_
    rintro phase ⟨result, prepared⟩ done
    dsimp only at done ⊢
    split
    · rename_i error fallback _
      split
      · rename_i falls
        -- Only a stage whose failure the ledger took can fall back.
        have held : phase = .claimed plan itemKey token := by
          rcases done with held | ⟨-, keeps⟩
          · exact held
          · simp [keeps] at falls
        subst held
        refine Prog.Follows.bind
          (sendDeliveryStage_follows gateway adapter fallback item (own .fallback)) ?_
        exact fun _ _ done => done
      · exact done
    · exact done

/-- A finished round: a success settled the item, an error left no claim behind. -/
def ItemDone (plan : Plan) (itemKey : String) (phase : Phase) : Except GatewayError Json → Prop
  | .ok response => phase = .settled plan itemKey response
  | .error _ => phase.halted? = some plan

theorem deliverClaimed_follows (gateway : Gateway) (adapter : Adapter) (item : LedgerItem)
    (outbound : OutboundMessage) :
    Prog.Follows (deliveryProtocol contract) (.claimed plan itemKey token)
      (deliverClaimed gateway adapter plan.deliveryKey itemKey token item outbound).run
      (ItemDone plan itemKey) := by
  refine Prog.Follows.routineBind (sendStages_follows gateway adapter _ item) ?_
  rintro phase ⟨result, prepared, fallbackUsed⟩ done
  cases result with
  | ok response =>
      obtain rfl : phase = .recorded plan itemKey token response := done
      refine Prog.Follows.liftBind (.itemSucceeded ⟨rfl, rfl, rfl⟩ rfl rfl) fun answer _ => ?_
      cases answer with
      | ok path => rfl
      | error error => exact rfl
  | error error =>
      have holder : phase = .claimed plan itemKey token ∨ phase = .spoiled plan itemKey token := by
        rcases done with held | ⟨spoiled, -⟩
        · exact Or.inl held
        · exact Or.inr spoiled
      refine Prog.Follows.liftBind (.itemFailed holder ⟨rfl, rfl, rfl⟩ rfl rfl) fun answer _ => ?_
      rcases holder with rfl | rfl <;> cases answer <;> exact rfl

end Sending

/-! ## Materializing one item -/

section Materializing

variable {plan : Plan} {itemKey : String} {token : Uuid}

/-- The outcome of a materialization: the item is ready, or the delivery ends without a claim
on it. -/
def Materialized {α : Type} (plan : Plan) (itemKey : String) (phase : Phase) :
    Except GatewayError α → Prop
  | .ok _ => phase = .ready plan itemKey
  | .error _ => phase.halted? = some plan

theorem failMaterialization_follows {α : Type} (error : GatewayError) (message : String)
    (retryable : Bool) :
    Prog.Follows (deliveryProtocol contract) (.materializing plan itemKey token)
      (failMaterialization (materializationFailure plan.deliveryKey itemKey token message retryable)
        error : Gate α).run
      fun phase result => (∃ failure, result = .error failure) ∧ phase.halted? = some plan := by
  refine Prog.Follows.liftBind (.finishMaterialization ⟨rfl, rfl, rfl⟩) fun answer _ => ?_
  cases answer with
  | ok done => exact ⟨⟨error, rfl⟩, rfl⟩
  | error failure => exact ⟨⟨storeFailure failure, rfl⟩, rfl⟩

theorem authorizeMaterialization_follows (gateway : Gateway) (outbound : OutboundMessage) :
    Prog.Follows (deliveryProtocol contract) (.materializing plan itemKey token)
      (authorizeMaterialization gateway plan.deliveryKey itemKey token outbound).run
      fun phase result => match result with
        | .ok _ => phase = .materializing plan itemKey token
        | .error _ => phase.halted? = some plan := by
  simp only [authorizeMaterialization]
  split
  · refine Prog.Follows.bindExcept
      (quiet_of_neutral (asks_attempt (authorizeDeliveryContext_neutral gateway outbound)) _) ?_ ?_
    · rintro _ error rfl
      exact rfl
    · rintro _ authorized rfl
      cases authorized with
      | ok done => exact Prog.Follows.pure rfl
      | error error =>
          refine (failMaterialization_follows error error.message _).mono ?_
          rintro phase result ⟨⟨failure, rfl⟩, ended⟩
          exact ended
  · exact Prog.Follows.pure rfl

theorem materializeClaimed_follows (gateway : Gateway) (segment : String → String)
    (outbound : OutboundMessage) :
    Prog.Follows (deliveryProtocol contract) (.materializing plan itemKey token)
      (materializeClaimed gateway segment plan.deliveryKey itemKey token outbound).run
      (Materialized plan itemKey) := by
  simp only [materializeClaimed]
  refine Prog.Follows.bindExcept (authorizeMaterialization_follows gateway outbound)
    (fun _ _ ended => ended) ?_
  rintro _ authorized rfl
  refine Prog.Follows.bindExcept
    (quiet_of_neutral (asks_attempt (outboundTaskClient_neutral gateway outbound)) _) ?_ ?_
  · rintro _ error rfl
    exact rfl
  rintro _ client rfl
  cases client with
  | error error =>
      refine (failMaterialization_follows _ _ true).mono ?_
      rintro phase result ⟨⟨failure, rfl⟩, ended⟩
      exact ended
  | ok done =>
      refine Prog.Follows.liftBind (.neutral rfl) fun materialized _ => ?_
      split
      · refine (failMaterialization_follows _ _ true).mono ?_
        rintro phase result ⟨⟨failure, rfl⟩, ended⟩
        exact ended
      · split
        · exact Prog.Follows.pure rfl
        · refine Prog.Follows.liftBind (.finishMaterialization ⟨rfl, rfl, rfl⟩) fun answer _ => ?_
          cases answer with
          | ok done => exact Prog.Follows.pure rfl
          | error failure => exact Prog.Follows.pure rfl

def Plan.afterMaterializationClaim (plan : Plan) (itemKey : String) :
    StoreResult MaterializationClaim → Phase
  | .ok (.claimed token _) => .materializing plan itemKey token
  | .ok (.materialized _) => .ready plan itemKey
  | .ok (.notRequired _) => .ready plan itemKey
  | _ => .stopped plan

/-- After materialization the item is ready, or it is one that needs none. -/
theorem materializeDeliveryItem_follows (gateway : Gateway) (segment : String → String)
    (adapter : Adapter) (planned : DeliveryPlanItem) {phase : Phase} (between : phase.Between plan)
    (member : planned ∈ plan.items)
    (required : planned.materializationRequired =
      deliveryItemRequiresMaterialization adapter.name planned.plannedOutbound) :
    Prog.Follows (deliveryProtocol contract) phase
      (materializeDeliveryItem gateway segment adapter plan.deliveryKey planned.itemKey
        planned.plannedOutbound).run
      fun after result => match result with
        | .ok _ => after = .ready plan planned.itemKey ∨
            after = phase ∧ planned.materializationRequired = false
        | .error _ => after.halted? = some plan := by
  simp only [materializeDeliveryItem]
  split
  · rename_i needed
    have listed : ∃ item ∈ plan.items,
        item.itemKey = planned.itemKey ∧ item.materializationRequired = true :=
      ⟨planned, member, rfl, required.trans needed⟩
    have found : phase.plan? = some plan := by
      rcases between with rfl | ⟨_, _, rfl⟩ <;> rfl
    refine Prog.Follows.liftBind (.claimMaterialization between listed) fun answer _ => ?_
    have next (result) : (deliveryProtocol contract).next phase
        (.claimDeliveryMaterialization plan.deliveryKey planned.itemKey gateway.instanceId
          adapter.leaseSeconds) result = plan.afterMaterializationClaim planned.itemKey result := by
      simp only [deliveryProtocol, Phase.next, found]
      cases result with
      | error error => rfl
      | ok claim => cases claim <;> rfl
    rw [next]
    cases answer with
    | error error => exact Prog.Follows.pure rfl
    | ok claim =>
        cases claim with
        | notRequired item => exact Prog.Follows.pure (Or.inl rfl)
        | terminalFailed item => exact Prog.Follows.pure rfl
        | busy item => exact Prog.Follows.pure rfl
        | materialized item =>
            refine Prog.Follows.pure ?_
            cases item.materializedOutbound with
            | some outbound => exact Or.inl rfl
            | none => exact rfl
        | claimed token item =>
            refine (materializeClaimed_follows gateway segment planned.plannedOutbound).mono ?_
            intro after result done
            cases result with
            | ok outbound => exact Or.inl done
            | error error => exact done
  · rename_i unneeded
    exact Prog.Follows.pure (Or.inr ⟨rfl, by simpa [unneeded] using required⟩)

end Materializing

/-! ## Whole deliveries -/

section Delivering

variable {plan : Plan}

theorem Phase.Between.plan? {phase : Phase} (between : phase.Between plan) :
    phase.plan? = some plan := by
  rcases between with rfl | ⟨_, _, rfl⟩ <;> rfl

def Plan.afterItemClaim (plan : Plan) (itemKey : String) : StoreResult ItemClaim → Phase
  | .ok (.claimed token _ _) => .claimed plan itemKey token
  | .ok (.succeeded stored) => .settled plan itemKey (ledgerResponse stored)
  | _ => .stopped plan

theorem deliverItem_follows (gateway : Gateway) (segment : String → String) (adapter : Adapter)
    (item : DeliveryItem) {phase : Phase} (between : phase.Between plan)
    (member : planItem adapter plan.deliveryKey item ∈ plan.items) :
    Prog.Follows (deliveryProtocol contract) phase
      (deliverItem gateway segment adapter plan.deliveryKey plan.fingerprint item).run
      (ItemDone plan (planItem adapter plan.deliveryKey item).itemKey) := by
  simp only [deliverItem]
  refine Prog.Follows.bindExcept
    (materializeDeliveryItem_follows gateway segment adapter _ between member rfl)
    (fun _ _ ended => ended) ?_
  intro ready outbound prepared
  have source : ready = .ready plan (planItem adapter plan.deliveryKey item).itemKey ∨
      ready.Between plan ∧ ∃ planned ∈ plan.items,
        planned.itemKey = (planItem adapter plan.deliveryKey item).itemKey ∧
        planned.materializationRequired = false := by
    rcases prepared with isReady | ⟨rfl, unneeded⟩
    · exact Or.inl isReady
    · exact Or.inr ⟨between, _, member, rfl, unneeded⟩
  have found : ready.plan? = some plan := by
    rcases source with rfl | ⟨stillBetween, -⟩
    · rfl
    · exact stillBetween.plan?
  refine Prog.Follows.liftBind (.claimItem source rfl rfl) fun answer _ => ?_
  have next (result) : (deliveryProtocol contract).next ready
      (.claimDeliveryItem (claimRequest gateway adapter plan.deliveryKey plan.fingerprint
        (deliveryItemKey plan.deliveryKey item.identity) item outbound)) result =
      plan.afterItemClaim (deliveryItemKey plan.deliveryKey item.identity) result := by
    simp only [deliveryProtocol, Phase.next, found]
    cases result with
    | error error => rfl
    | ok claim => cases claim <;> rfl
  rw [next]
  cases answer with
  | error error => exact rfl
  | ok claim =>
      cases claim with
      | succeeded stored => exact Prog.Follows.pure rfl
      | terminalFailed stored => exact Prog.Follows.pure rfl
      | busy stored => exact Prog.Follows.pure rfl
      | claimed token stored _ => exact deliverClaimed_follows gateway adapter stored outbound

theorem deliverItems_follows (gateway : Gateway) (segment : String → String) (adapter : Adapter)
    (items : List DeliveryItem) : ∀ (phase : Phase) (last : Json), phase.Between plan →
    (∀ item ∈ items, planItem adapter plan.deliveryKey item ∈ plan.items) →
    Prog.Follows (deliveryProtocol contract) phase
      (deliverItems gateway segment adapter plan.deliveryKey plan.fingerprint items last).run
      fun after result => match result with
        | .ok response => match items.getLast? with
            | none => after = phase ∧ response = last
            | some item =>
                after = .settled plan (planItem adapter plan.deliveryKey item).itemKey response
        | .error _ => after.halted? = some plan := by
  induction items with
  | nil =>
      intro phase last between members
      exact Prog.Follows.pure ⟨rfl, rfl⟩
  | cons item items ih =>
      intro phase last between members
      simp only [deliverItems]
      refine Prog.Follows.bindExcept (deliverItem_follows gateway segment adapter item between
        (members item List.mem_cons_self)) (fun _ _ ended => ended) ?_
      intro settled response done
      have settledBetween : settled.Between plan := Or.inr ⟨_, response, done⟩
      refine (ih settled response settledBetween
        fun other member => members other (List.mem_cons_of_mem _ member)).mono ?_
      intro after result holds
      cases result with
      | error error => exact holds
      | ok final =>
          cases items with
          | nil =>
              obtain ⟨rfl, rfl⟩ := holds
              exact done
          | cons second rest =>
              rw [List.getLast?_cons_cons]
              cases present : (second :: rest).getLast? with
              | none => simp at present
              | some final =>
                  rw [present] at holds
                  exact holds

theorem splitOutboundItems_ne_nil {outbound : OutboundMessage} {items : List DeliveryItem}
    (ok : splitOutboundItems outbound = .ok items) : items ≠ [] := by
  simp only [splitOutboundItems] at ok
  cases attachments : attachmentItems outbound [] outbound.attachments with
  | error error => simp [attachments, Except.map] at ok
  | ok found =>
      simp only [attachments, Except.map, Except.ok.injEq] at ok
      subst ok
      generalize (if Text.isBlank outbound.text = true then found else _) = listed
      cases listed <;> simp

/-- How a delivery that started in `phase` ends. -/
def DeliveryDone (deliveryKey fingerprint : String) (phase after : Phase) :
    Except GatewayError Json → Prop
  | .ok response =>
      Text.isBlank deliveryKey = true ∧ after = phase ∨
        ∃ plan itemKey, after = .settled plan itemKey response ∧ plan.lastKey? = some itemKey ∧
          plan.deliveryKey = deliveryKey ∧ plan.fingerprint = fingerprint
  | .error error =>
      after = phase ∨ (∃ reason, after = .refused reason ∧ error = persistFailure reason) ∨
        ∃ plan, after.halted? = some plan

theorem Phase.halted?_free {phase : Phase} (halted : phase.halted? = some plan) :
    phase.token? = none := by
  cases phase <;> first | rfl | simp [Phase.halted?] at halted

theorem DeliveryDone.free {deliveryKey fingerprint : String} {phase after : Phase}
    {result : Except GatewayError Json} (free : phase.token? = none)
    (done : DeliveryDone deliveryKey fingerprint phase after result) : after.token? = none := by
  cases result with
  | ok response =>
      rcases done with ⟨-, rfl⟩ | ⟨plan, itemKey, rfl, -⟩
      · exact free
      · rfl
  | error error =>
      rcases done with rfl | ⟨reason, rfl, -⟩ | ⟨plan, halted⟩
      · exact free
      · rfl
      · exact Phase.halted?_free halted

theorem deliverOutboundItemsGuarded_follows (gateway : Gateway) (segment : String → String)
    (adapter : Adapter) (outbound : OutboundMessage) (deliveryKey fingerprint : String)
    {phase : Phase} (free : phase.token? = none)
    (own : ∀ items, splitOutboundItems outbound = .ok items →
      contract.plan ⟨deliveryKey, fingerprint, items.map (planItem adapter deliveryKey)⟩)
    (direct : Text.isBlank deliveryKey = true → contract.direct) :
    Prog.Follows (deliveryProtocol contract) phase
      (deliverOutboundItemsGuarded gateway segment adapter outbound deliveryKey fingerprint).run
      (DeliveryDone deliveryKey fingerprint phase) := by
  simp only [deliverOutboundItemsGuarded]
  split
  · rename_i blank
    split
    · exact Prog.Follows.pure (Or.inl rfl)
    · refine Prog.Follows.bindExcept (authorizeDeliveryContext_quiet gateway outbound phase) ?_ ?_
      · rintro _ error rfl
        exact Or.inl rfl
      · rintro _ authorized rfl
        refine Prog.Follows.liftBind (.sendDirect (direct blank)) fun answer _ => ?_
        cases answer with
        | ok response => exact Or.inl ⟨blank, rfl⟩
        | error error => exact Or.inl rfl
  · cases split_ : splitOutboundItems outbound with
    | error error => exact Or.inl rfl
    | ok items =>
        refine Prog.Follows.liftBind (.persist
          ⟨deliveryKey, fingerprint, items.map (planItem adapter deliveryKey)⟩ free
          (own items split_)) fun answer _ => ?_
        cases answer with
        | error reason => exact Or.inr (Or.inl ⟨reason, rfl, rfl⟩)
        | ok done =>
            refine (deliverItems_follows gateway segment adapter items
              (.planned ⟨deliveryKey, fingerprint, items.map (planItem adapter deliveryKey)⟩)
              (.obj []) (Or.inl rfl) (fun item member => List.mem_map_of_mem member)).mono ?_
            intro after result holds
            cases result with
            | error error => exact Or.inr (Or.inr ⟨_, holds⟩)
            | ok response =>
                cases last : items.getLast? with
                | none =>
                    have empty := List.getLast?_eq_none_iff.mp last
                    exact absurd empty (splitOutboundItems_ne_nil split_)
                | some item =>
                    rw [last] at holds
                    exact Or.inr ⟨_, _, holds, by simp [Plan.lastKey?, last], rfl, rfl⟩

end Delivering

end HarborGate
