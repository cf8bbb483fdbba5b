import HarborGate.Gateway.Grants

/-!
The stages of a delivery as a protocol of their own: under which claim a call sends an item, in which
of its stages, and which upload it has at hand.
-/

namespace HarborGate

open Interleave

/-- An item claim, with the item as it was handed out. -/
structure Job where
  deliveryKey : String
  itemKey : String
  token : Uuid
  item : LedgerItem

def Job.context (job : Job) (stage : Stage) : StageContext where
  deliveryKey := job.deliveryKey
  itemKey := job.itemKey
  claimToken := job.token
  stage := stage

def LedgerItem.NativeUnsupported (item : LedgerItem) : Prop :=
  item.native.map (·.status) = some .unsupported

instance (item : LedgerItem) : Decidable item.NativeUnsupported :=
  inferInstanceAs (Decidable (_ = _))

/-- The stage a claimed item is sent in first. -/
def Job.firstStage (job : Job) : Stage :=
  if job.item.NativeUnsupported then .fallback else .native

/-- How far a stage is. `prepared` is an upload that the ledger does not know yet. -/
inductive Progress
  | fresh
  | prepared (value : PreparedOutbound)
  | stocked (upload : Option PreparedOutbound)
  | sent (upload : Option PreparedOutbound) (response : Json)
  | ended (upload : Option PreparedOutbound) (response : Option Json)

inductive StagePhase
  | idle
  | active (job : Job) (stage : Stage) (progress : Progress)

/-- The upload at hand. -/
def Progress.upload? (job : Job) (stage : Stage) : Progress → Option PreparedOutbound
  | .fresh => resumedUpload job.item stage
  | .prepared value => some value
  | .stocked upload | .sent upload _ | .ended upload _ => upload

def Progress.response? : Progress → Option Json
  | .sent _ response => some response
  | .ended _ response => response
  | _ => none

def Progress.IsPrepared : Progress → Prop
  | .prepared _ => True
  | _ => False

def StagePhase.IsPrepared : StagePhase → Prop
  | .idle => False
  | .active _ _ progress => progress.IsPrepared

namespace StagePhase

def next (phase : StagePhase) : (op : Op) → Ans op → StagePhase
  | .claimDeliveryItem request, .ok (.claimed token item _) =>
      let job : Job := ⟨request.deliveryKey, request.itemKey, token, item⟩
      .active job job.firstStage .fresh
  | .prepareOutbound _ _, .ok upload =>
      match phase with
      | .idle => .idle
      | .active job stage _ =>
          .active job stage (match upload with
            | some value => .prepared value
            | none => .stocked none)
  | .recordDeliveryItemUpload _, answer =>
      match phase, answer with
      | .active job stage (.prepared value), .ok () => .active job stage (.stocked (some value))
      | .active job stage (.prepared value), .error _ => .active job stage (.ended (some value) none)
      | phase, _ => phase
  | .sendPreparedOutbound _ _ prepared _, answer =>
      match phase, answer with
      | .active job stage _, .ok response => .active job stage (.sent prepared response)
      | .active job stage _, .error _ => .active job stage (.stocked prepared)
      | .idle, _ => .idle
  | .finishDeliveryStage completion, answer =>
      match phase, answer with
      | .active job .native progress, .ok () =>
          if completion.status = .unsupported then .active job .fallback .fresh
          else .active job .native (.ended (progress.upload? job .native) progress.response?)
      | .active job stage progress, _ =>
          .active job stage (.ended (progress.upload? job stage) progress.response?)
      | .idle, _ => .idle
  | .finishDeliveryItem _, _ => .idle
  | _, _ => phase

end StagePhase

/-- Operations that belong to a stage. -/
def Op.isStaging : Op → Bool
  | .prepareOutbound _ _ | .recordDeliveryItemUpload _ | .sendPreparedOutbound _ _ _ _
  | .finishDeliveryStage _ | .finishDeliveryItem _ => true
  | _ => false

/-- The message that an item is sent as in a stage. -/
def ForStage (deliveryKey itemKey : String) (outbound : OutboundMessage) : Stage → Prop
  | .native => ∃ planned, tagOutbound deliveryKey itemKey planned = outbound
  | .fallback => ∃ planned,
      nativeVideoFileFallback (tagOutbound deliveryKey itemKey planned) = some outbound

/-- A media id comes from the upload or the response at hand. -/
def MediaAtHand (upload : Option PreparedOutbound) (response : Option Json) (media : String) : Prop :=
  preparedMediaId upload = some media ∨ response.bind responseMediaId = some media

/-- The claim that a completion names. -/
structure Names (job : Job) (deliveryKey itemKey : String) (token : Uuid) : Prop where
  delivery : deliveryKey = job.deliveryKey
  item : itemKey = job.itemKey
  claim : token = job.token

inductive StageAllowed : StagePhase → Op → Prop
  | neutral {phase : StagePhase} {op : Op} (known : ¬phase.IsPrepared)
      (harmless : op.isNeutral = true) : StageAllowed phase op
  | between {op : Op} (other : op.isStaging = false) : StageAllowed .idle op
  | prepare {job : Job} {stage : Stage} {adapter : String} {outbound : OutboundMessage}
      (own : ForStage job.deliveryKey job.itemKey outbound stage) :
      StageAllowed (.active job stage .fresh) (.prepareOutbound adapter outbound)
  | upload {job : Job} {stage : Stage} {value : PreparedOutbound} :
      StageAllowed (.active job stage (.prepared value))
        (.recordDeliveryItemUpload (stageUpload (job.context stage) value))
  | send {job : Job} {stage : Stage} {progress : Progress} {adapter : String}
      {outbound : OutboundMessage} (known : ¬progress.IsPrepared) :
      StageAllowed (.active job stage progress) (.sendPreparedOutbound adapter outbound
        (progress.upload? job stage) (job.context stage))
  | finishStage {job : Job} {stage : Stage} {progress : Progress}
      {completion : DeliveryStageCompletion} (known : ¬progress.IsPrepared)
      (names : Names job completion.deliveryKey completion.itemKey completion.claimToken)
      (own : completion.stage = stage)
      (media : ∀ id, completion.providerMediaId = some id →
        MediaAtHand (progress.upload? job stage) progress.response? id) :
      StageAllowed (.active job stage progress) (.finishDeliveryStage completion)
  | finishNative {job : Job} {upload : Option PreparedOutbound} {response : Option Json}
      {completion : DeliveryItemCompletion}
      (names : Names job completion.deliveryKey completion.itemKey completion.claimToken)
      (media : ∀ id, completion.providerMediaId = some id → MediaAtHand upload response id) :
      StageAllowed (.active job .native (.ended upload response)) (.finishDeliveryItem completion)
  | finishFallback {job : Job} {progress : Progress} {completion : DeliveryItemCompletion}
      (names : Names job completion.deliveryKey completion.itemKey completion.claimToken) :
      StageAllowed (.active job .fallback progress) (.finishDeliveryItem completion)

def stageProtocol : Protocol Op Ans StagePhase where
  allows := StageAllowed
  possible _ _ := True
  next := StagePhase.next

/-! ## Programs outside the stages -/

/-- Started between two items, the program ends so. -/
def KeepsIdle {α : Type} (program : Routine α) : Prop :=
  program.Follows stageProtocol .idle fun phase _ => phase = .idle

section KeepsIdle

variable {α β : Type}

theorem StagePhase.next_neutral {phase : StagePhase} {op : Op} (harmless : op.isNeutral = true)
    (answer : Ans op) : phase.next op answer = phase := by
  cases op <;> first | rfl | simp [Op.isNeutral] at harmless

theorem neutral_stays {phase : StagePhase} {program : Routine α} (known : ¬phase.IsPrepared)
    (asks : program.Asks Op.isNeutral) :
    program.Follows stageProtocol phase fun after _ => after = phase :=
  asks.follows (fun _ harmless => .neutral known harmless) fun _ harmless answer =>
    StagePhase.next_neutral harmless answer

theorem apart_ret (value : α) : KeepsIdle (pure value : Routine α) :=
  Prog.Follows.pure rfl

theorem KeepsIdle.bind {first : Routine α} {next : α → Routine β} (apart : KeepsIdle first)
    (continues : ∀ value, KeepsIdle (next value)) : KeepsIdle (first >>= next) := by
  refine Prog.Follows.bind apart ?_
  rintro _ value rfl
  exact continues value

theorem KeepsIdle.gateBind {first : Gate α} {next : α → Gate β} (apart : KeepsIdle first.run)
    (continues : ∀ value, KeepsIdle (next value).run) : KeepsIdle (first >>= next).run := by
  refine Prog.Follows.bindExcept apart (fun _ _ same => same) ?_
  rintro _ value rfl
  exact continues value

/-- An operation between two items, other than an item claim. -/
def Op.isBetween (op : Op) : Bool :=
  !op.isStaging && match op with
    | .claimDeliveryItem _ => false
    | _ => true

theorem apart_of_asks {program : Routine α} (asks : program.Asks Op.isBetween) : KeepsIdle program := by
  refine asks.follows (fun op between => .between ?_) fun op between answer => ?_
  · simp only [Op.isBetween, Bool.and_eq_true, Bool.not_eq_true'] at between
    exact between.1
  · cases op <;> first | rfl | simp [Op.isBetween, Op.isStaging] at between

theorem Op.isBetween_of_neutral (op : Op) (harmless : op.isNeutral = true) :
    op.isBetween = true := by
  cases op <;> first | rfl | simp [Op.isNeutral] at harmless

theorem apart_ask {op : Op} (between : op.isBetween = true) : KeepsIdle (ask op).run :=
  apart_of_asks (asks_ask between)

theorem apart_propagate (result : Except GatewayError α) : KeepsIdle (propagate result).run :=
  apart_of_asks (asks_propagate _)

theorem apart_throw (error : GatewayError) : KeepsIdle (throw error : Gate α).run :=
  apart_of_asks (asks_throw _)

theorem apart_pure (value : α) : KeepsIdle (pure value : Gate α).run :=
  apart_of_asks (asks_pure _)

end KeepsIdle

theorem failMaterialization_between {α : Type} (completion : DeliveryMaterializationCompletion)
    (error : GatewayError) :
    Prog.Asks Op.isBetween (failMaterialization completion error : Gate α).run := by
  simp only [failMaterialization]
  refine .bindExcept (asks_ask rfl) fun _ => ?_
  exact .bindExcept (asks_propagate _) fun _ => asks_throw _

theorem authorizeMaterialization_between (gateway : Gateway) (deliveryKey itemKey : String)
    (token : Uuid) (outbound : OutboundMessage) :
    Prog.Asks Op.isBetween
      (authorizeMaterialization gateway deliveryKey itemKey token outbound).run := by
  simp only [authorizeMaterialization]
  split
  · have context := (authorizeDeliveryContext_neutral gateway outbound).mono Op.isBetween_of_neutral
    refine .bindExcept (asks_attempt context) fun authorized => ?_
    cases authorized with
    | ok done => exact asks_pure _
    | error error => exact failMaterialization_between _ _
  · exact asks_pure _

theorem materializeClaimed_between (gateway : Gateway) (segment : String → String)
    (deliveryKey itemKey : String) (token : Uuid) (outbound : OutboundMessage) :
    Prog.Asks Op.isBetween
      (materializeClaimed gateway segment deliveryKey itemKey token outbound).run := by
  simp only [materializeClaimed]
  refine .bindExcept (authorizeMaterialization_between gateway _ _ _ outbound) fun _ => ?_
  have client := (outboundTaskClient_neutral gateway outbound).mono Op.isBetween_of_neutral
  refine .bindExcept (asks_attempt client) fun configured => ?_
  cases configured with
  | error error => exact failMaterialization_between _ _
  | ok done =>
      refine .bindExcept (asks_ask rfl) fun materialized => ?_
      split
      · exact failMaterialization_between _ _
      · split
        · exact asks_throw _
        · refine .bindExcept (asks_ask rfl) fun _ => ?_
          exact .bindExcept (asks_propagate _) fun _ => asks_pure _

theorem materializeDeliveryItem_between (gateway : Gateway) (segment : String → String)
    (adapter : Adapter) (deliveryKey itemKey : String) (outbound : OutboundMessage) :
    Prog.Asks Op.isBetween
      (materializeDeliveryItem gateway segment adapter deliveryKey itemKey outbound).run := by
  simp only [materializeDeliveryItem]
  split
  · refine .bindExcept (asks_ask rfl) fun _ => ?_
    refine .bindExcept (asks_propagate _) fun claim => ?_
    cases claim with
    | materialized item => exact asks_propagate _
    | notRequired item => exact asks_pure _
    | terminalFailed item => exact asks_throw _
    | busy item => exact asks_throw _
    | claimed token item => exact materializeClaimed_between gateway segment _ _ _ outbound
  · exact asks_pure _

/-! ## One stage -/

/-- The native stage ends unsupported, with the fallback stage to follow, or its upload and response
are what the item is finished with. -/
def StageEnds (job : Job) : Stage → StagePhase → StageOutcome → Prop
  | .native, phase, outcome =>
      phase = .active job .fallback .fresh ∧
          (∃ error, outcome.1 = .error error ∧ shouldFallbackToFile error = true) ∨
        ∃ response, phase = .active job .native (.ended outcome.2 response) ∧
          (∀ answer, outcome.1 = .ok answer → response = some answer) ∧
          ∀ error, outcome.1 = .error error → shouldFallbackToFile error = false
  | .fallback, phase, _ => ∃ progress, phase = .active job .fallback progress

section Stages

variable {job : Job} {stage : Stage} {progress : Progress}

/-- What `completeStage` tells the ledger. -/
def stageCompletion (context : StageContext) (prepared : Option PreparedOutbound) :
    Except GatewayError Json → DeliveryStageCompletion
  | .ok response => stageSuccess context prepared response
  | .error error => stageFailure context prepared error

theorem completeStage_ends (known : ¬progress.IsPrepared) (result : Except GatewayError Json)
    (answered : ∀ response, result = .ok response → progress.response? = some response) :
    (completeStage (job.context stage) (progress.upload? job stage) result).Follows stageProtocol
      (.active job stage progress) (StageEnds job stage) := by
  have media : ∀ id, (stageCompletion (job.context stage) (progress.upload? job stage)
      result).providerMediaId = some id →
      MediaAtHand (progress.upload? job stage) progress.response? id := by
    intro id named
    cases result with
    | ok response =>
        rcases Option.or_eq_some_iff.mp named with own | ⟨-, own⟩
        · refine Or.inr ?_
          rw [answered response rfl]
          exact own
        · exact Or.inl own
    | error error => exact Or.inl named
  simp only [completeStage]
  refine Prog.Follows.performBind (.finishStage known ?_ ?_ ?_) fun answer _ => ?_
  · cases result <;> exact ⟨rfl, rfl, rfl⟩
  · cases result <;> rfl
  · cases result <;> exact media
  cases stage with
  | fallback =>
      cases answer with
      | ok done => exact ⟨_, rfl⟩
      | error failure => exact ⟨_, rfl⟩
  | native =>
      cases answer with
      | error failure =>
          refine Or.inr ⟨progress.response?, rfl, ?_, ?_⟩
          · intro response mismatch
            simp at mismatch
          · intro error same
            obtain rfl := Except.error.inj same
            exact storeFailure_keeps_stage failure
      | ok done =>
          cases result with
          | ok response =>
              refine Or.inr ⟨progress.response?, rfl, ?_, ?_⟩
              · intro response' same
                obtain rfl := Except.ok.inj same
                exact answered response rfl
              · intro error mismatch
                simp at mismatch
          | error error =>
              by_cases falls : shouldFallbackToFile error = true
              · refine Or.inl ⟨?_, error, rfl, falls⟩
                simp [stageProtocol, StagePhase.next, stageFailure, falls]
              · refine Or.inr ⟨progress.response?, ?_, ?_, ?_⟩
                · simp [stageProtocol, StagePhase.next, stageFailure, falls]
                · intro response mismatch
                  simp at mismatch
                · intro other same
                  obtain rfl := Except.error.inj same
                  exact Bool.not_eq_true _ ▸ falls

/-- The phase in which the outcome of a send is reported. -/
def reported (upload : Option PreparedOutbound) : Except GatewayError Json → Progress
  | .ok response => .sent upload response
  | .error _ => .stocked upload

theorem completeStage_reported (upload : Option PreparedOutbound) (result : Except GatewayError Json) :
    (completeStage (job.context stage) upload result).Follows stageProtocol
      (.active job stage (reported upload result)) (StageEnds job stage) := by
  cases result with
  | ok response =>
      refine @completeStage_ends job stage (.sent upload response) id (.ok response) ?_
      intro answer same
      exact congrArg some (Except.ok.inj same)
  | error error =>
      refine @completeStage_ends job stage (.stocked upload) id (.error error) ?_
      intro answer mismatch
      simp at mismatch

theorem send_reported (known : ¬progress.IsPrepared) (adapter : Adapter) (outbound : OutboundMessage) :
    (query (.sendPreparedOutbound adapter.name outbound (progress.upload? job stage)
      (job.context stage))).Follows stageProtocol (.active job stage progress)
      fun phase result => phase = .active job stage (reported (progress.upload? job stage) result) := by
  refine Prog.Follows.perform (.send known) fun answer _ => ?_
  cases answer with
  | ok response => rfl
  | error error => rfl

theorem sendAuthorized_reported (gateway : Gateway) (adapter : Adapter) (outbound : OutboundMessage)
    (upload : Option PreparedOutbound) :
    (sendAuthorized gateway adapter outbound upload (job.context stage)).Follows stageProtocol
      (.active job stage (.stocked upload))
      fun phase result => phase = .active job stage (reported upload result) := by
  simp only [sendAuthorized]
  refine Prog.Follows.bind (neutral_stays id (authorizeDeliveryContext_neutral gateway outbound)) ?_
  rintro _ result rfl
  cases result with
  | ok authorized => exact @send_reported job stage (.stocked upload) id adapter outbound
  | error error => exact Prog.Follows.pure rfl

theorem prepareAndSend_ends (gateway : Gateway) (adapter : Adapter) {outbound : OutboundMessage}
    (own : ForStage job.deliveryKey job.itemKey outbound stage)
    (lacking : resumedUpload job.item stage = none) :
    (prepareAndSend gateway adapter outbound (job.context stage)).Follows stageProtocol
      (.active job stage .fresh) (StageEnds job stage) := by
  simp only [prepareAndSend]
  refine Prog.Follows.performBind (.prepare own) fun answer _ => ?_
  cases answer with
  | error error =>
      have failed := @completeStage_ends job stage .fresh id (.error error)
        (fun response mismatch => by simp at mismatch)
      simp only [Progress.upload?, lacking] at failed
      exact failed
  | ok prepared =>
      cases prepared with
      | none =>
          refine Prog.Follows.bind (sendAuthorized_reported gateway adapter outbound none) ?_
          rintro _ result rfl
          exact completeStage_reported none result
      | some value =>
          refine Prog.Follows.performBind .upload fun recorded _ => ?_
          cases recorded with
          | error failure =>
              cases stage with
              | fallback => exact ⟨_, rfl⟩
              | native =>
                  refine Or.inr ⟨none, rfl, ?_, ?_⟩
                  · intro response mismatch
                    simp at mismatch
                  · intro error same
                    obtain rfl := Except.error.inj same
                    exact storeFailure_keeps_stage failure
          | ok done =>
              refine Prog.Follows.bind
                (sendAuthorized_reported gateway adapter outbound (some value)) ?_
              rintro _ result rfl
              exact completeStage_reported (some value) result

theorem sendDeliveryStage_ends (gateway : Gateway) (adapter : Adapter) {outbound : OutboundMessage}
    (own : ForStage job.deliveryKey job.itemKey outbound stage) :
    (sendDeliveryStage gateway adapter outbound job.item (job.context stage)).Follows stageProtocol
      (.active job stage .fresh) (StageEnds job stage) := by
  simp only [sendDeliveryStage]
  refine Prog.Follows.bind (neutral_stays id (authorizeDeliveryContext_neutral gateway outbound)) ?_
  rintro _ result rfl
  cases result with
  | error error =>
      exact @completeStage_ends job stage .fresh id (.error error)
        (fun response mismatch => by simp at mismatch)
  | ok authorized =>
      dsimp only
      cases resumed : resumedUpload job.item (job.context stage).stage with
      | none => exact prepareAndSend_ends gateway adapter own resumed
      | some value =>
          have atHand : Progress.upload? job stage .fresh = some value := resumed
          have sends := @send_reported job stage .fresh id adapter outbound
          rw [atHand] at sends
          refine Prog.Follows.bind sends ?_
          rintro _ result rfl
          exact completeStage_reported (some value) result

/-! ## One item -/

/-- How the stages of an item leave the call: what it finishes the item with is at hand, unless the
native stage is unsupported. -/
def ItemReady (job : Job) (phase : StagePhase) (outcome : SendOutcome) : Prop :=
  (∃ progress, phase = .active job .fallback progress) ∨
    ∃ response, phase = .active job .native (.ended outcome.prepared response) ∧
      ∀ answer, outcome.result = .ok answer → response = some answer

theorem sendStages_ready (gateway : Gateway) (adapter : Adapter) (planned : OutboundMessage) :
    (sendStages gateway adapter (tagOutbound job.deliveryKey job.itemKey planned) job.item
      job.deliveryKey job.itemKey job.token).Follows stageProtocol
      (.active job job.firstStage .fresh) (ItemReady job) := by
  simp only [sendStages]
  by_cases unsupported : job.item.native.map (·.status) = some .unsupported
  · have starts : job.firstStage = .fallback := if_pos unsupported
    rw [if_pos unsupported, starts]
    split
    · rename_i fallback falls
      refine Prog.Follows.bind
        (@sendDeliveryStage_ends job .fallback gateway adapter fallback ⟨planned, falls⟩) ?_
      rintro phase ⟨result, prepared⟩ ends
      exact Prog.Follows.pure (Or.inl ends)
    · exact Prog.Follows.pure (Or.inl ⟨_, rfl⟩)
  · have starts : job.firstStage = .native := if_neg unsupported
    rw [if_neg unsupported, starts]
    refine Prog.Follows.bind
      (@sendDeliveryStage_ends job .native gateway adapter _ ⟨planned, rfl⟩) ?_
    rintro phase ⟨result, prepared⟩ ends
    dsimp only
    split
    · rename_i error fallback falls
      split
      · rename_i asked
        rcases ends with ⟨rfl, -⟩ | ⟨response, -, -, plain⟩
        · refine Prog.Follows.bind
            (@sendDeliveryStage_ends job .fallback gateway adapter fallback ⟨planned, falls⟩) ?_
          rintro phase ⟨result, prepared⟩ ends
          exact Prog.Follows.pure (Or.inl ends)
        · have refused := plain error rfl
          simp [asked] at refused
      · refine Prog.Follows.pure ?_
        rcases ends with ⟨rfl, -⟩ | ⟨response, rfl, answered, -⟩
        · exact Or.inl ⟨_, rfl⟩
        · exact Or.inr ⟨response, rfl, answered⟩
    · refine Prog.Follows.pure ?_
      rcases ends with ⟨rfl, -⟩ | ⟨response, rfl, answered, -⟩
      · exact Or.inl ⟨_, rfl⟩
      · exact Or.inr ⟨response, rfl, answered⟩

/-- Finishing the item ends the work under its claim. -/
theorem finishItem_apart {phase : StagePhase} {outcome : SendOutcome} {α : Type}
    {completion : DeliveryItemCompletion} (ready : ItemReady job phase outcome)
    (names : Names job completion.deliveryKey completion.itemKey completion.claimToken)
    (media : ∀ response, (∀ answer, outcome.result = .ok answer → response = some answer) →
      ∀ id, completion.providerMediaId = some id → MediaAtHand outcome.prepared response id)
    {next : Ans (.finishDeliveryItem completion) → Gate α}
    (continues : ∀ answer, KeepsIdle (next answer).run) :
    Prog.Follows stageProtocol phase (ask (.finishDeliveryItem completion) >>= next).run
      fun after _ => after = .idle := by
  have allowed : StageAllowed phase (.finishDeliveryItem completion) := by
    rcases ready with ⟨progress, rfl⟩ | ⟨response, rfl, answered⟩
    · exact .finishFallback names
    · exact .finishNative names (media response answered)
  exact Prog.Follows.liftBind allowed fun answer _ => continues answer

theorem deliverClaimed_apart (gateway : Gateway) (adapter : Adapter) (planned : OutboundMessage) :
    Prog.Follows stageProtocol (.active job job.firstStage .fresh)
      (deliverClaimed gateway adapter job.deliveryKey job.itemKey job.token job.item planned).run
      fun after _ => after = .idle := by
  simp only [deliverClaimed]
  refine Prog.Follows.routineBind (sendStages_ready gateway adapter planned) ?_
  intro phase outcome ready
  cases result : outcome.result with
  | ok response =>
      refine finishItem_apart ready ⟨rfl, rfl, rfl⟩ ?_ fun answer => ?_
      · intro given answered id named
        rw [answered response result]
        rcases Option.or_eq_some_iff.mp named with own | ⟨-, own⟩
        · exact Or.inr (Option.filter_eq_some_iff.mp own).1
        · exact Or.inl own
      · exact KeepsIdle.gateBind (apart_propagate _) fun _ => apart_pure _
  | error error =>
      refine finishItem_apart ready ⟨rfl, rfl, rfl⟩ (fun _ _ _ named => Or.inl named) fun answer => ?_
      exact KeepsIdle.gateBind (apart_propagate _) fun _ => apart_throw _

end Stages

/-! ## Whole calls -/

section Calls

variable (gateway : Gateway) (segment : String → String) (adapter : Adapter)

theorem deliverItem_apart (deliveryKey fingerprint : String) (item : DeliveryItem) :
    KeepsIdle (deliverItem gateway segment adapter deliveryKey fingerprint item).run := by
  simp only [deliverItem]
  refine KeepsIdle.gateBind (apart_of_asks (materializeDeliveryItem_between gateway segment adapter _ _ _))
    fun ready => ?_
  refine Prog.Follows.liftBind (.between rfl) fun answer _ => ?_
  cases answer with
  | error error => exact Prog.Follows.pure rfl
  | ok claim =>
      cases claim with
      | succeeded stored => exact apart_pure _
      | terminalFailed stored => exact apart_throw _
      | busy stored => exact apart_throw _
      | claimed token stored previous =>
          exact @deliverClaimed_apart ⟨deliveryKey, _, token, stored⟩ gateway adapter ready

theorem deliverItems_apart (deliveryKey fingerprint : String) (items : List DeliveryItem) :
    ∀ last, KeepsIdle (deliverItems gateway segment adapter deliveryKey fingerprint items last).run := by
  induction items with
  | nil => exact fun last => apart_pure last
  | cons item rest ih =>
      intro last
      simp only [deliverItems]
      exact KeepsIdle.gateBind (deliverItem_apart gateway segment adapter deliveryKey fingerprint item) ih

theorem deliverOutboundItemsGuarded_apart (outbound : OutboundMessage)
    (deliveryKey fingerprint : String) :
    KeepsIdle (deliverOutboundItemsGuarded gateway segment adapter outbound deliveryKey
      fingerprint).run := by
  simp only [deliverOutboundItemsGuarded]
  split
  · split
    · exact apart_throw _
    · refine KeepsIdle.gateBind (neutral_stays id (authorizeDeliveryContext_neutral gateway outbound))
        fun _ => ?_
      exact KeepsIdle.gateBind (apart_ask rfl) fun _ => apart_propagate _
  · refine KeepsIdle.gateBind (apart_propagate _) fun items => ?_
    refine KeepsIdle.gateBind (apart_ask rfl) fun _ => ?_
    refine KeepsIdle.gateBind (apart_propagate _) fun _ => ?_
    exact deliverItems_apart gateway segment adapter deliveryKey fingerprint items _

end Calls

section Programs

variable {digests : Digests} (gateway : Gateway)

theorem retryPlans_apart (plans : List RetryablePlan) : ∀ attempted,
    KeepsIdle (retryPlans digests gateway plans attempted) := by
  induction plans with
  | nil => exact fun attempted => apart_ret attempted
  | cons plan rest ih =>
      intro attempted
      simp only [retryPlans]
      split
      · exact ih attempted
      · rename_i adapter _
        exact KeepsIdle.bind (deliverOutboundItemsGuarded_apart gateway _ adapter _ _ _) fun _ => ih _

theorem deliverNotification_apart (request : NotificationRequest) (route : Json) (adapter : Adapter)
    (fingerprint : String) :
    KeepsIdle (deliverNotification digests gateway request route adapter fingerprint).run := by
  simp only [deliverNotification]
  refine KeepsIdle.gateBind (apart_ask rfl) fun timestamp => ?_
  have delivered : KeepsIdle (attempt (deliverOutboundItemsGuarded gateway
      (digests.stableId "delivery-" · 24) adapter (notificationOutbound request route timestamp)
      request.idempotencyKey fingerprint)).run :=
    KeepsIdle.bind (deliverOutboundItemsGuarded_apart gateway _ adapter _ _ _) fun _ => apart_ret _
  refine KeepsIdle.gateBind delivered fun outcome => ?_
  cases outcome with
  | ok response =>
      refine KeepsIdle.gateBind (apart_ask rfl) fun _ => ?_
      exact KeepsIdle.gateBind (apart_propagate _) fun _ => apart_pure _
  | error error =>
      dsimp only
      split
      · exact apart_throw _
      · exact apart_pure _

theorem deliverOnRoute_apart (request : NotificationRequest) (route : Json) :
    KeepsIdle (deliverOnRoute digests gateway request route).run := by
  simp only [deliverOnRoute]
  split
  · exact apart_throw _
  · rename_i adapter _
    split
    · exact apart_throw _
    · refine KeepsIdle.gateBind (apart_ask rfl) fun _ => ?_
      refine KeepsIdle.gateBind (apart_propagate _) fun _ => ?_
      refine KeepsIdle.gateBind (apart_propagate _) fun stored => ?_
      cases stored with
      | some response => exact apart_pure _
      | none => exact deliverNotification_apart gateway request route adapter _

theorem resolveNotificationRoute_apart (request : NotificationRequest) :
    KeepsIdle (resolveNotificationRoute request).run := by
  simp only [resolveNotificationRoute]
  split
  · refine KeepsIdle.gateBind (apart_ask rfl) fun _ => ?_
    exact KeepsIdle.gateBind (apart_propagate _) fun _ => apart_propagate _
  · exact apart_propagate _

/-- Every call of every kind keeps to its stages. -/
theorem Call.program_staged (call : Call) :
    (call.program digests).Follows stageProtocol .idle fun _ _ => True := by
  have whole : KeepsIdle (call.program digests) := by
    cases call with
    | deliver gateway adapter outbound deliveryKey fingerprint =>
        exact deliverOutboundItemsGuarded_apart gateway _ adapter outbound deliveryKey fingerprint
    | notify gateway payload selection =>
        simp only [Call.program, handleNotificationDeliveryFrom]
        refine KeepsIdle.gateBind (apart_propagate _) fun request => ?_
        refine KeepsIdle.gateBind (resolveNotificationRoute_apart request) fun route => ?_
        exact deliverOnRoute_apart gateway request route
    | recover gateway =>
        simp only [Call.program, retryPendingDeliveries]
        refine KeepsIdle.bind ?_ fun _ => apart_ret _
        refine KeepsIdle.gateBind (apart_ask rfl) fun _ => ?_
        refine KeepsIdle.gateBind (apart_propagate _) fun plans => ?_
        exact KeepsIdle.bind (retryPlans_apart gateway plans 0) fun _ => apart_ret _
  exact whole.mono fun _ _ _ => trivial

end Programs

end HarborGate
