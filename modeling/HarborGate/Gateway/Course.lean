import HarborGate.Gateway.Calls
import HarborGate.Store.Verdicts

/-!
The step that a failed delivery stops at. The message a call fails with is that of its last step,
whatever the call did before.
-/

namespace HarborGate

open Interleave

/-- The delivery a call has planned, and its last step. -/
structure Course where
  planned : Option String
  last : Option (Σ op, Ans op)

def Course.start : Course where
  planned := none
  last := none

/-- The key of a plan that the store has taken. -/
def planned? : (op : Op) → Ans op → Option String
  | .persistDeliveryPlan deliveryKey _ _ _, .ok _ => some deliveryKey
  | _, _ => none

def Course.next (course : Course) (op : Op) (answer : Ans op) : Course where
  planned := (planned? op answer).or course.planned
  last := some ⟨op, answer⟩

/-- `map_delivery_failure` does not let the delivery be retried. -/
def IsFinal (message : String) : Prop :=
  (mapDeliveryFailure message).2 = false

/-- Calls claim items of the delivery they have planned, give an item up for a final reason only,
and store no failure. -/
def Course.allows (course : Course) : Op → Prop
  | .claimDeliveryItem request => course.planned = some request.deliveryKey
  | .finishDeliveryMaterialization completion =>
      (LedgerOp.finishMaterialization completion).Reasoned IsFinal
  | .finishDeliveryItem completion => (LedgerOp.finishItem completion).Reasoned IsFinal
  | .saveDeliveryRecord _ record => record.responsePayload.get "ok" = some (.bool true)
  | _ => True

def courseProtocol : Protocol Op Ans Course where
  allows := Course.allows
  possible _ _ := True
  next := Course.next

def mediaProxyMissing : String :=
  "HarborBeacon media proxy is not configured"

/-- The steps that a delivery under `key` stops at, with the message it fails with. -/
inductive Stops (key : String) : (op : Op) → Ans op → String → Prop
  | unplanned {deliveryKey fingerprint : String} {outbound : OutboundMessage}
      {items : List DeliveryPlanItem} (error : StoreError) :
      Stops key (.persistDeliveryPlan deliveryKey fingerprint outbound items) (.error error)
        error.text
  | nestedUnclaimed {itemKey owner : String} {leaseSeconds : Nat} (error : StoreError) :
      Stops key (.claimDeliveryMaterialization key itemKey owner leaseSeconds) (.error error)
        error.text
  | nestedLost {itemKey owner : String} {leaseSeconds : Nat} (item : LedgerItem) :
      Stops key (.claimDeliveryMaterialization key itemKey owner leaseSeconds)
        (.ok (.materialized item)) "materialized delivery item is missing its outbound payload"
  | nestedBusy {itemKey owner : String} {leaseSeconds : Nat} (item : LedgerItem) :
      Stops key (.claimDeliveryMaterialization key itemKey owner leaseSeconds)
        (.ok (.busy item)) "delivery item is already being materialized"
  | nestedTerminal {itemKey owner : String} {leaseSeconds : Nat} (item : LedgerItem) :
      Stops key (.claimDeliveryMaterialization key itemKey owner leaseSeconds)
        (.ok (.terminalFailed item)) ((item.materialization.bind (·.lastError)).getD
          "delivery materialization previously failed terminally")
  | nestedUnfinished {completion : DeliveryMaterializationCompletion} (error : StoreError) :
      Stops key (.finishDeliveryMaterialization completion) (.error error) error.text
  | nestedRecorded {completion : DeliveryMaterializationCompletion} {message : String}
      (addressed : completion.deliveryKey = key) (failed : completion.status = .failed)
      (same : completion.lastError = some message)
      (sorted : completion.retryable = (mapDeliveryFailure message).2 ∨
        completion.retryable = true ∧ message = mediaProxyMissing) :
      Stops key (.finishDeliveryMaterialization completion) (.ok ()) message
  | pathless {attachments : List Json} {segment : String} (materialized : MaterializedAttachments) :
      Stops key (.materializeAttachments attachments segment) materialized
        "materialized delivery item is missing its trusted cache path"
  | unclaimed {request : DeliveryItemClaimRequest} (error : StoreError) :
      Stops key (.claimDeliveryItem request) (.error error) error.text
  | busy {request : DeliveryItemClaimRequest} (item : LedgerItem) :
      Stops key (.claimDeliveryItem request) (.ok (.busy item))
        "delivery item is already being sent"
  | terminal {request : DeliveryItemClaimRequest} (addressed : request.deliveryKey = key)
      (item : LedgerItem) :
      Stops key (.claimDeliveryItem request) (.ok (.terminalFailed item))
        ((Text.trimmed item.lastError).getD "delivery item previously failed terminally")
  | unfinished {completion : DeliveryItemCompletion} (error : StoreError) :
      Stops key (.finishDeliveryItem completion) (.error error) error.text
  | recorded {completion : DeliveryItemCompletion} {message : String} (path : Option String)
      (addressed : completion.deliveryKey = key) (failed : completion.status = .failed)
      (same : completion.lastError = some message)
      (sorted : completion.retryable = (mapDeliveryFailure message).2) :
      Stops key (.finishDeliveryItem completion) (.ok path) message

/-- A part of the delivery under `key`: it goes on with the plan, or has stopped. -/
def Goes {α : Type} (key : String) (course : Course) : Except GatewayError α → Prop
  | .ok _ => course.planned = some key
  | .error error => error.code = "IDEMPOTENCY_CONFLICT" ∨
      ∃ op answer, course.last = some ⟨op, answer⟩ ∧ Stops key op answer error.message

/-! ## Steps that neither plan nor decide -/

def Op.isPassing : Op → Bool
  | .persistDeliveryPlan _ _ _ _ | .claimDeliveryItem _ | .finishDeliveryMaterialization _
  | .finishDeliveryItem _ | .saveDeliveryRecord _ _ => false
  | _ => true

section Passing

variable {α : Type} {course : Course} {key : String}

theorem Course.next_passing {op : Op} (passing : op.isPassing = true) (answer : Ans op) :
    (course.next op answer).planned = course.planned := by
  cases op with
  | persistDeliveryPlan _ _ _ _ => simp [Op.isPassing] at passing
  | _ => rfl

theorem Course.allows_passing {op : Op} (passing : op.isPassing = true) : course.allows op := by
  cases op with
  | claimDeliveryItem _ | finishDeliveryMaterialization _ | finishDeliveryItem _
  | saveDeliveryRecord _ _ => simp [Op.isPassing] at passing
  | _ => trivial

theorem passes {program : Routine α} (asks : program.Asks Op.isPassing) :
    program.Follows courseProtocol course fun after _ => after.planned = course.planned := by
  induction program generalizing course with
  | ret value => rfl
  | ask op rest ih =>
      refine ⟨Course.allows_passing asks.1, fun answer _ => ?_⟩
      refine (ih answer (asks.2 answer)).mono fun after value same => ?_
      exact same.trans (Course.next_passing asks.1 answer)

theorem neutral_passing {program : Routine α} (asks : program.Asks Op.isNeutral) :
    program.Asks Op.isPassing := by
  refine asks.mono fun op neutral => ?_
  cases op <;> first | rfl | simp [Op.isNeutral] at neutral

theorem completeStage_passing (context : StageContext) (prepared : Option PreparedOutbound)
    (result : Except GatewayError Json) :
    Prog.Asks Op.isPassing (completeStage context prepared result) := by
  refine .bind (.perform rfl) fun answer => ?_
  cases answer <;> exact .pure _

variable (gateway : Gateway) (adapter : Adapter) (outbound : OutboundMessage)

theorem authorizeDeliveryContext_passing :
    Prog.Asks Op.isPassing (authorizeDeliveryContext gateway outbound).run :=
  neutral_passing (authorizeDeliveryContext_neutral gateway outbound)

theorem sendAuthorized_passing (prepared : Option PreparedOutbound) (context : StageContext) :
    Prog.Asks Op.isPassing (sendAuthorized gateway adapter outbound prepared context) := by
  refine .bind (authorizeDeliveryContext_passing gateway outbound) fun result => ?_
  cases result with
  | ok granted => exact .perform rfl
  | error error => exact .pure _

theorem prepareAndSend_passing (context : StageContext) :
    Prog.Asks Op.isPassing (prepareAndSend gateway adapter outbound context) := by
  refine .bind (.perform rfl) fun answer => ?_
  match answer with
  | .error error => exact completeStage_passing _ _ _
  | .ok none =>
      refine .bind (sendAuthorized_passing gateway adapter outbound _ _) fun result => ?_
      exact completeStage_passing _ _ _
  | .ok (some value) =>
      refine .bind (.perform rfl) fun recorded => ?_
      cases recorded with
      | error error => exact .pure _
      | ok done =>
          refine .bind (sendAuthorized_passing gateway adapter outbound _ _) fun result => ?_
          exact completeStage_passing _ _ _

theorem sendDeliveryStage_passing (item : LedgerItem) (context : StageContext) :
    Prog.Asks Op.isPassing (sendDeliveryStage gateway adapter outbound item context) := by
  refine .bind (authorizeDeliveryContext_passing gateway outbound) fun result => ?_
  cases result with
  | error error => exact completeStage_passing _ _ _
  | ok granted =>
      cases prepared : resumedUpload item context.stage with
      | none => exact prepareAndSend_passing gateway adapter outbound context
      | some value => exact .bind (.perform rfl) fun result => completeStage_passing _ _ _

theorem sendStages_passing (item : LedgerItem) (deliveryKey itemKey : String) (token : Uuid) :
    Prog.Asks Op.isPassing
      (sendStages gateway adapter outbound item deliveryKey itemKey token) := by
  simp only [sendStages]
  split
  · split
    · exact .bind (sendDeliveryStage_passing gateway adapter _ item _) fun _ => .pure _
    · exact .pure _
  · refine .bind (sendDeliveryStage_passing gateway adapter outbound item _) fun outcome => ?_
    split
    · split
      · exact .bind (sendDeliveryStage_passing gateway adapter _ item _) fun _ => .pure _
      · exact .pure _
    · exact .pure _

end Passing

/-! ## The parts of a delivery -/

theorem materialization_retried :
    (mapDeliveryFailure "media attachment materialization failed").2 = true := by
  decide

-- The class of a message is compared, not computed.
attribute [local irreducible] mapDeliveryFailure

section Parts

variable {α : Type} {key : String} {course : Course}

theorem goes_pass {program : Gate α} (asks : Prog.Asks Op.isPassing program.run)
    (planned : course.planned = some key) :
    Prog.Follows courseProtocol course program.run fun after _ => after.planned = some key :=
  (passes asks).mono fun _ _ same => same.trans planned

/-- An answer of the store is handed on with `?`, its error as the last step of the delivery. -/
theorem goes_store {value : Type} {op : Op} {answer : Ans op} {result : StoreResult value}
    {next : value → Gate α}
    (stops : ∀ error, result = .error error → Stops key op answer error.text)
    (continues : ∀ done, result = .ok done →
      Prog.Follows courseProtocol (course.next op answer) (next done).run (Goes key)) :
    Prog.Follows courseProtocol (course.next op answer) (fromStore result >>= next).run
      (Goes key) := by
  cases result with
  | ok done => exact continues done rfl
  | error error => exact Prog.Follows.pure (.inr ⟨op, answer, rfl, stops error rfl⟩)

theorem failMaterialization_goes {completion : DeliveryMaterializationCompletion}
    {error : GatewayError} (addressed : completion.deliveryKey = key)
    (failed : completion.status = .failed) (same : completion.lastError = some error.message)
    (sorted : completion.retryable = (mapDeliveryFailure error.message).2 ∨
      completion.retryable = true ∧ error.message = mediaProxyMissing) :
    Prog.Follows courseProtocol course (failMaterialization completion error : Gate α).run
      (Goes key) := by
  have reasoned : course.allows (.finishDeliveryMaterialization completion) := by
    intro _ final
    refine ⟨error.message, same, ?_⟩
    rcases sorted with verdict | ⟨again, -⟩
    · exact verdict.symm.trans final
    · simp [again] at final
  simp only [failMaterialization]
  refine Prog.Follows.liftBind reasoned fun answer _ => ?_
  cases answer with
  | error reason =>
      exact Prog.Follows.pure (.inr ⟨_, _, rfl, .nestedUnfinished reason⟩)
  | ok done =>
      exact Prog.Follows.pure (.inr ⟨_, _, rfl, .nestedRecorded addressed failed same sorted⟩)

variable (gateway : Gateway) (segment : String → String) (adapter : Adapter)
  (outbound : OutboundMessage) (itemKey : String) (token : Uuid)

theorem authorizeMaterialization_goes (planned : course.planned = some key) :
    Prog.Follows courseProtocol course
      (authorizeMaterialization gateway key itemKey token outbound).run (Goes key) := by
  simp only [authorizeMaterialization]
  split
  · refine Prog.Follows.routineBind
      (goes_pass (authorizeDeliveryContext_passing gateway outbound) planned) ?_
    intro after result same
    cases result with
    | ok granted => exact Prog.Follows.pure same
    | error error => exact failMaterialization_goes rfl rfl rfl (.inl rfl)
  · exact Prog.Follows.pure planned

theorem materializeClaimed_goes (planned : course.planned = some key) :
    Prog.Follows courseProtocol course
      (materializeClaimed gateway segment key itemKey token outbound).run (Goes key) := by
  simp only [materializeClaimed]
  refine Prog.Follows.bindExcept
    (authorizeMaterialization_goes gateway outbound itemKey token planned)
    (fun _ _ stopped => stopped) fun after _ going => ?_
  refine Prog.Follows.routineBind
    (goes_pass (neutral_passing (outboundTaskClient_neutral gateway outbound)) going) ?_
  intro after client same
  cases client with
  | error error => exact failMaterialization_goes rfl rfl rfl (.inr ⟨rfl, rfl⟩)
  | ok client =>
      refine Prog.Follows.liftBind trivial fun materialized _ => ?_
      split
      · exact failMaterialization_goes rfl rfl rfl (.inl materialization_retried.symm)
      · split
        · exact Prog.Follows.pure (.inr ⟨_, _, rfl, .pathless materialized⟩)
        · refine Prog.Follows.liftBind (fun unfinished => absurd rfl unfinished) fun answer _ => ?_
          exact goes_store (fun error failed => by cases failed; exact .nestedUnfinished error)
            fun done ok => Prog.Follows.pure same

theorem materializeDeliveryItem_goes (planned : course.planned = some key) :
    Prog.Follows courseProtocol course
      (materializeDeliveryItem gateway segment adapter key itemKey outbound).run (Goes key) := by
  simp only [materializeDeliveryItem]
  split
  · refine Prog.Follows.liftBind trivial fun answer _ => ?_
    refine goes_store (fun error failed => by cases failed; exact .nestedUnclaimed error) ?_
    rintro claim rfl
    cases claim with
    | materialized item =>
        dsimp only
        cases stored : item.materializedOutbound with
        | some message => exact Prog.Follows.pure planned
        | none => exact Prog.Follows.pure (.inr ⟨_, _, rfl, .nestedLost item⟩)
    | notRequired item => exact Prog.Follows.pure planned
    | terminalFailed item => exact Prog.Follows.pure (.inr ⟨_, _, rfl, .nestedTerminal item⟩)
    | busy item => exact Prog.Follows.pure (.inr ⟨_, _, rfl, .nestedBusy item⟩)
    | claimed drawn item =>
        exact materializeClaimed_goes gateway segment outbound itemKey drawn planned
  · exact Prog.Follows.pure planned

theorem deliverClaimed_goes (item : LedgerItem) (planned : course.planned = some key) :
    Prog.Follows courseProtocol course
      (deliverClaimed gateway adapter key itemKey token item outbound).run (Goes key) := by
  simp only [deliverClaimed]
  refine Prog.Follows.routineBind
    ((passes (sendStages_passing gateway adapter _ item key itemKey token)).mono
      fun _ _ same => same.trans planned) ?_
  intro after outcome same
  split
  · refine Prog.Follows.liftBind ⟨by simp [itemSuccess], by simp [itemSuccess]⟩ fun answer _ => ?_
    exact goes_store (fun error failed => by cases failed; exact .unfinished error)
      fun path ok => Prog.Follows.pure same
  · rename_i error failed
    have reasoned : after.allows (.finishDeliveryItem (itemFailure key itemKey token outcome error)) :=
      ⟨by simp [itemFailure], fun _ final => ⟨error.message, rfl, final⟩⟩
    refine Prog.Follows.liftBind reasoned fun answer _ => ?_
    refine goes_store (fun reason stopped => by cases stopped; exact .unfinished reason) ?_
    rintro path rfl
    exact Prog.Follows.pure (.inr ⟨_, _, rfl, .recorded path rfl rfl rfl rfl⟩)

theorem claimFailure_stops (error : StoreError) :
    (claimFailure error).code = "IDEMPOTENCY_CONFLICT" ∨
      (claimFailure error).message = error.text := by
  simp only [claimFailure]
  split
  · exact .inl rfl
  · exact .inr rfl

theorem persistFailure_stops (error : StoreError) :
    (persistFailure error).code = "IDEMPOTENCY_CONFLICT" ∨
      (persistFailure error).message = error.text := by
  simp only [persistFailure]
  split
  · exact .inl rfl
  · exact .inr rfl

theorem deliverItem_goes (fingerprint : String) (item : DeliveryItem)
    (planned : course.planned = some key) :
    Prog.Follows courseProtocol course
      (deliverItem gateway segment adapter key fingerprint item).run (Goes key) := by
  simp only [deliverItem]
  refine Prog.Follows.bindExcept
    (materializeDeliveryItem_goes gateway segment adapter item.outbound _ planned)
    (fun _ _ stopped => stopped) fun after outbound going => ?_
  refine Prog.Follows.liftBind going fun answer _ => ?_
  cases answer with
  | error reason =>
      rcases claimFailure_stops reason with conflict | message
      · exact Prog.Follows.pure (.inl conflict)
      · exact Prog.Follows.pure (.inr ⟨_, _, rfl, message ▸ .unclaimed reason⟩)
  | ok claim =>
      cases claim with
      | succeeded stored => exact Prog.Follows.pure going
      | terminalFailed stored =>
          exact Prog.Follows.pure (.inr ⟨_, _, rfl, @Stops.terminal key _ rfl stored⟩)
      | busy stored => exact Prog.Follows.pure (.inr ⟨_, _, rfl, .busy stored⟩)
      | claimed drawn stored previous =>
          exact deliverClaimed_goes gateway adapter outbound _ drawn stored going

theorem deliverItems_goes (fingerprint : String) (items : List DeliveryItem) :
    ∀ (course : Course) (last : Json), course.planned = some key →
      Prog.Follows courseProtocol course
        (deliverItems gateway segment adapter key fingerprint items last).run (Goes key) := by
  induction items with
  | nil => exact fun course last planned => Prog.Follows.pure planned
  | cons item rest ih =>
      intro course last planned
      simp only [deliverItems]
      exact Prog.Follows.bindExcept
        (deliverItem_goes gateway segment adapter fingerprint item planned)
        (fun _ _ stopped => stopped) fun after response going => ih after response going

end Parts

/-! ## Deliveries -/

section Deliveries

variable {digests : Digests} {course : Course}

/-- A delivery from `course` on: it stops where its items do, unless it cannot be split. -/
def DeliveryStops (outbound : OutboundMessage) (key : String) (course after : Course) :
    Except GatewayError Json → Prop
  | .ok _ => True
  | .error error => splitOutboundItems outbound = .error error ∧ after = course ∨
      Goes key after (.error error : Except GatewayError Json)

theorem deliverOutboundItemsGuarded_course (gateway : Gateway) (segment : String → String)
    (adapter : Adapter) (outbound : OutboundMessage) (key fingerprint : String) :
    Prog.Follows courseProtocol course
      (deliverOutboundItemsGuarded gateway segment adapter outbound key fingerprint).run
      fun after result => Text.isBlank key = false → DeliveryStops outbound key course after result := by
  cases blank : Text.isBlank key with
  | true =>
      simp only [deliverOutboundItemsGuarded, blank, if_true]
      have direct : Prog.Asks Op.isPassing
          (if outbound.platform = "whatsapp" then
            throw (GatewayError.new 403 "IM_DELIVERY_NOT_ALLOWED"
              "WhatsApp delivery permission requires a persistent delivery reference")
          else (do
            authorizeDeliveryContext gateway outbound
            propagate (← ask (.sendOutbound adapter.name outbound))) : Gate Json).run := by
        split
        · exact asks_throw _
        · refine .bindExcept (authorizeDeliveryContext_passing gateway outbound) fun _ => ?_
          exact .bindExcept (asks_ask rfl) fun _ => asks_propagate _
      exact (passes direct).mono fun _ _ _ filled => by simp at filled
  | false =>
      simp only [deliverOutboundItemsGuarded, blank, Bool.false_eq_true, if_false]
      cases parts : splitOutboundItems outbound with
      | error error => exact Prog.Follows.pure fun _ => .inl ⟨parts, rfl⟩
      | ok items =>
          refine Prog.Follows.liftBind trivial fun answer _ => ?_
          cases answer with
          | error reason =>
              refine Prog.Follows.pure fun _ => .inr ?_
              rcases persistFailure_stops reason with conflict | message
              · exact .inl conflict
              · exact .inr ⟨_, _, rfl, message ▸ .unplanned reason⟩
          | ok done =>
              refine (deliverItems_goes gateway segment adapter fingerprint items _ _ rfl).mono ?_
              intro after result going _
              cases result with
              | ok response => trivial
              | error error => exact .inr going

/-- The message of a delivery whose attachments cannot be told apart. -/
def splitMessage (request : NotificationRequest) : String :=
  match splitOutboundItems (notificationOutbound request .null "") with
  | .ok _ => ""
  | .error error => error.message

theorem attachmentItems_error {outbound other : OutboundMessage} {error : GatewayError}
    (attachments : List Json) : ∀ seen : List String,
    attachmentItems outbound seen attachments = .error error →
      attachmentItems other seen attachments = .error error := by
  induction attachments with
  | nil => exact fun seen failed => by simp [attachmentItems] at failed
  | cons attachment rest ih =>
      intro seen failed
      simp only [attachmentItems] at failed ⊢
      split at failed
      · exact ih seen failed
      · rename_i artifactId _
        split at failed
        · rename_i twice
          rw [if_pos twice]
          exact failed
        · rename_i once
          rw [if_neg once]
          cases later : attachmentItems outbound (artifactId :: seen) rest with
          | ok items => simp [later, Except.map] at failed
          | error reason =>
              rw [later] at failed
              obtain rfl := Except.error.inj failed
              rw [ih _ later]
              rfl

theorem splitOutboundItems_error {outbound : OutboundMessage} {error : GatewayError} :
    splitOutboundItems outbound = .error error ↔
      attachmentItems outbound [] outbound.attachments = .error error := by
  simp only [splitOutboundItems]
  cases attachmentItems outbound [] outbound.attachments with
  | ok items => simp [Except.map]
  | error reason => simp [Except.map]

theorem splitOutboundItems_message {request : NotificationRequest} {route : Json}
    {timestamp : String} {error : GatewayError}
    (failed : splitOutboundItems (notificationOutbound request route timestamp) = .error error) :
    splitMessage request = error.message := by
  have attachments : ∀ route timestamp, (notificationOutbound request route timestamp).attachments =
      hintedNotificationAttachments request.content := fun _ _ => rfl
  have alone : splitOutboundItems (notificationOutbound request .null "") = .error error := by
    rw [splitOutboundItems_error, attachments] at failed ⊢
    exact attachmentItems_error _ [] failed
  rw [splitMessage, alone]

/-- What a notification that reports a failure stopped at: a stored answer, a plan that cannot be
split, or a step of its delivery. -/
inductive FailureReport (request : NotificationRequest) (course : Course) (response : Json) : Prop
  | stored {key : String} {record : DeliveryRecord}
      (last : course.last = some ⟨.loadDeliveryRecord key, .ok (some record)⟩)
      (same : response = record.responsePayload)
  | unsplit {timestamp : String} (last : course.last = some ⟨.utcNowIso, timestamp⟩)
      (retryable : response.get "retryable" =
        some (.bool (mapDeliveryFailure (splitMessage request)).2))
  | stopped {op : Op} {answer : Ans op} {message : String}
      (last : course.last = some ⟨op, answer⟩)
      (stops : Stops request.idempotencyKey op answer message)
      (retryable : response.get "retryable" = some (.bool (mapDeliveryFailure message).2))

variable {request : NotificationRequest} {route : Json} {gateway : Gateway}

/-- The report of a call, whenever it is one of a failure. -/
def ReportsOn (request : NotificationRequest) (course : Course) (result : Outcome) : Prop :=
  ∀ response, result = .ok response → response.get "ok" = some (.bool false) →
    FailureReport request course response

theorem reportsOn_error (error : GatewayError) : ReportsOn request course (.error error) := by
  rintro response ⟨⟩

theorem deliverNotification_reports {adapter : Adapter} {fingerprint : String}
    (keyed : Text.isBlank request.idempotencyKey = false) :
    Prog.Follows courseProtocol course
      (deliverNotification digests gateway request route adapter fingerprint).run
      (ReportsOn request) := by
  simp only [deliverNotification]
  refine Prog.Follows.liftBind trivial fun timestamp _ => ?_
  refine Prog.Follows.routineBind (deliverOutboundItemsGuarded_course gateway _ adapter _ _ _)
    fun after result done => ?_
  have stopped := done keyed
  cases result with
  | ok response =>
      have sent : (sentResponse digests request route response).get "ok" = some (.bool true) := rfl
      refine Prog.Follows.liftBind sent fun saved _ => ?_
      cases saved with
      | error error => exact Prog.Follows.pure (reportsOn_error _)
      | ok done =>
          refine Prog.Follows.pure ?_
          rintro other same failed
          obtain rfl := Except.ok.inj same
          simp [sent] at failed
  | error error =>
      have retryable : (failedResponse digests request route error).get "retryable" =
          some (.bool (mapDeliveryFailure error.message).2) := rfl
      dsimp only
      split
      · exact Prog.Follows.pure (reportsOn_error _)
      · rename_i other
        refine Prog.Follows.pure ?_
        rintro response same -
        obtain rfl := Except.ok.inj same
        rcases stopped with ⟨unsplit, rfl⟩ | conflict | ⟨op, answer, last, stops⟩
        · rw [← splitOutboundItems_message unsplit] at retryable
          exact .unsplit rfl retryable
        · exact absurd conflict other
        · exact .stopped last stops retryable

theorem resolveNotificationRoute_passing (request : NotificationRequest) :
    Prog.Asks Op.isPassing (resolveNotificationRoute request).run := by
  simp only [resolveNotificationRoute]
  split
  · refine .bindExcept (asks_ask rfl) fun _ => ?_
    exact .bindExcept (asks_propagate _) fun _ => asks_propagate _
  · exact asks_propagate _

theorem retryPlans_course (plans : List RetryablePlan) : ∀ (course : Course) (attempted : Nat),
    (retryPlans digests gateway plans attempted).Follows courseProtocol course
      fun _ _ => True := by
  induction plans with
  | nil => exact fun _ _ => trivial
  | cons plan plans ih =>
      intro course attempted
      simp only [retryPlans]
      split
      · exact ih course attempted
      · exact Prog.Follows.bind (deliverOutboundItemsGuarded_course gateway _ _ _ _ _)
          fun after _ _ => ih after (attempted + 1)

theorem retryPendingDeliveries_course :
    Prog.Follows courseProtocol course (retryPendingDeliveries digests gateway).run
      fun _ _ => True := by
  simp only [retryPendingDeliveries]
  refine Prog.Follows.liftBind trivial fun answer _ => ?_
  refine Prog.Follows.resultBind (fun _ _ => trivial) fun plans _ => ?_
  exact Prog.Follows.bind (retryPlans_course plans _ 0) fun _ _ _ => trivial

theorem replay_some {fingerprint : String} {stored : Option DeliveryRecord} {response : Json}
    (replayed : replay request fingerprint stored = .ok (some response)) :
    ∃ record, stored = some record ∧ response = record.responsePayload := by
  cases stored with
  | none => simp [replay] at replayed
  | some record =>
      simp only [replay] at replayed
      split at replayed
      · simp at replayed
      · split at replayed
        · simp at replayed
        · exact ⟨record, rfl, (Option.some.inj (Except.ok.inj replayed)).symm⟩

theorem deliverOnRoute_reports (keyed : Text.isBlank request.idempotencyKey = false) :
    Prog.Follows courseProtocol course (deliverOnRoute digests gateway request route).run
      (ReportsOn request) := by
  simp only [deliverOnRoute]
  split
  · exact Prog.Follows.pure (reportsOn_error _)
  · split
    · exact Prog.Follows.pure (reportsOn_error _)
    · refine Prog.Follows.liftBind trivial fun answer _ => ?_
      refine Prog.Follows.resultBind (fun _ _ => reportsOn_error _) fun stored loaded => ?_
      obtain rfl := Result.mapError_eq_ok.mp loaded
      refine Prog.Follows.resultBind (fun _ _ => reportsOn_error _) fun answered replayed => ?_
      cases answered with
      | none => exact deliverNotification_reports keyed
      | some response =>
          obtain ⟨record, rfl, replay⟩ := replay_some replayed
          refine Prog.Follows.pure ?_
          rintro other same -
          obtain rfl := Except.ok.inj same
          exact .stored rfl replay

theorem handleNotificationDeliveryFrom_reports {payload : Json} {selection : Option Selection} :
    Prog.Follows courseProtocol course
      (handleNotificationDeliveryFrom digests gateway payload selection).run
      fun after result => ∀ response, result = .ok response →
        response.get "ok" = some (.bool false) →
          ∃ request, readNotification payload selection = .ok request ∧
            FailureReport request after response := by
  simp only [handleNotificationDeliveryFrom]
  refine Prog.Follows.resultBind (fun _ _ => by rintro response ⟨⟩) fun request read => ?_
  refine Prog.Follows.bindExcept (passes (resolveNotificationRoute_passing request))
    (fun _ _ _ => by rintro response ⟨⟩) fun after route _ => ?_
  refine (deliverOnRoute_reports (readNotification_key read)).mono ?_
  exact fun after result reports response same failed =>
    ⟨request, read, reports response same failed⟩

-- From here on a notification is known by the lemma above.
attribute [local irreducible] handleNotificationDeliveryFrom

/-- What a call reports, if it is a notification's. -/
def CallReports (call : Call) (course : Course) (result : Outcome) : Prop :=
  match call with
  | .notify _ payload selection => ∀ response, result = .ok response →
      response.get "ok" = some (.bool false) →
        ∃ request, readNotification payload selection = .ok request ∧
          FailureReport request course response
  | _ => True

theorem Call.program_course (call : Call) :
    (call.program digests).Follows courseProtocol course (CallReports call) := by
  cases call with
  | deliver gateway adapter outbound deliveryKey fingerprint =>
      simp only [Call.program]
      exact (deliverOutboundItemsGuarded_course gateway _ adapter outbound deliveryKey
        fingerprint).mono fun _ _ _ => trivial
  | notify gateway payload selection =>
      simp only [Call.program]
      exact handleNotificationDeliveryFrom_reports
  | recover gateway =>
      simp only [Call.program]
      exact Prog.Follows.bind retryPendingDeliveries_course fun _ _ _ => trivial

end Deliveries

end HarborGate
