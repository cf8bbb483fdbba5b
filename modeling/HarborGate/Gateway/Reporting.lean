import HarborGate.Gateway.Machine
import HarborGate.Gateway.Outage

/-!
From a failed authorization to its record. Between the two a delivery does nothing but clear a
changed identity, and the class it records is that of the failure, or of the failed clean-up.
-/

namespace HarborGate

open Interleave

/-- `refused` stands from a failed authorization to its first record, `staged` from the record of a
stage to that of its item. -/
inductive Reporting
  | clear
  | refused (error : GatewayError)
  | staged (error : GatewayError)

def Reporting.next (reporting : Reporting) : (op : Op) → Ans op → Reporting
  | .authorizeCameraAttachments _, .error error => .refused error
  | .authorizeWhatsappDelivery _, .error error => .refused error
  | .fleetInvalidateIdentity _, .ok () => reporting
  | .fleetInvalidateIdentity _, .error failure =>
      match reporting with
      | .refused _ => .refused failure
      | other => other
  | .finishDeliveryStage _, .ok () =>
      match reporting with
      | .refused error => .staged error
      | _ => .clear
  | _, _ => .clear

/-- The class that an operation records for a failed item or stage. -/
def Op.recordedFailure? : Op → Option Bool
  | .finishDeliveryMaterialization completion =>
      if completion.status = .failed then some completion.retryable else none
  | .finishDeliveryStage completion =>
      if completion.status = .failed then some completion.retryable else none
  | .finishDeliveryItem completion =>
      if completion.status = .failed then some completion.retryable else none
  | _ => none

def Op.finishesItem : Op → Bool
  | .finishDeliveryItem _ => true
  | _ => false

inductive MayAsk : Reporting → Op → Prop
  | clear (op : Op) : MayAsk .clear op
  | identity {error : GatewayError} (selection : Selection)
      (changed : error.code = "NAVI_IDENTITY_CHANGED") :
      MayAsk (.refused error) (.fleetInvalidateIdentity selection)
  | refused {error : GatewayError} {op : Op} (early : op.finishesItem = false)
      (recorded : op.recordedFailure? = some (mapDeliveryFailure error.message).2) :
      MayAsk (.refused error) op
  | staged {error : GatewayError} {op : Op} (late : op.finishesItem = true)
      (recorded : op.recordedFailure? = some (mapDeliveryFailure error.message).2) :
      MayAsk (.staged error) op

/-- What is relied on: an authorization does not ask for the file fallback, and a directory
transaction fails in one way. -/
def Plain : (op : Op) → Ans op → Prop
  | .authorizeCameraAttachments _, .error error => shouldFallbackToFile error = false
  | .authorizeWhatsappDelivery _, .error error => shouldFallbackToFile error = false
  | .fleetInvalidateIdentity _, .error failure => failure = NaviFleet.unavailable
  | _, _ => True

def reportingProtocol : Protocol Op Ans Reporting where
  allows := MayAsk
  possible := Plain
  next := Reporting.next

/-! ## Operations that authorize nothing -/

/-- The program asks for no authorization: started with nothing to report, it ends so. -/
def Calm {α : Type} (program : Routine α) : Prop :=
  program.Follows reportingProtocol .clear fun reporting _ => reporting = .clear

def Op.isCalm : Op → Bool
  | .authorizeCameraAttachments _ | .authorizeWhatsappDelivery _ => false
  | _ => true

section Calm

variable {α β : Type}

theorem Reporting.next_clear {op : Op} (calm : op.isCalm = true) (answer : Ans op) :
    Reporting.clear.next op answer = .clear := by
  cases op with
  | authorizeCameraAttachments _ | authorizeWhatsappDelivery _ => simp [Op.isCalm] at calm
  | finishDeliveryStage _ | fleetInvalidateIdentity _ => cases answer <;> rfl
  | _ => rfl

theorem calm_ret (value : α) : Calm (pure value : Routine α) :=
  Prog.Follows.pure rfl

theorem calm_query {op : Op} (calm : op.isCalm = true) : Calm (query op) :=
  Prog.Follows.perform (.clear op) fun answer _ => Reporting.next_clear calm answer

theorem Calm.bind {first : Routine α} {next : α → Routine β} (calm : Calm first)
    (continues : ∀ value, Calm (next value)) : Calm (first >>= next) := by
  refine Prog.Follows.bind calm ?_
  rintro _ value rfl
  exact continues value

theorem Calm.gateBind {first : Gate α} {next : α → Gate β} (calm : Calm first.run)
    (continues : ∀ value, Calm (next value).run) : Calm (first >>= next).run := by
  refine Prog.Follows.bindExcept calm (fun _ _ same => same) ?_
  rintro _ value rfl
  exact continues value

theorem calm_propagate (result : Except GatewayError α) : Calm (propagate result).run :=
  Prog.Follows.pure rfl

theorem calm_throw (error : GatewayError) : Calm (throw error : Gate α).run :=
  Prog.Follows.pure rfl

theorem calm_pure (value : α) : Calm (pure value : Gate α).run :=
  Prog.Follows.pure rfl

theorem calm_ask {op : Op} (calm : op.isCalm = true) : Calm (ask op).run :=
  (calm_query calm).bind fun _ => calm_ret _

theorem calm_fromStore (result : StoreResult α) : Calm (fromStore result).run :=
  calm_propagate _

end Calm

theorem outboundTaskClient_calm (gateway : Gateway) (outbound : OutboundMessage) :
    Calm (outboundTaskClient gateway outbound).run := by
  simp only [outboundTaskClient]
  split
  · refine Calm.gateBind (calm_ask rfl) fun _ => ?_
    refine Calm.gateBind (calm_propagate _) fun _ => ?_
    exact Calm.gateBind (calm_propagate _) fun _ => calm_propagate _
  · split
    · exact calm_throw _
    · split
      · exact calm_pure _
      · exact calm_throw _

/-! ## Authorization -/

/-- An authorization ends with nothing to report, or with the refusal it returns. -/
def Refuses (reporting : Reporting) : Except GatewayError Unit → Prop
  | .ok _ => reporting = .clear
  | .error error =>
      reporting = .clear ∨ reporting = .refused error ∧ shouldFallbackToFile error = false

section Authorization

variable (gateway : Gateway) (outbound : OutboundMessage)

theorem authorizeCameraDelivery_refuses :
    Prog.Follows reportingProtocol .clear (authorizeCameraDelivery gateway outbound).run
      Refuses := by
  simp only [authorizeCameraDelivery]
  split
  · exact Prog.Follows.pure rfl
  · refine Prog.Follows.bindExcept (outboundTaskClient_calm gateway outbound)
      (fun _ _ same => Or.inl same) ?_
    rintro _ _ rfl
    refine Prog.Follows.liftBind (.clear _) fun answer plain => ?_
    cases answer with
    | ok granted => exact Prog.Follows.pure rfl
    | error error => exact Prog.Follows.pure (Or.inr ⟨rfl, plain⟩)

theorem checkSelection_calm : Calm (checkSelection gateway outbound).run := by
  simp only [checkSelection]
  split
  · refine Calm.gateBind (calm_ask rfl) fun _ => ?_
    exact Calm.gateBind (calm_propagate _) fun _ => calm_pure _
  · exact calm_pure _

theorem authorizeDelivery_refuses :
    Prog.Follows reportingProtocol .clear (authorizeDelivery gateway outbound).run Refuses := by
  simp only [authorizeDelivery]
  refine Prog.Follows.bindExcept (authorizeCameraDelivery_refuses gateway outbound)
    (fun _ _ refuses => refuses) ?_
  rintro _ _ rfl
  split
  · refine Prog.Follows.bindExcept (outboundTaskClient_calm gateway outbound)
      (fun _ _ same => Or.inl same) ?_
    rintro _ _ rfl
    refine Prog.Follows.liftBind (.clear _) fun answer plain => ?_
    cases answer with
    | ok granted =>
        refine (checkSelection_calm gateway outbound).mono ?_
        rintro _ result rfl
        cases result with
        | ok done => exact rfl
        | error error => exact Or.inl rfl
    | error error => exact Prog.Follows.pure (Or.inr ⟨rfl, plain⟩)
  · exact Prog.Follows.pure rfl

theorem authorizeDeliveryContext_refuses :
    Prog.Follows reportingProtocol .clear (authorizeDeliveryContext gateway outbound).run
      Refuses := by
  simp only [authorizeDeliveryContext]
  refine Prog.Follows.routineBind (authorizeDelivery_refuses gateway outbound) ?_
  intro reporting result refuses
  cases result with
  | ok done => exact Prog.Follows.pure refuses
  | error error =>
      dsimp only
      split
      · rename_i changed
        split
        · exact Prog.Follows.pure refuses
        · rename_i selection _
          rcases refuses with rfl | ⟨rfl, plain⟩
          · refine Prog.Follows.liftBind (.clear _) fun answer _ => ?_
            cases answer <;> exact Prog.Follows.pure (Or.inl rfl)
          · refine Prog.Follows.liftBind (.identity selection changed.1) fun answer failed => ?_
            cases answer with
            | ok done => exact Prog.Follows.pure (Or.inr ⟨rfl, plain⟩)
            | error failure =>
                refine Prog.Follows.pure (Or.inr ⟨rfl, ?_⟩)
                have same : failure = NaviFleet.unavailable := failed
                rw [same]
                decide
      · exact Prog.Follows.pure refuses

end Authorization

/-! ## Stages -/

/-- After a stage either nothing is to report, or the failure that the stage returns is recorded
for it and not yet for the item. -/
def Staged (reporting : Reporting) (result : Except GatewayError Json) : Prop :=
  reporting = .clear ∨ ∃ error, reporting = .staged error ∧ result = .error error ∧
    shouldFallbackToFile error = false

section Stages

variable (gateway : Gateway) (adapter : Adapter) (outbound : OutboundMessage)

theorem completeStage_calm (context : StageContext) (prepared : Option PreparedOutbound)
    (result : Except GatewayError Json) : Calm (completeStage context prepared result) := by
  simp only [completeStage]
  refine (calm_query (by cases result <;> rfl)).bind fun answer => ?_
  cases answer <;> exact calm_ret _

/-- The record of a refused stage. -/
theorem completeStage_refused (context : StageContext) (prepared : Option PreparedOutbound)
    {error : GatewayError} (plain : shouldFallbackToFile error = false) :
    (completeStage context prepared (.error error)).Follows reportingProtocol (.refused error)
      fun reporting outcome => Staged reporting outcome.1 := by
  simp only [completeStage]
  have recorded : Op.recordedFailure? (.finishDeliveryStage (stageFailure context prepared error)) =
      some (mapDeliveryFailure error.message).2 := by
    simp [Op.recordedFailure?, stageFailure, plain]
  refine Prog.Follows.performBind (.refused rfl recorded) fun answer _ => ?_
  cases answer with
  | ok done => exact Prog.Follows.pure (Or.inr ⟨error, rfl, rfl, plain⟩)
  | error failure => exact Prog.Follows.pure (Or.inl rfl)

/-- A stage is completed with the outcome of an authorization or of what came after it. -/
theorem completeStage_staged (context : StageContext) (prepared : Option PreparedOutbound)
    {reporting : Reporting} {result : Except GatewayError Json}
    (reported : reporting = .clear ∨ ∃ error, reporting = .refused error ∧ result = .error error ∧
      shouldFallbackToFile error = false) :
    (completeStage context prepared result).Follows reportingProtocol reporting
      fun reporting outcome => Staged reporting outcome.1 := by
  rcases reported with rfl | ⟨error, rfl, rfl, plain⟩
  · exact (completeStage_calm context prepared result).mono fun _ _ same => Or.inl same
  · exact completeStage_refused context prepared plain

theorem sendAuthorized_refused (prepared : Option PreparedOutbound) (context : StageContext) :
    (sendAuthorized gateway adapter outbound prepared context).Follows reportingProtocol .clear
      fun reporting result => reporting = .clear ∨ ∃ error, reporting = .refused error ∧
        result = .error error ∧ shouldFallbackToFile error = false := by
  simp only [sendAuthorized]
  refine Prog.Follows.bind (authorizeDeliveryContext_refuses gateway outbound) ?_
  intro reporting result refuses
  cases result with
  | ok done =>
      obtain rfl : reporting = .clear := refuses
      exact (calm_query rfl).mono fun _ _ same => Or.inl same
  | error error =>
      refine Prog.Follows.pure ?_
      rcases refuses with same | ⟨refused, plain⟩
      · exact Or.inl same
      · exact Or.inr ⟨error, refused, rfl, plain⟩

theorem prepareAndSend_staged (context : StageContext) :
    (prepareAndSend gateway adapter outbound context).Follows reportingProtocol .clear
      fun reporting outcome => Staged reporting outcome.1 := by
  simp only [prepareAndSend]
  refine Prog.Follows.performBind (.clear _) fun answer _ => ?_
  match answer with
  | .error error => exact completeStage_staged context none (Or.inl rfl)
  | .ok none =>
      refine Prog.Follows.bind (sendAuthorized_refused gateway adapter outbound none context) ?_
      exact fun reporting result reported => completeStage_staged context none reported
  | .ok (some value) =>
      refine Prog.Follows.performBind (.clear _) fun recorded _ => ?_
      cases recorded with
      | error error => exact Prog.Follows.pure (Or.inl rfl)
      | ok done =>
          refine Prog.Follows.bind
            (sendAuthorized_refused gateway adapter outbound (some value) context) ?_
          exact fun reporting result reported => completeStage_staged context (some value) reported

theorem sendDeliveryStage_staged (item : LedgerItem) (context : StageContext) :
    (sendDeliveryStage gateway adapter outbound item context).Follows reportingProtocol .clear
      fun reporting outcome => Staged reporting outcome.1 := by
  simp only [sendDeliveryStage]
  refine Prog.Follows.bind (authorizeDeliveryContext_refuses gateway outbound) ?_
  intro reporting result refuses
  cases result with
  | error error =>
      refine completeStage_staged context _ ?_
      rcases refuses with same | ⟨refused, plain⟩
      · exact Or.inl same
      · exact Or.inr ⟨error, refused, rfl, plain⟩
  | ok done =>
      obtain rfl : reporting = .clear := refuses
      dsimp only
      split
      · exact prepareAndSend_staged gateway adapter outbound context
      · rename_i value _
        refine Prog.Follows.performBind (.clear _) fun result _ => ?_
        exact completeStage_staged context (some value) (Or.inl rfl)

theorem sendStages_staged (item : LedgerItem) (deliveryKey itemKey : String) (token : Uuid) :
    (sendStages gateway adapter outbound item deliveryKey itemKey token).Follows reportingProtocol
      .clear fun reporting outcome => Staged reporting outcome.result := by
  simp only [sendStages]
  split
  · split
    · refine Prog.Follows.bind (sendDeliveryStage_staged gateway adapter _ item _) ?_
      exact fun reporting outcome staged => Prog.Follows.pure staged
    · exact Prog.Follows.pure (Or.inl rfl)
  · refine Prog.Follows.bind (sendDeliveryStage_staged gateway adapter outbound item _) ?_
    rintro reporting ⟨result, prepared⟩ staged
    dsimp only at staged ⊢
    split
    · rename_i error fallback _
      split
      · rename_i fallsBack
        rcases staged with rfl | ⟨reason, -, same, plain⟩
        · refine Prog.Follows.bind (sendDeliveryStage_staged gateway adapter fallback item _) ?_
          exact fun reporting outcome staged => Prog.Follows.pure staged
        · obtain rfl := Except.error.inj same
          simp [fallsBack] at plain
      · exact Prog.Follows.pure staged
    · exact Prog.Follows.pure staged

/-- A refused item is recorded with the class of its stage. -/
theorem deliverClaimed_calm (item : LedgerItem) (deliveryKey itemKey : String) (token : Uuid) :
    Calm (deliverClaimed gateway adapter deliveryKey itemKey token item outbound).run := by
  simp only [deliverClaimed]
  refine Prog.Follows.routineBind (sendStages_staged gateway adapter _ item deliveryKey itemKey
    token) ?_
  intro reporting outcome staged
  cases result : outcome.result with
  | ok response =>
      obtain rfl : reporting = .clear := by
        rcases staged with same | ⟨error, -, mismatch, -⟩
        · exact same
        · simp [result] at mismatch
      dsimp only
      refine Calm.gateBind (calm_ask rfl) fun _ => ?_
      exact Calm.gateBind (calm_fromStore _) fun _ => calm_pure _
  | error error =>
      rw [result] at staged
      dsimp only
      have allowed : MayAsk reporting
          (.finishDeliveryItem (itemFailure deliveryKey itemKey token outcome error)) := by
        rcases staged with rfl | ⟨reason, rfl, same, -⟩
        · exact .clear _
        · obtain rfl := Except.error.inj same
          exact .staged rfl (by simp [Op.recordedFailure?, itemFailure])
      refine Prog.Follows.liftBind allowed fun answer _ => ?_
      show Calm _
      exact Calm.gateBind (calm_fromStore _) fun _ => calm_throw _

end Stages

/-! ## Materialization and whole deliveries -/

section Deliveries

variable (gateway : Gateway) (segment : String → String) (adapter : Adapter)
  (outbound : OutboundMessage)

theorem failMaterialization_calm {α : Type} (deliveryKey itemKey : String) (token : Uuid)
    (message : String) (retryable : Bool) (error : GatewayError) :
    Calm (failMaterialization (materializationFailure deliveryKey itemKey token message retryable)
      error : Gate α).run := by
  simp only [failMaterialization]
  refine Calm.gateBind (calm_ask rfl) fun _ => ?_
  exact Calm.gateBind (calm_fromStore _) fun _ => calm_throw _

theorem authorizeMaterialization_calm (deliveryKey itemKey : String) (token : Uuid) :
    Calm (authorizeMaterialization gateway deliveryKey itemKey token outbound).run := by
  simp only [authorizeMaterialization]
  split
  · refine Prog.Follows.routineBind (authorizeDeliveryContext_refuses gateway outbound) ?_
    intro reporting result refuses
    cases result with
    | ok done => exact Prog.Follows.pure refuses
    | error error =>
        rcases refuses with rfl | ⟨rfl, -⟩
        · exact failMaterialization_calm _ _ _ _ _ _
        · have recorded : Op.recordedFailure? (.finishDeliveryMaterialization
              (materializationFailure deliveryKey itemKey token error.message
                (mapDeliveryFailure error.message).2)) =
              some (mapDeliveryFailure error.message).2 := by
            simp [Op.recordedFailure?, materializationFailure]
          refine Prog.Follows.liftBind (.refused rfl recorded) fun answer _ => ?_
          show Calm _
          exact Calm.gateBind (calm_fromStore _) fun _ => calm_throw _
  · exact calm_pure _

theorem materializeClaimed_calm (deliveryKey itemKey : String) (token : Uuid) :
    Calm (materializeClaimed gateway segment deliveryKey itemKey token outbound).run := by
  simp only [materializeClaimed]
  refine Calm.gateBind (authorizeMaterialization_calm gateway outbound _ _ _) fun _ => ?_
  have client : Calm (attempt (outboundTaskClient gateway outbound)).run :=
    (outboundTaskClient_calm gateway outbound).bind fun _ => calm_ret _
  refine Calm.gateBind client fun configured => ?_
  cases configured with
  | error error => exact failMaterialization_calm _ _ _ _ _ _
  | ok done =>
      refine Calm.gateBind (calm_ask rfl) fun materialized => ?_
      split
      · exact failMaterialization_calm _ _ _ _ _ _
      · split
        · exact calm_throw _
        · refine Calm.gateBind (calm_ask rfl) fun _ => ?_
          exact Calm.gateBind (calm_fromStore _) fun _ => calm_pure _

theorem materializeDeliveryItem_calm (deliveryKey itemKey : String) :
    Calm (materializeDeliveryItem gateway segment adapter deliveryKey itemKey outbound).run := by
  simp only [materializeDeliveryItem]
  split
  · refine Calm.gateBind (calm_ask rfl) fun _ => ?_
    refine Calm.gateBind (calm_fromStore _) fun claim => ?_
    cases claim with
    | materialized item => exact calm_propagate _
    | notRequired item => exact calm_pure _
    | terminalFailed item => exact calm_throw _
    | busy item => exact calm_throw _
    | claimed token item => exact materializeClaimed_calm gateway segment outbound _ _ _
  · exact calm_pure _

theorem deliverItem_calm (deliveryKey fingerprint : String) (item : DeliveryItem) :
    Calm (deliverItem gateway segment adapter deliveryKey fingerprint item).run := by
  simp only [deliverItem]
  refine Calm.gateBind (materializeDeliveryItem_calm gateway segment adapter _ _ _) fun ready => ?_
  refine Calm.gateBind (calm_ask rfl) fun _ => ?_
  refine Calm.gateBind (calm_propagate _) fun claim => ?_
  cases claim with
  | succeeded stored => exact calm_pure _
  | terminalFailed stored => exact calm_throw _
  | busy stored => exact calm_throw _
  | claimed token stored previous => exact deliverClaimed_calm gateway adapter ready stored _ _ _

theorem deliverItems_calm (deliveryKey fingerprint : String) (items : List DeliveryItem) :
    ∀ last, Calm (deliverItems gateway segment adapter deliveryKey fingerprint items last).run := by
  induction items with
  | nil => exact fun last => calm_pure last
  | cons item rest ih =>
      intro last
      simp only [deliverItems]
      exact Calm.gateBind (deliverItem_calm gateway segment adapter deliveryKey fingerprint item) ih

/-- A delivery with a key leaves no refusal unrecorded. -/
theorem deliverOutboundItemsGuarded_calm {deliveryKey : String} (fingerprint : String)
    (keyed : Text.isBlank deliveryKey = false) :
    Calm (deliverOutboundItemsGuarded gateway segment adapter outbound deliveryKey
      fingerprint).run := by
  simp only [deliverOutboundItemsGuarded, keyed, Bool.false_eq_true, if_false]
  refine Calm.gateBind (calm_propagate _) fun items => ?_
  refine Calm.gateBind (calm_ask rfl) fun _ => ?_
  refine Calm.gateBind (calm_propagate _) fun _ => ?_
  exact deliverItems_calm gateway segment adapter deliveryKey fingerprint items _

end Deliveries

/-! ## What is on record -/

def Authorization.event : Authorization → FleetResult Unit → (Σ op, Ans op)
  | .cameras artifacts, result => ⟨.authorizeCameraAttachments artifacts, result⟩
  | .whatsapp outbound, result => ⟨.authorizeWhatsappDelivery outbound, result⟩

/-- Authorizations are answered by a client of Beacon, everything else by some state of the
world. -/
def Answered (host : FleetHost) : (Σ op, Ans op) → Prop
  | ⟨.authorizeCameraAttachments artifacts, answer⟩ =>
      ∃ client : BeaconClient, client.authorize (.cameras artifacts) = answer
  | ⟨.authorizeWhatsappDelivery outbound, answer⟩ =>
      ∃ client : BeaconClient, client.authorize (.whatsapp outbound) = answer
  | ⟨op, answer⟩ => ∃ world choice after, World.perform host world op choice = some (answer, after)

/-- The steps that may come between a failed authorization and a record of it: clearing the
identity, and the record of its stage. -/
def Attends : (Σ op, Ans op) → Prop
  | ⟨.fleetInvalidateIdentity _, _⟩ => True
  | ⟨.finishDeliveryStage _, .ok _⟩ => True
  | _ => False

def DirectoryFailed (events : List (Σ op, Ans op)) : Prop :=
  ∃ selection failure, ⟨.fleetInvalidateIdentity selection, .error failure⟩ ∈ events

theorem authorize_plain {client : BeaconClient} {authorization : Authorization}
    {error : GatewayError} (failed : client.authorize authorization = .error error) :
    shouldFallbackToFile error = false := by
  by_cases asked : authorization.Asked
  · exact (BeaconClient.sorted asked failed).plain
  · cases authorization with
    | cameras artifacts => exact absurd trivial asked
    | whatsapp outbound =>
        cases requested : HarborBeacon.authorizationRequest outbound with
        | ok request => exact absurd ⟨request, requested⟩ asked
        | error reason =>
            have local_denial : Result.FailsOnly (shouldFallbackToFile · = false)
                (HarborBeacon.authorizationRequest outbound) :=
              .bind (require_failsOnly (by decide)) fun _ _ =>
                .bind (require_failsOnly (by decide)) fun _ _ => .ok _
            have same : reason = error := by
              cases client with
              | relay around parse line selection desk =>
                  simpa [BeaconClient.authorize, HarborBeacon.authorizeWhatsappDelivery, requested]
                    using failed
              | direct client =>
                  simpa [BeaconClient.authorize, HarborBeacon.authorizeWhatsappDirectly, requested,
                    bind, Except.bind] using failed
            exact local_denial error (same ▸ requested)

theorem Answered.plain {host : FleetHost} {event : Σ op, Ans op} (answered : Answered host event) :
    Plain event.1 event.2 := by
  obtain ⟨op, answer⟩ := event
  cases op with
  | authorizeCameraAttachments artifacts =>
      obtain ⟨client, told⟩ := answered
      cases answer with
      | ok granted => trivial
      | error error => exact authorize_plain told
  | authorizeWhatsappDelivery outbound =>
      obtain ⟨client, told⟩ := answered
      cases answer with
      | ok granted => trivial
      | error error => exact authorize_plain told
  | fleetInvalidateIdentity selection =>
      cases answer with
      | ok done => trivial
      | error failure =>
          obtain ⟨world, choice, after, performed⟩ := answered
          simp only [World.perform] at performed
          split at performed
          · simp at performed
          split at performed
          · simp only [Option.some.injEq, Prod.mk.injEq, Except.error.injEq] at performed
            exact performed.1.symm
          · simp at performed
  | _ => trivial

/-- The failure still to be reported after the steps that attend to it. -/
theorem reporting_after {middle : List (Σ op, Ans op)} : ∀ {reporting : Reporting}
    {error : GatewayError}, reporting = .refused error ∨ reporting = .staged error →
    reportingProtocol.Admits reporting middle → (∀ event ∈ middle, Attends event) →
    ∃ reported, (reportingProtocol.after reporting middle = .refused reported ∨
        reportingProtocol.after reporting middle = .staged reported) ∧
      (reported = error ∧ ¬DirectoryFailed middle ∨
        reported = NaviFleet.unavailable ∧ error.code = "NAVI_IDENTITY_CHANGED" ∧
          DirectoryFailed middle) := by
  induction middle with
  | nil =>
      intro reporting error pending _ _
      refine ⟨error, pending, Or.inl ⟨rfl, ?_⟩⟩
      rintro ⟨selection, failure, member⟩
      simp at member
  | cons event rest ih =>
      intro reporting error pending admits attends
      obtain ⟨allowed, plain, admits⟩ := admits
      have attended := attends event List.mem_cons_self
      have later : ∀ event ∈ rest, Attends event :=
        fun event member => attends event (List.mem_cons_of_mem _ member)
      obtain ⟨op, answer⟩ := event
      cases op with
      | finishDeliveryStage completion =>
          cases answer with
          | error failure => exact attended.elim
          | ok done =>
              have staged : reportingProtocol.next reporting (.finishDeliveryStage completion)
                  (.ok done) = .staged error := by
                rcases pending with rfl | rfl
                · rfl
                · cases allowed with
                  | staged late recorded => simp [Op.finishesItem] at late
              obtain ⟨reported, standing, origin⟩ := ih (Or.inr staged) admits later
              refine ⟨reported, standing, ?_⟩
              simpa [DirectoryFailed] using origin
      | fleetInvalidateIdentity selection =>
          obtain ⟨rfl, changed⟩ : reporting = .refused error ∧
              error.code = "NAVI_IDENTITY_CHANGED" := by
            rcases pending with rfl | rfl
            · cases allowed with
              | identity selection changed => exact ⟨rfl, changed⟩
              | refused early recorded => simp [Op.recordedFailure?] at recorded
            · cases allowed with
              | staged late recorded => simp [Op.finishesItem] at late
          cases answer with
          | ok done =>
              obtain ⟨reported, standing, origin⟩ := ih (Or.inl rfl) admits later
              refine ⟨reported, standing, ?_⟩
              simpa [DirectoryFailed] using origin
          | error failure =>
              have same : failure = NaviFleet.unavailable := plain
              subst same
              have failed : DirectoryFailed (⟨.fleetInvalidateIdentity selection,
                  .error NaviFleet.unavailable⟩ :: rest) :=
                ⟨selection, _, List.mem_cons_self⟩
              obtain ⟨reported, standing, origin⟩ := ih (Or.inl rfl) admits later
              refine ⟨reported, standing, Or.inr ⟨?_, changed, failed⟩⟩
              rcases origin with ⟨rfl, -⟩ | ⟨rfl, -, -⟩ <;> rfl
      | _ => exact attended.elim

/-- A refusal does not stay unrecorded. -/
theorem recorded_before_clear {rest : List (Σ op, Ans op)} : ∀ {error : GatewayError},
    reportingProtocol.Admits (.refused error) rest →
    reportingProtocol.after (.refused error) rest = .clear →
    ∃ middle op answer later, rest = middle ++ ⟨op, answer⟩ :: later ∧
      (∀ event ∈ middle, Attends event) ∧ op.recordedFailure?.isSome := by
  induction rest with
  | nil =>
      intro error _ ended
      simp [Protocol.after] at ended
  | cons event rest ih =>
      intro error admits ended
      obtain ⟨allowed, -, admits⟩ := admits
      obtain ⟨op, answer⟩ := event
      cases allowed with
      | identity selection changed =>
          have attended : ∃ pending, reportingProtocol.next (.refused error)
              (.fleetInvalidateIdentity selection) answer = .refused pending := by
            cases answer with
            | ok done => exact ⟨error, rfl⟩
            | error failure => exact ⟨failure, rfl⟩
          obtain ⟨pending, next⟩ := attended
          dsimp only at admits
          rw [Protocol.after_cons] at ended
          dsimp only at ended
          rw [next] at admits ended
          obtain ⟨middle, op, recorded, later, rfl, attends, isRecord⟩ := ih admits ended
          refine ⟨_ :: middle, op, recorded, later, rfl, ?_, isRecord⟩
          intro other member
          rcases List.mem_cons.mp member with rfl | inRest
          · trivial
          · exact attends other inRest
      | refused early recorded =>
          exact ⟨[], op, answer, rest, rfl, by simp, by simp [recorded]⟩

/-- A failed authorization is on record before the delivery returns, and the record is terminal
exactly for a denial, outside the exchanges that are missorted and the denials whose clean-up
fails. -/
theorem authorization_failures_are_sorted_iff (host : FleetHost) (gateway : Gateway)
    (segment : String → String) (adapter : Adapter) (outbound : OutboundMessage)
    (deliveryKey fingerprint : String) (keyed : Text.isBlank deliveryKey = false)
    (events : List (Σ op, Ans op)) (outcome : Option Outcome)
    (run : (deliverOutboundItemsGuarded gateway segment adapter outbound deliveryKey
      fingerprint).run.Run events outcome)
    (answered : ∀ event ∈ events, Answered host event) (client : BeaconClient)
    (authorization : Authorization) (error : GatewayError) (asked : authorization.Asked)
    (failed : client.authorize authorization = .error error)
    (earlier rest : List (Σ op, Ans op))
    (split : events = earlier ++ authorization.event (.error error) :: rest) :
    (outcome.isSome → ∃ middle op answer later, rest = middle ++ ⟨op, answer⟩ :: later ∧
      (∀ event ∈ middle, Attends event) ∧ op.recordedFailure?.isSome) ∧
    ∀ middle op answer later retryable, rest = middle ++ ⟨op, answer⟩ :: later →
      (∀ event ∈ middle, Attends event) → op.recordedFailure? = some retryable →
      ((retryable = false ↔ client.Denies authorization) ↔
        client.Sorts authorization ∧ ¬DirectoryFailed middle) := by
  have calm := deliverOutboundItemsGuarded_calm gateway segment adapter outbound fingerprint keyed
  have plain := fun event member => (answered event member).plain
  have admits := calm.run_admits run plain
  have refused : ∀ reporting, reportingProtocol.next reporting (authorization.event
      (.error error)).1 (authorization.event (.error error)).2 = .refused error := by
    intro reporting
    cases authorization <;> rfl
  rw [split, Protocol.admits_append] at admits
  have pending := admits.2.2.2
  rw [refused] at pending
  have sorted := BeaconClient.sorted asked failed
  refine ⟨fun returned => ?_, ?_⟩
  · obtain ⟨value, rfl⟩ := Option.isSome_iff_exists.mp returned
    have ended := calm.run_ends run plain
    rw [split, Protocol.after_append, Protocol.after_cons, refused] at ended
    exact recorded_before_clear pending ended
  · rintro middle op answer later retryable rfl attends recorded
    rw [Protocol.admits_append] at pending
    obtain ⟨reported, standing, origin⟩ := reporting_after (Or.inl rfl) pending.1 attends
    have allowed := pending.2.1
    have sorts : retryable = (mapDeliveryFailure reported.message).2 := by
      rcases standing with same | same
      · rw [same] at allowed
        cases allowed with
        | identity selection changed => simp [Op.recordedFailure?] at recorded
        | refused early stored => exact Option.some.inj (recorded.symm.trans stored)
      · rw [same] at allowed
        cases allowed with
        | staged late stored => exact Option.some.inj (recorded.symm.trans stored)
    rcases origin with ⟨rfl, kept⟩ | ⟨rfl, changed, lost⟩
    · rw [sorts]
      have agrees := sorted.agrees
      simp only [EndsDelivery] at agrees
      simp only [kept, not_false_eq_true, and_true, agrees]
    · have retried : retryable = true := sorts.trans (by decide)
      have denies := (sorted.changed changed).1
      simp [retried, denies, lost]

/-! ## A camera clip without a fleet -/

def plainClient (reply : HttpReply) : DirectClient where
  apiToken := "token"
  trusted _ := true
  parse _ := none
  replies _ := reply

/-- The surroundings in which Beacon gives the same reply to every request. -/
def beaconWorld (reply : HttpReply) : (op : Op) → World → Option (Ans op × World)
  | .authorizeCameraAttachments artifacts, world =>
      some ((BeaconClient.direct (plainClient reply)).authorize (.cameras artifacts), world)
  | .authorizeWhatsappDelivery outbound, world =>
      some ((BeaconClient.direct (plainClient reply)).authorize (.whatsapp outbound), world)
  | op, world => world.perform offlineHost op (smoothChoice 0 ⟨world.issued.length⟩)

def clipReply : OutboundMessage :=
  { turnReply with
    text := ""
    attachments := [.obj [("artifact_id", .str "clip"), ("mime_type", .str "video/mp4"),
      ("url", .str "/api/cameras/recordings/artifacts/clip")]] }

def clipDelivery : Routine Outcome :=
  (deliverOutboundItemsGuarded textGateway id webhookAdapter clipReply "turn" "fingerprint").run

def clipEvents (reply : HttpReply) : List (Σ op, Ans op) :=
  (clipDelivery.record (beaconWorld reply) (World.initial ∅ ∅)).1

/-- What the third step failed with, when it was a camera check, and the class recorded next. -/
def recordedRefusal (events : List (Σ op, Ans op)) : Option (GatewayError × Bool) :=
  match events.drop 2 with
  | ⟨.authorizeCameraAttachments _, .error error⟩ :: ⟨op, _⟩ :: _ =>
      op.recordedFailure?.map ((error, ·))
  | _ => none

theorem clipEvents_answered (reply : HttpReply) :
    ∀ event ∈ clipEvents reply, Answered offlineHost event := by
  intro event member
  obtain ⟨before, after, told⟩ := Prog.record_answered event member
  obtain ⟨op, answer⟩ := event
  cases op with
  | authorizeCameraAttachments artifacts =>
      exact ⟨.direct (plainClient reply), (Prod.mk.inj (Option.some.inj told)).1⟩
  | authorizeWhatsappDelivery outbound =>
      exact ⟨.direct (plainClient reply), (Prod.mk.inj (Option.some.inj told)).1⟩
  | _ => exact ⟨before, _, after, told⟩

/-- A recorded refusal in the events of the clip, taken apart. -/
theorem clipEvents_split {reply : HttpReply} {error : GatewayError} {retryable : Bool}
    (refused : recordedRefusal (clipEvents reply) = some (error, retryable)) :
    ∃ artifacts op answer later,
      clipEvents reply = (clipEvents reply).take 2 ++
        (Authorization.cameras artifacts).event (.error error) :: ⟨op, answer⟩ :: later ∧
      (BeaconClient.direct (plainClient reply)).authorize (.cameras artifacts) = .error error ∧
      op.recordedFailure? = some retryable := by
  simp only [recordedRefusal] at refused
  split at refused
  · rename_i artifacts reason op answer later dropped
    obtain ⟨recorded, stored, same⟩ := Option.map_eq_some_iff.mp refused
    obtain ⟨rfl, rfl⟩ := Prod.mk.inj same
    have whole : clipEvents reply = (clipEvents reply).take 2 ++
        (Authorization.cameras artifacts).event (.error reason) :: ⟨op, answer⟩ :: later := by
      conv_lhs => rw [← List.take_append_drop 2 (clipEvents reply), dropped]
      rfl
    refine ⟨artifacts, op, answer, later, whole, ?_, stored⟩
    have member : (⟨.authorizeCameraAttachments artifacts, .error reason⟩ : Σ op, Ans op) ∈
        clipEvents reply := by
      rw [whole]
      exact List.mem_append_right _ List.mem_cons_self
    obtain ⟨before, after, told⟩ := Prog.record_answered _ member
    exact (Prod.mk.inj (Option.some.inj told)).1
  · simp at refused

theorem directStop_replied (client : DirectClient) {reply : HttpReply} (artifacts : List Json) :
    ∀ (asked : Nat), HarborBeacon.directStop client artifacts asked = some (.replied reply) →
      ∃ request, client.replies request = reply := by
  induction artifacts with
  | nil =>
      intro asked stopped
      simp [HarborBeacon.directStop] at stopped
  | cons artifact rest ih =>
      intro asked stopped
      simp only [HarborBeacon.directStop] at stopped
      split at stopped
      · exact ih asked stopped
      split at stopped
      · simp at stopped
      split at stopped
      · simp at stopped
      split at stopped
      · rename_i replied
        simp only [Option.some.injEq, HarborBeacon.DirectStop.replied.injEq] at stopped
        exact ⟨asked, replied.trans stopped⟩
      · rename_i replied
        split at stopped
        · exact ih (asked + 1) stopped
        · simp only [Option.some.injEq, HarborBeacon.DirectStop.replied.injEq] at stopped
          exact ⟨asked, replied.trans stopped⟩

/-- A clip whose permission cannot be asked for is given up. -/
theorem camera_outage_ends_the_delivery :
    ∃ artifacts earlier op answer later outcome,
      clipDelivery.Run (earlier ++ (Authorization.cameras artifacts).event
        (.error HarborBeacon.mediaUnavailable) :: ⟨op, answer⟩ :: later) outcome ∧
      (∀ event ∈ earlier ++ (Authorization.cameras artifacts).event
        (.error HarborBeacon.mediaUnavailable) :: ⟨op, answer⟩ :: later,
        Answered offlineHost event) ∧
      (BeaconClient.direct (plainClient .failed)).authorize (.cameras artifacts) =
        .error HarborBeacon.mediaUnavailable ∧
      op.recordedFailure? = some false ∧
      ¬(BeaconClient.direct (plainClient .failed)).Denies (.cameras artifacts) := by
  have refused : recordedRefusal (clipEvents .failed) =
      some (HarborBeacon.mediaUnavailable, false) := by decide
  obtain ⟨artifacts, op, answer, later, whole, failed, stored⟩ := clipEvents_split refused
  refine ⟨artifacts, (clipEvents .failed).take 2, op, answer, later,
    (clipDelivery.record (beaconWorld .failed) (World.initial ∅ ∅)).2, ?_, ?_, failed, stored, ?_⟩
  · rw [← whole]
    exact Prog.run_record _ _ _
  · rw [← whole]
    exact clipEvents_answered .failed
  · rintro ⟨reply, stopped, denies⟩
    obtain ⟨request, rfl⟩ := directStop_replied _ artifacts 0 stopped
    simp [plainClient, HttpReply.deniesMedia] at denies

def refusal : HttpReply :=
  .answered 403 none []

theorem clip_denial_is_sorted :
    ∃ artifacts, (BeaconClient.direct (plainClient refusal)).authorize (.cameras artifacts) =
        .error HarborBeacon.mediaRevoked ∧
      ((false = false ↔ (BeaconClient.direct (plainClient refusal)).Denies (.cameras artifacts)) ↔
        (BeaconClient.direct (plainClient refusal)).Sorts (.cameras artifacts) ∧
          ¬DirectoryFailed []) := by
  have refused : recordedRefusal (clipEvents refusal) =
      some (HarborBeacon.mediaRevoked, false) := by decide
  obtain ⟨artifacts, op, answer, later, whole, failed, stored⟩ := clipEvents_split refused
  exact ⟨artifacts, failed, (authorization_failures_are_sorted_iff offlineHost textGateway id
    webhookAdapter clipReply "turn" "fingerprint" (by decide) (clipEvents refusal) _
    (Prog.run_record _ _ _) (clipEvents_answered refusal) (.direct (plainClient refusal))
    (.cameras artifacts) HarborBeacon.mediaRevoked trivial failed _ _ whole).2 [] op answer later
    false rfl (by simp) stored⟩

end HarborGate
