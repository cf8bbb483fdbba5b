import HarborGate.Gateway.Machine

/-!
Every WhatsApp message goes out right after a check of its Navi selection. The programs are read
here through a protocol of their own: what matters of a task is only the clearance that its last
operations obtained.
-/

namespace HarborGate

open Interleave

/-- `cleared` is the end of an `authorize_delivery_context`: Beacon allowed the first message and
the directory then confirmed the selection of the second. -/
inductive Clearance
  | none
  | allowed (outbound : OutboundMessage)
  | cleared (authorized checked : OutboundMessage)

def Clearance.next (clearance : Clearance) : (op : Op) → Ans op → Clearance
  | .authorizeWhatsappDelivery outbound, .ok () => .allowed outbound
  | .fleetCheck outbound, .ok _ =>
      match clearance with
      | .allowed authorized => .cleared authorized outbound
      | _ => .none
  | _, _ => .none

/-- The message that an operation hands to an adapter. -/
def Op.sentMessage? : Op → Option OutboundMessage
  | .sendPreparedOutbound _ outbound _ _ => some outbound
  | .sendOutbound _ outbound => some outbound
  | _ => none

/-- With a fleet configured, a WhatsApp message is sent only when it has just been cleared. -/
def clearanceProtocol (fleet : Bool) : Protocol Op Ans Clearance where
  allows clearance op := ∀ outbound, op.sentMessage? = some outbound →
    outbound.platform = "whatsapp" → fleet = true → clearance = .cleared outbound outbound
  possible _ _ := True
  next := Clearance.next

/-! ## Programs that may be run at any clearance -/

def Safe {α : Type} (fleet : Bool) (program : Routine α) : Prop :=
  ∀ clearance, program.Follows (clearanceProtocol fleet) clearance fun _ _ => True

section Safe

variable {α β : Type} {fleet : Bool}

theorem safe_ret (value : α) : Safe fleet (pure value : Routine α) := fun _ => trivial

theorem safe_query {op : Op} (unsent : op.sentMessage? = none) : Safe fleet (query op) := by
  intro clearance
  refine Prog.Follows.perform (fun outbound sends => ?_) fun _ _ => trivial
  simp [unsent] at sends

theorem Safe.bind {first : Routine α} {next : α → Routine β} (safe : Safe fleet first)
    (continues : ∀ value, Safe fleet (next value)) : Safe fleet (first >>= next) :=
  fun clearance => Prog.Follows.bind (safe clearance) fun after value _ => continues value after

theorem Safe.gateBind {first : Gate α} {next : α → Gate β} (safe : Safe fleet first.run)
    (continues : ∀ value, Safe fleet (next value).run) : Safe fleet (first >>= next).run :=
  fun clearance => Prog.Follows.bindExcept (safe clearance) (fun _ _ _ => trivial)
    fun after value _ => continues value after

theorem safe_propagate (result : Except GatewayError α) : Safe fleet (propagate result).run :=
  fun _ => trivial

theorem safe_throw (error : GatewayError) : Safe fleet (throw error : Gate α).run :=
  fun _ => trivial

theorem safe_pure (value : α) : Safe fleet (pure value : Gate α).run := fun _ => trivial

theorem safe_lift {routine : Routine α} (safe : Safe fleet routine) :
    Safe fleet (ExceptT.lift routine : Gate α).run :=
  safe.bind fun _ => safe_ret _

theorem safe_ask {op : Op} (unsent : op.sentMessage? = none) : Safe fleet (ask op).run :=
  safe_lift (safe_query unsent)

theorem safe_attempt {call : Gate α} (safe : Safe fleet call.run) :
    Safe fleet (attempt call).run :=
  safe_lift safe

theorem safe_fromStore (result : StoreResult α) : Safe fleet (fromStore result).run :=
  safe_propagate _

end Safe

/-! ## Authorization -/

section Authorization

variable (gateway : Gateway) (outbound : OutboundMessage)

theorem outboundTaskClient_safe :
    Safe gateway.fleet (outboundTaskClient gateway outbound).run := by
  simp only [outboundTaskClient]
  split
  · refine Safe.gateBind (safe_ask rfl) fun _ => ?_
    refine Safe.gateBind (safe_propagate _) fun _ => ?_
    exact Safe.gateBind (safe_propagate _) fun _ => safe_propagate _
  · split
    · exact safe_throw _
    · split
      · exact safe_pure _
      · exact safe_throw _

theorem authorizeCameraDelivery_safe :
    Safe gateway.fleet (authorizeCameraDelivery gateway outbound).run := by
  simp only [authorizeCameraDelivery]
  split
  · exact safe_pure _
  · refine Safe.gateBind (outboundTaskClient_safe gateway outbound) fun _ => ?_
    exact Safe.gateBind (safe_ask rfl) fun _ => safe_propagate _

/-- A success clears the message, if it needs clearance. -/
def Clears (fleet : Bool) (outbound : OutboundMessage) (clearance : Clearance) :
    Except GatewayError Unit → Prop
  | .ok _ => outbound.platform = "whatsapp" → fleet = true → clearance = .cleared outbound outbound
  | .error _ => True

theorem checkSelection_clears :
    Prog.Follows (clearanceProtocol gateway.fleet) (.allowed outbound)
      (checkSelection gateway outbound).run (Clears gateway.fleet outbound) := by
  simp only [checkSelection]
  split
  · refine Prog.Follows.liftBind (fun _ sends => by simp [Op.sentMessage?] at sends) fun answer _ => ?_
    cases answer with
    | ok selection => exact fun _ _ => rfl
    | error error => trivial
  · rename_i unconfigured
    exact fun _ configured => absurd configured unconfigured

theorem authorizeDelivery_clears (clearance : Clearance) :
    Prog.Follows (clearanceProtocol gateway.fleet) clearance
      (authorizeDelivery gateway outbound).run (Clears gateway.fleet outbound) := by
  simp only [authorizeDelivery]
  refine Prog.Follows.bindExcept (authorizeCameraDelivery_safe gateway outbound clearance)
    (fun _ _ _ => trivial) fun clearance _ _ => ?_
  split
  · refine Prog.Follows.bindExcept (outboundTaskClient_safe gateway outbound clearance)
      (fun _ _ _ => trivial) fun clearance _ _ => ?_
    refine Prog.Follows.liftBind (fun _ sends => by simp [Op.sentMessage?] at sends) fun answer _ => ?_
    cases answer with
    | ok done => exact checkSelection_clears gateway outbound
    | error error => trivial
  · rename_i otherPlatform
    exact fun whatsapp _ => absurd whatsapp otherPlatform

theorem authorizeDeliveryContext_clears (clearance : Clearance) :
    Prog.Follows (clearanceProtocol gateway.fleet) clearance
      (authorizeDeliveryContext gateway outbound).run (Clears gateway.fleet outbound) := by
  simp only [authorizeDeliveryContext]
  refine Prog.Follows.routineBind (authorizeDelivery_clears gateway outbound clearance) ?_
  intro after result clears
  cases result with
  | ok done => exact Prog.Follows.pure clears
  | error error =>
      dsimp only
      split
      · split
        · trivial
        · refine Prog.Follows.liftBind (fun _ sends => by simp [Op.sentMessage?] at sends)
            fun answer _ => ?_
          cases answer with
          | ok done => trivial
          | error error => trivial
      · trivial

theorem authorizeDeliveryContext_safe :
    Safe gateway.fleet (authorizeDeliveryContext gateway outbound).run :=
  fun clearance => (authorizeDeliveryContext_clears gateway outbound clearance).mono
    fun _ _ _ => trivial

end Authorization

/-! ## Deliveries -/

section Deliveries

variable (gateway : Gateway) (segment : String → String) (adapter : Adapter)
  (outbound : OutboundMessage)

theorem completeStage_safe (context : StageContext) (prepared : Option PreparedOutbound)
    (result : Except GatewayError Json) :
    Safe gateway.fleet (completeStage context prepared result) := by
  simp only [completeStage]
  refine Safe.bind (safe_query (by cases result <;> rfl)) fun answer => ?_
  cases answer <;> exact safe_ret _

/-- A send right after an authorization that succeeded. -/
theorem send_cleared {clearance : Clearance} {prepared : Option PreparedOutbound}
    {context : StageContext} (clears : Clears gateway.fleet outbound clearance (.ok ())) :
    Prog.Follows (clearanceProtocol gateway.fleet) clearance
      (query (.sendPreparedOutbound adapter.name outbound prepared context)) fun _ _ => True := by
  refine Prog.Follows.perform (fun sent sends whatsapp configured => ?_) fun _ _ => trivial
  obtain rfl : outbound = sent := Option.some.inj sends
  exact clears whatsapp configured

theorem sendAuthorized_safe (prepared : Option PreparedOutbound) (context : StageContext) :
    Safe gateway.fleet (sendAuthorized gateway adapter outbound prepared context) := by
  intro clearance
  simp only [sendAuthorized]
  refine Prog.Follows.bind (authorizeDeliveryContext_clears gateway outbound clearance) ?_
  intro after result clears
  cases result with
  | ok done => exact send_cleared gateway adapter outbound clears
  | error error => trivial

theorem prepareAndSend_safe (context : StageContext) :
    Safe gateway.fleet (prepareAndSend gateway adapter outbound context) := by
  simp only [prepareAndSend]
  refine Safe.bind (safe_query rfl) fun answer => ?_
  match answer with
  | .error error => exact completeStage_safe gateway context none (.error error)
  | .ok none =>
      exact Safe.bind (sendAuthorized_safe gateway adapter outbound none context) fun _ =>
        completeStage_safe gateway context none _
  | .ok (some value) =>
      refine Safe.bind (safe_query rfl) fun recorded => ?_
      cases recorded with
      | error error => exact safe_ret _
      | ok done =>
          exact Safe.bind (sendAuthorized_safe gateway adapter outbound (some value) context)
            fun _ => completeStage_safe gateway context (some value) _

theorem sendDeliveryStage_safe (item : LedgerItem) (context : StageContext) :
    Safe gateway.fleet (sendDeliveryStage gateway adapter outbound item context) := by
  intro clearance
  simp only [sendDeliveryStage]
  refine Prog.Follows.bind (authorizeDeliveryContext_clears gateway outbound clearance) ?_
  intro after result clears
  cases result with
  | error error => exact completeStage_safe gateway context _ (.error error) after
  | ok done =>
      cases resumedUpload item context.stage with
      | none => exact prepareAndSend_safe gateway adapter outbound context after
      | some value =>
          exact Prog.Follows.bind (send_cleared gateway adapter outbound clears)
            fun later _ _ => completeStage_safe gateway context (some value) _ later

theorem sendStages_safe (item : LedgerItem) (deliveryKey itemKey : String) (token : Uuid) :
    Safe gateway.fleet
      (sendStages gateway adapter outbound item deliveryKey itemKey token) := by
  simp only [sendStages]
  split
  · split
    · exact Safe.bind (sendDeliveryStage_safe gateway adapter _ item _) fun _ => safe_ret _
    · exact safe_ret _
  · refine Safe.bind (sendDeliveryStage_safe gateway adapter outbound item _) fun outcome => ?_
    split
    · split
      · exact Safe.bind (sendDeliveryStage_safe gateway adapter _ item _) fun _ => safe_ret _
      · exact safe_ret _
    · exact safe_ret _

theorem deliverClaimed_safe (deliveryKey itemKey : String) (token : Uuid) (item : LedgerItem) :
    Safe gateway.fleet
      (deliverClaimed gateway adapter deliveryKey itemKey token item outbound).run := by
  simp only [deliverClaimed]
  refine Safe.gateBind (safe_lift (sendStages_safe gateway adapter _ item _ _ _)) fun outcome => ?_
  split
  · refine Safe.gateBind (safe_ask rfl) fun _ => ?_
    exact Safe.gateBind (safe_fromStore _) fun _ => safe_pure _
  · refine Safe.gateBind (safe_ask rfl) fun _ => ?_
    exact Safe.gateBind (safe_fromStore _) fun _ => safe_throw _

theorem failMaterialization_safe {α : Type} (completion : DeliveryMaterializationCompletion)
    (error : GatewayError) :
    Safe gateway.fleet (failMaterialization completion error : Gate α).run := by
  simp only [failMaterialization]
  refine Safe.gateBind (safe_ask rfl) fun _ => ?_
  exact Safe.gateBind (safe_fromStore _) fun _ => safe_throw _

theorem materializeClaimed_safe (deliveryKey itemKey : String) (token : Uuid) :
    Safe gateway.fleet
      (materializeClaimed gateway segment deliveryKey itemKey token outbound).run := by
  simp only [materializeClaimed, authorizeMaterialization]
  refine Safe.gateBind ?_ fun _ => ?_
  · split
    · refine Safe.gateBind (safe_attempt (authorizeDeliveryContext_safe gateway outbound)) ?_
      intro authorized
      cases authorized with
      | ok done => exact safe_pure _
      | error error => exact failMaterialization_safe gateway _ _
    · exact safe_pure _
  refine Safe.gateBind (safe_attempt (outboundTaskClient_safe gateway outbound)) fun client => ?_
  cases client with
  | error error => exact failMaterialization_safe gateway _ _
  | ok done =>
      refine Safe.gateBind (safe_ask rfl) fun materialized => ?_
      split
      · exact failMaterialization_safe gateway _ _
      · split
        · exact safe_throw _
        · refine Safe.gateBind (safe_ask rfl) fun _ => ?_
          exact Safe.gateBind (safe_fromStore _) fun _ => safe_pure _

theorem materializeDeliveryItem_safe (deliveryKey itemKey : String) :
    Safe gateway.fleet
      (materializeDeliveryItem gateway segment adapter deliveryKey itemKey outbound).run := by
  simp only [materializeDeliveryItem]
  split
  · refine Safe.gateBind (safe_ask rfl) fun _ => ?_
    refine Safe.gateBind (safe_fromStore _) fun claim => ?_
    cases claim with
    | materialized item => exact safe_propagate _
    | notRequired item => exact safe_pure _
    | terminalFailed item => exact safe_throw _
    | busy item => exact safe_throw _
    | claimed token item =>
        exact materializeClaimed_safe gateway segment outbound deliveryKey itemKey token
  · exact safe_pure _

theorem deliverItem_safe (deliveryKey fingerprint : String) (item : DeliveryItem) :
    Safe gateway.fleet
      (deliverItem gateway segment adapter deliveryKey fingerprint item).run := by
  simp only [deliverItem]
  refine Safe.gateBind (materializeDeliveryItem_safe gateway segment adapter _ _ _) fun ready => ?_
  refine Safe.gateBind (safe_ask rfl) fun _ => ?_
  refine Safe.gateBind (safe_propagate _) fun claim => ?_
  cases claim with
  | succeeded stored => exact safe_pure _
  | terminalFailed stored => exact safe_throw _
  | busy stored => exact safe_throw _
  | claimed token stored previous => exact deliverClaimed_safe gateway adapter ready _ _ _ _

theorem deliverItems_safe (deliveryKey fingerprint : String) (items : List DeliveryItem) :
    ∀ last, Safe gateway.fleet
      (deliverItems gateway segment adapter deliveryKey fingerprint items last).run := by
  induction items with
  | nil => exact fun last => safe_pure _
  | cons item items ih =>
      intro last
      exact Safe.gateBind (deliverItem_safe gateway segment adapter deliveryKey fingerprint item)
        fun response => ih response

theorem deliverOutboundItemsGuarded_safe (deliveryKey fingerprint : String) :
    Safe gateway.fleet
      (deliverOutboundItemsGuarded gateway segment adapter outbound deliveryKey fingerprint).run := by
  simp only [deliverOutboundItemsGuarded]
  split
  · split
    · exact safe_throw _
    · rename_i otherPlatform
      refine Safe.gateBind (authorizeDeliveryContext_safe gateway outbound) fun _ => ?_
      -- Without a delivery key only other platforms are sent to.
      intro clearance
      refine Prog.Follows.liftBind (fun sent sends whatsapp _ => ?_) fun _ _ => trivial
      obtain rfl : outbound = sent := Option.some.inj sends
      exact absurd whatsapp otherPlatform
  · refine Safe.gateBind (safe_propagate _) fun items => ?_
    refine Safe.gateBind (safe_ask rfl) fun _ => ?_
    refine Safe.gateBind (safe_propagate _) fun _ => ?_
    exact deliverItems_safe gateway segment adapter deliveryKey fingerprint items _

end Deliveries

/-! ## Calls -/

def Call.gateway : Call → Gateway
  | .deliver gateway _ _ _ _ => gateway
  | .notify gateway _ _ => gateway
  | .recover gateway => gateway

section Calls

variable (digests : Digests) (gateway : Gateway)

theorem deliverNotification_safe (request : NotificationRequest) (route : Json) (adapter : Adapter)
    (fingerprint : String) :
    Safe gateway.fleet
      (deliverNotification digests gateway request route adapter fingerprint).run := by
  simp only [deliverNotification]
  refine Safe.gateBind (safe_ask rfl) fun timestamp => ?_
  refine Safe.gateBind
    (safe_attempt (deliverOutboundItemsGuarded_safe gateway _ adapter _ _ _)) fun result => ?_
  cases result with
  | ok response =>
      refine Safe.gateBind (safe_ask rfl) fun _ => ?_
      exact Safe.gateBind (safe_propagate _) fun _ => safe_pure _
  | error error =>
      dsimp only
      split
      · exact safe_throw _
      · exact safe_pure _

theorem handleNotificationDeliveryFrom_safe (payload : Json) (selection : Option Selection) :
    Safe gateway.fleet (handleNotificationDeliveryFrom digests gateway payload selection).run := by
  simp only [handleNotificationDeliveryFrom]
  refine Safe.gateBind (safe_propagate _) fun request => ?_
  refine Safe.gateBind ?_ fun route => ?_
  · simp only [resolveNotificationRoute]
    split
    · refine Safe.gateBind (safe_ask rfl) fun _ => ?_
      exact Safe.gateBind (safe_propagate _) fun _ => safe_propagate _
    · exact safe_propagate _
  · simp only [deliverOnRoute]
    split
    · exact safe_throw _
    · split
      · exact safe_throw _
      · refine Safe.gateBind (safe_ask rfl) fun _ => ?_
        refine Safe.gateBind (safe_propagate _) fun _ => ?_
        refine Safe.gateBind (safe_propagate _) fun stored => ?_
        cases stored with
        | some response => exact safe_pure _
        | none => exact deliverNotification_safe digests gateway request route _ _

theorem retryPlans_safe (plans : List RetryablePlan) :
    ∀ attempted, Safe gateway.fleet (retryPlans digests gateway plans attempted) := by
  induction plans with
  | nil => exact fun _ => safe_ret _
  | cons plan plans ih =>
      intro attempted
      simp only [retryPlans]
      split
      · exact ih attempted
      · exact Safe.bind (deliverOutboundItemsGuarded_safe gateway _ _ _ _ _) fun _ => ih _

theorem Call.program_safe (call : Call) :
    Safe call.gateway.fleet (call.program digests) := by
  cases call with
  | deliver gateway adapter outbound deliveryKey fingerprint =>
      exact deliverOutboundItemsGuarded_safe gateway _ adapter outbound deliveryKey fingerprint
  | notify gateway payload selection =>
      exact handleNotificationDeliveryFrom_safe digests gateway payload selection
  | recover gateway =>
      simp only [Call.program, retryPendingDeliveries]
      refine Safe.bind ?_ fun _ => safe_ret _
      refine Safe.gateBind (safe_ask rfl) fun _ => ?_
      refine Safe.gateBind (safe_fromStore _) fun plans => ?_
      exact safe_lift (retryPlans_safe digests gateway plans 0)

end Calls

/-! ## Runs -/

/-- The message that Beacon allowed. -/
def Op.authorized? : (op : Op) → Ans op → Option OutboundMessage
  | .authorizeWhatsappDelivery outbound, .ok () => some outbound
  | _, _ => none

/-- The message whose selection the directory confirmed, with that selection. -/
def Op.checked? : (op : Op) → Ans op → Option (OutboundMessage × Selection)
  | .fleetCheck outbound, .ok selection => some (outbound, selection)
  | _, _ => none

/-- The selection a message carries is the active one of its route, and no proof is open there. -/
def SelectionCurrent (host : FleetHost) (now : Int) (directory : Directory)
    (outbound : OutboundMessage) (selection : Selection) : Prop :=
  ∃ routeKey route,
    (outbound.metadata.get "navi_selection").bind Selection.ofJson = some selection ∧
    (outbound.metadata.get "route_key").bind Json.asStr = some routeKey ∧
    directory[host.key outbound.chatId routeKey]? = some route ∧
    NaviFleet.Route.hasOpenProof now route = false ∧ route.active = some selection

section Runs

variable {digests : Digests} {host : FleetHost}

/-- What one task did so far. -/
def ownHistory (trace : List (gatewayMachine digests host).Event) (task : Nat) :
    List (gatewayMachine digests host).Event :=
  trace.filter (·.task = task)

/-- A WhatsApp message is sent directly after its authorization, the last step of which found its
selection current. -/
def CoveredSend (earlier : List (gatewayMachine digests host).Event)
    (event : (gatewayMachine digests host).Event) : Prop :=
  ∀ outbound, event.op.sentMessage? = some outbound → outbound.platform = "whatsapp" →
    ∃ before authorization check selection,
      ownHistory earlier event.task = before ++ [authorization, check] ∧
      authorization.op.authorized? authorization.answer = some outbound ∧
      check.op.checked? check.answer = some (outbound, selection) ∧
      SelectionCurrent host (World.fleetNow check.after.now) check.before.directory outbound selection

/-- What a task's history shows for its clearance. -/
def Clearance.Shown (history : List (gatewayMachine digests host).Event) : Clearance → Prop
  | .none => True
  | .allowed outbound => ∃ before authorization, history = before ++ [authorization] ∧
      authorization.op.authorized? authorization.answer = some outbound
  | .cleared authorized checked => ∃ before authorization check selection,
      history = before ++ [authorization, check] ∧
      authorization.op.authorized? authorization.answer = some authorized ∧
      check.op.checked? check.answer = some (checked, selection) ∧
      SelectionCurrent host (World.fleetNow check.after.now) check.before.directory checked selection

variable {world after : World} {trace history : List (gatewayMachine digests host).Event}
  {task other : Nat} {op : Op} {choice : Choice} {answer : Ans op} {clearance : Clearance}
  {event : (gatewayMachine digests host).Event}

theorem ownHistory_own (own : event.task = task) :
    ownHistory (trace ++ [event]) task = ownHistory trace task ++ [event] := by
  simp [ownHistory, own]

theorem ownHistory_other (different : event.task ≠ task) :
    ownHistory (trace ++ [event]) task = ownHistory trace task := by
  simp [ownHistory, different]

/-- A directory that confirms a selection finds it current. -/
theorem checked_current {outbound : OutboundMessage} {selection : Selection}
    (performed : World.perform host world op choice = some (answer, after))
    (checked : op.checked? answer = some (outbound, selection)) :
    SelectionCurrent host (World.fleetNow after.now) world.directory outbound selection := by
  have clock := (World.perform_evolves performed).clock.2
  cases op with
  | fleetCheck message =>
      cases answer with
      | error error => simp [Op.checked?] at checked
      | ok confirmed =>
          simp only [Op.checked?, Option.some.injEq, Prod.mk.injEq] at checked
          obtain ⟨rfl, rfl⟩ := checked
          simp only [World.perform] at performed
          split at performed
          · simp at performed
          · simp only [Option.some.injEq, Prod.mk.injEq, World.fleetCheck] at performed
            have confirms := performed.1
            split at confirms
            · simp at confirms
            · obtain ⟨routeKey, route, claimed, stored, settled, active⟩ :=
                NaviFleet.check_ok confirms
              obtain ⟨carried, keyed⟩ := NaviFleet.claimedSelection_ok claimed
              rw [clock]
              exact ⟨routeKey, route, carried, keyed, stored, settled, active⟩
  | _ => simp [Op.checked?] at checked

theorem Clearance.shown_next (shown : clearance.Shown history)
    (performed : World.perform host world op choice = some (answer, after)) :
    (clearance.next op answer).Shown
      (history ++ [(⟨task, op, answer, world, after⟩ : (gatewayMachine digests host).Event)]) := by
  cases op with
  | authorizeWhatsappDelivery outbound =>
      cases answer with
      | ok done => exact ⟨history, _, rfl, rfl⟩
      | error error => trivial
  | fleetCheck outbound =>
      cases answer with
      | error error => trivial
      | ok selection =>
          cases clearance with
          | none => trivial
          | cleared authorized checked => trivial
          | allowed authorized =>
              obtain ⟨before, authorization, rfl, authorizes⟩ := shown
              exact ⟨before, authorization, ⟨task, .fleetCheck outbound, .ok selection, world, after⟩,
                selection, by simp, authorizes, rfl, checked_current performed rfl⟩
  | _ => trivial

/-- In every run of gateways with a fleet, whatever else moves the directory meanwhile, a WhatsApp
message is only sent right after Beacon allowed it and the directory confirmed its selection. -/
theorem whatsapp_sends_are_covered (origin : World)
    (moves : List (gatewayMachine digests host).Move) (last : (gatewayMachine digests host).System)
    (configured : ∀ call, Machine.Move.start call ∈ moves → call.gateway.fleet = true)
    (played : (Machine.System.boot origin).play moves = some last) :
    Machine.EachStep CoveredSend last.trace := by
  have steady : @Machine.Steady Op Ans Clearance (gatewayMachine digests host)
      (fun call => clearanceProtocol call.gateway.fleet) (· ∈ moves) (fun _ => True) :=
    ⟨fun _ _ _ _ _ _ _ => ⟨trivial, fun _ => trivial⟩, fun _ _ _ _ => trivial⟩
  obtain ⟨phases, run, -⟩ := Machine.play_phased_boot steady
    (fun call _ => call.program_safe digests Clearance.none) (fun _ member => member) trivial played
  have maintained := Machine.Phased.maintains
    (fun (_ : World) trace => Machine.EachStep CoveredSend trace)
    (fun (_ : World) trace task call (clearance : Clearance) =>
      call.gateway.fleet = true ∧ clearance.Shown (ownHistory trace task))
    .nil ?start ?step ?outside run
  · exact maintained.1
  case start =>
    intro world phases trace call started run _
    exact ⟨configured call started, trivial⟩
  case step =>
    intro world after phases trace task call clearance op choice answer _ each holder allowed _
      performed kept
    obtain ⟨fleet, shown⟩ := each task call clearance holder
    refine ⟨kept.concat fun outbound sends whatsapp => ?_, ⟨fleet, ?_⟩, ?_⟩
    · obtain rfl := allowed outbound sends whatsapp fleet
      exact shown
    · rw [ownHistory_own rfl]
      exact Clearance.shown_next shown performed
    · rintro other started otherClearance different - ⟨otherFleet, otherShown⟩
      rw [ownHistory_other (Ne.symm different)]
      exact ⟨otherFleet, otherShown⟩
  case outside => exact fun _ _ _ _ kept => ⟨kept, fun _ _ _ old => old⟩

end Runs

def phoneGateway : Gateway where
  instanceId := "gate"
  adapters := []
  fleet := true
  taskClient := true

/-- A turn answers on a bound phone; the directory is polled between its two authorizations. -/
def phoneTurn : List (gatewayMachine plainDigests NaviFleet.phoneHost).Move :=
  .start (.deliver phoneGateway ⟨"whatsapp", 60⟩ NaviFleet.staleReply "turn" "fingerprint") ::
    List.replicate 6 (.step 0 (smoothChoice (1790000120 * nanosPerSecond) ⟨1⟩)) ++
    .outside (.fleet ⟨1790000121, .notificationTarget, true⟩) ::
    List.replicate 4 (.step 0 (smoothChoice (1790000122 * nanosPerSecond) ⟨2⟩))

theorem phone_turn_is_covered :
    ∃ last, (Machine.System.boot (World.initial ∅
        (NaviFleet.runFleet NaviFleet.phoneHost NaviFleet.phoneBinding ∅))).play phoneTurn =
          some last ∧
      last.trace.any (fun event => event.op.sentMessage?.any (·.platform = "whatsapp")) = true ∧
      Machine.EachStep CoveredSend last.trace := by
  have sends : ((Machine.System.boot (World.initial ∅
      (NaviFleet.runFleet NaviFleet.phoneHost NaviFleet.phoneBinding ∅))).play phoneTurn).map
      (fun last => last.trace.any fun event =>
        event.op.sentMessage?.any (·.platform = "whatsapp")) = some true := by
    set_option maxRecDepth 1000 in
    decide
  obtain ⟨last, played, sent⟩ := Option.map_eq_some_iff.mp sends
  refine ⟨last, played, sent, whatsapp_sends_are_covered _ phoneTurn last ?_ played⟩
  intro call started
  simp only [phoneTurn, List.mem_append, List.mem_cons, List.mem_replicate, reduceCtorEq,
    and_false, or_false, Machine.Move.start.injEq] at started
  rw [started]
  rfl

end HarborGate
