import HarborGate.Store.Planned
import HarborGate.Gateway.Effects
import HarborGate.Gateway.Clearance
import HarborGate.Gateway.Inbound

/-!
Which adapter a recovery pass sends a persisted plan through. The plan does not name the adapter
it was made for: recovery reads it off the planned message, from its metadata or its platform.
-/

namespace HarborGate

open Interleave

/-! ## The adapter of a call -/

/-- What a call has read under its route key, after one more operation. -/
def nextRead (read : Option (Option Json)) : (op : Op) → Ans op → Option (Option Json)
  | .resolveRoute _, answer =>
      match answer with
      | .ok stored => read.or (some stored)
      | .error _ => read
  | _, _ => read

/-- The plan that an operation has persisted, with its key. -/
def persisted? : (op : Op) → Ans op → Option (String × OutboundMessage)
  | .persistDeliveryPlan deliveryKey _ outbound _, .ok _ => some (deliveryKey, outbound)
  | _, _ => none

def notifiedRoute (request : NotificationRequest) (read : Option (Option Json)) :
    Except GatewayError Json :=
  if request.routeKey ≠ "" then boundRoute request (read.getD none) else proactiveRoute request

def callRoute (payload : Json) (selection : Option Selection) (read : Option (Option Json)) :
    Option Json :=
  (readNotification payload selection).toOption.bind fun request =>
    (notifiedRoute request read).toOption

/-- The adapter that a call delivers through; a recovery pass is not the origin of a plan. -/
def callAdapter (call : Call) (read : Option (Option Json)) : Option Adapter :=
  match call with
  | .deliver _ adapter _ _ _ => some adapter
  | .notify gateway payload selection =>
      (callRoute payload selection read).bind fun route =>
        findAdapter gateway (routeAdapterName route)
  | .recover _ => none

/-- A notification's route is of the platform that its adapter is named after. -/
def PlatformIsAdapter (call : Call) (read : Option (Option Json)) : Prop :=
  match call with
  | .notify _ payload selection => ∀ route, callRoute payload selection read = some route →
      routePlatform route = routeAdapterName route
  | _ => True

/-- The message that a call plans. -/
def Plans (call : Call) (read : Option (Option Json)) (outbound : OutboundMessage) : Prop :=
  match call with
  | .deliver _ _ planned _ _ => outbound = planned
  | .notify _ payload selection => ∃ request route timestamp,
      readNotification payload selection = .ok request ∧ notifiedRoute request read = .ok route ∧
        outbound = notificationOutbound request route timestamp
  | .recover _ => True

def originProtocol (call : Call) : Protocol Op Ans (Option (Option Json)) where
  allows read
    | .persistDeliveryPlan _ _ outbound _ => Plans call read outbound
    | _ => True
  possible _ _ := True
  next := nextRead

section Programs

variable {call : Call} {read : Option (Option Json)} {digests : Digests}

/-- The contract of a part that plans nothing. -/
def planless : Contract where
  key _ := True
  plan _ := False
  answer _ _ := True
  direct := True
  possible _ _ := True

theorem planless_permits {phase : Phase} {op : Op} (allowed : Allowed planless phase op) :
    (originProtocol call).allows read op := by
  cases allowed with
  | persist plan free own => exact own.elim
  | neutral harmless => cases op <;> trivial
  | _ => trivial

theorem planless_follows {α : Type} {program : Routine α} {phase : Phase} {post : Phase → α → Prop}
    (follows : program.Follows (deliveryProtocol planless) phase post) :
    program.Follows (originProtocol call) read fun _ _ => True :=
  Prog.Follows.transfer (fun _ _ allowed _ => planless_permits allowed) (fun _ _ _ => trivial)
    follows read

theorem deliverOutboundItemsGuarded_plans (gateway : Gateway) (segment : String → String)
    (adapter : Adapter) {outbound : OutboundMessage} (deliveryKey fingerprint : String)
    (plans : Plans call read outbound) :
    Prog.Follows (originProtocol call) read
      (deliverOutboundItemsGuarded gateway segment adapter outbound deliveryKey fingerprint).run
      fun _ _ => True := by
  cases blank : Text.isBlank deliveryKey with
  | true =>
      simp only [deliverOutboundItemsGuarded, blank, if_true]
      split
      · trivial
      · have authorizes := @planless_follows call read _ _ _ _
          (authorizeDeliveryContext_quiet gateway outbound .idle)
        refine Prog.Follows.bindExcept authorizes (fun _ _ _ => trivial) fun after _ _ => ?_
        refine Prog.Follows.liftBind trivial fun answer _ => ?_
        cases answer with
        | ok response => trivial
        | error error => trivial
  | false =>
      simp only [deliverOutboundItemsGuarded, blank, Bool.false_eq_true, if_false]
      cases split_ : splitOutboundItems outbound with
      | error error => trivial
      | ok items =>
          refine Prog.Follows.liftBind plans fun answer _ => ?_
          cases answer with
          | error reason => trivial
          | ok done =>
              refine planless_follows (deliverItems_follows gateway segment adapter items
                (.planned ⟨deliveryKey, fingerprint, items.map (planItem adapter deliveryKey)⟩)
                (.obj []) (Or.inl rfl) ?_)
              exact fun item member => List.mem_map_of_mem member

theorem resolveNotificationRoute_reads (request : NotificationRequest) :
    Prog.Follows (originProtocol call) none (resolveNotificationRoute request).run
      fun read result => ∀ route, result = .ok route → notifiedRoute request read = .ok route := by
  simp only [resolveNotificationRoute, notifiedRoute]
  split
  · refine Prog.Follows.liftBind trivial fun answer _ => ?_
    cases answer with
    | error error =>
        refine Prog.Follows.pure ?_
        rintro route ⟨⟩
    | ok stored => exact Prog.Follows.pure fun route resolved => resolved
  · exact Prog.Follows.pure fun route resolved => resolved

theorem deliverNotification_plans {gateway : Gateway} {request : NotificationRequest} {route : Json}
    {adapter : Adapter} {fingerprint : String}
    (plans : ∀ timestamp, Plans call read (notificationOutbound request route timestamp)) :
    Prog.Follows (originProtocol call) read
      (deliverNotification digests gateway request route adapter fingerprint).run
      fun _ _ => True := by
  simp only [deliverNotification]
  refine Prog.Follows.liftBind trivial fun timestamp _ => ?_
  refine Prog.Follows.routineBind (deliverOutboundItemsGuarded_plans gateway _ adapter _ _
    (plans timestamp)) fun after result _ => ?_
  cases result with
  | ok response =>
      refine Prog.Follows.liftBind trivial fun saved _ => ?_
      cases saved with
      | ok done => trivial
      | error error => trivial
  | error error =>
      dsimp only
      split
      · trivial
      · trivial

theorem plans_propagate_ok {α : Type} {value : α} {next : α → Gate Json}
    (continues : Prog.Follows (originProtocol call) read (next value).run fun _ _ => True) :
    Prog.Follows (originProtocol call) read (propagate (.ok value) >>= next).run fun _ _ => True :=
  continues

theorem deliverOnRoute_plans {gateway : Gateway} {request : NotificationRequest} {route : Json}
    (plans : ∀ timestamp, Plans call read (notificationOutbound request route timestamp)) :
    Prog.Follows (originProtocol call) read (deliverOnRoute digests gateway request route).run
      fun _ _ => True := by
  simp only [deliverOnRoute]
  split
  · trivial
  · split
    · trivial
    · refine Prog.Follows.liftBind trivial fun answer _ => ?_
      cases answer with
      | error error => trivial
      | ok stored =>
          refine plans_propagate_ok ?_
          cases replay request (digests.fingerprint (effectiveRequest request route)) stored with
          | error error => trivial
          | ok answered =>
              refine plans_propagate_ok ?_
              cases answered with
              | some response => trivial
              | none => exact deliverNotification_plans plans

theorem Call.program_plans (call : Call) :
    (call.program digests).Follows (originProtocol call) none fun _ _ => True := by
  cases call with
  | deliver gateway adapter outbound deliveryKey fingerprint =>
      exact deliverOutboundItemsGuarded_plans gateway _ adapter deliveryKey fingerprint rfl
  | notify gateway payload selection =>
      simp only [Call.program, handleNotificationDeliveryFrom]
      cases understood : readNotification payload selection with
      | error error => trivial
      | ok request =>
          refine plans_propagate_ok ?_
          refine Prog.Follows.bindExcept (resolveNotificationRoute_reads request)
            (fun _ _ _ => trivial) fun read route resolved => ?_
          exact deliverOnRoute_plans fun timestamp =>
            ⟨request, route, timestamp, understood, resolved route rfl, rfl⟩
  | recover gateway =>
      have permits : ∀ (phase : Phase) (op : Op), Allowed anyContract phase op →
          ∀ read, (originProtocol (.recover gateway)).allows read op := by
        intro phase op _ read
        cases op <;> trivial
      exact Prog.Follows.transfer permits (fun _ _ _ => trivial)
        (Call.program_follows (.recover gateway)) none

end Programs

/-! ## The first plan under a key -/

section Runs

variable {digests : Digests} {host : FleetHost}

def routeRead (events : List (gatewayMachine digests host).Event) (task : Nat) :
    Option (Option Json) :=
  events.foldl (fun read event =>
    if event.task = task then nextRead read event.op event.answer else read) none

/-- The first message planned under a key. -/
def firstPlanned (events : List (gatewayMachine digests host).Event) (deliveryKey : String) :
    Option OutboundMessage :=
  events.findSome? fun event => (persisted? event.op event.answer).bind fun plan =>
    if plan.1 = deliveryKey then some plan.2 else none

theorem LedgerEffect.planned? {world after : World} {choice : Choice} {op : Op} {answer : Ans op}
    (effect : LedgerEffect world after choice op answer) (deliveryKey : String) :
    after.ledger.planned? deliveryKey =
      (world.ledger.planned? deliveryKey).or ((persisted? op answer).bind fun plan =>
        if plan.1 = deliveryKey then some plan.2 else none) := by
  cases effect with
  | still same silent =>
      have none : persisted? op answer = none := by
        cases op with
        | persistDeliveryPlan key fingerprint outbound items =>
            cases answer with
            | ok done => simp [Op.commits] at silent
            | error error => rfl
        | _ => rfl
      rw [same, none, Option.bind_none, Option.or_none]
  | persistPlan ok =>
      rw [persistDeliveryPlan_planned? ok]
      rename_i key fingerprint outbound items
      by_cases here : deliveryKey = key
      · subst here
        cases records : world.ledger.planned? deliveryKey with
        | none => simp [persisted?]
        | some stored => simp
      · simp [persisted?, here, Ne.symm here]
  | claimMaterialization ok =>
      rw [claimDeliveryMaterialization_planned? ok]
      exact (Option.or_none).symm
  | finishMaterialization ok =>
      rw [finishDeliveryMaterialization_planned? ok]
      exact (Option.or_none).symm
  | claimItem fresh issued ok =>
      rw [claimDeliveryItem_planned? ok]
      exact (Option.or_none).symm
  | recordUpload ok =>
      rw [recordDeliveryItemUpload_planned? ok]
      exact (Option.or_none).symm
  | finishStage ok =>
      rw [finishDeliveryStage_planned? ok]
      exact (Option.or_none).symm
  | finishItem ok =>
      rw [finishDeliveryItem_planned? ok]
      exact (Option.or_none).symm

theorem OutsideMove.apply_planned? (event : OutsideMove) (world : World) (deliveryKey : String) :
    (event.apply host world).ledger.planned? deliveryKey = world.ledger.planned? deliveryKey := by
  cases event with
  | reconcileCache now ttl => exact reconcileDeliveryCache_planned? _ ttl _ _
  | fleet _ | registerRoute _ _ => rfl

/-- Each plan that a task has persisted is one that its call makes of the route it had read. -/
structure PlansTraced (events : List (gatewayMachine digests host).Event) (task : Nat) (call : Call)
    (read : Option (Option Json)) : Prop where
  own : read = routeRead events task
  plans : Machine.EachStep (fun earlier event => event.task = task → ∀ deliveryKey outbound,
    persisted? event.op event.answer = some (deliveryKey, outbound) →
      Plans call (routeRead earlier task) outbound) events

theorem routeRead_concat (events : List (gatewayMachine digests host).Event)
    (event : (gatewayMachine digests host).Event) (task : Nat) :
    routeRead (events ++ [event]) task =
      if event.task = task then nextRead (routeRead events task) event.op event.answer
      else routeRead events task := by
  simp [routeRead]

theorem firstPlanned_concat (events : List (gatewayMachine digests host).Event)
    (event : (gatewayMachine digests host).Event) (deliveryKey : String) :
    firstPlanned (events ++ [event]) deliveryKey = (firstPlanned events deliveryKey).or
      ((persisted? event.op event.answer).bind fun plan =>
        if plan.1 = deliveryKey then some plan.2 else none) := by
  simp only [firstPlanned, List.findSome?_append, List.findSome?_singleton]

theorem PlansTraced.other {events : List (gatewayMachine digests host).Event} {task : Nat}
    {call : Call} {read : Option (Option Json)} (traced : PlansTraced events task call read)
    {event : (gatewayMachine digests host).Event} (other : task ≠ event.task) :
    PlansTraced (events ++ [event]) task call read := by
  refine ⟨?_, traced.plans.concat fun own => absurd own.symm other⟩
  rw [routeRead_concat, if_neg (Ne.symm other)]
  exact traced.own

theorem PlansTraced.step {events : List (gatewayMachine digests host).Event} {call : Call}
    {read : Option (Option Json)} {event : (gatewayMachine digests host).Event}
    (traced : PlansTraced events event.task call read)
    (allowed : (originProtocol call).allows read event.op) :
    PlansTraced (events ++ [event]) event.task call (nextRead read event.op event.answer) := by
  refine ⟨?_, traced.plans.concat fun _ deliveryKey outbound planned => ?_⟩
  · rw [routeRead_concat, if_pos rfl, traced.own]
  · rw [← traced.own]
    obtain ⟨task, op, answer, before, after⟩ := event
    cases op with
    | persistDeliveryPlan key fingerprint message items =>
        cases answer with
        | error error => simp [persisted?] at planned
        | ok done =>
            obtain ⟨rfl, rfl⟩ := Prod.mk.inj (Option.some.inj planned)
            exact allowed
    | _ => simp [persisted?] at planned

theorem plans_traced {routes : Std.TreeMap String Json} {directory : Directory} {world : World}
    {permitted : (gatewayMachine digests host).Move → Prop}
    {phases : List (Call × Option (Option Json))}
    {events : List (gatewayMachine digests host).Event}
    (run : @Machine.Phased Op Ans (Option (Option Json)) (gatewayMachine digests host)
      originProtocol (fun _ => none) permitted (World.initial routes directory) world phases events) :
    (∀ deliveryKey, world.ledger.planned? deliveryKey = firstPlanned events deliveryKey) ∧
      ∀ task call read, phases[task]? = some (call, read) → PlansTraced events task call read := by
  refine Machine.Phased.maintains
    (fun (world : World) events => ∀ deliveryKey,
      world.ledger.planned? deliveryKey = firstPlanned events deliveryKey)
    (fun _ events task call read => PlansTraced events task call read) ?boot ?start ?step ?outside run
  case boot =>
    intro deliveryKey
    simp [Ledger.planned?, World.initial, firstPlanned]
  case start =>
    intro world phases events call _ run _
    have earlier : ∀ event ∈ events, event.task < phases.length := run.trace_tasks
    refine ⟨(Machine.foldl_fresh earlier).symm, ?_⟩
    intro before event after split own
    have member : event ∈ events := by simp [split]
    have bound := earlier event member
    omega
  case step =>
    intro world after phases events task call read op choice answer _ each holder allowed _
      performed planned
    refine ⟨fun deliveryKey => ?_, ?_, ?_⟩
    · rw [firstPlanned_concat, ← planned]
      exact (World.perform_effect performed).planned? deliveryKey
    · exact @PlansTraced.step digests host events call read ⟨task, op, answer, world, after⟩
        (each task call read holder) allowed
    · exact fun other started otherRead different _ old => old.other different
  case outside =>
    intro world events event _ planned
    refine ⟨fun deliveryKey => ?_, fun _ _ _ old => old⟩
    rw [OutsideMove.apply_planned?]
    exact planned deliveryKey

end Runs

/-! ## Replies of inbound turns -/

namespace Inbound

/-- What `handle_inbound` answers a message with, by Beacon or by rule. -/
def IsReply (texts : Texts) (digests : Digests) (adapterName : String) (inbound : InboundMessage)
    (reply : Reply) : Prop :=
  (∃ metadata result, reply = beaconReply texts digests adapterName inbound metadata result) ∨
    ∃ history metadata, reply = fallbackReply digests adapterName inbound history metadata

/-- A delivery as `handle_inbound` hands it over: of a reply, through the adapter it was called
for. -/
def ReplyDelivery (gateway : Gateway) (adapter : Adapter) (outbound : OutboundMessage) : Prop :=
  findAdapter gateway adapter.name = some adapter ∧ ∃ texts digests inbound reply routeKey selection
    timestamp, IsReply texts digests adapter.name inbound reply ∧
      outbound = replyOutbound routeKey selection inbound reply timestamp

theorem IsReply.adapter {texts : Texts} {digests : Digests} {adapterName : String}
    {inbound : InboundMessage} {reply : Reply}
    (answers : IsReply texts digests adapterName inbound reply) :
    JsonMap.get reply.metadata "adapter" = some (.str adapterName) := by
  rcases answers with ⟨metadata, result, rfl⟩ | ⟨history, metadata, rfl⟩
  · rfl
  · rfl

theorem ReplyDelivery.recoveryAdapterName {gateway : Gateway} {adapter : Adapter}
    {outbound : OutboundMessage} (reply : ReplyDelivery gateway adapter outbound)
    (named : Text.isBlank adapter.name = false) :
    HarborGate.recoveryAdapterName outbound = adapter.name := by
  obtain ⟨-, texts, digests, inbound, reply, routeKey, selection, timestamp, answers, rfl⟩ := reply
  have kept : JsonMap.get
      (replyOutbound routeKey selection inbound reply timestamp).metadata "adapter" =
        some (.str adapter.name) := by
    simp only [replyOutbound]
    cases selection with
    | none => simp [optionalField, JsonMap.get_insert, answers.adapter]
    | some selection => simp [optionalField, JsonMap.get_insert, answers.adapter]
  simp [HarborGate.recoveryAdapterName, kept, Json.asStr, Option.filter, named]

/-- The deliveries that a program may ask for. -/
def replyProtocol (gateway : Gateway) : Protocol InboundOp InboundAns Unit where
  allows _
    | .deliver adapter outbound _ _ => ReplyDelivery gateway adapter outbound
    | _ => True
  possible _ _ := True
  next _ _ _ := ()

section Programs

variable {texts : Texts} {digests : Digests} {gateway : Gateway}

theorem replies_propagate {α : Type} {result : Except GatewayError α} {next : α → InboundGate Json}
    (continues : ∀ value, Prog.Follows (replyProtocol gateway) () (next value).run
      fun _ _ => True) :
    Prog.Follows (replyProtocol gateway) () (propagate result >>= next).run fun _ _ => True := by
  cases result with
  | error error => trivial
  | ok value => exact continues value

theorem replies_fromStore {α : Type} {result : Except String α} {next : α → InboundGate Json}
    (continues : ∀ value, Prog.Follows (replyProtocol gateway) () (next value).run
      fun _ _ => True) :
    Prog.Follows (replyProtocol gateway) () (fromStore result >>= next).run fun _ _ => True :=
  replies_propagate continues

theorem converse_replies {adapter : Adapter} (inbound : InboundMessage)
    (selection : Option Selection) (found : findAdapter gateway adapter.name = some adapter) :
    Prog.Follows (replyProtocol gateway) ()
      (converse texts digests gateway adapter inbound selection).run fun _ _ => True := by
  simp only [converse]
  refine replies_propagate fun _ => ?_
  refine Prog.Follows.liftBind trivial fun _ _ => replies_fromStore fun history => ?_
  refine Prog.Follows.liftBind trivial fun _ _ => replies_fromStore fun metadata => ?_
  have replies : Prog.Follows (replyProtocol gateway) ()
      (replyTo texts digests gateway adapter.name inbound selection history metadata).run
      fun _ result => ∀ reply, result = .ok reply →
        IsReply texts digests adapter.name inbound reply := by
    simp only [replyTo]
    split
    · refine Prog.Follows.liftBind trivial fun response _ => ?_
      cases response with
      | error error =>
          rintro reply ⟨⟩
      | ok response =>
          rintro reply ⟨⟩
          exact Or.inl ⟨_, _, rfl⟩
    · rintro reply ⟨⟩
      exact Or.inr ⟨_, _, rfl⟩
  refine Prog.Follows.bindExcept replies (fun _ _ _ => trivial) fun _ reply answers => ?_
  simp only [settleReply]
  refine Prog.Follows.liftBind trivial fun _ _ => replies_fromStore fun _ => ?_
  refine Prog.Follows.liftBind trivial fun _ _ => replies_fromStore fun _ => ?_
  refine Prog.Follows.liftBind trivial fun _ _ => ?_
  refine Prog.Follows.liftBind trivial fun _ _ => ?_
  refine Prog.Follows.liftBind trivial fun _ _ => replies_fromStore fun _ => ?_
  refine Prog.Follows.liftBind trivial fun timestamp _ => ?_
  refine Prog.Follows.liftBind ⟨found, texts, digests, inbound, reply, _, selection, timestamp,
    answers reply rfl, rfl⟩ fun delivered _ => ?_
  cases delivered with
  | error error => trivial
  | ok response => trivial

/-- Every delivery that an inbound message ends in is of a reply, through its adapter. -/
theorem handleInbound_replies (adapterName : String) (payload : Json) :
    Prog.Follows (replyProtocol gateway) ()
      (handleInbound texts digests gateway adapterName payload).run fun _ _ => True := by
  simp only [handleInbound]
  split
  · trivial
  · rename_i adapter found
    have registered : findAdapter gateway adapter.name = some adapter := by
      rw [findAdapter_name found]
      exact found
    refine Prog.Follows.liftBind trivial fun _ _ => replies_propagate fun inbound => ?_
    generalize Text.startsWith (Text.trim inbound.text) "NAVI " = names
    by_cases fleet : inbound.platform = "whatsapp" ∧ gateway.fleet = true
    · rw [if_pos fleet]
      cases names with
      | true =>
          refine Prog.Follows.liftBind trivial fun _ _ => replies_propagate fun _ => ?_
          refine Prog.Follows.liftBind trivial fun _ _ => replies_fromStore fun _ => ?_
          trivial
      | false =>
          refine Prog.Follows.liftBind trivial fun _ _ => replies_propagate fun selection => ?_
          exact converse_replies inbound (some selection) registered
    · rw [if_neg fleet]
      exact converse_replies inbound none registered

end Programs

/-- The names in the gateway's registry. -/
def adapterNames : List String :=
  ["webhook", "feishu", "feishu_mail", "weixin", "whatsapp"]

theorem adapterNames_filled : ∀ name ∈ adapterNames, Text.isBlank name = false := by
  decide

end Inbound

/-! ## Recovery -/

/-- The planned message of a notification does not say which adapter it is for. -/
theorem notificationOutbound_adapter (request : NotificationRequest) (route : Json)
    (timestamp : String) :
    JsonMap.get (notificationOutbound request route timestamp).metadata "adapter" = none := by
  have fields : JsonMap.get (outboundDeliveryMetadata request route) "adapter" = none := by
    simp only [outboundDeliveryMetadata]
    rw [get_optionalField (by decide), get_optionalField (by decide), get_optionalField (by decide),
      get_optionalField (by decide), get_optionalField (by decide)]
    rfl
  simp only [notificationOutbound]
  rw [get_optionalField (by decide)]
  split
  · rw [JsonMap.get_insert, if_neg (by decide)]
    exact fields
  · exact fields

theorem recoveryAdapterName_notification (request : NotificationRequest) (route : Json)
    (timestamp : String) :
    recoveryAdapterName (notificationOutbound request route timestamp) = routePlatform route := by
  rw [recoveryAdapterName, notificationOutbound_adapter]
  rfl

section Recovery

variable {digests : Digests} {host : FleetHost}

/-- Deliveries come from inbound turns, through registered adapters. -/
def RepliesOnly : (gatewayMachine digests host).Move → Prop
  | .start (.deliver gateway adapter outbound _ _) =>
      Inbound.ReplyDelivery gateway adapter outbound ∧ adapter.name ∈ Inbound.adapterNames
  | _ => True

theorem origin_steady : @Machine.Steady Op Ans (Option (Option Json)) (gatewayMachine digests host)
    originProtocol RepliesOnly fun _ => True :=
  ⟨fun _ _ _ _ _ _ _ => ⟨trivial, fun _ => trivial⟩, fun _ _ _ _ => trivial⟩

/-- Recovery finds the adapter of a plan's call exactly where the platform says it. -/
theorem Plans.recovers_iff {call : Call} {read : Option (Option Json)} {outbound : OutboundMessage}
    {adapter : Adapter} {gateway : Gateway} (plans : Plans call read outbound)
    (replies : @RepliesOnly digests host (.start call))
    (used : callAdapter call read = some adapter)
    (registry : gateway.adapters = call.gateway.adapters) :
    findAdapter gateway (recoveryAdapterName outbound) = some adapter ↔
      PlatformIsAdapter call read := by
  have lookup : ∀ name, findAdapter gateway name = findAdapter call.gateway name := by
    intro name
    rw [findAdapter, registry, findAdapter]
  rw [lookup]
  cases call with
  | deliver own through planned deliveryKey fingerprint =>
      obtain rfl : outbound = planned := plans
      obtain rfl := Option.some.inj used
      obtain ⟨reply, listed⟩ := replies
      rw [reply.recoveryAdapterName (Inbound.adapterNames_filled _ listed)]
      exact iff_of_true reply.1 trivial
  | notify own payload selection =>
      obtain ⟨request, route, timestamp, understood, resolved, rfl⟩ := plans
      have routed : callRoute payload selection read = some route := by
        simp [callRoute, understood, resolved, Except.toOption]
      simp only [callAdapter, routed, Option.bind_some] at used
      rw [recoveryAdapterName_notification]
      constructor
      · intro found other same
        obtain rfl := Option.some.inj (routed.symm.trans same)
        exact (findAdapter_name found).symm.trans (findAdapter_name used)
      · intro named
        rw [named route routed]
        exact used
  | recover own => simp [callAdapter] at used

/-- A recovery pass resumes a plan with the adapter of the call that made it exactly if that call
was an inbound turn's or its route's platform is the name of its adapter. -/
theorem recovery_keeps_adapter_iff {routes : Std.TreeMap String Json} {directory : Directory}
    {moves : List (gatewayMachine digests host).Move} {last : (gatewayMachine digests host).System}
    (replies : ∀ move ∈ moves, RepliesOnly move)
    (played : (Machine.System.boot (World.initial routes directory)).play moves = some last)
    {earlier later : List (gatewayMachine digests host).Event}
    {event : (gatewayMachine digests host).Event} (split : last.trace = earlier ++ event :: later)
    {deliveryKey : String} {outbound : OutboundMessage}
    (persisted : persisted? event.op event.answer = some (deliveryKey, outbound))
    (first : firstPlanned earlier deliveryKey = none) {call : Call} {program : Routine Outcome}
    (caller : last.tasks[event.task]? = some (call, program)) {adapter : Adapter}
    (used : callAdapter call (routeRead earlier event.task) = some adapter) {plan : RetryablePlan}
    (pending : plan ∈ retryableDeliveryPlans last.world.ledger) (same : plan.deliveryKey = deliveryKey)
    {gateway : Gateway} (registry : gateway.adapters = call.gateway.adapters) :
    findAdapter gateway (recoveryAdapterName plan.plannedOutbound) = some adapter ↔
      PlatformIsAdapter call (routeRead earlier event.task) := by
  obtain ⟨phases, run, tracks⟩ := Machine.play_phased_boot origin_steady
    (fun call _ => call.program_plans) replies trivial played
  obtain ⟨planned, traced⟩ := plans_traced run
  obtain ⟨read, listed, -⟩ := tracks.follows event.task call program caller
  have plans := (traced event.task call read listed).plans earlier event later split rfl deliveryKey
    outbound persisted
  have kept : last.world.ledger.planned? deliveryKey = some outbound := by
    have front : firstPlanned last.trace deliveryKey = (firstPlanned earlier deliveryKey).or
        (firstPlanned (event :: later) deliveryKey) := by
      rw [split]
      exact List.findSome?_append
    rw [planned, front, first]
    simp [firstPlanned, persisted]
  have message : plan.plannedOutbound = outbound := by
    have taken := retryableDeliveryPlans_planned? pending
    rw [same, kept] at taken
    exact (Option.some.inj taken).symm
  rw [message]
  exact plans.recovers_iff (run.started event.task call read listed) used registry

end Recovery

/-! ## A route of another platform -/

/-- The route that a webhook message leaves behind. -/
def webhookRoute (platform : String) : Json :=
  .obj [("adapter_name", .str "webhook"), ("chat_id", .str "c"), ("platform", .str platform),
    ("route_key", .str "r"), ("session_id", .str "s"), ("status", .str "active"),
    ("user_id", .str "u")]

def routedNotice : Json :=
  .obj [("content", .obj [("body", .str "door open")]),
    ("delivery", .obj [("idempotency_key", .str "k"), ("mode", .str "send")]),
    ("destination", .obj [("route_key", .str "r")]), ("notification_id", .str "n1")]

def routedCall : Call :=
  .notify textGateway routedNotice none

/-- The notice is planned and its process dies. -/
def routedMoves : List (gatewayMachine plainDigests offlineHost).Move :=
  .start routedCall :: List.replicate 4 (.step 0 (smoothChoice 0 ⟨1⟩))

def routedWorld (platform : String) : World :=
  World.initial ((∅ : Std.TreeMap String Json).insert "r" (webhookRoute platform)) ∅

/-- What the run leaves: the plan of its last event, the caller's adapter and the plan that
recovery finds, with the adapter it looks for. -/
def plannedView (last : (gatewayMachine plainDigests offlineHost).System) :
    Option (Nat × Option String) × Bool × Option Adapter × List (String × String) :=
  (last.trace[3]?.map fun event =>
      (event.task, (persisted? event.op event.answer).map Prod.fst),
    (firstPlanned (last.trace.take 3) "k").isNone,
    callAdapter routedCall (routeRead (last.trace.take 3) 0),
    (retryableDeliveryPlans last.world.ledger).map fun plan =>
      (plan.deliveryKey, recoveryAdapterName plan.plannedOutbound))

/-- A notice planned through the webhook adapter, and what recovery looks for. -/
structure RoutedPlan (last : (gatewayMachine plainDigests offlineHost).System)
    (adapterName : String) (plan : RetryablePlan) : Prop where
  origin : ∃ earlier event later outbound program, last.trace = earlier ++ event :: later ∧
    persisted? event.op event.answer = some ("k", outbound) ∧ firstPlanned earlier "k" = none ∧
    last.tasks[event.task]? = some (routedCall, program) ∧
    callAdapter routedCall (routeRead earlier event.task) = some webhookAdapter
  pending : plan ∈ retryableDeliveryPlans last.world.ledger
  key : plan.deliveryKey = "k"
  name : recoveryAdapterName plan.plannedOutbound = adapterName

theorem routedPlan_of_view {last : (gatewayMachine plainDigests offlineHost).System}
    {adapterName : String} {program : Routine Outcome}
    (started : last.tasks[0]? = some (routedCall, program))
    (view : plannedView last =
      (some (0, some "k"), true, some webhookAdapter, [("k", adapterName)])) :
    ∃ plan, RoutedPlan last adapterName plan := by
  simp only [plannedView, Prod.mk.injEq, Option.map_eq_some_iff, Option.isNone_iff_eq_none] at view
  obtain ⟨⟨event, found, task, ⟨key, outbound⟩, persisted, keyed⟩, first, used, pending⟩ := view
  subst keyed
  obtain ⟨bound, same⟩ := List.getElem?_eq_some_iff.mp found
  obtain ⟨plan, rest, listed, kept, -⟩ := List.map_eq_cons_iff.mp pending
  obtain ⟨planKey, name⟩ := Prod.mk.inj kept
  refine ⟨plan, ⟨last.trace.take 3, event, last.trace.drop 4, outbound, program, ?_, persisted,
    first, ?_, ?_⟩, by simp [listed], planKey, name⟩
  · rw [← same, List.getElem_cons_drop, List.take_append_drop]
  · rw [task]
    exact started
  · rw [task]
    exact used

theorem routed_plays (platform : String) {name : String}
    (plays : ((Machine.System.boot (routedWorld platform)).play routedMoves).map (fun last =>
        (last.tasks[0]?.map Prod.fst, plannedView last)) =
      some (some routedCall, some (0, some "k"), true, some webhookAdapter, [("k", name)])) :
    ∃ last plan, (Machine.System.boot (routedWorld platform)).play routedMoves = some last ∧
      RoutedPlan last name plan := by
  obtain ⟨last, played, shown⟩ := Option.map_eq_some_iff.mp plays
  obtain ⟨tasks, view⟩ := Prod.mk.inj shown
  obtain ⟨⟨call, program⟩, started, same⟩ := Option.map_eq_some_iff.mp tasks
  dsimp only at same
  subst same
  obtain ⟨plan, routed⟩ := routedPlan_of_view started view
  exact ⟨last, plan, played, routed⟩

/-- A webhook message of platform `slack` left the route; recovery looks for a `slack` adapter. -/
theorem slack_plan_is_not_resumed : ∃ last plan,
    (Machine.System.boot (routedWorld "slack")).play routedMoves = some last ∧
      RoutedPlan last "slack" plan ∧
      findAdapter textGateway (recoveryAdapterName plan.plannedOutbound) ≠ some webhookAdapter := by
  obtain ⟨last, plan, played, routed⟩ := routed_plays "slack" (by rfl)
  refine ⟨last, plan, played, routed, ?_⟩
  rw [routed.name]
  decide

theorem webhook_plan_is_resumed : ∃ last plan read,
    (Machine.System.boot (routedWorld "webhook")).play routedMoves = some last ∧
      RoutedPlan last "webhook" plan ∧
      (findAdapter textGateway (recoveryAdapterName plan.plannedOutbound) = some webhookAdapter ↔
        PlatformIsAdapter routedCall read) := by
  obtain ⟨last, plan, played, routed⟩ := routed_plays "webhook" (by rfl)
  obtain ⟨earlier, event, later, outbound, program, split, persisted, first, caller, used⟩ :=
    routed.origin
  refine ⟨last, plan, routeRead earlier event.task, played, routed,
    recovery_keeps_adapter_iff ?_ played split persisted first caller used routed.pending
      routed.key rfl⟩
  intro move member
  rcases List.mem_cons.mp member with rfl | stepped
  · trivial
  · rw [List.eq_of_mem_replicate stepped]
    trivial

end HarborGate
