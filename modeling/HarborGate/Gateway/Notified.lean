import HarborGate.Gateway.Fencing

/-!
Runs of notification calls that share an idempotency key. The route table does not change during
such a run, so each call has one effective request, and requests with one fingerprint make plans
that agree on what has to be materialized.
-/

namespace HarborGate

open Interleave

/-- The route of a request by the table in `world`. -/
def routeIn (world : World) (request : NotificationRequest) : Except GatewayError Json :=
  if request.routeKey ≠ "" then boundRoute request (world.resolveRoute request.routeKey)
  else proactiveRoute request

/-- The call is a notification, understood as `request` and sent along `route`. -/
def Sends (origin : World) : Call → NotificationRequest → Json → Prop
  | .notify _ payload selection, request, route =>
      readNotification payload selection = .ok request ∧ routeIn origin request = .ok route
  | _, _, _ => False

def Requests (origin : World) (call : Call) (effective : Json) : Prop :=
  ∃ request route, Sends origin call request route ∧ effectiveRequest request route = effective

theorem Sends.unique {origin : World} {call : Call} {request other : NotificationRequest}
    {route taken : Json} (sends : Sends origin call request route)
    (again : Sends origin call other taken) : request = other ∧ route = taken := by
  cases call with
  | notify gateway payload selection =>
      obtain ⟨read, routed⟩ := sends
      obtain ⟨readAgain, routedAgain⟩ := again
      obtain rfl := Except.ok.inj (read.symm.trans readAgain)
      exact ⟨rfl, Except.ok.inj (routed.symm.trans routedAgain)⟩
  | deliver _ _ _ _ _ | recover _ => exact sends.elim

theorem Requests.unique {origin : World} {call : Call} {effective different : Json}
    (requests : Requests origin call effective) (again : Requests origin call different) :
    effective = different := by
  obtain ⟨request, route, sends, rfl⟩ := requests
  obtain ⟨other, taken, sendsAgain, rfl⟩ := again
  obtain ⟨rfl, rfl⟩ := sends.unique sendsAgain
  rfl

/-! ## What an effective request determines -/

section Effective

variable {request other : NotificationRequest} {route taken : Json}

theorem effectiveRequest_get (name : String) (plain : "conversation" ≠ name ∧ "navi_selection" ≠ name) :
    (effectiveRequest request route).get name =
      JsonMap.get [("content", request.content),
        ("delivery", .obj [("mode", .str request.mode),
          ("reply_to_message_id", .str request.replyToMessageId),
          ("update_message_id", .str request.updateMessageId)]),
        ("destination", .obj [("chat_id", (route.get "chat_id").getD .null),
          ("platform", (route.get "platform").getD .null),
          ("recipient", (JsonMap.get request.destination "recipient").getD .null),
          ("route_key", .str request.routeKey)]),
        ("notification_id", .str request.notificationId),
        ("trace_id", .str request.traceId)] name := by
  have inserted : ∀ (whatsapp : Bool) (fields : JsonMap) (value : Json),
      (if whatsapp = true then fields.insert "conversation" value else fields).get name =
        fields.get name := by
    intro whatsapp fields value
    split
    · rw [JsonMap.get_insert, if_neg plain.1]
    · rfl
  simp only [effectiveRequest]
  split
  · simp only [Json.get, Json.asObject, Option.bind_some]
    rw [JsonMap.get_insert, if_neg plain.2, inserted]
  · simp only [Json.get, Json.asObject, Option.bind_some]
    rw [inserted]

/-- The fields of the request and of its route that can be read off the effective request. -/
structure SameRequest (request other : NotificationRequest) (route taken : Json) : Prop where
  content : request.content = other.content
  notificationId : request.notificationId = other.notificationId
  traceId : request.traceId = other.traceId
  routeKey : request.routeKey = other.routeKey
  platform : (route.get "platform").getD .null = (taken.get "platform").getD .null

theorem effectiveRequest_same (same : effectiveRequest request route = effectiveRequest other taken) :
    SameRequest request other route taken := by
  have field := fun (name : String) (plain : "conversation" ≠ name ∧ "navi_selection" ≠ name) =>
    (effectiveRequest_get name plain).symm.trans
      ((congrArg (Json.get · name) same).trans (effectiveRequest_get name plain))
  have content := field "content" (by decide)
  have destination := field "destination" (by decide)
  have notification := field "notification_id" (by decide)
  have trace := field "trace_id" (by decide)
  simp [JsonMap.get] at content destination notification trace
  exact ⟨content, notification, trace, destination.2.2.2, destination.2.1⟩

/-- A route from the table does not depend on the rest of the request. -/
theorem boundRoute_ok {stored : Option Json} (ok : boundRoute request stored = .ok route)
    (okOther : boundRoute other stored = .ok taken) : route = taken := by
  cases stored with
  | none => simp [boundRoute] at ok
  | some entry =>
      simp only [boundRoute] at ok okOther
      split at ok
      · simp at ok
      rename_i active
      rw [if_neg active] at okOther
      exact Except.ok.inj (ok.symm.trans okOther)

theorem proactiveRoute_names (ok : proactiveRoute request = .ok route) :
    ∃ platform, route.get "platform" = some (.str platform) ∧ routePlatform route = platform ∧
      routeAdapterName route = Text.trim platform := by
  simp only [proactiveRoute] at ok
  split at ok
  · simp at ok
  · obtain rfl := Except.ok.inj ok
    exact ⟨_, rfl, rfl, rfl⟩

/-- Calls of one effective request use the same adapter and name the same platform. -/
theorem SameRequest.names {origin : World} (same : SameRequest request other route taken)
    (routed : routeIn origin request = .ok route) (routedOther : routeIn origin other = .ok taken) :
    routeAdapterName route = routeAdapterName taken ∧ routePlatform route = routePlatform taken := by
  simp only [routeIn, same.routeKey] at routed routedOther
  split at routed
  · rename_i bound
    rw [if_pos bound] at routedOther
    rw [boundRoute_ok routed routedOther]
    exact ⟨rfl, rfl⟩
  · rename_i proactive
    rw [if_neg proactive] at routedOther
    obtain ⟨platform, named, isPlatform, isAdapter⟩ := proactiveRoute_names routed
    obtain ⟨otherPlatform, otherNamed, otherIsPlatform, otherIsAdapter⟩ :=
      proactiveRoute_names routedOther
    have platforms := same.platform
    simp only [named, otherNamed, Option.getD_some, Json.str.injEq] at platforms
    subst platforms
    exact ⟨isAdapter.trans otherIsAdapter.symm, isPlatform.trans otherIsPlatform.symm⟩

theorem Sends.routed {origin : World} {call : Call} (sends : Sends origin call request route) :
    routeIn origin request = .ok route := by
  cases call with
  | notify gateway payload selection => exact sends.2
  | deliver _ _ _ _ _ | recover _ => exact sends.elim

theorem SameRequest.sentResponse {origin : World} {digests : Digests} {response : Json}
    (same : SameRequest request other route taken) (routed : routeIn origin request = .ok route)
    (routedOther : routeIn origin other = .ok taken)
    (keys : request.idempotencyKey = other.idempotencyKey) :
    sentResponse digests request route response = sentResponse digests other taken response := by
  simp only [HarborGate.sentResponse, keys, same.notificationId, same.traceId,
    (same.names routed routedOther).2]

end Effective

/-! ## The contract of a notification -/

/-- The route table answers as it did at the start. -/
def RouteAnswers (origin : World) : (op : Op) → Ans op → Prop
  | .resolveRoute routeKey, .ok stored => stored = origin.resolveRoute routeKey
  | _, _ => True

section Contract

variable {digests : Digests} {host : FleetHost}

/-- Every call of the run is a notification under `key`. Routes stay as they are; fleets move, and
a starting process may reconcile its cache. -/
def NotifiesUnder (key : String) : (gatewayMachine digests host).Move → Prop
  | .start (.notify _ payload selection) =>
      ∀ request, readNotification payload selection = .ok request → request.idempotencyKey = key
  | .start _ => False
  | .step _ _ => True
  | .outside (.registerRoute _ _) => False
  | .outside _ => True

/-- Different effective requests of the run have different digests. -/
def CollisionFree (origin : World) (moves : List (gatewayMachine digests host).Move) : Prop :=
  ∀ call other effective different, .start call ∈ moves → .start other ∈ moves →
    Requests origin call effective → Requests origin other different →
    digests.fingerprint effective = digests.fingerprint different → effective = different

def notifyContract (origin : World) (moves : List (gatewayMachine digests host).Move)
    (key : String) (call : Call) : Contract where
  key name := name = key
  plan plan := ∃ request route adapter timestamp items, .start call ∈ moves ∧
    Sends origin call request route ∧ adapter.name = routeAdapterName route ∧
    splitOutboundItems (notificationOutbound request route timestamp) = .ok items ∧
    plan = ⟨key, digests.fingerprint (effectiveRequest request route),
      items.map (planItem adapter key)⟩
  answer response payload := ∃ request route, .start call ∈ moves ∧
    Sends origin call request route ∧ request.idempotencyKey = key ∧
    payload = sentResponse digests request route response
  direct := False
  possible := RouteAnswers origin

/-- The items that some notification of the run marks for materialization. -/
def RequiredBy (origin : World) (moves : List (gatewayMachine digests host).Move)
    (deliveryKey fingerprint itemKey : String) : Prop :=
  ∃ call request route timestamp items item, .start call ∈ moves ∧
    Sends origin call request route ∧
    digests.fingerprint (effectiveRequest request route) = fingerprint ∧
    splitOutboundItems (notificationOutbound request route timestamp) = .ok items ∧
    item ∈ items ∧ deliveryItemKey deliveryKey item.identity = itemKey ∧
    deliveryItemRequiresMaterialization (routeAdapterName route) item.outbound = true

variable {origin : World} {moves : List (gatewayMachine digests host).Move} {key : String}
  {call : Call}

theorem notifyContract_consistent {plan : Plan} (distinct : CollisionFree origin moves)
    (own : (notifyContract origin moves key call).plan plan) :
    plan.Consistent (RequiredBy origin moves) := by
  obtain ⟨request, route, adapter, timestamp, items, started, sends, named, split, rfl⟩ := own
  intro planned member
  obtain ⟨item, itemMember, rfl⟩ := List.mem_map.mp member
  simp only [planItem, named]
  constructor
  · intro marked
    exact ⟨call, request, route, timestamp, items, item, started, sends, rfl, split, itemMember,
      rfl, marked⟩
  · rintro ⟨other, message, taken, again, others, twin, otherStarted, otherSends, digest,
      otherSplit, twinMember, twinKey, marked⟩
    have effective := distinct other call _ _ otherStarted started ⟨message, taken, otherSends, rfl⟩
      ⟨request, route, sends, rfl⟩ digest
    have same := effectiveRequest_same effective
    have text : (notificationOutbound request route timestamp).text =
        (notificationOutbound message taken again).text := by
      simp only [notificationOutbound, same.content]
    have attachments : (notificationOutbound request route timestamp).attachments =
        (notificationOutbound message taken again).attachments := by
      simp only [notificationOutbound, same.content]
    have twins := splitOutboundItems_attachments text attachments split otherSplit itemMember
      twinMember (deliveryItemKey_injective twinKey).symm
    rw [deliveryItemRequiresMaterialization_congr _ twins,
      ← (same.names otherSends.routed sends.routed).1]
    exact marked

/-! ## Runs -/

/-- How a notification call ends, by the phase it ends in. -/
def NotifyEnd (digests : Digests) (origin : World) (call : Call) (phase : Phase)
    (result : Outcome) : Prop :=
  phase = .idle ∧ isSent result = false ∨ ∃ request route, Sends origin call request route ∧
    NotifyDone (digests.fingerprint (effectiveRequest request route)) phase result

theorem notify_follows
    (under : NotifiesUnder key (.start call : (gatewayMachine digests host).Move))
    (started : .start call ∈ moves) :
    (call.program digests).Follows (deliveryProtocol (notifyContract origin moves key call)) .idle
      (NotifyEnd digests origin call) := by
  cases call with
  | deliver _ _ _ _ _ | recover _ => exact under.elim
  | notify gateway payload selection =>
      have sends : ∀ request route,
          Delivers (notifyContract origin moves key (.notify gateway payload selection)) payload
            selection request route →
          Sends origin (.notify gateway payload selection) request route := by
        rintro request route ⟨read, resolves⟩
        refine ⟨read, ?_⟩
        simp only [Resolves] at resolves
        simp only [routeIn]
        split at resolves
        · rename_i bound
          obtain ⟨stored, rfl, routed⟩ := resolves
          rw [if_pos bound, routed]
        · rename_i proactive
          rw [if_neg proactive, resolves]
      refine (handleNotificationDeliveryFrom_follows ?_).mono ?_
      · intro request route delivers
        have keyed := under request delivers.1
        refine ⟨keyed, ?_, ?_⟩
        · intro adapter timestamp items named split
          rw [keyed]
          exact ⟨request, route, adapter, timestamp, items, started, sends _ _ delivers, named,
            split, rfl⟩
        · exact fun response => ⟨request, route, started, sends _ _ delivers, keyed, rfl⟩
      · rintro phase result (unsent | ⟨request, route, delivers, done⟩)
        · exact Or.inl unsent
        · exact Or.inr ⟨request, route, sends _ _ delivers, done⟩

/-- The runs of notifications under one key, as runs of the delivery protocol. -/
theorem notify_run {last : (gatewayMachine digests host).System}
    (under : ∀ move ∈ moves, NotifiesUnder key move)
    (played : (Machine.System.boot origin).play moves = some last) :
    ∃ phases, DeliveryRun digests host (notifyContract origin moves key) (· ∈ moves) origin
        last.world phases last.trace ∧
      Machine.Tracks (fun call => deliveryProtocol (notifyContract origin moves key call))
        (NotifyEnd digests origin) phases last := by
  have steady : @Machine.Steady Op Ans Phase (gatewayMachine digests host)
      (fun call => deliveryProtocol (notifyContract origin moves key call)) (· ∈ moves)
      (fun world => world.routes = origin.routes) := by
    constructor
    · intro world op choice answer after same performed
      have evolves := World.perform_evolves performed
      refine ⟨evolves.routes.trans same, fun call => ?_⟩
      cases op with
      | resolveRoute routeKey =>
          cases answer with
          | error error => trivial
          | ok stored =>
              simp only [World.perform] at performed
              split at performed
              · simp at performed
              · simp only [Option.some.injEq, Prod.mk.injEq, World.orFailure] at performed
                have looked := performed.1
                split at looked
                · simp at looked
                · show stored = _
                  rw [← Except.ok.inj looked, World.resolveRoute, World.resolveRoute, same]
      | _ => trivial
    · intro world event member same
      cases event with
      | registerRoute routeKey route => exact (under _ member).elim
      | reconcileCache now ttl => exact same
      | fleet step => exact same
  exact Machine.play_phased_boot steady
    (fun call started => notify_follows (under _ started) started) (fun _ member => member) rfl
    played

end Contract

end HarborGate
