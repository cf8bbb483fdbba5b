import HarborGate.Gateway.Delivery

/-!
The callers of a delivery in `gateway.rs`: `handle_notification_delivery_from` with the pure
functions that turn a payload into an outbound message, and `retry_pending_deliveries`.
-/

namespace HarborGate

open Interleave

/-! ## Reading the payload -/

def strField (fields : JsonMap) (name : String) : String :=
  Text.trim (((JsonMap.get fields name).bind Json.asStr).getD "")

def notificationTraceId (payload : Json) : String :=
  Text.trim ((((payload.pointer ["notification", "trace_id"]).bind Json.asStr).or
    ((payload.get "trace_id").bind Json.asStr)).getD "")

def notificationId (payload : Json) : String :=
  Text.trim ((((payload.pointer ["notification", "notification_id"]).bind Json.asStr).or
    ((payload.get "notification_id").bind Json.asStr)).getD "")

def validateDeliveryMode (mode replyToMessageId updateMessageId traceId : String) :
    Except GatewayError Unit :=
  let fail (message : String) : Except GatewayError Unit :=
    .error ((GatewayError.validation message).withTrace traceId)
  if mode ≠ "send" ∧ mode ≠ "reply" ∧ mode ≠ "update" then
    fail "delivery.mode must be send, reply, or update"
  else if mode = "send" ∧ (replyToMessageId ≠ "" ∨ updateMessageId ≠ "") then
    fail "delivery.mode=send requires empty reply_to_message_id and update_message_id"
  else if mode = "reply" ∧ (replyToMessageId = "" ∨ updateMessageId ≠ "") then
    fail "delivery.mode=reply requires reply_to_message_id and forbids update_message_id"
  else if mode = "update" ∧ (updateMessageId = "" ∨ replyToMessageId ≠ "") then
    fail "delivery.mode=update requires update_message_id and forbids reply_to_message_id"
  else .ok ()

def deliveryContent (payload : Json) : Json :=
  match (payload.get "content").bind Json.asObject with
  | some content =>
      let content := JsonMap.insert content "attachments"
        ((payload.get "artifacts").getD ((JsonMap.get content "attachments").getD (.arr [])))
      .obj (JsonMap.insert content "delivery_hints"
        ((payload.get "delivery_hints").getD ((JsonMap.get content "delivery_hints").getD (.arr []))))
  | none =>
      let reply := ((payload.get "reply").bind Json.asObject).getD []
      let text (name fallback : String) : Json :=
        .str (((JsonMap.get reply name).bind Json.asStr).getD fallback)
      .obj [("attachments", (payload.get "artifacts").getD (.arr [])),
        ("body", text "text" ""),
        ("delivery_hints", (payload.get "delivery_hints").getD (.arr [])),
        ("payload_format", text "payload_format" "plain_text"),
        ("structured_payload", (JsonMap.get reply "structured_payload").getD (.obj [])),
        ("title", text "title" "")]

def textOf (content : Json) (name : String) : String :=
  Text.trim (((content.get name).bind Json.asStr).getD "")

def notificationText (content : Json) : String :=
  let title := textOf content "title"
  let body := textOf content "body"
  if title ≠ "" ∧ body ≠ "" then title ++ "\n\n" ++ body
  else if body ≠ "" then body
  else title

/-! ## Attachments named by delivery hints -/

def hintArtifactId (artifact : Json) : Option String :=
  Text.trimmed ((artifact.get "artifact_id").bind Json.asStr)

def artifactMediaLocation (artifact : Json) : Option String :=
  (Text.trimmed ((artifact.get "path").bind Json.asStr)).or
    (Text.trimmed ((artifact.get "url").bind Json.asStr))

def hasMimeLead (artifact : Json) (lead : String) : Bool :=
  ((artifact.get "mime_type").bind Json.asStr).any (Text.startsWith · lead)

/-- Marks an artifact object for the file fallback, unless its metadata is no object. -/
def markFileFallback : Json → Json
  | .obj fields =>
      match (JsonMap.get fields "metadata").getD (.obj []) with
      | .obj metadata =>
          .obj (JsonMap.insert fields "metadata"
            (.obj (JsonMap.insert metadata "native_attachment_fallback" (.str "file"))))
      | _ => .obj fields
  | other => other

/-- The video that one hint selects, with its artifact id. -/
def hintedVideo (artifacts : List Json) (hint : Json) : Option (String × Json) := do
  guard ((hint.get "kind").bind Json.asStr = some "native_video" ∧
    (hint.get "fallback").bind Json.asStr = some "file")
  let artifactId ← Text.trimmed ((hint.get "artifact_id").bind Json.asStr)
  let artifact ← artifacts.find? fun artifact => hintArtifactId artifact = some artifactId
  guard (hasMimeLead artifact "video/" ∧ (artifactMediaLocation artifact).isSome)
  return (artifactId, markFileFallback artifact)

def hintedNativeVideos (artifacts : List Json) (payload : Json) : List Json :=
  (((payload.get "delivery_hints").bind Json.asArray).getD []).foldl (fun selected hint =>
    match hintedVideo artifacts hint with
    | none => selected
    | some (artifactId, artifact) =>
        if selected.any fun existing => hintArtifactId existing = some artifactId then selected
        else selected ++ [artifact]) []

/-- `Value::as_u64`. -/
def asU64 (value : Json) : Option Nat :=
  (value.asInt.filter fun number => 0 ≤ number ∧ number < 2 ^ 64).map Int.toNat

def nativeImageLimit (payload : Json) : Option Nat := do
  let hints ← (payload.get "delivery_hints").bind Json.asArray
  let hint ← hints.find? fun hint =>
    (hint.get "kind").bind Json.asStr = some "native_image" ∨
      (hint.get "kind").bind Json.asStr = some "native_images"
  let raw := ((((hint.get "max_items").or (hint.pointer ["metadata", "max_items"])).or
    (hint.pointer ["metadata", "limit"])).bind asU64).getD 3
  return min (max raw 1) 3

def hintedNotificationAttachments (content : Json) : List Json :=
  let artifacts := ((content.get "attachments").bind Json.asArray).getD []
  let images := artifacts.filter fun artifact =>
    hasMimeLead artifact "image/" && (artifactMediaLocation artifact).isSome
  hintedNativeVideos artifacts content ++
    match nativeImageLimit content with
    | some limit => images.take limit
    | none => []

/-! ## The request as the gateway understands it -/

/-- The fields that `handle_notification_delivery_from` reads off its payload. -/
structure NotificationRequest where
  payload : Json
  selection : Option Selection
  traceId : String
  notificationId : String
  destination : JsonMap
  mode : String
  idempotencyKey : String
  replyToMessageId : String
  updateMessageId : String
  routeKey : String

def NotificationRequest.content (request : NotificationRequest) : Json :=
  deliveryContent request.payload

/-- The checks on the payload that come before any lookup. -/
def readNotification (payload : Json) (selection : Option Selection) :
    Except GatewayError NotificationRequest := do
  let traceId := notificationTraceId payload
  let fail {α : Type} (message : String) : Except GatewayError α :=
    .error ((GatewayError.validation message).withTrace traceId)
  let notificationId := notificationId payload
  if notificationId = "" then fail "notification_id is required"
  else
    match (payload.get "destination").bind Json.asObject with
    | none => fail "destination must be an object"
    | some destination =>
        match (payload.get "delivery").bind Json.asObject with
        | none => fail "delivery must be an object"
        | some delivery => do
            let mode := Text.toLowercase (strField delivery "mode")
            let idempotencyKey := strField delivery "idempotency_key"
            let replyToMessageId := strField delivery "reply_to_message_id"
            let updateMessageId := strField delivery "update_message_id"
            validateDeliveryMode mode replyToMessageId updateMessageId traceId
            if idempotencyKey = "" then fail "delivery.idempotency_key is required"
            else
              return {
                routeKey := strField destination "route_key"
                payload, selection, traceId, notificationId, destination, mode, idempotencyKey,
                replyToMessageId, updateMessageId }

/-- The route of a destination with a route key, as the route table has it. -/
def boundRoute (request : NotificationRequest) (stored : Option Json) : Except GatewayError Json :=
  match stored with
  | none =>
      .error ((GatewayError.new 404 "ROUTE_NOT_FOUND"
        ("route_key not found: " ++ request.routeKey)).withTrace request.traceId)
  | some route =>
      if ((route.get "status").bind Json.asStr).getD "active" = "expired" then
        .error ((GatewayError.new 410 "ROUTE_EXPIRED"
          ("route_key expired: " ++ request.routeKey)).withTrace request.traceId)
      else
        let fields := JsonMap.insert (JsonMap.insert (route.asObject.getD []) "route_mode"
          (.str "source_bound")) "route_source" (.str "route_key")
        if (JsonMap.get fields "adapter_name").isSome then .ok (.obj fields)
        else .ok (.obj (JsonMap.insert fields "adapter_name"
          ((JsonMap.get fields "platform").getD .null)))

/-- The route of a destination that names platform and recipient itself. -/
def proactiveRoute (request : NotificationRequest) : Except GatewayError Json :=
  let destination := request.destination
  let recipient := ((JsonMap.get destination "recipient").bind Json.asObject).getD []
  let recipientText (name : String) := (JsonMap.get recipient name).bind Json.asStr
  let platform := Text.trim ((((JsonMap.get destination "platform").bind Json.asStr).or
    (recipientText "platform")).getD "")
  let chatId := Text.trim ((((((JsonMap.get destination "id").bind Json.asStr).or
    (recipientText "recipient_id")).or (recipientText "email")).or
    (recipientText "mail_address")).getD "")
  if platform = "" ∨ chatId = "" then
    .error ((GatewayError.validation
      "destination.route_key is preferred; otherwise destination.platform with destination.id or destination.recipient is required").withTrace
      request.traceId)
  else
    .ok (.obj [("adapter_name", .str platform), ("chat_id", .str chatId),
      ("platform", .str platform), ("route_mode", .str "proactive"),
      ("route_source",
        .str (if (JsonMap.get destination "id").isSome then "platform_id" else "recipient")),
      ("status", .str "active")])

def resolveNotificationRoute (request : NotificationRequest) : Gate Json :=
  if request.routeKey ≠ "" then do
    let stored ← propagate ((← ask (.resolveRoute request.routeKey)).mapError fun error =>
      (storeFailure error).withTrace request.traceId)
    propagate (boundRoute request stored)
  else propagate (proactiveRoute request)

def routeAdapterName (route : Json) : String :=
  Text.trim ((((route.get "adapter_name").or (route.get "platform")).bind Json.asStr).getD "")

def routePlatform (route : Json) : String :=
  ((route.get "platform").bind Json.asStr).getD (routeAdapterName route)

def isWhatsappRoute (route : Json) : Bool :=
  (route.index "platform").asStr = some "whatsapp"

def effectiveRequest (request : NotificationRequest) (route : Json) : Json :=
  let fields : JsonMap :=
    [("content", request.content),
      ("delivery", .obj [("mode", .str request.mode),
        ("reply_to_message_id", .str request.replyToMessageId),
        ("update_message_id", .str request.updateMessageId)]),
      ("destination", .obj [("chat_id", (route.get "chat_id").getD .null),
        ("platform", (route.get "platform").getD .null),
        ("recipient", (JsonMap.get request.destination "recipient").getD .null),
        ("route_key", .str request.routeKey)]),
      ("notification_id", .str request.notificationId),
      ("trace_id", .str request.traceId)]
  let fields :=
    if isWhatsappRoute route then
      JsonMap.insert fields "conversation" ((request.payload.get "conversation").getD .null)
    else fields
  match request.selection with
  | some selection => .obj (JsonMap.insert fields "navi_selection" selection.toJson)
  | none => .obj fields

def optionalField (fields : JsonMap) (name : String) (value : Option Json) : JsonMap :=
  match value with
  | some value => JsonMap.insert fields name value
  | none => fields

theorem get_optionalField {fields : JsonMap} {name query : String} {value : Option Json}
    (other : name ≠ query) :
    JsonMap.get (optionalField fields name value) query = JsonMap.get fields query := by
  cases value with
  | none => rfl
  | some value => simp [optionalField, JsonMap.get_insert, other]

theorem get_optionalField_self {fields : JsonMap} {name : String} {value : Option Json} :
    JsonMap.get (optionalField fields name value) name = value.or (JsonMap.get fields name) := by
  cases value with
  | none => rfl
  | some value => simp [optionalField, JsonMap.get_insert]

def outboundDeliveryMetadata (request : NotificationRequest) (route : Json) : JsonMap :=
  let content := request.content
  let fields : JsonMap :=
    [("delivery_mode", .str request.mode),
      ("idempotency_key", .str request.idempotencyKey),
      ("mail_dedupe_key", .str request.idempotencyKey),
      ("notification_id", .str request.notificationId),
      ("payload_format", (content.get "payload_format").getD (.str "plain_text")),
      ("reply_to_message_id", .str request.replyToMessageId),
      ("route_key", .str request.routeKey),
      ("route_mode", (route.get "route_mode").getD (.str "unknown")),
      ("route_source", (route.get "route_source").getD (.str "unknown")),
      ("source", .str "notification_delivery"),
      ("structured_payload", (content.get "structured_payload").getD (.obj [])),
      ("trace_id", .str request.traceId),
      ("update_message_id", .str request.updateMessageId)]
  let fields := optionalField fields "recipient" (JsonMap.get request.destination "recipient")
  let fields := optionalField fields "mail_recipients"
    ((content.get "recipients").or (content.pointer ["structured_payload", "recipients"]))
  let fields := optionalField fields "mail_subject"
    ((some (textOf content "title")).filter (· ≠ "") |>.map Json.str)
  let fields := optionalField fields "mail_body_plain_text"
    ((some (textOf content "body")).filter (· ≠ "") |>.map Json.str)
  optionalField fields "mail_body_html"
    ((Text.trimmed (((((content.pointer ["structured_payload", "html_body"]).or
      (content.pointer ["structured_payload", "body_html"])).or (content.get "html_body")).or
      (content.get "body_html")).bind Json.asStr)).map Json.str)

def notificationOutbound (request : NotificationRequest) (route : Json) (timestamp : String) :
    OutboundMessage :=
  let platform := routePlatform route
  let metadata := outboundDeliveryMetadata request route
  let metadata :=
    if platform = "whatsapp" then
      JsonMap.insert metadata "conversation_handle"
        ((request.payload.pointer ["conversation", "handle"]).getD .null)
    else metadata
  let metadata := optionalField metadata "navi_selection"
    (request.selection.map Selection.toJson)
  { platform
    chatId := ((route.get "chat_id").bind Json.asStr).getD ""
    text := notificationText request.content
    attachments := hintedNotificationAttachments request.content
    timestamp
    metadata }

/-! ## The answer -/

/-- The digests of the `sha2` crate the gateway uses: of a JSON value's canonical text, and of
a text cut to a length behind a label. -/
structure Digests where
  fingerprint : Json → String
  stableId : String → String → Nat → String

/-- The message id that a live answer reports. -/
def liveMessageId (response : Json) : String :=
  Text.trim ((((response.get "message_id").or (response.get "provider_message_id")).bind
    Json.asStr).getD "")

def sentResponse (digests : Digests) (request : NotificationRequest) (route response : Json) : Json :=
  .obj [("delivery_id", .str (digests.stableId "delivery_" request.idempotencyKey 24)),
    ("error", .null),
    ("notification_id", .str request.notificationId),
    ("ok", .bool true),
    ("platform", .str (routePlatform route)),
    ("provider_message_id",
      if liveMessageId response = "" then .null else .str (liveMessageId response)),
    ("retryable", .bool false),
    ("status", .str (((response.get "placeholder_status").bind Json.asStr).getD "sent")),
    ("trace_id", .str request.traceId)]

def failedResponse (digests : Digests) (request : NotificationRequest) (route : Json)
    (error : GatewayError) : Json :=
  let (code, retryable) := mapDeliveryFailure error.message
  .obj [("delivery_id", .str (digests.stableId "delivery_" request.idempotencyKey 24)),
    ("error", .obj [("code", .str code), ("message", .str error.message)]),
    ("notification_id", .str request.notificationId),
    ("ok", .bool false),
    ("platform", .str (routePlatform route)),
    ("provider_message_id", (error.deliveryFailure.map Json.ofOption).getD .null),
    ("retryable", .bool retryable),
    ("status", .str "failed"),
    ("trace_id", .str request.traceId)]

def classifyDeliveryAttempt (route response : Json) : Json :=
  let ok := ((response.get "ok").bind Json.asBool).getD false
  let retryable := ((response.get "retryable").bind Json.asBool).getD false
  let failureClass :=
    if ok then ""
    else ((response.pointer ["error", "code"]).bind Json.asStr).getD "INTERNAL_ERROR"
  .obj [("failure_class", .str failureClass),
    ("outcome", .str (if ok then "sent" else "failed")),
    ("queue_state",
      .str (if ok then "complete" else if retryable then "retry_queue" else "terminal_failure")),
    ("retryable", .bool retryable),
    ("route_mode", .str (((route.get "route_mode").bind Json.asStr).getD "unknown")),
    ("route_source", .str (((route.get "route_source").bind Json.asStr).getD "unknown"))]

def idempotencyConflict : GatewayError :=
  GatewayError.new 409 "IDEMPOTENCY_CONFLICT"
    "delivery.idempotency_key was reused with a different effective request"

/-- A stored answer that allows another attempt. -/
def isRetryableFailure (response : Json) : Bool :=
  ((response.get "ok").bind Json.asBool).any (!·) &&
    ((response.get "retryable").bind Json.asBool).getD false

/-- The answer that a stored record gives at once, if any. -/
def replay (request : NotificationRequest) (fingerprint : String)
    (stored : Option DeliveryRecord) : Except GatewayError (Option Json) :=
  match stored with
  | none => .ok none
  | some record =>
      if record.requestFingerprint ≠ fingerprint then
        .error (idempotencyConflict.withTrace request.traceId)
      else if isRetryableFailure record.responsePayload then .ok none
      else .ok (some record.responsePayload)

def findAdapter (gateway : Gateway) (name : String) : Option Adapter :=
  gateway.adapters.find? (·.name = name)

/-- The delivery itself and the answer built from its outcome. -/
def deliverNotification (digests : Digests) (gateway : Gateway) (request : NotificationRequest)
    (route : Json) (adapter : Adapter) (fingerprint : String) : Gate Json := do
  let timestamp ← ask .utcNowIso
  match ← attempt (deliverOutboundItemsGuarded gateway (digests.stableId "delivery-" · 24) adapter
      (notificationOutbound request route timestamp) request.idempotencyKey fingerprint) with
  | .ok response =>
      let payload := sentResponse digests request route response
      propagate ((← ask (.saveDeliveryRecord request.idempotencyKey
        { requestFingerprint := fingerprint
          responsePayload := payload
          classification := classifyDeliveryAttempt route payload })).mapError fun error =>
        (storeFailure error).withTrace request.traceId)
      return payload
  | .error error =>
      if error.code = "IDEMPOTENCY_CONFLICT" then throw (error.withTrace request.traceId)
      else return failedResponse digests request route error

/-- The part of `handle_notification_delivery_from` after the route is known. -/
def deliverOnRoute (digests : Digests) (gateway : Gateway) (request : NotificationRequest)
    (route : Json) : Gate Json := do
  let name := routeAdapterName route
  match findAdapter gateway name with
  | none =>
      throw ((GatewayError.validation ("No adapter is enabled for outbound platform route: " ++
        if name = "" then "unknown" else name)).withTrace request.traceId)
  | some adapter =>
      if isWhatsappRoute route ∧ gateway.fleet ∧ request.selection.isNone then
        throw (GatewayError.new 503 "NAVI_REMOTE_NOTIFICATION_REQUIRED"
          "Navi notifications require their originating device connection")
      else
        let fingerprint := digests.fingerprint (effectiveRequest request route)
        let stored ← propagate ((← ask (.loadDeliveryRecord request.idempotencyKey)).mapError
          fun error => (storeFailure error).withTrace request.traceId)
        match ← propagate (replay request fingerprint stored) with
        | some response => return response
        | none => deliverNotification digests gateway request route adapter fingerprint

def handleNotificationDeliveryFrom (digests : Digests) (gateway : Gateway) (payload : Json)
    (selection : Option Selection) : Gate Json := do
  let request ← propagate (readNotification payload selection)
  let route ← resolveNotificationRoute request
  deliverOnRoute digests gateway request route

/-! ## Recovery -/

def recoveryAdapterName (outbound : OutboundMessage) : String :=
  (((outbound.metadata.get "adapter").bind Json.asStr).filter (!Text.isBlank ·)).getD
    outbound.platform

def retryPlans (digests : Digests) (gateway : Gateway) : List RetryablePlan → Nat → Routine Nat
  | [], attempted => return attempted
  | plan :: rest, attempted =>
      match findAdapter gateway (recoveryAdapterName plan.plannedOutbound) with
      | none => retryPlans digests gateway rest attempted
      | some adapter => do
          -- A failed delivery is only logged; the pass goes on.
          let _ ← (deliverOutboundItemsGuarded gateway (digests.stableId "delivery-" · 24) adapter
            plan.plannedOutbound plan.deliveryKey plan.requestFingerprint).run
          retryPlans digests gateway rest (attempted + 1)

def retryPendingDeliveries (digests : Digests) (gateway : Gateway) : Gate Nat := do
  let plans ← fromStore (← ask .retryableDeliveryPlans)
  ExceptT.lift (retryPlans digests gateway plans 0)

/-! ## The machine -/

/-- A call into some gateway process. Every inbound turn ends in a `deliver`, and a Navi poll
makes `notify` calls with the selection it polled for. -/
inductive Call
  | deliver (gateway : Gateway) (adapter : Adapter) (outbound : OutboundMessage)
      (deliveryKey fingerprint : String)
  | notify (gateway : Gateway) (payload : Json) (selection : Option Selection)
  | recover (gateway : Gateway)

abbrev Outcome := Except GatewayError Json

def Call.program (digests : Digests) : Call → Routine Outcome
  | .deliver gateway adapter outbound deliveryKey fingerprint =>
      (deliverOutboundItemsGuarded gateway (digests.stableId "delivery-" · 24) adapter outbound
        deliveryKey fingerprint).run
  | .notify gateway payload selection =>
      (handleNotificationDeliveryFrom digests gateway payload selection).run
  | .recover gateway => do
      let attempted ← (retryPendingDeliveries digests gateway).run
      return attempted.map fun count => .num count

end HarborGate
