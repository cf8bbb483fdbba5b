import HarborGate.Gateway.Notification
import HarborGate.Server.Inbox
import HarborGate.Store.Sessions

/-!
`handle_inbound` and `handle_gateway_turn` of `gateway.rs`: programs over the session files, the
routes and Beacon. The delivery that ends an inbound turn is one operation here, since it touches
neither sessions nor routes.
-/

namespace HarborGate

namespace Inbound

open Interleave

/-- Pure text functions that the answers go through: two JSON writers, the rendering of a reply
and the choice of its native attachments. -/
structure Texts where
  canonicalJson : Json → String
  compactJson : Json → String
  renderRetrievalReply : String → Json → Bool → String
  nativeSourceBoundAttachments : String → Json → List Json

def ifEmptyThen (text fallback : String) : String :=
  if Text.isBlank text then fallback else text

def strOf (value : Option Json) : String :=
  (value.bind Json.asStr).getD ""

/-! ## The request to Beacon and its answer -/

def deriveRouteKey (digests : Digests) (inbound : InboundMessage) : String :=
  if Text.isBlank inbound.routeKey then
    digests.stableId "gw_route_" (inbound.platform ++ "|" ++ inbound.chatId) 20
  else Text.trim inbound.routeKey

def deriveSessionId (digests : Digests) (inbound : InboundMessage) : String :=
  if Text.isBlank inbound.sessionId then
    digests.stableId "gw_sess_" (inbound.platform ++ "|" ++ inbound.chatId ++ "|" ++ inbound.userId) 20
  else Text.trim inbound.sessionId

def eventFingerprint (texts : Texts) (digests : Digests) (inbound : InboundMessage) : String :=
  let source (id : String) : String := inbound.platform ++ "|" ++ inbound.chatId ++ "|" ++ id
  if inbound.platform = "whatsapp" ∧ ¬Text.isBlank inbound.messageId then
    texts.compactJson (.arr [.str inbound.platform, .str (deriveRouteKey digests inbound),
      .str inbound.messageId])
  else if ¬Text.isBlank inbound.messageId then source inbound.messageId
  else
    match ["message_id", "msg_id", "event_id", "client_id"].findSome? fun key =>
        ((inbound.rawPayload.get key).bind Json.asStr).filter (!Text.isBlank ·) with
    | some id => source id
    | none => source (texts.canonicalJson (.obj [("chat_id", .str inbound.chatId),
        ("platform", .str inbound.platform), ("raw_payload", inbound.rawPayload),
        ("text", .str inbound.text), ("timestamp", .str inbound.timestamp),
        ("user_id", .str inbound.userId)]))

/-- The request of `build_turn_request`, with the fields that are read again when Beacon answers. -/
structure TurnRequest where
  inbound : InboundMessage
  turnId : String
  traceId : String
  routeKey : String
  conversationHandle : Option String
  continuation : Option Json

def buildTurnRequest (texts : Texts) (digests : Digests) (inbound : InboundMessage)
    (metadata : JsonMap) : TurnRequest :=
  let event := eventFingerprint texts digests inbound
  { inbound
    turnId := digests.stableId "turn_" event 24
    traceId := digests.stableId "trace_" ("trace|" ++ event) 24
    routeKey := deriveRouteKey digests inbound
    conversationHandle :=
      ((JsonMap.get metadata "conversation_handle").bind Json.asStr).filter (!Text.isBlank ·)
    continuation := (JsonMap.get metadata "continuation").filter Json.isObject }

/-- `apply_channel_turn_overrides`, as far as the fields kept here go. -/
def applyChannelTurnOverrides (payload : Json) (request : TurnRequest) : TurnRequest :=
  { request with
    turnId := (Text.trimmed ((payload.pointer ["turn", "turn_id"]).bind Json.asStr)).getD
      request.turnId
    traceId := (Text.trimmed ((payload.pointer ["turn", "trace_id"]).bind Json.asStr)).getD
      request.traceId }

structure TaskTurnResult where
  text : String
  taskId : String
  traceId : String
  status : String
  routeKey : String
  conversationHandle : Option String
  continuation : Option Json
  activeFrame : Option Json
  nextActions : List String
  responsePayload : Json

def continuationFromActiveFrame (activeFrame turn : Option Json) : Option Json := do
  let frame ← activeFrame
  let token ← Text.trimmed ((frame.get "continuation_token").bind Json.asStr)
  return .obj [("expires_at", (frame.get "expires_at").getD .null),
    ("frame_id", .str (strOf (frame.get "frame_id"))),
    ("reply_to_turn_id", .str (strOf (turn.bind (·.get "turn_id")))),
    ("token", .str token)]

def mapTurnResponse (request : TurnRequest) (response : Json) : TaskTurnResult :=
  let part (name : String) : Option Json := (response.get name).filter Json.isObject
  let field (name key : String) : Option String :=
    ((part name).bind (·.get key)).bind Json.asStr
  { text := Text.trim (((field "reply" "text").or (field "error" "message")).getD
      "HarborBeacon returned an empty reply.")
    taskId := (field "turn" "turn_id").getD request.turnId
    traceId := (field "turn" "trace_id").getD request.traceId
    status := (field "turn" "status").getD "completed"
    routeKey := request.routeKey
    conversationHandle := (field "conversation" "handle").filter (!Text.isBlank ·)
    continuation := continuationFromActiveFrame (part "active_frame") (part "turn")
    activeFrame := part "active_frame"
    nextActions := ((((part "active_frame").bind (·.get "expected_reply")).bind
      Json.asArray).getD []).filterMap fun item => item.asStr.filter (!Text.isBlank ·)
    responsePayload := response }

/-! ## The operations -/

inductive InboundOp
  | normalizeInbound (adapter : String) (payload : Json)
  | fleetBegin (inbound : InboundMessage)
  | fleetSelect (inbound : InboundMessage)
  | loadHistory (platform key : String)
  | loadMetadata (platform key : String)
  | postTurn (request : TurnRequest)
  | setMetadata (platform key : String) (metadata : JsonMap)
  | registerRoute (routeKey : String) (route : Json)
  | appendTurns (platform key : String) (turns : List ConversationTurn)
  | deliver (adapter : Adapter) (outbound : OutboundMessage) (deliveryKey fingerprint : String)
  | utcNowIso

abbrev InboundAns : InboundOp → Type
  | .normalizeInbound _ _ => Except GatewayError InboundMessage
  | .fleetBegin _ => Except GatewayError Unit
  | .fleetSelect _ => Except GatewayError Selection
  | .loadHistory _ _ => Except String (List ConversationTurn)
  | .loadMetadata _ _ => Except String JsonMap
  | .postTurn _ => Except GatewayError Json
  | .setMetadata _ _ _ => Except String Unit
  | .registerRoute _ _ => Except String Unit
  | .appendTurns _ _ _ => Except String Unit
  | .deliver _ _ _ _ => Except GatewayError Json
  | .utcNowIso => String

abbrev InboundGate (α : Type) := Fallible GatewayError InboundOp InboundAns α

def ask (op : InboundOp) : InboundGate (InboundAns op) :=
  ExceptT.lift (Prog.perform op)

def propagate {α : Type} (result : Except GatewayError α) : InboundGate α :=
  ExceptT.mk (pure result)

/-- `map_err(|err| GatewayError::infrastructure(err.to_string()))`. -/
def fromStore {α : Type} (result : Except String α) : InboundGate α :=
  propagate (result.mapError GatewayError.infrastructure)

/-! ## `handle_inbound` -/

def adapterRoute (routeKey adapterName sessionId : String) (inbound : InboundMessage) : Json :=
  .obj [("adapter_name", .str adapterName), ("chat_id", .str inbound.chatId),
    ("platform", .str inbound.platform), ("route_key", .str routeKey),
    ("session_id", .str sessionId), ("status", .str "active"), ("user_id", .str inbound.userId)]

/-- The session that a turn belongs to: the chat, or the chat with its selected device. -/
def sessionKey (texts : Texts) (digests : Digests) (selection : Option Selection)
    (inbound : InboundMessage) : String :=
  match selection with
  | none => inbound.chatId
  | some selection =>
      digests.stableId "" (texts.compactJson (.arr [.str inbound.routeKey, .str inbound.chatId,
        .str selection.hubId, .str selection.generation])) 64

def resolvedRouteKey (digests : Digests) (inbound : InboundMessage) (metadata : JsonMap) : String :=
  ifEmptyThen (ifEmptyThen (Text.trim inbound.routeKey)
    (Text.trim (strOf (JsonMap.get metadata "route_key")))) (deriveRouteKey digests inbound)

def resolvedSessionId (digests : Digests) (inbound : InboundMessage) : String :=
  ifEmptyThen (Text.trim inbound.sessionId) (deriveSessionId digests inbound)

/-- What a turn leaves: the reply with its attachments, the metadata of the outbound message and
the metadata of the session. -/
structure Reply where
  text : String
  attachments : List Json
  metadata : JsonMap
  nextMetadata : JsonMap

def messageTurnIds (metadata : JsonMap) : JsonMap :=
  ((JsonMap.get metadata "message_turn_ids").bind Json.asObject).getD []

def removeKey (fields : JsonMap) (key : String) : JsonMap :=
  fields.filter (·.1 ≠ key)

/-- The session metadata after a turn, as both entry points write it. -/
def turnMetadata (routeKey sessionId : String) (inbound : InboundMessage) (result : TaskTurnResult)
    (metadata : JsonMap) : JsonMap :=
  let next := JsonMap.insert metadata "route_key" (.str routeKey)
  let next := JsonMap.insert next "session_id" (.str sessionId)
  let next := JsonMap.insert next "last_turn_id" (.str result.taskId)
  let next := JsonMap.insert next "last_trace_id" (.str result.traceId)
  let next :=
    if Text.isBlank inbound.messageId then next
    else JsonMap.insert next "last_message_id" (.str inbound.messageId)
  let next := optionalField next "conversation_handle" (result.conversationHandle.map Json.str)
  match result.continuation with
  | some continuation => JsonMap.insert next "continuation" continuation
  | none => removeKey next "continuation"

def beaconMetadata (digests : Digests) (adapterName : String) (result : TaskTurnResult)
    (attachments : List Json) : JsonMap :=
  [("active_frame", result.activeFrame.getD .null),
    ("adapter", .str adapterName),
    ("continuation", result.continuation.getD .null),
    ("conversation_handle", Json.ofOption result.conversationHandle),
    ("delivery_request_fingerprint", .str (digests.fingerprint result.responsePayload)),
    ("native_attachment_count", .num attachments.length),
    ("native_attachment_materialize_failed", .num 0),
    ("next_actions", .arr (result.nextActions.map Json.str)),
    ("route_key", .str result.routeKey),
    ("source", .str "harborbeacon"),
    ("status", .str result.status),
    ("task_id", .str result.taskId),
    ("trace_id", .str result.traceId),
    ("turn_id", .str result.taskId)]

def beaconReply (texts : Texts) (digests : Digests) (adapterName : String)
    (inbound : InboundMessage) (metadata : JsonMap) (result : TaskTurnResult) : Reply :=
  let attachments := texts.nativeSourceBoundAttachments adapterName result.responsePayload
  let next := turnMetadata result.routeKey (resolvedSessionId digests inbound) inbound result metadata
  { text := texts.renderRetrievalReply result.text result.responsePayload (!attachments.isEmpty)
    attachments
    metadata := beaconMetadata digests adapterName result attachments
    nextMetadata :=
      if Text.isBlank inbound.messageId then next
      else JsonMap.insert next "message_turn_ids"
        (.obj (JsonMap.insert (messageTurnIds metadata) inbound.messageId (.str result.taskId))) }

def fallbackReply (digests : Digests) (adapterName : String) (inbound : InboundMessage)
    (history : List ConversationTurn) (metadata : JsonMap) : Reply where
  text := (if history.isEmpty then "收到：" else "继续收到：") ++ inbound.text
  attachments := []
  metadata := [("adapter", .str adapterName), ("source", .str "rule_based_fallback")]
  nextMetadata :=
    JsonMap.insert (JsonMap.insert metadata "route_key"
      (.str (resolvedRouteKey digests inbound metadata))) "session_id"
      (.str (resolvedSessionId digests inbound))

def replyOutbound (routeKey : String) (selection : Option Selection) (inbound : InboundMessage)
    (reply : Reply) (timestamp : String) : OutboundMessage where
  platform := inbound.platform
  chatId := inbound.chatId
  text := reply.text
  attachments := reply.attachments
  timestamp := timestamp
  metadata := optionalField (JsonMap.insert reply.metadata "route_key" (.str routeKey))
    "navi_selection" (selection.map Selection.toJson)

def outboundDeliveryKey (outbound : OutboundMessage) : String :=
  strOf (JsonMap.get outbound.metadata "turn_id")

def outboundFingerprint (digests : Digests) (outbound : OutboundMessage) : String :=
  ifEmptyThen (strOf (JsonMap.get outbound.metadata "delivery_request_fingerprint"))
    (digests.fingerprint (.obj [("turn_id", .str (outboundDeliveryKey outbound))]))

/-- The client of a selected device; its identity is checked before use. -/
def selectedClient (selection : Option Selection) : Except GatewayError Unit := do
  match selection with
  | none => return ()
  | some selection =>
      NaviFleet.ensure (NaviFleet.validIdentity selection.hubIdentity)
        (GatewayError.validation "Invalid Navi relay request")
      NaviFleet.ensure (NaviFleet.validHubId selection.hubId)
        (GatewayError.validation "Invalid selected Navi")

/-- The reply of Beacon, or the rule-based one where there is no Beacon. -/
def replyTo (texts : Texts) (digests : Digests) (gateway : Gateway) (adapterName : String)
    (inbound : InboundMessage) (selection : Option Selection) (history : List ConversationTurn)
    (metadata : JsonMap) : InboundGate Reply := do
  if selection.isSome ∨ gateway.taskClient then
    let request := buildTurnRequest texts digests inbound metadata
    let response ← propagate (← ask (.postTurn request))
    return beaconReply texts digests adapterName inbound metadata (mapTurnResponse request response)
  else return fallbackReply digests adapterName inbound history metadata

/-- What `handle_inbound` does with a reply: the session, the route, the history, the delivery. -/
def settleReply (digests : Digests) (adapter : Adapter) (inbound : InboundMessage)
    (selection : Option Selection) (key routeKey : String) (reply : Reply) : InboundGate Json := do
  fromStore (← ask (.setMetadata inbound.platform key reply.nextMetadata))
  fromStore (← ask (.registerRoute routeKey
    (adapterRoute routeKey adapter.name (resolvedSessionId digests inbound) inbound)))
  let asked ← ask .utcNowIso
  let answered ← ask .utcNowIso
  fromStore (← ask (.appendTurns inbound.platform key
    [⟨"user", inbound.text, asked⟩, ⟨"assistant", reply.text, answered⟩]))
  let timestamp ← ask .utcNowIso
  let outbound := replyOutbound routeKey selection inbound reply timestamp
  propagate (← ask (.deliver adapter outbound (outboundDeliveryKey outbound)
    (outboundFingerprint digests outbound)))

/-- `handle_inbound` once the message is normalised and its device is known. -/
def converse (texts : Texts) (digests : Digests) (gateway : Gateway) (adapter : Adapter)
    (inbound : InboundMessage) (selection : Option Selection) : InboundGate Json := do
  let key := sessionKey texts digests selection inbound
  propagate (selectedClient selection)
  let history ← fromStore (← ask (.loadHistory inbound.platform key))
  let metadata ← fromStore (← ask (.loadMetadata inbound.platform key))
  let reply ← replyTo texts digests gateway adapter.name inbound selection history metadata
  settleReply digests adapter inbound selection key (resolvedRouteKey digests inbound metadata) reply

def handleInbound (texts : Texts) (digests : Digests) (gateway : Gateway) (adapterName : String)
    (payload : Json) : InboundGate Json := do
  match findAdapter gateway adapterName with
  | none => throw (GatewayError.validation ("Unknown adapter: " ++ adapterName))
  | some adapter =>
      let inbound ← propagate (← ask (.normalizeInbound adapterName payload))
      if inbound.platform = "whatsapp" ∧ gateway.fleet then
        if Text.startsWith (Text.trim inbound.text) "NAVI " then
          propagate (← ask (.fleetBegin inbound))
          fromStore (← ask (.registerRoute inbound.routeKey
            (adapterRoute inbound.routeKey adapterName inbound.sessionId inbound)))
          return .obj [("accepted", .bool true), ("status", .str "awaiting_navi_confirmation")]
        else
          let selection ← propagate (← ask (.fleetSelect inbound))
          converse texts digests gateway adapter inbound (some selection)
      else converse texts digests gateway adapter inbound none

/-! ## `handle_gateway_turn` -/

def firstString (payload : Json) (pointers : List (List String)) : Option String :=
  pointers.findSome? fun path => Text.trimmed ((payload.pointer path).bind Json.asStr)

/-- `stamp` is the time that stands in for a missing `occurred_at`. -/
def gatewayTurnToInbound (texts : Texts) (digests : Digests) (stamp : String) (payload : Json) :
    Except GatewayError InboundMessage := do
  let channel := (firstString payload [["conversation", "channel"], ["channel"], ["surface"],
    ["transport", "channel"]]).getD "webui"
  let threadId := (firstString payload [["conversation", "thread_id"], ["thread_id"],
    ["session_id"], ["transport", "session_id"], ["actor", "user_id"]]).getD
      (digests.stableId "thread_" (texts.canonicalJson payload) 16)
  let userId := (firstString payload [["actor", "user_id"], ["user_id"], ["open_id"]]).getD
    "anonymous"
  let text ← match firstString payload [["input", "text"], ["text"], ["message", "text"]] with
    | some text => .ok text
    | none => .error (GatewayError.validation "input.text is required")
  let metadata := JsonMap.insert
    (((payload.pointer ["transport", "metadata"]).bind Json.asObject).getD []) "source"
    (.str "gateway_turn")
  return {
    platform := channel
    chatId := threadId
    userId
    text
    messageId := (firstString payload [["transport", "message_id"], ["message_id"],
      ["turn", "turn_id"]]).getD ""
    chatType := (firstString payload [["conversation", "chat_type"], ["chat_type"]]).getD "p2p"
    routeKey := (firstString payload [["transport", "route_key"], ["route_key"]]).getD ""
    sessionId := (firstString payload [["transport", "session_id"], ["session_id"]]).getD ""
    mentions := []
    attachments := ((payload.pointer ["input", "parts"]).bind Json.asArray).getD []
    metadata := optionalField metadata "surface"
      ((Text.trimmed ((payload.pointer ["conversation", "surface"]).bind Json.asStr)).map Json.str)
    timestamp := (firstString payload [["turn", "occurred_at"]]).getD stamp
    rawPayload := payload }

def dlnaCommand (text : String) : Bool :=
  let text := Text.toAsciiLowercase (String.ofList (text.toList.dropWhile Text.isWhitespace))
  match Text.stripLead text "/dlna" with
  | none => false
  | some suffix =>
      match suffix.toList with
      | [] => true
      | c :: _ => Text.isWhitespace c || c = '/'

def rejectUnboundDlnaTurn (payload : Json) : Except GatewayError Unit :=
  let structured := [["intent", "domain"], ["domain"], ["transport", "metadata", "intent", "domain"],
    ["transport", "metadata", "domain"]].any fun path =>
      ((payload.pointer path).bind Json.asStr).any fun domain =>
        Text.toAsciiLowercase (Text.trim domain) = "dlna"
  let command := (firstString payload [["input", "text"], ["text"], ["message", "text"]]).any dlnaCommand
  NaviFleet.ensure (!(structured || command)) (GatewayError.new 403 "DLNA_MEMBER_BINDING_REQUIRED"
    "DLNA control requires a verified Home and member binding")

/-- The stored metadata with what the client's payload says of the conversation. -/
def channelMetadata (payload : Json) (metadata : JsonMap) : JsonMap :=
  let metadata := optionalField metadata "conversation_handle"
    ((Text.trimmed ((payload.pointer ["conversation", "handle"]).bind Json.asStr)).map Json.str)
  optionalField metadata "continuation" ((payload.get "continuation").filter Json.isObject)

def channelRoute (routeKey sessionId : String) (inbound : InboundMessage) : Json :=
  .obj [("adapter_name", .str inbound.platform), ("chat_id", .str inbound.chatId),
    ("platform", .str inbound.platform), ("route_key", .str routeKey),
    ("route_mode", .str "channel_edge"), ("route_source", .str "gateway_turn"),
    ("session_id", .str sessionId), ("status", .str "active"), ("user_id", .str inbound.userId)]

def handleGatewayTurn (texts : Texts) (digests : Digests) (gateway : Gateway) (payload : Json) :
    InboundGate Json := do
  if gateway.taskClient then
    let stamp ← ask .utcNowIso
    let inbound ← propagate (gatewayTurnToInbound texts digests stamp payload)
    if inbound.platform = "whatsapp" ∧ gateway.fleet then
      throw (GatewayError.validation "Use the official WhatsApp inbox for Navi conversations")
    else
      propagate (rejectUnboundDlnaTurn payload)
      let stored ← fromStore (← ask (.loadMetadata inbound.platform inbound.chatId))
      let metadata := channelMetadata payload stored
      let request := applyChannelTurnOverrides payload
        (buildTurnRequest texts digests inbound metadata)
      let response ← propagate (← ask (.postTurn request))
      let result := mapTurnResponse request response
      let routeKey := ifEmptyThen (Text.trim result.routeKey) (deriveRouteKey digests inbound)
      let sessionId := deriveSessionId digests inbound
      fromStore (← ask (.setMetadata inbound.platform inbound.chatId
        (turnMetadata routeKey sessionId inbound result metadata)))
      fromStore (← ask (.registerRoute routeKey (channelRoute routeKey sessionId inbound)))
      let asked ← ask .utcNowIso
      let answered ← ask .utcNowIso
      fromStore (← ask (.appendTurns inbound.platform inbound.chatId
        [⟨"user", inbound.text, asked⟩, ⟨"assistant", result.text, answered⟩]))
      return result.responsePayload
  else throw (GatewayError.new 503 "HARBORBEACON_DISABLED"
    "HarborBeacon turn forwarding is not configured")

end Inbound

end HarborGate
