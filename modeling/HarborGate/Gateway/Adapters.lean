import HarborGate.Models
import HarborGate.Lib.Result

/-!
How each adapter turns a payload into an `InboundMessage` (`normalize_inbound`). `stamp` is the
reading of `utc_now_iso`; parsing of JSON text, `stable_id` and the date format are given.
-/

namespace HarborGate

namespace Adapters

abbrev Normalized := Except GatewayError InboundMessage

def refuse {α : Type} (message : String) : Except GatewayError α :=
  .error (.validation message)

/-- The idiom `.and_then(Value::as_str).unwrap_or("").trim()`. -/
def textOf (value : Option Json) : String :=
  Text.trim ((value.bind Json.asStr).getD "")

def strField (fields : JsonMap) (key : String) : Option String :=
  Text.trimmed ((fields.get key).bind Json.asStr)

def valueArray (value : Option Json) : List Json :=
  ((value.bind Json.asArray).getD []).filter Json.isObject

def metadataField (fields : JsonMap) : JsonMap :=
  ((fields.get "metadata").bind Json.asObject).getD []

/-! ## Webhook -/

def Webhook.normalizeInbound (stamp : String) (payload : Json) : Normalized :=
  match payload.asObject with
  | none => refuse "Payload must be a JSON object"
  | some fields =>
      let chatId := (strField fields "chat_id").getD ""
      let text := (strField fields "text").getD ""
      if Text.trim chatId = "" then refuse "Payload must include chat_id"
      else if Text.trim text = "" then refuse "Payload must include text"
      else .ok {
        platform := (strField fields "platform").getD "webhook"
        chatId
        userId := (strField fields "user_id").getD "anonymous"
        text
        messageId := (strField fields "message_id").getD ""
        chatType := (strField fields "chat_type").getD "p2p"
        routeKey := (strField fields "route_key").getD ""
        sessionId := (strField fields "session_id").getD ""
        mentions := valueArray (fields.get "mentions")
        attachments := valueArray (fields.get "attachments")
        metadata := metadataField fields
        timestamp := stamp
        rawPayload := .obj fields }

/-! ## Feishu -/

structure FeishuConfig where
  allowedUsers : List String
  groupPolicy : String
  botOpenId : String
  botUserId : String
  botName : String
  verificationToken : String

namespace Feishu

def isUrlVerification (payload : Json) : Bool :=
  textOf (payload.get "type") == "url_verification"

def validateCallback (config : FeishuConfig) (payload : Json) : Except GatewayError Unit :=
  let expected := Text.trim config.verificationToken
  let received := Text.trim ((((payload.get "token").bind Json.asStr).or
    ((payload.pointer ["header", "token"]).bind Json.asStr)).getD "")
  if expected = "" then .ok ()
  else if received = "" ∧ ¬isUrlVerification payload then .ok ()
  else if received ≠ expected then refuse "Feishu callback token validation failed"
  else .ok ()

def mentionOf (config : FeishuConfig) (mention : Json) : Bool :=
  let text (value : Option Json) := (value.bind Json.asStr).getD ""
  (config.botOpenId != "" && text (mention.pointer ["id", "open_id"]) == config.botOpenId) ||
    (config.botUserId != "" && text (mention.pointer ["id", "user_id"]) == config.botUserId) ||
    (config.botName != "" && text (mention.get "name") == config.botName)

def messageMentionsBot (config : FeishuConfig) (rawContent : String) (mentions : List Json) : Bool :=
  Text.contains rawContent "@_all" || mentions.any (mentionOf config)

def enforceAccessPolicy (config : FeishuConfig) (chatType sender rawContent : String)
    (mentions : List Json) : Except GatewayError Unit :=
  if config.allowedUsers ≠ [] ∧ sender ∉ config.allowedUsers then
    refuse "Feishu sender is not in FEISHU_ALLOWED_USERS"
  else if chatType = "p2p" then .ok ()
  else if config.groupPolicy = "disabled" then
    refuse "Feishu group messages are disabled by FEISHU_GROUP_POLICY"
  else if ¬messageMentionsBot config rawContent mentions then
    refuse "Feishu group messages must explicitly @mention the bot"
  else .ok ()

def normalizeCompactPayload (config : FeishuConfig) (stamp : String) (payload : Json) :
    Normalized :=
  match payload.asObject with
  | none => refuse "Feishu payload must be a JSON object"
  | some fields => do
      let chatId := (strField fields "chat_id").getD ""
      let userId := (strField fields "user_id").getD ""
      let text := (strField fields "text").getD ""
      let chatType := (strField fields "chat_type").getD "p2p"
      if chatId = "" then refuse "Feishu payload must include chat_id"
      if userId = "" then refuse "Feishu payload must include user_id"
      if text = "" then refuse "Feishu payload must include text"
      enforceAccessPolicy config chatType userId
        (((fields.get "raw_content").bind Json.asStr).getD text) (valueArray (fields.get "mentions"))
      return {
        platform := "feishu"
        chatId
        userId
        text
        messageId := (strField fields "message_id").getD ""
        chatType
        routeKey := (strField fields "route_key").getD ""
        sessionId := (strField fields "session_id").getD ""
        mentions := valueArray (fields.get "mentions")
        attachments := valueArray (fields.get "attachments")
        metadata := metadataField fields
        timestamp := stamp
        rawPayload := payload }

def normalizeCardAction (stamp : String) (payload : Json) : Normalized := do
  let operator := (payload.pointer ["event", "operator", "operator_id", "open_id"]).bind Json.asStr
  let sender := Text.trim ((operator.or
    ((payload.pointer ["event", "operator", "operator_id", "user_id"]).bind Json.asStr)).getD "")
  let chatId := textOf (payload.pointer ["event", "context", "open_chat_id"])
  let value := (payload.pointer ["event", "action", "value", "command"]).bind Json.asStr
  let command := Text.trim ((value.or
    ((payload.pointer ["event", "action", "value", "text"]).bind Json.asStr)).getD "")
  if chatId = "" then refuse "Feishu card action is missing open_chat_id"
  if sender = "" then refuse "Feishu card action is missing operator open_id/user_id"
  if command = "" then refuse "Feishu card action is missing command"
  return {
    platform := "feishu"
    chatId
    userId := sender
    text := command
    messageId := textOf (payload.pointer ["header", "event_id"])
    chatType := "p2p"
    routeKey := ""
    sessionId := ""
    mentions := []
    attachments := [.obj [("kind", .str "card_action"), ("provider", .str "feishu")]]
    metadata := []
    timestamp := stamp
    rawPayload := payload }

def parseMessageContent (parseJson : String → Option Json) (value : Json) : JsonMap :=
  match value with
  | .obj fields => fields
  | .str text =>
      ((parseJson text).bind Json.asObject).getD
        (if Text.trim text = "" then [] else [("text", .str text)])
  | _ => []

/-- The text and attachments of a message by its `message_type`. -/
def messageContent (messageType messageId : String) (content : JsonMap) :
    Except GatewayError (String × List Json) :=
  if messageType = "text" then .ok (textOf (content.get "text"), [])
  else if messageType = "image" then
    let imageKey := textOf (content.get "image_key")
    .ok ("飞书图片消息", if imageKey = "" then [] else
      [.obj [("kind", .str "image"), ("message_id", .str messageId), ("provider", .str "feishu"),
        ("resource_key", .str imageKey)]])
  else refuse ("Unsupported Feishu message_type for Rust lane: " ++
    if messageType = "" then "unknown" else messageType)

def normalizeMessage (config : FeishuConfig) (parseJson : String → Option Json) (stamp : String)
    (payload : Json) (message : JsonMap) : Normalized := do
  let openId := (payload.pointer ["event", "sender", "sender_id", "open_id"]).bind Json.asStr
  let sender := Text.trim ((openId.or
    ((payload.pointer ["event", "sender", "sender_id", "user_id"]).bind Json.asStr)).getD "")
  let chatId := (strField message "chat_id").getD ""
  let messageId := (strField message "message_id").getD ""
  let chatType := (strField message "chat_type").getD "p2p"
  let content := parseMessageContent parseJson ((message.get "content").getD .null)
  let mentions := valueArray (message.get "mentions")
  let (text, attachments) ← messageContent ((strField message "message_type").getD "") messageId
    content
  if sender = "" then refuse "Feishu event is missing sender open_id/user_id"
  if chatId = "" then refuse "Feishu event is missing chat_id"
  if text = "" then refuse "Feishu message is empty"
  enforceAccessPolicy config chatType sender (((message.get "content").bind Json.asStr).getD "")
    mentions
  return {
    platform := "feishu"
    chatId
    userId := sender
    text
    messageId
    chatType
    routeKey := ""
    sessionId := ""
    mentions
    attachments
    metadata := []
    timestamp := stamp
    rawPayload := payload }

def normalizeRawEvent (config : FeishuConfig) (parseJson : String → Option Json) (stamp : String)
    (payload : Json) : Normalized :=
  let eventType := textOf (payload.pointer ["header", "event_type"])
  if eventType = "card.action.trigger" then normalizeCardAction stamp payload
  else if eventType ≠ "im.message.receive_v1" then
    refuse ("Unsupported Feishu event_type: " ++ if eventType = "" then "unknown" else eventType)
  else
    match (payload.pointer ["event", "message"]).bind Json.asObject with
    | none => refuse "Feishu event is missing message"
    | some message => normalizeMessage config parseJson stamp payload message

def normalizeInbound (config : FeishuConfig) (parseJson : String → Option Json) (stamp : String)
    (payload : Json) : Normalized := do
  validateCallback config payload
  if (payload.get "header").isSome ∧ (payload.get "event").isSome then
    normalizeRawEvent config parseJson stamp payload
  else normalizeCompactPayload config stamp payload

end Feishu

/-! ## Feishu Mail -/

def FeishuMail.normalizeInbound (_ : Json) : Normalized :=
  refuse "Feishu Mail adapter is outbound-only"

/-! ## Weixin -/

namespace Weixin

def extractMessageId (payload : Json) : String :=
  textOf ((payload.get "msg_id").or (payload.get "client_id"))

def itemText (item : Json) : Option String :=
  if (((item.get "type").bind Json.asI64).getD 0) = 1 then
    Text.trimmed ((item.pointer ["text_item", "text"]).bind Json.asStr)
  else none

def extractText (items : Option (List Json)) : String :=
  "\n".intercalate ((items.getD []).filterMap itemText)

/-- `kept` is what saving the context token came to, when there is one to save. -/
def normalizeInbound (kept : Except GatewayError Unit) (stamp : String) (payload : Json) :
    Normalized := do
  let sender := textOf (payload.get "from_user_id")
  let room := textOf (payload.get "room_id")
  let text := extractText ((payload.get "item_list").bind Json.asArray)
  if room ≠ "" then refuse "Weixin group chats are not supported yet"
  if sender = "" then refuse "Weixin payload must include from_user_id"
  if text = "" then refuse "Weixin payload does not contain a text message"
  if textOf (payload.get "context_token") ≠ "" then kept
  return {
    platform := "weixin"
    chatId := sender
    userId := sender
    text
    messageId := extractMessageId payload
    chatType := "p2p"
    routeKey := textOf (payload.get "route_key")
    sessionId := ""
    mentions := []
    attachments := []
    metadata := []
    timestamp := stamp
    rawPayload := payload }

end Weixin

/-! ## WhatsApp -/

structure WhatsAppConfig where
  phoneNumberId : String
  configured : Bool

namespace WhatsApp

def denied : GatewayError :=
  .new 403 "WHATSAPP_VERIFICATION_FAILED" "WhatsApp verification failed"

def requireConfig (config : WhatsAppConfig) : Except GatewayError Unit :=
  if config.configured then .ok ()
  else .error (.new 503 "WHATSAPP_NOT_CONFIGURED"
    "WhatsApp is not configured. Continue in the Navi web app.")

def digits (value : String) : Bool :=
  value != "" && Text.utf8Len value ≤ 32 && Text.allChars Text.isAsciiDigit value

/-- What the adapter takes from elsewhere: `i64::from_str`, the range and format of chrono's
dates, and `stable_id` of the route. -/
structure Formats where
  parseInt : String → Option Int
  rfc3339 : Int → Option String
  routeKey : String → String → String

def normalizeInbound (config : WhatsAppConfig) (formats : Formats) (payload : Json) : Normalized := do
  requireConfig config
  if (payload.index "phone_number_id").asStr ≠ some config.phoneNumberId then throw denied
  let message := payload.index "message"
  let sender := (message.index "from").asStr.getD ""
  let id := (message.index "id").asStr.getD ""
  let text := ((message.pointer ["text", "body"]).bind Json.asStr).getD ""
  match (((message.index "timestamp").asStr.bind formats.parseInt).filter (0 < ·)).bind
      formats.rfc3339 with
  | none => refuse "WhatsApp event timestamp is invalid"
  | some timestamp =>
      if ¬digits sender ∨ id = "" ∨ 512 < Text.utf8Len id ∨ text = "" ∨ 4096 < text.length then
        refuse "Invalid WhatsApp text event"
      else .ok {
        platform := "whatsapp"
        chatId := sender
        userId := sender
        text
        messageId := id
        chatType := "p2p"
        routeKey := formats.routeKey config.phoneNumberId sender
        sessionId := ""
        mentions := []
        attachments := []
        metadata := []
        timestamp
        rawPayload := .null }

end WhatsApp

end Adapters

end HarborGate
