import HarborGate.Lib.Base64
import HarborGate.Lib.Runs
import HarborGate.Gateway.Adapters
import HarborGate.Gateway.Notification
import HarborGate.Weixin.Lease
import HarborGate.Weixin.Splitting

/-!
How the Weixin adapter sends a message: `send_outbound`, `prepare_outbound` and
`send_prepared_outbound` of `weixin.rs`. Attachments are uploaded first, then the caption and the
attachments, or the chunks of the text, go out as one message each, and the state of the batch is
reported on the way.
-/

namespace HarborGate

namespace Weixin

namespace Sending

open Interleave

abbrev Bytes := List UInt8

/-! ## The requests of a send -/

inductive BatchStatus
  | planned
  | sent
  | failed
  | pendingRetry
deriving DecidableEq, Repr

def BatchStatus.text : BatchStatus → String
  | .planned => "planned"
  | .sent => "sent"
  | .failed => "failed"
  | .pendingRetry => "pending_retry"

/-- One planned message of a batch, as `planned_delivery_items` lays it out. -/
structure BatchItem where
  itemId : String
  index : Nat
  kind : String
  status : BatchStatus
  providerMessageId : Option String
  retryable : Bool
  error : Option String
  artifactRef : Option String
deriving DecidableEq, Repr

def BatchItem.toJson (item : BatchItem) : Json :=
  .obj (optionalField [("error", Json.ofOption item.error), ("index", .num item.index),
    ("item_id", .str item.itemId), ("kind", .str item.kind),
    ("provider_message_id", Json.ofOption item.providerMessageId),
    ("retryable", .bool item.retryable), ("status", .str item.status.text)]
    "artifact_ref" (item.artifactRef.map Json.str))

/-- What `delivery_batch_snapshot` is made of. -/
structure DeliveryBatch where
  batchId : String
  status : String
  items : List BatchItem
  updatedAt : String

def countStatus (expected : BatchStatus) (items : List BatchItem) : Nat :=
  items.countP (·.status = expected)

def DeliveryBatch.toJson (batch : DeliveryBatch) : Json :=
  .obj [("delivery_batch_id", .str batch.batchId),
    ("failed_count", .num (countStatus .failed batch.items)),
    ("item_count", .num batch.items.length),
    ("items", .arr (batch.items.map BatchItem.toJson)),
    ("pending_retry_count", .num (countStatus .pendingRetry batch.items)),
    ("planned_count", .num (countStatus .planned batch.items)),
    ("sent_count", .num (countStatus .sent batch.items)),
    ("status", .str batch.status),
    ("updated_at", .str batch.updatedAt)]

inductive Endpoint
  | getUploadUrl
  | sendMessage
deriving DecidableEq, Repr

def Endpoint.path : Endpoint → String
  | .getUploadUrl => "ilink/bot/getuploadurl"
  | .sendMessage => "ilink/bot/sendmessage"

/-- The answer of the CDN to an upload: a status with the `x-encrypted-param` header and a body, or
no answer at all. -/
inductive CdnReply
  | answered (status : Nat) (encryptedParam : Option String) (body : String)
  | failed (reason : String)

/-- What a send asks of its surroundings. `stateAccount` is the read under the lock behind
`weixin_error`; a report to the transport state carries its batch, if it has one. -/
inductive SendOp
  | account
  | stateAccount
  | contextToken (accountId chatId : String)
  | resolvePath (raw : String)
  | readArtifact (path : String)
  | newUuid
  | utcNowIso
  | postJson (account : WeixinAccount) (endpoint : Endpoint) (payload : Json)
  | cdnPost (url : String) (body : Bytes)
  | updateTransport (fields : JsonMap) (batch : Option DeliveryBatch)

abbrev SendAns : SendOp → Type
  | .account => WeixinAccount
  | .stateAccount => WeixinAccount
  | .contextToken _ _ => Except GatewayError String
  | .resolvePath _ => Option String
  | .readArtifact _ => Except String Bytes
  | .newUuid => Uuid
  | .utcNowIso => String
  | .postJson _ _ _ => Except GatewayError Json
  | .cdnPost _ _ => CdnReply
  | .updateTransport _ _ => Unit

abbrev SendRoutine (α : Type) := Prog SendOp SendAns α

abbrev SendGate (α : Type) := Fallible GatewayError SendOp SendAns α

abbrev SendEvent := Σ op, SendAns op

def query (op : SendOp) : SendRoutine (SendAns op) :=
  Prog.perform op

def ask (op : SendOp) : SendGate (SendAns op) :=
  ExceptT.lift (query op)

def propagate {α : Type} (result : Except GatewayError α) : SendGate α :=
  ExceptT.mk (pure result)

/-- What a send takes from other crates: MD5 and AES in hexadecimal and bytes, the encoding of URL
parts and the two forms of a UUID; and the configured CDN. -/
structure Crates where
  md5 : Bytes → String
  encrypt : Bytes → Bytes → Bytes
  encodeUrl : String → String
  simple : Uuid → String
  uuidBytes : Uuid → Bytes
  cdnBaseUrl : String

/-! ## Payloads -/

def hexDigit (value : Nat) : Char :=
  if value < 10 then Char.ofNat (0x30 + value) else Char.ofNat (0x57 + value)

def hexLower (bytes : Bytes) : String :=
  String.ofList (bytes.flatMap fun byte => [hexDigit (byte.toNat / 16), hexDigit (byte.toNat % 16)])

def aesEcbPaddedSize (plaintextSize : Nat) : Nat :=
  (plaintextSize / 16 + 1) * 16

def utf8 (text : String) : Bytes :=
  text.toUTF8.data.toList

/-- `stable_weixin_delivery_id`. -/
def stableWeixinDeliveryId (crates : Crates) (lead deliveryItemKey : String) (index : Nat) : String :=
  lead ++ "_" ++ String.ofList
    ((crates.md5 (utf8 (deliveryItemKey ++ "|" ++ toString index))).toList.take 24)

def buildTextMessageItem (text : String) : Json :=
  .obj [("text_item", .obj [("text", .str text)]), ("type", .num 1)]

def buildSendMessagePayloadItems (toUserId : String) (item : Json) (contextToken clientId : String) :
    Json :=
  .obj [("msg", .obj (optionalField
    [("client_id", .str clientId), ("from_user_id", .str ""), ("item_list", .arr [item]),
      ("message_state", .num 2), ("message_type", .num 2), ("to_user_id", .str toUserId)]
    "context_token" (if Text.isBlank contextToken then none else some (.str contextToken))))]

structure Uploaded where
  providerMediaId : String
  downloadParam : String
  aeskeyHex : String
  plaintextSize : Nat
  ciphertextSize : Nat

def buildCdnMediaReference (uploaded : Uploaded) : Json :=
  .obj [("aes_key", .str (Base64.encode (utf8 uploaded.aeskeyHex))),
    ("encrypt_query_param", .str uploaded.downloadParam), ("encrypt_type", .num 1)]

def buildNativeImageMessageItem (uploaded : Uploaded) : Json :=
  .obj [("image_item", .obj [("media", buildCdnMediaReference uploaded),
    ("mid_size", .num uploaded.ciphertextSize)]), ("type", .num 2)]

def buildNativeVideoMessageItem (uploaded : Uploaded) : Json :=
  .obj [("type", .num 5), ("video_item", .obj [("media", buildCdnMediaReference uploaded),
    ("video_size", .num uploaded.ciphertextSize)])]

def buildNativeFileMessageItem (uploaded : Uploaded) (fileName : String) : Json :=
  .obj [("file_item", .obj [("file_name", .str fileName),
    ("len", .str (toString uploaded.plaintextSize)), ("media", buildCdnMediaReference uploaded)]),
    ("type", .num 4)]

def weixinProviderMessageId (response : Json) : Option String :=
  Text.trimmed (((response.get "message_id").or (response.pointer ["data", "msg_id"])).bind
    Json.asStr)

def validateSendMessageResponse (response : Json) (secrets : List String) :
    Except GatewayError Unit :=
  match response.get "ret" with
  | none => .ok ()
  | some value =>
      match value.asI64 with
      | none => .error (weixinError "Weixin sendmessage returned an invalid ret field")
      | some ret =>
          if ret = 0 then .ok ()
          else
            let message := (Text.trimmed ((response.get "errmsg").bind Json.asStr)).getD
              "unknown provider error"
            .error (weixinError (redactSensitiveText
              ("Weixin sendmessage failed with ret=" ++ toString ret ++ ": " ++ message) secrets))

/-! ## Attachments -/

structure NativeAttachment where
  deliveryKind : String
  path : String
  fileName : String
deriving DecidableEq, Repr

def kindOf (kind mimeType : String) : String :=
  if kind = "image" ∨ Text.startsWith mimeType "image/" then "image"
  else if kind = "video" ∨ Text.startsWith mimeType "video/" then "video"
  else "file"

/-- The kind under which an attachment that could not be resolved is reported. -/
def attachmentDeliveryKindFromValue (value : Json) : String :=
  kindOf (Text.toAsciiLowercase (Adapters.textOf ((value.get "kind").or (value.get "type"))))
    (Text.toAsciiLowercase (Adapters.textOf (value.get "mime_type")))

/-- `Path::file_name` of a path in the Unix form. -/
def pathFileName (path : String) : Option String :=
  (((path.splitOn "/").filter fun part => part ≠ "" && part ≠ ".").getLast?).filter (· ≠ "..")

def nativeMediaAttachmentFromValue (value : Json) : SendGate NativeAttachment :=
  match value.asObject with
  | none => throw (GatewayError.validation "Weixin attachment must be an object")
  | some object => do
      let kind := Text.toLowercase
        (((Adapters.strField object "kind").or (Adapters.strField object "type")).getD "")
      let mimeType := Text.toLowercase ((Adapters.strField object "mime_type").getD "")
      match ← ask (.resolvePath ((Adapters.strField object "path").getD "")) with
      | none => throw (GatewayError.validation
          "Weixin native media reply requires a readable same-host attachment path")
      | some path => return {
          deliveryKind := kindOf kind mimeType
          path
          fileName := (Text.trimmed ((((value.pointer ["metadata", "file_name"]).bind
              Json.asStr).or ((value.get "label").bind Json.asStr)))).getD
            ((pathFileName path).getD "attachment") }

def resolveNativeMediaAttachments (outbound : OutboundMessage) : SendGate (List NativeAttachment) := do
  let resolved ← Fallible.forEach (fun resolved attachment => do
    let native ← nativeMediaAttachmentFromValue attachment
    return resolved ++ [native]) [] (outbound.attachments.filter Json.isObject)
  if resolved.isEmpty then
    throw (GatewayError.validation "Weixin native media reply requires at least one attachment")
  else return resolved

def shouldSendNativeAttachmentReply (outbound : OutboundMessage) : Bool :=
  ((outbound.metadata.get "source").bind Json.asStr).any
      (fun source => source = "harborbeacon" || source = "notification_delivery") &&
    !outbound.attachments.isEmpty

section

variable (crates : Crates)

/-- `weixin_error`, which redacts with the account at hand when it is called. -/
def failWith {α : Type} (message : String) : SendGate α := do
  let account ← ask .stateAccount
  throw (weixinError (redactSensitiveText message [account.accountId, account.token]))

def uploadUrl (response : Json) (filekey : String) : Option String :=
  let full := Adapters.textOf (response.get "upload_full_url")
  if full ≠ "" then some full
  else
    let upload := Adapters.textOf (response.get "upload_param")
    if upload = "" then none
    else
      let base := String.ofList (crates.cdnBaseUrl.toList.rdropWhile (· = '/'))
      some (base ++ "/upload?encrypted_query_param=" ++ crates.encodeUrl upload ++ "&filekey=" ++
        crates.encodeUrl filekey)

/-- The attempts of `upload_binary_to_cdn` that are left, and the last error so far. -/
def tryUpload (url : String) (ciphertext : Bytes) (label : String) :
    Nat → String → SendGate String
  | 0, lastError => failWith lastError
  | attempts + 1, _ => do
      match ← ask (.cdnPost url ciphertext) with
      | .failed reason =>
          tryUpload url ciphertext label attempts (label ++ ": CDN request failed: " ++ reason)
      | .answered status encryptedParam body =>
          if 200 ≤ status ∧ status < 300 then
            let param := Text.trim (encryptedParam.getD "")
            if param = "" then
              tryUpload url ciphertext label attempts
                "CDN upload response missing x-encrypted-param header"
            else return param
          else
            let lastError := label ++ ": CDN HTTP " ++ toString status ++ ": " ++ body
            -- An answer of 4xx is final.
            if 400 ≤ status ∧ status < 500 then failWith lastError
            else tryUpload url ciphertext label attempts lastError

/-- The part that `upload_image` and `upload_media` share. -/
def uploadArtifact (noun label : String) (mediaType : Int) (account : WeixinAccount)
    (attachment : NativeAttachment) (toUserId : String) : SendGate Uploaded := do
  match ← ask (.readArtifact attachment.path) with
  | .error reason =>
      failWith ("Could not read Weixin " ++ noun ++ " artifact " ++ attachment.path ++ ": " ++ reason)
  | .ok bytes =>
      if bytes.isEmpty then
        failWith ("Weixin " ++ noun ++ " artifact is empty: " ++ attachment.path)
      else
        let filekey := crates.simple (← ask .newUuid)
        let aeskey := crates.uuidBytes (← ask .newUuid)
        let response ← propagate (← ask (.postJson account .getUploadUrl (.obj [
          ("aeskey", .str (hexLower aeskey)), ("filekey", .str filekey),
          ("filesize", .num (aesEcbPaddedSize bytes.length)), ("media_type", .num mediaType),
          ("no_need_thumb", .bool true), ("rawfilemd5", .str (crates.md5 bytes)),
          ("rawsize", .num bytes.length), ("to_user_id", .str toUserId)])))
        match uploadUrl crates response filekey with
        | none => failWith (label ++ ": CDN upload URL missing")
        | some url =>
            let param ← tryUpload url (crates.encrypt aeskey bytes) label cdnUploadMaxRetries ""
            return {
              providerMediaId := filekey
              downloadParam := param
              aeskeyHex := hexLower aeskey
              plaintextSize := bytes.length
              ciphertextSize := aesEcbPaddedSize bytes.length }

def uploadImage : WeixinAccount → NativeAttachment → String → SendGate Uploaded :=
  uploadArtifact crates "image" "weixin-image-orig" 1

def uploadMedia (mediaType : Int) : WeixinAccount → NativeAttachment → String → SendGate Uploaded :=
  uploadArtifact crates "media" "weixin-media-orig" mediaType

/-- A message item made of an uploaded attachment, and whether it went as a plain file. -/
structure MediaItem where
  item : Json
  usedFileFallback : Bool

def uploadAttachment (account : WeixinAccount) (attachment : NativeAttachment) (chatId : String) :
    SendGate (Uploaded × MediaItem) := do
  if attachment.deliveryKind = "image" then
    let uploaded ← uploadImage crates account attachment chatId
    return (uploaded, ⟨buildNativeImageMessageItem uploaded, false⟩)
  else if attachment.deliveryKind = "video" then
    let uploaded ← uploadMedia crates 2 account attachment chatId
    return (uploaded, ⟨buildNativeVideoMessageItem uploaded, false⟩)
  else
    let uploaded ← uploadMedia crates 3 account attachment chatId
    return (uploaded, ⟨buildNativeFileMessageItem uploaded attachment.fileName, true⟩)

/-! ## The batch -/

def padded (number : Nat) : String :=
  let digits := toString number
  String.ofList (List.replicate (3 - digits.length) '0') ++ digits

def plannedDeliveryItems (batchId : String) (kinds : List String) : List BatchItem :=
  kinds.mapIdx fun index kind => {
    itemId := batchId ++ "-" ++ padded (index + 1)
    index, kind
    status := .planned
    providerMessageId := none
    retryable := false
    error := none
    artifactRef := none }

/-- `mark_delivery_item` on the item itself. -/
def BatchItem.mark (status : BatchStatus) (providerMessageId : Option String) (retryable : Bool)
    (error : Option String) (item : BatchItem) : BatchItem :=
  { item with
    status
    providerMessageId := providerMessageId.filter (!Text.isBlank ·)
    retryable
    error := error.filter (!Text.isBlank ·) }

def markSent (index : Nat) (providerMessageId : Option String) (items : List BatchItem) :
    List BatchItem :=
  items.modify index (·.mark .sent providerMessageId false none)

def markFailed (index : Nat) (retryable : Bool) (error : String) (items : List BatchItem) :
    List BatchItem :=
  items.modify index (·.mark .failed none retryable (some error))

def markRemainingPendingRetry (start : Nat) (items : List BatchItem) : List BatchItem :=
  items.mapIdx fun index item =>
    if start ≤ index ∧ item.status = .planned then item.mark .pendingRetry none true none else item

def deliveryArtifactRef (attachment : Json) : Option String :=
  Text.trimmed ((((attachment.pointer ["metadata", "harborlink_artifact_id"]).or
    (attachment.get "media_asset_id")).or (attachment.get "label")).bind Json.asStr)

/-- The loop over the attachments, read from the side of the items. -/
def attachDeliveryItemReferences (offset : Nat) (attachments : List Json) (items : List BatchItem) :
    List BatchItem :=
  items.mapIdx fun index item =>
    if offset ≤ index then
      { item with
        artifactRef := ((attachments[index - offset]?).bind deliveryArtifactRef).or item.artifactRef }
    else item

/-! ## The send -/

/-- One message to go out. -/
structure Message where
  item : Json
  clientId : Option String
  usedFileFallback : Bool

structure Receipt where
  providerClientId : String
  providerMessageId : Option String

/-- What every message of one send has in common. -/
structure Session where
  account : WeixinAccount
  chatId : String
  contextToken : String
  batchId : String

def Session.secrets (session : Session) : List String :=
  [session.account.accountId, session.account.token, session.contextToken]

/-- The id a message goes out under: the one it is given, or a new one. -/
def clientIdFor (given : Option String) : SendGate String :=
  match given with
  | some clientId => return clientId
  | none => do return "harborgate-" ++ crates.simple (← ask .newUuid)

def sendMessageItems (session : Session) (message : Message) : SendGate Receipt := do
  let clientId ← clientIdFor crates message.clientId
  let response ← propagate (← ask (.postJson session.account .sendMessage
    (buildSendMessagePayloadItems session.chatId message.item session.contextToken clientId)))
  propagate (validateSendMessageResponse response session.secrets)
  return ⟨clientId, weixinProviderMessageId response⟩

/-- The variables that the loops over the messages carry along. -/
structure Progress where
  index : Nat
  items : List BatchItem
  lastClientId : String
  lastProviderMessageId : Option String
  fallbackUsed : Bool

/-- Where and how far along a send failed. -/
structure Failure where
  error : GatewayError
  index : Nat
  items : List BatchItem
  lastProviderMessageId : Option String

abbrev SendPart (α : Type) := Fallible Failure SendOp SendAns α

def updateDeliveryBatch (batchId status : String) (items : List BatchItem) : SendRoutine Unit := do
  let updatedAt ← query .utcNowIso
  let batch : DeliveryBatch := { batchId, status, items, updatedAt }
  query (.updateTransport
    [("last_delivery_batch", batch.toJson), ("last_delivery_batch_id", .str batchId)] (some batch))

/-- The round that the loops over the caption, the attachments and the chunks share. -/
def sendMessage (session : Session) (progress : Progress) (message : Message) :
    SendPart Progress := do
  match ← ExceptT.lift (sendMessageItems crates session message).run with
  | .error error => throw {
      error
      index := progress.index
      items := progress.items
      lastProviderMessageId := progress.lastProviderMessageId }
  | .ok receipt =>
      let items := markSent progress.index receipt.providerMessageId progress.items
      ExceptT.lift (updateDeliveryBatch session.batchId "sending" items)
      return {
        index := progress.index + 1
        items
        lastClientId := receipt.providerClientId
        lastProviderMessageId := receipt.providerMessageId
        fallbackUsed := progress.fallbackUsed || message.usedFileFallback }

def sendMessages (session : Session) (progress : Progress) (messages : List Message) :
    SendPart Progress :=
  Fallible.forEach (sendMessage crates session) progress messages

/-- The media item of a `provider_media_state`, if it has one. -/
def preparedItem (state : Option Json) : Option MediaItem :=
  (state.bind (·.get "message_item")).map fun item =>
    ⟨item, ((state.bind (·.get "used_file_fallback")).bind Json.asBool).getD false⟩

/-- The round of the loop over the attachments before any message goes out. -/
def uploadNext (account : WeixinAccount) (chatId : String) (prepared : Option MediaItem)
    (offset : Nat) (planned : List BatchItem) (uploaded : List MediaItem)
    (attachment : NativeAttachment) : SendPart (List MediaItem) := do
  match if uploaded.isEmpty then prepared else none with
  | some item => return uploaded ++ [item]
  | none =>
      match ← ExceptT.lift (uploadAttachment crates account attachment chatId).run with
      | .ok (_, item) => return uploaded ++ [item]
      | .error error => throw {
          error
          index := offset + uploaded.length
          items := planned
          lastProviderMessageId := none }

/-- The messages of a send with attachments; every item keeps its own place in the client ids. -/
def mediaMessages (deliveryItemKey preparedClientId : Option String) (caption : String)
    (uploaded : List MediaItem) : List Message :=
  (if caption = "" then []
    else [⟨buildTextMessageItem caption,
      deliveryItemKey.map (stableWeixinDeliveryId crates "wxmsg" · 0), false⟩]) ++
    uploaded.mapIdx fun index media =>
      ⟨media.item, preparedClientId.or
        (deliveryItemKey.map (stableWeixinDeliveryId crates "wxmsg" · (index + 1))),
        media.usedFileFallback⟩

def textMessages (deliveryItemKey : Option String) (chunks : List String) : List Message :=
  chunks.mapIdx fun index chunk =>
    ⟨buildTextMessageItem chunk,
      deliveryItemKey.map (stableWeixinDeliveryId crates "wxmsg" · index), false⟩

end

/-! ## `send_outbound` -/

/-- What a send consists of, once its attachments are known. -/
structure Plan where
  attachments : List NativeAttachment
  caption : String
  chunks : List String
  deliveryItemKey : Option String
  preparedClientId : Option String
  prepared : Option MediaItem

namespace Plan

def native (plan : Plan) : Bool :=
  !plan.attachments.isEmpty

/-- The place of the first attachment in the batch. -/
def offset (plan : Plan) : Nat :=
  if plan.caption = "" then 0 else 1

def kinds (plan : Plan) : List String :=
  if plan.native then
    (if plan.caption = "" then [] else ["text"]) ++ plan.attachments.map NativeAttachment.deliveryKind
  else plan.chunks.map fun _ => "text"

def unitCount (plan : Plan) : Nat :=
  if plan.native then plan.attachments.length + plan.offset else plan.chunks.length

def attachmentKind (plan : Plan) : String :=
  match plan.attachments with
  | [] => ""
  | first :: _ =>
      if plan.attachments.all (·.deliveryKind = "image") then "image"
      else if plan.attachments.all (·.deliveryKind = first.deliveryKind) then first.deliveryKind
      else "mixed"

def contentKind (plan : Plan) : String :=
  if plan.native then "text+" ++ plan.attachmentKind else "text"

def attachmentCount (plan : Plan) (outbound : OutboundMessage) : Nat :=
  if plan.native then plan.attachments.length else outbound.attachments.length

def items (plan : Plan) (batchId : String) (outbound : OutboundMessage) : List BatchItem :=
  let planned := plannedDeliveryItems batchId plan.kinds
  if plan.native then attachDeliveryItemReferences plan.offset outbound.attachments planned
  else planned

end Plan

def metadataText (outbound : OutboundMessage) (name : String) : Option String :=
  Text.trimmed ((outbound.metadata.get name).bind Json.asStr)

def planOf (outbound : OutboundMessage) (attachments : List NativeAttachment) : Plan where
  attachments
  caption := Text.trim outbound.text
  chunks := if attachments.isEmpty then splitTextForWeixin outbound.text 900 else []
  deliveryItemKey := metadataText outbound "delivery_item_key"
  preparedClientId := metadataText outbound "provider_client_id"
  prepared := preparedItem (outbound.metadata.get "provider_media_state")

def notConfigured : GatewayError :=
  GatewayError.validation "Weixin adapter is not configured. Open Weixin setup first."

def noContextToken (chatId : String) : GatewayError :=
  GatewayError.validation ("No Weixin context_token cached for chat_id=" ++ chatId ++
    ". Send a DM from WeChat first.")

def emptyMessage : GatewayError :=
  GatewayError.validation "Outbound Weixin message is empty"

section

variable (crates : Crates)

/-- The account and the context token that a send goes out with. -/
def openSession (outbound : OutboundMessage) : SendGate (WeixinAccount × String) := do
  let account ← ask .account
  if account.configured then
    let contextToken ← propagate (← ask (.contextToken account.accountId outbound.chatId))
    if contextToken = "" then throw (noContextToken outbound.chatId)
    else return (account, contextToken)
  else throw notConfigured

/-- The report of a send whose attachments could not be resolved. -/
def reportUnresolved (session : Session) (outbound : OutboundMessage) (error : GatewayError) :
    SendRoutine Unit := do
  let errorText := redactSensitiveText error.message session.secrets
  let batchId := "wxbatch_" ++ crates.simple (← query .newUuid)
  let planned := attachDeliveryItemReferences 0 outbound.attachments
    (plannedDeliveryItems batchId (outbound.attachments.map attachmentDeliveryKindFromValue))
  let items := planned.map (·.mark .failed none false (some errorText))
  let sentAt ← query .utcNowIso
  let updatedAt ← query .utcNowIso
  let batch : DeliveryBatch := { batchId, status := "failed", items, updatedAt }
  query (.updateTransport
    [("connected", .bool true), ("last_delivery_batch", batch.toJson),
      ("last_delivery_batch_id", .str batchId), ("last_error", .str errorText),
      ("last_send_at", .str sentAt),
      ("last_send_attachment_count", .num outbound.attachments.length),
      ("last_send_content_kind", .str "attachment_resolution_failed"),
      ("last_send_context_token_used", .bool true), ("last_send_error", .str errorText),
      ("last_send_provider_message_id", .str ""), ("last_send_retryable", .bool false),
      ("last_send_status", .str "failed"), ("status", .str "send_failed")] (some batch))

def nativeAttachments (account : WeixinAccount) (contextToken : String)
    (outbound : OutboundMessage) : SendGate (List NativeAttachment) :=
  if shouldSendNativeAttachmentReply outbound then
    let state := outbound.metadata.get "provider_media_state"
    match state.bind (·.get "message_item") with
    | some _ => return [⟨((state.bind (·.get "delivery_kind")).bind Json.asStr).getD "file", "", ""⟩]
    | none => do
        match ← ExceptT.lift (resolveNativeMediaAttachments outbound).run with
        | .ok attachments => return attachments
        | .error error =>
            ExceptT.lift (reportUnresolved crates ⟨account, outbound.chatId, contextToken, ""⟩
              outbound error)
            throw error
  else return []

def reportStart (session : Session) (plan : Plan) (outbound : OutboundMessage) :
    SendRoutine Unit := do
  let sentAt ← query .utcNowIso
  let updatedAt ← query .utcNowIso
  let batch : DeliveryBatch :=
    { batchId := session.batchId, status := "sending"
      items := plan.items session.batchId outbound, updatedAt }
  query (.updateTransport
    [("connected", .bool true), ("last_delivery_batch", batch.toJson),
      ("last_delivery_batch_id", .str session.batchId), ("last_error", .str ""),
      ("last_inbound_chat_id", .str outbound.chatId), ("last_send_at", .str sentAt),
      ("last_send_attachment_count", .num (plan.attachmentCount outbound)),
      ("last_send_chunk_count", .num plan.unitCount),
      ("last_send_content_kind", .str plan.contentKind),
      ("last_send_context_token_used", .bool true), ("last_send_error", .str ""),
      ("last_send_provider_message_id", .str ""), ("last_send_retryable", .bool false),
      ("last_send_status", .str "sending"), ("status", .str "sending")] (some batch))

/-- The block that uploads and sends. -/
def transmit (session : Session) (plan : Plan) (planned : List BatchItem) : SendPart Progress := do
  let start : Progress :=
    { index := 0, items := planned, lastClientId := "", lastProviderMessageId := none
      fallbackUsed := false }
  if plan.native then
    let uploaded ← Fallible.forEach
      (uploadNext crates session.account session.chatId plan.prepared plan.offset planned) []
      plan.attachments
    sendMessages crates session start
      (mediaMessages crates plan.deliveryItemKey plan.preparedClientId plan.caption uploaded)
  else sendMessages crates session start (textMessages crates plan.deliveryItemKey plan.chunks)

def reportFailure (session : Session) (plan : Plan) (outbound : OutboundMessage)
    (failure : Failure) : SendRoutine Unit := do
  let errorText := redactSensitiveText failure.error.message session.secrets
  updateDeliveryBatch session.batchId "pending_retry"
    (markRemainingPendingRetry (failure.index + 1)
      (markFailed failure.index true errorText failure.items))
  let sentAt ← query .utcNowIso
  query (.updateTransport
    [("connected", .bool true), ("last_error", .str errorText), ("last_send_at", .str sentAt),
      ("last_send_attachment_count", .num (plan.attachmentCount outbound)),
      ("last_send_content_kind", .str plan.contentKind),
      ("last_send_context_token_used", .bool true), ("last_send_error", .str errorText),
      ("last_send_provider_message_id", .str (failure.lastProviderMessageId.getD "")),
      ("last_send_retryable", .bool true), ("last_send_status", .str "failed"),
      ("status", .str "send_failed")] none)

def reportSuccess (session : Session) (plan : Plan) (outbound : OutboundMessage)
    (progress : Progress) : SendRoutine Unit := do
  updateDeliveryBatch session.batchId "sent" progress.items
  let sentAt ← query .utcNowIso
  query (.updateTransport
    [("connected", .bool true), ("last_error", .str ""), ("last_send_at", .str sentAt),
      ("last_send_attachment_count", .num (plan.attachmentCount outbound)),
      ("last_send_content_kind", .str plan.contentKind),
      ("last_send_context_token_used", .bool true), ("last_send_error", .str ""),
      ("last_send_provider_message_id", .str (progress.lastProviderMessageId.getD "")),
      ("last_send_retryable", .bool false), ("last_send_status", .str "sent"),
      ("status", .str "polling_idle")] none)

def sentMessage (session : Session) (plan : Plan) (outbound : OutboundMessage)
    (progress : Progress) (updatedAt : String) : Json :=
  let batch : DeliveryBatch :=
    { batchId := session.batchId, status := "sent", items := progress.items, updatedAt }
  .obj [
    ("attachments", .arr (if plan.native then outbound.attachments.take plan.attachments.length
      else outbound.attachments)),
    ("chat_id", .str outbound.chatId),
    ("delivery", .str "weixin"),
    ("message_id", Json.ofOption progress.lastProviderMessageId),
    ("metadata", .obj [
      ("attachment_count", .num (plan.attachmentCount outbound)),
      ("chunk_count", .num plan.unitCount),
      ("context_token_used", .bool true),
      ("delivery_batch", batch.toJson),
      ("native_attachment_count", .num plan.attachments.length),
      ("native_attachment_fallback", .bool progress.fallbackUsed),
      ("native_attachment_kind", .str plan.attachmentKind),
      ("native_image_reply", .bool (plan.native && plan.attachmentKind = "image"))]),
    ("platform", .str "weixin"),
    ("provider_client_id", .str progress.lastClientId),
    ("provider_message_id", Json.ofOption progress.lastProviderMessageId),
    ("sent", .bool true),
    ("text", .str outbound.text),
    ("timestamp", .str outbound.timestamp)]

/-- The batch is named after the delivery item, or at random. -/
def batchIdFor (deliveryItemKey : Option String) : SendGate String :=
  match deliveryItemKey with
  | some key => return stableWeixinDeliveryId crates "wxbatch" key 0
  | none => do return "wxbatch_" ++ crates.simple (← ask .newUuid)

/-- `send_outbound` once its attachments are known. -/
def sendPlanned (account : WeixinAccount) (contextToken : String) (outbound : OutboundMessage)
    (plan : Plan) : SendGate Json := do
  let batchId ← batchIdFor crates plan.deliveryItemKey
  let session : Session := { account, chatId := outbound.chatId, contextToken, batchId }
  ExceptT.lift (reportStart session plan outbound)
  match ← ExceptT.lift (transmit crates session plan (plan.items batchId outbound)).run with
  | .error failure =>
      ExceptT.lift (reportFailure session plan outbound failure)
      throw failure.error
  | .ok progress =>
      ExceptT.lift (reportSuccess session plan outbound progress)
      let updatedAt ← ask .utcNowIso
      return sentMessage session plan outbound progress updatedAt

def sendOutbound (outbound : OutboundMessage) : SendGate Json := do
  let opened ← openSession outbound
  let attachments ← nativeAttachments crates opened.1 opened.2 outbound
  let plan := planOf outbound attachments
  if plan.attachments.isEmpty ∧ plan.chunks.isEmpty then throw emptyMessage
  else sendPlanned crates opened.1 opened.2 outbound plan

/-! ## Uploads ahead of a send -/

def prepareOutbound (outbound : OutboundMessage) : SendGate (Option PreparedOutbound) := do
  match outbound.attachments with
  | [value] =>
      if shouldSendNativeAttachmentReply outbound then
        let opened ← openSession outbound
        let attachment ← nativeMediaAttachmentFromValue value
        let media ← uploadAttachment crates opened.1 attachment outbound.chatId
        let key := ((outbound.metadata.get "delivery_item_key").bind Json.asStr).getD ""
        let stage := if attachment.deliveryKind = "file" then "fallback" else "native"
        return some {
          providerMediaId := media.1.providerMediaId
          providerClientId := some (stableWeixinDeliveryId crates "wxmsg" (key ++ "|" ++ stage) 1)
          state := .obj [("delivery_kind", .str attachment.deliveryKind),
            ("message_item", media.2.item),
            ("used_file_fallback", .bool media.2.usedFileFallback)] }
      else return none
  | _ => return none

def withPrepared (outbound : OutboundMessage) (prepared : PreparedOutbound) : OutboundMessage :=
  { outbound with
    metadata := optionalField (outbound.metadata.insert "provider_media_state" prepared.state)
      "provider_client_id" (prepared.providerClientId.map Json.str) }

def sendPreparedOutbound (outbound : OutboundMessage) (prepared : Option PreparedOutbound) :
    SendGate Json :=
  match prepared with
  | none => sendOutbound crates outbound
  | some value => do
      let response ← sendOutbound crates (withPrepared outbound value)
      match response with
      | .obj fields =>
          return .obj (JsonMap.insert fields "provider_media_id" (.str value.providerMediaId))
      | other => return other

end

end Sending

end Weixin

end HarborGate
