import HarborGate.Gateway.Notification

/-!
The way from the gateway to a selected device: `exchange` of `cloud_relay.rs`, the device client of
`harborbeacon.rs`, and the notification poll. Every exchange is pinned to the identity of the
selection it is made for, and every contact with the relay is recorded.
-/

namespace HarborGate

open Interleave NaviFleet

structure RelayResponse where
  hubIdentity : String
  status : Nat
  body : Json

/-- One round of the exchange loop: the request failed, or the relay answered with a status and a
body, which is missing when it is not JSON, read at an instant in milliseconds. -/
inductive RelayReply
  | failed (error : GatewayError)
  | answered (status : Nat) (body : Option Json) (now : Int)

namespace CloudRelay

def unavailable : GatewayError :=
  GatewayError.new 503 "NAVI_RELAY_UNAVAILABLE" "Navi connection is temporarily unavailable"

def invalid : GatewayError :=
  GatewayError.validation "Invalid Navi relay request"

def identityChanged : GatewayError :=
  GatewayError.new 403 "NAVI_IDENTITY_CHANGED" "Navi identity permission changed; reconnect WhatsApp"

/-- What the client takes from its surroundings about encoded values: whether a request fits its
size limits, the length of an encoded body, and the length and SHA-256 text of base64 data. -/
structure Codec where
  fits : Json → Bool
  encodedLen : Json → Nat
  media : String → Option (Nat × String)

def isIdentityChange (status : Nat) (body : Option Json) : Bool :=
  status == 409 && body.any fun answer =>
    ((answer.index "error").index "code").asStr == some "HUB_IDENTITY_CHANGED"

/-- The fields every accepted answer has: its deadline and the device's identity. -/
def readAnswer (id : String) (now : Int) (deadline : Option Int) (identity : Option String)
    (payload : Json) : FleetResult (Int × String) := do
  let answered ← require (payload.index "deadlineUnixMs").asI64 unavailable
  let device ← require ((payload.index "hubIdentity").asStr.filter validIdentity) unavailable
  ensure (identity.all (· == device)) unavailable
  ensure ((payload.index "requestId").asStr = some id ∧ now < answered ∧
    deadline.all (· == answered)) unavailable
  return (answered, device)

def readResult (codec : Codec) (device : String) (payload : Json) : FleetResult RelayResponse := do
  let result := payload.index "result"
  ensure ((payload.index "status").asStr = some "complete" ∧
    (result.index "status").asStr = some "complete") unavailable
  let code ← require ((asU64 (result.index "httpStatus")).filter fun code =>
    200 ≤ code ∧ code ≤ 599 ∧ ¬(300 ≤ code ∧ code < 400)) unavailable
  let body ← require (result.get "body") unavailable
  ensure (codec.encodedLen body ≤ 70000) unavailable
  return { hubIdentity := device, status := code, body }

/-- The loop of `exchange`; when the replies end, the deadline has passed. -/
def exchangeLoop (codec : Codec) (id : String) :
    List RelayReply → Option Int → Option String → FleetResult RelayResponse
  | [], _, _ => .error unavailable
  | .failed error :: rest, deadline, identity =>
      if error.code = "NAVI_RELAY_INVALID_RESPONSE" then .error error
      else exchangeLoop codec id rest deadline identity
  | .answered status body now :: rest, deadline, identity =>
      if status = 429 ∨ 500 ≤ status ∧ status < 600 then
        exchangeLoop codec id rest deadline identity
      else if isIdentityChange status body then .error identityChanged
      else if status ≠ 200 ∧ status ≠ 202 then .error unavailable
      else
        match body with
        | none => .error unavailable
        | some payload =>
            match readAnswer id now deadline identity payload with
            | .error error => .error error
            | .ok (answered, device) =>
                if status = 202 then
                  if (payload.index "status").asStr = some "pending" ∧
                      (payload.get "result").isNone then
                    exchangeLoop codec id rest (some answered) (some device)
                  else .error unavailable
                else readResult codec device payload

end CloudRelay

/-! ## The device client -/

/-- A contact with the relay about one device, and what became of it. -/
structure Contact where
  hubId : String
  hubIdentity : String
  operation : String
  answer : FleetResult RelayResponse

/-- What an operation reads and leaves behind: the directory, how many of its transactions were
made, the selection its device client was built for, and its contacts with the relay. -/
structure Desk where
  directory : Directory
  transactions : Nat
  client : Option Selection
  contacts : List Contact

def Desk.opened (directory : Directory) : Desk where
  directory := directory
  transactions := 0
  client := none
  contacts := []

/-- Clock and storage of each directory transaction, and the relay's replies to each exchange. -/
structure Surroundings where
  host : FleetHost
  codec : CloudRelay.Codec
  now : Nat → Int
  stored : Nat → Bool
  requestId : Nat → String
  replies : Nat → List RelayReply

namespace Desk

variable (around : Surroundings)

def exchange (selection : Selection) (operation : String) (body : Json) (desk : Desk) :
    FleetResult RelayResponse × Desk :=
  if validHubId selection.hubId ∧ body.isObject ∧ around.codec.fits body then
    let answer := CloudRelay.exchangeLoop around.codec (around.requestId desk.contacts.length)
      (around.replies desk.contacts.length) none (some selection.hubIdentity)
    (answer, { desk with
      contacts := desk.contacts ++ [⟨selection.hubId, selection.hubIdentity, operation, answer⟩] })
  else (.error CloudRelay.invalid, desk)

def fleetCheck (outbound : OutboundMessage) (desk : Desk) : FleetResult Selection × Desk :=
  let result :=
    if around.stored desk.transactions then
      NaviFleet.check around.host (around.now desk.transactions) outbound desk.directory
    else .error NaviFleet.unavailable
  (result, { desk with
    transactions := desk.transactions + 1
    client := result.toOption.or desk.client })

def fleetInvalidateIdentity (selection : Selection) (desk : Desk) : FleetResult Unit × Desk :=
  if around.stored desk.transactions then
    (.ok (), { desk with
      transactions := desk.transactions + 1
      directory := NaviFleet.invalidateIdentity selection desk.directory })
  else (.error NaviFleet.unavailable, { desk with transactions := desk.transactions + 1 })

end Desk

namespace HarborBeacon

def denied : GatewayError :=
  GatewayError.new 403 "IM_DELIVERY_NOT_ALLOWED"
    "WhatsApp binding permission no longer permits this delivery"

def unavailable : GatewayError :=
  GatewayError.infrastructure "WhatsApp delivery check is temporarily unavailable"

def nonEmptyText (metadata : JsonMap) (name : String) : Option String :=
  ((metadata.get name).bind Json.asStr).filter (· ≠ "")

def authorizationRequest (outbound : OutboundMessage) : FleetResult Json := do
  let handle ← require (nonEmptyText outbound.metadata "conversation_handle") denied
  let route ← require (nonEmptyText outbound.metadata "route_key") denied
  return .obj [("conversation_handle", .str handle),
    ("has_attachments", .bool (!outbound.attachments.isEmpty)), ("recipient", .str outbound.chatId),
    ("route_key", .str route), ("text", .str outbound.text)]

/-- The answer to a `deliveryAuthorization` exchange. A changed identity becomes a denial here. -/
def authorizationOutcome (codec : CloudRelay.Codec) (answer : FleetResult RelayResponse) :
    FleetResult Unit :=
  match answer with
  | .error error =>
      if error.code = "NAVI_IDENTITY_CHANGED" then .error denied else .error unavailable
  | .ok response =>
      if response.status ∈ [400, 401, 403, 404, 410, 422] then .error denied
      else if response.status ≠ 200 ∨ 4096 < codec.encodedLen response.body then .error unavailable
      else if (response.body.index "allowed").asBool ≠ some true then .error denied
      else .ok ()

def authorizeWhatsappDelivery (around : Surroundings) (selection : Selection)
    (outbound : OutboundMessage) (desk : Desk) : FleetResult Unit × Desk :=
  match authorizationRequest outbound with
  | .error error => (.error error, desk)
  | .ok request =>
      let (answer, desk) := desk.exchange around selection "deliveryAuthorization" request
      (authorizationOutcome around.codec answer, desk)

def isArtifactChar (c : Char) : Bool :=
  c.isAlphanum || c == '-' || c == '_' || c == '.' || c == '~'

def remoteMediaArtifactId (raw : String) : Option String :=
  let (path, query) :=
    match Text.splitOnce raw '?' with
    | some (path, query) => (path, some query)
    | none => (raw, none)
  if '#' ∈ raw.toList ∨ query.any (· ≠ "media_context=chat") then none
  else
    (Text.stripLead path "/api/cameras/recordings/artifacts/").filter fun id =>
      id ≠ "" && Text.utf8Len id ≤ 256 && id ≠ "." && id ≠ ".." && Text.allChars isArtifactChar id

def asciiLower (text : String) : String :=
  text.map Char.toLower

def trustedAttachmentMime (raw : String) : Bool :=
  asciiLower (Text.trim raw) ∈
    ["image/jpeg", "image/png", "image/webp", "video/mp4", "video/quicktime"]

def invalidMedia : GatewayError :=
  GatewayError.infrastructure "Navi returned invalid camera media"

/-- `decode_remote_media` for the first byte, as the permission probe asks for it. -/
def decodeProbe (codec : CloudRelay.Codec) (mime : String) (response : RelayResponse) :
    FleetResult Unit := do
  ensure (response.status ∉ [400, 401, 403, 404, 410, 416])
    (GatewayError.new 403 "CAMERA_MEDIA_DELIVERY_NOT_ALLOWED"
      "Camera media permission was revoked or the attachment expired")
  ensure (response.status = 200 ∨ response.status = 206) invalidMedia
  let total ← require ((asU64 (response.body.index "totalBytes")).filter fun total =>
    0 < total ∧ total ≤ 128 * 1024 * 1024) invalidMedia
  ensure (asU64 (response.body.index "artifactOffset") = some 0 ∧
    ¬(response.status = 200 ∧ 1 < total) ∧
    (response.body.index "contentType").asStr.any (asciiLower · == asciiLower mime)) invalidMedia
  let encoded ← require ((response.body.index "dataBase64").asStr.filter fun text =>
    Text.utf8Len text ≤ 65536) invalidMedia
  let (length, digest) ← require (codec.media encoded) invalidMedia
  ensure (length = min 1 total ∧ asU64 (response.body.index "bytes") = some length ∧
    (response.body.index "sha256").asStr = some digest) invalidMedia

def probeOutcome (codec : CloudRelay.Codec) (artifact : Json)
    (answer : FleetResult RelayResponse) : FleetResult Unit := do
  let response ← answer
  let mime ← require ((artifact.index "mime_type").asStr.filter trustedAttachmentMime)
    (GatewayError.validation "Camera attachment MIME type is not trusted")
  decodeProbe codec mime response

def authorizeCameraAttachments (around : Surroundings) (selection : Selection) :
    List Json → Desk → FleetResult Unit × Desk
  | [], desk => (.ok (), desk)
  | artifact :: rest, desk =>
      match ((artifact.index "url").asStr).bind remoteMediaArtifactId with
      | none => (.error (GatewayError.validation "Camera attachment URL is not trusted"), desk)
      | some id =>
          let (answer, desk) := desk.exchange around selection "mediaArtifact"
            (.obj [("artifact_id", .str id), ("range", .str "bytes=0-0")])
          match probeOutcome around.codec artifact answer with
          | .error error => (.error error, desk)
          | .ok () => authorizeCameraAttachments around selection rest desk

end HarborBeacon

/-- How the surroundings answer the operations of `authorize_delivery_context` with a fleet. -/
def Surroundings.respond (around : Surroundings) (op : Op) (desk : Desk) :
    Option (Ans op × Desk) :=
  match op with
  | .fleetCheck outbound => some (desk.fleetCheck around outbound)
  | .fleetInvalidateIdentity selection => some (desk.fleetInvalidateIdentity around selection)
  | .authorizeCameraAttachments cameras => desk.client.map fun selection =>
      HarborBeacon.authorizeCameraAttachments around selection cameras desk
  | .authorizeWhatsappDelivery outbound => desk.client.map fun selection =>
      HarborBeacon.authorizeWhatsappDelivery around selection outbound desk
  | _ => none

/-! ## The notification poll -/

def notificationExchange (around : Surroundings) (selection : Selection) (operation : String)
    (body : Json) (desk : Desk) : FleetResult Json × Desk :=
  let (answer, desk) := desk.exchange around selection operation body
  (answer.bind fun response =>
    if 200 ≤ response.status ∧ response.status < 300 then .ok response.body
    else .error CloudRelay.unavailable, desk)

/-- The poll up to its batch: the route that is due, and what its device has queued. -/
def pullNotifications (around : Surroundings) (desk : Desk) :
    FleetResult (Option (Selection × Json × Json)) × Desk :=
  let target :=
    if around.stored desk.transactions then
      notificationTarget (around.now desk.transactions) desk.directory
    else .error NaviFleet.unavailable
  let desk := { desk with transactions := desk.transactions + 1 }
  match target with
  | .error error => (.error error, desk)
  | .ok (none, directory) => (.ok none, { desk with directory })
  | .ok (some (selection, scope), directory) =>
      let desk := { desk with directory }
      if validIdentity selection.hubIdentity then
        match notificationExchange around selection "notificationOutbox" scope desk with
        | (.ok batch, desk) => (.ok (some (selection, scope, batch)), desk)
        | (.error error, desk) =>
            if error.code = "NAVI_IDENTITY_CHANGED" then
              match desk.fleetInvalidateIdentity around selection with
              | (.error failure, desk) => (.error failure, desk)
              | (.ok (), desk) => (.error error, desk)
            else (.error error, desk)
      else (.error CloudRelay.invalid, desk)

/-- The receipt of one delivered notification. -/
def acknowledgeNotification (around : Surroundings) (selection : Selection) (scope : JsonMap)
    (queueId receipt : Json) (desk : Desk) : FleetResult Unit × Desk :=
  let request := Json.obj ((scope.insert "queue_id" queueId).insert "receipt" receipt)
  match notificationExchange around selection "notificationReceipt" request desk with
  | (.error error, desk) => (.error error, desk)
  | (.ok answer, desk) =>
      if (answer.index "acknowledged").asBool = some true then (.ok (), desk)
      else (.error (GatewayError.infrastructure "Navi did not acknowledge notification receipt"),
        desk)

end HarborGate
