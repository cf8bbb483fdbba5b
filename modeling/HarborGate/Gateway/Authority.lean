import HarborGate.Gateway.Identity

/-!
The two ways to ask Beacon for permission: over the relay and, without a fleet, straight over HTTP.
What the authority said is read off the replies here, without looking at the errors that the
client turns them into.
-/

namespace HarborGate

open Interleave NaviFleet

/-- What comes back on one HTTP request: nothing, or a status, the announced length and the body in
chunks. A missing chunk could not be read. -/
inductive HttpReply
  | failed
  | answered (status : Nat) (contentLength : Option Nat) (chunks : List (Option (List UInt8)))

/-- The loop over the chunks, with the bytes read so far. -/
def readBody (broken tooLong : GatewayError) (limit : Nat) (body : List UInt8) :
    List (Option (List UInt8)) → FleetResult (List UInt8)
  | [] => .ok body
  | none :: _ => .error broken
  | some chunk :: rest =>
      if limit < body.length + chunk.length then .error tooLong
      else readBody broken tooLong limit (body ++ chunk) rest

namespace CloudRelay

def maxResponse : Nat := 74096

def invalidResponse : GatewayError :=
  GatewayError.new 502 "NAVI_RELAY_INVALID_RESPONSE" "Navi connection returned an invalid response"

/-- `request`, from the answer to the signed request on; `failed` also stands for credentials that
could not be had. -/
def request : HttpReply → FleetResult (Nat × List UInt8)
  | .failed => .error unavailable
  | .answered status contentLength chunks =>
      if contentLength.any (maxResponse < ·) then .error invalidResponse
      else if 300 ≤ status ∧ status < 400 then .ok (status, [])
      else (readBody unavailable invalidResponse maxResponse [] chunks).map ((status, ·))

end CloudRelay

def RelayReply.ofHttp (parse : List UInt8 → Option Json) (reply : HttpReply) (now : Int) :
    RelayReply :=
  match CloudRelay.request reply with
  | .error error => .failed error
  | .ok (status, bytes) => .answered status (parse bytes) now

/-- The relay as it is reached over HTTP: for each exchange the replies to its requests, with the
instants they are read at. -/
def Surroundings.online (around : Surroundings) (parse : List UInt8 → Option Json)
    (line : Nat → List (HttpReply × Int)) : Surroundings :=
  { around with replies := fun exchange =>
      (line exchange).map fun (reply, now) => RelayReply.ofHttp parse reply now }

@[simp] theorem Surroundings.online_codec (around : Surroundings)
    (parse : List UInt8 → Option Json) (line : Nat → List (HttpReply × Int)) :
    (around.online parse line).codec = around.codec :=
  rfl

/-! ## Beacon over HTTP -/

/-- The client of a gateway without a fleet. `trusted` says whether `trusted_media_artifact_url`
accepts an attachment's URL, `parse` is `serde_json::from_slice`. -/
structure DirectClient where
  apiToken : String
  trusted : String → Bool
  parse : List UInt8 → Option Json
  replies : Nat → HttpReply

namespace HarborBeacon

def mediaRevoked : GatewayError :=
  GatewayError.new 403 "CAMERA_MEDIA_DELIVERY_NOT_ALLOWED"
    "Camera media permission was revoked or the attachment expired"

def mediaUnavailable : GatewayError :=
  GatewayError.infrastructure "Camera media authorization is unavailable"

def mediaTokenMissing : GatewayError :=
  GatewayError.infrastructure "Beacon media authorization is unavailable"

/-- The branch of `authorize_whatsapp_delivery` without a relay. -/
def authorizeWhatsappDirectly (client : DirectClient) (outbound : OutboundMessage) :
    FleetResult Unit := do
  let _ ← authorizationRequest outbound
  match client.replies 0 with
  | .failed => .error unavailable
  | .answered status _ chunks =>
      if status ∈ [400, 401, 403, 404, 410, 422] then .error denied
      else if status ≠ 200 then .error unavailable
      else do
        let body ← readBody unavailable unavailable 4096 [] chunks
        let payload ← require (client.parse body) unavailable
        if (payload.index "allowed").asBool ≠ some true then .error denied else .ok ()

/-- The branch of `authorize_camera_attachments` without a relay, with the number of requests made
so far. -/
def authorizeCamerasDirectly (client : DirectClient) : List Json → Nat → FleetResult Unit
  | [], _ => .ok ()
  | artifact :: rest, asked =>
      match (artifact.index "url").asStr with
      | none => authorizeCamerasDirectly client rest asked
      | some raw =>
          if !client.trusted raw then
            .error (GatewayError.validation "Camera attachment URL is not trusted")
          else if Text.isBlank client.apiToken then .error mediaTokenMissing
          else
            match client.replies asked with
            | .failed => .error mediaUnavailable
            | .answered status _ _ =>
                if 200 ≤ status ∧ status < 300 then authorizeCamerasDirectly client rest (asked + 1)
                else if status ∈ [401, 403, 404, 410] then .error mediaRevoked
                else .error mediaUnavailable

end HarborBeacon

/-! ## What the authority said -/

def HttpReply.deniesMedia : HttpReply → Bool
  | .failed => false
  | .answered status _ _ => status ∈ [401, 403, 404, 410]

def HttpReply.deniesDelivery (parse : List UInt8 → Option Json) : HttpReply → Prop
  | .failed => False
  | .answered status _ chunks =>
      status ∈ [400, 401, 403, 404, 410, 422] ∨
        status = 200 ∧ ∃ body payload,
          readBody HarborBeacon.unavailable HarborBeacon.unavailable 4096 [] chunks = .ok body ∧
          parse body = some payload ∧ (payload.index "allowed").asBool ≠ some true

/-- An answer of the relay that refuses: the device's identity changed, or the device answered with
one of the statuses of a refusal. -/
def relayRefuses (statuses : List Nat) : FleetResult RelayResponse → Prop
  | .error error => error.code = "NAVI_IDENTITY_CHANGED"
  | .ok response => response.status ∈ statuses

def relayDeniesDelivery (codec : CloudRelay.Codec) (answer : FleetResult RelayResponse) : Prop :=
  relayRefuses [400, 401, 403, 404, 410, 422] answer ∨
    ∃ response, answer = .ok response ∧ response.status = 200 ∧
      codec.encodedLen response.body ≤ 4096 ∧ (response.body.index "allowed").asBool ≠ some true

def relayDeniesMedia (answer : FleetResult RelayResponse) : Prop :=
  relayRefuses [400, 401, 403, 404, 410, 416] answer

namespace HarborBeacon

/-- The attachment at which a camera check over the relay ends, with the answer that ended it. -/
def relayStop (around : Surroundings) (selection : Selection) :
    List Json → Desk → Option (Json × FleetResult RelayResponse)
  | [], _ => none
  | artifact :: rest, desk =>
      (((artifact.index "url").asStr).bind remoteMediaArtifactId).bind fun id =>
        let (answer, desk) := desk.exchange around selection "mediaArtifact"
          (.obj [("artifact_id", .str id), ("range", .str "bytes=0-0")])
        match probeOutcome around.codec artifact answer with
        | .error _ => some (artifact, answer)
        | .ok () => relayStop around selection rest desk

/-- How a camera check over HTTP ends when it is not with a grant for every attachment. -/
inductive DirectStop
  | untrusted
  | noToken
  | replied (reply : HttpReply)

def directStop (client : DirectClient) : List Json → Nat → Option DirectStop
  | [], _ => none
  | artifact :: rest, asked =>
      match (artifact.index "url").asStr with
      | none => directStop client rest asked
      | some raw =>
          if !client.trusted raw then some .untrusted
          else if Text.isBlank client.apiToken then some .noToken
          else
            match client.replies asked with
            | .failed => some (.replied .failed)
            | .answered status contentLength chunks =>
                if 200 ≤ status ∧ status < 300 then directStop client rest (asked + 1)
                else some (.replied (.answered status contentLength chunks))

/-- No word from the authority: there was no token to ask with, no reply, or one that is neither a
grant nor a denial. -/
def DirectStop.isOutage : DirectStop → Bool
  | .untrusted => false
  | .noToken => true
  | .replied reply => !reply.deniesMedia

end HarborBeacon

/-! ## The exchanges of a delivery -/

inductive Authorization
  | cameras (artifacts : List Json)
  | whatsapp (outbound : OutboundMessage)

/-- The client of one authorization, with what it will be answered. -/
inductive BeaconClient
  | relay (around : Surroundings) (parse : List UInt8 → Option Json)
      (line : Nat → List (HttpReply × Int)) (selection : Selection) (desk : Desk)
  | direct (client : DirectClient)

namespace BeaconClient

def authorize : BeaconClient → Authorization → FleetResult Unit
  | .relay around parse line selection desk, .cameras artifacts =>
      (HarborBeacon.authorizeCameraAttachments (around.online parse line) selection artifacts desk).1
  | .relay around parse line selection desk, .whatsapp outbound =>
      (HarborBeacon.authorizeWhatsappDelivery (around.online parse line) selection outbound desk).1
  | .direct client, .cameras artifacts => HarborBeacon.authorizeCamerasDirectly client artifacts 0
  | .direct client, .whatsapp outbound => HarborBeacon.authorizeWhatsappDirectly client outbound

/-- The authority answered, and its last answer is a denial. -/
def Denies : BeaconClient → Authorization → Prop
  | .relay around parse line selection desk, .cameras artifacts =>
      ∃ artifact answer,
        HarborBeacon.relayStop (around.online parse line) selection artifacts desk =
          some (artifact, answer) ∧ relayDeniesMedia answer
  | .relay around parse line selection desk, .whatsapp outbound =>
      ∃ request, HarborBeacon.authorizationRequest outbound = .ok request ∧
        relayDeniesDelivery around.codec
          (desk.exchange (around.online parse line) selection "deliveryAuthorization" request).1
  | .direct client, .cameras artifacts =>
      ∃ reply, HarborBeacon.directStop client artifacts 0 = some (.replied reply) ∧
        reply.deniesMedia = true
  | .direct client, .whatsapp _ => (client.replies 0).deniesDelivery client.parse

/-- Outside the two kinds of exchanges that end in the wrong class: a camera check over HTTP that
is an outage, and one over the relay that is denied for an attachment of a MIME type that the
client does not trust either. -/
def Sorts : BeaconClient → Authorization → Prop
  | .relay around parse line selection desk, .cameras artifacts =>
      ∀ artifact response,
        HarborBeacon.relayStop (around.online parse line) selection artifacts desk =
          some (artifact, .ok response) → relayDeniesMedia (.ok response) →
        (artifact.index "mime_type").asStr.any HarborBeacon.trustedAttachmentMime = true
  | .direct client, .cameras artifacts =>
      ∀ stop, HarborBeacon.directStop client artifacts 0 = some stop → stop.isOutage = false
  | _, .whatsapp _ => True

end BeaconClient

/-- The message has what a WhatsApp authorization asks about; without it nobody is asked. -/
def Authorization.Asked : Authorization → Prop
  | .cameras _ => True
  | .whatsapp outbound => ∃ request, HarborBeacon.authorizationRequest outbound = .ok request

end HarborGate
