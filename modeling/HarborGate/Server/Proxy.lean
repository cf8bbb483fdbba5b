import Mathlib.Data.List.Destutter
import HarborGate.Models
import HarborGate.Lib.Result
import HarborGate.Lib.Url

/-!
The Beacon proxy: from a request to one of its three facades to the request that is sent upstream.
Paths are bytes, as in a Rust string. `Crates` are the functions of other packages that it calls.
-/

namespace HarborGate

namespace Proxy

open Url

inductive Method
  | get
  | put
  | post
  | patch
  | delete
  | other (name : String)
deriving DecidableEq, Repr

/-- `urlPath` is the path of `Url::parse` of an origin followed by the text, `decode` is
`urlencoding::decode`, which the router's decoding of a wildcard agrees with, and the others are
`form_urlencoded`. -/
structure Crates where
  urlPath : Bytes → Option Bytes
  decode : Bytes → Option Bytes
  formPairs : String → List (String × String)
  formText : List (String × String) → String

/-! ## UTF-8 -/

/-- The ranges of the bytes that follow a lead byte. -/
def continuations (lead : UInt8) : Option (List (UInt8 × UInt8)) :=
  if lead < 0x80 then some []
  else if 0xC2 ≤ lead ∧ lead ≤ 0xDF then some [(0x80, 0xBF)]
  else if lead = 0xE0 then some [(0xA0, 0xBF), (0x80, 0xBF)]
  else if lead = 0xED then some [(0x80, 0x9F), (0x80, 0xBF)]
  else if 0xE1 ≤ lead ∧ lead ≤ 0xEF then some [(0x80, 0xBF), (0x80, 0xBF)]
  else if lead = 0xF0 then some [(0x90, 0xBF), (0x80, 0xBF), (0x80, 0xBF)]
  else if 0xF1 ≤ lead ∧ lead ≤ 0xF3 then some [(0x80, 0xBF), (0x80, 0xBF), (0x80, 0xBF)]
  else if lead = 0xF4 then some [(0x80, 0x8F), (0x80, 0xBF), (0x80, 0xBF)]
  else none

def utf8From : List (UInt8 × UInt8) → Bytes → Bool
  | [], [] => true
  | _ :: _, [] => false
  | [], lead :: rest =>
      match continuations lead with
      | none => false
      | some expected => utf8From expected rest
  | (low, high) :: expected, byte :: rest => low ≤ byte && byte ≤ high && utf8From expected rest

def utf8 (text : Bytes) : Bool :=
  utf8From [] text

/-- `chars().any(char::is_control)`: C0, DEL, and C1 behind its lead byte. -/
def hasControl : Bytes → Bool
  | [] => false
  | [byte] => byte < 0x20 || byte == 0x7F
  | byte :: next :: rest =>
      byte < 0x20 || byte == 0x7F || (byte == 0xC2 && 0x80 ≤ next && next ≤ 0x9F) ||
        hasControl (next :: rest)

/-- What the packages document. -/
structure Crates.Documented (crates : Crates) : Prop where
  parses : ∃ set : EscapeSet, ∀ text, crates.urlPath (0x2F :: text) = some (path set (0x2F :: text))
  decodes : ∀ text, crates.decode text =
    if utf8 (Url.decode text) then some (Url.decode text) else none

/-! ## The target -/

def utf8Bytes (text : String) : Bytes :=
  text.toUTF8.data.toList

def toAsciiLowercase (text : String) : String :=
  String.ofList (text.toList.map Char.toLower)

def isIdentityQueryKey (key : String) : Bool :=
  ["user_id", "open_id", "harboros_user", "harboros_user_id", "workspace_id", "principal_id",
    "account_id"].contains (toAsciiLowercase (Text.trim key))

def sanitizedBeaconQuery (crates : Crates) (query : Option String) : Option String :=
  match query.filter fun value => Text.trim value ≠ "" with
  | none => none
  | some query =>
      let pairs := (crates.formPairs query).filter fun pair => !isIdentityQueryKey pair.1
      if pairs = [] then none else some (crates.formText pairs)

/-- The target without its query. -/
def targetBase (path : Bytes) : Bytes :=
  let tail := trimLead 0x2F path
  if tail = [] then ascii "/api/state" else ascii "/api/" ++ tail

def beaconProxyTargetPath (crates : Crates) (path : Bytes) (query : Option String) : Bytes :=
  match sanitizedBeaconQuery crates query with
  | some query => targetBase path ++ 0x3F :: utf8Bytes query
  | none => targetBase path

def detectionControlSuffixes : List Bytes :=
  [ascii "/cat-detection/control", ascii "/package-detection/control",
    ascii "/package-detection/event-config", ascii "/person-detection/preview"]

def detectionControlSuffix (path : Bytes) : Option Bytes :=
  (stripLead (ascii "cameras/") (trimLead 0x2F path)).bind fun cameraPath =>
    detectionControlSuffixes.find? fun suffix => (stripEnding suffix cameraPath).isSome

def isUnsafeDetectionControlCameraId (cameraId : Bytes) : Bool :=
  cameraId.contains 0x5C || decide ([0x2F, 0x2F] <:+: cameraId) ||
    (cameraId.splitOn 0x2F).any fun segment =>
      segment == [] || segment == ascii "." || segment == ascii ".."

def isSafeDetectionControlCameraId (crates : Crates) (cameraId : Bytes) : Bool :=
  if cameraId = [] ∨ 0x2F ∈ cameraId ∨ 0x5C ∈ cameraId ∨ cameraId = ascii "." ∨
      cameraId = ascii ".." then false
  else
    match crates.decode cameraId with
    | none => false
    | some decoded => !isUnsafeDetectionControlCameraId decoded

def notCanonical : GatewayError :=
  .validation "Detection control path is not canonical"

/-- `detection_control_proxy_target_path` once the decoded tail ends like a control path. -/
def canonicalControl (crates : Crates) (rawSuffix : Bytes) (query : Option String) :
    Except GatewayError Bytes :=
  match (stripLead [0x2F] rawSuffix).filter fun tail => tail.head? ≠ some 0x2F with
  | none => .error notCanonical
  | some rawTail =>
      match detectionControlSuffix rawTail with
      | none => .error notCanonical
      | some controlSuffix =>
          let cameraId := ((stripLead (ascii "cameras/") rawTail).bind
            (stripEnding controlSuffix)).filter (isSafeDetectionControlCameraId crates)
          match cameraId with
          | none => .error notCanonical
          | some cameraId =>
              .ok (beaconProxyTargetPath crates (ascii "cameras/" ++ cameraId ++ controlSuffix)
                query)

def detectionControlProxyTargetPath (crates : Crates) (rawSuffix : Bytes) (query : Option String) :
    Except GatewayError (Option Bytes) :=
  match crates.decode ((stripLead [0x2F] rawSuffix).getD rawSuffix) with
  | none => .error (.validation "Detection control path contains invalid percent encoding")
  | some decodedTail =>
      if (detectionControlSuffix decodedTail).isSome then
        (canonicalControl crates rawSuffix query).map some
      else if ((crates.decode decodedTail).bind detectionControlSuffix).isSome then
        .error notCanonical
      else .ok none

/-! ## Camera ids -/

/-- `split('?').next()`. -/
def beforeQuery (target : Bytes) : Bytes :=
  target.takeWhile (· ≠ 0x3F)

def detectionObservationSuffixes : List Bytes :=
  [ascii "/cat-detection/observation", ascii "/package-detection/observation"]

def detectionObservationCameraId (target : Bytes) : Option Bytes :=
  (stripLead (ascii "/api/cameras/") (beforeQuery target)).bind fun cameraPath =>
    (detectionObservationSuffixes.findSome? fun suffix => stripEnding suffix cameraPath).filter
      fun cameraId => cameraId ≠ [] ∧ 0x2F ∉ cameraId

def detectionControlCameraId (crates : Crates) (target : Bytes) : Option Bytes :=
  (stripLead (ascii "/api/cameras/") (beforeQuery target)).bind fun cameraPath =>
    (detectionControlSuffix (ascii "cameras/" ++ cameraPath)).bind fun controlSuffix =>
      ((stripEnding controlSuffix cameraPath).filter fun encoded =>
          encoded ≠ [] ∧ 0x2F ∉ encoded).bind fun encoded =>
        (crates.decode encoded).filter fun cameraId =>
          cameraId ≠ [] ∧ cameraId.length ≤ 128 ∧ hasControl cameraId = false ∧
            0x5C ∉ cameraId ∧ 0x3F ∉ cameraId ∧ 0x23 ∉ cameraId

def isDetectionObservationProxyPath (path : Bytes) : Bool :=
  (detectionObservationCameraId path).isSome

def isDetectionControlProxyPath (crates : Crates) (path : Bytes) : Bool :=
  (detectionControlCameraId crates path).isSome

def isDetectionControlTargetAfterUrlNormalization (crates : Crates) (target : Bytes) : Bool :=
  match crates.urlPath target with
  | some path => isDetectionControlProxyPath crates path
  | none => false

def beaconProxyTargetPathFromOriginalUri (crates : Crates) (requestPath decodedPath lead : Bytes)
    (query : Option String) : Except GatewayError Bytes :=
  match stripLead lead requestPath with
  | none => .error (.validation "Beacon proxy path does not match its facade")
  | some rawSuffix =>
      match detectionControlProxyTargetPath crates rawSuffix query with
      | .error error => .error error
      | .ok (some target) => .ok target
      | .ok none =>
          let target := beaconProxyTargetPath crates decodedPath query
          if isDetectionControlTargetAfterUrlNormalization crates target then .error notCanonical
          else .ok target

/-! ## The guard -/

def isDlna (path : Bytes) : Bool :=
  path == ascii "/api/dlna" || (ascii "/api/dlna/").isPrefixOf path

/-- The rounds of decoding that are left. -/
def dlnaRounds (crates : Crates) : Nat → Bytes → Bool
  | 0, _ => false
  | rounds + 1, path =>
      if isDlna path then true
      else
        match crates.decode path with
        | none => false
        | some decoded => if decoded = path then false else dlnaRounds crates rounds decoded

def isDlnaProxyPath (crates : Crates) (path : Bytes) : Bool :=
  match crates.urlPath path with
  | none => false
  | some normalized => dlnaRounds crates 4 normalized

def isDetectionJobsPath (path : Bytes) : Bool :=
  path == ascii "/api/vision/detection-jobs" || (ascii "/api/vision/detection-jobs/").isPrefixOf path

def isConversationPath (path : Bytes) : Bool :=
  ((stripLead (ascii "/api/knowledge/conversations/") path).filter fun conversationId =>
    conversationId ≠ [] ∧ 0x2F ∉ conversationId).isSome

/-- The last `match` of `requires_harboros_principal`. -/
def isKnowledgePath (method : Method) (path : Bytes) : Bool :=
  if method = .post ∧ path = ascii "/api/knowledge/search" then true
  else if method = .get ∧ path = ascii "/api/knowledge/conversations" then true
  else if method = .patch ∧ path = ascii "/api/knowledge/conversation-settings" then true
  else if method = .get ∨ method = .delete then isConversationPath path
  else false

def endsInPreview (path : Bytes) : Bool :=
  (ascii "/person-detection/preview").isSuffixOf path

def requiresHarborosPrincipal (crates : Crates) (method : Method) (target : Bytes) : Bool :=
  let path := beforeQuery target
  if isDlnaProxyPath crates path then true
  else if method = .post ∧ endsInPreview path ∧ isDetectionControlProxyPath crates path then true
  else if method = .get ∧ isDetectionObservationProxyPath path then true
  else if (method = .get ∨ method = .put) ∧ isDetectionControlProxyPath crates path then true
  else if isDetectionJobsPath path then true
  else isKnowledgePath method path

/-! ## Principals -/

structure HarborOsPrincipal where
  source : String
  principalId : String
  roles : List String
  cameraScope : Option Bytes
deriving DecidableEq

inductive HarborOsAuthFailure
  | invalidToken
  | accessDenied
  | webUiAccessRequired
  | fullAdminRequired
  | unavailable
deriving DecidableEq, Repr

def harborosAuthGatewayError : HarborOsAuthFailure → GatewayError
  | .invalidToken => .new 401 "HARBOROS_AUTH_FAILED"
      "Missing or invalid HarborOS one-time authentication token"
  | .accessDenied => .new 403 "HARBOROS_ACCESS_DENIED" "HarborOS denied access"
  | .webUiAccessRequired => .new 403 "HARBOROS_WEBUI_ACCESS_REQUIRED"
      "HarborOS WebUI access is required"
  | .fullAdminRequired => .new 403 "HARBOROS_FULL_ADMIN_REQUIRED"
      "HarborOS FULL_ADMIN role is required"
  | .unavailable => .new 503 "HARBOROS_AUTH_UNAVAILABLE"
      "HarborOS authentication service is unavailable"

structure UserInfo where
  pwUid : Int
  webuiAccess : Bool
  roles : List String

structure LoginExResponse where
  responseType : String
  userInfo : Option UserInfo

def principalFromLoginResponse (response : LoginExResponse) :
    Except HarborOsAuthFailure HarborOsPrincipal :=
  if response.responseType = "AUTH_ERR" ∨ response.responseType = "EXPIRED" then
    .error .invalidToken
  else if response.responseType = "DENIED" then .error .accessDenied
  else if response.responseType ≠ "SUCCESS" then .error .unavailable
  else
    match response.userInfo with
    | none => .error .unavailable
    | some user =>
        if ¬user.webuiAccess then .error .webUiAccessRequired
        else if "FULL_ADMIN" ∉ user.roles then .error .fullAdminRequired
        else .ok {
          source := "harboros"
          principalId := "harboros:uid:" ++ toString user.pwUid
          roles := (user.roles.mergeSort (· ≤ ·)).destutter (· ≠ ·)
          cameraScope := none }

/-- `login` is the answer of the middleware to a token, when there is one. -/
structure Host where
  harborbeaconBaseUrl : String
  harborbeaconWebApiToken : String
  harborWorkspaceId : String
  login : Bytes → Option LoginExResponse

/-- A `HeaderMap`, with its names in lower case. -/
abbrev Headers := List (String × Bytes)

def authTokenHeader : String :=
  "x-harboros-auth-token"

/-- `HeaderValue::to_str`, then `trim`. -/
def headerText (value : Bytes) : Option Bytes :=
  if value.all fun byte => byte == 0x09 || (0x20 ≤ byte && byte < 0x7F) then
    let isSpace (byte : UInt8) : Bool := byte == 0x09 || byte == 0x20
    some ((value.dropWhile isSpace).rdropWhile isSpace)
  else none

def authenticateHarborosRequest (host : Host) (headers : Headers) :
    Except GatewayError HarborOsPrincipal :=
  match ((headers.lookup authTokenHeader).bind headerText).filter fun token =>
      token ≠ [] ∧ token.length ≤ 8192 with
  | none => .error (harborosAuthGatewayError .invalidToken)
  | some token =>
      match host.login token with
      | none => .error (harborosAuthGatewayError .unavailable)
      | some response =>
          (principalFromLoginResponse response).mapError harborosAuthGatewayError

/-- The anonymous principal of the LAN. -/
def lanPrincipal (role : String) (cameraId : Bytes) : HarborOsPrincipal where
  source := "harbornavi-lan"
  principalId := "harbornavi-lan:anonymous"
  roles := [role]
  cameraScope := some cameraId

/-- `authenticate_proxy_principal` without a token. -/
def lanAccess (crates : Crates) (method : Method) (target : Bytes) :
    Except GatewayError HarborOsPrincipal :=
  let controlled :=
    if method = .get ∨ method = .put ∨ method = .post ∧ endsInPreview target then
      detectionControlCameraId crates target
    else none
  match controlled with
  | some cameraId => .ok (lanPrincipal "CAMERA_CONTROL" cameraId)
  | none =>
      if method ≠ .get then .error (harborosAuthGatewayError .invalidToken)
      else
        match detectionObservationCameraId target with
        | none => .error (harborosAuthGatewayError .invalidToken)
        | some cameraId => .ok (lanPrincipal "CAMERA_VIEW" cameraId)

def authenticateProxyPrincipal (crates : Crates) (host : Host) (method : Method) (target : Bytes)
    (headers : Headers) : Except GatewayError HarborOsPrincipal :=
  if (headers.lookup authTokenHeader).isSome then authenticateHarborosRequest host headers
  else lanAccess crates method target

/-! ## The request upstream -/

/-- `HeaderValue::from_str` takes the value. -/
def isHeaderValue (value : Bytes) : Bool :=
  value.all fun byte => byte == 0x09 || (0x20 ≤ byte && byte != 0x7F)

def insertTrustedHeader (headers : Headers) (name : String) (value : Bytes) :
    Except GatewayError Headers :=
  if isHeaderValue value then .ok (headers ++ [(name, value)])
  else .error (.new 503 "HARBOROS_AUTH_UNAVAILABLE"
    "HarborOS returned an invalid authenticated principal")

def copiedHeaders : List String :=
  ["content-type", "range", "if-range", "x-request-id", "x-trace-id"]

def principalHeaders (upstream : Headers) (principal : HarborOsPrincipal) (workspaceId : String) :
    Except GatewayError Headers := do
  let upstream ← insertTrustedHeader upstream "x-harbor-principal-source"
    (utf8Bytes principal.source)
  let upstream ← insertTrustedHeader upstream "x-harbor-principal-id"
    (utf8Bytes principal.principalId)
  let upstream ← insertTrustedHeader upstream "x-harbor-principal-roles"
    (utf8Bytes (",".intercalate principal.roles))
  let upstream ← insertTrustedHeader upstream "x-harbor-workspace-id"
    (utf8Bytes (Text.trim workspaceId))
  match principal.cameraScope with
  | none => return upstream
  | some cameraScope => insertTrustedHeader upstream "x-harbor-camera-scope" cameraScope

def beaconUpstreamHeaders (headers : Headers) (webApiToken : String)
    (principal : Option HarborOsPrincipal) (workspaceId : String) :
    Except GatewayError Headers :=
  let copied := copiedHeaders.filterMap fun name => (headers.lookup name).map (name, ·)
  let authorization := utf8Bytes ("Bearer " ++ Text.trim webApiToken)
  if ¬isHeaderValue authorization then
    .error (.new 503 "HARBORBEACON_SERVICE_AUTH_UNAVAILABLE"
      "HarborBeacon proxy service token is invalid")
  else
    let upstream := copied ++ [("authorization", authorization)]
    match principal with
    | none => .ok upstream
    | some principal => principalHeaders upstream principal workspaceId

structure Forwarded where
  method : Method
  baseUrl : String
  target : Bytes
  principal : Option HarborOsPrincipal
  headers : Headers
deriving DecidableEq

def proxyPrincipal (crates : Crates) (host : Host) (method : Method) (headers : Headers)
    (target : Bytes) : Except GatewayError (Option HarborOsPrincipal) :=
  if requiresHarborosPrincipal crates method target then
    (authenticateProxyPrincipal crates host method target headers).map some
  else .ok none

def trimEndSlashes (text : String) : String :=
  String.ofList (text.toList.rdropWhile (· = '/'))

/-- `proxy_beacon_request` up to the request it sends. -/
def proxyBeaconRequest (crates : Crates) (host : Host) (method : Method) (headers : Headers)
    (target : Bytes) : Except GatewayError Forwarded := do
  let baseUrl := trimEndSlashes (Text.trim host.harborbeaconBaseUrl)
  if baseUrl = "" then
    throw (.new 503 "HARBORBEACON_DISABLED" "HarborBeacon admin proxy is not configured")
  if Text.trim host.harborbeaconWebApiToken = "" then
    throw (.new 503 "HARBORBEACON_SERVICE_AUTH_UNAVAILABLE"
      "HarborBeacon proxy service token is not configured")
  let principal ← proxyPrincipal crates host method headers target
  let upstream ← beaconUpstreamHeaders headers host.harborbeaconWebApiToken principal
    host.harborWorkspaceId
  return { method, baseUrl, target, principal, headers := upstream }

/-! ## The facades -/

inductive Facade
  | beacon
  | prefixedBeacon
  | harborAssistant
deriving DecidableEq, Repr

def Facade.lead : Facade → Bytes
  | .beacon => ascii "/api/beacon"
  | .prefixedBeacon => ascii "/api/harbor-gate/api/beacon"
  | .harborAssistant => ascii "/api/harbor-assistant"

/-- A request to a facade: `tail` is what its wildcard matches, or none at its root. A request line
has no blank, and its path ends before `?`. -/
structure Request where
  facade : Facade
  method : Method
  tail : Option Bytes
  query : Option String
  headers : Headers
  visible : ∀ text ∈ tail, ∀ byte ∈ text, isBlank byte = false ∧ isStop byte = false

/-- The target, or why there is none; the router itself refuses a path that is not UTF-8. -/
def Request.target (crates : Crates) (request : Request) : Except (Option GatewayError) Bytes :=
  match request.tail with
  | none => .ok (beaconProxyTargetPath crates [] request.query)
  | some tail =>
      match crates.decode tail with
      | none => .error none
      | some decoded =>
          (beaconProxyTargetPathFromOriginalUri crates (request.facade.lead ++ 0x2F :: tail) decoded
            request.facade.lead request.query).mapError some

def Request.serve (crates : Crates) (host : Host) (request : Request) :
    Except (Option GatewayError) Forwarded :=
  match request.target crates with
  | .error error => .error error
  | .ok target =>
      (proxyBeaconRequest crates host request.method request.headers target).mapError some

/-! ## A gateway at work -/

def standardSet : EscapeSet where
  escapes byte := isBlank byte || 0x7F ≤ byte || (ascii "\x22#<>?^\x60\x7b\x7d").contains byte
  blank byte blank := by simp [blank]
  query := by decide
  fragment := by decide
  kept byte kept := by
    have all : ∀ value : Fin 256, isKept (UInt8.ofNat value.val) = true →
        (isBlank (UInt8.ofNat value.val) || 0x7F ≤ UInt8.ofNat value.val ||
          (ascii "\x22#<>?^\x60\x7b\x7d").contains (UInt8.ofNat value.val)) = false := by
      decide +kernel
    have fact := all ⟨byte.toNat, byte.toNat_lt⟩
    simp only [UInt8.ofNat_toNat] at fact
    exact fact kept

def standardCrates : Crates where
  urlPath text := some (path standardSet text)
  decode text := if utf8 (Url.decode text) then some (Url.decode text) else none
  formPairs _ := []
  formText _ := ""

theorem standardCrates_documented : standardCrates.Documented where
  parses := ⟨standardSet, fun _ => rfl⟩
  decodes _ := rfl

def sampleHost : Host where
  harborbeaconBaseUrl := "http://beacon"
  harborbeaconWebApiToken := "secret"
  harborWorkspaceId := "home"
  login _ := none

/-- A request with neither headers nor a query. -/
def bareRequest (method : Method) (text : String)
    (visible : ∀ byte ∈ ascii text, isBlank byte = false ∧ isStop byte = false) : Request where
  facade := .beacon
  method := method
  tail := some (ascii text)
  query := none
  headers := []
  visible other same := by
    obtain rfl := Option.some.inj same
    exact visible

end Proxy

end HarborGate
