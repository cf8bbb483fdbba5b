import HarborGate.Lib.Interleave
import HarborGate.Models

/-!
How `feishu_mail.rs` comes by an access token: from the cache, from the state file, by refreshing the
user token, or as a tenant token. The cache lock is released across every file access and request.
-/

namespace HarborGate

namespace FeishuMail

open Interleave

structure FeishuMailConfig where
  userAccessToken : String
  userRefreshToken : String
  userTokenStatePath : String
  appId : String
  appSecret : String
  authBaseUrl : String

structure UserTokenState where
  userAccessToken : String
  userRefreshToken : String
  accessExpiresAtEpochSeconds : Nat
  refreshExpiresAtEpochSeconds : Nat

/-- Instants of the monotonic clock are nanoseconds. -/
structure TokenCache where
  tenantAccessToken : String
  expiresAt : Option Nat
  userAccessToken : String
  userRefreshToken : String
  userExpiresAt : Option Nat

def redactSensitive (settings : FeishuMailConfig) (message : String) : String :=
  [settings.userAccessToken, settings.userRefreshToken, settings.appSecret, settings.appId,
    settings.userTokenStatePath].foldl (fun redacted secret =>
      if Text.trim secret = "" then redacted
      else Text.replace redacted (Text.trim secret) "[redacted]") message

def mailError (settings : FeishuMailConfig) (message : String) : GatewayError :=
  GatewayError.new 502 "PLATFORM_UNAVAILABLE" (redactSensitive settings message)

def authorizationError (settings : FeishuMailConfig) (message : String) : GatewayError :=
  mailError settings ("Feishu Mail authorization failed: " ++ message)

/-! ## Requests -/

inductive TokenRequest
  | refresh (url clientId clientSecret refreshToken : String)
  | tenant (url appId appSecret : String)

/-- What came of a request. `printed` is the status as it is displayed, `payload` what parsing the
body yields. -/
inductive Exchange
  | unreachable (text : String)
  | unread (text : String)
  | answered (status : Nat) (printed raw : String) (payload : Except String Json)

/-- A message of the provider that tells of a lacking authorization. -/
def isAuthorizationMessage (message : String) : Bool :=
  ["auth", "token", "permission", "scope", "unauthorized", "forbidden"].any fun word =>
    Text.contains (Text.toLowercase message) word

def decodeOpenapiResponse (settings : FeishuMailConfig) (unreached : String) :
    Exchange → Except GatewayError Json
  | .unreachable text => .error (mailError settings (unreached ++ ": " ++ text))
  | .unread text => .error (mailError settings ("Could not read Feishu Mail API response: " ++ text))
  | .answered status printed raw payload =>
      if ¬(200 ≤ status ∧ status < 300) then
        let lead := if status = 401 ∨ status = 403 then "Feishu Mail authorization failed"
          else "Feishu Mail API returned"
        .error (mailError settings (lead ++ " HTTP " ++ printed ++ ": " ++ raw))
      else
        match payload with
        | .error text =>
            .error (mailError settings ("Feishu Mail API returned invalid JSON: " ++ text))
        | .ok payload =>
            let code := ((payload.get "code").bind Json.asI64).getD 0
            if code ≠ 0 then
              let message := (((payload.get "msg").or (payload.get "message")).bind
                Json.asStr).getD "unknown error"
              let lead := if isAuthorizationMessage message then "Feishu Mail authorization failed"
                else "Feishu Mail API returned code"
              .error (mailError settings (lead ++ " " ++ toString code ++ ": " ++ message))
            else .ok payload

/-- What a successful refresh grants. -/
structure Granted where
  accessToken : String
  refreshToken : String
  expiresIn : Nat
  refreshExpiresIn : Nat

/-- The tokens of a refresh response; the refresh token stays when the response names no other. -/
def readGranted (refreshToken : String) (payload : Json) : Option Granted :=
  let data := (payload.get "data").getD payload
  let token := Text.trim
    ((((data.get "access_token").or (data.get "user_access_token")).bind Json.asStr).getD "")
  if token = "" then none
  else
    some
      { accessToken := token
        refreshToken := (Text.trimmed ((data.get "refresh_token").bind Json.asStr)).getD
          (Text.trim refreshToken)
        expiresIn := (max (((data.get "expires_in").bind Json.asI64).getD 7200) 60).toNat
        refreshExpiresIn := (max ((((data.get "refresh_token_expires_in").or
          (data.get "refresh_expires_in")).bind Json.asI64).getD 0) 0).toNat }

def saturatingAdd (left right : Nat) : Nat :=
  min (left + right) (2 ^ 64 - 1)

/-- The refresh token of the stored state, or the configured one. -/
def submittedToken (settings : FeishuMailConfig) (state : Option UserTokenState) : String :=
  (Text.trimmed (state.map UserTokenState.userRefreshToken)).getD
    (Text.trim settings.userRefreshToken)

/-! ## Operations -/

inductive MailOp
  | readUserCache
  | readTenantCache
  | loadUserTokenState
  | nowEpochSeconds
  | post (request : TokenRequest)
  | saveUserTokenState (state : UserTokenState)
  | cacheUser (token refreshToken : String) (ttlSeconds : Nat)
  | cacheTenant (token : String) (ttlSeconds : Nat)

abbrev MailAns : MailOp → Type
  | .readUserCache => Option String
  | .readTenantCache => Option String
  | .loadUserTokenState => Except GatewayError (Option UserTokenState)
  | .nowEpochSeconds => Nat
  | .post _ => Exchange
  | .saveUserTokenState _ => Except GatewayError Unit
  | .cacheUser _ _ _ => Unit
  | .cacheTenant _ _ => Unit

inductive TokenStateFile
  | absent
  | invalid (text : String)
  | written (state : UserTokenState)

structure MailWorld where
  cache : TokenCache
  file : TokenStateFile

inductive SaveFault
  | createDirectory
  | serialize
  | write
  | protect
  | replace

def SaveFault.text : SaveFault → String
  | .createDirectory => "could not create token state directory"
  | .serialize => "could not serialize token state"
  | .write => "could not write token state"
  | .protect => "could not protect token state"
  | .replace => "could not replace token state"

/-- What the surroundings decide at one operation. -/
structure MailChoice where
  instant : Nat
  epochSeconds : Nat
  exchange : Exchange
  readFault : Option String
  saveFault : Option (SaveFault × String)

namespace MailWorld

def unexpired (expiresAt : Option Nat) (instant : Nat) : Bool :=
  expiresAt.any (instant < ·)

def loadUserTokenState (settings : FeishuMailConfig) (world : MailWorld)
    (readFault : Option String) : Except GatewayError (Option UserTokenState) :=
  if Text.trim settings.userTokenStatePath = "" then .ok none
  else
    match world.file, readFault with
    | .absent, _ => .ok none
    | _, some text => .error (authorizationError settings ("could not read token state: " ++ text))
    | .invalid text, none =>
        .error (authorizationError settings ("token state is invalid JSON: " ++ text))
    | .written state, none => .ok (some state)

/-- The state goes to a temporary file that then takes the place of the old one. -/
def saveUserTokenState (settings : FeishuMailConfig) (world : MailWorld) (state : UserTokenState)
    (saveFault : Option (SaveFault × String)) : Except GatewayError Unit × MailWorld :=
  if Text.trim settings.userTokenStatePath = "" then (.ok (), world)
  else
    match saveFault with
    | some (fault, text) =>
        (.error (authorizationError settings (fault.text ++ ": " ++ text)), world)
    | none => (.ok (), { world with file := .written state })

def perform (settings : FeishuMailConfig) (world : MailWorld) (op : MailOp) (choice : MailChoice) :
    Option (MailAns op × MailWorld) :=
  match op with
  | .readUserCache =>
      let cached := world.cache.userAccessToken ≠ "" &&
        unexpired world.cache.userExpiresAt choice.instant
      some (if cached then some world.cache.userAccessToken else none, world)
  | .readTenantCache =>
      let cached := world.cache.tenantAccessToken ≠ "" &&
        unexpired world.cache.expiresAt choice.instant
      some (if cached then some world.cache.tenantAccessToken else none, world)
  | .loadUserTokenState => some (world.loadUserTokenState settings choice.readFault, world)
  | .nowEpochSeconds => some (choice.epochSeconds, world)
  | .post _ => some (choice.exchange, world)
  | .saveUserTokenState state => some (world.saveUserTokenState settings state choice.saveFault)
  | .cacheUser token refreshToken ttlSeconds =>
      some ((), { world with cache := { world.cache with
        userAccessToken := token
        userRefreshToken := refreshToken
        userExpiresAt := some (choice.instant + ttlSeconds * 1000000000) } })
  | .cacheTenant token ttlSeconds =>
      some ((), { world with cache := { world.cache with
        tenantAccessToken := token
        expiresAt := some (choice.instant + ttlSeconds * 1000000000) } })

/-- A new adapter over the state file as it finds it. -/
def initial (file : TokenStateFile) : MailWorld where
  cache := ⟨"", none, "", "", none⟩
  file := file

end MailWorld

/-! ## The programs -/

abbrev MailRoutine (α : Type) := Prog MailOp MailAns α

abbrev MailGate (α : Type) := Fallible GatewayError MailOp MailAns α

def query (op : MailOp) : MailRoutine (MailAns op) :=
  Prog.perform op

def ask (op : MailOp) : MailGate (MailAns op) :=
  ExceptT.lift (query op)

section Programs

variable (settings : FeishuMailConfig)

def authUrl (path : String) : String :=
  String.ofList (settings.authBaseUrl.toList.rdropWhile (· = '/')) ++ path

def hasAppCredentials : Bool :=
  Text.trim settings.appId ≠ "" && Text.trim settings.appSecret ≠ ""

/-- The access token of the state file, as long as it is good for a minute. -/
def storedAccessToken : Option UserTokenState → MailRoutine (Option String)
  | none => return none
  | some state => do
      if Text.trim state.userAccessToken = "" then return none
      else
        let now ← query .nowEpochSeconds
        if saturatingAdd now 60 < state.accessExpiresAtEpochSeconds then
          let later ← query .nowEpochSeconds
          query (.cacheUser (Text.trim state.userAccessToken) (Text.trim state.userRefreshToken)
            (max (state.accessExpiresAtEpochSeconds - later - 30) 30))
          return some (Text.trim state.userAccessToken)
        else return none

def refreshExpiresAt (state : Option UserTokenState) (refreshExpiresIn : Nat) : MailRoutine Nat :=
  if refreshExpiresIn = 0 then
    return (state.map UserTokenState.refreshExpiresAtEpochSeconds).getD 0
  else do
    let now ← query .nowEpochSeconds
    return saturatingAdd now refreshExpiresIn

def refreshUserToken (state : Option UserTokenState) : MailGate String := do
  let refreshToken := submittedToken settings state
  if refreshToken = "" then
    throw (authorizationError settings "user refresh token is not configured")
  else if hasAppCredentials settings then
    let exchange ← ask (.post (.refresh (authUrl settings "/open-apis/authen/v2/oauth/token")
      settings.appId settings.appSecret refreshToken))
    let payload ← ExceptT.mk (pure
      (decodeOpenapiResponse settings "Could not reach Feishu Mail refresh API" exchange))
    match readGranted refreshToken payload with
    | none => throw (authorizationError settings "refresh response was empty")
    | some granted =>
        let now ← ask .nowEpochSeconds
        let refreshExpires ← ExceptT.lift (refreshExpiresAt state granted.refreshExpiresIn)
        ExceptT.mk (query (.saveUserTokenState
          { userAccessToken := granted.accessToken
            userRefreshToken := granted.refreshToken
            accessExpiresAtEpochSeconds := saturatingAdd now granted.expiresIn
            refreshExpiresAtEpochSeconds := refreshExpires }))
        ask (.cacheUser granted.accessToken granted.refreshToken (max (granted.expiresIn - 60) 30))
        return granted.accessToken
  else throw (authorizationError settings "app credentials are not configured")

def getUserAccessToken : MailGate String := do
  match ← ask .readUserCache with
  | some token => return token
  | none =>
      let state ← ExceptT.mk (query .loadUserTokenState)
      match ← ExceptT.lift (storedAccessToken state) with
      | some token => return token
      | none => refreshUserToken settings state

def getTenantAccessToken : MailGate String := do
  match ← ask .readTenantCache with
  | some token => return token
  | none =>
      if hasAppCredentials settings then
        let exchange ← ask (.post (.tenant
          (authUrl settings "/open-apis/auth/v3/tenant_access_token/internal")
          settings.appId settings.appSecret))
        let payload ← ExceptT.mk (pure
          (decodeOpenapiResponse settings "Could not reach Feishu Mail auth API" exchange))
        let token := Text.trim (((payload.get "tenant_access_token").bind Json.asStr).getD "")
        if token = "" then
          throw (authorizationError settings "tenant token response was empty")
        else
          let expire := ((payload.get "expire").bind Json.asI64).getD 0
          ask (.cacheTenant token (max (expire - 60) 60).toNat)
          return token
      else throw (authorizationError settings "app credentials are not configured")

def accessToken : MailGate (String × String) := do
  let refreshRequested := Text.trim settings.userRefreshToken ≠ "" ||
    Text.trim settings.userTokenStatePath ≠ ""
  if refreshRequested && hasAppCredentials settings then
    return (← getUserAccessToken settings, "user_refresh_token")
  else if Text.trim settings.userAccessToken ≠ "" then
    return (Text.trim settings.userAccessToken, "user_access_token")
  else return (← getTenantAccessToken settings, "tenant_access_token")

end Programs

/-! ## The machine -/

inductive MailCall
  | accessToken

/-- Any number of `access_token` calls on one adapter. -/
abbrev mailMachine (settings : FeishuMailConfig) : Machine MailOp MailAns where
  World := MailWorld
  Choice := MailChoice
  Call := MailCall
  Outside := Empty
  Result := Except GatewayError (String × String)
  perform := MailWorld.perform settings
  outside event _ := event.elim
  program
    | .accessToken => (accessToken settings).run

end FeishuMail

end HarborGate
