import HarborGate.Lib.Runs
import HarborGate.Gateway.Adapters
import HarborGate.Weixin.Inbox

/-!
Binding a Weixin account by a QR code: `start_weixin_login`, `poll_weixin_login` and `unbind_weixin`
of `setup.rs`. Any number of these calls run interleaved over one state file; reading it, replacing
the login in it, a request and a reading of the clock are one operation each.
-/

namespace HarborGate

namespace Setup

open Interleave Weixin

/-! ## Operations -/

inductive LoginOp
  | loadLogin
  | saveLogin (login : JsonMap)
  | getBotQr (botType : String)
  | getQrStatus (baseUrl qrcode : String)
  | stateAccount
  | epochSeconds
  | utcNowIso
  | saveAccount (account : WeixinAccount)
  | unbindAdapter

abbrev LoginAns : LoginOp → Type
  | .loadLogin => Except GatewayError JsonMap
  | .saveLogin _ => Except GatewayError Unit
  | .getBotQr _ => Except GatewayError Json
  | .getQrStatus _ _ => Except GatewayError Json
  | .stateAccount => WeixinAccount
  | .epochSeconds => Nat
  | .utcNowIso => String
  | .saveAccount _ => Except GatewayError Unit
  | .unbindAdapter => Json

abbrev LoginRoutine (α : Type) := Prog LoginOp LoginAns α

abbrev LoginGate (α : Type) := Fallible GatewayError LoginOp LoginAns α

def query (op : LoginOp) : LoginRoutine (LoginAns op) :=
  Prog.perform op

def ask (op : LoginOp) : LoginGate (LoginAns op) :=
  ExceptT.lift (query op)

/-- A question whose error ends the call. -/
def propagate {α : Type} (result : Except GatewayError α) : LoginGate α :=
  ExceptT.mk (pure result)

/-! ## The login -/

def weixinQrTtlSeconds : Nat := 480

/-- `Value::as_u64`. -/
def asU64 (value : Json) : Option Nat :=
  (value.asInt.filter fun number => 0 ≤ number ∧ number < 2 ^ 64).map Int.toNat

/-- `string_field`. -/
def stringField (value : Json) (key : String) : String :=
  Adapters.textOf (value.get key)

def qrcodeOf (login : JsonMap) : String :=
  Adapters.textOf (JsonMap.get login "qrcode")

def deadlineOf (login : JsonMap) : Option Nat :=
  (JsonMap.get login "expires_at_epoch").bind asU64

def baseUrlOf (login : JsonMap) : String :=
  ((JsonMap.get login "current_base_url").bind Json.asStr).getD ilinkBaseUrl

/-- The host that `poll_qr_status` asks for a stored base URL. -/
def pollHost (baseUrl : String) : String :=
  if Text.isBlank baseUrl then ilinkBaseUrl else Text.trim baseUrl

structure QrChallenge where
  qrcode : String
  qrcodeImgContent : String
  botType : String

/-- The account that a confirmed status tells of. -/
def accountOf (status : Json) : WeixinAccount where
  accountId := stringField status "ilink_bot_id"
  token := stringField status "bot_token"
  baseUrl :=
    let baseUrl := stringField status "baseurl"
    if Text.isBlank baseUrl then ilinkBaseUrl else baseUrl
  userId := stringField status "ilink_user_id"

def statusOf (status : Json) : String :=
  Text.trim (((status.get "status").bind Json.asStr).getD "wait")

/-- The host that a status redirects to, if any. -/
def redirectHost (status : Json) : Option String :=
  Text.trimmed ((status.get "redirect_host").bind Json.asStr)

/-- A response with the login it shows; the rest of the projection of the login is left out. -/
structure LoginReply where
  status : Nat
  ok : Bool
  message : String
  login : JsonMap

/-! ## The calls -/

def requestQrChallenge (botType : String) : LoginGate QrChallenge := do
  let botType := if Text.isBlank botType then "3" else Text.trim botType
  let payload ← propagate (← ask (.getBotQr botType))
  let qrcode := stringField payload "qrcode"
  if qrcode = "" then
    let account ← ask .stateAccount
    throw (weixinError (redactSensitiveText "Weixin QR response did not include qrcode"
      [account.accountId, account.token]))
  else return {
    qrcode
    qrcodeImgContent := stringField payload "qrcode_img_content"
    botType }

def challengeLogin (challenge : QrChallenge) (startedAt : String) (epoch : Nat) : JsonMap :=
  [("bot_type", .str challenge.botType),
    ("current_base_url", .str ilinkBaseUrl),
    ("expires_at_epoch", .num ((epoch + weixinQrTtlSeconds : Nat) : Int)),
    ("last_checked_at", .str ""),
    ("last_error", .str ""),
    ("qrcode", .str challenge.qrcode),
    ("qrcode_img_content", .str challenge.qrcodeImgContent),
    ("started_at", .str startedAt),
    ("status", .str "wait")]

def errorLogin (botType startedAt checkedAt message : String) : JsonMap :=
  [("bot_type", .str botType), ("last_checked_at", .str checkedAt), ("last_error", .str message),
    ("started_at", .str startedAt), ("status", .str "error")]

def startWeixinLogin : LoginGate LoginReply := do
  match ← ExceptT.lift (requestQrChallenge "3").run with
  | .ok challenge =>
      let startedAt ← ask .utcNowIso
      let epoch ← ask .epochSeconds
      let login := challengeLogin challenge startedAt epoch
      propagate (← ask (.saveLogin login))
      return ⟨200, true, "微信二维码已生成。", login⟩
  | .error error =>
      let startedAt ← ask .utcNowIso
      let checkedAt ← ask .utcNowIso
      let login := errorLogin "3" startedAt checkedAt error.message
      propagate (← ask (.saveLogin login))
      return ⟨502, false, "微信二维码暂时不可用。", login⟩

/-- Whether the login has run out by the clock, which is read for a login with a deadline only. -/
def isExpired (login : JsonMap) : LoginRoutine Bool :=
  match deadlineOf login with
  | none => return false
  | some expires => do
      let now ← query .epochSeconds
      return decide (expires ≤ now)

def expireLogin (login : JsonMap) : LoginGate LoginReply := do
  let login := login.insert "status" (.str "expired")
  let checkedAt ← ask .utcNowIso
  let login := login.insert "last_checked_at" (.str checkedAt)
  propagate (← ask (.saveLogin login))
  return ⟨200, false, "微信二维码已过期。", login⟩

def failLogin (login : JsonMap) (error : GatewayError) : LoginGate LoginReply := do
  let login := login.insert "status" (.str "error")
  let checkedAt ← ask .utcNowIso
  let login := login.insert "last_checked_at" (.str checkedAt)
  let login := login.insert "last_error" (.str error.message)
  propagate (← ask (.saveLogin login))
  return ⟨200, false, "微信扫码状态暂时不可用。", login⟩

/-- What a confirmed status does to the login, once its account is saved. -/
def confirmLogin (login : JsonMap) (status : Json) : LoginGate JsonMap := do
  let account := accountOf status
  if account.accountId = "" ∨ account.token = "" then
    let login := login.insert "status" (.str "error")
    return login.insert "last_error" (.str "微信确认成功，但账号信息不完整。")
  else
    propagate (← ask (.saveAccount account))
    let login := login.insert "account_id" (.str account.accountId)
    let login := login.insert "user_id" (.str account.userId)
    return login.insert "current_base_url" (.str account.baseUrl)

def updateLogin (login : JsonMap) (status : Json) : LoginGate JsonMap := do
  let qrStatus := statusOf status
  let login := login.insert "status" (.str qrStatus)
  let checkedAt ← ask .utcNowIso
  let login := login.insert "last_checked_at" (.str checkedAt)
  let login := login.insert "last_error" (.str "")
  if qrStatus = "scaned_but_redirect" then
    match redirectHost status with
    | some host => return login.insert "current_base_url" (.str ("https://" ++ host))
    | none => return login
  else if qrStatus = "expired" then
    let epoch ← ask .epochSeconds
    return login.insert "expires_at_epoch" (.num (epoch : Int))
  else if qrStatus = "confirmed" then confirmLogin login status
  else return login

def pollWeixinLogin : LoginGate LoginReply := do
  let login ← propagate (← ask .loadLogin)
  let qrcode := qrcodeOf login
  if qrcode = "" then return ⟨404, false, "请先生成微信二维码。", login⟩
  else if ← ExceptT.lift (isExpired login) then expireLogin login
  else
    match ← ask (.getQrStatus (pollHost (baseUrlOf login)) qrcode) with
    | .error error => failLogin login error
    | .ok status =>
        let login ← updateLogin login status
        propagate (← ask (.saveLogin login))
        return ⟨200, ((JsonMap.get login "status").bind Json.asStr) = some "confirmed",
          "微信扫码状态已更新。", login⟩

def unbindWeixin : LoginRoutine Json := do
  let response ← query .unbindAdapter
  if (response.get "ok").bind Json.asBool = some true then
    -- A login that cannot be cleared is left as it is.
    let _ ← query (.saveLogin [])
    return response
  else return response

/-! ## The machine -/

/-- `login` is what the state file has, if it can be read; `clock` is the last reading of it. -/
structure LoginWorld where
  login : Option JsonMap
  clock : Nat

/-- What the surroundings decide at one operation. A failed write may leave a broken file. -/
structure LoginChoice where
  failure : Option String
  broken : Bool
  clock : Nat
  time : String
  reply : Except GatewayError Json
  account : WeixinAccount
  saved : Except GatewayError Unit
  unbound : Json

namespace LoginWorld

def spoil (world : LoginWorld) (choice : LoginChoice) : LoginWorld :=
  if choice.broken then { world with login := none } else world

/-- The clock does not go back, and its seconds keep clear of the end of `u64`. -/
def tick (world : LoginWorld) (choice : LoginChoice) : Option (Nat × LoginWorld) :=
  if world.clock ≤ choice.clock ∧ choice.clock + weixinQrTtlSeconds < 2 ^ 64 then
    some (choice.clock, { world with clock := choice.clock })
  else none

def load (world : LoginWorld) (choice : LoginChoice) : Except GatewayError JsonMap × LoginWorld :=
  match choice.failure, world.login with
  | some text, _ => (.error (GatewayError.infrastructure text), world.spoil choice)
  | none, none => (.error (GatewayError.infrastructure "expected value"), world)
  | none, some login => (.ok login, world)

def save (world : LoginWorld) (choice : LoginChoice) (login : JsonMap) :
    Except GatewayError Unit × LoginWorld :=
  match choice.failure, world.login with
  | some text, _ => (.error (GatewayError.infrastructure text), world.spoil choice)
  | none, none => (.error (GatewayError.infrastructure "expected value"), world)
  | none, some _ => (.ok (), { world with login := some login })

def perform (world : LoginWorld) :
    (op : LoginOp) → LoginChoice → Option (LoginAns op × LoginWorld)
  | .loadLogin, choice => some (world.load choice)
  | .saveLogin login, choice => some (world.save choice login)
  | .getBotQr _, choice => some (choice.reply, world)
  | .getQrStatus _ _, choice => some (choice.reply, world)
  | .stateAccount, choice => some (choice.account, world)
  | .epochSeconds, choice => world.tick choice
  | .utcNowIso, choice => some (choice.time, world)
  | .saveAccount _, choice => some (choice.saved, world)
  | .unbindAdapter, choice => some (choice.unbound, world)

end LoginWorld

inductive LoginCall
  | start
  | poll
  | unbind

inductive LoginResult
  | reply (result : Except GatewayError LoginReply)
  | unbound (response : Json)

def LoginCall.program : LoginCall → LoginRoutine LoginResult
  | .start => do return .reply (← startWeixinLogin.run)
  | .poll => do return .reply (← pollWeixinLogin.run)
  | .unbind => do return .unbound (← unbindWeixin)

abbrev loginMachine : Machine LoginOp LoginAns where
  World := LoginWorld
  Choice := LoginChoice
  Call := LoginCall
  Outside := Empty
  Result := LoginResult
  perform := LoginWorld.perform
  outside event _ := nomatch event
  program := LoginCall.program

end Setup

end HarborGate
