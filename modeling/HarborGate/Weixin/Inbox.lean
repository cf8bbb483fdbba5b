import HarborGate.Store.Ledger

/-!
The Weixin adapter of `weixin.rs`: its account files, the inbox with its records, and the cursor
of the provider's update stream.
-/

namespace HarborGate

namespace Weixin

structure WeixinAccount where
  accountId : String
  token : String
  baseUrl : String
  userId : String
deriving DecidableEq, Repr

def WeixinAccount.configured (account : WeixinAccount) : Bool :=
  !Text.isBlank account.accountId && !Text.isBlank account.token

inductive InboxStatus
  | pending
  | processing
  | succeeded
  | failed
  | terminalFailed
deriving DecidableEq, Repr

structure InboxItem where
  inboxId : String
  providerMessageId : String
  payloadFingerprint : String
  payload : Json
  status : InboxStatus
  retryable : Bool
  attempts : Nat
  owner : Option String
  claimToken : Option Uuid
  claimExpiresAt : LeaseField
  lastError : Option String
  createdAt : Stamp
  updatedAt : Stamp

abbrev Inbox := Std.TreeMap String InboxItem

structure PollBatch where
  updates : List Json
  nextCursor : String

/-- What the adapter takes from its surroundings: its configured account, the letters and digits
of Unicode, and the hexadecimal SHA-256 digests of two length-prefixed parts and of a JSON value's
compact text. -/
structure Host where
  config : WeixinAccount
  isAlphanumeric : Char → Bool
  partsDigest : String → String → String
  payloadDigest : Json → String

def ilinkBaseUrl : String := "https://ilinkai.weixin.qq.com"

/-! ## Account files -/

structure AccountFile where
  modified : Time
  account : WeixinAccount

/-- The files under `accounts/`, by the slug in their names. -/
structure Disk where
  accounts : Std.TreeMap String AccountFile
  inboxes : Std.TreeMap String Inbox
  cursors : Std.TreeMap String String

section Files

variable (host : Host)

def safeSlug (value : String) : String :=
  let text := Text.trim value
  let text := if text = "" then "default" else text
  String.ofList (text.toList.map fun c =>
    if host.isAlphanumeric c || c = '.' || c = '_' || c = '-' then c else '_')

/-- An account as `load_weixin_account_path` reads it back. -/
def AccountFile.load (file : AccountFile) : WeixinAccount where
  accountId := Text.trim file.account.accountId
  token := Text.trim file.account.token
  baseUrl := Text.trim file.account.baseUrl
  userId := Text.trim file.account.userId

def loadWeixinAccount (disk : Disk) (accountId : String) : Option WeixinAccount :=
  (disk.accounts[safeSlug host accountId]?).map AccountFile.load

/-- The names that the scan of the directory passes over. -/
def isStateSlug (slug : String) : Bool :=
  [".sync", ".context_tokens", ".processed_messages", ".runtime"].any fun ending =>
    ending.toList.isSuffixOf slug.toList

def isLater (file other : String × AccountFile) : Bool :=
  other.2.modified < file.2.modified ||
    (other.2.modified = file.2.modified && decide (other.1 ++ ".json" ≤ file.1 ++ ".json"))

/-- The configured account whose file was written last. -/
def latestAccount (disk : Disk) : Option WeixinAccount :=
  let candidates := disk.accounts.toList.filter fun (slug, file) =>
    !isStateSlug slug && file.load.configured
  (candidates.foldl (fun latest file =>
    if latest.any (isLater · file) then latest else some file) none).map (·.2.load)

def discoverWeixinAccount (disk : Disk) (accountId : String) : Option WeixinAccount :=
  if Text.isBlank accountId then latestAccount disk else loadWeixinAccount host disk accountId

def loadSyncBuf (disk : Disk) (accountId : String) : String :=
  (disk.cursors[safeSlug host accountId]?).getD ""

def loadInbox (disk : Disk) (accountId : String) : Inbox :=
  (disk.inboxes[safeSlug host accountId]?).getD ∅

def saveInbox (disk : Disk) (accountId : String) (inbox : Inbox) : Disk :=
  { disk with inboxes := disk.inboxes.insert (safeSlug host accountId) inbox }

def saveSyncBuf (disk : Disk) (accountId syncBuf : String) : Disk :=
  { disk with cursors := disk.cursors.insert (safeSlug host accountId) syncBuf }

def saveWeixinAccount (now : Time) (disk : Disk) (account : WeixinAccount) : Disk :=
  { disk with accounts := disk.accounts.insert (safeSlug host account.accountId) ⟨now, account⟩ }

def clearWeixinAccountState (disk : Disk) (accountId : String) : Disk where
  accounts := disk.accounts.erase (safeSlug host accountId)
  inboxes := disk.inboxes.erase (safeSlug host accountId)
  cursors := disk.cursors.erase (safeSlug host accountId)

end Files

/-! ## A response of the provider -/

def redactSensitiveText (text : String) (secrets : List String) : String :=
  let redacted := secrets.foldl (fun redacted secret =>
    if Text.isBlank secret then redacted
    else Text.replace redacted (Text.trim secret) "[REDACTED]") text
  Text.replace redacted "Bearer " "Bearer [REDACTED] "

@[irreducible]
def isIdleTimeout (account : WeixinAccount) (error : GatewayError) : Bool :=
  Text.contains (Text.toLowercase
    (redactSensitiveText error.message [account.accountId, account.token]))
    "read operation timed out"

def readUpdates (syncBuf : String) (response : Json) : PollBatch where
  updates := (((response.get "msgs").bind Json.asArray).getD []).filter Json.isObject
  nextCursor := ((response.get "get_updates_buf").bind Json.asStr).getD syncBuf

/-! ## Inbox records -/

def extractWeixinMessageId (payload : Json) : String :=
  Text.trim ((((payload.get "msg_id").or (payload.get "client_id")).bind Json.asStr).getD "")

def weixinPayloadFingerprint (host : Host) (payload : Json) : String :=
  "sha256:" ++ host.payloadDigest payload

def stableWeixinInboxId (host : Host) (accountId : String) (payload : Json) : String :=
  let providerMessageId := extractWeixinMessageId payload
  let stableSource :=
    if providerMessageId = "" then weixinPayloadFingerprint host payload else providerMessageId
  "wxinbox_" ++ host.partsDigest accountId stableSource

def newInboxItem (host : Host) (now : Time) (inboxId : String) (payload : Json) : InboxItem where
  inboxId := inboxId
  providerMessageId := extractWeixinMessageId payload
  payloadFingerprint := weixinPayloadFingerprint host payload
  payload := payload
  status := .pending
  retryable := true
  attempts := 0
  owner := none
  claimToken := none
  claimExpiresAt := .null
  lastError := none
  createdAt := utcNowIso now
  updatedAt := utcNowIso now

def identityConflict : GatewayError :=
  GatewayError.new 409 "WEIXIN_INBOX_IDENTITY_CONFLICT"
    "Weixin provider message identity was reused with a different payload"

def persistUpdate (host : Host) (now : Time) (accountId : String) (items : Inbox)
    (payload : Json) : Except GatewayError Inbox :=
  let inboxId := stableWeixinInboxId host accountId payload
  match items[inboxId]? with
  | some existing =>
      if existing.payloadFingerprint ≠ weixinPayloadFingerprint host payload then
        .error identityConflict
      else .ok items
  | none => .ok (items.insert inboxId (newInboxItem host now inboxId payload))

/-- The loop of `persist_inbound_batch`. -/
def persistUpdates (host : Host) (now : Time) (accountId : String) :
    List Json → Inbox → Except GatewayError Inbox
  | [], items => .ok items
  | payload :: rest, items =>
      if payload.isObject then do
        let items ← persistUpdate host now accountId items payload
        persistUpdates host now accountId rest items
      else persistUpdates host now accountId rest items

def claimIsUnexpired (now : Time) (item : InboxItem) : Bool :=
  match item.claimExpiresAt with
  | .at expiry => now < expiry
  | _ => false

def InboxItem.claimable (now : Time) (item : InboxItem) : Bool :=
  ((item.status = .pending || item.status = .failed) && item.retryable) ||
    (item.status = .processing && !claimIsUnexpired now item)

/-- The first claimable record in the order of the ids. -/
def claimCandidate (now : Time) (items : Inbox) : Option (String × InboxItem) :=
  items.toList.find? fun (_, item) => item.claimable now

def InboxItem.claim (now : Time) (token : Uuid) (owner : String) (lease : LeaseField)
    (item : InboxItem) : InboxItem :=
  { item with
    status := .processing
    attempts := saturatingIncrement item.attempts
    owner := some owner
    claimToken := some token
    claimExpiresAt := lease
    updatedAt := utcNowIso now }

structure InboxFinish where
  inboxId : String
  claimToken : Uuid
  succeeded : Bool
  retryable : Bool
  lastError : Option String

def InboxItem.finish (now : Time) (finish : InboxFinish) (item : InboxItem) : InboxItem :=
  { item with
    status :=
      if finish.succeeded then .succeeded
      else if finish.retryable then .failed
      else .terminalFailed
    retryable := !finish.succeeded && finish.retryable
    lastError := finish.lastError
    owner := none
    claimToken := none
    claimExpiresAt := .null
    updatedAt := utcNowIso now }

def weixinError (message : String) : GatewayError :=
  GatewayError.new 502 "PLATFORM_UNAVAILABLE" message

/-- `finish_inbound` on the records of the inbox. -/
def finishItem (now : Time) (finish : InboxFinish) (items : Inbox) :
    Except GatewayError Inbox :=
  match items[finish.inboxId]? with
  | none => .error (weixinError "Weixin inbox claim is missing")
  | some item =>
      if item.status ≠ .processing ∨ item.claimToken ≠ some finish.claimToken then
        .error (weixinError "stale Weixin inbox claim")
      else .ok (items.insert finish.inboxId (item.finish now finish))

end Weixin

end HarborGate
