import HarborGate.Lib.Interleave
import HarborGate.Weixin.Inbox

/-!
The poll loop of `runtime.rs` over the Weixin adapter, and the calls that bind and unbind accounts
while it runs. Taking a lock, a read or a write of one file, and a request are one operation each;
between two of them other calls may step in.
-/

namespace HarborGate

namespace Weixin

open Interleave

/-- Where `account` is called. It only names the read in a run. -/
inductive Reader
  | refresh
  | configured
  | poll
  | persist
  | commit
  | claim
  | finish
  | unbind
deriving DecidableEq

structure InboundClaim where
  inboxId : String
  claimToken : Uuid
  payload : Json

inductive WeixinOp
  | currentAccount (reader : Reader)
  | discoverAccount (accountId : String)
  | adoptAccount (account : WeixinAccount)
  | loadSyncBuf (accountId : String)
  | getUpdates (account : WeixinAccount) (syncBuf : String)
  | persistBatch (account : WeixinAccount) (updates : List Json)
  | saveSyncBuf (account : WeixinAccount) (cursor : String)
  | claimItem (account : WeixinAccount) (owner : String) (leaseSeconds : Nat)
  | finishItem (account : WeixinAccount) (finish : InboxFinish)
  | handleInbound (payload : Json)
  | saveAccountFile (account : WeixinAccount)
  | setAccount (account : WeixinAccount)
  | clearAccount (account : WeixinAccount)

abbrev WeixinAns : WeixinOp → Type
  | .currentAccount _ => WeixinAccount
  | .discoverAccount _ => Option WeixinAccount
  | .adoptAccount _ => Unit
  | .loadSyncBuf _ => String
  | .getUpdates _ _ => Except GatewayError Json
  | .persistBatch _ _ => Except GatewayError Unit
  | .saveSyncBuf _ _ => Except GatewayError Unit
  | .claimItem _ _ _ => Except GatewayError (Option InboundClaim)
  | .finishItem _ _ => Except GatewayError Unit
  | .handleInbound _ => Except GatewayError Unit
  | .saveAccountFile _ => Except GatewayError Unit
  | .setAccount _ => Unit
  | .clearAccount _ => Except GatewayError Unit

/-! ## The world -/

/-- `account` is the one in the adapter's memory. -/
structure WeixinWorld where
  now : Time
  issued : List Uuid
  disk : Disk
  account : WeixinAccount

/-- What the surroundings decide at one operation. -/
structure WeixinChoice where
  now : Time
  token : Uuid
  failure : Option String
  response : Except GatewayError Json
  handled : Except GatewayError Unit

def noAccount : WeixinAccount := ⟨"", "", "", ""⟩

def accountChanged (moment : String) : GatewayError :=
  GatewayError.validation ("Weixin account changed " ++ moment)

namespace WeixinWorld

variable (host : Host)

def tick (world : WeixinWorld) (choice : WeixinChoice) : WeixinWorld :=
  { world with now := choice.now }

def accountIsCurrent (world : WeixinWorld) (account : WeixinAccount) : Bool :=
  account.accountId ≠ "" && world.account.accountId = account.accountId &&
    world.account.token = account.token

/-- The end of a file operation: reading or replacing the file may fail, which changes nothing. -/
def store {α : Type} (world : WeixinWorld) (choice : WeixinChoice)
    (result : Except GatewayError (α × Disk)) : Except GatewayError α × WeixinWorld :=
  match choice.failure, result with
  | some text, _ => (.error (GatewayError.infrastructure text), world.tick choice)
  | none, .error error => (.error error, world.tick choice)
  | none, .ok (value, disk) => (.ok value, { world.tick choice with disk })

/-- The part of `refresh_account_from_disk` under the state lock. -/
def adoptAccount (world : WeixinWorld) (account : WeixinAccount) : WeixinWorld :=
  match loadWeixinAccount host world.disk account.accountId with
  | none => world
  | some current =>
      if current.token ≠ account.token then world
      else if world.account.accountId ≠ account.accountId ∨ world.account.token ≠ account.token then
        { world with account }
      else world

def persistBatch (world : WeixinWorld) (choice : WeixinChoice) (account : WeixinAccount)
    (updates : List Json) : Except GatewayError Unit × WeixinWorld :=
  if world.accountIsCurrent account then
    world.store choice ((persistUpdates host choice.now account.accountId updates
      (loadInbox host world.disk account.accountId)).map fun items =>
        ((), saveInbox host world.disk account.accountId items))
  else (.error (accountChanged "before inbox commit"), world.tick choice)

def saveSyncBuf (world : WeixinWorld) (choice : WeixinChoice) (account : WeixinAccount)
    (cursor : String) : Except GatewayError Unit × WeixinWorld :=
  if world.accountIsCurrent account then
    world.store choice (.ok ((), Weixin.saveSyncBuf host world.disk account.accountId cursor))
  else (.error (accountChanged "before cursor commit"), world.tick choice)

/-- `claim_inbound` under the inbox lock. The token has to be fresh; a lease too long for
`ChronoDuration::seconds` ends the task. -/
def claimItem (world : WeixinWorld) (choice : WeixinChoice) (account : WeixinAccount)
    (owner : String) (leaseSeconds : Nat) :
    Option (Except GatewayError (Option InboundClaim) × WeixinWorld) :=
  if world.accountIsCurrent account then
    let items := loadInbox host world.disk account.accountId
    match claimCandidate choice.now items with
    | none => some (world.store choice (.ok (none, world.disk)))
    | some (inboxId, item) =>
        if choice.token ∈ world.issued then none
        else
          (deliveryClaimExpiresAt choice.now leaseSeconds).map fun lease =>
            let claimed := item.claim choice.now choice.token owner lease
            { world with issued := choice.token :: world.issued }.store choice
              (.ok (some ⟨inboxId, choice.token, claimed.payload⟩,
                saveInbox host world.disk account.accountId (items.insert inboxId claimed)))
  else some (.ok none, world.tick choice)

def finishItem (world : WeixinWorld) (choice : WeixinChoice) (account : WeixinAccount)
    (finish : InboxFinish) : Except GatewayError Unit × WeixinWorld :=
  if world.accountIsCurrent account then
    world.store choice ((Weixin.finishItem choice.now finish
      (loadInbox host world.disk account.accountId)).map fun items =>
        ((), saveInbox host world.disk account.accountId items))
  else (.error (accountChanged "before inbox completion"), world.tick choice)

/-- The part of `unbind` under the account's locks. -/
def clearAccount (world : WeixinWorld) (choice : WeixinChoice) (account : WeixinAccount) :
    Except GatewayError Unit × WeixinWorld :=
  let bound := (loadWeixinAccount host world.disk account.accountId).any fun current =>
    current.accountId = account.accountId && current.token = account.token
  if bound && world.account.accountId = account.accountId &&
      world.account.token = account.token then
    match choice.failure with
    | some text => (.error (GatewayError.infrastructure text), world.tick choice)
    | none =>
        (.ok (), { world.tick choice with
          disk := clearWeixinAccountState host world.disk account.accountId
          account := noAccount })
  else (.error (accountChanged "during unbind"), world.tick choice)

def perform (world : WeixinWorld) (op : WeixinOp) (choice : WeixinChoice) :
    Option (WeixinAns op × WeixinWorld) :=
  if choice.now < world.now then none
  else
    match op with
    | .currentAccount _ => some (world.account, world.tick choice)
    | .discoverAccount accountId =>
        some (discoverWeixinAccount host world.disk accountId, world.tick choice)
    | .adoptAccount account => some ((), (world.adoptAccount host account).tick choice)
    | .loadSyncBuf accountId =>
        -- A sync file that cannot be read counts as empty.
        some (if choice.failure.isSome then "" else Weixin.loadSyncBuf host world.disk accountId,
          world.tick choice)
    | .getUpdates _ _ => some (choice.response, world.tick choice)
    | .persistBatch account updates => some (world.persistBatch host choice account updates)
    | .saveSyncBuf account cursor => some (world.saveSyncBuf host choice account cursor)
    | .claimItem account owner leaseSeconds =>
        world.claimItem host choice account owner leaseSeconds
    | .finishItem account finish => some (world.finishItem host choice account finish)
    | .handleInbound _ => some (choice.handled, world.tick choice)
    | .saveAccountFile account =>
        some (world.store choice (.ok ((), saveWeixinAccount host choice.now world.disk account)))
    | .setAccount account => some ((), { world.tick choice with account })
    | .clearAccount account => some (world.clearAccount host choice account)

end WeixinWorld

/-! ## The programs -/

abbrev WeixinRoutine (α : Type) := Prog WeixinOp WeixinAns α

abbrev WeixinGate (α : Type) := Fallible GatewayError WeixinOp WeixinAns α

def query (op : WeixinOp) : WeixinRoutine (WeixinAns op) :=
  Prog.perform op

def ask (op : WeixinOp) : WeixinGate (WeixinAns op) :=
  ExceptT.lift (query op)

section Programs

variable (host : Host)

def refreshAccountFromDisk : WeixinRoutine Unit := do
  let current ← query (.currentAccount .refresh)
  match ← query (.discoverAccount current.accountId) with
  | some account => query (.adoptAccount account)
  | none =>
      match ← query (.discoverAccount host.config.accountId) with
      | some account => query (.adoptAccount account)
      | none => return ()

def account (reader : Reader) : WeixinRoutine WeixinAccount := do
  refreshAccountFromDisk host
  query (.currentAccount reader)

def pollUpdates : WeixinGate PollBatch := do
  ExceptT.lift (refreshAccountFromDisk host)
  let account ← ExceptT.lift (account host .poll)
  if account.configured then
    let syncBuf ← ask (.loadSyncBuf account.accountId)
    match ← ask (.getUpdates account syncBuf) with
    | .ok response => return readUpdates syncBuf response
    | .error error =>
        if isIdleTimeout account error then return { updates := [], nextCursor := syncBuf }
        else throw error
  else return { updates := [], nextCursor := "" }

def persistInboundBatch (updates : List Json) : WeixinGate Unit := do
  let account ← ExceptT.lift (account host .persist)
  if Text.isBlank account.accountId then throw (weixinError "Weixin account is not configured")
  else ExceptT.mk (query (.persistBatch account updates))

def commitPollCursor (nextCursor : String) : WeixinGate Unit := do
  let account ← ExceptT.lift (account host .commit)
  if Text.isBlank account.accountId then throw (weixinError "Weixin account is not configured")
  else ExceptT.mk (query (.saveSyncBuf account nextCursor))

def claimInbound (owner : String) (leaseSeconds : Nat) : WeixinGate (Option InboundClaim) := do
  let account ← ExceptT.lift (account host .claim)
  if Text.isBlank account.accountId then return none
  else ExceptT.mk (query (.claimItem account owner leaseSeconds))

def finishInbound (finish : InboxFinish) : WeixinGate Unit := do
  let account ← ExceptT.lift (account host .finish)
  ExceptT.mk (query (.finishItem account finish))

def isRetryableStatus (status : Nat) : Bool :=
  (500 ≤ status && status < 600) || status = 408 || status = 429

/-- `drain_weixin_inbox`, with the rounds left of its bound. -/
def drainWeixinInbox (owner : String) : Nat → WeixinRoutine Unit
  | 0 => return ()
  | rounds + 1 => do
      match ← (claimInbound host owner (15 * 60)).run with
      | .error _ => return ()
      | .ok none => return ()
      | .ok (some claim) =>
          match ← query (.handleInbound claim.payload) with
          | .ok () =>
              match ← (finishInbound host ⟨claim.inboxId, claim.claimToken, true, false, none⟩).run
              with
              | .ok () => drainWeixinInbox owner rounds
              | .error _ => return ()
          | .error error =>
              let retryable := isRetryableStatus error.status
              -- A failed finish is only logged.
              let _ ← (finishInbound host ⟨claim.inboxId, claim.claimToken, false, retryable,
                some (error.code ++ ": " ++ error.message)⟩).run
              if retryable then return ()
              else drainWeixinInbox owner rounds

/-- One round of the endless loop. -/
def pollRound (owner : String) : WeixinRoutine Unit := do
  let account ← account host .configured
  if account.configured then
    drainWeixinInbox host owner 100
    match ← (pollUpdates host).run with
    | .error _ => return ()
    | .ok batch =>
        match ← (persistInboundBatch host batch.updates).run with
        | .error _ => return ()
        | .ok () =>
            match ← (commitPollCursor host batch.nextCursor).run with
            | .error _ => return ()
            | .ok () => drainWeixinInbox host owner 100
  else return ()

/-- The loop, cut off after any number of rounds. -/
def runWeixinPollRuntime (owner : String) : Nat → WeixinRoutine Unit
  | 0 => return ()
  | rounds + 1 => do
      pollRound host owner
      runWeixinPollRuntime owner rounds

def unbind : WeixinGate Unit := do
  let account ← ExceptT.lift (account host .unbind)
  if Text.isBlank account.accountId then ask (.setAccount noAccount)
  else ExceptT.mk (query (.clearAccount account))

def saveAccount (account : WeixinAccount) : WeixinGate Unit := do
  ExceptT.mk (query (.saveAccountFile account))
  ask (.setAccount account)

end Programs

/-! ## The machine -/

inductive WeixinCall
  | runtime (owner : String) (rounds : Nat)
  | saveAccount (account : WeixinAccount)
  | unbind

def WeixinCall.program (host : Host) : WeixinCall → WeixinRoutine (Except GatewayError Unit)
  | .runtime owner rounds => do
      runWeixinPollRuntime host owner rounds
      return .ok ()
  | .saveAccount account => (Weixin.saveAccount account).run
  | .unbind => (Weixin.unbind host).run

/-- The account of a new adapter. -/
def initialAccount (host : Host) (disk : Disk) : WeixinAccount :=
  (discoverWeixinAccount host disk host.config.accountId).getD
    { host.config with
      baseUrl := if Text.isBlank host.config.baseUrl then ilinkBaseUrl else host.config.baseUrl }

/-- A process that was killed comes up again with the files it left. -/
inductive WeixinOutside
  | restart

abbrev weixinMachine (host : Host) : Machine WeixinOp WeixinAns where
  World := WeixinWorld
  Choice := WeixinChoice
  Call := WeixinCall
  Outside := WeixinOutside
  Result := Except GatewayError Unit
  perform := WeixinWorld.perform host
  outside
    | .restart, world => { world with account := initialAccount host world.disk }
  program := WeixinCall.program host

def WeixinWorld.initial (host : Host) (disk : Disk) : WeixinWorld where
  now := 0
  issued := []
  disk := disk
  account := initialAccount host disk

/-! ## An installation with one account -/

def firstAccount : WeixinAccount :=
  ⟨"first", "token", "", ""⟩

def plainHost : Host where
  config := firstAccount
  isAlphanumeric := Char.isAlphanum
  partsDigest accountId source := accountId ++ "/" ++ source
  payloadDigest _ := ""

def boundDisk : Disk where
  accounts := (∅ : Std.TreeMap String AccountFile).insert "first" ⟨0, firstAccount⟩
  inboxes := ∅
  cursors := ∅

def polledResponse : Json :=
  .obj [("msgs", .arr [.obj [("msg_id", .str "m1")]]), ("get_updates_buf", .str "next")]

def polledChoice : WeixinChoice where
  now := 0
  token := ⟨1⟩
  failure := none
  response := .ok polledResponse
  handled := .ok ()

end Weixin

end HarborGate
