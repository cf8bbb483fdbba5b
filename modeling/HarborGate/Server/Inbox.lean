import HarborGate.Gateway.Adapters

/-!
What reaches the Navi directory: the entry points that call `handle_inbound`, and the WhatsApp
inbox between the signed webhook and the loop that drains it. A run lists the requests and the
background steps in the order they happen; `calls` are those of `fleet.begin` and `fleet.select`.
-/

namespace HarborGate

namespace Inbox

open Adapters

/-- What the gateway is given. `verifies` is the HMAC check of a body under the app secret,
`itemId` the digest that names an inbox item, `oversized` the length check on its file. -/
structure Host where
  fleet : Bool
  feishu : FeishuConfig
  whatsapp : WhatsAppConfig
  formats : WhatsApp.Formats
  parseJson : String → Option Json
  parseBody : List UInt8 → Option Json
  verifies : List UInt8 → List UInt8 → Bool
  itemId : String → String → String

inductive Status
  | pending
  | running
  | done
deriving DecidableEq, Repr

structure Item where
  id : String
  status : Status
  createdAt : Int
  attempts : Nat
  claimedAt : Option Int
  retryAt : Option Int
  payload : Json

structure World where
  inbox : List Item
  claimed : List Item

def World.initial : World where
  inbox := []
  claimed := []

inductive FleetCall
  | begin (inbound : InboundMessage)
  | select (inbound : InboundMessage)

def FleetCall.inbound : FleetCall → InboundMessage
  | .begin inbound | .select inbound => inbound

/-- What the surroundings decide while one message is normalised. -/
structure Reading where
  stamp : String
  kept : Except GatewayError Unit

def normalize (host : Host) (reading : Reading) (adapter : String) (payload : Json) : Normalized :=
  if adapter = "webhook" then Webhook.normalizeInbound reading.stamp payload
  else if adapter = "feishu" then
    Feishu.normalizeInbound host.feishu host.parseJson reading.stamp payload
  else if adapter = "feishu_mail" then FeishuMail.normalizeInbound payload
  else if adapter = "weixin" then Weixin.normalizeInbound reading.kept reading.stamp payload
  else if adapter = "whatsapp" then WhatsApp.normalizeInbound host.whatsapp host.formats payload
  else .error (.validation ("Unknown adapter: " ++ adapter))

/-- The calls of the directory in `handle_inbound`; all that follows them works on the result. -/
def handleInbound (host : Host) (reading : Reading) (adapter : String) (payload : Json) :
    List FleetCall :=
  match normalize host reading adapter payload with
  | .error _ => []
  | .ok inbound =>
      if inbound.platform = "whatsapp" ∧ host.fleet then
        if Text.startsWith (Text.trim inbound.text) "NAVI " then [.begin inbound]
        else [.select inbound]
      else []

/-! ## The signed webhook -/

def hexByte (high low : Char) : Option UInt8 :=
  let digit (c : Char) : Option Nat :=
    if c.isDigit then some (c.toNat - 48)
    else if 'a' ≤ c ∧ c ≤ 'f' then some (c.toNat - 87)
    else if 'A' ≤ c ∧ c ≤ 'F' then some (c.toNat - 55)
    else none
  (digit high).bind fun left => (digit low).map fun right => UInt8.ofNat (16 * left + right)

def hexBytes : List Char → Option (List UInt8)
  | [] => some []
  | [_] => none
  | high :: low :: rest => (hexByte high low).bind fun byte => (hexBytes rest).map (byte :: ·)

/-- The text messages of one change, each with the phone number it was sent to. -/
def changeMessages (phoneNumberId : String) (change : Json) : List Json :=
  let value := change.index "value"
  if (change.index "field").asStr ≠ some "messages" ∨
      (value.pointer ["metadata", "phone_number_id"]).bind Json.asStr ≠ some phoneNumberId then []
  else
    (((value.index "messages").asArray.getD []).filter fun message =>
        (message.index "type").asStr = some "text").map fun message =>
      .obj [("message", message), ("phone_number_id", .str phoneNumberId)]

def bodyMessages (phoneNumberId : String) (payload : Json) : List Json :=
  ((payload.index "entry").asArray.getD []).flatMap fun entry =>
    ((entry.index "changes").asArray.getD []).flatMap (changeMessages phoneNumberId)

def verifiedMessages (host : Host) (body : List UInt8) (signature : String) :
    Except GatewayError (List Json) := do
  WhatsApp.requireConfig host.whatsapp
  if 1024 * 1024 < body.length then refuse "WhatsApp webhook is too large"
  match Text.stripLead signature "sha256=" with
  | none => throw WhatsApp.denied
  | some hex =>
      if hex.toList.length ≠ 64 then throw WhatsApp.denied
      match hexBytes hex.toList with
      | none => throw WhatsApp.denied
      | some bytes =>
          if ¬host.verifies body bytes then throw WhatsApp.denied
          match host.parseBody body with
          | none => refuse "Invalid WhatsApp webhook"
          | some payload =>
              if (payload.index "object").asStr ≠ some "whatsapp_business_account" then
                refuse "Invalid WhatsApp account event"
              if 100 < (bodyMessages host.whatsapp.phoneNumberId payload).length then
                refuse "WhatsApp webhook contains too many messages"
              return bodyMessages host.whatsapp.phoneNumberId payload

/-! ## The inbox -/

/-- `enqueue`: the messages before one that fails stay in the inbox. -/
def enqueue (host : Host) (now : Int) : List Json → List Item → List Item
  | [], inbox => inbox
  | payload :: rest, inbox =>
      match WhatsApp.normalizeInbound host.whatsapp host.formats payload with
      | .error _ => inbox
      | .ok inbound =>
          let id := host.itemId host.whatsapp.phoneNumberId inbound.messageId
          if inbox.any (·.id = id) then enqueue host now rest inbox
          else if 10000 < inbox.length + 1 then inbox
          else enqueue host now rest (inbox ++ [{
            id
            status := .pending
            createdAt := now
            attempts := 0
            claimedAt := none
            retryAt := none
            payload }])

def replaceItem (inbox : List Item) (item : Item) : List Item :=
  inbox.map fun other => if other.id = item.id then item else other

/-- `claim_message` over the files in the order the directory lists them; `oversized` are those
it skips for their size. -/
def claimMessage (now : Int) (oversized : List String) :
    List String → List Item → Option Item × List Item
  | [], inbox => (none, inbox)
  | id :: rest, inbox =>
      match inbox.find? (·.id = id) with
      | none => claimMessage now oversized rest inbox
      | some item =>
          if id ∈ oversized then claimMessage now oversized rest inbox
          else if item.createdAt < now - 7 * 86400 ∧ item.status = .done then
            claimMessage now oversized rest (inbox.filter (·.id ≠ id))
          else if item.status ≠ .done ∧ (item.createdAt < now - 86400 ∨ 30 ≤ item.attempts) then
            claimMessage now oversized rest
              (replaceItem inbox { item with status := .done, payload := .null })
          else if (item.status = .pending ∨
              item.status = .running ∧ item.claimedAt.getD now < now - 600) ∧
              item.retryAt.getD 0 ≤ now then
            let running := { item with
              status := .running
              claimedAt := some now
              attempts := item.attempts + 1 }
            (some running, replaceItem inbox running)
          else claimMessage now oversized rest inbox

/-- `finish_message` of a claimed copy. -/
def finishMessage (now : Int) (item : Item) (retry : Bool) (inbox : List Item) : List Item :=
  match inbox.find? (·.id = item.id) with
  | none => inbox
  | some current =>
      if current.status ≠ .running ∨ current.attempts ≠ item.attempts ∨
          current.claimedAt ≠ item.claimedAt then inbox
      else if retry then
        replaceItem inbox { item with status := .pending, retryAt := some (now + 60) }
      else replaceItem inbox { item with status := .done, payload := .null }

/-! ## Runs -/

/-- A request, or a step of a background task. `message` is `POST /messages/{adapter}` under
either prefix; `other` is any request that leads to no `handle_inbound`. -/
inductive Event
  | message (adapter : String) (payload : Json)
  | feishuWebhook (payload : Json)
  | whatsappWebhook (body : List UInt8) (signature : String)
  | gatewayTurn (payload : Json)
  | other
  | feishuSocket (payload : Json)
  | weixinPoll (payload : Json)
  | drain (oversized order : List String)
  | finish (index : Nat) (retry : Bool)

structure Moment where
  now : Int
  reading : Reading
  event : Event

/-- The claim of one round of the loop. -/
def claimRound (host : Host) (now : Int) (oversized order : List String) (inbox : List Item) :
    Option Item × List Item :=
  if host.whatsapp.configured then claimMessage now oversized order inbox else (none, inbox)

def Moment.calls (host : Host) (moment : Moment) (world : World) : List FleetCall :=
  match moment.event with
  | .message adapter payload =>
      if adapter = "whatsapp" then [] else handleInbound host moment.reading adapter payload
  | .feishuWebhook payload =>
      if Feishu.isUrlVerification payload then []
      else handleInbound host moment.reading "feishu" payload
  | .feishuSocket payload => handleInbound host moment.reading "feishu" payload
  | .weixinPoll payload => handleInbound host moment.reading "weixin" payload
  | .drain oversized order =>
      match (claimRound host moment.now oversized order world.inbox).1 with
      | none => []
      | some item => handleInbound host moment.reading "whatsapp" item.payload
  | .whatsappWebhook _ _ | .gatewayTurn _ | .other | .finish _ _ => []

def Moment.apply (host : Host) (moment : Moment) (world : World) : World :=
  match moment.event with
  | .whatsappWebhook body signature =>
      match verifiedMessages host body signature with
      | .error _ => world
      | .ok messages => { world with inbox := enqueue host moment.now messages world.inbox }
  | .drain oversized order =>
      let result := claimRound host moment.now oversized order world.inbox
      { inbox := result.2
        claimed := world.claimed ++ result.1.toList }
  | .finish index retry =>
      match world.claimed[index]? with
      | none => world
      | some item => { world with inbox := finishMessage moment.now item retry world.inbox }
  | _ => world

def run (host : Host) (moments : List Moment) : World :=
  moments.foldl (fun world moment => moment.apply host world) .initial

/-! ## Where an inbox item comes from -/

/-- The payload was in a body whose HMAC an earlier webhook request checked. -/
def Verified (host : Host) (past : List Moment) (payload : Json) : Prop :=
  ∃ earlier ∈ past, ∃ body signature hex bytes messages,
    earlier.event = .whatsappWebhook body signature ∧
    Text.stripLead signature "sha256=" = some hex ∧ hexBytes hex.toList = some bytes ∧
    host.verifies body bytes = true ∧ verifiedMessages host body signature = .ok messages ∧
    payload ∈ messages

theorem Verified.extend {host : Host} {past : List Moment} {payload : Json} (moment : Moment)
    (verified : Verified host past payload) : Verified host (past ++ [moment]) payload := by
  obtain ⟨earlier, member, facts⟩ := verified
  exact ⟨earlier, List.mem_append_left _ member, facts⟩

theorem verifiedMessages_ok {host : Host} {body : List UInt8} {signature : String}
    {messages : List Json} (ok : verifiedMessages host body signature = .ok messages) :
    ∃ hex bytes, Text.stripLead signature "sha256=" = some hex ∧
      hexBytes hex.toList = some bytes ∧ host.verifies body bytes = true := by
  simp only [verifiedMessages, Result.bind_eq_ok] at ok
  obtain ⟨_, -, ok⟩ := ok
  split at ok
  · simp [refuse, bind, Except.bind] at ok
  cases hex : Text.stripLead signature "sha256=" with
  | none => simp [hex, throw, throwThe, MonadExceptOf.throw] at ok
  | some text =>
      simp only [hex] at ok
      split at ok
      · simp [throw, throwThe, MonadExceptOf.throw, bind, Except.bind] at ok
      cases decoded : hexBytes text.toList with
      | none => simp [decoded, throw, throwThe, MonadExceptOf.throw] at ok
      | some bytes =>
          simp only [decoded] at ok
          split at ok
          · simp [throw, throwThe, MonadExceptOf.throw, bind, Except.bind] at ok
          · rename_i verifies
            exact ⟨text, bytes, rfl, decoded, by simpa using verifies⟩

theorem mem_enqueue {host : Host} {now : Int} {item : Item} :
    ∀ {messages : List Json} {inbox : List Item}, item ∈ enqueue host now messages inbox →
      item ∈ inbox ∨ item.payload ∈ messages := by
  intro messages
  induction messages with
  | nil => exact fun member => .inl member
  | cons payload rest ih =>
      intro inbox member
      simp only [enqueue] at member
      split at member
      · exact .inl member
      · split at member
        · exact (ih member).imp id (List.mem_cons_of_mem _)
        · split at member
          · exact .inl member
          · rcases ih member with old | new
            · rcases List.mem_append.mp old with older | added
              · exact .inl older
              · obtain rfl := List.mem_singleton.mp added
                exact .inr List.mem_cons_self
            · exact .inr (List.mem_cons_of_mem _ new)

/-- Every item that is not done carries a payload with the property. -/
def Live (P : Json → Prop) (inbox : List Item) : Prop :=
  ∀ item ∈ inbox, item.status ≠ .done → P item.payload

theorem Live.replace {P : Json → Prop} {inbox : List Item} {item : Item} (live : Live P inbox)
    (holds : item.status ≠ .done → P item.payload) : Live P (replaceItem inbox item) := by
  intro other member open_
  obtain ⟨before, old, rfl⟩ := List.mem_map.mp member
  by_cases same : before.id = item.id
  · rw [if_pos same] at open_ ⊢
    exact holds open_
  · rw [if_neg same] at open_ ⊢
    exact live before old open_

theorem Live.claim {P : Json → Prop} {now : Int} {oversized : List String} :
    ∀ {order : List String} {inbox : List Item}, Live P inbox →
      Live P (claimMessage now oversized order inbox).2 ∧
        ∀ item, (claimMessage now oversized order inbox).1 = some item → P item.payload := by
  intro order
  induction order with
  | nil => exact fun live => ⟨live, by simp [claimMessage]⟩
  | cons id rest ih =>
      intro inbox live
      simp only [claimMessage]
      split
      · exact ih live
      · rename_i item found
        have member := List.mem_of_find?_eq_some found
        split
        · exact ih live
        split
        · exact ih fun other kept => live other (List.mem_filter.mp kept).1
        split
        · exact ih (live.replace (by simp))
        split
        · rename_i eligible
          have open_ : item.status ≠ .done := by
            rcases eligible.1 with pending | ⟨running, -⟩
            · simp [pending]
            · simp [running]
          refine ⟨live.replace fun _ => live item member open_, ?_⟩
          intro claimed same
          obtain rfl := Option.some.inj same
          exact live item member open_
        · exact ih live

theorem Live.round {P : Json → Prop} {host : Host} {now : Int} {oversized order : List String}
    {inbox : List Item} (live : Live P inbox) :
    Live P (claimRound host now oversized order inbox).2 ∧
      ∀ item, (claimRound host now oversized order inbox).1 = some item → P item.payload := by
  rw [claimRound]
  split
  · exact live.claim
  · exact ⟨live, by simp⟩

structure Sourced (host : Host) (past : List Moment) (world : World) : Prop where
  inbox : Live (Verified host past) world.inbox
  claimed : ∀ item ∈ world.claimed, Verified host past item.payload

theorem Sourced.apply {host : Host} {past : List Moment} {world : World} (moment : Moment)
    (sourced : Sourced host past world) :
    Sourced host (past ++ [moment]) (moment.apply host world) := by
  have inbox : Live (Verified host (past ++ [moment])) world.inbox :=
    fun item member open_ => (sourced.inbox item member open_).extend moment
  have claimed : ∀ item ∈ world.claimed, Verified host (past ++ [moment]) item.payload :=
    fun item member => (sourced.claimed item member).extend moment
  cases chosen : moment.event with
  | whatsappWebhook body signature =>
      simp only [Moment.apply, chosen]
      split
      · exact ⟨inbox, claimed⟩
      · rename_i messages ok
        refine ⟨fun item member open_ => ?_, claimed⟩
        rcases mem_enqueue member with old | new
        · exact inbox item old open_
        · obtain ⟨hex, bytes, stripped, decoded, verifies⟩ := verifiedMessages_ok ok
          exact ⟨moment, by simp, body, signature, hex, bytes, messages, chosen, stripped, decoded,
            verifies, ok, new⟩
  | drain oversized order =>
      have round : Live (Verified host (past ++ [moment]))
          (claimRound host moment.now oversized order world.inbox).2 ∧
          ∀ item, (claimRound host moment.now oversized order world.inbox).1 = some item →
            Verified host (past ++ [moment]) item.payload := inbox.round
      simp only [Moment.apply, chosen]
      refine ⟨round.1, fun item member => ?_⟩
      rcases List.mem_append.mp member with old | new
      · exact claimed item old
      · exact round.2 item (Option.mem_toList.mp new)
  | finish index retry =>
      simp only [Moment.apply, chosen]
      split
      · exact ⟨inbox, claimed⟩
      · rename_i item found
        have verified := claimed item (List.mem_of_getElem? found)
        refine ⟨?_, claimed⟩
        simp only [finishMessage]
        split
        · exact inbox
        split
        · exact inbox
        split
        · exact inbox.replace fun _ => verified
        · exact inbox.replace (by simp)
  | message | feishuWebhook | gatewayTurn | other | feishuSocket | weixinPoll =>
      simp only [Moment.apply, chosen]
      exact ⟨inbox, claimed⟩

theorem run_sourced (host : Host) (moments : List Moment) :
    Sourced host moments (run host moments) := by
  induction moments using List.reverseRecOn with
  | nil =>
      constructor
      · intro item member
        simp [run, World.initial] at member
      · intro item member
        simp [run, World.initial] at member
  | append_singleton past moment ih =>
      have step : run host (past ++ [moment]) = moment.apply host (run host past) := by simp [run]
      rw [step]
      exact ih.apply moment

/-! ## Which requests reach the directory -/

theorem handleInbound_platform {host : Host} {reading : Reading} {adapter : String} {payload : Json}
    {call : FleetCall} (made : call ∈ handleInbound host reading adapter payload) :
    normalize host reading adapter payload = .ok call.inbound ∧
      call.inbound.platform = "whatsapp" ∧ host.fleet = true := by
  simp only [handleInbound] at made
  split at made
  · simp at made
  · rename_i inbound normalized
    split at made
    · rename_i reached
      split at made
      · obtain rfl := List.mem_singleton.mp made
        exact ⟨normalized, reached⟩
      · obtain rfl := List.mem_singleton.mp made
        exact ⟨normalized, reached⟩
    · simp at made

theorem handleInbound_calls {host : Host} {reading : Reading} {adapter : String} {payload : Json}
    {inbound : InboundMessage} (normalized : normalize host reading adapter payload = .ok inbound)
    (whatsapp : inbound.platform = "whatsapp") (fleet : host.fleet = true) :
    ∃ call ∈ handleInbound host reading adapter payload, call.inbound = inbound := by
  simp only [handleInbound, normalized, whatsapp, fleet, and_self, if_true]
  split
  · exact ⟨.begin inbound, by simp, rfl⟩
  · exact ⟨.select inbound, by simp, rfl⟩

theorem feishu_compact_platform {config : FeishuConfig} {stamp : String} {payload : Json}
    {inbound : InboundMessage}
    (ok : Feishu.normalizeCompactPayload config stamp payload = .ok inbound) :
    inbound.platform = "feishu" := by
  simp only [Feishu.normalizeCompactPayload] at ok
  split at ok
  · simp [refuse] at ok
  · split at ok
    · simp [refuse, bind, Except.bind] at ok
    split at ok
    · simp [refuse, bind, Except.bind] at ok
    split at ok
    · simp [refuse, bind, Except.bind] at ok
    obtain ⟨_, -, ok⟩ := Result.bind_eq_ok.mp ok
    obtain rfl := Result.pure_eq_ok.mp ok
    rfl

theorem feishu_card_platform {stamp : String} {payload : Json} {inbound : InboundMessage}
    (ok : Feishu.normalizeCardAction stamp payload = .ok inbound) :
    inbound.platform = "feishu" := by
  simp only [Feishu.normalizeCardAction] at ok
  split at ok
  · simp [refuse, bind, Except.bind] at ok
  split at ok
  · simp [refuse, bind, Except.bind] at ok
  split at ok
  · simp [refuse, bind, Except.bind] at ok
  obtain rfl := Result.pure_eq_ok.mp ok
  rfl

theorem feishu_message_platform {config : FeishuConfig} {parseJson : String → Option Json}
    {stamp : String} {payload : Json} {message : JsonMap} {inbound : InboundMessage}
    (ok : Feishu.normalizeMessage config parseJson stamp payload message = .ok inbound) :
    inbound.platform = "feishu" := by
  simp only [Feishu.normalizeMessage] at ok
  obtain ⟨⟨text, attachments⟩, -, ok⟩ := Result.bind_eq_ok.mp ok
  simp only at ok
  split at ok
  · simp [refuse, bind, Except.bind] at ok
  split at ok
  · simp [refuse, bind, Except.bind] at ok
  split at ok
  · simp [refuse, bind, Except.bind] at ok
  obtain ⟨_, -, ok⟩ := Result.bind_eq_ok.mp ok
  obtain rfl := Result.pure_eq_ok.mp ok
  rfl

theorem feishu_platform {config : FeishuConfig} {parseJson : String → Option Json} {stamp : String}
    {payload : Json} {inbound : InboundMessage}
    (ok : Feishu.normalizeInbound config parseJson stamp payload = .ok inbound) :
    inbound.platform = "feishu" := by
  simp only [Feishu.normalizeInbound] at ok
  obtain ⟨_, -, ok⟩ := Result.bind_eq_ok.mp ok
  split at ok
  · simp only [Feishu.normalizeRawEvent] at ok
    split at ok
    · exact feishu_card_platform ok
    split at ok
    · simp [refuse] at ok
    split at ok
    · simp [refuse] at ok
    · exact feishu_message_platform ok
  · exact feishu_compact_platform ok

theorem weixin_platform {kept : Except GatewayError Unit} {stamp : String} {payload : Json}
    {inbound : InboundMessage} (ok : Weixin.normalizeInbound kept stamp payload = .ok inbound) :
    inbound.platform = "weixin" := by
  simp only [Weixin.normalizeInbound] at ok
  split at ok
  · simp [refuse, bind, Except.bind] at ok
  split at ok
  · simp [refuse, bind, Except.bind] at ok
  split at ok
  · simp [refuse, bind, Except.bind] at ok
  split at ok
  · obtain ⟨_, -, ok⟩ := Result.bind_eq_ok.mp ok
    obtain rfl := Result.pure_eq_ok.mp ok
    rfl
  · obtain rfl := Result.pure_eq_ok.mp ok
    rfl

theorem strField_trim {fields : JsonMap} {key value : String}
    (found : strField fields key = some value) : Text.trim value ≠ "" := by
  simp only [strField, Text.trimmed, Option.filter_eq_some_iff, Option.map_eq_some_iff] at found
  obtain ⟨⟨raw, -, rfl⟩, nonempty⟩ := found
  intro empty
  have gone := Text.isBlank_trim (Text.isBlank_of_trim empty)
  simp [gone] at nonempty

theorem strField_present {fields : JsonMap} {key : String} :
    Text.trim ((strField fields key).getD "") = "" ↔ strField fields key = none := by
  cases found : strField fields key with
  | none => simp [Text.trim]
  | some value => simpa using strField_trim found

theorem webhook_ok {stamp : String} {payload : Json} {inbound : InboundMessage}
    (ok : Webhook.normalizeInbound stamp payload = .ok inbound) :
    ∃ fields, payload = .obj fields ∧
      inbound.platform = (strField fields "platform").getD "webhook" ∧
      (strField fields "chat_id").isSome = true ∧ (strField fields "text").isSome = true := by
  cases payload with
  | obj fields =>
      simp only [Webhook.normalizeInbound, Json.asObject] at ok
      split at ok
      · simp [refuse] at ok
      split at ok
      · simp [refuse] at ok
      rename_i chat text
      rw [strField_present] at chat text
      obtain rfl := Except.ok.inj ok
      exact ⟨fields, rfl, rfl, Option.isSome_iff_ne_none.mpr chat, Option.isSome_iff_ne_none.mpr text⟩
  | null | bool | num | float | str | arr =>
      simp [Webhook.normalizeInbound, Json.asObject, refuse] at ok

theorem webhook_accepts (stamp : String) {fields : JsonMap}
    (chat : (strField fields "chat_id").isSome = true)
    (text : (strField fields "text").isSome = true) :
    ∃ inbound, Webhook.normalizeInbound stamp (.obj fields) = .ok inbound ∧
      inbound.platform = (strField fields "platform").getD "webhook" := by
  have chat' := mt strField_present.mp (Option.isSome_iff_ne_none.mp chat)
  have text' := mt strField_present.mp (Option.isSome_iff_ne_none.mp text)
  simp only [Webhook.normalizeInbound, Json.asObject, if_neg chat', if_neg text']
  exact ⟨_, rfl, rfl⟩

/-! ## Signed messages only -/

/-- The message is the normal form of an inbox item that the round claims, and the item's payload
was in a body whose HMAC was checked. -/
def Signed (host : Host) (past : List Moment) (moment : Moment) (inbound : InboundMessage) : Prop :=
  ∃ oversized order item, moment.event = .drain oversized order ∧
    (claimRound host moment.now oversized order (run host past).inbox).1 = some item ∧
    WhatsApp.normalizeInbound host.whatsapp host.formats item.payload = .ok inbound ∧
    Verified host past item.payload

/-- A message posted for the webhook adapter that names the platform itself. -/
def Forged (host : Host) (moment : Moment) : Prop :=
  host.fleet = true ∧ ∃ fields, moment.event = .message "webhook" (.obj fields) ∧
    strField fields "platform" = some "whatsapp" ∧
    (strField fields "chat_id").isSome = true ∧ (strField fields "text").isSome = true

/-- No adapter but the webhook's and WhatsApp's own gives a message the platform `whatsapp`. -/
theorem normalize_whatsapp {host : Host} {reading : Reading} {adapter : String} {payload : Json}
    {inbound : InboundMessage} (ok : normalize host reading adapter payload = .ok inbound)
    (platform : inbound.platform = "whatsapp") :
    adapter = "whatsapp" ∨ adapter = "webhook" ∧ ∃ fields, payload = .obj fields ∧
      strField fields "platform" = some "whatsapp" ∧
      (strField fields "chat_id").isSome = true ∧ (strField fields "text").isSome = true := by
  simp only [normalize] at ok
  split at ok
  · rename_i webhook
    obtain ⟨fields, same, named, chat, text⟩ := webhook_ok ok
    refine .inr ⟨webhook, fields, same, ?_, chat, text⟩
    rw [platform] at named
    cases found : strField fields "platform" with
    | none => simp [found] at named
    | some value => simp [found] at named; rw [named]
  split at ok
  · have feishu := feishu_platform ok
    simp [platform] at feishu
  split at ok
  · simp [FeishuMail.normalizeInbound, refuse] at ok
  split at ok
  · have weixin := weixin_platform ok
    simp [platform] at weixin
  split at ok
  · rename_i whatsapp
    exact .inl whatsapp
  · simp at ok

theorem handleInbound_whatsapp {host : Host} {reading : Reading} {adapter : String} {payload : Json}
    {call : FleetCall} (other : adapter ≠ "whatsapp")
    (made : call ∈ handleInbound host reading adapter payload) :
    host.fleet = true ∧ adapter = "webhook" ∧ ∃ fields, payload = .obj fields ∧
      strField fields "platform" = some "whatsapp" ∧
      (strField fields "chat_id").isSome = true ∧ (strField fields "text").isSome = true := by
  obtain ⟨normalized, platform, fleet⟩ := handleInbound_platform made
  rcases normalize_whatsapp normalized platform with whatsapp | webhook
  · exact absurd whatsapp other
  · exact ⟨fleet, webhook⟩

/-- A call of the directory either has a signed source or answers a forged message. -/
theorem calls_signed_or_forged {host : Host} {past : List Moment} {moment : Moment}
    {call : FleetCall} (made : call ∈ moment.calls host (run host past)) :
    Signed host past moment call.inbound ∨ Forged host moment := by
  cases chosen : moment.event with
  | message adapter payload =>
      simp only [Moment.calls, chosen] at made
      split at made
      · simp at made
      · rename_i other
        obtain ⟨fleet, rfl, fields, rfl, named⟩ := handleInbound_whatsapp other made
        exact .inr ⟨fleet, fields, chosen, named⟩
  | feishuWebhook payload =>
      simp only [Moment.calls, chosen] at made
      split at made
      · simp at made
      · have webhook := (handleInbound_whatsapp (by decide) made).2.1
        simp at webhook
  | feishuSocket payload =>
      simp only [Moment.calls, chosen] at made
      have webhook := (handleInbound_whatsapp (by decide) made).2.1
      simp at webhook
  | weixinPoll payload =>
      simp only [Moment.calls, chosen] at made
      have webhook := (handleInbound_whatsapp (by decide) made).2.1
      simp at webhook
  | drain oversized order =>
      simp only [Moment.calls, chosen] at made
      split at made
      · simp at made
      · rename_i item claimed
        have normalized := (handleInbound_platform made).1
        have verified := (run_sourced host past).inbox.round.2 item claimed
        exact .inl ⟨oversized, order, item, chosen, claimed, by simpa [normalize] using normalized,
          verified⟩
  | whatsappWebhook | gatewayTurn | other | finish =>
      simp [Moment.calls, chosen] at made

theorem directory_calls_are_signed (host : Host) (past : List Moment) (moment : Moment) :
    (∀ call ∈ moment.calls host (run host past), call.inbound.platform = "whatsapp" →
      Signed host past moment call.inbound) ↔ ¬Forged host moment := by
  constructor
  · rintro signed ⟨fleet, fields, chosen, platform, chat, text⟩
    obtain ⟨inbound, accepted, named⟩ := webhook_accepts moment.reading.stamp chat text
    have whatsapp : inbound.platform = "whatsapp" := by simp [named, platform]
    have normalized : normalize host moment.reading "webhook" (.obj fields) = .ok inbound := by
      simpa [normalize] using accepted
    obtain ⟨call, made, same⟩ := handleInbound_calls normalized whatsapp fleet
    obtain ⟨oversized, order, item, drains, -⟩ :=
      signed call (by simpa [Moment.calls, chosen] using made) (by rw [same, whatsapp])
    simp [chosen] at drains
  · intro honest call made _
    exact (calls_signed_or_forged made).resolve_right honest

def sampleHost : Host where
  fleet := true
  feishu := ⟨[], "mention", "", "", "", ""⟩
  whatsapp := ⟨"1", true⟩
  formats := ⟨fun _ => none, fun _ => none, fun number sender => number ++ sender⟩
  parseJson := fun _ => none
  parseBody := fun _ => none
  verifies := fun _ _ => false
  itemId := fun number message => number ++ message

/-- A request to the webhook adapter that claims to come from WhatsApp. -/
def forgedRequest : Moment where
  now := 0
  reading := ⟨"2026-01-01T00:00:00Z", .ok ()⟩
  event := .message "webhook" (.obj [("chat_id", .str "861"), ("platform", .str "whatsapp"),
    ("text", .str "NAVI navi-a"), ("user_id", .str "861")])

theorem forged_request_reaches_directory :
    ∃ call ∈ forgedRequest.calls sampleHost (run sampleHost []),
      call.inbound.platform = "whatsapp" ∧
        ¬Signed sampleHost [] forgedRequest call.inbound := by
  refine ⟨_, List.mem_singleton.mpr rfl, rfl, ?_⟩
  rintro ⟨oversized, order, item, drains, -⟩
  simp [forgedRequest] at drains

end Inbox

end HarborGate
