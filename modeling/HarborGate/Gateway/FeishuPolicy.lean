import HarborGate.Gateway.Adapters
import HarborGate.Lib.Result

/-!
The access policy of the Feishu adapter and its three normalisers. Messages and compact payloads go
through `enforce_access_policy`; a card action does not.
-/

namespace HarborGate

namespace Adapters

namespace Feishu

/-! ## The policy -/

/-- The text in which `@_all` mentions everyone. -/
def rawContent (payload : Json) : String :=
  if (payload.get "header").isSome ∧ (payload.get "event").isSome then
    ((payload.pointer ["event", "message", "content"]).bind Json.asStr).getD ""
  else
    let fields := payload.asObject.getD []
    ((fields.get "raw_content").bind Json.asStr).getD ((strField fields "text").getD "")

def BotMentioned (config : FeishuConfig) (payload : Json) (inbound : InboundMessage) : Prop :=
  Text.contains (rawContent payload) "@_all" = true ∨
    ∃ mention ∈ inbound.mentions, mentionOf config mention = true

/-- What the policy asks of a message. -/
structure Admitted (config : FeishuConfig) (payload : Json) (inbound : InboundMessage) : Prop where
  sender : config.allowedUsers = [] ∨ inbound.userId ∈ config.allowedUsers
  group : inbound.chatType ≠ "p2p" →
    config.groupPolicy ≠ "disabled" ∧ BotMentioned config payload inbound

theorem enforceAccessPolicy_ok {config : FeishuConfig} {chatType sender content : String}
    {mentions : List Json} (ok : enforceAccessPolicy config chatType sender content mentions = .ok ()) :
    (config.allowedUsers = [] ∨ sender ∈ config.allowedUsers) ∧
      (chatType ≠ "p2p" → config.groupPolicy ≠ "disabled" ∧
        messageMentionsBot config content mentions = true) := by
  simp only [enforceAccessPolicy] at ok
  split at ok
  · simp [refuse] at ok
  rename_i listed
  have sender : config.allowedUsers = [] ∨ sender ∈ config.allowedUsers := by
    by_cases everyone : config.allowedUsers = []
    · exact .inl everyone
    · exact .inr (not_not.mp fun stranger => listed ⟨everyone, stranger⟩)
  refine ⟨sender, fun group => ?_⟩
  rw [if_neg group] at ok
  split at ok
  · simp [refuse] at ok
  rename_i enabled
  split at ok
  · simp [refuse] at ok
  rename_i mentioned
  exact ⟨enabled, not_not.mp mentioned⟩

theorem botMentioned_of_mentions {config : FeishuConfig} {payload : Json} {inbound : InboundMessage}
    (mentions : messageMentionsBot config (rawContent payload) inbound.mentions = true) :
    BotMentioned config payload inbound := by
  simp only [messageMentionsBot, Bool.or_eq_true, List.any_eq_true] at mentions
  exact mentions

/-! ## The three normalisers -/

section

variable {config : FeishuConfig} {parseJson : String → Option Json} {stamp : String}
  {payload : Json} {inbound : InboundMessage}

theorem normalizeCompactPayload_admits (compact : ¬((payload.get "header").isSome = true ∧
      (payload.get "event").isSome = true))
    (ok : normalizeCompactPayload config stamp payload = .ok inbound) :
    Admitted config payload inbound := by
  simp only [normalizeCompactPayload] at ok
  split at ok
  · simp [refuse] at ok
  rename_i fields isObject
  split at ok
  · simp [refuse, bind, Except.bind] at ok
  split at ok
  · simp [refuse, bind, Except.bind] at ok
  split at ok
  · simp [refuse, bind, Except.bind] at ok
  obtain ⟨_, enforced, ok⟩ := Result.bind_eq_ok.mp ok
  obtain rfl := Result.pure_eq_ok.mp ok
  obtain ⟨sender, group⟩ := enforceAccessPolicy_ok enforced
  refine ⟨sender, fun other => ?_⟩
  obtain ⟨enabled, mentions⟩ := group other
  refine ⟨enabled, botMentioned_of_mentions ?_⟩
  rw [rawContent, if_neg compact, isObject]
  exact mentions

theorem normalizeMessage_admits {message : JsonMap}
    (raw : (payload.get "header").isSome = true ∧ (payload.get "event").isSome = true)
    (found : (payload.pointer ["event", "message"]).bind Json.asObject = some message)
    (ok : normalizeMessage config parseJson stamp payload message = .ok inbound) :
    Admitted config payload inbound := by
  simp only [normalizeMessage] at ok
  obtain ⟨⟨text, attachments⟩, -, ok⟩ := Result.bind_eq_ok.mp ok
  simp only at ok
  split at ok
  · simp [refuse, bind, Except.bind] at ok
  split at ok
  · simp [refuse, bind, Except.bind] at ok
  split at ok
  · simp [refuse, bind, Except.bind] at ok
  obtain ⟨_, enforced, ok⟩ := Result.bind_eq_ok.mp ok
  obtain rfl := Result.pure_eq_ok.mp ok
  obtain ⟨sender, group⟩ := enforceAccessPolicy_ok enforced
  have content : payload.pointer ["event", "message", "content"] = message.get "content" := by
    have split : payload.pointer ["event", "message", "content"] =
        (payload.pointer ["event", "message"]).bind (·.get "content") := by
      simp [Json.pointer, Option.bind_assoc]
    obtain ⟨value, isMessage, fields⟩ := Option.bind_eq_some_iff.mp found
    rw [split, isMessage, Option.bind_some, Json.get, fields, Option.bind_some]
  refine ⟨sender, fun other => ?_⟩
  obtain ⟨enabled, mentions⟩ := group other
  refine ⟨enabled, botMentioned_of_mentions ?_⟩
  rw [rawContent, if_pos raw, content]
  exact mentions

def isCardAction (payload : Json) : Bool :=
  textOf (payload.pointer ["header", "event_type"]) = "card.action.trigger"

/-- Who acted on the card. -/
def cardOperator (payload : Json) : String :=
  Text.trim ((((payload.pointer ["event", "operator", "operator_id", "open_id"]).bind Json.asStr).or
    ((payload.pointer ["event", "operator", "operator_id", "user_id"]).bind Json.asStr)).getD "")

def cardCommand (payload : Json) : String :=
  Text.trim ((((payload.pointer ["event", "action", "value", "command"]).bind Json.asStr).or
    ((payload.pointer ["event", "action", "value", "text"]).bind Json.asStr)).getD "")

/-- A card action that has everything a message needs. -/
structure CompleteCard (payload : Json) : Prop where
  chat : textOf (payload.pointer ["event", "context", "open_chat_id"]) ≠ ""
  operator : cardOperator payload ≠ ""
  command : cardCommand payload ≠ ""

theorem normalizeCardAction_ok (ok : normalizeCardAction stamp payload = .ok inbound) :
    inbound.userId = cardOperator payload ∧ inbound.chatType = "p2p" ∧ CompleteCard payload := by
  simp only [normalizeCardAction] at ok
  split at ok
  · simp [refuse, bind, Except.bind] at ok
  rename_i chat
  split at ok
  · simp [refuse, bind, Except.bind] at ok
  rename_i operator
  split at ok
  · simp [refuse, bind, Except.bind] at ok
  rename_i command
  obtain rfl := Result.pure_eq_ok.mp ok
  exact ⟨rfl, rfl, chat, operator, command⟩

theorem normalizeCardAction_complete (stamp : String) (complete : CompleteCard payload) :
    ∃ inbound, normalizeCardAction stamp payload = .ok inbound := by
  have operator := complete.operator
  have command := complete.command
  rw [cardOperator] at operator
  rw [cardCommand] at command
  simp only [normalizeCardAction, if_neg complete.chat, if_neg operator, if_neg command]
  exact ⟨_, rfl⟩

/-! ## Every inbound form -/

/-- Whatever the adapter makes a message of, the policy admits. -/
def PolicyCovers (config : FeishuConfig) (parseJson : String → Option Json) (stamp : String)
    (payload : Json) : Prop :=
  ∀ inbound, normalizeInbound config parseJson stamp payload = .ok inbound →
    Admitted config payload inbound

/-- A card action that gets past the callback check. -/
structure CardPasses (config : FeishuConfig) (payload : Json) : Prop where
  callback : validateCallback config payload = .ok ()
  header : (payload.get "header").isSome = true
  event : (payload.get "event").isSome = true
  card : isCardAction payload = true
  complete : CompleteCard payload

end

/-- The policy covers all payloads but the card actions of operators outside a list that is not
empty. -/
theorem access_policy_covers_iff (config : FeishuConfig) (parseJson : String → Option Json)
    (stamp : String) (payload : Json) :
    PolicyCovers config parseJson stamp payload ↔
      (CardPasses config payload →
        config.allowedUsers = [] ∨ cardOperator payload ∈ config.allowedUsers) := by
  constructor
  · intro covers passes
    obtain ⟨inbound, ok⟩ := normalizeCardAction_complete stamp passes.complete
    have event : textOf (payload.pointer ["header", "event_type"]) = "card.action.trigger" :=
      of_decide_eq_true passes.card
    have normalized : normalizeInbound config parseJson stamp payload = .ok inbound := by
      simp only [normalizeInbound, normalizeRawEvent, passes.callback, passes.header, passes.event,
        event, and_self, if_true]
      exact ok
    have admitted := covers inbound normalized
    rw [← (normalizeCardAction_ok ok).1]
    exact admitted.sender
  · intro listed inbound ok
    simp only [normalizeInbound] at ok
    obtain ⟨_, callback, ok⟩ := Result.bind_eq_ok.mp ok
    by_cases raw : (payload.get "header").isSome = true ∧ (payload.get "event").isSome = true
    · rw [if_pos raw, normalizeRawEvent] at ok
      by_cases card : textOf (payload.pointer ["header", "event_type"]) = "card.action.trigger"
      · -- The chat of a card action counts as private, so only the sender is left to look at.
        simp only [card, if_true] at ok
        obtain ⟨sender, chatType, complete⟩ := normalizeCardAction_ok ok
        refine ⟨?_, fun group => absurd chatType group⟩
        rw [sender]
        exact listed ⟨callback, raw.1, raw.2, decide_eq_true card, complete⟩
      · simp only [card, if_false] at ok
        split at ok
        · simp [refuse] at ok
        split at ok
        · simp [refuse] at ok
        rename_i message found
        exact normalizeMessage_admits raw found ok
    · rw [if_neg raw] at ok
      exact normalizeCompactPayload_admits raw ok

def guardedConfig : FeishuConfig :=
  ⟨["ou_owner"], "mention", "", "", "", ""⟩

/-- A click of someone who is not on the list. -/
def strangerCard : Json :=
  .obj [("event", .obj [("action", .obj [("value", .obj [("command", .str "open door")])]),
      ("context", .obj [("open_chat_id", .str "oc_1")]),
      ("operator", .obj [("operator_id", .obj [("open_id", .str "ou_stranger")])])]),
    ("header", .obj [("event_type", .str "card.action.trigger")])]

theorem stranger_card_is_accepted : ∃ inbound,
    normalizeInbound guardedConfig (fun _ => none) "now" strangerCard = .ok inbound ∧
      inbound.userId = "ou_stranger" ∧ ¬Admitted guardedConfig strangerCard inbound := by
  have reached : (normalizeInbound guardedConfig (fun _ => none) "now" strangerCard).map
      (·.userId) = .ok "ou_stranger" := by
    decide
  obtain ⟨inbound, ok, sender⟩ := Result.map_eq_ok.mp reached
  refine ⟨inbound, ok, sender, fun admitted => ?_⟩
  rcases admitted.sender with everyone | listed
  · simp [guardedConfig] at everyone
  · rw [sender] at listed
    simp [guardedConfig] at listed

end Feishu

end Adapters

end HarborGate
