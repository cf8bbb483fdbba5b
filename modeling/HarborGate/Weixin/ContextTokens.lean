import Mathlib.Data.List.MinMax
import Mathlib.Data.Prod.Lex
import Mathlib.Data.String.Basic
import HarborGate.Gateway.Adapters
import HarborGate.Weixin.Inbox

/-!
The context token of each Weixin chat. Normalising a message overwrites the one in the cache, and an
empty cache takes the one of the newest message in the inbox.
-/

namespace HarborGate

namespace Weixin

/-- The order of integers that computes, of those Mathlib has. -/
local instance (priority := high) timeOrder : Preorder Int :=
  Int.instLinearOrder.toPreorder

/-- The file of context tokens, by chat. -/
abbrev ContextTokens := Std.TreeMap String Json

/-! ## Saving -/

/-- The chat and the token that `normalize_inbound` comes to save. -/
def tokenToSave (payload : Json) : Option (String × String) :=
  let senderId := Adapters.textOf (payload.get "from_user_id")
  let text := Adapters.Weixin.extractText ((payload.get "item_list").bind Json.asArray)
  let contextToken := Adapters.textOf (payload.get "context_token")
  if Adapters.textOf (payload.get "room_id") ≠ "" ∨ senderId = "" ∨ text = "" ∨ contextToken = "" then none
  else some (senderId, contextToken)

def saveContextToken (tokens : ContextTokens) (chatId contextToken : String) : ContextTokens :=
  tokens.insert chatId (.str contextToken)

/-- `normalize_inbound` with the file it writes; `failure` is why the write came to nothing. -/
def normalizeInbound (failure : Option GatewayError) (stamp : String) (payload : Json)
    (tokens : ContextTokens) : Adapters.Normalized × ContextTokens :=
  match tokenToSave payload with
  | none => (Adapters.Weixin.normalizeInbound (.ok ()) stamp payload, tokens)
  | some (chatId, contextToken) =>
      match failure with
      | some error => (Adapters.Weixin.normalizeInbound (.error error) stamp payload, tokens)
      | none =>
          (Adapters.Weixin.normalizeInbound (.ok ()) stamp payload,
            saveContextToken tokens chatId contextToken)

/-- Without a token to save nothing depends on the write, and with one it comes first. -/
theorem normalizeInbound_kept (payload : Json) (stamp : String) :
    (tokenToSave payload = none → ∀ kept other,
      Adapters.Weixin.normalizeInbound kept stamp payload =
        Adapters.Weixin.normalizeInbound other stamp payload) ∧
    (tokenToSave payload ≠ none → ∀ error,
      Adapters.Weixin.normalizeInbound (.error error) stamp payload = .error error) := by
  simp only [tokenToSave, Adapters.Weixin.normalizeInbound, Adapters.refuse, bind, Except.bind]
  by_cases room : Adapters.textOf (payload.get "room_id") = ""
  · by_cases sender : Adapters.textOf (payload.get "from_user_id") = ""
    · simp [room, sender]
    · by_cases text : Adapters.Weixin.extractText
          ((payload.get "item_list").bind Json.asArray) = ""
      · simp [room, sender, text]
      · by_cases token : Adapters.textOf (payload.get "context_token") = ""
        · simp [room, sender, text, token]
        · simp [room, sender, text, token]
  · simp [room]

/-! ## Recovering -/

structure Candidate where
  createdAtMs : Int
  providerMessageId : String
  contextToken : String
deriving DecidableEq

/-- Candidates are compared by their time, and by the message id where that is the same. -/
def Candidate.rank (candidate : Candidate) : Int ×ₗ String :=
  toLex (candidate.createdAtMs, candidate.providerMessageId)

def Candidate.isNewer (candidate current : Candidate) : Bool :=
  current.createdAtMs < candidate.createdAtMs ||
    candidate.createdAtMs = current.createdAtMs &&
      decide (current.providerMessageId < candidate.providerMessageId)

def InboxItem.createdAtMs (item : InboxItem) : Int :=
  ((item.payload.get "create_time_ms").bind Json.asI64).getD
    (match item.createdAt with
    | .at created => created / 1000000
    | _ => 0)

/-- The chat of a private message that brings a token, with what it brings. -/
def InboxItem.candidate? (item : InboxItem) : Option (String × Candidate) :=
  let chatId := Adapters.textOf (item.payload.get "from_user_id")
  let contextToken := Adapters.textOf (item.payload.get "context_token")
  if Adapters.textOf (item.payload.get "room_id") ≠ "" ∨ chatId = "" ∨ contextToken = "" then none
  else some (chatId, ⟨item.createdAtMs, extractWeixinMessageId item.payload, contextToken⟩)

def keepNewer (latestByChat : Std.TreeMap String Candidate) (item : InboxItem) :
    Std.TreeMap String Candidate :=
  match item.candidate? with
  | none => latestByChat
  | some (chatId, candidate) =>
      if latestByChat[chatId]?.all (candidate.isNewer ·) then latestByChat.insert chatId candidate
      else latestByChat

def recoverContextTokensFromInbox (items : Inbox) : Std.TreeMap String Candidate :=
  (items.toList.map Prod.snd).foldl keepNewer ∅

/-- The token for a message to the chat, with the file as it is then. -/
def loadOrRecoverContextToken (tokens : ContextTokens) (items : Inbox) (chatId : String) :
    String × ContextTokens :=
  let cached := Adapters.textOf tokens[chatId]?
  if cached ≠ "" then (cached, tokens)
  else
    match (recoverContextTokensFromInbox items)[chatId]? with
    | none => (cached, tokens)
    | some latest => (latest.contextToken, saveContextToken tokens chatId latest.contextToken)

/-! ## The newest token -/

def InboxItem.candidateFor (chatId : String) (item : InboxItem) : Option Candidate :=
  item.candidate?.bind fun (other, candidate) => if other = chatId then some candidate else none

/-- What the private messages of a chat bring, in the order of the inbox. -/
def candidates (items : Inbox) (chatId : String) : List Candidate :=
  (items.toList.map Prod.snd).filterMap (InboxItem.candidateFor chatId)

theorem isNewer_iff {candidate current : Candidate} :
    candidate.isNewer current = true ↔ current.rank < candidate.rank := by
  simp only [Candidate.isNewer, Candidate.rank, Prod.Lex.toLex_lt_toLex, Bool.or_eq_true,
    Bool.and_eq_true, decide_eq_true_eq]
  rw [@eq_comm _ current.createdAtMs]

theorem keepNewer_get (latest : Std.TreeMap String Candidate) (item : InboxItem) (chatId : String) :
    (keepNewer latest item)[chatId]? =
      match item.candidateFor chatId with
      | none => latest[chatId]?
      | some candidate =>
          match latest[chatId]? with
          | none => some candidate
          | some best => if best.rank < candidate.rank then some candidate else some best := by
  simp only [keepNewer, InboxItem.candidateFor]
  cases brought : item.candidate? with
  | none => rfl
  | some entry =>
      obtain ⟨chat, candidate⟩ := entry
      by_cases here : chat = chatId
      · subst here
        cases stored : latest[chat]? with
        | none => simp [stored]
        | some best =>
            by_cases newer : best.rank < candidate.rank
            · simp [stored, isNewer_iff.mpr newer, newer]
            · have older : candidate.isNewer best = false := by
                rw [Bool.eq_false_iff, ne_eq, isNewer_iff]
                exact newer
              simp [older, newer, stored]
      · dsimp only [Option.bind_some]
        rw [if_neg here]
        split
        · rw [Std.TreeMap.getElem?_insert, if_neg (by simpa using here)]
        · rfl

/-- The recovery finds for each chat the newest candidate, the first of them where several are. -/
theorem recover_argmax (items : Inbox) (chatId : String) :
    (recoverContextTokensFromInbox items)[chatId]? =
      (candidates items chatId).argmax Candidate.rank := by
  have folded : ∀ list : List InboxItem, (list.foldl keepNewer ∅)[chatId]? =
      (list.filterMap (InboxItem.candidateFor chatId)).argmax Candidate.rank := by
    intro list
    induction list using List.reverseRecOn with
    | nil => simp
    | append_singleton list item ih =>
        rw [List.foldl_append, List.foldl_cons, List.foldl_nil, keepNewer_get, ih,
          List.filterMap_append]
        cases brought : item.candidateFor chatId with
        | none => simp [brought]
        | some candidate =>
            have single : [item].filterMap (InboxItem.candidateFor chatId) = [candidate] := by
              simp [brought]
            rw [single, List.argmax_concat]
            cases (list.filterMap (InboxItem.candidateFor chatId)).argmax Candidate.rank with
            | none => rfl
            | some best => rfl
  exact folded _

end Weixin

end HarborGate
