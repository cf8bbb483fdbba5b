import HarborGate.Weixin.ContextTokens
import HarborGate.Weixin.Effects

/-!
Which token the cache of a chat ends with. The messages of an inbox are normalised in the order of
their ids and of the retries, which is not the order of their times.
-/

namespace HarborGate

namespace Weixin

local instance (priority := high) newestOrder : Preorder Int :=
  Int.instLinearOrder.toPreorder

/-! ## Runs over one inbox -/

/-- A message as it was normalised; `failure` is why its token could not be written. -/
structure Normalization where
  payload : Json
  failure : Option GatewayError

/-- The inbox of an account, the claims handed out of it and the file of tokens. `history` are the
messages normalised so far. -/
structure TokenWorld where
  items : Inbox
  claims : List InboundClaim
  tokens : ContextTokens
  history : List Normalization

/-- What happens to an inbox: a claim, the normalisation of a claimed message, the end of a claim, and
a message sent to a chat. -/
inductive TokenMove
  | claim (now : Time) (token : Uuid) (owner : String) (leaseSeconds : Nat)
  | normalize (position : Nat) (stamp : String) (failure : Option GatewayError)
  | finish (now : Time) (finish : InboxFinish)
  | send (chatId : String) (failure : Option GatewayError)

namespace TokenWorld

/-- The inbox as it was persisted, before any of it is processed. -/
def persisted (items : Inbox) : TokenWorld where
  items := items
  claims := []
  tokens := ∅
  history := []

def move (world : TokenWorld) : TokenMove → Option TokenWorld
  | .claim now token owner leaseSeconds =>
      match claimCandidate now world.items with
      | none => some world
      | some (inboxId, item) =>
          (deliveryClaimExpiresAt now leaseSeconds).map fun lease =>
            { world with
              items := world.items.insert inboxId (item.claim now token owner lease)
              claims := world.claims ++ [⟨inboxId, token, item.payload⟩] }
  | .normalize position stamp failure =>
      world.claims[position]?.map fun claim =>
        { world with
          tokens := (normalizeInbound failure stamp claim.payload world.tokens).2
          history := world.history ++ [⟨claim.payload, failure⟩] }
  | .finish now finish =>
      match Weixin.finishItem now finish world.items with
      | .error _ => some world
      | .ok items => some { world with items }
  | .send chatId failure =>
      if failure.isSome then some world
      else some { world with
        tokens := (loadOrRecoverContextToken world.tokens world.items chatId).2 }

def run (world : TokenWorld) : List TokenMove → Option TokenWorld
  | [] => some world
  | first :: rest => (world.move first).bind fun after => after.run rest

end TokenWorld

/-! ## What a run leaves -/

/-- The token that normalising the message saved for the chat. -/
def Normalization.savedFor (chatId : String) (normalization : Normalization) : Option String :=
  match normalization.failure with
  | some _ => none
  | none =>
      (tokenToSave normalization.payload).bind fun (chat, token) =>
        if chat = chatId then some token else none

/-- The token saved last for a chat. -/
def lastSaved (history : List Normalization) (chatId : String) : Option String :=
  (history.filterMap (Normalization.savedFor chatId)).getLast?

theorem lastSaved_concat (history : List Normalization) (normalization : Normalization)
    (chatId : String) :
    lastSaved (history ++ [normalization]) chatId =
      (normalization.savedFor chatId).or (lastSaved history chatId) := by
  simp only [lastSaved, List.filterMap_append]
  cases saved : normalization.savedFor chatId with
  | none => simp [saved]
  | some token => simp [saved]

/-- The candidates of a chat depend on nothing that a claim or its end changes. -/
theorem candidates_congr {items other : Inbox}
    (same : ∀ inboxId : String, items[inboxId]?.map InboxItem.candidate? =
      other[inboxId]?.map InboxItem.candidate?) (chatId : String) :
    candidates items chatId = candidates other chatId := by
  have lists : (items.map fun _ item => item.candidate?).toList =
      (other.map fun _ item => item.candidate?).toList := by
    refine Std.TreeMap.Equiv.toList_eq (.of_forall_constGet?_eq fun inboxId => ?_)
    rw [Std.TreeMap.getElem?_map, Std.TreeMap.getElem?_map]
    exact same inboxId
  have spread : ∀ list : Inbox, candidates list chatId =
      ((list.map fun _ item => item.candidate?).toList.map Prod.snd).filterMap fun entry =>
        entry.bind fun named => if named.1 = chatId then some named.2 else none := by
    intro list
    rw [Std.TreeMap.toList_map, candidates, List.map_map, List.filterMap_map, List.filterMap_map]
    simp only [Function.comp_def, InboxItem.candidateFor]
  rw [spread, spread, lists]

theorem tokenToSave_kept {payload : Json} {chatId token : String}
    (saves : tokenToSave payload = some (chatId, token)) : Text.trim token = token ∧ token ≠ "" := by
  simp only [tokenToSave] at saves
  split at saves
  · simp at saves
  · rename_i complete
    simp only [not_or] at complete
    obtain ⟨-, rfl⟩ := Prod.mk.inj (Option.some.inj saves)
    exact ⟨Text.trim_trim _, complete.2.2.2⟩

theorem candidate_kept {item : InboxItem} {chatId : String} {candidate : Candidate}
    (brings : item.candidateFor chatId = some candidate) :
    Text.trim candidate.contextToken = candidate.contextToken ∧ candidate.contextToken ≠ "" := by
  obtain ⟨⟨chat, brought⟩, entry, here⟩ := Option.bind_eq_some_iff.mp brings
  obtain rfl : brought = candidate := Option.some.inj (Option.ite_none_right_eq_some.mp here).2
  simp only [InboxItem.candidate?] at entry
  split at entry
  · simp at entry
  · rename_i complete
    simp only [not_or] at complete
    obtain ⟨-, rfl⟩ := Prod.mk.inj (Option.some.inj entry)
    exact ⟨Text.trim_trim _, complete.2.2⟩

theorem newest_kept {items : Inbox} {chatId : String} {newest : Candidate}
    (latest : newest ∈ (candidates items chatId).argmax Candidate.rank) :
    Text.trim newest.contextToken = newest.contextToken ∧ newest.contextToken ≠ "" := by
  obtain ⟨item, -, brings⟩ := List.mem_filterMap.mp (List.argmax_mem latest)
  exact candidate_kept brings

theorem lastSaved_kept {history : List Normalization} {chatId token : String}
    (last : lastSaved history chatId = some token) : Text.trim token = token ∧ token ≠ "" := by
  obtain ⟨normalization, -, saved⟩ := List.mem_filterMap.mp (List.mem_of_getLast? last)
  simp only [Normalization.savedFor] at saved
  split at saved
  · simp at saved
  · obtain ⟨⟨chat, brought⟩, saves, here⟩ := Option.bind_eq_some_iff.mp saved
    obtain rfl : brought = token := Option.some.inj (Option.ite_none_right_eq_some.mp here).2
    exact tokenToSave_kept saves

theorem normalizeInbound_get (failure : Option GatewayError) (stamp : String) (payload : Json)
    (tokens : ContextTokens) (chatId : String) :
    (normalizeInbound failure stamp payload tokens).2[chatId]? =
      match Normalization.savedFor chatId ⟨payload, failure⟩ with
      | none => tokens[chatId]?
      | some token => some (.str token) := by
  unfold normalizeInbound Normalization.savedFor
  cases saves : tokenToSave payload with
  | none =>
      cases failure with
      | none => simp only [Option.bind_none]
      | some error => rfl
  | some entry =>
      obtain ⟨chat, token⟩ := entry
      cases failure with
      | some error => rfl
      | none =>
          simp only [Option.bind_some, saveContextToken]
          by_cases here : chat = chatId
          · rw [if_pos here, here]
            exact Std.TreeMap.getElem?_insert_self
          · rw [if_neg here, Std.TreeMap.getElem?_insert, if_neg (by simpa using here)]

/-- The cache of a chat holds the token saved last, or what a send found in the inbox before. -/
structure TokensKept (items : Inbox) (world : TokenWorld) : Prop where
  inbox : ∀ inboxId : String, world.items[inboxId]?.map InboxItem.candidate? =
    items[inboxId]?.map InboxItem.candidate?
  saved : ∀ chatId token, lastSaved world.history chatId = some token →
    world.tokens[chatId]? = some (.str token)
  unsaved : ∀ chatId, lastSaved world.history chatId = none →
    world.tokens[chatId]? = none ∨
      ∃ newest ∈ (candidates items chatId).argmax Candidate.rank,
        world.tokens[chatId]? = some (.str newest.contextToken)

section Kept

variable {items : Inbox} {world after : TokenWorld}

theorem claimed_candidate {stored : Inbox} {inboxId : String} {item changed : InboxItem}
    (found : stored[inboxId]? = some item) (payload : changed.payload = item.payload)
    (created : changed.createdAt = item.createdAt) (other : String) :
    (stored.insert inboxId changed)[other]?.map InboxItem.candidate? =
      stored[other]?.map InboxItem.candidate? := by
  by_cases here : inboxId = other
  · subst here
    rw [Std.TreeMap.getElem?_insert_self, found]
    simp only [Option.map_some, InboxItem.candidate?, InboxItem.createdAtMs, payload, created]
  · rw [Std.TreeMap.getElem?_insert, if_neg (by simpa using here)]

theorem TokensKept.normalize {payload : Json} {failure : Option GatewayError}
    (kept : TokensKept items world) (stamp : String) :
    TokensKept items { world with
      tokens := (normalizeInbound failure stamp payload world.tokens).2
      history := world.history ++ [⟨payload, failure⟩] } := by
  refine ⟨kept.inbox, fun chatId token last => ?_, fun chatId unsaved => ?_⟩
  · rw [lastSaved_concat] at last
    rw [normalizeInbound_get]
    cases saved : Normalization.savedFor chatId ⟨payload, failure⟩ with
    | none =>
        rw [saved] at last
        exact kept.saved chatId token last
    | some own =>
        rw [saved] at last
        exact congrArg (fun text => some (Json.str text)) (Option.some.inj last)
  · rw [lastSaved_concat] at unsaved
    obtain ⟨nothing, before⟩ := Option.or_eq_none_iff.mp unsaved
    rw [normalizeInbound_get, nothing]
    exact kept.unsaved chatId before

theorem TokensKept.send (kept : TokensKept items world) (chatId : String) :
    TokensKept items { world with
      tokens := (loadOrRecoverContextToken world.tokens world.items chatId).2 } := by
  simp only [loadOrRecoverContextToken]
  by_cases cached : Adapters.textOf world.tokens[chatId]? = ""
  · rw [if_neg (not_not.mpr cached), recover_argmax, candidates_congr kept.inbox]
    cases found : (candidates items chatId).argmax Candidate.rank with
    | none => exact kept
    | some newest =>
        -- A token that was saved is not empty, so this chat has none.
        have unsaved : lastSaved world.history chatId = none := by
          cases last : lastSaved world.history chatId with
          | none => rfl
          | some token =>
              have shape := lastSaved_kept last
              rw [kept.saved chatId token last] at cached
              exact absurd (shape.1.symm.trans cached) shape.2
        refine ⟨kept.inbox, fun other token last => ?_, fun other nothing => ?_⟩
        · have different : chatId ≠ other := by
            rintro rfl
            simp [unsaved] at last
          simp only [saveContextToken]
          rw [Std.TreeMap.getElem?_insert, if_neg (by simpa using different)]
          exact kept.saved other token last
        · by_cases here : chatId = other
          · subst here
            exact Or.inr ⟨newest, found, Std.TreeMap.getElem?_insert_self⟩
          · simp only [saveContextToken]
            rw [Std.TreeMap.getElem?_insert, if_neg (by simpa using here)]
            exact kept.unsaved other nothing
  · rw [if_pos cached]
    exact kept

theorem TokensKept.move {move : TokenMove} (kept : TokensKept items world)
    (moved : world.move move = some after) : TokensKept items after := by
  cases move with
  | claim now token owner leaseSeconds =>
      simp only [TokenWorld.move] at moved
      split at moved
      · obtain rfl := Option.some.inj moved
        exact kept
      · rename_i inboxId item candidate
        obtain ⟨lease, -, rfl⟩ := Option.map_eq_some_iff.mp moved
        have found := (claimCandidate_some candidate).1
        have same := @claimed_candidate _ _ _ (item.claim now token owner lease) found rfl rfl
        exact ⟨fun other => (same other).trans (kept.inbox other), kept.saved, kept.unsaved⟩
  | normalize position stamp failure =>
      obtain ⟨claim, -, rfl⟩ := Option.map_eq_some_iff.mp moved
      exact kept.normalize stamp
  | finish now finish =>
      simp only [TokenWorld.move] at moved
      split at moved
      · obtain rfl := Option.some.inj moved
        exact kept
      · rename_i stored finished
        obtain rfl := Option.some.inj moved
        obtain ⟨item, found, -, -, rfl⟩ := finishItem_ok finished
        have same := @claimed_candidate _ _ _ (item.finish now finish) found rfl rfl
        exact ⟨fun other => (same other).trans (kept.inbox other), kept.saved, kept.unsaved⟩
  | send chatId failure =>
      simp only [TokenWorld.move] at moved
      split at moved
      · obtain rfl := Option.some.inj moved
        exact kept
      · obtain rfl := Option.some.inj moved
        exact kept.send chatId

theorem TokensKept.run {moves : List TokenMove} : ∀ {world : TokenWorld},
    TokensKept items world → world.run moves = some after → TokensKept items after := by
  induction moves with
  | nil =>
      intro world kept ran
      obtain rfl := Option.some.inj ran
      exact kept
  | cons first rest ih =>
      intro world kept ran
      obtain ⟨middle, moved, ran⟩ := Option.bind_eq_some_iff.mp ran
      exact ih (kept.move moved) ran

end Kept

theorem TokensKept.persisted (items : Inbox) : TokensKept items (TokenWorld.persisted items) :=
  ⟨fun _ => rfl, fun _ _ last => by simp [TokenWorld.persisted, lastSaved] at last,
    fun _ _ => Or.inl (by simp [TokenWorld.persisted])⟩

/-- For each chat a send takes the token of the newest message exactly when the token saved last, if
one was saved, is that token. -/
theorem newest_token_is_sent_iff {items : Inbox} {moves : List TokenMove} {after : TokenWorld}
    (ran : (TokenWorld.persisted items).run moves = some after) {chatId : String} {newest : Candidate}
    (latest : newest ∈ (candidates items chatId).argmax Candidate.rank) :
    (loadOrRecoverContextToken after.tokens after.items chatId).1 = newest.contextToken ↔
      ∀ token, lastSaved after.history chatId = some token → token = newest.contextToken := by
  have kept := (TokensKept.persisted items).run ran
  have shape := newest_kept latest
  simp only [loadOrRecoverContextToken]
  cases last : lastSaved after.history chatId with
  | some token =>
      have own := lastSaved_kept last
      have cached : Adapters.textOf after.tokens[chatId]? = token := by
        rw [kept.saved chatId token last]
        exact own.1
      rw [cached, if_pos own.2]
      simp
  | none =>
      refine iff_of_true ?_ (by simp)
      rcases kept.unsaved chatId last with empty | ⟨other, found, stored⟩
      · have cached : Adapters.textOf after.tokens[chatId]? = "" := by rw [empty]; rfl
        rw [if_neg (not_not.mpr cached), recover_argmax, candidates_congr kept.inbox,
          Option.mem_def.mp latest]
      · obtain rfl := Option.some.inj ((Option.mem_def.mp found).symm.trans latest)
        have cached : Adapters.textOf after.tokens[chatId]? = other.contextToken := by
          rw [stored]
          exact shape.1
        rw [cached, if_pos shape.2]

/-! ## Two messages of one chat -/

def textMessage (messageId contextToken : String) (createTimeMs : Int) : Json :=
  .obj [("context_token", .str contextToken),
    ("create_time_ms", .num createTimeMs),
    ("from_user_id", .str "wx-user-1"),
    ("item_list", .arr [.obj [("text_item", .obj [("text", .str messageId)]), ("type", .num 1)]]),
    ("msg_id", .str messageId)]

/-- With the digests of the two message ids for the account. -/
def botHost : Host where
  config := ⟨"bot-1", "secret", "https://example.com", "self"⟩
  isAlphanumeric := Char.isAlphanum
  partsDigest _ source :=
    if source = "provider-old" then
      "bfeb3ddde6ebc6df3f8176da26e4754273fa70f8ab0881cbe706a4aa42182e53"
    else "4d2416a109fad9169b99d1b8cd885fdcf012ae83236d35358cc93fd59c49ff40"
  payloadDigest _ := ""

def polledInbox : Inbox :=
  ((persistUpdates botHost 0 "bot-1" [textMessage "provider-old" "ctx-old" 100,
    textMessage "provider-new" "ctx-new" 200] ∅).toOption).getD ∅

def processed (messageId : String) (token : Uuid) : TokenMove :=
  .finish 0 ⟨stableWeixinInboxId botHost "bot-1" (textMessage messageId "" 0), token, true, false, none⟩

/-- One poller takes the messages one after the other. -/
def inTurn : List TokenMove :=
  [.claim 0 ⟨1⟩ "poller" 60, .normalize 0 "" none, processed "provider-new" ⟨1⟩,
    .claim 0 ⟨2⟩ "poller" 60, .normalize 1 "" none, processed "provider-old" ⟨2⟩]

/-- What is seen of a run: how the messages stand, the newest of them and the token of a send. -/
def tokenRun (moves : List TokenMove) : Option (List InboxStatus × Option Candidate × String) :=
  ((TokenWorld.persisted polledInbox).run moves).map fun after =>
    (after.items.toList.map (·.2.status),
      (candidates polledInbox "wx-user-1").argmax Candidate.rank,
      (loadOrRecoverContextToken after.tokens after.items "wx-user-1").1)

theorem older_token_survives :
    tokenRun inTurn = some ([.succeeded, .succeeded], some ⟨200, "provider-new", "ctx-new"⟩,
      "ctx-old") := by
  have latest : (candidates polledInbox "wx-user-1").argmax Candidate.rank =
      some ⟨200, "provider-new", "ctx-new"⟩ := by decide
  have statuses : ((TokenWorld.persisted polledInbox).run inTurn).map
      (fun after => after.items.toList.map (·.2.status)) = some [.succeeded, .succeeded] := by decide
  have saved : ((TokenWorld.persisted polledInbox).run inTurn).map
      (fun after => lastSaved after.history "wx-user-1") = some (some "ctx-old") := by decide
  obtain ⟨after, ran, done⟩ := Option.map_eq_some_iff.mp statuses
  rw [ran, Option.map_some, Option.some.injEq] at saved
  have cached := ((TokensKept.persisted polledInbox).run ran).saved "wx-user-1" "ctx-old" saved
  have own := lastSaved_kept saved
  have text : Adapters.textOf (some (.str "ctx-old")) = "ctx-old" := own.1
  have sent : (loadOrRecoverContextToken after.tokens after.items "wx-user-1").1 = "ctx-old" := by
    rw [loadOrRecoverContextToken, cached, text, if_pos own.2]
  rw [tokenRun, ran, Option.map_some, done, latest, sent]

/-- Two pollers hold the messages at once, and the one with the newer message is slower. -/
def crossed : List TokenMove :=
  [.claim 0 ⟨1⟩ "poller" 60, .claim 0 ⟨2⟩ "other" 60, .normalize 1 "" none, .normalize 0 "" none,
    processed "provider-new" ⟨1⟩, processed "provider-old" ⟨2⟩]

theorem slower_message_wins : ∃ after,
    (TokenWorld.persisted polledInbox).run crossed = some after ∧
      (loadOrRecoverContextToken after.tokens after.items "wx-user-1").1 = "ctx-new" := by
  have latest : (⟨200, "provider-new", "ctx-new"⟩ : Candidate) ∈
      (candidates polledInbox "wx-user-1").argmax Candidate.rank := by decide
  have saved : ((TokenWorld.persisted polledInbox).run crossed).map
      (fun after => lastSaved after.history "wx-user-1") = some (some "ctx-new") := by decide
  obtain ⟨after, ran, last⟩ := Option.map_eq_some_iff.mp saved
  refine ⟨after, ran, (newest_token_is_sent_iff ran latest).mpr fun token own => ?_⟩
  exact Option.some.inj (own.symm.trans last)

end Weixin

end HarborGate
