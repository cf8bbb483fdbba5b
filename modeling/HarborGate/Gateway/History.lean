import HarborGate.Gateway.SessionUpdates

/-!
The history of a session over a run: the turns of every message that came to `append_turns`, of
which the last twenty are kept.
-/

namespace HarborGate

/-! ## A window over blocks -/

section
variable {α β : Type}

/-- The last `count` entries. -/
def keepLast (count : Nat) (list : List α) : List α :=
  list.drop (list.length - count)

theorem keepLast_append (count : Nat) (left right : List α) :
    keepLast count (left ++ right) = keepLast (count - right.length) left ++ keepLast count right := by
  have rest : left.length + right.length - count - left.length = right.length - count := by omega
  have front : left.drop (left.length + right.length - count) =
      left.drop (left.length - (count - right.length)) := by
    by_cases filled : count ≤ right.length
    · rw [List.drop_of_length_le (by omega : left.length ≤ left.length + right.length - count),
        List.drop_of_length_le (by omega)]
    · congr 1
      omega
  rw [keepLast, keepLast, keepLast, List.drop_append, List.length_append, rest, front]

theorem keepLast_of_length_le {count : Nat} {list : List α} (short : list.length ≤ count) :
    keepLast count list = list := by
  rw [keepLast, Nat.sub_eq_zero_of_le short, List.drop_zero]

theorem length_keepLast (count : Nat) (list : List α) :
    (keepLast count list).length = min count list.length := by
  rw [keepLast, List.length_drop]
  omega

theorem keepLast_keepLast_append (count : Nat) (left right : List α) :
    keepLast count (keepLast count left ++ right) = keepLast count (left ++ right) := by
  have inner : keepLast (count - right.length) (keepLast count left) =
      keepLast (count - right.length) left := by
    rw [keepLast, keepLast, keepLast, List.drop_drop, List.length_drop]
    congr 1
    omega
  rw [keepLast_append, keepLast_append count left right, inner]

theorem map_keepLast (count : Nat) (list : List α) (f : α → β) :
    (keepLast count list).map f = keepLast count (list.map f) := by
  rw [keepLast, keepLast, List.map_drop, List.length_map]

theorem keepLast_suffix (count : Nat) (list : List α) : keepLast count list <:+ list :=
  List.drop_suffix _ _

/-- Every block of at most `count` entries is at some time among the last `count`, and these are
always such a block. -/
theorem keepLast_prefixes_iff {count : Nat} {list : List α} {holds : List α → Prop}
    (hereditary : ∀ {short long : List α}, short <:+ long → holds long → holds short) :
    (∀ earlier later, list = earlier ++ later → holds (keepLast count earlier)) ↔
      ∀ before block after, list = before ++ block ++ after → block.length ≤ count → holds block := by
  constructor
  · intro windows before block after split short
    refine hereditary ?_ (windows (before ++ block) after split)
    rw [keepLast_append, keepLast_of_length_le short]
    exact List.suffix_append _ _
  · intro blocks earlier later split
    obtain ⟨before, parts⟩ := keepLast_suffix count earlier
    refine blocks before (keepLast count earlier) later (by rw [parts, split]) ?_
    rw [length_keepLast]
    exact Nat.min_le_left _ _

end

/-! ## The turns in a session file -/

namespace Sessions

/-- A turn without its time. -/
def said (turn : ConversationTurn) : String × String :=
  (turn.role, turn.content)

theorem ofJson_said (stamp other : String) (value : Json) :
    (ConversationTurn.ofJson stamp value).map said = (ConversationTurn.ofJson other value).map said := by
  cases value with
  | obj fields =>
      simp only [ConversationTurn.ofJson]
      cases (JsonMap.get fields "role").bind Json.asStr with
      | none => rfl
      | some role =>
          cases (JsonMap.get fields "content").bind Json.asStr with
          | none => rfl
          | some content =>
              cases JsonMap.get fields "timestamp" with
              | none => rfl
              | some value => rfl
  | arr items =>
      simp only [ConversationTurn.ofJson]
      split <;> first | rfl | simp_all
  | _ => rfl

theorem ofJson_toJson (stamp : String) (turn : ConversationTurn) :
    ConversationTurn.ofJson stamp turn.toJson = some turn := by
  simp [ConversationTurn.toJson, ConversationTurn.ofJson, JsonMap.get, Json.asStr]

def readTurns (items : List Json) : List (String × String) :=
  items.filterMap fun value => (ConversationTurn.ofJson "" value).map said

/-- The turns in the file of a session; `none` where it cannot be read. -/
def storedTurns (store : Store) (path : String) : Option (List (String × String)) :=
  match store.files path with
  | .absent => some []
  | .unreadable => none
  | .text content => some (readTurns
      (((JsonMap.get ((content.bind Json.asObject).getD []) "turns").bind Json.asArray).getD []))

theorem payloadTurns_said (stamp : String) (payload : JsonMap) :
    (payloadTurns stamp payload).map said =
      readTurns (((JsonMap.get payload "turns").bind Json.asArray).getD []) := by
  rw [payloadTurns, readTurns, List.map_filterMap]
  congr 1
  funext value
  exact ofJson_said stamp "" value

theorem readTurns_toJson (turns : List ConversationTurn) :
    readTurns (turns.map ConversationTurn.toJson) = turns.map said := by
  rw [readTurns, List.filterMap_map]
  induction turns with
  | nil => rfl
  | cons turn rest ih =>
      rw [List.filterMap_cons, Function.comp_apply, ofJson_toJson, Option.map_some, ih]
      rfl

variable {store : Store} {platform chatId : String}

theorem completePayload_turns (fields : JsonMap) :
    ((JsonMap.get (completePayload platform chatId fields) "turns").bind Json.asArray) =
      some (((JsonMap.get fields "turns").bind Json.asArray).getD []) := by
  have through (key : String) (value : Json) (other : key ≠ "turns") (fields : JsonMap) :
      JsonMap.get (JsonMap.insert fields key value) "turns" = JsonMap.get fields "turns" := by
    rw [JsonMap.get_insert, if_neg other]
  have metadata (fields : JsonMap) :
      JsonMap.get (if ((JsonMap.get fields "metadata").bind Json.asObject).isSome then fields
        else JsonMap.insert fields "metadata" (.obj [])) "turns" = JsonMap.get fields "turns" := by
    split
    · rfl
    · exact through _ _ (by decide) _
  have last (fields : JsonMap) :
      (JsonMap.get (if ((JsonMap.get fields "turns").bind Json.asArray).isSome then fields
        else JsonMap.insert fields "turns" (.arr [])) "turns").bind Json.asArray =
        some (((JsonMap.get fields "turns").bind Json.asArray).getD []) := by
    cases found : (JsonMap.get fields "turns").bind Json.asArray with
    | some turns => simp [found]
    | none => simp [JsonMap.get_insert, Json.asArray]
  simp only [completePayload]
  rw [last, metadata, through _ _ (by decide), through _ _ (by decide)]

theorem loadPayload_turns {payload : JsonMap} (loaded : loadPayload store platform chatId = .ok payload) :
    storedTurns store (sessionPath platform chatId) =
        some (readTurns (((JsonMap.get payload "turns").bind Json.asArray).getD [])) ∧
      ((JsonMap.get payload "turns").bind Json.asArray).isSome = true := by
  rw [loadPayload] at loaded
  rw [storedTurns]
  cases file : store.files (sessionPath platform chatId) with
  | absent =>
      rw [file] at loaded
      obtain rfl := Except.ok.inj loaded
      exact ⟨by simp [JsonMap.get, Json.asArray, readTurns], by simp [JsonMap.get, Json.asArray]⟩
  | unreadable =>
      rw [file] at loaded
      simp at loaded
  | text content =>
      rw [file] at loaded
      obtain rfl := Except.ok.inj loaded
      rw [completePayload_turns]
      exact ⟨rfl, rfl⟩

theorem loadHistory_said {stamp : String} {history : List ConversationTurn}
    (loaded : loadHistory store stamp platform chatId = .ok history) :
    storedTurns store (sessionPath platform chatId) = some (history.map said) := by
  rw [loadHistory] at loaded
  cases read : loadPayload store platform chatId with
  | error text => simp [read, Except.map] at loaded
  | ok payload =>
      simp only [read, Except.map, Except.ok.injEq] at loaded
      rw [(loadPayload_turns read).1, ← loaded, payloadTurns_said]

theorem storedTurns_congr {other : Store} {path : String} (same : other.files path = store.files path) :
    storedTurns other path = storedTurns store path := by
  rw [storedTurns, same, storedTurns]

theorem storedTurns_writeJson {path name : String} (payload : JsonMap) {turns : List (String × String)}
    (kept : storedTurns store path = some turns)
    (same : readTurns (((JsonMap.get payload "turns").bind Json.asArray).getD []) = turns) :
    storedTurns (writeJson store path payload).2 name = storedTurns store name := by
  rw [writeJson]
  split
  · by_cases here : name = path
    · subst here
      rw [kept, ← same]
      simp [storedTurns, Json.asObject]
    · exact storedTurns_congr (if_neg here)
  · rfl

/-- New metadata leave the turns of every session as they are. -/
theorem storedTurns_setMetadata (store : Store) (metadata : JsonMap) (name : String) :
    storedTurns (setMetadata store platform chatId metadata).2 name = storedTurns store name := by
  rw [setMetadata]
  cases loaded : loadPayload store platform chatId with
  | error text => rfl
  | ok payload =>
      obtain ⟨stored, listed⟩ := loadPayload_turns loaded
      refine storedTurns_writeJson _ stored ?_
      have through : JsonMap.get (JsonMap.insert (JsonMap.insert (JsonMap.insert payload "platform"
          (.str platform)) "chat_id" (.str chatId)) "metadata" (.obj metadata)) "turns" =
          JsonMap.get payload "turns" := by
        simp [JsonMap.get_insert]
      rw [through, if_pos listed, through]

/-- New turns follow those of their session, of which the last twenty are kept. -/
theorem storedTurns_appendTurns (store : Store) (stamp : String) (turns : List ConversationTurn)
    (name : String) {after : Store}
    (appended : appendTurns store stamp platform chatId turns = (.ok (), after)) :
    storedTurns after name =
      if name = sessionPath platform chatId then
        (storedTurns store name).map fun old => keepLast maxTurns (old ++ turns.map said)
      else storedTurns store name := by
  by_cases here : name = sessionPath platform chatId
  · rw [if_pos here, here]
    cases loaded : loadPayload store platform chatId with
    | error text => simp [appendTurns, loaded] at appended
    | ok payload =>
        obtain ⟨stored, -⟩ := loadPayload_turns loaded
        rw [stored, Option.map_some, ← payloadTurns_said stamp, ← List.map_append, ← map_keepLast]
        simp only [appendTurns, loaded, writeJson] at appended
        split at appended
        · obtain ⟨-, rfl⟩ := Prod.mk.inj appended
          have read : ∀ payload : JsonMap,
              JsonMap.get (if ((JsonMap.get payload "metadata").bind Json.asObject).isSome then payload
                else JsonMap.insert payload "metadata" (.obj [])) "turns" =
                JsonMap.get payload "turns" := by
            intro payload
            split
            · rfl
            · simp [JsonMap.get_insert]
          simp only [storedTurns, if_true, Option.bind_some, Json.asObject, Option.getD_some]
          rw [read, JsonMap.get_insert, if_pos rfl]
          simp only [Option.bind_some, Json.asArray, Option.getD_some]
          rw [readTurns_toJson]
          rfl
        · simp at appended
  · rw [if_neg here]
    have elsewhere := appendTurns_elsewhere store stamp turns here
    rw [appended] at elsewhere
    exact storedTurns_congr elsewhere

theorem storedTurns_appendTurns_error (store : Store) (stamp : String) (turns : List ConversationTurn)
    {after : Store} {text : String}
    (failed : appendTurns store stamp platform chatId turns = (.error text, after)) : after = store := by
  rw [appendTurns] at failed
  split at failed
  · exact (Prod.mk.inj failed).2.symm
  · rw [writeJson] at failed
    split at failed
    · simp at failed
    · exact (Prod.mk.inj failed).2.symm

end Sessions

namespace Inbound

open Interleave

/-! ## Whose turns they are -/

/-- Platform, chat and message id of a message that has one. -/
abbrev MessageKey := String × String × String

def messageKey (inbound : InboundMessage) : Option MessageKey :=
  if Text.isBlank inbound.messageId then none
  else some (inbound.platform, inbound.chatId, inbound.messageId)

/-- A completed `append_turns`: the message it was for, if `handle_inbound` made it for one with an
id, and the turns. -/
structure Appended where
  message : Option MessageKey
  turns : List (String × String)

structure HistoryEntry where
  message : Option MessageKey
  role : String
  content : String

def HistoryEntry.said (entry : HistoryEntry) : String × String :=
  (entry.role, entry.content)

def Appended.entries (appended : Appended) : List HistoryEntry :=
  appended.turns.map fun turn => ⟨appended.message, turn.1, turn.2⟩

def appendedAt (path : String) (record : TurnRecord) : (op : InboundOp) → InboundAns op →
    Option Appended
  | .appendTurns platform key turns, .ok _ =>
      if Sessions.sessionPath platform key = path then
        some ⟨record.inbound.bind messageKey, turns.map Sessions.said⟩
      else none
  | _, _ => none

/-- The history after further turns; those already there are nobody's. -/
def historyAfter (start : List (String × String)) (appends : List Appended) : List HistoryEntry :=
  appends.foldl (fun history appended => keepLast Sessions.maxTurns (history ++ appended.entries))
    (start.map fun turn => ⟨none, turn.1, turn.2⟩)

/-- At most one user turn and one assistant turn for each message. -/
def Once (history : List HistoryEntry) : Prop :=
  ∀ role ∈ ["user", "assistant"], ((history.filter (·.role = role)).filterMap (·.message)).Nodup

instance (history : List HistoryEntry) : Decidable (Once history) :=
  inferInstanceAs (Decidable (∀ role ∈ _, List.Nodup _))

/-- Among ten turns in a row no message comes twice. -/
def Spaced (appends : List Appended) : Prop :=
  ∀ before block after, appends = before ++ block ++ after → block.length ≤ 10 →
    (block.filterMap (·.message)).Nodup

/-- A user's turn and the assistant's. -/
def Appended.Paired (appended : Appended) : Prop :=
  appended.turns.map Prod.fst = ["user", "assistant"]

theorem Appended.Paired.entries {appended : Appended} (paired : appended.Paired) :
    ∃ asked answered, appended.entries =
      [⟨appended.message, "user", asked⟩, ⟨appended.message, "assistant", answered⟩] := by
  obtain ⟨message, turns⟩ := appended
  simp only [Appended.Paired] at paired
  match turns, paired with
  | [(_, asked), (_, answered)], paired =>
      simp only [List.map_cons, List.map_nil, List.cons.injEq, and_true] at paired
      obtain ⟨rfl, rfl⟩ := paired
      exact ⟨asked, answered, rfl⟩

/-- The messages of the turns in one role. -/
def messagesIn (role : String) (history : List HistoryEntry) : List MessageKey :=
  (history.filter (·.role = role)).filterMap (·.message)

theorem messagesIn_append (role : String) (left right : List HistoryEntry) :
    messagesIn role (left ++ right) = messagesIn role left ++ messagesIn role right := by
  simp [messagesIn]

section
variable {appends : List Appended}

theorem messagesIn_entries {role : String} (known : role ∈ ["user", "assistant"])
    (paired : ∀ appended ∈ appends, appended.Paired) :
    messagesIn role (appends.flatMap Appended.entries) = appends.filterMap (·.message) := by
  induction appends with
  | nil => rfl
  | cons appended rest ih =>
      obtain ⟨asked, answered, shape⟩ := (paired appended List.mem_cons_self).entries
      rw [List.flatMap_cons, messagesIn_append, shape,
        ih fun other member => paired other (List.mem_cons_of_mem _ member)]
      have own : messagesIn role [⟨appended.message, "user", asked⟩,
          ⟨appended.message, "assistant", answered⟩] = appended.message.toList := by
        simp only [List.mem_cons, List.not_mem_nil, or_false] at known
        rcases known with rfl | rfl <;> cases appended.message <;> rfl
      rw [own]
      cases message : appended.message <;> simp [message]

theorem messagesIn_nobody {role : String} {history : List HistoryEntry}
    (nobody : ∀ entry ∈ history, entry.message = none) : messagesIn role history = [] := by
  rw [messagesIn, List.filterMap_eq_nil_iff]
  exact fun entry member => nobody entry (List.mem_of_mem_filter member)

theorem length_entries (paired : ∀ appended ∈ appends, appended.Paired) :
    (appends.flatMap Appended.entries).length = 2 * appends.length := by
  induction appends with
  | nil => rfl
  | cons appended rest ih =>
      obtain ⟨asked, answered, shape⟩ := (paired appended List.mem_cons_self).entries
      rw [List.flatMap_cons, List.length_append, shape,
        ih fun other member => paired other (List.mem_cons_of_mem _ member), List.length_cons]
      simp only [List.length_cons, List.length_nil]
      omega

theorem historyAfter_eq (start : List (String × String)) (some_turns : appends ≠ []) :
    historyAfter start appends = keepLast Sessions.maxTurns
      ((start.map fun turn => ⟨none, turn.1, turn.2⟩) ++ appends.flatMap Appended.entries) := by
  induction appends using List.reverseRecOn with
  | nil => exact absurd rfl some_turns
  | append_singleton earlier last ih =>
      rw [historyAfter, List.foldl_append, List.foldl_cons, List.foldl_nil, ← historyAfter]
      by_cases first : earlier = []
      · subst first
        simp [historyAfter]
      · rw [ih first, keepLast_keepLast_append, List.flatMap_append, List.append_assoc]
        simp

/-- Whose turns a history has: those of the last ten messages. -/
theorem messagesIn_historyAfter (start : List (String × String)) {role : String}
    (known : role ∈ ["user", "assistant"]) (paired : ∀ appended ∈ appends, appended.Paired) :
    messagesIn role (historyAfter start appends) = (keepLast 10 appends).filterMap (·.message) := by
  have nobody : ∀ entry ∈ start.map fun turn => (⟨none, turn.1, turn.2⟩ : HistoryEntry),
      entry.message = none := by
    intro entry member
    obtain ⟨turn, -, rfl⟩ := List.mem_map.mp member
    rfl
  by_cases none_yet : appends = []
  · subst none_yet
    exact messagesIn_nobody nobody
  · obtain ⟨older, split⟩ := keepLast_suffix 10 appends
    have recent : ∀ appended ∈ keepLast 10 appends, appended.Paired :=
      fun appended member => paired appended ((keepLast_suffix 10 appends).subset member)
    have count := length_entries recent
    have size : (keepLast 10 appends).length = min 10 appends.length := length_keepLast 10 appends
    have whole : historyAfter start appends = keepLast Sessions.maxTurns
        (((start.map fun turn => ⟨none, turn.1, turn.2⟩) ++ older.flatMap Appended.entries) ++
          (keepLast 10 appends).flatMap Appended.entries) := by
      rw [historyAfter_eq start none_yet]
      conv_lhs => rw [← split]
      rw [List.flatMap_append, List.append_assoc]
    have short : ((keepLast 10 appends).flatMap Appended.entries).length ≤ Sessions.maxTurns := by
      rw [count, Sessions.maxTurns]
      omega
    rw [whole, keepLast_append, keepLast_of_length_le short, messagesIn_append,
      messagesIn_entries known recent]
    have front : messagesIn role (keepLast (Sessions.maxTurns -
        ((keepLast 10 appends).flatMap Appended.entries).length)
        ((start.map fun turn => ⟨none, turn.1, turn.2⟩) ++ older.flatMap Appended.entries)) = [] := by
      by_cases full : 10 ≤ appends.length
      · have none_left : Sessions.maxTurns -
            ((keepLast 10 appends).flatMap Appended.entries).length = 0 := by
          rw [count, size, Sessions.maxTurns]
          omega
        rw [none_left, keepLast, Nat.sub_zero, List.drop_length]
        rfl
      · have nothing_older : older = [] := by
          have lengths := congrArg List.length split
          rw [List.length_append, size] at lengths
          exact List.length_eq_zero_iff.mp (by omega)
        rw [nothing_older, List.flatMap_nil, List.append_nil]
        exact messagesIn_nobody fun entry member => nobody entry ((keepLast_suffix _ _).subset member)
    rw [front, List.nil_append]

/-- Over all the histories on the way: each message is in them at most once exactly when its turns
are appended again only after nine others. -/
theorem once_iff_spaced (start : List (String × String))
    (paired : ∀ appended ∈ appends, appended.Paired) :
    (∀ earlier later, appends = earlier ++ later → Once (historyAfter start earlier)) ↔
      Spaced appends := by
  have windows : ∀ earlier later, appends = earlier ++ later →
      (Once (historyAfter start earlier) ↔
        ((keepLast 10 earlier).filterMap (·.message)).Nodup) := by
    intro earlier later split
    have some_paired : ∀ appended ∈ earlier, appended.Paired :=
      fun appended member => paired appended (by rw [split]; exact List.mem_append_left _ member)
    constructor
    · intro once
      have users := once "user" (by simp)
      rw [← messagesIn, messagesIn_historyAfter start (by simp) some_paired] at users
      exact users
    · intro distinct role known
      rw [← messagesIn, messagesIn_historyAfter start known some_paired]
      exact distinct
  have smaller : ∀ {short long : List Appended}, short <:+ long →
      (long.filterMap (·.message)).Nodup → (short.filterMap (·.message)).Nodup :=
    fun below distinct => distinct.sublist (below.sublist.filterMap _)
  have spaced : (∀ earlier later, appends = earlier ++ later →
      ((keepLast 10 earlier).filterMap (·.message)).Nodup) ↔ Spaced appends :=
    keepLast_prefixes_iff smaller
  rw [← spaced]
  exact forall_congr' fun earlier => forall_congr' fun later => imp_congr_right (windows earlier later)

end

/-! ## Both entry points append pairs -/

section
variable {setup : Setup}

def pairProtocol : Protocol InboundOp InboundAns Unit where
  allows
    | _, .appendTurns _ _ turns => (turns.map Sessions.said).map Prod.fst = ["user", "assistant"]
    | _, _ => True
  possible _ _ := True
  next _ _ _ := ()

theorem pairs_passed {α : Type} {result : Except GatewayError α} {next : α → InboundGate Json}
    (continues : ∀ value, Prog.Follows pairProtocol () (next value).run fun _ _ => True) :
    Prog.Follows pairProtocol () (propagate result >>= next).run fun _ _ => True :=
  Prog.Follows.resultBind (fun _ _ => trivial) fun value _ => continues value

theorem settleReply_pairs (digests : Digests) (adapter : Adapter) (inbound : InboundMessage)
    (selection : Option Selection) (key routeKey : String) (reply : Reply) :
    Prog.Follows pairProtocol () (settleReply digests adapter inbound selection key routeKey reply).run
      fun _ _ => True := by
  simp only [settleReply]
  refine Prog.Follows.liftBind trivial fun _ _ => pairs_passed fun _ => ?_
  refine Prog.Follows.liftBind trivial fun _ _ => pairs_passed fun _ => ?_
  refine Prog.Follows.liftBind trivial fun _ _ => ?_
  refine Prog.Follows.liftBind trivial fun _ _ => ?_
  refine Prog.Follows.liftBind rfl fun _ _ => pairs_passed fun _ => ?_
  refine Prog.Follows.liftBind trivial fun _ _ => ?_
  refine Prog.Follows.liftBind trivial fun delivered _ => ?_
  cases delivered <;> trivial

theorem converse_pairs (texts : Texts) (digests : Digests) (gateway : Gateway) (adapter : Adapter)
    (inbound : InboundMessage) (selection : Option Selection) :
    Prog.Follows pairProtocol () (converse texts digests gateway adapter inbound selection).run
      fun _ _ => True := by
  simp only [converse]
  refine pairs_passed fun _ => ?_
  refine Prog.Follows.liftBind trivial fun _ _ => pairs_passed fun _ => ?_
  refine Prog.Follows.liftBind trivial fun _ _ => pairs_passed fun _ => ?_
  have replies : Prog.Follows pairProtocol () (replyTo texts digests gateway adapter.name inbound
      selection ‹_› ‹_›).run fun _ _ => True := by
    simp only [replyTo]
    split
    · refine Prog.Follows.liftBind trivial fun response _ => ?_
      cases response <;> trivial
    · trivial
  exact Prog.Follows.bindExcept replies (fun _ _ _ => trivial) fun _ _ _ => settleReply_pairs ..

theorem handleInbound_pairs (texts : Texts) (digests : Digests) (gateway : Gateway)
    (adapterName : String) (payload : Json) :
    Prog.Follows pairProtocol () (handleInbound texts digests gateway adapterName payload).run
      fun _ _ => True := by
  simp only [handleInbound]
  cases findAdapter gateway adapterName with
  | none => trivial
  | some adapter =>
      refine Prog.Follows.liftBind trivial fun _ _ => pairs_passed fun inbound => ?_
      generalize Text.startsWith (Text.trim inbound.text) "NAVI " = names
      by_cases fleet : inbound.platform = "whatsapp" ∧ gateway.fleet = true
      · rw [if_pos fleet]
        cases names with
        | true =>
            refine Prog.Follows.liftBind trivial fun _ _ => pairs_passed fun _ => ?_
            exact Prog.Follows.liftBind trivial fun _ _ => pairs_passed fun _ => trivial
        | false =>
            exact Prog.Follows.liftBind trivial fun _ _ => pairs_passed fun _ => converse_pairs ..
      · rw [if_neg fleet]
        exact converse_pairs ..

theorem handleGatewayTurn_pairs (texts : Texts) (digests : Digests) (gateway : Gateway)
    (payload : Json) :
    Prog.Follows pairProtocol () (handleGatewayTurn texts digests gateway payload).run
      fun _ _ => True := by
  simp only [handleGatewayTurn]
  split
  · refine Prog.Follows.liftBind trivial fun _ _ => pairs_passed fun inbound => ?_
    split
    · trivial
    · refine pairs_passed fun _ => ?_
      refine Prog.Follows.liftBind trivial fun _ _ => pairs_passed fun _ => ?_
      refine Prog.Follows.liftBind trivial fun _ _ => pairs_passed fun _ => ?_
      refine Prog.Follows.liftBind trivial fun _ _ => pairs_passed fun _ => ?_
      refine Prog.Follows.liftBind trivial fun _ _ => pairs_passed fun _ => ?_
      refine Prog.Follows.liftBind trivial fun _ _ => ?_
      refine Prog.Follows.liftBind trivial fun _ _ => ?_
      exact Prog.Follows.liftBind rfl fun _ _ => pairs_passed fun _ => trivial
  · trivial

/-! ## Histories of a run -/

/-- The completed appends to a session file; `seen` is what went before. -/
def appendsFrom (path : String) (seen : List (inboundMachine setup).Event) :
    List (inboundMachine setup).Event → List Appended
  | [] => []
  | event :: rest =>
      (appendedAt path (turnRecord seen event.task) event.op event.answer).toList ++
        appendsFrom path (seen ++ [event]) rest

def appendsTo (path : String) (trace : List (inboundMachine setup).Event) : List Appended :=
  appendsFrom path [] trace

theorem appendsFrom_append (path : String) (seen left right : List (inboundMachine setup).Event) :
    appendsFrom path seen (left ++ right) =
      appendsFrom path seen left ++ appendsFrom path (seen ++ left) right := by
  induction left generalizing seen with
  | nil => simp [appendsFrom]
  | cons event rest ih =>
      rw [List.cons_append, appendsFrom, appendsFrom, ih, List.append_assoc, List.append_assoc]
      rfl

theorem appendsTo_concat (path : String) (trace : List (inboundMachine setup).Event)
    (event : (inboundMachine setup).Event) :
    appendsTo path (trace ++ [event]) = appendsTo path trace ++
      (appendedAt path (turnRecord trace event.task) event.op event.answer).toList := by
  rw [appendsTo, appendsFrom_append, appendsTo]
  simp [appendsFrom]

/-- Every beginning of the appends was there at some time of the run. -/
theorem appendsTo_split {path : String} {trace : List (inboundMachine setup).Event}
    {earlier later : List Appended} (split : appendsTo path trace = earlier ++ later) :
    ∃ before after, trace = before ++ after ∧ appendsTo path before = earlier := by
  induction trace using List.reverseRecOn generalizing later with
  | nil =>
      have empty : earlier = [] := by
        have nothing : earlier ++ later = [] := split.symm
        exact (List.append_eq_nil_iff.mp nothing).1
      exact ⟨[], [], rfl, empty.symm⟩
  | append_singleton trace event ih =>
      rw [appendsTo_concat] at split
      cases last : appendedAt path (turnRecord trace event.task) event.op event.answer with
      | none =>
          rw [last, Option.toList_none, List.append_nil] at split
          obtain ⟨before, after, parts, same⟩ := ih split
          exact ⟨before, after ++ [event], by rw [parts, List.append_assoc], same⟩
      | some appended =>
          rcases List.eq_nil_or_concat later with rfl | ⟨later, final, rfl⟩
          · refine ⟨trace ++ [event], [], by simp, ?_⟩
            rw [appendsTo_concat, split, List.append_nil]
          · rw [last, Option.toList_some, List.concat_eq_append, ← List.append_assoc] at split
            have shorter := List.append_inj_left' split rfl
            obtain ⟨before, after, parts, same⟩ := ih shorter
            exact ⟨before, after ++ [event], by rw [parts, List.append_assoc], same⟩

/-- The history of a session file after a run. -/
def historyOf (origin : InboundWorld) (path : String) (trace : List (inboundMachine setup).Event) :
    List HistoryEntry :=
  historyAfter ((Sessions.storedTurns origin.store path).getD []) (appendsTo path trace)

/-- The file holds that history, unless it could not be read from the beginning. -/
def Shows (origin : InboundWorld) (path : String) (world : InboundWorld)
    (trace : List (inboundMachine setup).Event) : Prop :=
  Sessions.storedTurns world.store path =
    (Sessions.storedTurns origin.store path).map fun start =>
      (historyAfter start (appendsTo path trace)).map HistoryEntry.said

theorem said_entries (message : Option MessageKey) (turns : List (String × String)) :
    (Appended.entries ⟨message, turns⟩).map HistoryEntry.said = turns := by
  simp only [Appended.entries, List.map_map]
  exact List.map_id _

theorem said_historyAfter_concat (start : List (String × String)) (appends : List Appended)
    (appended : Appended) :
    (historyAfter start (appends ++ [appended])).map HistoryEntry.said =
      keepLast Sessions.maxTurns
        ((historyAfter start appends).map HistoryEntry.said ++ appended.turns) := by
  rw [historyAfter, List.foldl_append, List.foldl_cons, List.foldl_nil, ← historyAfter, map_keepLast,
    List.map_append, said_entries]

/-- What a step adds to the history is what it adds to the file. -/
theorem Shows.step {origin world after : InboundWorld} {path : String}
    {trace : List (inboundMachine setup).Event} {task : Nat} {op : InboundOp} {choice : InboundChoice}
    {answer : InboundAns op} (shows_now : Shows origin path world trace)
    (performed : world.perform setup.host op choice = (answer, after)) :
    Shows origin path after (trace ++ [⟨task, op, answer, world, after⟩]) := by
  rw [Shows, appendsTo_concat]
  have same (unmarked : appendedAt path (turnRecord trace task) op answer = none)
      (kept : Sessions.storedTurns after.store path = Sessions.storedTurns world.store path) :
      Sessions.storedTurns after.store path =
        (Sessions.storedTurns origin.store path).map fun start =>
          (historyAfter start (appendsTo path trace ++
            (appendedAt path (turnRecord trace task) op answer).toList)).map HistoryEntry.said := by
    rw [kept, unmarked, Option.toList_none, List.append_nil]
    exact shows_now
  cases op with
  | normalizeInbound _ _ | fleetBegin _ | fleetSelect _ | loadHistory _ _ | loadMetadata _ _
  | postTurn _ | deliver _ _ _ _ | utcNowIso =>
      obtain ⟨-, rfl⟩ := Prod.mk.inj performed
      exact same rfl rfl
  | setMetadata platform key metadata =>
      obtain ⟨-, rfl⟩ := Prod.mk.inj performed
      exact same rfl (Sessions.storedTurns_setMetadata (world.opened choice) metadata path)
  | registerRoute routeKey route =>
      have store : after.store = world.store := by
        have registered := congrArg (fun result => result.2.store) performed
        simp only [InboundWorld.perform, InboundWorld.registerRoute] at registered
        rw [← registered]
        split
        · rfl
        · split <;> rfl
      exact same rfl (by rw [store])
  | appendTurns platform key turns =>
      simp only [InboundWorld.perform] at performed
      cases appended : Sessions.appendTurns (world.opened choice) choice.stamp platform key turns with
      | mk written store =>
          rw [appended] at performed
          obtain ⟨rfl, rfl⟩ := Prod.mk.inj performed
          cases written with
          | error text =>
              have unchanged := Sessions.storedTurns_appendTurns_error _ _ _ appended
              refine same rfl ?_
              rw [unchanged]
              rfl
          | ok done =>
              have file := Sessions.storedTurns_appendTurns (world.opened choice) choice.stamp turns
                path appended
              by_cases here : path = Sessions.sessionPath platform key
              · have marked : appendedAt path (turnRecord trace task) (.appendTurns platform key turns)
                    (.ok done) = some ⟨(turnRecord trace task).inbound.bind messageKey,
                      turns.map Sessions.said⟩ := by
                  rw [appendedAt, if_pos here.symm]
                rw [if_pos here] at file
                have before : Sessions.storedTurns (world.opened choice) path =
                    Sessions.storedTurns world.store path := rfl
                rw [marked, Option.toList_some, file, before, shows_now, Option.map_map]
                refine Option.map_congr fun start _ => ?_
                rw [Function.comp_apply, said_historyAfter_concat]
              · rw [if_neg here] at file
                refine same ?_ file
                rw [appendedAt, if_neg (Ne.symm here)]

theorem appendedAt_paired {path : String} {record : TurnRecord} {op : InboundOp}
    {answer : InboundAns op} {appended : Appended} (allowed : pairProtocol.allows () op)
    (marked : appendedAt path record op answer = some appended) : appended.Paired := by
  cases op with
  | appendTurns platform key turns =>
      cases answer with
      | error text => simp [appendedAt] at marked
      | ok done =>
          rw [appendedAt] at marked
          by_cases here : Sessions.sessionPath platform key = path
          · rw [if_pos here] at marked
            obtain rfl := Option.some.inj marked
            exact allowed
          · rw [if_neg here] at marked
            simp at marked
  | _ => simp [appendedAt] at marked

theorem pairs_steady : @Machine.Steady InboundOp InboundAns Unit (inboundMachine setup)
    (fun _ => pairProtocol) (fun _ => True) fun _ => True :=
  ⟨fun _ _ _ _ _ _ _ => ⟨trivial, fun _ => trivial⟩, fun _ _ _ _ => trivial⟩

theorem program_pairs (call : InboundCall) :
    (call.program setup.texts setup.digests setup.gateway).Follows pairProtocol ()
      fun _ _ => True := by
  cases call with
  | inbound adapterName payload => exact handleInbound_pairs ..
  | gatewayTurn payload => exact handleGatewayTurn_pairs ..

theorem run_shows {origin : InboundWorld} {moves : List (inboundMachine setup).Move}
    {last : (inboundMachine setup).System}
    (played : (Machine.System.boot origin).play moves = some last) (path : String) :
    Shows origin path last.world last.trace ∧
      ∀ appended ∈ appendsTo path last.trace, appended.Paired := by
  obtain ⟨phases, run, -⟩ := Machine.play_phased_boot pairs_steady
    (fun call _ => program_pairs call) (fun _ _ => trivial) trivial played
  refine (Machine.Phased.maintains
    (fun world trace => Shows origin path world trace ∧
      ∀ appended ∈ appendsTo path trace, appended.Paired)
    (fun _ _ _ _ _ => True) ?boot ?start ?step ?outside run).1
  case boot =>
    refine ⟨?_, by simp [appendsTo, appendsFrom]⟩
    rw [Shows]
    cases Sessions.storedTurns origin.store path with
    | none => rfl
    | some start =>
        rw [Option.map_some, appendsTo, appendsFrom, historyAfter, List.foldl_nil, List.map_map]
        exact congrArg some (List.map_id start).symm
  case start => exact fun _ _ _ _ _ _ _ => trivial
  case step =>
    intro world after phases trace task call phase op choice answer _ _ _ allowed _ performed kept
    refine ⟨⟨kept.1.step (Option.some.inj performed), ?_⟩, trivial, fun _ _ _ _ _ _ => trivial⟩
    intro appended member
    rw [appendsTo_concat] at member
    rcases List.mem_append.mp member with old | new
    · exact kept.2 appended old
    · exact appendedAt_paired allowed (Option.mem_toList.mp new)
  case outside => exact fun _ _ event => nomatch event

/-- Over any run of inbound messages and gateway turns, the session's file holds the history that
the appends make up, and in every history on the way each message with an id has at most one user
turn and one assistant turn exactly when no two of ten appends in a row are for one message. -/
theorem history_once_iff {origin : InboundWorld} {moves : List (inboundMachine setup).Move}
    {last : (inboundMachine setup).System}
    (played : (Machine.System.boot origin).play moves = some last) (platform key : String) :
    (∀ stamp history, Sessions.loadHistory last.world.store stamp platform key = .ok history →
      history.map Sessions.said =
        (historyOf origin (Sessions.sessionPath platform key) last.trace).map HistoryEntry.said) ∧
    ((∀ earlier later, last.trace = earlier ++ later →
        Once (historyOf origin (Sessions.sessionPath platform key) earlier)) ↔
      Spaced (appendsTo (Sessions.sessionPath platform key) last.trace)) := by
  obtain ⟨shows_last, paired⟩ := run_shows played (Sessions.sessionPath platform key)
  constructor
  · intro stamp history loaded
    have stored := Sessions.loadHistory_said loaded
    rw [shows_last] at stored
    obtain ⟨start, begun, same⟩ := Option.map_eq_some_iff.mp stored
    rw [← same, historyOf, begun, Option.getD_some]
  · rw [← once_iff_spaced ((Sessions.storedTurns origin.store
      (Sessions.sessionPath platform key)).getD []) paired]
    constructor
    · intro states earlier later split
      obtain ⟨before, after, parts, same⟩ := appendsTo_split split
      rw [← same]
      exact states before after parts
    · intro histories earlier later parts
      refine histories _ (appendsFrom (Sessions.sessionPath platform key) earlier later) ?_
      rw [parts, appendsTo, appendsFrom_append]
      rfl

end

/-! ## A message that is tried again -/

/-- The delivery of the reply fails. -/
def undelivered : InboundChoice :=
  { answeredChoice "t1" with
    delivered := .error (GatewayError.infrastructure "delivery failed") }

/-- The whole message is handled a second time after its delivery has failed. -/
def triedAgain : List (inboundMachine webhookSetup).Move :=
  .start (InboundCall.inbound "webhook" (chatMessage "m1")) ::
    (List.replicate 11 (.step 0 undelivered) ++
      .start (InboundCall.inbound "webhook" (chatMessage "m1")) ::
        List.replicate 11 (.step 1 (answeredChoice "t1")))

/-- The results of two calls and the history of their chat. -/
structure Tried where
  results : List (Option (Except GatewayError Json))
  history : List (Option MessageKey × String × String)
  once : Bool

def tried (last : (inboundMachine webhookSetup).System) : Tried where
  results := [0, 1].map last.result?
  history := (historyOf emptyWorld (Sessions.sessionPath "p" "c") last.trace).map fun entry =>
    (entry.message, entry.said)
  once := decide (Once (historyOf emptyWorld (Sessions.sessionPath "p" "c") last.trace))

def emptyReply : String :=
  "HarborBeacon returned an empty reply."

/-- The delivery fails, the message is handled again, and its turns are in the history twice. -/
theorem retried_message_enters_twice : ∃ last,
    (Machine.System.boot emptyWorld).play triedAgain = some last ∧
      last.result? 0 = some (.error (GatewayError.infrastructure "delivery failed")) ∧
      last.result? 1 = some (.ok .null) ∧
      (historyOf emptyWorld (Sessions.sessionPath "p" "c") last.trace).map (fun entry =>
        (entry.message, entry.said)) =
        [(some ("p", "c", "m1"), "user", "t"), (some ("p", "c", "m1"), "assistant", emptyReply),
          (some ("p", "c", "m1"), "user", "t"), (some ("p", "c", "m1"), "assistant", emptyReply)] ∧
      ¬Once (historyOf emptyWorld (Sessions.sessionPath "p" "c") last.trace) := by
  have played : ((Machine.System.boot emptyWorld).play triedAgain).map tried =
      some ⟨[some (.error (GatewayError.infrastructure "delivery failed")), some (.ok .null)],
        [(some ("p", "c", "m1"), "user", "t"), (some ("p", "c", "m1"), "assistant", emptyReply),
          (some ("p", "c", "m1"), "user", "t"), (some ("p", "c", "m1"), "assistant", emptyReply)],
        false⟩ := by rfl
  obtain ⟨last, reached, shown⟩ := Option.map_eq_some_iff.mp played
  simp only [tried, List.map_cons, List.map_nil, Tried.mk.injEq, List.cons.injEq, and_true,
    decide_eq_false_iff_not] at shown
  obtain ⟨⟨first, second⟩, history, twice⟩ := shown
  exact ⟨last, reached, first, second, history, twice⟩

theorem first_try_enters_once : ∃ last,
    (Machine.System.boot emptyWorld).play (triedAgain.take 12) = some last ∧
      ((∀ earlier later, last.trace = earlier ++ later →
          Once (historyOf emptyWorld (Sessions.sessionPath "p" "c") earlier)) ↔
        Spaced (appendsTo (Sessions.sessionPath "p" "c") last.trace)) := by
  have played : ((Machine.System.boot emptyWorld).play (triedAgain.take 12)).map (·.result? 0) =
      some (some (.error (GatewayError.infrastructure "delivery failed"))) := by rfl
  obtain ⟨last, reached, -⟩ := Option.map_eq_some_iff.mp played
  exact ⟨last, reached, (history_once_iff reached "p" "c").2⟩

end Inbound

end HarborGate
