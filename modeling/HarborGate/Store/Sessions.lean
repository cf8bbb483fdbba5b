import HarborGate.Models

/-!
The session files of `store.rs`: one JSON file for each pair of platform and chat, named after
their slugs, and the shared map of routes.
-/

namespace HarborGate

structure ConversationTurn where
  role : String
  content : String
  timestamp : String
deriving DecidableEq, Repr

namespace ConversationTurn

/-- What serde reads back. A missing timestamp is the time of reading. -/
def ofJson (stamp : String) : Json → Option ConversationTurn
  | .obj fields => do
      let role ← (JsonMap.get fields "role").bind Json.asStr
      let content ← (JsonMap.get fields "content").bind Json.asStr
      let timestamp ← match JsonMap.get fields "timestamp" with
        | none => some stamp
        | some value => value.asStr
      return { role, content, timestamp }
  | .arr [.str role, .str content] => some { role, content, timestamp := stamp }
  | .arr [.str role, .str content, .str timestamp] => some { role, content, timestamp }
  | _ => none

def toJson (turn : ConversationTurn) : Json :=
  .obj [("content", .str turn.content), ("role", .str turn.role), ("timestamp", .str turn.timestamp)]

end ConversationTurn

namespace Sessions

/-- What stands under a file name. A text that is no JSON reads as `none`. -/
inductive StoredFile
  | absent
  | unreadable
  | text (content : Option Json)

/-- The session root. `writable` says where replacing a file goes through. -/
structure Store where
  files : String → StoredFile
  writable : String → Bool

def slugChar (c : Char) : Char :=
  if c.isLower || c.isDigit || c = '.' || c = '_' || c = '-' then c else '_'

def slug (value : String) : String :=
  let text := Text.toLowercase (Text.trim value)
  let text := if text = "" then "unknown" else text
  String.ofList (text.toList.map slugChar)

def sessionPath (platform chatId : String) : String :=
  slug platform ++ "__" ++ slug chatId ++ ".json"

/-- The fields every loaded payload has. -/
def completePayload (platform chatId : String) (fields : JsonMap) : JsonMap :=
  let fields := JsonMap.insert fields "platform" ((JsonMap.get fields "platform").getD (.str platform))
  let fields := JsonMap.insert fields "chat_id" ((JsonMap.get fields "chat_id").getD (.str chatId))
  let fields :=
    if ((JsonMap.get fields "metadata").bind Json.asObject).isSome then fields
    else JsonMap.insert fields "metadata" (.obj [])
  if ((JsonMap.get fields "turns").bind Json.asArray).isSome then fields
  else JsonMap.insert fields "turns" (.arr [])

def loadPayload (store : Store) (platform chatId : String) : Except String JsonMap :=
  match store.files (sessionPath platform chatId) with
  | .absent =>
      .ok [("chat_id", .str chatId), ("metadata", .obj []), ("platform", .str platform),
        ("turns", .arr [])]
  | .unreadable => .error ("failed to read session " ++ sessionPath platform chatId)
  | .text content =>
      .ok (completePayload platform chatId ((content.bind Json.asObject).getD []))

def payloadTurns (stamp : String) (payload : JsonMap) : List ConversationTurn :=
  (((JsonMap.get payload "turns").bind Json.asArray).getD []).filterMap (ConversationTurn.ofJson stamp)

def loadHistory (store : Store) (stamp platform chatId : String) :
    Except String (List ConversationTurn) :=
  (loadPayload store platform chatId).map (payloadTurns stamp)

def loadMetadata (store : Store) (platform chatId : String) : Except String JsonMap :=
  (loadPayload store platform chatId).map fun payload =>
    ((JsonMap.get payload "metadata").bind Json.asObject).getD []

def writeJson (store : Store) (path : String) (payload : JsonMap) : Except String Unit × Store :=
  if store.writable path then
    (.ok (), { store with
      files := fun name => if name = path then .text (some (.obj payload)) else store.files name })
  else (.error ("failed to atomically replace " ++ path), store)

def setMetadata (store : Store) (platform chatId : String) (metadata : JsonMap) :
    Except String Unit × Store :=
  match loadPayload store platform chatId with
  | .error text => (.error text, store)
  | .ok payload =>
      let payload := JsonMap.insert payload "platform" (.str platform)
      let payload := JsonMap.insert payload "chat_id" (.str chatId)
      let payload := JsonMap.insert payload "metadata" (.obj metadata)
      let payload :=
        if ((JsonMap.get payload "turns").bind Json.asArray).isSome then payload
        else JsonMap.insert payload "turns" (.arr [])
      writeJson store (sessionPath platform chatId) payload

def maxTurns : Nat := 20

def appendTurns (store : Store) (stamp platform chatId : String) (turns : List ConversationTurn) :
    Except String Unit × Store :=
  match loadPayload store platform chatId with
  | .error text => (.error text, store)
  | .ok payload =>
      let history := payloadTurns stamp payload ++ turns
      let history := history.drop (history.length - maxTurns)
      let payload := JsonMap.insert payload "platform" (.str platform)
      let payload := JsonMap.insert payload "chat_id" (.str chatId)
      let payload := JsonMap.insert payload "turns" (.arr (history.map ConversationTurn.toJson))
      let payload :=
        if ((JsonMap.get payload "metadata").bind Json.asObject).isSome then payload
        else JsonMap.insert payload "metadata" (.obj [])
      writeJson store (sessionPath platform chatId) payload

/-! ## One file at a time -/

variable {store other : Store} {platform chatId platform' chatId' : String}

theorem loadPayload_congr
    (same : other.files (sessionPath platform chatId) = store.files (sessionPath platform chatId)) :
    loadPayload other platform chatId = loadPayload store platform chatId := by
  rw [loadPayload, same, loadPayload]

theorem writeJson_elsewhere {path name : String} (payload : JsonMap) (elsewhere : name ≠ path) :
    (writeJson store path payload).2.files name = store.files name := by
  rw [writeJson]
  split
  · exact if_neg elsewhere
  · rfl

theorem setMetadata_elsewhere (store : Store) {name : String} (metadata : JsonMap)
    (elsewhere : name ≠ sessionPath platform chatId) :
    (setMetadata store platform chatId metadata).2.files name = store.files name := by
  rw [setMetadata]
  split
  · rfl
  · exact writeJson_elsewhere _ elsewhere

theorem appendTurns_elsewhere (store : Store) {name : String} (stamp : String) (turns : List ConversationTurn)
    (elsewhere : name ≠ sessionPath platform chatId) :
    (appendTurns store stamp platform chatId turns).2.files name = store.files name := by
  rw [appendTurns]
  split
  · rfl
  · exact writeJson_elsewhere _ elsewhere

/-- What is loaded has the metadata of the file when that is an object. -/
theorem completePayload_metadata (fields : JsonMap) :
    (JsonMap.get (completePayload platform chatId fields) "metadata").bind Json.asObject =
      some (((JsonMap.get fields "metadata").bind Json.asObject).getD []) := by
  have turns (filled : JsonMap) :
      JsonMap.get (if ((JsonMap.get filled "turns").bind Json.asArray).isSome then filled
        else JsonMap.insert filled "turns" (.arr [])) "metadata" = JsonMap.get filled "metadata" := by
    split <;> simp [JsonMap.get_insert]
  simp only [completePayload]
  rw [turns]
  cases found : (JsonMap.get fields "metadata").bind Json.asObject with
  | some metadata => simp [JsonMap.get_insert, found]
  | none =>
      have fresh : (Json.obj []).asObject = some [] := rfl
      simp only [JsonMap.get_insert]
      simp [JsonMap.get_insert, found, fresh]

theorem loadMetadata_setMetadata (store : Store) (metadata : JsonMap) {payload : JsonMap}
    (loaded : loadPayload store platform chatId = .ok payload)
    (writable : store.writable (sessionPath platform chatId) = true)
    (same : sessionPath platform' chatId' = sessionPath platform chatId) :
    loadMetadata (setMetadata store platform chatId metadata).2 platform' chatId' = .ok metadata := by
  simp only [setMetadata, loaded, writeJson, writable, if_true]
  simp only [loadMetadata, loadPayload, same, if_true, Except.map, Option.bind_some, Json.asObject,
    Option.getD_some, completePayload_metadata]
  split <;> simp [JsonMap.get_insert, Json.asObject]

theorem setMetadata_ok {metadata : JsonMap} {after : Store}
    (set : setMetadata store platform chatId metadata = (.ok (), after)) :
    loadMetadata after platform chatId = .ok metadata := by
  cases loaded : loadPayload store platform chatId with
  | error text => simp [setMetadata, loaded] at set
  | ok payload =>
      by_cases writable : store.writable (sessionPath platform chatId) = true
      · have read := loadMetadata_setMetadata store metadata loaded writable rfl
        rw [set] at read
        exact read
      · simp [setMetadata, loaded, writeJson, writable] at set

theorem setMetadata_error {metadata : JsonMap} {after : Store} {text : String}
    (set : setMetadata store platform chatId metadata = (.error text, after)) : after = store := by
  cases loaded : loadPayload store platform chatId with
  | error text =>
      simp only [setMetadata, loaded, Prod.mk.injEq] at set
      exact set.2.symm
  | ok payload =>
      simp only [setMetadata, loaded, writeJson] at set
      split at set
      · simp at set
      · exact (Prod.mk.inj set).2.symm

/-- New turns leave the metadata of their session as they are. -/
theorem loadMetadata_appendTurns (store : Store) (stamp : String) (turns : List ConversationTurn) :
    loadMetadata (appendTurns store stamp platform chatId turns).2 platform chatId =
      loadMetadata store platform chatId := by
  cases loaded : loadPayload store platform chatId with
  | error text => simp [appendTurns, loaded]
  | ok payload =>
      have before : loadMetadata store platform chatId =
          .ok (((JsonMap.get payload "metadata").bind Json.asObject).getD []) := by
        simp [loadMetadata, loaded, Except.map]
      simp only [appendTurns, loaded, writeJson]
      split
      · rw [before]
        simp only [loadMetadata, loadPayload, if_true, Except.map, Option.bind_some, Json.asObject,
          Option.getD_some, completePayload_metadata]
        cases stored : (JsonMap.get payload "metadata").bind Json.asObject with
        | none => simp [JsonMap.get_insert, stored, Json.asObject]
        | some metadata => simp [JsonMap.get_insert, stored]
      · rfl

/-! ## Isolation -/

def emptyStore : Store where
  files _ := .absent
  writable _ := true

/-- The operations on the first session change nothing that is loaded of the second. -/
def Isolated (platform chatId platform' chatId' : String) : Prop :=
  ∀ (store : Store) (metadata : JsonMap) (turns : List ConversationTurn) (written read : String),
    loadMetadata (setMetadata store platform chatId metadata).2 platform' chatId' =
        loadMetadata store platform' chatId' ∧
      loadHistory (setMetadata store platform chatId metadata).2 read platform' chatId' =
        loadHistory store read platform' chatId' ∧
      loadMetadata (appendTurns store written platform chatId turns).2 platform' chatId' =
        loadMetadata store platform' chatId' ∧
      loadHistory (appendTurns store written platform chatId turns).2 read platform' chatId' =
        loadHistory store read platform' chatId'

/-- Metadata set for one session is what the other reads under the shared name. -/
theorem not_isolated
    (collide : slug platform ++ "__" ++ slug chatId = slug platform' ++ "__" ++ slug chatId') :
    ¬Isolated platform chatId platform' chatId' := by
  intro isolated
  have same : sessionPath platform' chatId' = sessionPath platform chatId := by
    rw [sessionPath, sessionPath, collide]
  have written := loadMetadata_setMetadata emptyStore [("k", .null)] rfl rfl same
  rw [(isolated emptyStore [("k", .null)] [] "" "").1] at written
  simp [loadMetadata, loadPayload, emptyStore, Except.map, JsonMap.get, Json.asObject] at written

/-- Sessions are isolated exactly when their slugs, joined, differ. -/
theorem sessions_isolated_iff (platform chatId platform' chatId' : String) :
    Isolated platform chatId platform' chatId' ↔
      slug platform ++ "__" ++ slug chatId ≠ slug platform' ++ "__" ++ slug chatId' := by
  constructor
  · exact fun isolated collide => not_isolated collide isolated
  · intro differ store metadata turns stamp read
    have elsewhere : sessionPath platform' chatId' ≠ sessionPath platform chatId := by
      intro same
      refine differ ?_
      rw [sessionPath, sessionPath] at same
      exact (String.append_left_inj _).mp same.symm
    have set := loadPayload_congr (setMetadata_elsewhere store metadata elsewhere)
    have append := loadPayload_congr (appendTurns_elsewhere store stamp turns elsewhere)
    simp only [loadMetadata, loadHistory, set, append, and_self]

/-- Two Weixin chats whose ids differ in case only. -/
theorem chats_differing_in_case_share_a_session :
    ("weixin", "wxid_Ab") ≠ ("weixin", "wxid_ab") ∧
      ¬Isolated "weixin" "wxid_Ab" "weixin" "wxid_ab" :=
  ⟨by decide, not_isolated (by
    have same : Text.trim "wxid_Ab" = "wxid_Ab" := by decide
    have lower : Text.toLowercase "wxid_Ab" = "wxid_ab" := by decide
    have other : Text.trim "wxid_ab" = "wxid_ab" := by decide
    have lower' : Text.toLowercase "wxid_ab" = "wxid_ab" := by decide
    simp only [slug, same, lower, other, lower'])⟩

end Sessions

end HarborGate
