import HarborGate.Lib.Attempts
import HarborGate.Store.Sessions

/-!
The files under the session root, as `store.rs` reads and replaces them: a shared map may still
stand under the name of its backup, which older versions wrote, and every step of an operation can
fail or be its last. What a file has is the value of its text, `none` for a text that is no JSON.
-/

namespace HarborGate

namespace Files

open Interleave Sessions

/-! ## Operations -/

inductive FileOp
  | createDirAll
  | pathExists (name : String)
  | rename (source target : String)
  | readToString (name : String)
  | removeFile (name : String)
  | replace (name : String) (content : Json)
  | lockExclusive (name : String)

abbrev FileAns : FileOp → Type
  | .createDirAll => Except String Unit
  | .pathExists _ => Bool
  | .rename _ _ => Except String Unit
  | .readToString _ => Except String (Option Json)
  | .removeFile _ => Except String Unit
  | .replace _ _ => Except String Unit
  | .lockExclusive _ => Except String Unit

abbrev FileGate (α : Type) := Fallible String FileOp FileAns α

def ask (op : FileOp) : FileGate (FileAns op) :=
  ExceptT.lift (Prog.perform op)

def raise {α : Type} (result : Except String α) : FileGate α :=
  ExceptT.mk (pure result)

/-- An error is told as `text`. -/
def withContext {α : Type} (text : String) (result : Except String α) : FileGate α :=
  raise (result.mapError fun _ => text)

/-! ## Names -/

/-- The name up to its last dot, unless that is its first character. -/
def fileStem (name : List Char) : List Char :=
  match name.reverse.dropWhile (· ≠ '.') with
  | [] => name
  | [_] => name
  | _ :: rest => rest.reverse

/-- `backup_path`. -/
def backupPath (name : String) : String :=
  String.ofList (fileStem name.toList ++ ".bak".toList)

def routesFile : String := "_routes.json"

def deliveriesFile : String := "_deliveries.json"

def deliveryItemsFile : String := "_delivery_items.json"

def deliveryItemsLockFile : String := "_delivery_items.lock"

def sharedFiles : List String := [routesFile, deliveriesFile, deliveryItemsFile]

/-! ## The disk -/

abbrev Disk := String → Option (Option Json)

/-- What the surroundings decide at one operation. A replacement that fails may have been made. -/
structure FileChoice where
  failure : Option String
  landed : Bool

def Disk.set (disk : Disk) (name : String) (content : Option (Option Json)) : Disk :=
  fun other => if other = name then content else disk other

def FileChoice.outcome (choice : FileChoice) : Except String Unit :=
  match choice.failure with
  | some text => .error text
  | none => .ok ()

/-- A lock file has no content of its own and is not kept among the files. -/
def Disk.perform (disk : Disk) : (op : FileOp) → FileChoice → FileAns op × Disk
  | .createDirAll, choice => (choice.outcome, disk)
  | .pathExists name, _ => ((disk name).isSome, disk)
  | .rename source target, choice =>
      match choice.failure, disk source with
      | some text, _ => (.error text, disk)
      | none, none => (.error "No such file or directory", disk)
      | none, some content => (.ok (), (disk.set source none).set target (some content))
  | .readToString name, choice =>
      match choice.failure, disk name with
      | some text, _ => (.error text, disk)
      | none, none => (.error "No such file or directory", disk)
      | none, some content => (.ok content, disk)
  | .removeFile name, choice =>
      match choice.failure with
      | some text => (.error text, disk)
      | none => (.ok (), disk.set name none)
  | .replace name content, choice =>
      match choice.failure with
      | some text => (.error text, if choice.landed then disk.set name (some (some content)) else disk)
      | none => (.ok (), disk.set name (some (some content)))
  | .lockExclusive _, choice => (choice.outcome, disk)

/-! ## Reading and replacing a file -/

/-- `load_payload_unlocked`. -/
def loadPayloadUnlocked (platform chatId : String) : FileGate JsonMap := do
  let path := sessionPath platform chatId
  if ← ask (.pathExists path) then
    let content ← withContext ("failed to read session " ++ path) (← ask (.readToString path))
    return completePayload platform chatId ((content.bind Json.asObject).getD [])
  else
    return [("chat_id", .str chatId), ("metadata", .obj []), ("platform", .str platform),
      ("turns", .arr [])]

/-- The map that a shared file holds. -/
def sharedMap (name : String) (content : Option Json) : Except String JsonMap :=
  match content with
  | none => .error ("shared map " ++ name ++ " contains invalid JSON")
  | some payload =>
      match payload.asObject with
      | none => .error ("shared map " ++ name ++ " must be a JSON object")
      | some fields => .ok fields

/-- The map of a file that is there. -/
def readSharedMap (name : String) : FileGate JsonMap := do
  if ← ask (.pathExists name) then
    let content ← withContext ("failed to read shared map " ++ name) (← ask (.readToString name))
    raise (sharedMap name content)
  else return []

/-- `load_shared_map_unlocked`. -/
def loadSharedMapUnlocked (name : String) : FileGate JsonMap := do
  if ← ask (.pathExists name) then readSharedMap name
  else if ← ask (.pathExists (backupPath name)) then
    withContext ("failed to recover shared map backup " ++ backupPath name)
      (← ask (.rename (backupPath name) name))
    readSharedMap name
  else readSharedMap name

def replaceFile (name : String) (payload : JsonMap) : FileGate Unit := do
  withContext ("failed to atomically replace " ++ name) (← ask (.replace name (.obj payload)))

/-- `write_json`. -/
def writeJson (name : String) (payload : JsonMap) : FileGate Unit := do
  raise (← ask .createDirAll)
  if ← ask (.pathExists name) then
    if ← ask (.pathExists (backupPath name)) then
      withContext ("failed to remove stale backup " ++ backupPath name)
        (← ask (.removeFile (backupPath name)))
      replaceFile name payload
    else replaceFile name payload
  else replaceFile name payload

/-! ## The calls -/

/-- `set_metadata` on what was loaded. -/
def metadataPayload (platform chatId : String) (metadata payload : JsonMap) : JsonMap :=
  let payload := JsonMap.insert payload "platform" (.str platform)
  let payload := JsonMap.insert payload "chat_id" (.str chatId)
  let payload := JsonMap.insert payload "metadata" (.obj metadata)
  if ((JsonMap.get payload "turns").bind Json.asArray).isSome then payload
  else JsonMap.insert payload "turns" (.arr [])

/-- `append_turns` on what was loaded. -/
def turnsPayload (stamp platform chatId : String) (turns : List ConversationTurn)
    (payload : JsonMap) : JsonMap :=
  let history := payloadTurns stamp payload ++ turns
  let history := history.drop (history.length - maxTurns)
  let payload := JsonMap.insert payload "platform" (.str platform)
  let payload := JsonMap.insert payload "chat_id" (.str chatId)
  let payload := JsonMap.insert payload "turns" (.arr (history.map ConversationTurn.toJson))
  if ((JsonMap.get payload "metadata").bind Json.asObject).isSome then payload
  else JsonMap.insert payload "metadata" (.obj [])

def deliveryRecord (fingerprint : String) (response classification : Json) : Json :=
  .obj [("classification", classification), ("request_fingerprint", .str fingerprint),
    ("response_payload", response)]

/-- What `delivery_health` makes of the records. -/
def healthOf (records : JsonMap) : Json :=
  let ready := records.isEmpty
  let state := if ready then "unknown" else "ready"
  let side := Json.obj [("health_state", .str state), ("ready", .bool ready)]
  .obj [("failure_class_counts", .obj []), ("proactive", side), ("queue_state_counts", .obj []),
    ("record_count", .num (records.length : Int)), ("route_mode_counts", .obj []),
    ("source_bound", side),
    ("unknown", .obj [("health_state", .str "unknown"), ("ready", .bool false)])]

/-- What an operation on the delivery items makes of them: what it returns, and the map to write if
it changes anything. -/
abbrev ItemsChange := JsonMap → Except String (Json × Option JsonMap)

inductive StoreCall
  | loadHistory (stamp platform chatId : String)
  | loadMetadata (platform chatId : String)
  | setMetadata (platform chatId : String) (metadata : JsonMap)
  | appendTurns (stamp platform chatId : String) (turns : List ConversationTurn)
  | registerRoute (routeKey : String) (route : Json)
  | resolveRoute (routeKey : String)
  | loadDeliveryRecord (idempotencyKey : String)
  | saveDeliveryRecord (idempotencyKey fingerprint : String) (response classification : Json)
  | deliveryHealth
  | deliveryItems (change : ItemsChange)

inductive StoreResult
  | saved
  | turns (turns : List ConversationTurn)
  | metadata (metadata : JsonMap)
  | found (value : Option Json)
  | value (value : Json)

/-- A field of a shared map; none for a blank key. -/
def lookUp (name key : String) : FileGate StoreResult :=
  if Text.isBlank key then return .found none
  else do
    let fields ← loadSharedMapUnlocked name
    return .found (JsonMap.get fields key)

/-- A field put into a shared map. -/
def putInto (name key label : String) (value : Json) : FileGate StoreResult :=
  if Text.isBlank key then throw (label ++ " is required")
  else do
    let fields ← loadSharedMapUnlocked name
    writeJson name (fields.insert key value)
    return .saved

/-- `with_delivery_items_lock` around a change of the delivery items. -/
def changeItems (change : ItemsChange) : FileGate StoreResult := do
  withContext ("failed to acquire delivery item lock " ++ deliveryItemsLockFile)
    (← ask (.lockExclusive deliveryItemsLockFile))
  let fields ← loadSharedMapUnlocked deliveryItemsFile
  let (value, changed) ← raise (change fields)
  match changed with
  | none => return .value value
  | some fields =>
      writeJson deliveryItemsFile fields
      return .value value

def StoreCall.program : StoreCall → FileGate StoreResult
  | .loadHistory stamp platform chatId => do
      return .turns (payloadTurns stamp (← loadPayloadUnlocked platform chatId))
  | .loadMetadata platform chatId => do
      let payload ← loadPayloadUnlocked platform chatId
      return .metadata (((JsonMap.get payload "metadata").bind Json.asObject).getD [])
  | .setMetadata platform chatId metadata => do
      let payload ← loadPayloadUnlocked platform chatId
      writeJson (sessionPath platform chatId) (metadataPayload platform chatId metadata payload)
      return .saved
  | .appendTurns stamp platform chatId turns => do
      let payload ← loadPayloadUnlocked platform chatId
      writeJson (sessionPath platform chatId) (turnsPayload stamp platform chatId turns payload)
      return .saved
  | .registerRoute routeKey route => putInto routesFile routeKey "route_key" route
  | .resolveRoute routeKey => lookUp routesFile routeKey
  | .loadDeliveryRecord key => lookUp deliveriesFile key
  | .saveDeliveryRecord key fingerprint response classification =>
      putInto deliveriesFile key "idempotency_key" (deliveryRecord fingerprint response classification)
  | .deliveryHealth => do return .value (healthOf (← loadSharedMapUnlocked deliveriesFile))
  | .deliveryItems change => changeItems change

/-! ## What the store is for -/

/-- What stands under a name that the store uses; a shared map also stands under its backup. -/
def Disk.view (disk : Disk) (name : String) : Option (Option Json) :=
  if name ∈ sharedFiles then (disk name).or (disk (backupPath name))
  else if ".json".toList <:+ name.toList then disk name
  else none

def storedFile : Option (Option Json) → StoredFile
  | none => .absent
  | some content => .text content

/-- The session store of the files, all of which can be replaced. -/
def Disk.store (disk : Disk) : Store where
  files name := storedFile (disk.view name)
  writable _ := true

def loadShared (store : Store) (name : String) : Except String JsonMap :=
  match store.files name with
  | .absent => .ok []
  | .unreadable => .error ("failed to read shared map " ++ name)
  | .text content => sharedMap name content

/-- A call that only reads. -/
def reads (store : Store) (result : Except String StoreResult) : Except String StoreResult × Store :=
  (result, store)

/-- A call that saves. -/
def saves (written : Except String Unit × Store) : Except String StoreResult × Store :=
  (written.1.map fun _ => .saved, written.2)

end Files

end HarborGate
