import HarborGate.Store.Crashes

/-!
What a history of calls leaves of the store: a save that was reported is found until the next save
to its key, and a shared map that cannot be read is left alone.
-/

namespace HarborGate

namespace Files

open Interleave Sessions

/-! ## Histories -/

/-- Attempts of calls on a disk, one after another as the lock of the store orders them. -/
def history (disk : Disk) (attempts : List (StoreCall × List FileChoice)) :
    Log StoreCall String StoreResult × Disk :=
  serve Disk.perform (fun call => call.program.run) disk attempts

/-- The shared map and the key that a call saves to, with the value. -/
def StoreCall.savesTo : StoreCall → Option (String × String × Json)
  | .registerRoute routeKey route => some (routesFile, routeKey, route)
  | .saveDeliveryRecord key fingerprint response classification =>
      some (deliveriesFile, key, deliveryRecord fingerprint response classification)
  | _ => none

/-- What a call that succeeds does to the stored files. -/
inductive Change (store : Store) (call : StoreCall) : Store → Prop
  | none : Change store call store
  | session (platform chatId : String) (payload : JsonMap) :
      Change store call (Sessions.writeJson store (sessionPath platform chatId) payload).2
  | put {name key : String} {value : Json} {fields : JsonMap}
      (saves : call.savesTo = some (name, key, value)) (read : loadShared store name = .ok fields)
      (writable : store.writable name = true) :
      Change store call (Sessions.writeJson store name (fields.insert key value)).2
  | items {fields : JsonMap} (read : loadShared store deliveryItemsFile = .ok fields)
      (payload : JsonMap) :
      Change store call (Sessions.writeJson store deliveryItemsFile payload).2

section

variable {store after : Store} {name key : String} {value : Json} {call : StoreCall}
  {result : StoreResult}

theorem loadShared_congr (same : after.files name = store.files name) :
    loadShared after name = loadShared store name := by
  rw [loadShared, same, loadShared]

theorem loadShared_written (writable : store.writable name = true) (fields : JsonMap) :
    loadShared (Sessions.writeJson store name fields).2 name = .ok fields := by
  rw [loadShared, Sessions.writeJson, if_pos writable]
  simp [sharedMap, Json.asObject]

end

/-! ## What is kept -/

/-- The map has the value under the key. -/
def Stored (name key : String) (value : Json) (store : Store) : Prop :=
  ∃ fields, loadShared store name = .ok fields ∧ fields.get key = some value

/-- The map is there and cannot be read as one. -/
def Corrupt (name : String) (content : Option Json) (store : Store) : Prop :=
  store.files name = .text content ∧ ∀ fields, sharedMap name content ≠ .ok fields

section

variable {store after : Store} {name key : String} {value : Json} {call : StoreCall}
  {result : StoreResult} {content : Option Json}

theorem session_elsewhere (shared : name ∈ sharedFiles) (platform chatId : String)
    (payload : JsonMap) :
    (Sessions.writeJson store (sessionPath platform chatId) payload).2.files name = store.files name := by
  refine writeJson_elsewhere payload ?_
  rintro rfl
  exact session_not_shared platform chatId shared

/-- Only another save to the key, or a change of all the delivery items, takes a value away. -/
theorem Change.stored (change : Change store call after) (shared : name ∈ sharedFiles)
    (items : name ≠ deliveryItemsFile) (other : ∀ value, call.savesTo ≠ some (name, key, value))
    (stored : Stored name key value store) : Stored name key value after := by
  obtain ⟨fields, read, found⟩ := stored
  cases change with
  | none => exact ⟨fields, read, found⟩
  | session platform chatId payload =>
      refine ⟨fields, ?_, found⟩
      rw [loadShared_congr (session_elsewhere shared platform chatId payload)]
      exact read
  | put saves given writable =>
      rename_i file label written old
      by_cases same : name = file
      · subst same
        refine ⟨_, loadShared_written writable _, ?_⟩
        obtain rfl := Except.ok.inj (read.symm.trans given)
        have different : label ≠ key := by
          rintro rfl
          exact other written saves
        rw [JsonMap.get_insert, if_neg different]
        exact found
      · refine ⟨fields, ?_, found⟩
        rw [loadShared_congr (writeJson_elsewhere _ same)]
        exact read
  | items given payload =>
      refine ⟨fields, ?_, found⟩
      rw [loadShared_congr (writeJson_elsewhere _ items)]
      exact read

theorem Corrupt.unread (corrupt : Corrupt name content store) (fields : JsonMap) :
    loadShared store name ≠ .ok fields := by
  rw [loadShared, corrupt.1]
  exact corrupt.2 fields

theorem Change.corrupt (change : Change store call after) (shared : name ∈ sharedFiles)
    (corrupt : Corrupt name content store) : Corrupt name content after := by
  cases change with
  | none => exact corrupt
  | session platform chatId payload =>
      exact ⟨(session_elsewhere shared platform chatId payload).trans corrupt.1, corrupt.2⟩
  | put saves given writable =>
      rename_i file label written old
      by_cases same : name = file
      · subst same
        exact absurd given (corrupt.unread _)
      · exact ⟨(writeJson_elsewhere _ same).trans corrupt.1, corrupt.2⟩
  | items given payload =>
      by_cases same : name = deliveryItemsFile
      · subst same
        exact absurd given (corrupt.unread _)
      · exact ⟨(writeJson_elsewhere _ same).trans corrupt.1, corrupt.2⟩

end

end Files

end HarborGate
