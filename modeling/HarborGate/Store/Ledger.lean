import Std.Data.TreeMap
import HarborGate.Models

/-!
The delivery ledger `_delivery_items.json` of `store.rs` and the operations on it. Every
operation runs under the ledger's file lock, so each one is a function of the ledger it
reads to the ledger it writes; on an error nothing is written. `now` is the clock reading
and `token` the UUID the operation draws.
-/

namespace HarborGate

inductive ItemStatus
  | pending
  | sending
  | succeeded
  | failed
  | expired
  | terminalFailed
  | other (text : String)
deriving DecidableEq, Repr

inductive StageStatus
  | pending
  | prepared
  | succeeded
  | unsupported
  | failed
deriving DecidableEq, Repr

inductive MaterializationStatus
  | pending
  | materializing
  | materialized
  | notRequired
  | failed
deriving DecidableEq, Repr

/-- The two delivery stages; `delivery_stage_object` rejects every other name. -/
inductive Stage
  | native
  | fallback
deriving DecidableEq, Repr

/-- A timestamp field: missing, not an RFC 3339 string, or an instant. -/
inductive Stamp
  | absent
  | malformed
  | at (instant : Time)
deriving DecidableEq, Repr

/-- A `claim_expires_at` field: missing in legacy ledgers, `null` once a claim is finished. -/
inductive LeaseField
  | absent
  | null
  | malformed
  | at (instant : Time)
deriving DecidableEq, Repr

structure StageRecord where
  status : StageStatus
  providerMediaId : Option String
  providerMediaState : Json
  providerClientId : Option String
  providerMessageId : Option String
  retryable : Bool
  lastError : Option String
  updatedAt : Stamp

structure Materialization where
  status : MaterializationStatus
  attempts : Nat
  retryable : Bool
  lastError : Option String
  owner : Option String
  claimToken : Option Uuid
  claimExpiresAt : LeaseField
  updatedAt : Stamp

structure LedgerItem where
  itemKey : String
  requestFingerprint : Option String
  artifactId : String
  kind : String
  plannedOutbound : Option OutboundMessage
  materialization : Option Materialization
  materializedOutbound : Option OutboundMessage
  status : ItemStatus
  attempts : Nat
  providerMediaId : Option String
  providerMediaState : Json
  providerClientId : Option String
  providerMessageId : Option String
  native : Option StageRecord
  fallback : Option StageRecord
  retryable : Option Bool
  lastError : Option String
  owner : Option String
  claimToken : Option Uuid
  claimExpiresAt : LeaseField
  cachePath : Option String
  fallbackUsed : Option Bool
  updatedAt : Stamp

structure LedgerRecord where
  requestFingerprint : String
  plannedOutbound : Option OutboundMessage
  items : Std.TreeMap String LedgerItem
  updatedAt : Stamp

abbrev Ledger := Std.TreeMap String LedgerRecord

def Ledger.item? (records : Ledger) (deliveryKey itemKey : String) : Option LedgerItem :=
  records[deliveryKey]?.bind (·.items[itemKey]?)

def Ledger.fingerprint? (records : Ledger) (deliveryKey : String) : Option String :=
  records[deliveryKey]?.map (·.requestFingerprint)

def Ledger.putItem (records : Ledger) (deliveryKey : String) (record : LedgerRecord)
    (itemKey : String) (item : LedgerItem) : Ledger :=
  records.insert deliveryKey { record with items := record.items.insert itemKey item }

/-- An `anyhow` error by its outermost message, or a panic while the lock was held. -/
inductive StoreError
  | message (text : String)
  | panicked
deriving DecidableEq, Repr

abbrev StoreResult := Except StoreError

def bail {α : Type} (text : String) : StoreResult α :=
  .error (.message text)

structure DeliveryPlanItem where
  itemKey : String
  artifactId : String
  kind : String
  plannedOutbound : OutboundMessage
  materializationRequired : Bool

structure DeliveryItemClaimRequest where
  deliveryKey : String
  requestFingerprint : String
  itemKey : String
  artifactId : String
  kind : String
  owner : String
  cachePath : Option String
  leaseSeconds : Nat

structure DeliveryMaterializationCompletion where
  deliveryKey : String
  itemKey : String
  claimToken : Uuid
  status : MaterializationStatus
  materializedOutbound : Option OutboundMessage
  cachePath : Option String
  retryable : Bool
  lastError : Option String

structure DeliveryItemUpload where
  deliveryKey : String
  itemKey : String
  claimToken : Uuid
  stage : Stage
  providerMediaId : String
  providerMediaState : Json
  providerClientId : Option String

structure DeliveryStageCompletion where
  deliveryKey : String
  itemKey : String
  claimToken : Uuid
  stage : Stage
  status : StageStatus
  providerMediaId : Option String
  providerClientId : Option String
  providerMessageId : Option String
  retryable : Bool
  lastError : Option String

structure DeliveryItemCompletion where
  deliveryKey : String
  itemKey : String
  claimToken : Uuid
  status : ItemStatus
  providerMediaId : Option String
  providerClientId : Option String
  providerMessageId : Option String
  retryable : Bool
  lastError : Option String
  fallbackUsed : Bool

inductive ItemClaim
  | succeeded (item : LedgerItem)
  | terminalFailed (item : LedgerItem)
  | busy (item : LedgerItem)
  | claimed (token : Uuid) (item : LedgerItem) (previousCachePath : Option String)

inductive MaterializationClaim
  | materialized (item : LedgerItem)
  | notRequired (item : LedgerItem)
  | terminalFailed (item : LedgerItem)
  | busy (item : LedgerItem)
  | claimed (token : Uuid) (item : LedgerItem)

/-! ## Leases -/

abbrev legacyDeliveryClaimLeaseSeconds : Int := 300

/-- `utc_now_iso` prints whole seconds. -/
def utcNowIso (now : Time) : Stamp :=
  .at (now - now % nanosPerSecond)

def i64Max : Nat := 2 ^ 63 - 1

/-- The last second that `DateTime<Utc>` represents. -/
def maxUtcSecond : Int := 8210266876799

/-- The first instant whose year has five digits: `to_rfc3339` prints it with a sign, which
`parse_from_rfc3339` refuses. -/
def year10000 : Time := 253402300800 * nanosPerSecond

def rfc3339Lease (instant : Time) : LeaseField :=
  if instant < year10000 then .at instant else .malformed

/-- The first instant that `DateTime<Utc>` does not represent. -/
def utcEnd : Time := (maxUtcSecond + 1) * nanosPerSecond

/-- When a claim made now expires; `none` is a panic, of `ChronoDuration::seconds` or of the addition
of the days. -/
def deliveryClaimExpiry (now : Time) (leaseSeconds : Nat) : Option Time :=
  let seconds := min (max leaseSeconds 1) i64Max
  if i64Max / 1000 < seconds then none
  else if now + seconds * nanosPerSecond < utcEnd then some (now + seconds * nanosPerSecond)
  else if now + 365000 * 86400 * nanosPerSecond < utcEnd then
    some (now + 365000 * 86400 * nanosPerSecond)
  else none

def deliveryClaimExpiresAt (now : Time) (leaseSeconds : Nat) : Option LeaseField :=
  (deliveryClaimExpiry now leaseSeconds).map rfc3339Lease

/-- The common body of `delivery_claim_is_unexpired` and `nested_claim_is_unexpired`. -/
def leaseIsUnexpired (label : String) (now : Time) (updatedAt : Stamp) (lease : LeaseField) :
    StoreResult Bool :=
  match updatedAt with
  | .absent => bail (label ++ " updated_at is missing")
  | .malformed => bail (label ++ " updated_at is malformed")
  | .at updated =>
      match lease with
      | .at expiry => .ok (decide (now < expiry))
      | .absent => .ok (decide (now < updated + legacyDeliveryClaimLeaseSeconds * nanosPerSecond))
      | .null => bail (label ++ " claim_expires_at is malformed")
      | .malformed => bail (label ++ " claim_expires_at is malformed")

def deliveryClaimIsUnexpired (now : Time) (item : LedgerItem) : StoreResult Bool :=
  leaseIsUnexpired "delivery claim lease" now item.updatedAt item.claimExpiresAt

def nestedClaimIsUnexpired (now : Time) (claim : Materialization) : StoreResult Bool :=
  leaseIsUnexpired "nested delivery claim" now claim.updatedAt claim.claimExpiresAt

/-- The test `status == "sending" && delivery_claim_is_unexpired(item)?`. -/
def claimIsBusy (now : Time) (item : LedgerItem) : StoreResult Bool :=
  if item.status = .sending then deliveryClaimIsUnexpired now item else .ok false

def materializationIsBusy (now : Time) (claim : Materialization) : StoreResult Bool :=
  if claim.status = .materializing then nestedClaimIsUnexpired now claim else .ok false

def requireActiveDeliveryClaim (now : Time) (item : LedgerItem) (token : Uuid) : StoreResult Unit := do
  let leaseIsUnexpired ← deliveryClaimIsUnexpired now item
  if item.status = .sending ∧ item.claimToken = some token ∧ leaseIsUnexpired then pure ()
  else bail "stale delivery item claim"

def requireActiveNestedClaim (now : Time) (claim : Materialization) (token : Uuid) :
    StoreResult Unit := do
  if claim.status = .materializing ∧ claim.claimToken = some token then
    if ← nestedClaimIsUnexpired now claim then pure ()
    else bail "stale nested delivery claim"
  else bail "stale nested delivery claim"

/-! ## Operations -/

def saturatingIncrement (attempts : Nat) : Nat :=
  min (attempts + 1) (2 ^ 64 - 1)

def deliveryStageValue (now : Time) : StageRecord where
  status := .pending
  providerMediaId := none
  providerMediaState := .null
  providerClientId := none
  providerMessageId := none
  retryable := true
  lastError := none
  updatedAt := utcNowIso now

def newMaterialization (now : Time) (required : Bool) : Materialization where
  status := if required then .pending else .notRequired
  attempts := 0
  retryable := required
  lastError := none
  owner := none
  claimToken := none
  claimExpiresAt := .null
  updatedAt := utcNowIso now

/-- The entry both `claim_delivery_item` and `persist_delivery_plan` insert for a new item. -/
def newItem (now : Time) (fingerprint itemKey artifactId kind : String)
    (plannedOutbound : Option OutboundMessage) (materialization : Option Materialization)
    (cachePath : Option String) : LedgerItem where
  itemKey := itemKey
  requestFingerprint := some fingerprint
  artifactId := artifactId
  kind := kind
  plannedOutbound := plannedOutbound
  materialization := materialization
  materializedOutbound := none
  status := .pending
  attempts := 0
  providerMediaId := none
  providerMediaState := .null
  providerClientId := none
  providerMessageId := none
  native := some (deliveryStageValue now)
  fallback := some (deliveryStageValue now)
  retryable := some true
  lastError := none
  owner := none
  claimToken := none
  claimExpiresAt := .null
  cachePath := cachePath
  fallbackUsed := none
  updatedAt := utcNowIso now

def bindFingerprint (item : LedgerItem) (fingerprint : String) : StoreResult LedgerItem :=
  match item.requestFingerprint with
  | some existing =>
      if existing = fingerprint then .ok item
      else bail "delivery item request fingerprint conflict"
  | none => .ok { item with requestFingerprint := some fingerprint }

def LedgerItem.claim (now : Time) (token : Uuid) (request : DeliveryItemClaimRequest)
    (lease : LeaseField) (item : LedgerItem) : LedgerItem :=
  { item with
    status := .sending
    attempts := saturatingIncrement item.attempts
    owner := some request.owner
    claimToken := some token
    claimExpiresAt := lease
    cachePath := request.cachePath
    updatedAt := utcNowIso now }

def claimDeliveryItem (now : Time) (token : Uuid) (request : DeliveryItemClaimRequest)
    (records : Ledger) : StoreResult (ItemClaim × Ledger) := do
  let record := records[request.deliveryKey]?.getD
    { requestFingerprint := request.requestFingerprint, plannedOutbound := none, items := ∅,
      updatedAt := utcNowIso now }
  if record.requestFingerprint ≠ request.requestFingerprint then
    bail "delivery item request fingerprint conflict"
  let item := record.items[request.itemKey]?.getD
    (newItem now request.requestFingerprint request.itemKey request.artifactId request.kind
      none none request.cachePath)
  if item.artifactId ≠ request.artifactId ∨ item.kind ≠ request.kind then
    bail "delivery item identity conflict"
  let item ← bindFingerprint item request.requestFingerprint
  if item.status = .succeeded then
    return (.succeeded item, records)
  if item.status = .failed ∧ item.retryable = some false then
    return (.terminalFailed item, records)
  if ← claimIsBusy now item then
    return (.busy item, records)
  match deliveryClaimExpiresAt now request.leaseSeconds with
  | none => throw .panicked
  | some lease =>
      let claimed := item.claim now token request lease
      return (.claimed token claimed item.cachePath,
        records.putItem request.deliveryKey { record with updatedAt := utcNowIso now }
          request.itemKey claimed)

def LedgerItem.plan (now : Time) (planned : DeliveryPlanItem) (item : LedgerItem) : LedgerItem :=
  { item with
    plannedOutbound := some (item.plannedOutbound.getD planned.plannedOutbound)
    materialization :=
      some (item.materialization.getD (newMaterialization now planned.materializationRequired)) }

def persistItem (now : Time) (fingerprint : String) (items : Std.TreeMap String LedgerItem)
    (planned : DeliveryPlanItem) : StoreResult (Std.TreeMap String LedgerItem) := do
  let item := items[planned.itemKey]?.getD
    (newItem now fingerprint planned.itemKey planned.artifactId planned.kind
      (some planned.plannedOutbound)
      (some (newMaterialization now planned.materializationRequired)) none)
  if item.artifactId ≠ planned.artifactId ∨ item.kind ≠ planned.kind ∨
      item.requestFingerprint ≠ some fingerprint then
    bail "delivery item identity conflict"
  return items.insert planned.itemKey (item.plan now planned)

def persistDeliveryPlan (now : Time) (deliveryKey fingerprint : String)
    (plannedOutbound : OutboundMessage) (plannedItems : List DeliveryPlanItem) (records : Ledger) :
    StoreResult Ledger := do
  let record := records[deliveryKey]?.getD
    { requestFingerprint := fingerprint, plannedOutbound := some plannedOutbound, items := ∅,
      updatedAt := utcNowIso now }
  if record.requestFingerprint ≠ fingerprint then
    bail "delivery item request fingerprint conflict"
  let items ← plannedItems.foldlM (persistItem now fingerprint) record.items
  return records.insert deliveryKey { record with
    plannedOutbound := some (record.plannedOutbound.getD plannedOutbound)
    items := items
    updatedAt := utcNowIso now }

/-- The lookup chain shared by the operations that expect the item to exist. -/
def locateItem (records : Ledger) (deliveryKey itemKey missing : String) :
    StoreResult (LedgerRecord × LedgerItem) :=
  match records[deliveryKey]? with
  | none => bail missing
  | some record =>
      match record.items[itemKey]? with
      | none => bail missing
      | some item => .ok (record, item)

def locateMaterialization (records : Ledger) (deliveryKey itemKey : String) :
    StoreResult (LedgerRecord × LedgerItem × Materialization) := do
  let (record, item) ← locateItem records deliveryKey itemKey "delivery materialization item is missing"
  match item.materialization with
  | none => bail "delivery materialization state is invalid"
  | some materialization => return (record, item, materialization)

def LedgerItem.claimMaterialization (now : Time) (token : Uuid) (owner : String)
    (lease : LeaseField) (materialization : Materialization) (item : LedgerItem) : LedgerItem :=
  { item with materialization := some { materialization with
    status := .materializing
    attempts := saturatingIncrement materialization.attempts
    owner := some owner
    claimToken := some token
    claimExpiresAt := lease
    updatedAt := utcNowIso now } }

def claimDeliveryMaterialization (now : Time) (token : Uuid) (deliveryKey itemKey owner : String)
    (leaseSeconds : Nat) (records : Ledger) : StoreResult (MaterializationClaim × Ledger) := do
  let (record, item, materialization) ← locateMaterialization records deliveryKey itemKey
  if materialization.status = .materialized then
    return (.materialized item, records)
  if materialization.status = .notRequired then
    return (.notRequired item, records)
  if materialization.status = .failed ∧ materialization.retryable = false then
    return (.terminalFailed item, records)
  if ← materializationIsBusy now materialization then
    return (.busy item, records)
  match deliveryClaimExpiresAt now leaseSeconds with
  | none => throw .panicked
  | some lease =>
      let claimed := item.claimMaterialization now token owner lease materialization
      return (.claimed token claimed, records.putItem deliveryKey record itemKey claimed)

def LedgerItem.finishMaterialization (now : Time) (completion : DeliveryMaterializationCompletion)
    (materialization : Materialization) (item : LedgerItem) : LedgerItem :=
  { item with
    materialization := some { materialization with
      status := completion.status
      retryable := completion.retryable
      lastError := completion.lastError
      owner := none
      claimToken := none
      claimExpiresAt := .null
      updatedAt := utcNowIso now }
    materializedOutbound := completion.materializedOutbound.or item.materializedOutbound
    cachePath := completion.cachePath
    status := if completion.status = .materialized then .pending else .failed
    retryable := some completion.retryable
    lastError := completion.lastError
    updatedAt := utcNowIso now }

def finishDeliveryMaterialization (now : Time) (completion : DeliveryMaterializationCompletion)
    (records : Ledger) : StoreResult Ledger := do
  if completion.status ≠ .materialized ∧ completion.status ≠ .failed then
    bail "invalid delivery materialization completion status"
  let (record, item, materialization) ←
    locateMaterialization records completion.deliveryKey completion.itemKey
  requireActiveNestedClaim now materialization completion.claimToken
  return records.putItem completion.deliveryKey record completion.itemKey
    (item.finishMaterialization now completion materialization)

structure RetryablePlan where
  deliveryKey : String
  requestFingerprint : String
  plannedOutbound : OutboundMessage

def isTerminalFailure (item : LedgerItem) : Bool :=
  (item.status = .failed || item.status = .terminalFailed) && item.retryable = some false

def countsAsRetryable (item : LedgerItem) : Bool :=
  (item.status = .pending || item.status = .sending || item.status = .failed) &&
    item.retryable ≠ some false

def retryableDeliveryPlan (deliveryKey : String) (record : LedgerRecord) : Option RetryablePlan :=
  let items := record.items.toList.map Prod.snd
  let retryable := !items.any isTerminalFailure && items.any countsAsRetryable
  if retryable then
    record.plannedOutbound.map fun plannedOutbound =>
      { deliveryKey, requestFingerprint := record.requestFingerprint, plannedOutbound }
  else none

def retryableDeliveryPlans (records : Ledger) : List RetryablePlan :=
  records.toList.filterMap fun (deliveryKey, record) => retryableDeliveryPlan deliveryKey record

def LedgerItem.stage (item : LedgerItem) : Stage → Option StageRecord
  | .native => item.native
  | .fallback => item.fallback

def LedgerItem.setStage (item : LedgerItem) (stage : Stage) (value : StageRecord) : LedgerItem :=
  match stage with
  | .native => { item with native := some value }
  | .fallback => { item with fallback := some value }

def LedgerItem.recordUpload (now : Time) (upload : DeliveryItemUpload) (item : LedgerItem) :
    LedgerItem :=
  let stageItem := (item.stage upload.stage).getD (deliveryStageValue now)
  { item.setStage upload.stage { stageItem with
      status := .prepared
      providerMediaId := some upload.providerMediaId
      providerMediaState := upload.providerMediaState
      providerClientId := upload.providerClientId
      updatedAt := utcNowIso now } with
    providerMediaId := some upload.providerMediaId
    providerMediaState := upload.providerMediaState
    providerClientId := upload.providerClientId.or item.providerClientId
    updatedAt := utcNowIso now }

def LedgerItem.finishStage (now : Time) (completion : DeliveryStageCompletion) (item : LedgerItem) :
    LedgerItem :=
  let stageItem := (item.stage completion.stage).getD (deliveryStageValue now)
  item.setStage completion.stage { stageItem with
    status := completion.status
    providerMediaId := completion.providerMediaId.or stageItem.providerMediaId
    providerClientId := completion.providerClientId.or stageItem.providerClientId
    providerMessageId := completion.providerMessageId.or stageItem.providerMessageId
    retryable := completion.retryable
    lastError := completion.lastError
    updatedAt := utcNowIso now }

/-- Once the item is terminal its cache path is released. -/
def DeliveryItemCompletion.isTerminal (completion : DeliveryItemCompletion) : Bool :=
  completion.status = .succeeded || !completion.retryable

def LedgerItem.finish (now : Time) (completion : DeliveryItemCompletion) (item : LedgerItem) :
    LedgerItem :=
  { item with
    status := completion.status
    providerMediaId := completion.providerMediaId.or item.providerMediaId
    providerClientId := completion.providerClientId.or item.providerClientId
    providerMessageId := completion.providerMessageId.or item.providerMessageId
    retryable := some completion.retryable
    lastError := completion.lastError
    fallbackUsed := some completion.fallbackUsed
    owner := none
    claimExpiresAt := .null
    updatedAt := utcNowIso now
    cachePath := if completion.isTerminal then none else item.cachePath }

/-- The item whose claim `token` is active, as the three fenced operations locate it. -/
def locateClaimed (now : Time) (records : Ledger) (deliveryKey itemKey : String) (token : Uuid) :
    StoreResult (LedgerRecord × LedgerItem) := do
  let (record, item) ← locateItem records deliveryKey itemKey "delivery item claim is missing"
  requireActiveDeliveryClaim now item token
  return (record, item)

def recordDeliveryItemUpload (now : Time) (upload : DeliveryItemUpload) (records : Ledger) :
    StoreResult Ledger := do
  let (record, item) ←
    locateClaimed now records upload.deliveryKey upload.itemKey upload.claimToken
  return records.putItem upload.deliveryKey record upload.itemKey (item.recordUpload now upload)

def finishDeliveryStage (now : Time) (completion : DeliveryStageCompletion) (records : Ledger) :
    StoreResult Ledger := do
  let (record, item) ←
    locateClaimed now records completion.deliveryKey completion.itemKey completion.claimToken
  return records.putItem completion.deliveryKey record completion.itemKey
    (item.finishStage now completion)

def finishDeliveryItem (now : Time) (completion : DeliveryItemCompletion) (records : Ledger) :
    StoreResult (Option String × Ledger) := do
  let (record, item) ←
    locateClaimed now records completion.deliveryKey completion.itemKey completion.claimToken
  return (if completion.isTerminal then Text.trimmed item.cachePath else none,
    records.putItem completion.deliveryKey record completion.itemKey (item.finish now completion))

/-- What `reconcile_delivery_cache` does with one item: the item written back, and its
non-blank cache path with whether that path is retained. -/
def reconcileItem (now : Time) (ttl : Int) (item : LedgerItem) :
    LedgerItem × Option (String × Bool) :=
  match Text.trimmed item.cachePath with
  | none => (item, none)
  | some cachePath =>
      let retryableState :=
        (item.status = .pending || item.status = .sending || item.status = .failed) &&
          item.retryable.getD true
      let expired := retryableState &&
        match item.updatedAt with
        | .at updated => decide (ttl < now - updated)
        | _ => false
      if retryableState && !expired then
        let stamped :=
          match item.updatedAt with
          | .at _ => item
          | _ => { item with updatedAt := .at now }
        (stamped, some (cachePath, true))
      else if expired then
        ({ item with
          cachePath := none
          status := .expired
          retryable := some false
          lastError := some "delivery cache expired"
          owner := none
          claimExpiresAt := .null
          updatedAt := .at now }, some (cachePath, false))
      else
        ({ item with cachePath := none, updatedAt := .at now }, some (cachePath, false))

structure DeliveryCacheReconciliation where
  retainedPaths : List String
  deletePaths : List String
deriving DecidableEq, Repr

def reconcileDeliveryCache (now : Time) (ttl : Int) (records : Ledger) :
    DeliveryCacheReconciliation × Ledger :=
  let paths := records.toList.flatMap fun (_, record) =>
    record.items.toList.filterMap fun (_, item) => (reconcileItem now ttl item).2
  ({ retainedPaths := (paths.filter (·.2)).map Prod.fst
     deletePaths := (paths.filter (!·.2)).map Prod.fst },
    records.map fun _ record =>
      { record with items := record.items.map fun _ item => (reconcileItem now ttl item).1 })

end HarborGate
