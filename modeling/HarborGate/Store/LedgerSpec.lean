import HarborGate.Lib.Result
import HarborGate.Store.Ledger

/-!
What each ledger operation can do, said once: for a successful operation, the guard it
passed and the one item it wrote. Every other item and every recorded fingerprint stays.
-/

namespace HarborGate

/-- `after` is `before` with one item written, under a record whose fingerprint is kept. -/
structure Ledger.Sets (before after : Ledger) (deliveryKey itemKey : String)
    (item : LedgerItem) : Prop where
  items : ∀ d i, after.item? d i =
    if d = deliveryKey ∧ i = itemKey then some item else before.item? d i
  fingerprints : ∀ d fingerprint, before.fingerprint? d = some fingerprint →
    after.fingerprint? d = some fingerprint

theorem Ledger.Sets.self {before after : Ledger} {deliveryKey itemKey : String} {item : LedgerItem}
    (sets : before.Sets after deliveryKey itemKey item) :
    after.item? deliveryKey itemKey = some item := by
  rw [sets.items]
  simp

theorem Ledger.Sets.frame {before after : Ledger} {deliveryKey itemKey d i : String}
    {item : LedgerItem} (sets : before.Sets after deliveryKey itemKey item)
    (different : ¬(d = deliveryKey ∧ i = itemKey)) : after.item? d i = before.item? d i := by
  rw [sets.items, if_neg different]

theorem item?_some {records : Ledger} {deliveryKey itemKey : String} {item : LedgerItem} :
    records.item? deliveryKey itemKey = some item ↔
      ∃ record, records[deliveryKey]? = some record ∧ record.items[itemKey]? = some item := by
  simp only [Ledger.item?, Option.bind_eq_some_iff]

theorem putItem_sets {records : Ledger} {deliveryKey itemKey : String} {record : LedgerRecord}
    {item : LedgerItem} (items : ∀ i, record.items[i]? = records.item? deliveryKey i)
    (fingerprint : ∀ value, records.fingerprint? deliveryKey = some value →
      record.requestFingerprint = value) :
    records.Sets (records.putItem deliveryKey record itemKey item) deliveryKey itemKey item := by
  constructor
  · intro d i
    by_cases sameKey : deliveryKey = d
    · subst sameKey
      by_cases sameItem : itemKey = i
      · simp [Ledger.item?, Ledger.putItem, sameItem]
      · simp [Ledger.item?, Ledger.putItem, Std.TreeMap.getElem?_insert, sameItem,
          Ne.symm sameItem, items]
    · simp [Ledger.item?, Ledger.putItem, Std.TreeMap.getElem?_insert, sameKey, Ne.symm sameKey]
  · intro d value recorded
    by_cases sameKey : deliveryKey = d
    · subst sameKey
      simp [Ledger.fingerprint?, Ledger.putItem, fingerprint value recorded]
    · simpa [Ledger.fingerprint?, Ledger.putItem, Std.TreeMap.getElem?_insert, sameKey] using recorded

theorem putItem_sets_found {records : Ledger} {deliveryKey itemKey : String}
    {record : LedgerRecord} {item : LedgerItem} (found : records[deliveryKey]? = some record) :
    records.Sets (records.putItem deliveryKey record itemKey item) deliveryKey itemKey item := by
  apply putItem_sets
  · intro i
    simp [Ledger.item?, found]
  · intro value recorded
    simpa [Ledger.fingerprint?, found] using recorded

theorem locateItem_ok {records : Ledger} {deliveryKey itemKey missing : String}
    {record : LedgerRecord} {item : LedgerItem} :
    locateItem records deliveryKey itemKey missing = .ok (record, item) ↔
      records[deliveryKey]? = some record ∧ record.items[itemKey]? = some item := by
  simp only [locateItem]
  split
  · rename_i absent
    simp [bail, absent]
  · rename_i found recorded
    split
    · rename_i absent
      simp only [bail, reduceCtorEq, false_iff, recorded, Option.some.injEq]
      rintro ⟨rfl, present⟩
      simp [absent] at present
    · rename_i stored present
      simp only [Except.ok.injEq, Prod.mk.injEq, recorded, Option.some.injEq]
      constructor
      · rintro ⟨rfl, rfl⟩
        exact ⟨rfl, present⟩
      · rintro ⟨rfl, again⟩
        exact ⟨rfl, by simpa [present] using again⟩

/-! ## Claims -/

/-- What `require_active_delivery_claim` accepts. -/
structure ActiveClaim (now : Time) (item : LedgerItem) (token : Uuid) : Prop where
  sending : item.status = .sending
  holder : item.claimToken = some token
  unexpired : deliveryClaimIsUnexpired now item = .ok true

theorem requireActiveDeliveryClaim_ok {now : Time} {item : LedgerItem} {token : Uuid} :
    requireActiveDeliveryClaim now item token = .ok () ↔ ActiveClaim now item token := by
  simp only [requireActiveDeliveryClaim]
  cases lease : deliveryClaimIsUnexpired now item with
  | error reason =>
      simp only [bind, Except.bind, reduceCtorEq, false_iff]
      intro active
      exact absurd active.unexpired (by simp [lease])
  | ok unexpired =>
      simp only [bind, Except.bind]
      constructor
      · intro accepted
        split at accepted
        · rename_i holds
          exact ⟨holds.1, holds.2.1, by rw [lease, holds.2.2]⟩
        · simp [bail] at accepted
      · intro active
        have live : unexpired = true := by simpa [lease] using active.unexpired
        rw [if_pos ⟨active.sending, active.holder, live⟩]
        rfl

theorem locateClaimed_ok {now : Time} {records : Ledger} {deliveryKey itemKey : String}
    {token : Uuid} {record : LedgerRecord} {item : LedgerItem} :
    locateClaimed now records deliveryKey itemKey token = .ok (record, item) ↔
      records[deliveryKey]? = some record ∧ record.items[itemKey]? = some item ∧
        ActiveClaim now item token := by
  simp only [locateClaimed, Result.bind_eq_ok, Result.pure_eq_ok]
  constructor
  · rintro ⟨⟨foundRecord, foundItem⟩, located, ⟨⟩, active, same⟩
    simp only [Prod.mk.injEq] at same
    obtain ⟨rfl, rfl⟩ := same
    have present := locateItem_ok.mp located
    exact ⟨present.1, present.2, requireActiveDeliveryClaim_ok.mp active⟩
  · rintro ⟨recorded, present, active⟩
    exact ⟨(record, item), locateItem_ok.mpr ⟨recorded, present⟩, (),
      requireActiveDeliveryClaim_ok.mpr active, rfl⟩

/-- The three operations fenced by a claim token share their guard and their frame. -/
structure Fenced (now : Time) (before after : Ledger) (deliveryKey itemKey : String) (token : Uuid)
    (update : LedgerItem → LedgerItem) (item : LedgerItem) : Prop where
  present : before.item? deliveryKey itemKey = some item
  active : ActiveClaim now item token
  sets : before.Sets after deliveryKey itemKey (update item)

theorem recordDeliveryItemUpload_ok {now : Time} {upload : DeliveryItemUpload}
    {before after : Ledger} (ok : recordDeliveryItemUpload now upload before = .ok after) :
    ∃ item, Fenced now before after upload.deliveryKey upload.itemKey upload.claimToken
      (LedgerItem.recordUpload now upload) item := by
  simp only [recordDeliveryItemUpload, Result.bind_eq_ok, Result.pure_eq_ok] at ok
  obtain ⟨⟨record, item⟩, located, rfl⟩ := ok
  have found := locateClaimed_ok.mp located
  exact ⟨item, item?_some.mpr ⟨record, found.1, found.2.1⟩, found.2.2,
    putItem_sets_found found.1⟩

theorem finishDeliveryStage_ok {now : Time} {completion : DeliveryStageCompletion}
    {before after : Ledger} (ok : finishDeliveryStage now completion before = .ok after) :
    ∃ item, Fenced now before after completion.deliveryKey completion.itemKey
      completion.claimToken (LedgerItem.finishStage now completion) item := by
  simp only [finishDeliveryStage, Result.bind_eq_ok, Result.pure_eq_ok] at ok
  obtain ⟨⟨record, item⟩, located, rfl⟩ := ok
  have found := locateClaimed_ok.mp located
  exact ⟨item, item?_some.mpr ⟨record, found.1, found.2.1⟩, found.2.2,
    putItem_sets_found found.1⟩

theorem finishDeliveryItem_ok {now : Time} {completion : DeliveryItemCompletion}
    {before after : Ledger} {path : Option String}
    (ok : finishDeliveryItem now completion before = .ok (path, after)) :
    ∃ item, Fenced now before after completion.deliveryKey completion.itemKey
      completion.claimToken (LedgerItem.finish now completion) item := by
  simp only [finishDeliveryItem, Result.bind_eq_ok, Result.pure_eq_ok, Prod.mk.injEq] at ok
  obtain ⟨⟨record, item⟩, located, -, rfl⟩ := ok
  have found := locateClaimed_ok.mp located
  exact ⟨item, item?_some.mpr ⟨record, found.1, found.2.1⟩, found.2.2,
    putItem_sets_found found.1⟩

/-! ## Materialization -/

theorem locateMaterialization_ok {records : Ledger} {deliveryKey itemKey : String}
    {record : LedgerRecord} {item : LedgerItem} {materialization : Materialization}
    (ok : locateMaterialization records deliveryKey itemKey = .ok (record, item, materialization)) :
    records[deliveryKey]? = some record ∧ record.items[itemKey]? = some item ∧
      item.materialization = some materialization := by
  simp only [locateMaterialization, Result.bind_eq_ok] at ok
  obtain ⟨⟨foundRecord, foundItem⟩, located, rest⟩ := ok
  have found := locateItem_ok.mp located
  split at rest
  · simp [bail] at rest
  · rename_i present
    simp only [Result.pure_eq_ok, Prod.mk.injEq] at rest
    obtain ⟨rfl, rfl, rfl⟩ := rest
    exact ⟨found.1, found.2, present⟩

theorem requireActiveNestedClaim_ok {now : Time} {claim : Materialization} {token : Uuid}
    (ok : requireActiveNestedClaim now claim token = .ok ()) :
    claim.status = .materializing ∧ claim.claimToken = some token := by
  simp only [requireActiveNestedClaim] at ok
  split at ok
  · assumption
  · simp [bail] at ok

theorem finishDeliveryMaterialization_ok {now : Time}
    {completion : DeliveryMaterializationCompletion} {before after : Ledger}
    (ok : finishDeliveryMaterialization now completion before = .ok after) :
    ∃ item materialization,
      before.item? completion.deliveryKey completion.itemKey = some item ∧
      item.materialization = some materialization ∧ materialization.status = .materializing ∧
      requireActiveNestedClaim now materialization completion.claimToken = .ok () ∧
      (completion.status = .materialized ∨ completion.status = .failed) ∧
      before.Sets after completion.deliveryKey completion.itemKey
        (item.finishMaterialization now completion materialization) := by
  simp only [finishDeliveryMaterialization] at ok
  split at ok
  · simp [bail, bind, Except.bind] at ok
  · rename_i valid
    simp only [Result.bind_eq_ok, Result.pure_eq_ok] at ok
    obtain ⟨⟨record, item, materialization⟩, located, ⟨⟩, active, rfl⟩ := ok
    have found := locateMaterialization_ok located
    refine ⟨item, materialization, item?_some.mpr ⟨record, found.1, found.2.1⟩, found.2.2,
      (requireActiveNestedClaim_ok active).1, active, ?_, putItem_sets_found found.1⟩
    by_contra neither
    simp only [not_or] at neither
    exact valid neither

theorem claimDeliveryMaterialization_ok {now : Time} {token : Uuid}
    {deliveryKey itemKey owner : String} {leaseSeconds : Nat} {before after : Ledger}
    {claim : MaterializationClaim}
    (ok : claimDeliveryMaterialization now token deliveryKey itemKey owner leaseSeconds before =
      .ok (claim, after)) :
    ∃ item materialization, before.item? deliveryKey itemKey = some item ∧
      item.materialization = some materialization ∧
      match claim with
      | .materialized found =>
          found = item ∧ after = before ∧ materialization.status = .materialized
      | .notRequired found => found = item ∧ after = before ∧ materialization.status = .notRequired
      | .terminalFailed found => found = item ∧ after = before
      | .busy found => found = item ∧ after = before
      | .claimed drawn found =>
          drawn = token ∧ materialization.status ≠ .materialized ∧
          materialization.status ≠ .notRequired ∧
          ∃ lease, deliveryClaimExpiresAt now leaseSeconds = some lease ∧
            found = item.claimMaterialization now token owner lease materialization ∧
            before.Sets after deliveryKey itemKey found := by
  simp only [claimDeliveryMaterialization, Result.bind_eq_ok] at ok
  obtain ⟨⟨record, item, materialization⟩, located, rest⟩ := ok
  have found := locateMaterialization_ok located
  refine ⟨item, materialization, item?_some.mpr ⟨record, found.1, found.2.1⟩, found.2.2, ?_⟩
  split at rest
  · rename_i done
    simp only [Result.pure_eq_ok, Prod.mk.injEq] at rest
    obtain ⟨rfl, rfl⟩ := rest
    exact ⟨rfl, rfl, done⟩
  split at rest
  · rename_i done
    simp only [Result.pure_eq_ok, Prod.mk.injEq] at rest
    obtain ⟨rfl, rfl⟩ := rest
    exact ⟨rfl, rfl, done⟩
  rename_i unmaterialized required
  split at rest
  · simp only [Result.pure_eq_ok, Prod.mk.injEq] at rest
    obtain ⟨rfl, rfl⟩ := rest
    exact ⟨rfl, rfl⟩
  simp only [Result.bind_eq_ok] at rest
  obtain ⟨unexpired, -, rest⟩ := rest
  split at rest
  · simp only [Result.pure_eq_ok, Prod.mk.injEq] at rest
    obtain ⟨rfl, rfl⟩ := rest
    exact ⟨rfl, rfl⟩
  split at rest
  · simp [throw, throwThe, MonadExceptOf.throw] at rest
  · rename_i lease expiry
    simp only [Result.pure_eq_ok, Prod.mk.injEq] at rest
    obtain ⟨rfl, rfl⟩ := rest
    exact ⟨rfl, unmaterialized, required, lease, expiry, rfl, putItem_sets_found found.1⟩

/-! ## Plans -/

/-- The entry that a planned item finds or creates before `LedgerItem.plan` completes it. -/
def planSource (now : Time) (fingerprint : String) (planned : DeliveryPlanItem)
    (stored : Option LedgerItem) : LedgerItem :=
  stored.getD (newItem now fingerprint planned.itemKey planned.artifactId planned.kind
    (some planned.plannedOutbound)
    (some (newMaterialization now planned.materializationRequired)) none)

theorem plan_plan (now : Time) (first second : DeliveryPlanItem) (item : LedgerItem) :
    (item.plan now first).plan now second = item.plan now first := by
  simp [LedgerItem.plan]

theorem persistItem_ok {now : Time} {fingerprint : String} {planned : DeliveryPlanItem}
    {before after : Std.TreeMap String LedgerItem}
    (ok : persistItem now fingerprint before planned = .ok after) :
    after = before.insert planned.itemKey
      ((planSource now fingerprint planned before[planned.itemKey]?).plan now planned) := by
  simp only [persistItem] at ok
  split at ok
  · simp [bail, bind, Except.bind] at ok
  · simp only [Result.pure_eq_ok] at ok
    exact ok.symm

theorem persistItems_get {now : Time} {fingerprint : String} {planned : List DeliveryPlanItem}
    {before after : Std.TreeMap String LedgerItem}
    (ok : planned.foldlM (persistItem now fingerprint) before = .ok after) (key : String) :
    after[key]? = match planned.find? (·.itemKey = key) with
      | none => before[key]?
      | some first => some ((planSource now fingerprint first before[key]?).plan now first) := by
  induction planned generalizing before with
  | nil =>
      simp only [List.foldlM_nil, Result.pure_eq_ok] at ok
      simp [ok]
  | cons first rest ih =>
      simp only [List.foldlM_cons, Result.bind_eq_ok] at ok
      obtain ⟨middle, inserted, ok⟩ := ok
      have middleEq := persistItem_ok inserted
      rw [ih ok, middleEq]
      by_cases hit : first.itemKey = key
      · simp only [hit, List.find?_cons_of_pos, decide_true, Std.TreeMap.getElem?_insert_self]
        split
        · rfl
        · simp [planSource, plan_plan]
      · simp [hit, Std.TreeMap.getElem?_insert]

/-- A persisted plan binds its fingerprint and completes exactly the planned items. -/
theorem persistDeliveryPlan_ok {now : Time} {deliveryKey fingerprint : String}
    {plannedOutbound : OutboundMessage} {planned : List DeliveryPlanItem} {before after : Ledger}
    (ok : persistDeliveryPlan now deliveryKey fingerprint plannedOutbound planned before =
      .ok after) :
    (∀ recorded, before.fingerprint? deliveryKey = some recorded → recorded = fingerprint) ∧
    after.fingerprint? deliveryKey = some fingerprint ∧
    (∀ d, d ≠ deliveryKey → after.fingerprint? d = before.fingerprint? d) ∧
    ∀ d i, after.item? d i =
      if d = deliveryKey then
        match planned.find? (·.itemKey = i) with
        | none => before.item? d i
        | some first =>
            some ((planSource now fingerprint first (before.item? d i)).plan now first)
      else before.item? d i := by
  simp only [persistDeliveryPlan] at ok
  generalize recordEq : before[deliveryKey]?.getD _ = record at ok
  split at ok
  · simp [bail, bind, Except.bind] at ok
  rename_i sameFingerprint
  simp only [ne_eq, not_not] at sameFingerprint
  simp only [Result.bind_eq_ok, Result.pure_eq_ok] at ok
  obtain ⟨items, stored, rfl⟩ := ok
  have recordItems : ∀ i, record.items[i]? = before.item? deliveryKey i := by
    intro i
    cases present : before[deliveryKey]? with
    | none =>
        simp only [present, Option.getD_none] at recordEq
        simp [Ledger.item?, present, ← recordEq]
    | some found =>
        simp only [present, Option.getD_some] at recordEq
        simp [Ledger.item?, present, recordEq]
  refine ⟨?_, ?_, ?_, ?_⟩
  · intro recorded found
    simp only [Ledger.fingerprint?, Option.map_eq_some_iff] at found
    obtain ⟨old, present, rfl⟩ := found
    simp only [present, Option.getD_some] at recordEq
    rw [recordEq, sameFingerprint]
  · simp [Ledger.fingerprint?, sameFingerprint]
  · intro d different
    simp [Ledger.fingerprint?, Std.TreeMap.getElem?_insert, Ne.symm different]
  · intro d i
    by_cases same : d = deliveryKey
    · subst same
      simp only [Ledger.item?, Std.TreeMap.getElem?_insert_self, Option.bind_some, if_true]
      rw [persistItems_get stored, recordItems]
      rfl
    · simp [Ledger.item?, Std.TreeMap.getElem?_insert, same, Ne.symm same]

/-! ## Cache reconciliation -/

theorem reconcileDeliveryCache_item? (now : Time) (ttl : Int) (records : Ledger)
    (deliveryKey itemKey : String) :
    (reconcileDeliveryCache now ttl records).2.item? deliveryKey itemKey =
      (records.item? deliveryKey itemKey).map fun item => (reconcileItem now ttl item).1 := by
  simp only [reconcileDeliveryCache, Ledger.item?, Std.TreeMap.getElem?_map]
  cases records[deliveryKey]? with
  | none => rfl
  | some record => simp

theorem reconcileDeliveryCache_fingerprint? (now : Time) (ttl : Int) (records : Ledger)
    (deliveryKey : String) :
    (reconcileDeliveryCache now ttl records).2.fingerprint? deliveryKey =
      records.fingerprint? deliveryKey := by
  simp only [reconcileDeliveryCache, Ledger.fingerprint?, Std.TreeMap.getElem?_map]
  cases records[deliveryKey]? with
  | none => rfl
  | some record => rfl

/-- The fields of an item that reconciliation leaves alone, and the one status it writes. -/
structure Reconciled (before after : LedgerItem) : Prop where
  status : after.status = before.status ∨ after.status = .expired
  claimToken : after.claimToken = before.claimToken
  materialization : after.materialization = before.materialization
  native : after.native = before.native
  fallback : after.fallback = before.fallback
  providerMessageId : after.providerMessageId = before.providerMessageId

theorem reconcileItem_frame (now : Time) (ttl : Int) (item : LedgerItem) :
    Reconciled item (reconcileItem now ttl item).1 := by
  simp only [reconcileItem]
  repeat' split
  all_goals first
    | exact ⟨Or.inl rfl, rfl, rfl, rfl, rfl, rfl⟩
    | exact ⟨Or.inr rfl, rfl, rfl, rfl, rfl, rfl⟩

/-! ## Item claims -/

theorem bindFingerprint_ok {item bound : LedgerItem} {fingerprint : String}
    (ok : bindFingerprint item fingerprint = .ok bound) :
    bound = { item with requestFingerprint := some fingerprint } := by
  simp only [bindFingerprint] at ok
  split at ok
  · rename_i existing recorded
    split at ok
    · rename_i same
      subst same
      simp only [Except.ok.injEq] at ok
      subst ok
      cases item
      simp_all
    · simp [bail] at ok
  · simp only [Except.ok.injEq] at ok
    exact ok.symm

/-- The item a claim starts from: the stored one, or the fresh entry it inserts. -/
def ClaimSource (now : Time) (request : DeliveryItemClaimRequest) (records : Ledger)
    (source : LedgerItem) : Prop :=
  records.item? request.deliveryKey request.itemKey = some source ∨
    records.item? request.deliveryKey request.itemKey = none ∧
      source = newItem now request.requestFingerprint request.itemKey request.artifactId
        request.kind none none request.cachePath

theorem claimDeliveryItem_ok {now : Time} {token : Uuid} {request : DeliveryItemClaimRequest}
    {before after : Ledger} {claim : ItemClaim}
    (ok : claimDeliveryItem now token request before = .ok (claim, after)) :
    (∀ recorded, before.fingerprint? request.deliveryKey = some recorded →
      recorded = request.requestFingerprint) ∧
    ∃ source, ClaimSource now request before source ∧
      match claim with
      | .succeeded item =>
          item = { source with requestFingerprint := some request.requestFingerprint } ∧
          after = before ∧ source.status = .succeeded
      | .terminalFailed item =>
          item = { source with requestFingerprint := some request.requestFingerprint } ∧
          after = before ∧ source.status = .failed ∧ source.retryable = some false
      | .busy item =>
          item = { source with requestFingerprint := some request.requestFingerprint } ∧
          after = before ∧ source.status = .sending
      | .claimed drawn item previous =>
          drawn = token ∧ previous = source.cachePath ∧ source.status ≠ .succeeded ∧
          ¬(source.status = .failed ∧ source.retryable = some false) ∧
          (source.status = .sending → deliveryClaimIsUnexpired now source = .ok false) ∧
          after.fingerprint? request.deliveryKey = some request.requestFingerprint ∧
          ∃ lease, deliveryClaimExpiresAt now request.leaseSeconds = some lease ∧
            item = LedgerItem.claim now token request lease
              { source with requestFingerprint := some request.requestFingerprint } ∧
            before.Sets after request.deliveryKey request.itemKey item := by
  simp only [claimDeliveryItem] at ok
  generalize recordEq : before[request.deliveryKey]?.getD _ = record at ok
  split at ok
  · simp [bail, bind, Except.bind] at ok
  rename_i sameFingerprint
  simp only [ne_eq, not_not] at sameFingerprint
  have fingerprints : ∀ recorded, before.fingerprint? request.deliveryKey = some recorded →
      record.requestFingerprint = recorded := by
    intro recorded found
    simp only [Ledger.fingerprint?, Option.map_eq_some_iff] at found
    obtain ⟨stored, present, rfl⟩ := found
    simp only [present, Option.getD_some] at recordEq
    rw [recordEq]
  have items : ∀ i, record.items[i]? = before.item? request.deliveryKey i := by
    intro i
    cases present : before[request.deliveryKey]? with
    | none =>
        simp only [present, Option.getD_none] at recordEq
        simp [Ledger.item?, present, ← recordEq]
    | some stored =>
        simp only [present, Option.getD_some] at recordEq
        simp [Ledger.item?, present, recordEq]
  refine ⟨fun recorded found => (fingerprints recorded found).symm.trans sameFingerprint, ?_⟩
  generalize sourceEq : record.items[request.itemKey]?.getD _ = source at ok
  have origin : ClaimSource now request before source := by
    rw [items] at sourceEq
    cases present : before.item? request.deliveryKey request.itemKey with
    | none => exact Or.inr ⟨present, by simpa [present] using sourceEq.symm⟩
    | some stored => exact Or.inl (by simpa [present] using sourceEq)
  refine ⟨source, origin, ?_⟩
  split at ok
  · simp [bail, bind, Except.bind] at ok
  simp only [Result.bind_eq_ok] at ok
  obtain ⟨bound, bindEq, ok⟩ := ok
  have boundEq := bindFingerprint_ok bindEq
  subst boundEq
  split at ok
  · rename_i succeeded
    simp only [Result.pure_eq_ok, Prod.mk.injEq] at ok
    obtain ⟨rfl, rfl⟩ := ok
    exact ⟨rfl, rfl, succeeded⟩
  rename_i unsuccessful
  split at ok
  · rename_i terminal
    simp only [Result.pure_eq_ok, Prod.mk.injEq] at ok
    obtain ⟨rfl, rfl⟩ := ok
    exact ⟨rfl, rfl, terminal⟩
  rename_i open_
  simp only [Result.bind_eq_ok] at ok
  obtain ⟨busy, busyEq, ok⟩ := ok
  split at ok
  · rename_i held
    simp only [Result.pure_eq_ok, Prod.mk.injEq] at ok
    obtain ⟨rfl, rfl⟩ := ok
    refine ⟨rfl, rfl, ?_⟩
    by_contra idle
    simp [claimIsBusy, idle, held] at busyEq
  rename_i lapsed
  split at ok
  · simp [throw, throwThe, MonadExceptOf.throw] at ok
  · rename_i expiry expiryEq
    simp only [Result.pure_eq_ok, Prod.mk.injEq] at ok
    obtain ⟨rfl, rfl⟩ := ok
    refine ⟨rfl, rfl, unsuccessful, open_, ?_, ?_, expiry, expiryEq, rfl, ?_⟩
    · intro sending
      simp only [claimIsBusy, sending, if_true] at busyEq
      simpa [deliveryClaimIsUnexpired, lapsed] using busyEq
    · simp [Ledger.fingerprint?, Ledger.putItem, sameFingerprint]
    · exact putItem_sets items fingerprints

end HarborGate
