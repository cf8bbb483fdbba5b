import HarborGate.Store.Steps

/-!
The planned message of a delivery: the first plan persisted under a key stays, and no other
operation of the ledger touches it.
-/

namespace HarborGate

def Ledger.planned? (records : Ledger) (deliveryKey : String) : Option OutboundMessage :=
  records[deliveryKey]?.bind (·.plannedOutbound)

variable {records after : Ledger} {deliveryKey itemKey other : String} {item : LedgerItem}

theorem putItem_planned? {record : LedgerRecord}
    (kept : record.plannedOutbound = records.planned? deliveryKey) :
    (records.putItem deliveryKey record itemKey item).planned? other = records.planned? other := by
  by_cases here : other = deliveryKey
  · subst here
    simp [Ledger.planned?, Ledger.putItem, kept]
  · simp [Ledger.planned?, Ledger.putItem, Std.TreeMap.getElem?_insert, Ne.symm here]

theorem putItem_planned?_found {record : LedgerRecord}
    (found : records[deliveryKey]? = some record) :
    (records.putItem deliveryKey record itemKey item).planned? other = records.planned? other := by
  refine putItem_planned? ?_
  simp [Ledger.planned?, found]

theorem locateClaimed_planned? {now : Time} {token : Uuid} {record : LedgerRecord}
    {changed : LedgerItem}
    (located : locateClaimed now records deliveryKey itemKey token = .ok (record, item)) :
    (records.putItem deliveryKey record itemKey changed).planned? other = records.planned? other :=
  putItem_planned?_found (locateClaimed_ok.mp located).1

theorem persistDeliveryPlan_planned? {now : Time} {fingerprint : String}
    {plannedOutbound : OutboundMessage} {planned : List DeliveryPlanItem}
    (ok : persistDeliveryPlan now deliveryKey fingerprint plannedOutbound planned records =
      .ok after) :
    after.planned? other =
      if other = deliveryKey then some ((records.planned? deliveryKey).getD plannedOutbound)
      else records.planned? other := by
  simp only [persistDeliveryPlan] at ok
  generalize recordEq : records[deliveryKey]?.getD _ = record at ok
  split at ok
  · simp [bail, bind, Except.bind] at ok
  simp only [Result.bind_eq_ok, Result.pure_eq_ok] at ok
  obtain ⟨items, -, rfl⟩ := ok
  by_cases here : other = deliveryKey
  · subst here
    cases present : records[other]? with
    | none =>
        simp only [present, Option.getD_none] at recordEq
        simp [Ledger.planned?, present, ← recordEq]
    | some stored =>
        simp only [present, Option.getD_some] at recordEq
        simp [Ledger.planned?, present, recordEq]
  · simp [Ledger.planned?, Std.TreeMap.getElem?_insert, here, Ne.symm here]

theorem claimDeliveryItem_planned? {now : Time} {token : Uuid} {request : DeliveryItemClaimRequest}
    {claim : ItemClaim} (ok : claimDeliveryItem now token request records = .ok (claim, after)) :
    after.planned? other = records.planned? other := by
  simp only [claimDeliveryItem] at ok
  generalize recordEq : records[request.deliveryKey]?.getD _ = record at ok
  have kept : record.plannedOutbound = records.planned? request.deliveryKey := by
    cases present : records[request.deliveryKey]? with
    | none =>
        simp only [present, Option.getD_none] at recordEq
        simp [Ledger.planned?, present, ← recordEq]
    | some stored =>
        simp only [present, Option.getD_some] at recordEq
        simp [Ledger.planned?, present, recordEq]
  split at ok
  · simp [bail, bind, Except.bind] at ok
  generalize record.items[request.itemKey]?.getD _ = source at ok
  split at ok
  · simp [bail, bind, Except.bind] at ok
  simp only [Result.bind_eq_ok] at ok
  obtain ⟨bound, -, ok⟩ := ok
  split at ok
  · obtain ⟨-, rfl⟩ := Prod.mk.inj (Except.ok.inj ok)
    rfl
  split at ok
  · obtain ⟨-, rfl⟩ := Prod.mk.inj (Except.ok.inj ok)
    rfl
  simp only [Result.bind_eq_ok] at ok
  obtain ⟨busy, -, ok⟩ := ok
  split at ok
  · obtain ⟨-, rfl⟩ := Prod.mk.inj (Except.ok.inj ok)
    rfl
  split at ok
  · simp [throw, throwThe, MonadExceptOf.throw] at ok
  · obtain ⟨-, rfl⟩ := Prod.mk.inj (Except.ok.inj ok)
    exact putItem_planned? kept

theorem claimDeliveryMaterialization_planned? {now : Time} {token : Uuid} {owner : String}
    {leaseSeconds : Nat} {claim : MaterializationClaim}
    (ok : claimDeliveryMaterialization now token deliveryKey itemKey owner leaseSeconds records =
      .ok (claim, after)) : after.planned? other = records.planned? other := by
  simp only [claimDeliveryMaterialization, Result.bind_eq_ok] at ok
  obtain ⟨⟨record, item, materialization⟩, located, ok⟩ := ok
  have found := (locateMaterialization_ok located).1
  split at ok
  · obtain ⟨-, rfl⟩ := Prod.mk.inj (Except.ok.inj ok)
    rfl
  split at ok
  · obtain ⟨-, rfl⟩ := Prod.mk.inj (Except.ok.inj ok)
    rfl
  split at ok
  · obtain ⟨-, rfl⟩ := Prod.mk.inj (Except.ok.inj ok)
    rfl
  simp only [Result.bind_eq_ok] at ok
  obtain ⟨busy, -, ok⟩ := ok
  split at ok
  · obtain ⟨-, rfl⟩ := Prod.mk.inj (Except.ok.inj ok)
    rfl
  split at ok
  · simp [throw, throwThe, MonadExceptOf.throw] at ok
  · obtain ⟨-, rfl⟩ := Prod.mk.inj (Except.ok.inj ok)
    exact putItem_planned?_found found

theorem finishDeliveryMaterialization_planned? {now : Time}
    {completion : DeliveryMaterializationCompletion}
    (ok : finishDeliveryMaterialization now completion records = .ok after) :
    after.planned? other = records.planned? other := by
  simp only [finishDeliveryMaterialization] at ok
  split at ok
  · simp [bail, bind, Except.bind] at ok
  · simp only [Result.bind_eq_ok, Result.pure_eq_ok] at ok
    obtain ⟨⟨record, item, materialization⟩, located, ⟨⟩, -, rfl⟩ := ok
    exact putItem_planned?_found (locateMaterialization_ok located).1

theorem recordDeliveryItemUpload_planned? {now : Time} {upload : DeliveryItemUpload}
    (ok : recordDeliveryItemUpload now upload records = .ok after) :
    after.planned? other = records.planned? other := by
  simp only [recordDeliveryItemUpload, Result.bind_eq_ok, Result.pure_eq_ok] at ok
  obtain ⟨⟨record, item⟩, located, rfl⟩ := ok
  exact locateClaimed_planned? located

theorem finishDeliveryStage_planned? {now : Time} {completion : DeliveryStageCompletion}
    (ok : finishDeliveryStage now completion records = .ok after) :
    after.planned? other = records.planned? other := by
  simp only [finishDeliveryStage, Result.bind_eq_ok, Result.pure_eq_ok] at ok
  obtain ⟨⟨record, item⟩, located, rfl⟩ := ok
  exact locateClaimed_planned? located

theorem finishDeliveryItem_planned? {now : Time} {completion : DeliveryItemCompletion}
    {path : Option String}
    (ok : finishDeliveryItem now completion records = .ok (path, after)) :
    after.planned? other = records.planned? other := by
  simp only [finishDeliveryItem, Result.bind_eq_ok, Result.pure_eq_ok, Prod.mk.injEq] at ok
  obtain ⟨⟨record, item⟩, located, -, rfl⟩ := ok
  exact locateClaimed_planned? located

theorem reconcileDeliveryCache_planned? (now : Time) (ttl : Int) (records : Ledger)
    (deliveryKey : String) :
    (reconcileDeliveryCache now ttl records).2.planned? deliveryKey =
      records.planned? deliveryKey := by
  simp only [reconcileDeliveryCache, Ledger.planned?, Std.TreeMap.getElem?_map]
  cases records[deliveryKey]? with
  | none => rfl
  | some record => rfl

/-- A plan that recovery takes up is the planned message under its key. -/
theorem retryableDeliveryPlans_planned? {plan : RetryablePlan}
    (listed : plan ∈ retryableDeliveryPlans records) :
    records.planned? plan.deliveryKey = some plan.plannedOutbound := by
  simp only [retryableDeliveryPlans, List.mem_filterMap] at listed
  obtain ⟨⟨key, record⟩, member, made⟩ := listed
  have found : records[key]? = some record := Std.TreeMap.mem_toList_iff_getElem?_eq_some.mp member
  simp only [retryableDeliveryPlan] at made
  split at made
  · obtain ⟨outbound, planned, rfl⟩ := Option.map_eq_some_iff.mp made
    simp [Ledger.planned?, found, planned]
  · simp at made

end HarborGate
