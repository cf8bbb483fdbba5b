import HarborGate.Store.LedgerSpec

/-!
The ledger operations as steps of one file, and everything a step can do to one item: how it
comes into being and in which ways it moves on.
-/

namespace HarborGate

inductive LedgerOp
  | persistPlan (deliveryKey fingerprint : String) (plannedOutbound : OutboundMessage)
      (plannedItems : List DeliveryPlanItem)
  | claimMaterialization (token : Uuid) (deliveryKey itemKey owner : String) (leaseSeconds : Nat)
  | finishMaterialization (completion : DeliveryMaterializationCompletion)
  | claimItem (token : Uuid) (request : DeliveryItemClaimRequest)
  | recordUpload (upload : DeliveryItemUpload)
  | finishStage (completion : DeliveryStageCompletion)
  | finishItem (completion : DeliveryItemCompletion)
  | reconcileCache (ttl : Int)

structure LedgerStep where
  now : Time
  op : LedgerOp

/-- The ledger on disk after an operation: an operation that fails writes nothing. -/
def written {α : Type} (records : Ledger) (ledger : α → Ledger) : StoreResult α → Ledger
  | .ok result => ledger result
  | .error _ => records

def LedgerStep.apply (step : LedgerStep) (records : Ledger) : Ledger :=
  match step.op with
  | .persistPlan deliveryKey fingerprint plannedOutbound plannedItems =>
      written records id
        (persistDeliveryPlan step.now deliveryKey fingerprint plannedOutbound plannedItems records)
  | .claimMaterialization token deliveryKey itemKey owner leaseSeconds =>
      written records Prod.snd
        (claimDeliveryMaterialization step.now token deliveryKey itemKey owner leaseSeconds records)
  | .finishMaterialization completion =>
      written records id (finishDeliveryMaterialization step.now completion records)
  | .claimItem token request =>
      written records Prod.snd (claimDeliveryItem step.now token request records)
  | .recordUpload upload => written records id (recordDeliveryItemUpload step.now upload records)
  | .finishStage completion => written records id (finishDeliveryStage step.now completion records)
  | .finishItem completion =>
      written records Prod.snd (finishDeliveryItem step.now completion records)
  | .reconcileCache ttl => (reconcileDeliveryCache step.now ttl records).2

/-- Everything one operation can do to an item that exists. -/
inductive ItemMove (step : LedgerStep) (deliveryKey itemKey : String) (item : LedgerItem) :
    LedgerItem → Prop
  | keep : ItemMove step deliveryKey itemKey item item
  | plan (planned : DeliveryPlanItem) :
      ItemMove step deliveryKey itemKey item (item.plan step.now planned)
  | claimMaterialization (token : Uuid) (owner : String) (lease : LeaseField)
      (materialization : Materialization)
      (present : item.materialization = some materialization)
      (unmaterialized : materialization.status ≠ .materialized)
      (required : materialization.status ≠ .notRequired) :
      ItemMove step deliveryKey itemKey item
        (item.claimMaterialization step.now token owner lease materialization)
  | finishMaterialization (completion : DeliveryMaterializationCompletion)
      (materialization : Materialization)
      (operation : step.op = .finishMaterialization completion)
      (addressed : completion.deliveryKey = deliveryKey ∧ completion.itemKey = itemKey)
      (present : item.materialization = some materialization)
      (active : requireActiveNestedClaim step.now materialization completion.claimToken = .ok ()) :
      ItemMove step deliveryKey itemKey item
        (item.finishMaterialization step.now completion materialization)
  | claim (token : Uuid) (request : DeliveryItemClaimRequest) (lease : LeaseField)
      (operation : step.op = .claimItem token request)
      (addressed : request.deliveryKey = deliveryKey ∧ request.itemKey = itemKey)
      (unsuccessful : item.status ≠ .succeeded)
      (retryable : ¬(item.status = .failed ∧ item.retryable = some false))
      (lapsed : item.status = .sending → deliveryClaimIsUnexpired step.now item = .ok false)
      (expiry : deliveryClaimExpiresAt step.now request.leaseSeconds = some lease) :
      ItemMove step deliveryKey itemKey item (LedgerItem.claim step.now token request lease
        { item with requestFingerprint := some request.requestFingerprint })
  | recordUpload (upload : DeliveryItemUpload) (operation : step.op = .recordUpload upload)
      (addressed : upload.deliveryKey = deliveryKey ∧ upload.itemKey = itemKey)
      (active : ActiveClaim step.now item upload.claimToken) :
      ItemMove step deliveryKey itemKey item (item.recordUpload step.now upload)
  | finishStage (completion : DeliveryStageCompletion)
      (operation : step.op = .finishStage completion)
      (addressed : completion.deliveryKey = deliveryKey ∧ completion.itemKey = itemKey)
      (active : ActiveClaim step.now item completion.claimToken) :
      ItemMove step deliveryKey itemKey item (item.finishStage step.now completion)
  | finishItem (completion : DeliveryItemCompletion) (operation : step.op = .finishItem completion)
      (addressed : completion.deliveryKey = deliveryKey ∧ completion.itemKey = itemKey)
      (active : ActiveClaim step.now item completion.claimToken) :
      ItemMove step deliveryKey itemKey item (item.finish step.now completion)
  | reconcile (ttl : Int) (operation : step.op = .reconcileCache ttl) :
      ItemMove step deliveryKey itemKey item (reconcileItem step.now ttl item).1

/-- The two ways an item comes into being. -/
inductive ItemBirth (step : LedgerStep) (deliveryKey itemKey : String) : LedgerItem → Prop
  | plan (fingerprint : String) (plannedOutbound : OutboundMessage)
      (plannedItems : List DeliveryPlanItem) (planned : DeliveryPlanItem)
      (operation : step.op =
        .persistPlan deliveryKey fingerprint plannedOutbound plannedItems)
      (first : plannedItems.find? (·.itemKey = itemKey) = some planned) :
      ItemBirth step deliveryKey itemKey
        ((planSource step.now fingerprint planned none).plan step.now planned)
  | claim (token : Uuid) (request : DeliveryItemClaimRequest) (lease : LeaseField)
      (operation : step.op = .claimItem token request)
      (addressed : request.deliveryKey = deliveryKey ∧ request.itemKey = itemKey) :
      ItemBirth step deliveryKey itemKey (LedgerItem.claim step.now token request lease
        (newItem step.now request.requestFingerprint request.itemKey request.artifactId
          request.kind none none request.cachePath))

/-- What a step does to one place of the ledger. -/
inductive ItemEffect (step : LedgerStep) (deliveryKey itemKey : String) :
    Option LedgerItem → Option LedgerItem → Prop
  | absent : ItemEffect step deliveryKey itemKey none none
  | born {item : LedgerItem} (birth : ItemBirth step deliveryKey itemKey item) :
      ItemEffect step deliveryKey itemKey none (some item)
  | moved {item moved : LedgerItem} (move : ItemMove step deliveryKey itemKey item moved) :
      ItemEffect step deliveryKey itemKey (some item) (some moved)

section

variable {step : LedgerStep} {records after : Ledger} {deliveryKey itemKey d i : String}
  {item changed : LedgerItem}

theorem ItemEffect.same (entry : Option LedgerItem) :
    ItemEffect step deliveryKey itemKey entry entry := by
  cases entry with
  | none => exact .absent
  | some item => exact .moved .keep

/-- An operation that writes one item affects the addressed place and keeps every other one. -/
theorem Ledger.Sets.effect (sets : records.Sets after d i changed)
    (addressed : deliveryKey = d → itemKey = i →
      ItemEffect step deliveryKey itemKey (records.item? d i) (some changed)) :
    ItemEffect step deliveryKey itemKey (records.item? deliveryKey itemKey)
      (after.item? deliveryKey itemKey) := by
  by_cases here : deliveryKey = d ∧ itemKey = i
  · have effect := addressed here.1 here.2
    rw [here.1, here.2, sets.self]
    rwa [here.1, here.2] at effect
  · rw [sets.frame here]
    exact .same _

theorem Fenced.effect {token : Uuid} {update : LedgerItem → LedgerItem}
    (fenced : Fenced step.now records after d i token update item)
    (move : deliveryKey = d → itemKey = i → ActiveClaim step.now item token →
      ItemMove step deliveryKey itemKey item (update item)) :
    ItemEffect step deliveryKey itemKey (records.item? deliveryKey itemKey)
      (after.item? deliveryKey itemKey) := by
  refine fenced.sets.effect fun sameKey sameItem => ?_
  rw [fenced.present]
  exact .moved (move sameKey sameItem fenced.active)

/-- What one operation can do to one place of the ledger. -/
theorem LedgerStep.apply_effect (step : LedgerStep) (records : Ledger)
    (deliveryKey itemKey : String) :
    ItemEffect step deliveryKey itemKey (records.item? deliveryKey itemKey)
      ((step.apply records).item? deliveryKey itemKey) := by
  obtain ⟨now, op⟩ := step
  cases op with
  | persistPlan key fingerprint plannedOutbound plannedItems =>
      simp only [LedgerStep.apply]
      cases result : persistDeliveryPlan now key fingerprint plannedOutbound plannedItems records with
      | error reason => exact .same _
      | ok after =>
          obtain ⟨-, -, -, items⟩ := persistDeliveryPlan_ok result
          simp only [written, id, items]
          split
          · rename_i sameKey
            subst sameKey
            split
            · exact .same _
            · rename_i planned first
              cases stored : records.item? deliveryKey itemKey with
              | none =>
                  exact .born (.plan fingerprint plannedOutbound plannedItems planned rfl first)
              | some item => exact .moved (.plan planned)
          · exact .same _
  | claimMaterialization token key name owner leaseSeconds =>
      simp only [LedgerStep.apply]
      cases result : claimDeliveryMaterialization now token key name owner leaseSeconds records with
      | error reason => exact .same _
      | ok answer =>
          obtain ⟨claim, after⟩ := answer
          obtain ⟨source, materialization, found, present, outcome⟩ :=
            claimDeliveryMaterialization_ok result
          simp only [written]
          cases claim with
          | materialized _ | notRequired _ =>
              rw [outcome.2.1]
              exact .same _
          | terminalFailed _ | busy _ =>
              rw [outcome.2]
              exact .same _
          | claimed drawn changed =>
              obtain ⟨-, unmaterialized, required, lease, -, rfl, sets⟩ := outcome
              refine sets.effect fun _ _ => ?_
              rw [found]
              exact .moved (.claimMaterialization token owner lease materialization present
                unmaterialized required)
  | finishMaterialization completion =>
      simp only [LedgerStep.apply]
      cases result : finishDeliveryMaterialization now completion records with
      | error reason => exact .same _
      | ok after =>
          obtain ⟨source, materialization, found, nested, -, active, -, sets⟩ :=
            finishDeliveryMaterialization_ok result
          refine sets.effect fun sameKey sameItem => ?_
          rw [found]
          exact .moved (.finishMaterialization completion materialization rfl
            ⟨sameKey.symm, sameItem.symm⟩ nested active)
  | claimItem token request =>
      simp only [LedgerStep.apply]
      cases result : claimDeliveryItem now token request records with
      | error reason => exact .same _
      | ok answer =>
          obtain ⟨claim, after⟩ := answer
          obtain ⟨-, source, origin, outcome⟩ := claimDeliveryItem_ok result
          simp only [written]
          cases claim with
          | succeeded _ | terminalFailed _ | busy _ =>
              rw [outcome.2.1]
              exact .same _
          | claimed drawn changed previous =>
              obtain ⟨-, -, unsuccessful, retryable, lapsed, -, lease, expiry, rfl, sets⟩ := outcome
              refine sets.effect fun sameKey sameItem => ?_
              rcases origin with found | ⟨absent, rfl⟩
              · rw [found]
                exact .moved (.claim token request lease rfl ⟨sameKey.symm, sameItem.symm⟩
                  unsuccessful retryable lapsed expiry)
              · rw [absent]
                exact .born (.claim token request lease rfl ⟨sameKey.symm, sameItem.symm⟩)
  | recordUpload upload =>
      simp only [LedgerStep.apply]
      cases result : recordDeliveryItemUpload now upload records with
      | error reason => exact .same _
      | ok after =>
          obtain ⟨source, fenced⟩ := recordDeliveryItemUpload_ok result
          exact Fenced.effect fenced fun sameKey sameItem active =>
            .recordUpload upload rfl ⟨sameKey.symm, sameItem.symm⟩ active
  | finishStage completion =>
      simp only [LedgerStep.apply]
      cases result : finishDeliveryStage now completion records with
      | error reason => exact .same _
      | ok after =>
          obtain ⟨source, fenced⟩ := finishDeliveryStage_ok result
          exact Fenced.effect fenced fun sameKey sameItem active =>
            .finishStage completion rfl ⟨sameKey.symm, sameItem.symm⟩ active
  | finishItem completion =>
      simp only [LedgerStep.apply]
      cases result : finishDeliveryItem now completion records with
      | error reason => exact .same _
      | ok answer =>
          obtain ⟨path, after⟩ := answer
          obtain ⟨source, fenced⟩ := finishDeliveryItem_ok result
          exact Fenced.effect fenced fun sameKey sameItem active =>
            .finishItem completion rfl ⟨sameKey.symm, sameItem.symm⟩ active
  | reconcileCache ttl =>
      simp only [LedgerStep.apply, reconcileDeliveryCache_item?]
      cases records.item? deliveryKey itemKey with
      | none => exact .absent
      | some item => exact .moved (.reconcile ttl rfl)

/-- An item never disappears. -/
theorem LedgerStep.apply_moves (step : LedgerStep)
    (present : records.item? deliveryKey itemKey = some item) :
    ∃ moved, (step.apply records).item? deliveryKey itemKey = some moved ∧
      ItemMove step deliveryKey itemKey item moved := by
  have effect := step.apply_effect records deliveryKey itemKey
  rw [present] at effect
  generalize (step.apply records).item? deliveryKey itemKey = entry at effect
  cases effect with
  | moved move => exact ⟨_, rfl, move⟩

/-- A fingerprint is bound to its delivery key for good. -/
theorem LedgerStep.apply_fingerprint (step : LedgerStep) {fingerprint : String}
    (bound : records.fingerprint? deliveryKey = some fingerprint) :
    (step.apply records).fingerprint? deliveryKey = some fingerprint := by
  obtain ⟨now, op⟩ := step
  cases op with
  | persistPlan key planned plannedOutbound plannedItems =>
      simp only [LedgerStep.apply]
      cases result : persistDeliveryPlan now key planned plannedOutbound plannedItems records with
      | error reason => exact bound
      | ok after =>
          obtain ⟨same, written, frame, -⟩ := persistDeliveryPlan_ok result
          by_cases here : deliveryKey = key
          · subst here
            rw [same fingerprint bound]
            exact written
          · exact (frame deliveryKey here).trans bound
  | claimMaterialization token key name owner leaseSeconds =>
      simp only [LedgerStep.apply]
      cases result : claimDeliveryMaterialization now token key name owner leaseSeconds records with
      | error reason => exact bound
      | ok answer =>
          obtain ⟨claim, after⟩ := answer
          obtain ⟨source, materialization, -, -, outcome⟩ := claimDeliveryMaterialization_ok result
          simp only [written]
          cases claim with
          | materialized _ | notRequired _ => rwa [outcome.2.1]
          | terminalFailed _ | busy _ => rwa [outcome.2]
          | claimed drawn changed =>
              obtain ⟨-, -, -, lease, -, -, sets⟩ := outcome
              exact sets.fingerprints _ _ bound
  | finishMaterialization completion =>
      simp only [LedgerStep.apply]
      cases result : finishDeliveryMaterialization now completion records with
      | error reason => exact bound
      | ok after =>
          obtain ⟨source, materialization, -, -, -, -, -, sets⟩ :=
            finishDeliveryMaterialization_ok result
          exact sets.fingerprints _ _ bound
  | claimItem token request =>
      simp only [LedgerStep.apply]
      cases result : claimDeliveryItem now token request records with
      | error reason => exact bound
      | ok answer =>
          obtain ⟨claim, after⟩ := answer
          obtain ⟨-, source, -, outcome⟩ := claimDeliveryItem_ok result
          simp only [written]
          cases claim with
          | succeeded _ | terminalFailed _ | busy _ => rwa [outcome.2.1]
          | claimed drawn changed previous =>
              obtain ⟨-, -, -, -, -, -, lease, -, -, sets⟩ := outcome
              exact sets.fingerprints _ _ bound
  | recordUpload upload =>
      simp only [LedgerStep.apply]
      cases result : recordDeliveryItemUpload now upload records with
      | error reason => exact bound
      | ok after =>
          obtain ⟨source, fenced⟩ := recordDeliveryItemUpload_ok result
          exact fenced.sets.fingerprints _ _ bound
  | finishStage completion =>
      simp only [LedgerStep.apply]
      cases result : finishDeliveryStage now completion records with
      | error reason => exact bound
      | ok after =>
          obtain ⟨source, fenced⟩ := finishDeliveryStage_ok result
          exact fenced.sets.fingerprints _ _ bound
  | finishItem completion =>
      simp only [LedgerStep.apply]
      cases result : finishDeliveryItem now completion records with
      | error reason => exact bound
      | ok answer =>
          obtain ⟨path, after⟩ := answer
          obtain ⟨source, fenced⟩ := finishDeliveryItem_ok result
          exact fenced.sets.fingerprints _ _ bound
  | reconcileCache ttl =>
      simp only [LedgerStep.apply, reconcileDeliveryCache_fingerprint?]
      exact bound

end

end HarborGate
