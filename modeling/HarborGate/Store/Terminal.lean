import HarborGate.Store.Steps

/-!
Runs of ledger operations in any order, and what they do to an item that has reached a
terminal status.
-/

namespace HarborGate

def runLedger (steps : List LedgerStep) (records : Ledger) : Ledger :=
  steps.foldl (fun ledger step => step.apply ledger) records

def ItemClaim.isClaimed : ItemClaim → Bool
  | .claimed _ _ _ => true
  | _ => false

/-- The step is a `claim_delivery_item` for this item that returns `"claimed"`. -/
def LedgerStep.claimsItem (step : LedgerStep) (records : Ledger) (deliveryKey itemKey : String) :
    Bool :=
  match step.op with
  | .claimItem token request =>
      request.deliveryKey == deliveryKey && request.itemKey == itemKey &&
        match claimDeliveryItem step.now token request records with
        | .ok (claim, _) => claim.isClaimed
        | .error _ => false
  | _ => false

/-- An item that is not to be sent again. -/
def LedgerItem.Terminal (item : LedgerItem) : Prop :=
  item.status = .succeeded ∨
    (item.status = .failed ∨ item.status = .expired) ∧ item.retryable = some false

/-- The operation neither claims the item while it is `"expired"` and not retryable, nor
finishes a materialization claim that is still active on it once it is terminal. -/
def LedgerStep.Spares (step : LedgerStep) (records : Ledger) (deliveryKey itemKey : String) :
    Prop :=
  ∀ item, records.item? deliveryKey itemKey = some item →
    match step.op with
    | .claimItem _ request =>
        request.deliveryKey = deliveryKey → request.itemKey = itemKey →
          ¬(item.status = .expired ∧ item.retryable = some false)
    | .finishMaterialization completion =>
        completion.deliveryKey = deliveryKey → completion.itemKey = itemKey → item.Terminal →
          ∀ materialization, item.materialization = some materialization →
            requireActiveNestedClaim step.now materialization completion.claimToken ≠ .ok ()
    | _ => True

section

variable {step : LedgerStep} {records : Ledger} {deliveryKey itemKey : String}
  {item changed : LedgerItem}

theorem LedgerItem.Terminal.idle (terminal : item.Terminal) : item.status ≠ .sending := by
  rcases terminal with succeeded | ⟨failed | expired, -⟩ <;> simp [*]

theorem LedgerItem.Terminal.congr (terminal : item.Terminal) (status : changed.status = item.status)
    (retryable : changed.retryable = item.retryable) : changed.Terminal := by
  simpa only [LedgerItem.Terminal, status, retryable] using terminal

theorem LedgerItem.Terminal.not_countsAsRetryable (terminal : item.Terminal) :
    countsAsRetryable item = false := by
  rcases terminal with succeeded | ⟨failed | expired, retryable⟩ <;> simp [countsAsRetryable, *]

/-- Reconciliation drops the cache path of a terminal item and touches nothing else of it. -/
theorem LedgerItem.Terminal.reconcileItem (terminal : item.Terminal) (now : Time) (ttl : Int) :
    (reconcileItem now ttl item).1.status = item.status ∧
      (reconcileItem now ttl item).1.retryable = item.retryable := by
  have settled : ((item.status = .pending || item.status = .sending || item.status = .failed) &&
      item.retryable.getD true) = false := by
    rcases terminal with succeeded | ⟨failed | expired, retryable⟩ <;> simp [*]
  simp only [HarborGate.reconcileItem]
  cases Text.trimmed item.cachePath with
  | none => exact ⟨rfl, rfl⟩
  | some path => simp [settled]

theorem LedgerItem.Terminal.expired_of_open (terminal : item.Terminal)
    (unsuccessful : item.status ≠ .succeeded)
    (open_ : ¬(item.status = .failed ∧ item.retryable = some false)) :
    item.status = .expired ∧ item.retryable = some false := by
  rcases terminal with succeeded | ⟨failed | expired, retryable⟩
  · exact absurd succeeded unsuccessful
  · exact absurd ⟨failed, retryable⟩ open_
  · exact ⟨expired, retryable⟩

theorem LedgerStep.claimsItem_eq_true :
    step.claimsItem records deliveryKey itemKey = true ↔
      ∃ token request drawn item previous after, step.op = .claimItem token request ∧
        request.deliveryKey = deliveryKey ∧ request.itemKey = itemKey ∧
        claimDeliveryItem step.now token request records =
          .ok (.claimed drawn item previous, after) := by
  constructor
  · intro claims
    simp only [LedgerStep.claimsItem] at claims
    split at claims
    · rename_i token request operation
      simp only [Bool.and_eq_true, beq_iff_eq] at claims
      obtain ⟨⟨sameKey, sameItem⟩, claimed⟩ := claims
      split at claimed
      · rename_i claim after ok
        cases claim with
        | claimed drawn item previous =>
            exact ⟨token, request, drawn, item, previous, after, operation, sameKey, sameItem, ok⟩
        | succeeded _ | terminalFailed _ | busy _ => simp [ItemClaim.isClaimed] at claimed
      · simp at claimed
    · simp at claims
  · rintro ⟨token, request, drawn, item, previous, after, operation, sameKey, sameItem, ok⟩
    simp [LedgerStep.claimsItem, operation, sameKey, sameItem, ok, ItemClaim.isClaimed]

/-- Only an item that reconciliation expired can be claimed although it is terminal. -/
theorem LedgerItem.Terminal.claimed_expired (terminal : item.Terminal)
    (present : records.item? deliveryKey itemKey = some item)
    (claims : step.claimsItem records deliveryKey itemKey = true) :
    item.status = .expired ∧ item.retryable = some false := by
  obtain ⟨token, request, drawn, claimed, previous, after, -, rfl, rfl, ok⟩ :=
    LedgerStep.claimsItem_eq_true.mp claims
  obtain ⟨-, source, origin, -, -, unsuccessful, open_, -⟩ := claimDeliveryItem_ok ok
  have same : source = item := by
    rcases origin with found | ⟨absent, -⟩
    · exact Option.some.inj (found.symm.trans present)
    · simp [absent] at present
  subst same
  exact terminal.expired_of_open unsuccessful open_

theorem LedgerStep.Spares.not_claims (spares : step.Spares records deliveryKey itemKey)
    (present : records.item? deliveryKey itemKey = some item) (terminal : item.Terminal) :
    step.claimsItem records deliveryKey itemKey = false := by
  by_contra claims
  simp only [Bool.not_eq_false] at claims
  have expired := terminal.claimed_expired present claims
  obtain ⟨token, request, -, -, -, -, operation, sameKey, sameItem, -⟩ :=
    LedgerStep.claimsItem_eq_true.mp claims
  have spared := spares item present
  rw [operation] at spared
  exact spared sameKey sameItem expired

theorem LedgerStep.Spares.apply_terminal (spares : step.Spares records deliveryKey itemKey)
    (present : records.item? deliveryKey itemKey = some item) (terminal : item.Terminal) :
    ∃ moved, (step.apply records).item? deliveryKey itemKey = some moved ∧
      moved.status = item.status ∧ moved.Terminal := by
  obtain ⟨moved, found, move⟩ := step.apply_moves present
  refine ⟨moved, found, ?_⟩
  cases move with
  | keep => exact ⟨rfl, terminal⟩
  | plan planned => exact ⟨rfl, terminal.congr rfl rfl⟩
  | claimMaterialization token owner lease materialization nested unmaterialized required =>
      exact ⟨rfl, terminal.congr rfl rfl⟩
  | finishMaterialization completion materialization operation addressed nested active =>
      have spared := spares item present
      rw [operation] at spared
      exact absurd active (spared addressed.1 addressed.2 terminal materialization nested)
  | claim token request lease operation addressed unsuccessful retryable lapsed expiry =>
      have spared := spares item present
      rw [operation] at spared
      exact absurd (terminal.expired_of_open unsuccessful retryable)
        (spared addressed.1 addressed.2)
  | recordUpload upload operation addressed active => exact absurd active.sending terminal.idle
  | finishStage completion operation addressed active =>
      exact absurd active.sending terminal.idle
  | finishItem completion operation addressed active => exact absurd active.sending terminal.idle
  | reconcile ttl operation =>
      obtain ⟨status, retryable⟩ := terminal.reconcileItem step.now ttl
      exact ⟨status, terminal.congr status retryable⟩

end

/-- Every step of the run spares the item in the ledger it meets. -/
def SparingRun (records : Ledger) (deliveryKey itemKey : String) : List LedgerStep → Prop
  | [] => True
  | step :: rest =>
      step.Spares records deliveryKey itemKey ∧
        SparingRun (step.apply records) deliveryKey itemKey rest

theorem SparingRun.terminal {deliveryKey itemKey : String} (steps : List LedgerStep) :
    ∀ {records : Ledger} {item : LedgerItem} {rest : List LedgerStep},
      SparingRun records deliveryKey itemKey (steps ++ rest) →
      records.item? deliveryKey itemKey = some item → item.Terminal →
      SparingRun (runLedger steps records) deliveryKey itemKey rest ∧
        ∃ current, (runLedger steps records).item? deliveryKey itemKey = some current ∧
          current.status = item.status ∧ current.Terminal := by
  induction steps with
  | nil =>
      intro records item rest sparing present terminal
      exact ⟨sparing, item, present, rfl, terminal⟩
  | cons step steps ih =>
      intro records item rest sparing present terminal
      obtain ⟨moved, found, status, movedTerminal⟩ := sparing.1.apply_terminal present terminal
      obtain ⟨remaining, current, reached, same, stays⟩ := ih sparing.2 found movedTerminal
      exact ⟨remaining, current, reached, same.trans status, stays⟩

/-- A plan that the recovery scan returns owes it to an item that counts as retryable. -/
theorem retryableDeliveryPlans_cause {records : Ledger} {plan : RetryablePlan}
    (returned : plan ∈ retryableDeliveryPlans records) :
    ∃ itemKey item, records.item? plan.deliveryKey itemKey = some item ∧
      countsAsRetryable item = true := by
  simp only [retryableDeliveryPlans, List.mem_filterMap, Prod.exists] at returned
  obtain ⟨deliveryKey, record, stored, planned⟩ := returned
  simp only [retryableDeliveryPlan] at planned
  split at planned
  · rename_i retryable
    simp only [Bool.and_eq_true, List.any_eq_true, List.mem_map, Prod.exists] at retryable
    obtain ⟨-, _, ⟨itemKey, item, listed, rfl⟩, counts⟩ := retryable
    simp only [Option.map_eq_some_iff] at planned
    obtain ⟨outbound, -, rfl⟩ := planned
    refine ⟨itemKey, item, item?_some.mpr ⟨record, ?_, ?_⟩, counts⟩
    · exact Std.TreeMap.mem_toList_iff_getElem?_eq_some.mp stored
    · exact Std.TreeMap.mem_toList_iff_getElem?_eq_some.mp listed
  · simp at planned

/-- Throughout `later` the item keeps its status, no claim of it returns `"claimed"`, and the
recovery scan returns its delivery only for the sake of another item. -/
def StaysTerminal (records : Ledger) (later : List LedgerStep) (deliveryKey itemKey : String)
    (item : LedgerItem) : Prop :=
  ∀ done rest, later = done ++ rest →
    (∃ current, (runLedger done records).item? deliveryKey itemKey = some current ∧
      current.status = item.status) ∧
    (∀ step ∈ rest.head?, step.claimsItem (runLedger done records) deliveryKey itemKey = false) ∧
    ∀ plan ∈ retryableDeliveryPlans (runLedger done records), plan.deliveryKey = deliveryKey →
      ∃ otherKey other, otherKey ≠ itemKey ∧
        (runLedger done records).item? deliveryKey otherKey = some other ∧
        countsAsRetryable other = true

theorem terminal_item_stays_terminal (setup later : List LedgerStep) (deliveryKey itemKey : String)
    (item : LedgerItem) (present : (runLedger setup ∅).item? deliveryKey itemKey = some item)
    (terminal : item.Terminal)
    (sparing : SparingRun (runLedger setup ∅) deliveryKey itemKey later) :
    StaysTerminal (runLedger setup ∅) later deliveryKey itemKey item := by
  rintro done rest rfl
  obtain ⟨remaining, current, reached, status, stays⟩ := sparing.terminal done present terminal
  refine ⟨⟨current, reached, status⟩, ?_, ?_⟩
  · intro step first
    cases rest with
    | nil => simp at first
    | cons next rest =>
        obtain rfl : next = step := by simpa using first
        exact remaining.1.not_claims reached stays
  · rintro plan returned rfl
    obtain ⟨otherKey, other, found, counts⟩ := retryableDeliveryPlans_cause returned
    refine ⟨otherKey, other, ?_, found, counts⟩
    rintro rfl
    obtain rfl := Option.some.inj (found.symm.trans reached)
    simp [stays.not_countsAsRetryable] at counts

def imageOutbound : OutboundMessage where
  platform := "weixin"
  chatId := "chat"
  text := ""
  attachments := []
  timestamp := "2026-01-01T00:00:00Z"
  metadata := []

def imageClaim : DeliveryItemClaimRequest where
  deliveryKey := "delivery"
  requestFingerprint := "fingerprint"
  itemKey := "image"
  artifactId := "artifact"
  kind := "image"
  owner := "gate"
  cachePath := some "/cache/image.jpg"
  leaseSeconds := 300

def imageFailure (token : Uuid) : DeliveryItemCompletion where
  deliveryKey := "delivery"
  itemKey := "image"
  claimToken := token
  status := .failed
  providerMediaId := none
  providerClientId := none
  providerMessageId := none
  retryable := false
  lastError := some "forbidden"
  fallbackUsed := false

/-- An attempt that stopped with its cache file in place. -/
def abandonedAttempt : List LedgerStep :=
  [⟨0, .persistPlan "delivery" "fingerprint" imageOutbound
      [⟨"image", "artifact", "image", imageOutbound, false⟩]⟩,
    ⟨0, .claimItem ⟨1⟩ imageClaim⟩]

def oneDay : Int := 24 * 60 * 60 * nanosPerSecond

def expiredAttempt : List LedgerStep :=
  abandonedAttempt ++ [⟨2 * oneDay, .reconcileCache oneDay⟩]

theorem expired_item_is_claimed_again :
    ∃ item, (runLedger expiredAttempt ∅).item? "delivery" "image" = some item ∧
      item.Terminal ∧
      ¬StaysTerminal (runLedger expiredAttempt ∅) [⟨2 * oneDay, .claimItem ⟨2⟩ imageClaim⟩]
        "delivery" "image" item := by
  have reached : ((runLedger expiredAttempt ∅).item? "delivery" "image").map
      (fun item => (item.status, item.retryable)) = some (.expired, some false) := by decide
  obtain ⟨item, present, state⟩ := Option.map_eq_some_iff.mp reached
  simp only [Prod.mk.injEq] at state
  refine ⟨item, present, Or.inr ⟨Or.inr state.1, state.2⟩, ?_⟩
  intro stays
  have unclaimed := (stays [] _ rfl).2.1 _ rfl
  exact absurd unclaimed (by decide)

theorem failed_item_stays_failed :
    ∃ item, (runLedger (abandonedAttempt ++ [⟨1, .finishItem (imageFailure ⟨1⟩)⟩]) ∅).item?
        "delivery" "image" = some item ∧ item.Terminal ∧
      StaysTerminal (runLedger (abandonedAttempt ++ [⟨1, .finishItem (imageFailure ⟨1⟩)⟩]) ∅)
        [⟨2, .claimItem ⟨2⟩ imageClaim⟩, ⟨2 * oneDay, .reconcileCache oneDay⟩]
        "delivery" "image" item := by
  have reached : ((runLedger (abandonedAttempt ++ [⟨1, .finishItem (imageFailure ⟨1⟩)⟩]) ∅).item?
      "delivery" "image").map (fun item => (item.status, item.retryable)) =
        some (.failed, some false) := by decide
  obtain ⟨item, present, state⟩ := Option.map_eq_some_iff.mp reached
  simp only [Prod.mk.injEq] at state
  have terminal : item.Terminal := Or.inr ⟨Or.inl state.1, state.2⟩
  refine ⟨item, present, terminal, terminal_item_stays_terminal _ _ _ _ item present terminal ?_⟩
  refine ⟨?_, ?_, trivial⟩
  · intro stored found _ _ expired
    obtain rfl := Option.some.inj (found.symm.trans present)
    simp [state.1] at expired
  · intro stored _
    trivial

end HarborGate
