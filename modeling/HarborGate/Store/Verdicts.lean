import HarborGate.Store.Planned
import HarborGate.Store.Terminal

/-!
What the ledger says of a delivery that failed: whether an item has been given up, whether the
recovery scan takes the delivery up again, and the reason that every given-up item carries.
-/

namespace HarborGate

/-! ## The state of a delivery -/

/-- `"failed"`, and not to be retried. -/
def LedgerItem.isGivenUp (item : LedgerItem) : Bool :=
  item.status = .failed && item.retryable = some false

def hasTerminal (records : Ledger) (deliveryKey : String) : Bool :=
  records[deliveryKey]?.any fun record => record.items.toList.any fun entry => entry.2.isGivenUp

/-- An item besides the named one. -/
def otherTerminal (records : Ledger) (deliveryKey itemKey : String) : Bool :=
  records[deliveryKey]?.any fun record =>
    record.items.toList.any fun entry => entry.1 ≠ itemKey && entry.2.isGivenUp

def isResumed (records : Ledger) (deliveryKey : String) : Bool :=
  (retryableDeliveryPlans records).any (·.deliveryKey = deliveryKey)

section

variable {records after : Ledger} {deliveryKey itemKey : String} {item : LedgerItem}

theorem isGivenUp_iff : item.isGivenUp = true ↔ item.status = .failed ∧ item.retryable = some false := by
  simp [LedgerItem.isGivenUp]

theorem any_items {record : LedgerRecord} (found : records[deliveryKey]? = some record)
    (test : String × LedgerItem → Bool) :
    record.items.toList.any test = true ↔
      ∃ name item, records.item? deliveryKey name = some item ∧ test (name, item) = true := by
  simp only [List.any_eq_true, Prod.exists, Std.TreeMap.mem_toList_iff_getElem?_eq_some]
  have listed : ∀ name, records.item? deliveryKey name = record.items[name]? := by
    intro name
    simp [Ledger.item?, found]
  simp only [listed]

theorem hasTerminal_iff : hasTerminal records deliveryKey = true ↔
    ∃ name item, records.item? deliveryKey name = some item ∧ item.isGivenUp = true := by
  cases found : records[deliveryKey]? with
  | none => simp [hasTerminal, Ledger.item?, found]
  | some record =>
      have listed := any_items found fun entry => entry.2.isGivenUp
      simpa only [hasTerminal, found, Option.any_some] using listed

theorem otherTerminal_iff : otherTerminal records deliveryKey itemKey = true ↔
    ∃ name item, records.item? deliveryKey name = some item ∧ name ≠ itemKey ∧
      item.isGivenUp = true := by
  cases found : records[deliveryKey]? with
  | none => simp [otherTerminal, Ledger.item?, found]
  | some record =>
      have listed := any_items found fun entry => entry.1 ≠ itemKey && entry.2.isGivenUp
      simpa only [otherTerminal, found, Option.any_some, Bool.and_eq_true, decide_eq_true_eq]
        using listed

/-- What is set on one item is seen in that item and in the others. -/
theorem Ledger.Sets.hasTerminal (sets : records.Sets after deliveryKey itemKey item) :
    hasTerminal after deliveryKey = (item.isGivenUp || otherTerminal records deliveryKey itemKey) := by
  rw [Bool.eq_iff_iff, hasTerminal_iff, Bool.or_eq_true, otherTerminal_iff]
  constructor
  · rintro ⟨name, found, present, givenUp⟩
    by_cases own : name = itemKey
    · subst own
      obtain rfl := Option.some.inj (sets.self.symm.trans present)
      exact .inl givenUp
    · rw [sets.frame fun both => own both.2] at present
      exact .inr ⟨name, found, present, own, givenUp⟩
  · rintro (givenUp | ⟨name, found, present, other, givenUp⟩)
    · exact ⟨itemKey, item, sets.self, givenUp⟩
    · refine ⟨name, found, ?_, givenUp⟩
      rw [sets.frame fun both => other both.2]
      exact present

theorem retryableDeliveryPlan_key {record : LedgerRecord} {plan : RetryablePlan}
    (planned : retryableDeliveryPlan deliveryKey record = some plan) :
    plan.deliveryKey = deliveryKey := by
  simp only [retryableDeliveryPlan] at planned
  split at planned
  · obtain ⟨outbound, -, rfl⟩ := Option.map_eq_some_iff.mp planned
    rfl
  · simp at planned

theorem isResumed_found {record : LedgerRecord} (found : records[deliveryKey]? = some record) :
    isResumed records deliveryKey = (retryableDeliveryPlan deliveryKey record).isSome := by
  rw [Bool.eq_iff_iff]
  simp only [isResumed, retryableDeliveryPlans, List.any_eq_true, List.mem_filterMap, Prod.exists,
    Std.TreeMap.mem_toList_iff_getElem?_eq_some, decide_eq_true_eq]
  constructor
  · rintro ⟨plan, ⟨key, stored, present, planned⟩, same⟩
    rw [retryableDeliveryPlan_key planned] at same
    subst same
    obtain rfl := Option.some.inj (found.symm.trans present)
    simp [planned]
  · intro resumed
    obtain ⟨plan, planned⟩ := Option.isSome_iff_exists.mp resumed
    exact ⟨plan, ⟨deliveryKey, record, found, planned⟩, retryableDeliveryPlan_key planned⟩

/-- The scan takes a delivery up for the sake of an item that counts as retryable, unless one was
given up. -/
theorem isResumed_iff : isResumed records deliveryKey = true ↔
    (records.planned? deliveryKey).isSome = true ∧
      (∀ name item, records.item? deliveryKey name = some item → isTerminalFailure item = false) ∧
      ∃ name item, records.item? deliveryKey name = some item ∧ countsAsRetryable item = true := by
  cases found : records[deliveryKey]? with
  | none =>
      have unplanned : records.planned? deliveryKey = none := by simp [Ledger.planned?, found]
      rw [unplanned]
      simp only [isResumed, retryableDeliveryPlans, List.any_eq_true, List.mem_filterMap,
        Prod.exists, Std.TreeMap.mem_toList_iff_getElem?_eq_some, decide_eq_true_eq,
        Option.isSome_none, Bool.false_eq_true, false_and, iff_false]
      rintro ⟨plan, ⟨key, stored, present, planned⟩, same⟩
      rw [retryableDeliveryPlan_key planned] at same
      simp [same, found] at present
  | some record =>
      have planned : records.planned? deliveryKey = record.plannedOutbound := by
        simp [Ledger.planned?, found]
      have stopped := any_items found fun entry => isTerminalFailure entry.2
      have counted := any_items found fun entry => countsAsRetryable entry.2
      rw [isResumed_found found, planned, ← counted]
      simp only [retryableDeliveryPlan, List.any_map, Function.comp_def]
      cases ended : record.items.toList.any fun entry => isTerminalFailure entry.2 with
      | true =>
          obtain ⟨name, item, present, terminal⟩ := stopped.mp ended
          simp only [Bool.not_true, Bool.false_and, Bool.false_eq_true, if_false,
            Option.isSome_none, false_iff, not_and]
          intro _ all
          simp [all name item present] at terminal
      | false =>
          have all : ∀ name item, records.item? deliveryKey name = some item →
              isTerminalFailure item = false := by
            intro name item present
            by_contra terminal
            have some := stopped.mpr ⟨name, item, present, by simpa using terminal⟩
            simp [ended] at some
          cases counts : record.items.toList.any fun entry => countsAsRetryable entry.2 with
          | true => simpa using fun _ => all
          | false => simp

theorem unresumed_of_terminal (terminal : hasTerminal records deliveryKey = true) :
    isResumed records deliveryKey = false := by
  obtain ⟨name, item, present, givenUp⟩ := hasTerminal_iff.mp terminal
  by_contra resumed
  have all := (isResumed_iff.mp (by simpa using resumed)).2.1 name item present
  obtain ⟨failed, kept⟩ := isGivenUp_iff.mp givenUp
  simp [isTerminalFailure, failed, kept] at all

/-- With an item to retry, only a given-up item keeps the scan from the delivery. -/
theorem resumed_of_counted (planned : (records.planned? deliveryKey).isSome = true)
    (known : ∀ name item, records.item? deliveryKey name = some item → item.status ≠ .terminalFailed)
    (present : records.item? deliveryKey itemKey = some item)
    (counts : countsAsRetryable item = true) :
    isResumed records deliveryKey = !hasTerminal records deliveryKey := by
  cases terminal : hasTerminal records deliveryKey with
  | true => simp [unresumed_of_terminal terminal]
  | false =>
      rw [Bool.not_false, isResumed_iff]
      refine ⟨planned, fun name other found => ?_, itemKey, item, present, counts⟩
      by_contra stopped
      have givenUp : other.isGivenUp = true := by
        simpa [isTerminalFailure, LedgerItem.isGivenUp, known name other found] using stopped
      rw [hasTerminal_iff.mpr ⟨name, other, found, givenUp⟩] at terminal
      exact Bool.false_ne_true terminal.symm

/-- The ledger bears out a receipt: an item is given up exactly if it is not to be retried, and the
delivery is taken up again exactly if it is. -/
def Concurs (records : Ledger) (deliveryKey : String) (retryable : Bool) : Prop :=
  hasTerminal records deliveryKey = !retryable ∧ isResumed records deliveryKey = retryable

instance (retryable : Bool) : Decidable (Concurs records deliveryKey retryable) :=
  inferInstanceAs (Decidable (_ ∧ _))

theorem concurs_of_terminal (terminal : hasTerminal records deliveryKey = true) :
    Concurs records deliveryKey false :=
  ⟨terminal, unresumed_of_terminal terminal⟩

/-- A failure has just been recorded as `kept`: what is said of it holds if it was given up, else
according to the other items. -/
theorem Ledger.Sets.concurs {kept retryable : Bool}
    (sets : records.Sets after deliveryKey itemKey item) (failed : item.status = .failed)
    (recorded : item.retryable = some kept)
    (planned : (after.planned? deliveryKey).isSome = true)
    (known : ∀ name other, after.item? deliveryKey name = some other → other.status ≠ .terminalFailed)
    (sound : kept = false → retryable = false) :
    Concurs after deliveryKey retryable ↔
      (kept = true → (retryable = false ↔ otherTerminal records deliveryKey itemKey = true)) := by
  have verdict := sets.hasTerminal
  cases kept with
  | false =>
      have givenUp : item.isGivenUp = true := isGivenUp_iff.mpr ⟨failed, recorded⟩
      rw [givenUp, Bool.true_or] at verdict
      rw [sound rfl]
      exact iff_of_true (concurs_of_terminal verdict) (by simp)
  | true =>
      have again : item.isGivenUp = false := by simp [LedgerItem.isGivenUp, recorded]
      have counts : countsAsRetryable item = true := by simp [countsAsRetryable, failed, recorded]
      rw [again, Bool.false_or] at verdict
      have resumed := resumed_of_counted planned known sets.self counts
      rw [verdict] at resumed
      rw [Concurs, verdict, resumed]
      cases retryable <;> cases otherTerminal records deliveryKey itemKey <;> simp

theorem claimDeliveryMaterialization_terminal {now : Time} {token : Uuid} {owner : String}
    {leaseSeconds : Nat} {found : LedgerItem}
    (ok : claimDeliveryMaterialization now token deliveryKey itemKey owner leaseSeconds records =
      .ok (.terminalFailed found, after)) :
    after = records ∧ records.item? deliveryKey itemKey = some found ∧
      ∃ materialization, found.materialization = some materialization ∧
        materialization.status = .failed ∧ materialization.retryable = false := by
  simp only [claimDeliveryMaterialization, Result.bind_eq_ok] at ok
  obtain ⟨⟨record, item, materialization⟩, located, rest⟩ := ok
  have here := locateMaterialization_ok located
  have present : records.item? deliveryKey itemKey = some item :=
    item?_some.mpr ⟨record, here.1, here.2.1⟩
  split at rest
  · simp [Result.pure_eq_ok] at rest
  split at rest
  · simp [Result.pure_eq_ok] at rest
  split at rest
  · rename_i ended
    simp only [Result.pure_eq_ok, Prod.mk.injEq, MaterializationClaim.terminalFailed.injEq] at rest
    obtain ⟨rfl, rfl⟩ := rest
    exact ⟨rfl, present, materialization, here.2.2, ended⟩
  · simp only [Result.bind_eq_ok] at rest
    obtain ⟨busy, -, rest⟩ := rest
    split at rest
    · simp [Result.pure_eq_ok] at rest
    · split at rest
      · cases rest
      · simp [Result.pure_eq_ok] at rest

end

/-! ## Reasons -/

section Reasons

variable (final : String → Prop)

/-- The reason that a text gives is final. -/
def Reason (text : Option String) : Prop :=
  ∃ reason, text = some reason ∧ final reason

/-- A given-up item, or materialization, keeps the final reason it was given up for. -/
structure LedgerItem.Explained (item : LedgerItem) : Prop where
  known : item.status ≠ .terminalFailed
  failed : item.isGivenUp = true → Reason final item.lastError
  nested : ∀ materialization, item.materialization = some materialization →
    materialization.status = .failed → materialization.retryable = false →
      Reason final materialization.lastError ∧ item.isGivenUp = true

/-- What is recorded as final has a final reason. -/
def LedgerOp.Reasoned : LedgerOp → Prop
  | .finishMaterialization completion =>
      completion.status ≠ .materialized → completion.retryable = false →
        Reason final completion.lastError
  | .finishItem completion => completion.status ≠ .terminalFailed ∧
      (completion.status = .failed → completion.retryable = false →
        Reason final completion.lastError)
  | _ => True

variable {final} {step : LedgerStep} {deliveryKey itemKey : String} {item moved : LedgerItem}

theorem explained_new (now : Time) (fingerprint name artifactId kind : String)
    (planned : Option OutboundMessage) (materialization : Option Materialization)
    (cachePath : Option String)
    (fresh : ∀ nested, materialization = some nested → nested.status ≠ .failed) :
    (newItem now fingerprint name artifactId kind planned materialization cachePath).Explained
      final where
  known := by simp [newItem]
  failed givenUp := by simp [LedgerItem.isGivenUp, newItem] at givenUp
  nested nested present failed := absurd failed (fresh nested present)

theorem newMaterialization_status (now : Time) (required : Bool) :
    (newMaterialization now required).status ≠ .failed := by
  cases required <;> simp [newMaterialization]

theorem LedgerItem.Explained.plan (explained : item.Explained final) (now : Time)
    (planned : DeliveryPlanItem) : (item.plan now planned).Explained final where
  known := explained.known
  failed := explained.failed
  nested nested present failed final := by
    simp only [LedgerItem.plan, Option.some.injEq] at present
    cases stored : item.materialization with
    | none =>
        rw [stored, Option.getD_none] at present
        subst present
        exact absurd failed (newMaterialization_status _ _)
    | some old =>
        rw [stored, Option.getD_some] at present
        subst present
        exact explained.nested old stored failed final

theorem not_givenUp_of_sending (sending : item.status = .sending) : item.isGivenUp = false := by
  simp [LedgerItem.isGivenUp, sending]

/-- Under an active claim no materialization was given up. -/
theorem LedgerItem.Explained.claimed (explained : item.Explained final)
    (sending : item.status = .sending) {materialization : Materialization}
    (present : item.materialization = some materialization)
    (failed : materialization.status = .failed) : materialization.retryable ≠ false := by
  intro final
  have givenUp := (explained.nested materialization present failed final).2
  rw [not_givenUp_of_sending sending] at givenUp
  exact Bool.false_ne_true givenUp

/-- Reconciliation expires no item that was given up, and leaves the reason of every other. -/
theorem reconcileItem_reason (now : Time) (ttl : Int) (item : LedgerItem) :
    (reconcileItem now ttl item).1.status = .expired ∧ item.isGivenUp = false ∨
      (reconcileItem now ttl item).1.status = item.status ∧
        (reconcileItem now ttl item).1.retryable = item.retryable ∧
          (reconcileItem now ttl item).1.lastError = item.lastError := by
  by_cases givenUp : item.isGivenUp = true
  · right
    obtain ⟨failed, kept⟩ := isGivenUp_iff.mp givenUp
    simp only [reconcileItem, failed, kept, Option.getD_some, Bool.and_false, Bool.false_and,
      Bool.false_eq_true, if_false]
    split <;> simp [failed, kept]
  · have kept : item.isGivenUp = false := by simpa using givenUp
    simp only [reconcileItem]
    repeat' split
    all_goals first
      | exact .inr ⟨rfl, rfl, rfl⟩
      | exact .inl ⟨rfl, kept⟩

theorem ItemMove.explained (move : ItemMove step deliveryKey itemKey item moved)
    (reasoned : step.op.Reasoned final) (explained : item.Explained final) :
    moved.Explained final := by
  cases move with
  | keep => exact explained
  | plan planned => exact explained.plan _ planned
  | claimMaterialization token owner lease materialization present _ _ =>
      refine ⟨explained.known, explained.failed, ?_⟩
      intro nested same failed
      obtain rfl := Option.some.inj same
      simp at failed
  | finishMaterialization completion materialization operation _ _ _ =>
      rw [operation] at reasoned
      by_cases done : completion.status = .materialized
      · refine ⟨by simp [LedgerItem.finishMaterialization, done], ?_, ?_⟩
        · intro givenUp
          simp [LedgerItem.isGivenUp, LedgerItem.finishMaterialization, done] at givenUp
        · intro nested same failed
          obtain rfl := Option.some.inj same
          simp [done] at failed
      · have reason : completion.retryable = false → Reason final completion.lastError :=
          reasoned done
        refine ⟨by simp [LedgerItem.finishMaterialization, done], ?_, ?_⟩
        · intro givenUp
          exact reason (Option.some.inj (isGivenUp_iff.mp givenUp).2)
        · intro nested same failed final
          obtain rfl := Option.some.inj same
          refine ⟨reason final, ?_⟩
          have final : completion.retryable = false := final
          simp [LedgerItem.isGivenUp, LedgerItem.finishMaterialization, done, final]
  | claim token request lease _ _ _ retryable _ _ =>
      refine ⟨by simp [LedgerItem.claim], ?_, ?_⟩
      · intro givenUp
        simp [LedgerItem.isGivenUp, LedgerItem.claim] at givenUp
      · intro nested present failed final
        have givenUp := (explained.nested nested present failed final).2
        exact absurd (isGivenUp_iff.mp givenUp) retryable
  | recordUpload upload _ _ active =>
      have status : (item.recordUpload step.now upload).status = .sending := by
        simp only [LedgerItem.recordUpload]
        cases upload.stage <;> exact active.sending
      have nested : (item.recordUpload step.now upload).materialization = item.materialization := by
        simp only [LedgerItem.recordUpload]
        cases upload.stage <;> rfl
      refine ⟨by simp [status], ?_, ?_⟩
      · intro givenUp
        simp [not_givenUp_of_sending status] at givenUp
      · intro materialization present failed final
        rw [nested] at present
        exact absurd final (explained.claimed active.sending present failed)
  | finishStage completion _ _ active =>
      have status : (item.finishStage step.now completion).status = .sending := by
        simp only [LedgerItem.finishStage]
        cases completion.stage <;> exact active.sending
      have nested : (item.finishStage step.now completion).materialization =
          item.materialization := by
        simp only [LedgerItem.finishStage]
        cases completion.stage <;> rfl
      refine ⟨by simp [status], ?_, ?_⟩
      · intro givenUp
        simp [not_givenUp_of_sending status] at givenUp
      · intro materialization present failed final
        rw [nested] at present
        exact absurd final (explained.claimed active.sending present failed)
  | finishItem completion operation _ active =>
      rw [operation] at reasoned
      refine ⟨reasoned.1, ?_, ?_⟩
      · intro givenUp
        obtain ⟨failed, kept⟩ := isGivenUp_iff.mp givenUp
        exact reasoned.2 failed (Option.some.inj kept)
      · intro materialization present failed final
        exact absurd final (explained.claimed active.sending present failed)
  | reconcile ttl _ =>
      have frame := reconcileItem_frame step.now ttl item
      rcases reconcileItem_reason step.now ttl item with ⟨expired, kept⟩ | ⟨status, same, error⟩
      · refine ⟨by simp [expired], ?_, ?_⟩
        · intro givenUp
          simp [LedgerItem.isGivenUp, expired] at givenUp
        · intro materialization present failed final
          rw [frame.materialization] at present
          have givenUp := (explained.nested materialization present failed final).2
          simp [kept] at givenUp
      · have givenUp : (reconcileItem step.now ttl item).1.isGivenUp = item.isGivenUp := by
          simp only [LedgerItem.isGivenUp, status, same]
        refine ⟨by rw [status]; exact explained.known, ?_, ?_⟩
        · rw [givenUp, error]
          exact explained.failed
        · rw [frame.materialization, givenUp]
          exact explained.nested

/-- Every item of the ledger. -/
def Ledger.Explained (final : String → Prop) (records : Ledger) : Prop :=
  ∀ deliveryKey itemKey item, records.item? deliveryKey itemKey = some item → item.Explained final

theorem Ledger.Explained.apply {records : Ledger} (explained : records.Explained final)
    (reasoned : step.op.Reasoned final) : (step.apply records).Explained final := by
  intro deliveryKey itemKey item present
  have effect := step.apply_effect records deliveryKey itemKey
  rw [present] at effect
  generalize before : records.item? deliveryKey itemKey = entry at effect
  cases effect with
  | born birth =>
      cases birth with
      | plan fingerprint outbound items planned _ _ =>
          refine LedgerItem.Explained.plan (explained_new _ _ _ _ _ _ _ _ ?_) _ _
          intro nested same
          obtain rfl := Option.some.inj same
          exact newMaterialization_status _ _
      | claim token request lease _ _ =>
          exact ⟨by simp [LedgerItem.claim],
            fun givenUp => by simp [LedgerItem.isGivenUp, LedgerItem.claim] at givenUp,
            fun nested same => by simp [LedgerItem.claim, newItem] at same⟩
  | moved move => exact move.explained reasoned (explained _ _ _ before)

end Reasons

end HarborGate
