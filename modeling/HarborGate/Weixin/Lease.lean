import HarborGate.Lib.Result
import HarborGate.Weixin.Runtime

/-!
How long the Weixin adapter's claims last. The arithmetic from the configured timeout to the expiry
saturates at every step but the one that makes a duration of the seconds.
-/

namespace HarborGate

namespace Weixin

open Interleave

def u64Max : Nat := 2 ^ 64 - 1

def cdnUploadMaxRetries : Nat := 3

/-- `WeixinAdapter::delivery_claim_lease_seconds`, with the saturation of `u64`. -/
def deliveryClaimLeaseSeconds (timeoutSeconds : Nat) : Nat :=
  let uploadAndSendHttpCalls := cdnUploadMaxRetries + 2
  min (min (min (timeoutSeconds * uploadAndSendHttpCalls) u64Max * 2) u64Max + 30) u64Max

/-- The seconds make a duration, and the sum or the replacement for it is a date. -/
structure LeaseFits (now : Time) (leaseSeconds : Nat) : Prop where
  seconds : leaseSeconds ≤ i64Max / 1000
  date : now + (max leaseSeconds 1 : Nat) * nanosPerSecond < utcEnd ∨
    now + 365000 * 86400 * nanosPerSecond < utcEnd

/-- No claim of a delivery panics, whatever the ledger holds. -/
structure LedgerClaims (now : Time) (leaseSeconds : Nat) : Prop where
  item : ∀ token records request, request.leaseSeconds = leaseSeconds →
    claimDeliveryItem now token request records ≠ .error .panicked
  materialization : ∀ token deliveryKey itemKey owner records,
    claimDeliveryMaterialization now token deliveryKey itemKey owner leaseSeconds records ≠
      .error .panicked

/-- No claim of an inbound message panics, whatever the inbox holds. -/
def InboundClaims (now : Time) (leaseSeconds : Nat) : Prop :=
  ∀ (host : Host) (world : WeixinWorld) (choice : WeixinChoice) (account : WeixinAccount)
    (owner : String), choice.now = now → choice.token ∉ world.issued →
      world.claimItem host choice account owner leaseSeconds ≠ none

theorem deliveryClaimExpiry_eq_some {now : Time} {leaseSeconds : Nat} :
    (∃ expiry, deliveryClaimExpiry now leaseSeconds = some expiry) ↔ LeaseFits now leaseSeconds := by
  have limit : 1 ≤ i64Max / 1000 := by decide
  have whole : i64Max / 1000 ≤ i64Max := by decide
  simp only [deliveryClaimExpiry]
  by_cases long : i64Max / 1000 < min (max leaseSeconds 1) i64Max
  · rw [if_pos long]
    refine iff_of_false (by simp) fun fits => ?_
    have seconds := fits.seconds
    omega
  · rw [if_neg long]
    have seconds : leaseSeconds ≤ i64Max / 1000 := by omega
    have same : min (max leaseSeconds 1) i64Max = max leaseSeconds 1 := by omega
    rw [same]
    constructor
    · intro some_
      refine ⟨seconds, ?_⟩
      by_contra never
      obtain ⟨sum, days⟩ := not_or.mp never
      rw [if_neg sum, if_neg days] at some_
      simp at some_
    · intro fits
      by_cases sum : now + (max leaseSeconds 1 : Nat) * nanosPerSecond < utcEnd
      · exact ⟨_, if_pos sum⟩
      · rw [if_neg sum]
        exact ⟨_, if_pos (fits.date.resolve_left sum)⟩

theorem deliveryClaimExpiry_later {now expiry : Time} {leaseSeconds : Nat}
    (found : deliveryClaimExpiry now leaseSeconds = some expiry) : now < expiry := by
  simp only [deliveryClaimExpiry] at found
  split at found
  · simp at found
  · split at found
    · obtain rfl := Option.some.inj found
      have positive : 1 ≤ min (max leaseSeconds 1) i64Max := by
        have limit : 1 ≤ i64Max := by decide
        omega
      have ahead : (0 : Int) < (min (max leaseSeconds 1) i64Max : Nat) * nanosPerSecond :=
        Int.mul_pos (by omega) (by decide)
      exact Int.lt_add_of_pos_right now ahead
    · split at found
      · obtain rfl := Option.some.inj found
        exact Int.lt_add_of_pos_right now (by decide)
      · simp at found

theorem deliveryClaimExpiresAt_ne_none {now : Time} {leaseSeconds : Nat} :
    deliveryClaimExpiresAt now leaseSeconds ≠ none ↔ LeaseFits now leaseSeconds := by
  rw [← deliveryClaimExpiry_eq_some, deliveryClaimExpiresAt, Option.ne_none_iff_exists']
  constructor
  · rintro ⟨lease, printed⟩
    obtain ⟨expiry, found, -⟩ := Option.map_eq_some_iff.mp printed
    exact ⟨expiry, found⟩
  · rintro ⟨expiry, found⟩
    exact ⟨_, by rw [found]; rfl⟩

/-- The saturation never hides that a lease is too long. -/
theorem deliveryClaimLeaseSeconds_fits (timeoutSeconds : Nat) :
    deliveryClaimLeaseSeconds timeoutSeconds ≤ i64Max / 1000 ↔
      10 * timeoutSeconds + 30 ≤ i64Max / 1000 := by
  simp only [deliveryClaimLeaseSeconds, cdnUploadMaxRetries, u64Max, i64Max]
  omega

/-! ## The claims -/

theorem bail_not_panicked {α : Type} (text : String) :
    Result.FailsOnly (· ≠ StoreError.panicked) (bail text : StoreResult α) :=
  Result.FailsOnly.error (by simp)

theorem leaseIsUnexpired_not_panicked (label : String) (now : Time) (updatedAt : Stamp)
    (lease : LeaseField) :
    Result.FailsOnly (· ≠ StoreError.panicked) (leaseIsUnexpired label now updatedAt lease) := by
  simp only [leaseIsUnexpired]
  split
  · exact bail_not_panicked _
  · exact bail_not_panicked _
  · split
    · exact .ok _
    · exact .ok _
    · exact bail_not_panicked _
    · exact bail_not_panicked _

theorem claimDeliveryItem_not_panicked {now : Time} {request : DeliveryItemClaimRequest}
    (token : Uuid) (records : Ledger) (fits : LeaseFits now request.leaseSeconds) :
    Result.FailsOnly (· ≠ StoreError.panicked) (claimDeliveryItem now token request records) := by
  obtain ⟨lease, expiry⟩ := Option.ne_none_iff_exists'.mp (deliveryClaimExpiresAt_ne_none.mpr fits)
  simp only [claimDeliveryItem, expiry]
  split
  · exact bail_not_panicked _
  · split
    · exact bail_not_panicked _
    · refine .bind ?_ fun item _ => ?_
      · rw [bindFingerprint]
        split
        · split
          · exact .ok _
          · exact bail_not_panicked _
        · exact .ok _
      · split
        · exact .ok _
        · split
          · exact .ok _
          · refine .bind ?_ fun busy _ => ?_
            · rw [claimIsBusy]
              split
              · exact leaseIsUnexpired_not_panicked _ _ _ _
              · exact .ok _
            · split <;> exact .ok _

theorem claimDeliveryMaterialization_not_panicked {now : Time} {leaseSeconds : Nat} (token : Uuid)
    (deliveryKey itemKey owner : String) (records : Ledger) (fits : LeaseFits now leaseSeconds) :
    Result.FailsOnly (· ≠ StoreError.panicked)
      (claimDeliveryMaterialization now token deliveryKey itemKey owner leaseSeconds records) := by
  obtain ⟨lease, expiry⟩ := Option.ne_none_iff_exists'.mp (deliveryClaimExpiresAt_ne_none.mpr fits)
  simp only [claimDeliveryMaterialization, expiry]
  refine .bind ?_ fun found _ => ?_
  · rw [locateMaterialization]
    refine .bind ?_ fun located _ => ?_
    · rw [locateItem]
      split
      · exact bail_not_panicked _
      · split
        · exact bail_not_panicked _
        · exact .ok _
    · obtain ⟨record, item⟩ := located
      dsimp only
      split
      · exact bail_not_panicked _
      · exact .ok _
  · split
    · exact .ok _
    · split
      · exact .ok _
      · split
        · exact .ok _
        · refine .bind ?_ fun busy _ => ?_
          · rw [materializationIsBusy]
            split
            · exact leaseIsUnexpired_not_panicked _ _ _ _
            · exact .ok _
          · split <;> exact .ok _

def longClaim (leaseSeconds : Nat) : DeliveryItemClaimRequest where
  deliveryKey := "delivery"
  requestFingerprint := "fingerprint"
  itemKey := "item"
  artifactId := "artifact"
  kind := "text"
  owner := "gate"
  cachePath := none
  leaseSeconds := leaseSeconds

theorem ledgerClaims_iff {now : Time} {leaseSeconds : Nat} :
    LedgerClaims now leaseSeconds ↔ LeaseFits now leaseSeconds := by
  constructor
  · intro claims
    rw [← deliveryClaimExpiresAt_ne_none]
    intro never
    have expiry : deliveryClaimExpiresAt now (longClaim leaseSeconds).leaseSeconds = none := never
    refine claims.item ⟨0⟩ ∅ (longClaim leaseSeconds) rfl ?_
    simp only [claimDeliveryItem, expiry]
    rfl
  · intro fits
    constructor
    · rintro token records request rfl failed
      exact claimDeliveryItem_not_panicked token records fits _ failed rfl
    · intro token deliveryKey itemKey owner records failed
      exact claimDeliveryMaterialization_not_panicked token deliveryKey itemKey owner records fits _
        failed rfl

def waitingItem : InboxItem :=
  newInboxItem plainHost 0 "wxinbox_first/m1" .null

def waitingWorld (now : Time) : WeixinWorld where
  now := now
  issued := []
  disk := saveInbox plainHost boundDisk "first" ((∅ : Inbox).insert waitingItem.inboxId waitingItem)
  account := firstAccount

theorem waitingWorld_candidate (now : Time) :
    claimCandidate now (loadInbox plainHost (waitingWorld now).disk "first") =
      some (waitingItem.inboxId, waitingItem) :=
  rfl

theorem inboundClaims_iff {now : Time} {leaseSeconds : Nat} :
    InboundClaims now leaseSeconds ↔ LeaseFits now leaseSeconds := by
  constructor
  · intro claims
    rw [← deliveryClaimExpiresAt_ne_none]
    intro never
    refine claims plainHost (waitingWorld now) { polledChoice with now } firstAccount "owner" rfl
      (by simp [waitingWorld]) ?_
    have candidate : claimCandidate now
        (loadInbox plainHost (waitingWorld now).disk firstAccount.accountId) =
        some (waitingItem.inboxId, waitingItem) := waitingWorld_candidate now
    have current : (waitingWorld now).accountIsCurrent firstAccount = true := rfl
    rw [WeixinWorld.claimItem, if_pos current]
    simp only [candidate, never]
    simp [waitingWorld]
  · intro fits host world choice account owner clock fresh
    obtain ⟨lease, expiry⟩ := Option.ne_none_iff_exists'.mp (deliveryClaimExpiresAt_ne_none.mpr fits)
    rw [← clock] at expiry
    rw [WeixinWorld.claimItem]
    split
    · dsimp only
      split
      · simp
      · simp [expiry]
    · simp

/-- Claims with the configured timeout, and claims of inbound messages with any lease, end without a
panic exactly if the seconds fit into a duration and the expiry, or the day a thousand years from
now that stands in for it, into a date; an expiry lies after its claim. -/
theorem lease_arithmetic_is_total_iff (now : Time) (timeoutSeconds leaseSeconds : Nat) :
    (LedgerClaims now (deliveryClaimLeaseSeconds timeoutSeconds) ↔
      10 * timeoutSeconds + 30 ≤ i64Max / 1000 ∧
        LeaseFits now (deliveryClaimLeaseSeconds timeoutSeconds)) ∧
    (InboundClaims now leaseSeconds ↔ LeaseFits now leaseSeconds) ∧
    ∀ seconds expiry, deliveryClaimExpiry now seconds = some expiry → now < expiry := by
  refine ⟨?_, inboundClaims_iff, fun _ _ => deliveryClaimExpiry_later⟩
  rw [ledgerClaims_iff]
  constructor
  · exact fun fits => ⟨(deliveryClaimLeaseSeconds_fits timeoutSeconds).mp fits.seconds, fits⟩
  · exact And.right

/-- With the greatest timeout a claim made at the epoch panics. -/
theorem greatest_timeout_panics :
    claimDeliveryItem 0 ⟨0⟩ (longClaim (deliveryClaimLeaseSeconds u64Max)) ∅ = .error .panicked := by
  rfl

end Weixin

end HarborGate
