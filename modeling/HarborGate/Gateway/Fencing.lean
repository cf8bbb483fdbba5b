import HarborGate.Gateway.Items
import HarborGate.Gateway.Settled

/-!
Item claims as fences. However deliveries interleave and wherever they stop, an item changes
hands only when its claim is finished or its lease has run out, and the old token is then good
for nothing.
-/

namespace HarborGate

open Interleave

/-! ## Leases -/

section

variable {step : LedgerStep} {deliveryKey itemKey : String} {item moved granted : LedgerItem}
  {token : Uuid} {now later : Time}

theorem deliveryClaimExpiresAt_ne_absent {leaseSeconds : Nat} {lease : LeaseField}
    (expiry : deliveryClaimExpiresAt now leaseSeconds = some lease) : lease ≠ .absent := by
  have written : ∀ instant, rfc3339Lease instant ≠ .absent := by
    intro instant
    simp only [rfc3339Lease]
    split <;> simp
  obtain ⟨instant, -, rfl⟩ := Option.map_eq_some_iff.mp expiry
  exact written instant

/-- A claim as `claim_delivery_item` writes it: with a time stamp and an expiry of its own. -/
structure Leased (item : LedgerItem) : Prop where
  stamped : ∃ instant, item.updatedAt = .at instant
  lease : item.claimExpiresAt ≠ .absent

theorem Leased.claim {request : DeliveryItemClaimRequest} {lease : LeaseField}
    (expiry : deliveryClaimExpiresAt now request.leaseSeconds = some lease) :
    Leased (LedgerItem.claim now token request lease item) :=
  ⟨⟨_, rfl⟩, deliveryClaimExpiresAt_ne_absent expiry⟩

/-- Whether a lease has run out depends on the expiry alone. -/
theorem Leased.unexpired_eq (leased : Leased item) (other : Leased moved)
    (same : moved.claimExpiresAt = item.claimExpiresAt) :
    deliveryClaimIsUnexpired now moved = deliveryClaimIsUnexpired now item := by
  obtain ⟨instant, stamped⟩ := leased.stamped
  obtain ⟨otherInstant, otherStamped⟩ := other.stamped
  simp only [deliveryClaimIsUnexpired, leaseIsUnexpired, stamped, otherStamped, same]
  cases lease : item.claimExpiresAt with
  | absent => exact absurd lease leased.lease
  | null | malformed | «at» _ => rfl

/-- A lease that has run out stays so. -/
theorem lease_stays_expired (expired : deliveryClaimIsUnexpired now item = .ok false)
    (forward : now ≤ later) : deliveryClaimIsUnexpired later item = .ok false := by
  simp only [deliveryClaimIsUnexpired, leaseIsUnexpired] at expired ⊢
  split at expired
  · simp [bail] at expired
  · simp [bail] at expired
  · split at expired
    · simp only [Except.ok.injEq, decide_eq_false_iff_not, Int.not_lt] at expired ⊢
      exact Int.le_trans expired forward
    · simp only [Except.ok.injEq, decide_eq_false_iff_not, Int.not_lt] at expired ⊢
      exact Int.le_trans expired forward
    · simp [bail] at expired
    · simp [bail] at expired

/-- The item as its claim left it, as far as the claim is concerned. -/
structure LiveClaim (granted item : LedgerItem) (token : Uuid) : Prop where
  sending : item.status = .sending
  holder : item.claimToken = some token
  lease : item.claimExpiresAt = granted.claimExpiresAt
  stamped : ∃ instant, item.updatedAt = .at instant

theorem LiveClaim.leased (live : LiveClaim granted item token) (leased : Leased granted) :
    Leased item :=
  ⟨live.stamped, by rw [live.lease]; exact leased.lease⟩

/-- A live claim ends only with its lease or with `finish_delivery_item`. -/
theorem LiveClaim.moves (live : LiveClaim granted item token) (settled : item.Settled)
    (move : ItemMove step deliveryKey itemKey item moved) :
    LiveClaim granted moved token ∨
      deliveryClaimIsUnexpired step.now item = .ok false ∨
      (∃ completion, step.op = .finishItem completion ∧ completion.claimToken = token ∧
        moved.status = completion.status) ∨
      ∃ ttl, step.op = .reconcileCache ttl := by
  cases move with
  | keep | plan _ | claimMaterialization _ _ _ _ _ _ _ =>
      exact Or.inl ⟨live.sending, live.holder, live.lease, live.stamped⟩
  | finishMaterialization completion nested _ _ present active =>
      obtain ⟨ended, found, status⟩ := settled
      obtain rfl := Option.some.inj (found.symm.trans present)
      have running := (requireActiveNestedClaim_ok active).1
      simp [running] at status
  | claim drawn request lease _ _ _ _ lapsed _ => exact Or.inr (Or.inl (lapsed live.sending))
  | recordUpload upload _ _ _ =>
      refine Or.inl ⟨?_, ?_, ?_, _, rfl⟩
      · cases stage : upload.stage <;>
          simpa [LedgerItem.recordUpload, LedgerItem.setStage, stage] using live.sending
      · simpa [LedgerItem.recordUpload] using live.holder
      · cases stage : upload.stage <;>
          simpa [LedgerItem.recordUpload, LedgerItem.setStage, stage] using live.lease
  | finishStage completion _ _ _ =>
      cases stage : completion.stage <;>
        simpa [LedgerItem.finishStage, LedgerItem.setStage, stage] using
          Or.inl ⟨live.sending, live.holder, live.lease, live.stamped⟩
  | finishItem completion operation _ active =>
      refine Or.inr (Or.inr (Or.inl ⟨completion, operation, ?_, rfl⟩))
      exact Option.some.inj (active.holder.symm.trans live.holder)
  | reconcile ttl operation => exact Or.inr (Or.inr (Or.inr ⟨ttl, operation⟩))

end

/-! ## What fencing means for a run -/

/-- The token of an operation that needs an item claim. -/
def Op.fence? : Op → Option Uuid
  | .recordDeliveryItemUpload upload => some upload.claimToken
  | .finishDeliveryStage completion => some completion.claimToken
  | .finishDeliveryItem completion => some completion.claimToken
  | _ => none

/-- The token under which an item was finished. -/
def Op.finished? : (op : Op) → Ans op → Option Uuid
  | .finishDeliveryItem completion, .ok _ => some completion.claimToken
  | _, _ => none

section

variable {digests : Digests} {host : FleetHost}

def finishedBy (event : (gatewayMachine digests host).Event) : Option Uuid :=
  event.op.finished? event.answer

/-- The store returned an error and wrote nothing. -/
def Refused (event : (gatewayMachine digests host).Event) : Prop :=
  event.op.commits event.answer = false ∧ event.after.ledger = event.before.ledger

/-- An item is granted again only after its earlier claim was finished or ran out. -/
def GrantsInTurn (earlier : List (gatewayMachine digests host).Event)
    (event : (gatewayMachine digests host).Event) : Prop :=
  ∀ before first between deliveryKey itemKey token later,
    earlier = before ++ first :: between →
    grantOf first = some (deliveryKey, itemKey, token) →
    grantOf event = some (deliveryKey, itemKey, later) →
    (∃ done ∈ between, finishedBy done = some token) ∨
      ∃ granted, first.after.ledger.item? deliveryKey itemKey = some granted ∧
        deliveryClaimIsUnexpired event.after.now granted = .ok false

/-- Once an item was granted again, nothing can be done with the earlier token. -/
def StaleTokenRefused (earlier : List (gatewayMachine digests host).Event)
    (event : (gatewayMachine digests host).Event) : Prop :=
  ∀ before first between second deliveryKey itemKey token later,
    earlier = before ++ first :: between →
    grantOf first = some (deliveryKey, itemKey, token) → second ∈ between →
    grantOf second = some (deliveryKey, itemKey, later) →
    event.op.fence? = some token → Refused event

/-- Once an item was granted, its materialization can no longer be finished. -/
def MaterializationRefused (earlier : List (gatewayMachine digests host).Event)
    (event : (gatewayMachine digests host).Event) : Prop :=
  ∀ completion first token, event.op = .finishDeliveryMaterialization completion →
    first ∈ earlier → grantOf first = some (completion.deliveryKey, completion.itemKey, token) →
    Refused event

/-- A claim is finished once. -/
def FinishedOnce (earlier : List (gatewayMachine digests host).Event)
    (event : (gatewayMachine digests host).Event) : Prop :=
  ∀ token done, finishedBy event = some token → done ∈ earlier → finishedBy done ≠ some token

/-! ## The invariant -/

/-- What has become of the claims granted so far. -/
def ClaimsFollowed (world : World) (trace : List (gatewayMachine digests host).Event) : Prop :=
  ∀ before first between deliveryKey itemKey token, trace = before ++ first :: between →
    grantOf first = some (deliveryKey, itemKey, token) →
    ∃ granted, first.after.ledger.item? deliveryKey itemKey = some granted ∧ Leased granted ∧
      ((∃ done ∈ between, finishedBy done = some token) ∨
        deliveryClaimIsUnexpired world.now granted = .ok false ∨
        ∃ item, world.ledger.item? deliveryKey itemKey = some item ∧
          LiveClaim granted item token)

/-- No item is left sending under a claim that was finished. -/
def FinishedClosed (world : World) (trace : List (gatewayMachine digests host).Event) : Prop :=
  ∀ done ∈ trace, ∀ token, finishedBy done = some token → token ∈ world.issued ∧
    ∀ deliveryKey itemKey item, world.ledger.item? deliveryKey itemKey = some item →
      item.claimToken = some token → item.status ≠ .sending

variable {required : String → String → String → Prop} {world after : World} {contract : Contract}
  {phase : Phase} {op : Op} {choice : Choice} {answer : Ans op} {task : Nat}
  {trace : List (gatewayMachine digests host).Event}

theorem finishedBy_of_commits {completion : DeliveryItemCompletion}
    (finishes : op = .finishDeliveryItem completion) (commits : op.commits answer = true) :
    finishedBy (⟨task, op, answer, world, after⟩ : (gatewayMachine digests host).Event) =
      some completion.claimToken := by
  subst finishes
  cases answer with
  | ok path => rfl
  | error error => simp [Op.commits] at commits

theorem ClaimsFollowed.step (followed : ClaimsFollowed world trace)
    (sound : LedgerSound required world.ledger)
    (effect : LedgerEffect world after choice op answer)
    (clock : world.now ≤ choice.now ∧ after.now = choice.now) :
    ClaimsFollowed after
      (trace ++ [(⟨task, op, answer, world, after⟩ : (gatewayMachine digests host).Event)]) := by
  intro before first between deliveryKey itemKey token split granted
  rcases Machine.concat_eq_split split with ⟨rfl, rfl, rfl⟩ | ⟨rest, rfl, rfl⟩
  · obtain ⟨request, source, lease, -, -, -, -, expiry, present⟩ := effect.grants granted
    exact ⟨_, present, .claim expiry, Or.inr (Or.inr ⟨_, present, rfl, rfl, rfl, _, rfl⟩)⟩
  · obtain ⟨left, found, leased, state⟩ :=
      followed before first rest deliveryKey itemKey token rfl granted
    refine ⟨left, found, leased, ?_⟩
    rcases state with ⟨done, member, finished⟩ | expired | ⟨item, present, live⟩
    · exact Or.inl ⟨done, List.mem_append_left _ member, finished⟩
    · rw [clock.2]
      exact Or.inr (Or.inl (lease_stays_expired expired clock.1))
    · obtain ⟨step, moved, foundAfter, move, moves⟩ := effect.moves present
      have settled := (sound _ _ _ present).claimed (by simp [live.holder])
      rcases moves with rfl | cause
      · exact Or.inr (Or.inr ⟨moved, foundAfter, live⟩)
      rcases live.moves settled move with stays | lapsed | ⟨completion, finishes, same, -⟩ |
        ⟨ttl, reconciles⟩
      · exact Or.inr (Or.inr ⟨moved, foundAfter, stays⟩)
      · rw [clock.2, ← leased.unexpired_eq (live.leased leased) live.lease, ← cause.now]
        exact Or.inr (Or.inl lapsed)
      · have isFinish := Op.ledgerOp_finishItem (finishes ▸ cause.operation)
        refine Or.inl ⟨_, List.mem_append_right _ (List.mem_singleton.mpr rfl), ?_⟩
        rw [finishedBy_of_commits isFinish cause.commits, same]
      · exact absurd (reconciles ▸ cause.operation) (Op.ledgerOp_ne_reconcile ttl)

/-- A claim taken over was no longer live. -/
theorem LedgerEffect.grant_lapsed {deliveryKey itemKey : String} {item : LedgerItem} {token : Uuid}
    (effect : LedgerEffect world after choice op answer)
    (granted : op.grant? answer = some (deliveryKey, itemKey, token))
    (present : world.ledger.item? deliveryKey itemKey = some item)
    (sending : item.status = .sending) : deliveryClaimIsUnexpired choice.now item = .ok false := by
  cases effect with
  | still same silent => simp [LedgerEffect.silent_grant silent] at granted
  | persistPlan ok | claimMaterialization ok | finishMaterialization ok | recordUpload ok
  | finishStage ok | finishItem ok => simp [Op.grant?] at granted
  | claimItem fresh issued ok =>
      rename_i request claim
      obtain ⟨-, source, origin, outcome⟩ := claimDeliveryItem_ok ok
      cases claim with
      | succeeded _ | terminalFailed _ | busy _ => simp [Op.grant?] at granted
      | claimed drawn changed previous =>
          simp only [Op.grant?, Option.some.injEq, Prod.mk.injEq] at granted
          obtain ⟨rfl, rfl, -⟩ := granted
          rcases origin with found | ⟨absent, -⟩
          · obtain rfl := Option.some.inj (found.symm.trans present)
            exact outcome.2.2.2.2.1 sending
          · simp [absent] at present

theorem ClaimsFollowed.inTurn (followed : ClaimsFollowed world trace)
    (effect : LedgerEffect world after choice op answer)
    (clock : world.now ≤ choice.now ∧ after.now = choice.now) :
    GrantsInTurn trace
      (⟨task, op, answer, world, after⟩ : (gatewayMachine digests host).Event) := by
  intro before first between deliveryKey itemKey token later split granted again
  obtain ⟨left, found, leased, state⟩ :=
    followed before first between deliveryKey itemKey token split granted
  rcases state with finished | expired | ⟨item, present, live⟩
  · exact Or.inl finished
  · refine Or.inr ⟨left, found, ?_⟩
    show deliveryClaimIsUnexpired after.now left = _
    rw [clock.2]
    exact lease_stays_expired expired clock.1
  · refine Or.inr ⟨left, found, ?_⟩
    show deliveryClaimIsUnexpired after.now left = _
    rw [clock.2, ← leased.unexpired_eq (live.leased leased) live.lease]
    exact effect.grant_lapsed again present live.sending

/-! ## Stale tokens -/

/-- A token whose item was granted again is in the ledger no more. -/
theorem GrantsKept.superseded {before between : List (gatewayMachine digests host).Event}
    {first second : (gatewayMachine digests host).Event} {d i d' i' : String} {item : LedgerItem}
    {token later : Uuid} (kept : GrantsKept world trace) (split : trace = before ++ first :: between)
    (granted : grantOf first = some (d, i, token)) (member : second ∈ between)
    (again : grantOf second = some (d, i, later))
    (present : world.ledger.item? d' i' = some item) : item.claimToken ≠ some token := by
  intro held
  have inTrace : first ∈ trace := by simp [split]
  obtain ⟨event, eventMember, source⟩ := kept.source present held
  obtain rfl := kept.granted_once inTrace eventMember granted source
  obtain ⟨rfl, rfl⟩ : d = d' ∧ i = i' := by
    simp only [granted, Option.some.injEq, Prod.mk.injEq] at source
    exact ⟨source.1, source.2.1⟩
  have last := kept.current d i item token present held
  have listed : later ∈ grantsOn between d i := by
    simp only [grantsOn, List.mem_filterMap, Prod.exists]
    exact ⟨d, i, later, ⟨second, member, again⟩, by simp⟩
  -- The last grant on the item lies behind the first one, so it carries another token.
  have parts : grantsOn trace d i = grantsOn (before ++ [first]) d i ++ grantsOn between d i := by
    rw [split, ← grantsOn_append, List.append_assoc, List.singleton_append]
  rw [parts, List.getLast?_append_of_ne_nil _ (List.ne_nil_of_mem listed)] at last
  have repeated := List.mem_of_getLast? last
  simp only [grantsOn, List.mem_filterMap, Prod.exists, Option.ite_none_right_eq_some] at repeated
  obtain ⟨key, name, other, ⟨twice, twiceMember, twiceGranted⟩, -, same⟩ := repeated
  obtain rfl := Option.some.inj same
  have apart := List.pairwise_append.mp (split ▸ kept.distinct)
  exact (List.pairwise_cons.mp apart.2.1).1 twice twiceMember _ _ _ _ other granted twiceGranted

/-- An operation that a token let through found that token on its item. -/
theorem LedgerEffect.fence {token : Uuid} (effect : LedgerEffect world after choice op answer)
    (fenced : op.fence? = some token) (commits : op.commits answer = true) :
    ∃ deliveryKey itemKey item, world.ledger.item? deliveryKey itemKey = some item ∧
      item.status = .sending ∧ item.claimToken = some token := by
  cases effect with
  | still same silent => simp [commits] at silent
  | persistPlan ok | claimMaterialization ok | finishMaterialization ok | claimItem _ _ ok =>
      simp [Op.fence?] at fenced
  | recordUpload ok =>
      obtain ⟨item, use⟩ := recordDeliveryItemUpload_ok ok
      obtain rfl : _ = token := Option.some.inj fenced
      exact ⟨_, _, item, use.present, use.active.sending, use.active.holder⟩
  | finishStage ok =>
      obtain ⟨item, use⟩ := finishDeliveryStage_ok ok
      obtain rfl : _ = token := Option.some.inj fenced
      exact ⟨_, _, item, use.present, use.active.sending, use.active.holder⟩
  | finishItem ok =>
      obtain ⟨item, use⟩ := finishDeliveryItem_ok ok
      obtain rfl : _ = token := Option.some.inj fenced
      exact ⟨_, _, item, use.present, use.active.sending, use.active.holder⟩

theorem LedgerEffect.refused (effect : LedgerEffect world after choice op answer)
    (silent : op.commits answer = false) :
    Refused (⟨task, op, answer, world, after⟩ : (gatewayMachine digests host).Event) := by
  refine ⟨silent, ?_⟩
  rcases effect.applied with same | ⟨commits, -⟩
  · exact same
  · simp [silent] at commits

theorem GrantsKept.staleRefused (kept : GrantsKept world trace)
    (effect : LedgerEffect world after choice op answer) :
    StaleTokenRefused trace
      (⟨task, op, answer, world, after⟩ : (gatewayMachine digests host).Event) := by
  intro before first between second deliveryKey itemKey token later split granted member again fenced
  cases commits : op.commits answer with
  | false => exact effect.refused commits
  | true =>
      obtain ⟨d, i, item, present, -, held⟩ := effect.fence fenced commits
      exact absurd held (kept.superseded split granted member again present)

theorem LedgerSound.materializationRefused (sound : LedgerSound required world.ledger)
    (kept : GrantsKept world trace) (effect : LedgerEffect world after choice op answer) :
    MaterializationRefused trace
      (⟨task, op, answer, world, after⟩ : (gatewayMachine digests host).Event) := by
  intro completion first token finishes member granted
  obtain rfl : op = .finishDeliveryMaterialization completion := finishes
  cases commits : Op.commits _ answer with
  | false => exact effect.refused commits
  | true =>
      cases effect with
      | still same silent => simp [commits] at silent
      | finishMaterialization ok =>
          obtain ⟨item, materialization, found, present, running, -⟩ :=
            finishDeliveryMaterialization_ok ok
          obtain ⟨stored, storedAt, claimed⟩ := kept.marked first member _ _ _ granted
          obtain rfl := Option.some.inj (storedAt.symm.trans found)
          obtain ⟨ended, same, status⟩ := (sound _ _ _ found).claimed claimed
          obtain rfl := Option.some.inj (same.symm.trans present)
          simp [running] at status

/-! ## Finished claims -/

theorem ItemMove.sending {step : LedgerStep} {deliveryKey itemKey : String}
    {item moved : LedgerItem} (move : ItemMove step deliveryKey itemKey item moved)
    (sending : moved.status = .sending) :
    item.status = .sending ∨ ∃ drawn request, step.op = .claimItem drawn request ∧
      moved.claimToken = some drawn := by
  cases move with
  | keep | plan _ | claimMaterialization _ _ _ _ _ _ _ => exact Or.inl sending
  | finishMaterialization completion nested _ _ _ _ =>
      simp only [LedgerItem.finishMaterialization] at sending
      split at sending <;> simp at sending
  | claim drawn request lease operation _ _ _ _ _ => exact Or.inr ⟨drawn, request, operation, rfl⟩
  | recordUpload upload _ _ active => exact Or.inl active.sending
  | finishStage completion _ _ active => exact Or.inl active.sending
  | finishItem completion _ _ active => exact Or.inl active.sending
  | reconcile ttl _ =>
      rcases (reconcileItem_frame step.now ttl item).status with same | expired
      · exact Or.inl (same.symm.trans sending)
      · simp [expired] at sending

theorem LedgerEffect.claim_fresh {request : DeliveryItemClaimRequest}
    (effect : LedgerEffect world after choice op answer) (claims : op = .claimDeliveryItem request)
    (commits : op.commits answer = true) : choice.token ∉ world.issued := by
  subst claims
  cases effect with
  | still same silent => simp [commits] at silent
  | claimItem fresh issued ok => exact fresh

theorem FinishedClosed.kept_closed {deliveryKey itemKey : String} {item : LedgerItem} {token : Uuid}
    (effect : LedgerEffect world after choice op answer) (issued : token ∈ world.issued)
    (closed : ∀ d i item, world.ledger.item? d i = some item → item.claimToken = some token →
      item.status ≠ .sending)
    (present : after.ledger.item? deliveryKey itemKey = some item)
    (held : item.claimToken = some token) : item.status ≠ .sending := by
  intro sending
  rcases effect.claimToken present held with granted | ⟨⟨old, found, heldBefore⟩, -⟩
  · exact (effect.granted granted).1 issued
  · obtain ⟨step, moved, foundAfter, move, moves⟩ := effect.moves found
    obtain rfl := Option.some.inj (foundAfter.symm.trans present)
    have idle := closed deliveryKey itemKey old found heldBefore
    rcases moves with rfl | cause
    · exact idle sending
    · rcases move.sending sending with before | ⟨drawn, request, claims, drawnToken⟩
      · exact idle before
      · obtain ⟨rfl, isClaim⟩ := Op.ledgerOp_claimItem (claims ▸ cause.operation)
        obtain rfl := Option.some.inj (drawnToken.symm.trans held)
        exact effect.claim_fresh isClaim cause.commits issued

theorem FinishedClosed.step (closed : FinishedClosed world trace) (kept : GrantsKept world trace)
    (allowed : Allowed contract phase op)
    (performed : World.perform host world op choice = some (answer, after)) :
    FinishedClosed after
      (trace ++ [(⟨task, op, answer, world, after⟩ : (gatewayMachine digests host).Event)]) := by
  have effect := World.perform_effect performed
  intro done member token finished
  rcases List.mem_append.mp member with old | new
  · obtain ⟨issued, idle⟩ := closed done old token finished
    exact ⟨World.perform_issued performed issued,
      fun d i item present held => FinishedClosed.kept_closed effect issued idle present held⟩
  · obtain rfl := List.mem_singleton.mp new
    cases op with
    | finishDeliveryItem completion =>
        cases effect with
        | still same silent =>
            cases answer with
            | ok path => simp [Op.commits] at silent
            | error error => simp [finishedBy, Op.finished?] at finished
        | finishItem ok =>
            rename_i path
            obtain rfl : completion.claimToken = token := Option.some.inj finished
            obtain ⟨item, use⟩ := finishDeliveryItem_ok ok
            obtain ⟨grant, grantMember, source⟩ := kept.source use.present use.active.holder
            refine ⟨World.perform_issued performed (kept.issued grant grantMember _ _ _ source), ?_⟩
            intro d i stored present held
            by_cases here : d = completion.deliveryKey ∧ i = completion.itemKey
            · rw [here.1, here.2, use.sets.self] at present
              obtain rfl := Option.some.inj present
              cases allowed with
              | neutral harmless => simp [Op.isNeutral] at harmless
              | itemSucceeded _ status _ => simp [LedgerItem.finish, status]
              | itemFailed _ _ status _ => simp [LedgerItem.finish, status]
            · rw [use.sets.frame here] at present
              obtain ⟨other, otherMember, otherSource⟩ := kept.source present held
              obtain rfl := kept.granted_once grantMember otherMember source otherSource
              simp only [source, Option.some.injEq, Prod.mk.injEq] at otherSource
              exact absurd ⟨otherSource.1.symm, otherSource.2.1.symm⟩ here
    | _ => simp [finishedBy, Op.finished?] at finished

theorem FinishedClosed.finishedOnce (closed : FinishedClosed world trace)
    (effect : LedgerEffect world after choice op answer) :
    FinishedOnce trace
      (⟨task, op, answer, world, after⟩ : (gatewayMachine digests host).Event) := by
  intro token done finished member before
  cases op with
  | finishDeliveryItem completion =>
      cases answer with
      | ok path =>
          obtain rfl : completion.claimToken = token := Option.some.inj finished
          obtain ⟨d, i, item, present, sending, held⟩ := effect.fence rfl rfl
          exact (closed done member _ before).2 d i item present held sending
      | error error => simp [finishedBy, Op.finished?] at finished
  | _ => simp [finishedBy, Op.finished?] at finished

/-! ## Runs -/

structure ClaimsFenced (trace : List (gatewayMachine digests host).Event) : Prop where
  inTurn : Machine.EachStep GrantsInTurn trace
  stale : Machine.EachStep StaleTokenRefused trace
  materialization : Machine.EachStep MaterializationRefused trace
  once : Machine.EachStep FinishedOnce trace

theorem DeliveryRun.claimsFenced {contract : Call → Contract}
    {permitted : (gatewayMachine digests host).Move → Prop} {origin : World}
    {phases : List (Call × Phase)}
    (run : DeliveryRun digests host contract permitted origin world phases trace)
    (empty : origin.ledger = ∅)
    (plans : ∀ call plan, (contract call).plan plan → plan.Consistent required)
    (closed : ∀ event, ¬permitted (.outside event)) : ClaimsFenced trace := by
  have maintained := Machine.Phased.maintains
    (fun (world : World) trace => ClaimsFollowed world trace ∧ FinishedClosed world trace ∧
      ClaimsFenced trace) (fun _ _ _ _ _ => True) ?boot ?start ?step ?outside run
  · exact maintained.1.2.2
  case boot =>
    refine ⟨fun before first between _ _ _ same => ?_, by simp [FinishedClosed],
      .nil, .nil, .nil, .nil⟩
    simp at same
  case start => exact fun _ _ _ _ _ _ _ => trivial
  case step =>
    rintro world after phases trace task call phase op choice answer run - holder allowed -
      performed ⟨followed, finished, fenced⟩
    have effect := World.perform_effect performed
    have clock := (World.perform_evolves performed).clock
    have kept := (DeliveryRun.grants run empty).1
    have sound := (DeliveryRun.sound run empty plans).1
    refine ⟨⟨followed.step sound effect clock, finished.step kept allowed performed, ?_⟩,
      trivial, fun _ _ _ _ _ _ => trivial⟩
    exact ⟨fenced.inTurn.concat (followed.inTurn effect clock),
      fenced.stale.concat (kept.staleRefused effect),
      fenced.materialization.concat (sound.materializationRefused kept effect),
      fenced.once.concat (finished.finishedOnce effect)⟩
  case outside => exact fun world trace event allowed => absurd allowed (closed event)

/-- Every call of the run is a delivery through this adapter, and nothing else moves the store. -/
def DeliversThrough (adapter : Adapter) : (gatewayMachine digests host).Move → Prop
  | .start (.deliver _ used _ _ _) => used = adapter
  | .start _ => False
  | .step _ _ => True
  | .outside _ => False

/-- A fingerprint stands for one message: its callers compute it from the payload that text and
attachments are taken from. -/
def FingerprintsIdentify (moves : List (gatewayMachine digests host).Move) : Prop :=
  ∀ gateway other adapter used outbound message deliveryKey fingerprint,
    .start (.deliver gateway adapter outbound deliveryKey fingerprint) ∈ moves →
    .start (.deliver other used message deliveryKey fingerprint) ∈ moves →
    outbound.text = message.text ∧ outbound.attachments = message.attachments

/-- The plans that the deliveries of a run make. -/
def deliveryContract (moves : List (gatewayMachine digests host).Move) (adapter : Adapter)
    (call : Call) : Contract where
  key _ := True
  plan plan := ∃ gateway outbound deliveryKey fingerprint items,
    call = .deliver gateway adapter outbound deliveryKey fingerprint ∧ .start call ∈ moves ∧
    splitOutboundItems outbound = .ok items ∧
    plan = ⟨deliveryKey, fingerprint, items.map (planItem adapter deliveryKey)⟩
  answer _ _ := True
  direct := True
  possible _ _ := True

/-- The items that some delivery of the run marks for materialization. -/
def RequiresIn (moves : List (gatewayMachine digests host).Move) (adapter : Adapter)
    (deliveryKey fingerprint itemKey : String) : Prop :=
  ∃ gateway outbound items item,
    .start (.deliver gateway adapter outbound deliveryKey fingerprint) ∈ moves ∧
    splitOutboundItems outbound = .ok items ∧ item ∈ items ∧
    deliveryItemKey deliveryKey item.identity = itemKey ∧
    deliveryItemRequiresMaterialization adapter.name item.outbound = true

theorem deliveryItemRequiresMaterialization_congr (adapterName : String)
    {first second : OutboundMessage} (same : first.attachments = second.attachments) :
    deliveryItemRequiresMaterialization adapterName first =
      deliveryItemRequiresMaterialization adapterName second := by
  simp only [deliveryItemRequiresMaterialization, same]

theorem deliveryContract_consistent {moves : List (gatewayMachine digests host).Move}
    {adapter : Adapter} {call : Call} {plan : Plan} (identified : FingerprintsIdentify moves)
    (own : (deliveryContract moves adapter call).plan plan) :
    plan.Consistent (RequiresIn moves adapter) := by
  obtain ⟨gateway, outbound, deliveryKey, fingerprint, items, rfl, started, split, rfl⟩ := own
  intro planned member
  obtain ⟨item, itemMember, rfl⟩ := List.mem_map.mp member
  constructor
  · intro marked
    exact ⟨gateway, outbound, items, item, started, split, itemMember, rfl, marked⟩
  · rintro ⟨other, message, others, twin, otherStarted, otherSplit, twinMember, key, marked⟩
    obtain ⟨text, attachments⟩ :=
      identified gateway other adapter adapter outbound message _ _ started otherStarted
    have identity := deliveryItemKey_injective key
    have same := splitOutboundItems_attachments text attachments split otherSplit itemMember
      twinMember identity.symm
    exact (deliveryItemRequiresMaterialization_congr adapter.name same).trans marked

theorem item_claims_are_fenced (adapter : Adapter) (routes : Std.TreeMap String Json)
    (directory : Directory) (moves : List (gatewayMachine digests host).Move)
    (last : (gatewayMachine digests host).System)
    (through : ∀ move ∈ moves, DeliversThrough adapter move)
    (identified : FingerprintsIdentify moves)
    (played : (Machine.System.boot (World.initial routes directory)).play moves = some last) :
    ClaimsFenced last.trace := by
  have steady : @Machine.Steady Op Ans Phase (gatewayMachine digests host)
      (fun call => deliveryProtocol (deliveryContract moves adapter call)) (· ∈ moves)
      (fun _ => True) :=
    ⟨fun _ _ _ _ _ _ _ => ⟨trivial, fun _ => trivial⟩, fun _ _ _ _ => trivial⟩
  have follows : ∀ call, Machine.Move.start call ∈ moves →
      (call.program digests).Follows
        (deliveryProtocol (deliveryContract moves adapter call)) .idle fun _ _ => True := by
    intro call started
    cases call with
    | deliver gateway used outbound deliveryKey fingerprint =>
        obtain rfl : used = adapter := through _ started
        have own : ∀ items, splitOutboundItems outbound = .ok items →
            (deliveryContract moves used
              (.deliver gateway used outbound deliveryKey fingerprint)).plan
              ⟨deliveryKey, fingerprint, items.map (planItem used deliveryKey)⟩ :=
          fun items split => ⟨gateway, outbound, deliveryKey, fingerprint, items, rfl, started,
            split, rfl⟩
        exact (deliverOutboundItemsGuarded_follows gateway _ used outbound deliveryKey fingerprint
          rfl own (fun _ => trivial)).mono fun _ _ _ => trivial
    | notify _ _ _ => exact (through _ started).elim
    | recover _ => exact (through _ started).elim
  obtain ⟨phases, phased, -⟩ := Machine.play_phased_boot steady follows (fun _ member => member)
    trivial played
  have run : DeliveryRun digests host (deliveryContract moves adapter) (· ∈ moves)
      (World.initial routes directory) last.world phases last.trace := phased
  exact run.claimsFenced rfl (fun call plan own => deliveryContract_consistent identified own)
    fun event member => (through _ member).elim

end

/-- A delivery stops after its claim; when the lease has run out another instance delivers, and
the first one wakes up and reports. -/
def takeoverRun : List (gatewayMachine plainDigests offlineHost).Move :=
  .start turnDelivery :: List.replicate 4 (.step 0 (smoothChoice 0 ⟨1⟩)) ++
    .start (.deliver { textGateway with instanceId := "other" } webhookAdapter turnReply "turn"
      "fingerprint") :: List.replicate 6 (.step 1 (smoothChoice (3600 * nanosPerSecond) ⟨2⟩)) ++
    [.step 0 (smoothChoice (3601 * nanosPerSecond) ⟨3⟩)]

theorem takeover_is_fenced :
    ∃ last, (Machine.System.boot (World.initial ∅ ∅)).play takeoverRun = some last ∧
      ClaimsFenced last.trace := by
  have plays : ((Machine.System.boot (World.initial ∅ ∅)).play takeoverRun).isSome = true := by
    decide
  obtain ⟨last, played⟩ := Option.isSome_iff_exists.mp plays
  refine ⟨last, played, item_claims_are_fenced webhookAdapter ∅ ∅ takeoverRun last ?_ ?_ played⟩
  · intro move member
    simp only [takeoverRun, List.mem_append, List.mem_cons, List.mem_replicate, List.not_mem_nil,
      or_false] at member
    rcases member with ((rfl | ⟨-, rfl⟩) | rfl | ⟨-, rfl⟩) | rfl <;> simp [DeliversThrough, turnDelivery]
  · intro gateway other adapter used outbound message deliveryKey fingerprint started again
    have sent : ∀ gateway adapter outbound,
        .start (.deliver gateway adapter outbound deliveryKey fingerprint) ∈ takeoverRun →
        outbound = turnReply := by
      intro gateway adapter outbound member
      simp only [takeoverRun, turnDelivery, List.mem_append, List.mem_cons, List.mem_replicate,
        List.not_mem_nil, or_false, Machine.Move.start.injEq, Call.deliver.injEq, reduceCtorEq,
        and_false] at member
      rcases member with same | same
      · exact same.2.2.1
      · exact same.2.2.1
    rw [sent _ _ _ started, sent _ _ _ again]
    exact ⟨rfl, rfl⟩

end HarborGate
