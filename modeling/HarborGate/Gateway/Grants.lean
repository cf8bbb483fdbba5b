import Mathlib.Data.List.Pairwise
import HarborGate.Gateway.Effects

/-!
The item claims granted along a run. Their tokens are pairwise different, a call only acts under
a claim it was granted, and the ledger names the claim granted last.
-/

namespace HarborGate

open Interleave

/-- The runs of calls bound to contracts, with only the phases of the programs kept. -/
abbrev DeliveryRun (digests : Digests) (host : FleetHost) (contract : Call → Contract)
    (permitted : (gatewayMachine digests host).Move → Prop) :
    World → World → List (Call × Phase) → List (gatewayMachine digests host).Event → Prop :=
  @Machine.Phased Op Ans Phase (gatewayMachine digests host)
    (fun call => deliveryProtocol (contract call)) (fun _ => Phase.idle) permitted

section

variable {step : LedgerStep} {deliveryKey itemKey : String} {item moved : LedgerItem}
  {token : Uuid}

@[simp] theorem setStage_claimToken (item : LedgerItem) (stage : Stage) (value : StageRecord) :
    (item.setStage stage value).claimToken = item.claimToken := by
  cases stage <;> rfl

/-- Only a claim of the item changes its token. -/
theorem ItemMove.claimToken (move : ItemMove step deliveryKey itemKey item moved) :
    moved.claimToken = item.claimToken ∨ ∃ drawn request, step.op = .claimItem drawn request ∧
      request.deliveryKey = deliveryKey ∧ request.itemKey = itemKey := by
  cases move with
  | keep | plan _ | claimMaterialization _ _ _ _ _ _ _ | finishMaterialization _ _ _ _ _ _
  | finishItem _ _ _ _ => exact Or.inl rfl
  | claim drawn request lease operation addressed _ _ _ _ =>
      exact Or.inr ⟨drawn, request, operation, addressed⟩
  | recordUpload upload _ _ _ => exact Or.inl (by simp [LedgerItem.recordUpload])
  | finishStage completion _ _ _ => exact Or.inl (by simp [LedgerItem.finishStage])
  | reconcile ttl operation => exact Or.inl (reconcileItem_frame step.now ttl item).claimToken

theorem ItemMove.claimToken_ne_none (move : ItemMove step deliveryKey itemKey item moved)
    (claimed : item.claimToken ≠ none) : moved.claimToken ≠ none := by
  cases move with
  | keep | plan _ | claimMaterialization _ _ _ _ _ _ _ | finishMaterialization _ _ _ _ _ _
  | finishItem _ _ _ _ => exact claimed
  | claim drawn request lease _ _ _ _ _ _ => simp [LedgerItem.claim]
  | recordUpload upload _ _ _ => simpa [LedgerItem.recordUpload] using claimed
  | finishStage completion _ _ _ => simpa [LedgerItem.finishStage] using claimed
  | reconcile ttl _ => rwa [(reconcileItem_frame step.now ttl item).claimToken]

theorem ItemEffect.claimToken {before : Option LedgerItem}
    (effect : ItemEffect step deliveryKey itemKey before (some moved))
    (held : moved.claimToken = some token)
    (unclaimed : ∀ token request, step.op ≠ .claimItem token request) :
    ∃ item, before = some item ∧ item.claimToken = some token := by
  cases effect with
  | born birth =>
      cases birth with
      | plan fingerprint outbound items planned operation first =>
          simp [LedgerItem.plan, planSource, newItem] at held
      | claim drawn request lease operation _ => exact absurd operation (unclaimed drawn request)
  | moved move =>
      rename_i item
      rcases move.claimToken with same | ⟨drawn, request, operation, -⟩
      · exact ⟨item, rfl, same.symm.trans held⟩
      · exact absurd operation (unclaimed drawn request)

end

section

variable {host : FleetHost} {world after : World} {op : Op} {choice : Choice} {answer : Ans op}
  {deliveryKey itemKey : String} {item : LedgerItem} {token : Uuid}

theorem LedgerEffect.silent_grant (silent : op.commits answer = false) :
    op.grant? answer = none := by
  cases op with
  | claimDeliveryItem request =>
      cases answer with
      | ok claim => simp [Op.commits] at silent
      | error error => rfl
  | _ => rfl

/-- A token in the ledger was just granted, or it was there before and the step granted nothing
on this item. -/
theorem LedgerEffect.claimToken (effect : LedgerEffect world after choice op answer)
    (present : after.ledger.item? deliveryKey itemKey = some item)
    (held : item.claimToken = some token) :
    op.grant? answer = some (deliveryKey, itemKey, token) ∨
      (∃ old, world.ledger.item? deliveryKey itemKey = some old ∧ old.claimToken = some token) ∧
        ∀ other, op.grant? answer ≠ some (deliveryKey, itemKey, other) := by
  have unchanged : (∀ request, op ≠ .claimDeliveryItem request) →
      ∃ old, world.ledger.item? deliveryKey itemKey = some old ∧ old.claimToken = some token := by
    intro otherOp
    rcases effect.applied with same | ⟨-, ledgerOp, operation, applied⟩
    · exact ⟨item, by rw [← same, present], held⟩
    · have moved := LedgerStep.apply_effect ⟨choice.now, ledgerOp⟩ world.ledger deliveryKey itemKey
      rw [← applied, present] at moved
      refine moved.claimToken held fun drawn request claims => ?_
      obtain rfl : ledgerOp = .claimItem drawn request := claims
      exact otherOp request (Op.ledgerOp_claimItem operation).2
  cases effect with
  | still same silent =>
      rw [same] at present
      exact Or.inr ⟨⟨item, present, held⟩, by simp [LedgerEffect.silent_grant silent]⟩
  | persistPlan ok | claimMaterialization ok | finishMaterialization ok | recordUpload ok
  | finishStage ok | finishItem ok =>
      exact Or.inr ⟨unchanged (by simp), by simp [Op.grant?]⟩
  | claimItem fresh issued ok =>
      rename_i request claim
      obtain ⟨-, source, -, outcome⟩ := claimDeliveryItem_ok ok
      cases claim with
      | succeeded _ | terminalFailed _ | busy _ =>
          rw [outcome.2.1] at present
          exact Or.inr ⟨⟨item, present, held⟩, by simp [Op.grant?]⟩
      | claimed drawn changed previous =>
          obtain ⟨rfl, -, -, -, -, -, lease, -, rfl, sets⟩ := outcome
          by_cases here : deliveryKey = request.deliveryKey ∧ itemKey = request.itemKey
          · obtain ⟨rfl, rfl⟩ := here
            rw [sets.self] at present
            obtain rfl := Option.some.inj present
            exact Or.inl (by simpa [Op.grant?, LedgerItem.claim] using held)
          · rw [sets.frame here] at present
            refine Or.inr ⟨⟨item, present, held⟩, fun other granted => here ?_⟩
            simp only [Op.grant?, Option.some.injEq, Prod.mk.injEq] at granted
            exact ⟨granted.1.symm, granted.2.1.symm⟩

end

/-- What a granted claim leaves in the ledger. -/
theorem LedgerEffect.grants (effect : LedgerEffect world after choice op answer)
    (granted : op.grant? answer = some (deliveryKey, itemKey, token)) :
    ∃ request source lease, op = .claimDeliveryItem request ∧ request.deliveryKey = deliveryKey ∧
      request.itemKey = itemKey ∧ token = choice.token ∧
      deliveryClaimExpiresAt choice.now request.leaseSeconds = some lease ∧
      after.ledger.item? deliveryKey itemKey =
        some (LedgerItem.claim choice.now token request lease source) := by
  cases effect with
  | still same silent => simp [LedgerEffect.silent_grant silent] at granted
  | persistPlan ok | claimMaterialization ok | finishMaterialization ok | recordUpload ok
  | finishStage ok | finishItem ok => simp [Op.grant?] at granted
  | claimItem fresh issued ok =>
      rename_i request claim
      obtain ⟨-, source, -, outcome⟩ := claimDeliveryItem_ok ok
      cases claim with
      | succeeded _ | terminalFailed _ | busy _ => simp [Op.grant?] at granted
      | claimed drawn changed previous =>
          obtain ⟨rfl, -, -, -, -, -, lease, expiry, rfl, sets⟩ := outcome
          simp only [Op.grant?, Option.some.injEq, Prod.mk.injEq] at granted
          obtain ⟨rfl, rfl, rfl⟩ := granted
          exact ⟨request, _, lease, rfl, rfl, rfl, rfl, expiry, sets.self⟩

theorem LedgerEffect.grants_mark (effect : LedgerEffect world after choice op answer)
    (granted : op.grant? answer = some (deliveryKey, itemKey, token)) :
    ∃ item, after.ledger.item? deliveryKey itemKey = some item ∧ item.claimToken ≠ none := by
  obtain ⟨request, source, lease, -, -, -, -, -, present⟩ := effect.grants granted
  exact ⟨_, present, by simp [LedgerItem.claim]⟩

/-! ## The grants of a run -/

section

variable {digests : Digests} {host : FleetHost}

def grantOf (event : (gatewayMachine digests host).Event) : Option (String × String × Uuid) :=
  event.op.grant? event.answer

/-- The tokens granted for one item, in the order of the run. -/
def grantsOn (trace : List (gatewayMachine digests host).Event) (deliveryKey itemKey : String) :
    List Uuid :=
  (trace.filterMap grantOf).filterMap fun (key, name, token) =>
    if key = deliveryKey ∧ name = itemKey then some token else none

theorem grantsOn_append (early late : List (gatewayMachine digests host).Event)
    (deliveryKey itemKey : String) :
    grantsOn (early ++ late) deliveryKey itemKey =
      grantsOn early deliveryKey itemKey ++ grantsOn late deliveryKey itemKey := by
  simp only [grantsOn, List.filterMap_append]

theorem grantsOn_concat (trace : List (gatewayMachine digests host).Event)
    (event : (gatewayMachine digests host).Event) (deliveryKey itemKey : String) :
    (∃ token, grantOf event = some (deliveryKey, itemKey, token) ∧
      grantsOn (trace ++ [event]) deliveryKey itemKey =
        grantsOn trace deliveryKey itemKey ++ [token]) ∨
    (∀ token, grantOf event ≠ some (deliveryKey, itemKey, token)) ∧
      grantsOn (trace ++ [event]) deliveryKey itemKey = grantsOn trace deliveryKey itemKey := by
  cases granted : grantOf event with
  | none => exact Or.inr ⟨by simp, by simp [grantsOn, granted]⟩
  | some claim =>
      obtain ⟨key, name, token⟩ := claim
      by_cases here : key = deliveryKey ∧ name = itemKey
      · obtain ⟨rfl, rfl⟩ := here
        exact Or.inl ⟨token, rfl, by simp [grantsOn, granted]⟩
      · refine Or.inr ⟨fun other same => here ?_, by simp [grantsOn, granted, here]⟩
        simp only [Option.some.injEq, Prod.mk.injEq] at same
        exact ⟨same.1, same.2.1⟩

/-- What is true of the claims granted so far. -/
structure GrantsKept (world : World) (trace : List (gatewayMachine digests host).Event) : Prop where
  issued : ∀ event ∈ trace, ∀ deliveryKey itemKey token,
    grantOf event = some (deliveryKey, itemKey, token) → token ∈ world.issued
  distinct : trace.Pairwise fun first second => ∀ d i d' i' token,
    grantOf first = some (d, i, token) → grantOf second ≠ some (d', i', token)
  current : ∀ deliveryKey itemKey item token,
    world.ledger.item? deliveryKey itemKey = some item → item.claimToken = some token →
    (grantsOn trace deliveryKey itemKey).getLast? = some token
  marked : ∀ event ∈ trace, ∀ deliveryKey itemKey token,
    grantOf event = some (deliveryKey, itemKey, token) →
    ∃ item, world.ledger.item? deliveryKey itemKey = some item ∧ item.claimToken ≠ none

/-- The claim a call acts under was granted to it. -/
def Granted (trace : List (gatewayMachine digests host).Event) (task : Nat) (phase : Phase) : Prop :=
  ∀ plan itemKey token, phase.claim? = some (plan, itemKey, token) →
    ∃ event ∈ trace, event.task = task ∧ grantOf event = some (plan.deliveryKey, itemKey, token)

variable {contract : Call → Contract} {permitted : (gatewayMachine digests host).Move → Prop}
  {origin world : World} {phases : List (Call × Phase)}
  {trace : List (gatewayMachine digests host).Event}

theorem GrantsKept.step {after : World} {op : Op} {choice : Choice} {answer : Ans op} {task : Nat}
    (kept : GrantsKept world trace)
    (performed : World.perform host world op choice = some (answer, after)) :
    GrantsKept after (trace ++ [⟨task, op, answer, world, after⟩]) := by
  have effect := World.perform_effect performed
  constructor
  · intro event member deliveryKey itemKey token granted
    rcases List.mem_append.mp member with old | new
    · exact World.perform_issued performed (kept.issued event old _ _ _ granted)
    · obtain rfl := List.mem_singleton.mp new
      exact (effect.granted granted).2
  · rw [List.pairwise_append]
    refine ⟨kept.distinct, List.pairwise_singleton _ _, ?_⟩
    intro first member second new d i d' i' token granted again
    obtain rfl := List.mem_singleton.mp new
    exact (effect.granted again).1 (kept.issued first member _ _ _ granted)
  · intro deliveryKey itemKey item token present held
    have appended := grantsOn_concat trace ⟨task, op, answer, world, after⟩ deliveryKey itemKey
    rcases effect.claimToken present held with granted | ⟨⟨old, found, heldBefore⟩, ungranted⟩
    · rcases appended with ⟨other, same, list⟩ | ⟨different, -⟩
      · obtain rfl : other = token := by
          simp only [grantOf, granted, Option.some.injEq, Prod.mk.injEq] at same
          exact same.2.2.symm
        rw [list, List.getLast?_concat]
      · exact absurd granted (different token)
    · rcases appended with ⟨other, same, -⟩ | ⟨-, list⟩
      · exact absurd same (ungranted other)
      · rw [list]
        exact kept.current deliveryKey itemKey old token found heldBefore
  · intro event member deliveryKey itemKey token granted
    rcases List.mem_append.mp member with old | new
    · obtain ⟨item, present, claimed⟩ := kept.marked event old _ _ _ granted
      obtain ⟨step, moved, found, move, -⟩ := effect.moves present
      exact ⟨moved, found, move.claimToken_ne_none claimed⟩
    · obtain rfl := List.mem_singleton.mp new
      exact effect.grants_mark granted

theorem GrantsKept.outside (kept : GrantsKept world trace) (event : OutsideMove) :
    GrantsKept (event.apply host world) trace := by
  constructor
  · cases event <;> exact kept.issued
  · exact kept.distinct
  · intro deliveryKey itemKey moved token present held
    obtain ⟨item, found, frame⟩ := event.item_before present
    exact kept.current deliveryKey itemKey item token found (frame.claimToken.symm.trans held)
  · intro earlier member deliveryKey itemKey token granted
    obtain ⟨item, present, claimed⟩ := kept.marked earlier member _ _ _ granted
    obtain ⟨moved, found, frame⟩ := event.item_after present
    exact ⟨moved, found, by rwa [frame.claimToken]⟩

theorem Granted.later {task : Nat} {phase : Phase} (granted : Granted trace task phase)
    (event : (gatewayMachine digests host).Event) : Granted (trace ++ [event]) task phase := by
  intro plan itemKey token held
  obtain ⟨grant, member, own, same⟩ := granted plan itemKey token held
  exact ⟨grant, List.mem_append_left _ member, own, same⟩

theorem DeliveryRun.grants
    (run : DeliveryRun digests host contract permitted origin world phases trace)
    (empty : origin.ledger = ∅) :
    GrantsKept world trace ∧
      ∀ task call phase, phases[task]? = some (call, phase) → Granted trace task phase := by
  refine Machine.Phased.maintains GrantsKept
    (fun _ trace task _ phase => Granted trace task phase) ?boot ?start ?step ?outside run
  case boot => exact ⟨by simp, .nil, by simp [empty, Ledger.item?], by simp⟩
  case start =>
    intro world phases trace call _ _ _ plan itemKey token held
    simp [Phase.claim?] at held
  case step =>
    intro world after phases trace task call phase op choice answer _ each holder allowed _
      performed kept
    refine ⟨kept.step performed, ?_, fun other started otherPhase _ _ old => old.later _⟩
    intro plan itemKey token held
    rcases Phase.next_claim held with same | ⟨planned, deliveryKey, granted⟩
    · exact (each task call phase holder).later _ plan itemKey token same
    · obtain rfl := allowed.grant_key planned granted
      exact ⟨_, List.mem_append_right _ (List.mem_singleton.mpr rfl), rfl, granted⟩
  case outside =>
    intro world trace event _ kept
    exact ⟨kept.outside event, fun _ _ _ same => same⟩

/-- A token is granted once. -/
theorem GrantsKept.granted_once {first second : (gatewayMachine digests host).Event}
    {d i d' i' : String} {token : Uuid} (kept : GrantsKept world trace) (member : first ∈ trace)
    (otherMember : second ∈ trace) (granted : grantOf first = some (d, i, token))
    (again : grantOf second = some (d', i', token)) : first = second := by
  by_contra different
  have symmetric : Std.Symm fun earlier later : (gatewayMachine digests host).Event =>
      ∀ d i d' i' token, grantOf earlier = some (d, i, token) →
        grantOf later ≠ some (d', i', token) :=
    ⟨fun _ _ apart d i d' i' token granted same => apart d' i' d i token same granted⟩
  exact kept.distinct.forall member otherMember different _ _ _ _ token granted again

/-- Two calls never act under the same claim. -/
theorem GrantsKept.holder_unique {first second : Nat} {phase other : Phase} {plan otherPlan : Plan}
    {itemKey otherKey : String} {token : Uuid} (kept : GrantsKept world trace)
    (granted : Granted trace first phase) (otherGranted : Granted trace second other)
    (held : phase.claim? = some (plan, itemKey, token))
    (otherHeld : other.claim? = some (otherPlan, otherKey, token)) : first = second := by
  obtain ⟨event, member, rfl, grant⟩ := granted plan itemKey token held
  obtain ⟨otherEvent, otherMember, rfl, otherGrant⟩ := otherGranted otherPlan otherKey token otherHeld
  rw [kept.granted_once member otherMember grant otherGrant]

/-- A token in the ledger was granted for the item that carries it. -/
theorem GrantsKept.source {deliveryKey itemKey : String} {item : LedgerItem} {token : Uuid}
    (kept : GrantsKept world trace)
    (present : world.ledger.item? deliveryKey itemKey = some item)
    (held : item.claimToken = some token) :
    ∃ event ∈ trace, grantOf event = some (deliveryKey, itemKey, token) := by
  have last := List.mem_of_getLast? (kept.current deliveryKey itemKey item token present held)
  simp only [grantsOn, List.mem_filterMap, Prod.exists, Option.ite_none_right_eq_some] at last
  obtain ⟨key, name, other, ⟨event, member, granted⟩, ⟨rfl, rfl⟩, same⟩ := last
  obtain rfl := Option.some.inj same
  exact ⟨event, member, granted⟩

end

end HarborGate
