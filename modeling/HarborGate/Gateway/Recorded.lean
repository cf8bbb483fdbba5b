import HarborGate.Gateway.Grants

/-!
A stage of an item that the ledger holds as succeeded, and the sends that come after it. The
success is written to the stage first and to the item later; in between only the claim says that
the item was sent.
-/

namespace HarborGate

open Interleave

/-- Some stage of the item has been sent and the ledger knows. -/
def LedgerItem.Recorded (item : LedgerItem) : Prop :=
  ∃ stage record, item.stage stage = some record ∧ record.status = .succeeded

def Ledger.Recorded (records : Ledger) (deliveryKey itemKey : String) : Prop :=
  ∃ item, records.item? deliveryKey itemKey = some item ∧ item.Recorded

theorem LedgerItem.recorded_iff {item : LedgerItem} :
    item.Recorded ↔ item.native.any (·.status = .succeeded) = true ∨
      item.fallback.any (·.status = .succeeded) = true := by
  simp only [LedgerItem.Recorded, Option.any_eq_true, decide_eq_true_eq]
  constructor
  · rintro ⟨stage, record, found, status⟩
    cases stage with
    | native => exact Or.inl ⟨record, found, status⟩
    | fallback => exact Or.inr ⟨record, found, status⟩
  · rintro (⟨record, found, status⟩ | ⟨record, found, status⟩)
    · exact ⟨.native, record, found, status⟩
    · exact ⟨.fallback, record, found, status⟩

instance (item : LedgerItem) : Decidable item.Recorded :=
  decidable_of_iff _ LedgerItem.recorded_iff.symm

instance (records : Ledger) (deliveryKey itemKey : String) :
    Decidable (records.Recorded deliveryKey itemKey) :=
  decidable_of_iff (∃ item ∈ records.item? deliveryKey itemKey, item.Recorded) Iff.rfl

section

variable {step : LedgerStep} {deliveryKey itemKey : String} {item moved : LedgerItem}

theorem LedgerItem.Recorded.congr (recorded : item.Recorded) (native : moved.native = item.native)
    (fallback : moved.fallback = item.fallback) : moved.Recorded := by
  obtain ⟨stage, record, found, status⟩ := recorded
  cases stage with
  | native => exact ⟨.native, record, native.trans found, status⟩
  | fallback => exact ⟨.fallback, record, fallback.trans found, status⟩

/-- Writing a stage records the item if the new stage succeeded, and keeps the other stage. -/
theorem setStage_recorded {stage : Stage} {value : StageRecord} :
    (item.setStage stage value).Recorded ↔
      value.status = .succeeded ∨ ∃ other record, other ≠ stage ∧ item.stage other = some record ∧
        record.status = .succeeded := by
  constructor
  · rintro ⟨other, record, found, status⟩
    by_cases same : other = stage
    · subst same
      have written : (item.setStage other value).stage other = some value := by
        cases other <;> rfl
      rw [written] at found
      exact Or.inl (Option.some.inj found ▸ status)
    · have kept : (item.setStage stage value).stage other = item.stage other := by
        cases other <;> cases stage <;> first | rfl | exact absurd rfl same
      exact Or.inr ⟨other, record, same, kept.symm.trans found, status⟩
  · rintro (status | ⟨other, record, different, found, status⟩)
    · exact ⟨stage, value, by cases stage <;> rfl, status⟩
    · refine ⟨other, record, ?_, status⟩
      rw [← found]
      cases other <;> cases stage <;> first | rfl | exact absurd rfl different

/-- An item becomes recorded only by the success of a stage under the item's own claim. -/
theorem ItemMove.recorded (move : ItemMove step deliveryKey itemKey item moved)
    (recorded : moved.Recorded) :
    item.Recorded ∨ ∃ completion, step.op = .finishStage completion ∧
      completion.status = .succeeded ∧ completion.deliveryKey = deliveryKey ∧
      completion.itemKey = itemKey ∧ item.claimToken = some completion.claimToken := by
  cases move with
  | keep | plan _ | claimMaterialization _ _ _ _ _ _ _ | finishMaterialization _ _ _ _ _ _
  | claim _ _ _ _ _ _ _ _ _ | finishItem _ _ _ _ => exact Or.inl (recorded.congr rfl rfl)
  | reconcile ttl operation =>
      have frame := reconcileItem_frame step.now ttl item
      exact Or.inl (recorded.congr frame.native.symm frame.fallback.symm)
  | recordUpload upload operation addressed active =>
      have staged : (item.setStage upload.stage
          { (item.stage upload.stage).getD (deliveryStageValue step.now) with
            status := .prepared
            providerMediaId := some upload.providerMediaId
            providerMediaState := upload.providerMediaState
            providerClientId := upload.providerClientId
            updatedAt := utcNowIso step.now }).Recorded := recorded.congr rfl rfl
      rcases setStage_recorded.mp staged with status | ⟨other, record, -, found, status⟩
      · simp at status
      · exact Or.inl ⟨other, record, found, status⟩
  | finishStage completion operation addressed active =>
      rcases setStage_recorded.mp recorded with status | ⟨other, record, -, found, status⟩
      · exact Or.inr ⟨completion, operation, status, addressed.1, addressed.2, active.holder⟩
      · exact Or.inl ⟨other, record, found, status⟩

/-- A recorded item stays recorded unless its own claim is used to write a stage again. -/
theorem ItemMove.recorded_kept (move : ItemMove step deliveryKey itemKey item moved)
    (recorded : item.Recorded) :
    moved.Recorded ∨
      (∃ upload, step.op = .recordUpload upload ∧ upload.deliveryKey = deliveryKey ∧
        upload.itemKey = itemKey ∧ item.claimToken = some upload.claimToken) ∨
      ∃ completion, step.op = .finishStage completion ∧ completion.status ≠ .succeeded ∧
        completion.deliveryKey = deliveryKey ∧ completion.itemKey = itemKey ∧
        item.claimToken = some completion.claimToken := by
  cases move with
  | keep | plan _ | claimMaterialization _ _ _ _ _ _ _ | finishMaterialization _ _ _ _ _ _
  | claim _ _ _ _ _ _ _ _ _ | finishItem _ _ _ _ => exact Or.inl (recorded.congr rfl rfl)
  | reconcile ttl operation =>
      have frame := reconcileItem_frame step.now ttl item
      exact Or.inl (recorded.congr frame.native frame.fallback)
  | recordUpload upload operation addressed active =>
      exact Or.inr (Or.inl ⟨upload, operation, addressed.1, addressed.2, active.holder⟩)
  | finishStage completion operation addressed active =>
      by_cases status : completion.status = .succeeded
      · exact Or.inl (setStage_recorded.mpr (Or.inl status))
      · exact Or.inr (Or.inr
          ⟨completion, operation, status, addressed.1, addressed.2, active.holder⟩)

theorem ItemBirth.not_recorded (birth : ItemBirth step deliveryKey itemKey item) :
    ¬item.Recorded := by
  rintro ⟨stage, record, found, status⟩
  cases birth <;> cases stage <;>
    simp [LedgerItem.stage, LedgerItem.plan, LedgerItem.claim, planSource, newItem] at found <;>
    simp [← found, deliveryStageValue] at status

end

/-! ## Steps of a run -/

section

variable {host : FleetHost} {world after : World} {op : Op} {choice : Choice} {answer : Ans op}
  {deliveryKey itemKey : String}

/-- The stage success that makes an item recorded, with the claim it was reported under. -/
def RecordsStage (world : World) (op : Op) (deliveryKey itemKey : String) : Prop :=
  ∃ completion item, op = .finishDeliveryStage completion ∧ completion.status = .succeeded ∧
    completion.deliveryKey = deliveryKey ∧ completion.itemKey = itemKey ∧
    world.ledger.item? deliveryKey itemKey = some item ∧
    item.claimToken = some completion.claimToken

/-- A write that would take a stage success back, with the claim it is made under. -/
def RewritesStage (world : World) (op : Op) (deliveryKey itemKey : String) : Prop :=
  ∃ item, world.ledger.item? deliveryKey itemKey = some item ∧ item.Recorded ∧
    ((∃ upload, op = .recordDeliveryItemUpload upload ∧ upload.deliveryKey = deliveryKey ∧
      upload.itemKey = itemKey ∧ item.claimToken = some upload.claimToken) ∨
    ∃ completion, op = .finishDeliveryStage completion ∧ completion.status ≠ .succeeded ∧
      completion.deliveryKey = deliveryKey ∧ completion.itemKey = itemKey ∧
      item.claimToken = some completion.claimToken)

theorem LedgerEffect.recorded (effect : LedgerEffect world after choice op answer)
    (recorded : after.ledger.Recorded deliveryKey itemKey) :
    world.ledger.Recorded deliveryKey itemKey ∨ RecordsStage world op deliveryKey itemKey := by
  obtain ⟨moved, present, stage⟩ := recorded
  rcases effect.applied with same | ⟨-, ledgerOp, operation, applied⟩
  · exact Or.inl ⟨moved, by rw [← same, present], stage⟩
  · have change := LedgerStep.apply_effect ⟨choice.now, ledgerOp⟩ world.ledger deliveryKey itemKey
    rw [← applied, present] at change
    generalize before : world.ledger.item? deliveryKey itemKey = entry at change
    cases change with
    | born birth => exact absurd stage birth.not_recorded
    | moved move =>
        rename_i item
        rcases move.recorded stage with old | ⟨completion, finishes, status, key, name, held⟩
        · exact Or.inl ⟨item, before, old⟩
        · obtain rfl : ledgerOp = .finishStage completion := finishes
          exact Or.inr ⟨completion, item, Op.ledgerOp_finishStage operation, status, key, name,
            before, held⟩

theorem LedgerEffect.recorded_kept (effect : LedgerEffect world after choice op answer)
    (recorded : world.ledger.Recorded deliveryKey itemKey) :
    after.ledger.Recorded deliveryKey itemKey ∨ RewritesStage world op deliveryKey itemKey := by
  obtain ⟨item, present, stage⟩ := recorded
  rcases effect.applied with same | ⟨-, ledgerOp, operation, applied⟩
  · exact Or.inl ⟨item, by rw [same, present], stage⟩
  · obtain ⟨moved, found, move⟩ := LedgerStep.apply_moves ⟨choice.now, ledgerOp⟩ present
    rcases move.recorded_kept stage with kept | ⟨upload, uploads, key, name, held⟩ |
      ⟨completion, finishes, status, key, name, held⟩
    · exact Or.inl ⟨moved, by rw [applied, found], kept⟩
    · obtain rfl : ledgerOp = .recordUpload upload := uploads
      exact Or.inr ⟨item, present, stage,
        Or.inl ⟨upload, Op.ledgerOp_recordUpload operation, key, name, held⟩⟩
    · obtain rfl : ledgerOp = .finishStage completion := finishes
      exact Or.inr ⟨item, present, stage,
        Or.inr ⟨completion, Op.ledgerOp_finishStage operation, status, key, name, held⟩⟩

/-- A call that reports a stage success has left the phase in which it may send. -/
theorem RecordsStage.holder {contract : Contract} {phase : Phase}
    (records : RecordsStage world op deliveryKey itemKey) (allowed : Allowed contract phase op) :
    ∃ plan response token item, phase = .sent plan itemKey token response ∧
      plan.deliveryKey = deliveryKey ∧ world.ledger.item? deliveryKey itemKey = some item ∧
      item.claimToken = some token := by
  obtain ⟨completion, item, rfl, status, rfl, rfl, present, held⟩ := records
  cases allowed with
  | neutral harmless => simp [Op.isNeutral] at harmless
  | stageSucceeded addresses succeeded =>
      rename_i plan itemKey token response
      exact ⟨plan, response, token, item, by rw [addresses.item], addresses.delivery.symm, present,
        by rw [held, addresses.claim]⟩
  | stageFailed addresses failed => exact absurd status failed

/-- A call that writes a stage otherwise is in the phase in which it may still send. -/
theorem RewritesStage.holder {contract : Contract} {phase : Phase}
    (rewrites : RewritesStage world op deliveryKey itemKey) (allowed : Allowed contract phase op) :
    ∃ plan token item, phase = .claimed plan itemKey token ∧ plan.deliveryKey = deliveryKey ∧
      world.ledger.item? deliveryKey itemKey = some item ∧ item.claimToken = some token ∧
      item.Recorded := by
  obtain ⟨item, present, recorded, ⟨upload, rfl, rfl, rfl, held⟩ |
    ⟨completion, rfl, status, rfl, rfl, held⟩⟩ := rewrites
  · cases allowed with
    | neutral harmless => simp [Op.isNeutral] at harmless
    | upload addresses =>
        rename_i plan itemKey token
        exact ⟨plan, token, item, by rw [addresses.item], addresses.delivery.symm, present,
          by rw [held, addresses.claim], recorded⟩
  · cases allowed with
    | neutral harmless => simp [Op.isNeutral] at harmless
    | stageSucceeded addresses succeeded => exact absurd succeeded status
    | stageFailed addresses failed =>
        rename_i plan itemKey token
        exact ⟨plan, token, item, by rw [addresses.item], addresses.delivery.symm, present,
          by rw [held, addresses.claim], recorded⟩

end

/-! ## Runs -/

/-- The claim under which the operation hands an item to the adapter. -/
def Op.send? : Op → Option StageContext
  | .sendPreparedOutbound _ _ _ context => some context
  | _ => none

section

variable {digests : Digests} {host : FleetHost}

/-- No item is sent once a stage of it is on record. -/
def NoResend (trace : List (gatewayMachine digests host).Event) : Prop :=
  trace.Pairwise fun event send => ∀ context ∈ send.op.send?,
    ¬event.after.ledger.Recorded context.deliveryKey context.itemKey

instance (trace : List (gatewayMachine digests host).Event) : Decidable (NoResend trace) :=
  inferInstanceAs (Decidable (trace.Pairwise _))

/-- A claim is granted only while no stage of the item is on record, and an item is sent only
under the claim that the ledger names. -/
def Cautious (event : (gatewayMachine digests host).Event) : Prop :=
  (∀ claim ∈ grantOf event, ¬event.before.ledger.Recorded claim.1 claim.2.1) ∧
  ∀ context ∈ event.op.send?,
    ∀ item ∈ event.before.ledger.item? context.deliveryKey context.itemKey,
      item.claimToken = some context.claimToken

instance (event : (gatewayMachine digests host).Event) : Decidable (Cautious event) :=
  inferInstanceAs (Decidable (_ ∧ _))

/-- The history so far, as long as every step was cautious. -/
structure RecordKept (world : World) (trace : List (gatewayMachine digests host).Event) : Prop where
  noResend : NoResend trace
  kept : ∀ event ∈ trace, ∀ deliveryKey itemKey,
    event.after.ledger.Recorded deliveryKey itemKey → world.ledger.Recorded deliveryKey itemKey

/-- Whoever may still send under the current claim finds nothing on record. -/
def Unrecorded (world : World) (phase : Phase) : Prop :=
  ∀ plan itemKey token item, phase = .claimed plan itemKey token →
    world.ledger.item? plan.deliveryKey itemKey = some item → item.claimToken = some token →
    ¬item.Recorded

variable {contract : Call → Contract} {permitted : (gatewayMachine digests host).Move → Prop}
  {origin world after : World} {phases : List (Call × Phase)}
  {trace : List (gatewayMachine digests host).Event} {phase : Phase} {op : Op} {choice : Choice}
  {answer : Ans op} {task : Nat}

theorem RewritesStage.absurd {own : Contract} {deliveryKey itemKey : String}
    (rewrites : RewritesStage world op deliveryKey itemKey) (allowed : Allowed own phase op)
    (unrecorded : Unrecorded world phase) : False := by
  obtain ⟨plan, token, item, held, rfl, present, current, recorded⟩ := rewrites.holder allowed
  exact unrecorded plan itemKey token item held present current recorded

theorem RecordKept.step {own : Contract} (kept : RecordKept world trace)
    (unrecorded : Unrecorded world phase) (allowed : Allowed own phase op)
    (effect : LedgerEffect world after choice op answer)
    (cautious : Cautious (⟨task, op, answer, world, after⟩ : (gatewayMachine digests host).Event)) :
    RecordKept after (trace ++ [⟨task, op, answer, world, after⟩]) := by
  constructor
  · refine List.pairwise_append.mpr ⟨kept.noResend, List.pairwise_singleton _ _, ?_⟩
    intro event member send new context sends recorded
    obtain rfl := List.mem_singleton.mp new
    obtain ⟨item, present, stage⟩ := kept.kept event member _ _ recorded
    have current := cautious.2 context sends item present
    cases op with
    | sendPreparedOutbound adapter outbound prepared under =>
        obtain rfl : under = context := by simpa [Op.send?] using sends
        cases allowed with
        | neutral harmless => simp [Op.isNeutral] at harmless
        | send addresses =>
            rename_i plan itemKey token
            rw [addresses.delivery, addresses.item] at present
            exact unrecorded plan itemKey token item rfl present
              (by rw [current, addresses.claim]) stage
    | _ => simp [Op.send?] at sends
  · intro event member deliveryKey itemKey recorded
    rcases List.mem_append.mp member with old | new
    · rcases effect.recorded_kept (kept.kept event old _ _ recorded) with stays | rewrites
      · exact stays
      · exact (rewrites.absurd allowed unrecorded).elim
    · obtain rfl := List.mem_singleton.mp new
      exact recorded

/-- The item in the ledger carried this token before the step, or was granted in it while nothing
was on record. -/
theorem Cautious.claimToken {deliveryKey itemKey : String} {item : LedgerItem} {token : Uuid}
    (cautious : Cautious (⟨task, op, answer, world, after⟩ : (gatewayMachine digests host).Event))
    (effect : LedgerEffect world after choice op answer)
    (present : after.ledger.item? deliveryKey itemKey = some item)
    (held : item.claimToken = some token) (recorded : world.ledger.Recorded deliveryKey itemKey) :
    ∃ old, world.ledger.item? deliveryKey itemKey = some old ∧ old.claimToken = some token ∧
      old.Recorded := by
  rcases effect.claimToken present held with granted | ⟨⟨old, found, heldBefore⟩, -⟩
  · exact absurd recorded (cautious.1 _ granted)
  · obtain ⟨stored, same, stage⟩ := recorded
    obtain rfl := Option.some.inj (same.symm.trans found)
    exact ⟨stored, found, heldBefore, stage⟩

theorem Unrecorded.step_own {own : Contract} (unrecorded : Unrecorded world phase)
    (allowed : Allowed own phase op) (effect : LedgerEffect world after choice op answer)
    (cautious : Cautious (⟨task, op, answer, world, after⟩ : (gatewayMachine digests host).Event)) :
    Unrecorded after (phase.next op answer) := by
  intro plan itemKey token item next present held stage
  rcases effect.recorded ⟨item, present, stage⟩ with before | records
  · obtain ⟨old, found, heldBefore, oldStage⟩ := cautious.claimToken effect present held before
    rcases Phase.next_claimed next with same | ⟨planned, deliveryKey, granted⟩
    · exact unrecorded plan itemKey token old same found heldBefore oldStage
    · obtain rfl := allowed.grant_key planned granted
      exact cautious.1 _ granted before
  · obtain ⟨sentPlan, response, sentToken, -, rfl, -⟩ := records.holder allowed
    obtain ⟨completion, -, rfl, -⟩ := records
    rcases Phase.next_claimed next with same | ⟨-, deliveryKey, granted⟩
    · simp at same
    · simp [Op.grant?] at granted

theorem Unrecorded.step_other {own : Contract} {otherPhase : Phase} {other : Nat}
    (unrecorded : Unrecorded world otherPhase) (different : other ≠ task)
    (kept : GrantsKept world trace) (granted : Granted trace task phase)
    (otherGranted : Granted trace other otherPhase)
    (allowed : Allowed own phase op) (effect : LedgerEffect world after choice op answer)
    (cautious : Cautious (⟨task, op, answer, world, after⟩ : (gatewayMachine digests host).Event)) :
    Unrecorded after otherPhase := by
  intro plan itemKey token item claimed present held stage
  rcases effect.recorded ⟨item, present, stage⟩ with before | records
  · obtain ⟨old, found, heldBefore, oldStage⟩ := cautious.claimToken effect present held before
    exact unrecorded plan itemKey token old claimed found heldBefore oldStage
  · -- The claim that reported the success is the current one, and it is held once.
    obtain ⟨sentPlan, response, sentToken, stored, rfl, -, storedAt, current⟩ :=
      records.holder allowed
    obtain ⟨completion, -, rfl, -⟩ := records
    rcases effect.claimToken present held with isGrant | ⟨⟨old, found, heldBefore⟩, -⟩
    · simp [Op.grant?] at isGrant
    · obtain rfl := Option.some.inj (storedAt.symm.trans found)
      obtain rfl := Option.some.inj (current.symm.trans heldBefore)
      subst claimed
      exact different (kept.holder_unique otherGranted granted rfl rfl)

theorem DeliveryRun.noResend
    (run : DeliveryRun digests host contract permitted origin world phases trace)
    (empty : origin.ledger = ∅) (cautious : ∀ event ∈ trace, Cautious event) : NoResend trace := by
  have maintained := Machine.Phased.maintains_while Cautious RecordKept
    (fun (world : World) _ _ _ phase => Unrecorded world phase)
    ⟨.nil, by simp⟩ ?start ?step ?outside run cautious
  · exact maintained.1.noResend
  case start =>
    intro world phases trace call _ _ _ plan itemKey token item held
    simp at held
  case step =>
    intro world after phases trace task call phase op choice answer run each holder allowed _
      performed cautious kept
    have effect := World.perform_effect performed
    obtain ⟨grants, granted⟩ := DeliveryRun.grants run empty
    have unrecorded := each task call phase holder
    refine ⟨kept.step unrecorded allowed effect cautious,
      unrecorded.step_own allowed effect cautious, ?_⟩
    intro other started otherPhase different listed old
    exact old.step_other different grants (granted task call phase holder)
      (granted other started otherPhase listed) allowed effect cautious
  case outside =>
    intro world trace event _ kept
    refine ⟨⟨kept.noResend, ?_⟩, fun task call phase unrecorded => ?_⟩
    · intro earlier member deliveryKey itemKey recorded
      obtain ⟨item, present, stage⟩ := kept.kept earlier member _ _ recorded
      obtain ⟨moved, found, frame⟩ := event.item_after present
      exact ⟨moved, found, stage.congr frame.native frame.fallback⟩
    · intro plan itemKey token moved claimed present held stage
      obtain ⟨item, found, frame⟩ := event.item_before present
      exact unrecorded plan itemKey token item claimed found (frame.claimToken.symm.trans held)
        (stage.congr frame.native.symm frame.fallback.symm)

/-- In a run of cautious steps nothing is sent once a stage of it is on record. -/
theorem recorded_item_is_not_sent_again (routes : Std.TreeMap String Json) (directory : Directory)
    (moves : List (gatewayMachine digests host).Move) (last : (gatewayMachine digests host).System)
    (played : (Machine.System.boot (World.initial routes directory)).play moves = some last)
    (cautious : ∀ event ∈ last.trace, Cautious event) : NoResend last.trace := by
  have steady : @Machine.Steady Op Ans Phase (gatewayMachine digests host)
      (fun _ => deliveryProtocol anyContract) (fun _ => True) (fun _ => True) :=
    ⟨fun _ _ _ _ _ _ _ => ⟨trivial, fun _ => trivial⟩, fun _ _ _ _ => trivial⟩
  obtain ⟨phases, played, -⟩ := Machine.play_phased_boot steady
    (fun call _ => call.program_follows) (fun _ _ => trivial) trivial played
  have run : DeliveryRun digests host (fun _ => anyContract) (fun _ => True)
      (World.initial routes directory) last.world phases last.trace := played
  exact run.noResend rfl cautious

end

/-- A turn whose process stops after the ledger took the stage and before it took the item. -/
def interruptedTurn : List (gatewayMachine plainDigests offlineHost).Move :=
  .start turnDelivery :: List.replicate 5 (.step 0 (smoothChoice 0 ⟨1⟩))

/-- An hour later a recovery pass takes the turn up again. -/
def recoveryPass : List (gatewayMachine plainDigests offlineHost).Move :=
  .start (.recover textGateway) ::
    List.replicate 5 (.step 1 (smoothChoice (3600 * nanosPerSecond) ⟨2⟩))

theorem interrupted_turn_is_sent_again :
    ∃ last, (Machine.System.boot (World.initial ∅ ∅)).play (interruptedTurn ++ recoveryPass) =
      some last ∧ ¬NoResend last.trace := by
  have resent : ((Machine.System.boot (World.initial ∅ ∅)).play
      (interruptedTurn ++ recoveryPass)).map (fun last => decide (NoResend last.trace)) =
        some false := by decide
  obtain ⟨last, played, decided⟩ := Option.map_eq_some_iff.mp resent
  exact ⟨last, played, of_decide_eq_false decided⟩

theorem interrupted_turn_is_sent_once :
    ∃ last, (Machine.System.boot (World.initial ∅ ∅)).play interruptedTurn = some last ∧
      (∀ event ∈ last.trace, Cautious event) ∧ NoResend last.trace := by
  have cautious : ((Machine.System.boot (World.initial ∅ ∅)).play interruptedTurn).map
      (fun last => decide (∀ event ∈ last.trace, Cautious event)) = some true := by decide
  obtain ⟨last, played, decided⟩ := Option.map_eq_some_iff.mp cautious
  exact ⟨last, played, of_decide_eq_true decided,
    recorded_item_is_not_sent_again ∅ ∅ interruptedTurn last played (of_decide_eq_true decided)⟩

end HarborGate
