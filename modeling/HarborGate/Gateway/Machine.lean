import HarborGate.Store.Steps
import HarborGate.Fleet.Retired
import HarborGate.Gateway.Notification

/-!
The gateway processes that share one state directory, as a machine of interleaved calls. What
an operation does to the world is said here once, in terms of ledger steps.
-/

namespace HarborGate

open Interleave

/-- What else moves the shared state: a starting process reconciles the attachment cache, the
Navi directory serves other transactions, and inbound turns register routes. -/
inductive OutsideMove
  | reconcileCache (now : Time) (ttl : Int)
  | fleet (step : NaviFleet.FleetStep)
  | registerRoute (routeKey : String) (route : Json)

def OutsideMove.apply (host : FleetHost) : OutsideMove → World → World
  | .reconcileCache now ttl, world =>
      { world with
        now := max world.now now
        ledger := LedgerStep.apply ⟨max world.now now, .reconcileCache ttl⟩ world.ledger }
  | .fleet step, world => { world with directory := step.apply host world.directory }
  | .registerRoute routeKey route, world =>
      { world with routes := world.routes.insert routeKey route }

abbrev gatewayMachine (digests : Digests) (host : FleetHost) : Machine Op Ans where
  World := World
  Choice := Choice
  Call := Call
  Outside := OutsideMove
  Result := Outcome
  perform := World.perform host
  outside := OutsideMove.apply host
  program := Call.program digests

def World.initial (routes : Std.TreeMap String Json) (directory : Directory) : World where
  now := 0
  issued := []
  ledger := ∅
  records := ∅
  routes := routes
  directory := directory

/-- The ledger step behind an operation; `token` is the UUID it draws. -/
def Op.ledgerOp (token : Uuid) : Op → Option LedgerOp
  | .persistDeliveryPlan deliveryKey fingerprint plannedOutbound plannedItems =>
      some (.persistPlan deliveryKey fingerprint plannedOutbound plannedItems)
  | .claimDeliveryMaterialization deliveryKey itemKey owner leaseSeconds =>
      some (.claimMaterialization token deliveryKey itemKey owner leaseSeconds)
  | .finishDeliveryMaterialization completion => some (.finishMaterialization completion)
  | .claimDeliveryItem request => some (.claimItem token request)
  | .recordDeliveryItemUpload upload => some (.recordUpload upload)
  | .finishDeliveryStage completion => some (.finishStage completion)
  | .finishDeliveryItem completion => some (.finishItem completion)
  | _ => none

/-- The operation that a step of the ledger is made by; the janitor is none. -/
def LedgerOp.op? : LedgerOp → Option Op
  | .persistPlan deliveryKey fingerprint plannedOutbound plannedItems =>
      some (.persistDeliveryPlan deliveryKey fingerprint plannedOutbound plannedItems)
  | .claimMaterialization _ deliveryKey itemKey owner leaseSeconds =>
      some (.claimDeliveryMaterialization deliveryKey itemKey owner leaseSeconds)
  | .finishMaterialization completion => some (.finishDeliveryMaterialization completion)
  | .claimItem _ request => some (.claimDeliveryItem request)
  | .recordUpload upload => some (.recordDeliveryItemUpload upload)
  | .finishStage completion => some (.finishDeliveryStage completion)
  | .finishItem completion => some (.finishDeliveryItem completion)
  | .reconcileCache _ => none

section

variable {op : Op} {token : Uuid}

theorem Op.op?_of_ledgerOp {step : LedgerOp} (operation : op.ledgerOp token = some step) :
    step.op? = some op := by
  cases op <;> cases operation <;> rfl

theorem Op.ledgerOp_persistPlan {deliveryKey fingerprint : String} {outbound : OutboundMessage}
    {items : List DeliveryPlanItem}
    (operation : op.ledgerOp token = some (.persistPlan deliveryKey fingerprint outbound items)) :
    op = .persistDeliveryPlan deliveryKey fingerprint outbound items :=
  (Option.some.inj (Op.op?_of_ledgerOp operation)).symm

theorem Op.ledgerOp_claimItem {drawn : Uuid} {request : DeliveryItemClaimRequest}
    (operation : op.ledgerOp token = some (.claimItem drawn request)) :
    drawn = token ∧ op = .claimDeliveryItem request := by
  obtain rfl := Option.some.inj (Op.op?_of_ledgerOp operation)
  cases operation
  exact ⟨rfl, rfl⟩

theorem Op.ledgerOp_recordUpload {upload : DeliveryItemUpload}
    (operation : op.ledgerOp token = some (.recordUpload upload)) :
    op = .recordDeliveryItemUpload upload :=
  (Option.some.inj (Op.op?_of_ledgerOp operation)).symm

theorem Op.ledgerOp_finishStage {completion : DeliveryStageCompletion}
    (operation : op.ledgerOp token = some (.finishStage completion)) :
    op = .finishDeliveryStage completion :=
  (Option.some.inj (Op.op?_of_ledgerOp operation)).symm

theorem Op.ledgerOp_finishItem {completion : DeliveryItemCompletion}
    (operation : op.ledgerOp token = some (.finishItem completion)) :
    op = .finishDeliveryItem completion :=
  (Option.some.inj (Op.op?_of_ledgerOp operation)).symm

theorem Op.ledgerOp_ne_reconcile (ttl : Int) :
    op.ledgerOp token ≠ some (.reconcileCache ttl) := by
  intro operation
  cases Op.op?_of_ledgerOp operation

end

namespace World

section

variable {α : Type} {world after : World} {choice : Choice} {result : StoreResult (α × Ledger)}

theorem ledgerStep_ok {value : α}
    (stepped : world.ledgerStep choice result = some (.ok value, after)) :
    choice.failure = none ∧ result = .ok (value, after.ledger) ∧
      after = { world.tick choice with ledger := after.ledger } := by
  simp only [ledgerStep] at stepped
  split at stepped
  · simp at stepped
  · rename_i healthy
    split at stepped
    · simp only [Option.some.injEq, Prod.mk.injEq, Except.ok.injEq] at stepped
      obtain ⟨rfl, rfl⟩ := stepped
      exact ⟨healthy, rfl, rfl⟩
    · simp at stepped
    · simp at stepped

theorem ledgerStep_error {error : StoreError}
    (stepped : world.ledgerStep choice result = some (.error error, after)) :
    after = world.tick choice ∧ (choice.failure = none → result = .error error) := by
  simp only [ledgerStep] at stepped
  split at stepped
  · rename_i failed
    simp only [Option.some.injEq, Prod.mk.injEq] at stepped
    exact ⟨stepped.2.symm, by simp [failed]⟩
  · split at stepped
    · simp at stepped
    · simp only [Option.some.injEq, Prod.mk.injEq, Except.error.injEq] at stepped
      exact ⟨stepped.2.symm, fun _ => by rw [stepped.1]⟩
    · simp at stepped

theorem draw_some (drawn : world.draw choice = some after) :
    choice.token ∉ world.issued ∧ after = { world with issued := choice.token :: world.issued } := by
  simp only [draw] at drawn
  split at drawn
  · simp at drawn
  · rename_i fresh
    exact ⟨fresh, (Option.some.inj drawn).symm⟩

end

/-- How an operation may change the world apart from its ledger. -/
structure Evolves (world after : World) (op : Op) (choice : Choice) : Prop where
  clock : world.now ≤ choice.now ∧ after.now = choice.now
  issued : after.issued = world.issued ∨
    choice.token ∉ world.issued ∧ after.issued = choice.token :: world.issued
  routes : after.routes = world.routes
  records : after.records = world.records ∨
    ∃ key record, op = .saveDeliveryRecord key record ∧
      after.records = world.records.insert key record
  ledger : after.ledger = world.ledger ∨
    ∃ ledgerOp, op.ledgerOp choice.token = some ledgerOp ∧
      after.ledger = LedgerStep.apply ⟨choice.now, ledgerOp⟩ world.ledger

section

variable {α : Type} {host : FleetHost} {world after : World} {op : Op} {choice : Choice}

theorem Evolves.tick (forward : ¬choice.now < world.now) :
    Evolves world (world.tick choice) op choice where
  clock := ⟨Int.not_lt.mp forward, rfl⟩
  issued := Or.inl rfl
  routes := rfl
  records := Or.inl rfl
  ledger := Or.inl rfl

theorem Evolves.ledgerStep {result : StoreResult (α × Ledger)} {answer : StoreResult α}
    {ledgerOp : LedgerOp} (forward : ¬choice.now < world.now)
    (operation : op.ledgerOp choice.token = some ledgerOp)
    (applies : ∀ value ledger, result = .ok (value, ledger) →
      ledger = LedgerStep.apply ⟨choice.now, ledgerOp⟩ world.ledger)
    (stepped : world.ledgerStep choice result = some (answer, after)) :
    Evolves world after op choice := by
  cases answer with
  | error error =>
      rw [(ledgerStep_error stepped).1]
      exact .tick forward
  | ok value =>
      obtain ⟨-, ok, same⟩ := ledgerStep_ok stepped
      have ledger := applies value after.ledger ok
      rw [same]
      exact ⟨⟨Int.not_lt.mp forward, rfl⟩, Or.inl rfl, rfl, Or.inl rfl, Or.inr ⟨ledgerOp, operation, ledger⟩⟩

/-- A step that draws a UUID evolves the world like the step that does not. -/
theorem Evolves.draw {drawn : World} (drew : world.draw choice = some drawn)
    (evolves : Evolves drawn after op choice) (kept : after.issued = drawn.issued) :
    Evolves world after op choice := by
  obtain ⟨fresh, rfl⟩ := draw_some drew
  exact ⟨evolves.clock, Or.inr ⟨fresh, kept⟩, evolves.routes, evolves.records, evolves.ledger⟩

theorem ledgerStep_issued {result : StoreResult (α × Ledger)} {answer : StoreResult α}
    (stepped : world.ledgerStep choice result = some (answer, after)) :
    after.issued = world.issued := by
  cases answer with
  | error error => rw [(ledgerStep_error stepped).1]; rfl
  | ok value => rw [(ledgerStep_ok stepped).2.2]; rfl

theorem map_ok {records written : Ledger} {value : Unit} {result : StoreResult Ledger}
    (mapped : (result.map fun ledger => ((), ledger)) = .ok (value, written)) :
    HarborGate.written records id result = written := by
  cases result with
  | error error => simp [Except.map] at mapped
  | ok ledger => simpa [Except.map, HarborGate.written] using mapped

theorem perform_evolves {answer : Ans op}
    (performed : perform host world op choice = some (answer, after)) :
    Evolves world after op choice := by
  simp only [perform] at performed
  split at performed
  · simp at performed
  rename_i forward
  cases op with
  | loadDeliveryRecord _ | resolveRoute _ | retryableDeliveryPlans | fleetCheck _
  | authorizeCameraAttachments _ | authorizeWhatsappDelivery _ | materializeAttachments _ _
  | prepareOutbound _ _ | sendPreparedOutbound _ _ _ _ | sendOutbound _ _ | utcNowIso =>
      simp only [Option.some.injEq, Prod.mk.injEq] at performed
      rw [← performed.2]
      exact .tick forward
  | saveDeliveryRecord key record =>
      simp only [Option.some.injEq, saveDeliveryRecord] at performed
      split at performed
      · simp only [Prod.mk.injEq] at performed
        rw [← performed.2]
        exact .tick forward
      · split at performed
        · simp only [Prod.mk.injEq] at performed
          rw [← performed.2]
          exact .tick forward
        · simp only [Prod.mk.injEq] at performed
          rw [← performed.2]
          exact ⟨⟨Int.not_lt.mp forward, rfl⟩, Or.inl rfl, rfl, Or.inr ⟨key, record, rfl, rfl⟩, Or.inl rfl⟩
  | fleetInvalidateIdentity selection =>
      dsimp only at performed
      split at performed
      · simp only [Option.some.injEq, Prod.mk.injEq] at performed
        rw [← performed.2]
        exact .tick forward
      · simp only [Option.some.injEq, Prod.mk.injEq] at performed
        rw [← performed.2]
        exact ⟨⟨Int.not_lt.mp forward, rfl⟩, Or.inl rfl, rfl, Or.inl rfl, Or.inl rfl⟩
  | persistDeliveryPlan deliveryKey fingerprint plannedOutbound plannedItems =>
      exact .ledgerStep forward rfl (fun value ledger ok => (map_ok ok).symm) performed
  | finishDeliveryMaterialization completion | recordDeliveryItemUpload upload
  | finishDeliveryStage completion =>
      exact .ledgerStep forward rfl (fun value ledger ok => (map_ok ok).symm) performed
  | finishDeliveryItem completion =>
      refine .ledgerStep forward rfl (fun value ledger ok => ?_) performed
      simp [LedgerStep.apply, ok, written]
  | claimDeliveryMaterialization deliveryKey itemKey owner leaseSeconds =>
      simp only [Option.bind_eq_some_iff] at performed
      obtain ⟨drawn, drew, stepped⟩ := performed
      obtain ⟨-, rfl⟩ := draw_some drew
      refine .draw drew (.ledgerStep forward rfl (fun value ledger ok => ?_) stepped)
        (ledgerStep_issued stepped)
      simp [LedgerStep.apply, ok, written]
  | claimDeliveryItem request =>
      simp only [Option.bind_eq_some_iff] at performed
      obtain ⟨drawn, drew, stepped⟩ := performed
      obtain ⟨-, rfl⟩ := draw_some drew
      refine .draw drew (.ledgerStep forward rfl (fun value ledger ok => ?_) stepped)
        (ledgerStep_issued stepped)
      simp [LedgerStep.apply, ok, written]

end

end World

/-! ## A small setting, for runs on concrete inputs -/

def webhookAdapter : Adapter where
  name := "webhook"
  leaseSeconds := 60

def textGateway : Gateway where
  instanceId := "gate"
  adapters := [webhookAdapter]
  fleet := false
  taskClient := true

def turnReply : OutboundMessage where
  platform := "webhook"
  chatId := "chat"
  text := "done"
  attachments := []
  timestamp := "2026-01-01T00:00:00Z"
  metadata := []

def turnDelivery : Call :=
  .deliver textGateway webhookAdapter turnReply "turn" "fingerprint"

def plainDigests : Digests where
  fingerprint _ := "fingerprint"
  stableId label text _ := label ++ text

def offlineHost : FleetHost where
  key _ _ := ""
  proofId _ _ := ""
  timestamp _ := none

/-- A step in which everything outside the store goes well. -/
def smoothChoice (now : Time) (token : Uuid) : Choice where
  now := now
  token := token
  failure := none
  authorization := .ok ()
  materialized := ⟨[], 0⟩
  prepared := .ok none
  sent := .ok (.obj [("message_id", .str "m1")])
  timestamp := "2026-01-01T00:00:00Z"

end HarborGate
