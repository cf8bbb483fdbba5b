import Mathlib.Data.Set.Function
import HarborGate.Weixin.Effects

/-!
What the cursor of one bound account vouches for. A batch is stored before the cursor moves past
it, so that wherever the poll loop is killed, everything up to the committed cursor is recorded.
-/

namespace HarborGate

namespace Weixin

open Interleave

/-! ## The provider -/

/-- The batch that the provider has for a cursor. -/
def batchAt (provider : String → Json) (cursor : String) : PollBatch :=
  readUpdates cursor (provider cursor)

/-- The cursor after a number of batches from the beginning of the stream. -/
def cursorAfter (provider : String → Json) : Nat → String
  | 0 => ""
  | count + 1 => (batchAt provider (cursorAfter provider count)).nextCursor

def Provided (provider : String → Json) : Set Json :=
  {payload | ∃ cursor, payload ∈ (batchAt provider cursor).updates}

def WeixinOp.response? : (op : WeixinOp) → WeixinAns op → Option (String × Json)
  | .getUpdates _ cursor, .ok response => some (cursor, response)
  | _, _ => none

inductive Stage
  | idle
  | loaded (cursor : String)
  | polled (batch : PollBatch)
  | stored (batch : PollBatch)

section Stages

variable (host : Host) (bound : WeixinAccount)

def Stage.allows (stage : Stage) : WeixinOp → Prop
  | .discoverAccount accountId => accountId = bound.accountId ∨ accountId = host.config.accountId
  | .adoptAccount other => other = bound
  | .loadSyncBuf accountId => accountId = bound.accountId
  | .getUpdates _ cursor => stage = .loaded cursor
  | .persistBatch other updates => other = bound ∧ ∃ next, stage = .polled ⟨updates, next⟩
  | .saveSyncBuf other cursor => other = bound ∧ ∃ updates, stage = .stored ⟨updates, cursor⟩
  | .saveAccountFile _ => False
  | .setAccount _ => False
  | .clearAccount _ => False
  | _ => True

def Stage.next (stage : Stage) : (op : WeixinOp) → WeixinAns op → Stage
  | .loadSyncBuf _, cursor => .loaded cursor
  | .getUpdates _ cursor, .ok response => .polled (readUpdates cursor response)
  | .getUpdates _ cursor, .error _ => .polled ⟨[], cursor⟩
  | .persistBatch _ _, .ok _ =>
      match stage with
      | .polled batch => .stored batch
      | stage => stage
  | _, _ => stage

/-- Every account that is read or discovered is the bound one. -/
def knownAccount : (op : WeixinOp) → WeixinAns op → Prop
  | .currentAccount _, answer => answer = bound
  | .discoverAccount accountId, answer =>
      accountId = bound.accountId ∨ accountId = host.config.accountId →
        ∀ other, answer = some other → other = bound
  | _, _ => True

def roundProtocol : Protocol WeixinOp WeixinAns Stage where
  allows := Stage.allows host bound
  possible := knownAccount host bound
  next := Stage.next

variable {host bound} {α β : Type} {stage : Stage}

/-- The program leaves the round where it is. -/
def Stays (host : Host) (bound : WeixinAccount) (program : WeixinRoutine α) : Prop :=
  ∀ stage, program.Follows (roundProtocol host bound) stage fun after _ => after = stage

theorem Stays.bind {first : WeixinRoutine α} {next : α → WeixinRoutine β}
    (stays : Stays host bound first) (continues : ∀ value, Stays host bound (next value)) :
    Stays host bound (first >>= next) := by
  intro stage
  refine Prog.Follows.bind (stays stage) ?_
  rintro _ value rfl
  exact continues value _

end Stages

/-! ## The bound account -/

section Bound

variable {host : Host} {disk : Disk} {bound : WeixinAccount} {world after : WeixinWorld}
  {choice : WeixinChoice}

/-- The account stays the bound one, and its file as it is. -/
structure Serves (disk : Disk) (bound : WeixinAccount) (world : WeixinWorld) : Prop where
  account : world.account = bound
  accounts : world.disk.accounts = disk.accounts

theorem discover_congr {files : Disk} (same : files.accounts = disk.accounts) (accountId : String) :
    discoverWeixinAccount host files accountId = discoverWeixinAccount host disk accountId := by
  simp only [discoverWeixinAccount, latestAccount, loadWeixinAccount, same]

theorem Serves.store {α : Type} {result : Except GatewayError (α × Disk)}
    {answer : Except GatewayError α} (serves : Serves disk bound world)
    (kept : ∀ value files, result = .ok (value, files) → files.accounts = world.disk.accounts)
    (stored : world.store choice result = (answer, after)) : Serves disk bound after := by
  cases answer with
  | error error =>
      rw [store_error stored]
      exact ⟨serves.account, serves.accounts⟩
  | ok value =>
      obtain ⟨files, same, rfl⟩ := store_ok stored
      exact ⟨serves.account, (kept value files same).trans serves.accounts⟩

theorem Serves.storeInbox {accountId : String} {result : Except GatewayError Inbox}
    {answer : Except GatewayError Unit} (serves : Serves disk bound world)
    (stored : world.store choice (result.map fun items =>
      ((), saveInbox host world.disk accountId items)) = (answer, after)) :
    Serves disk bound after := by
  refine serves.store (fun value files same => ?_) stored
  obtain ⟨items, -, same⟩ := Result.map_eq_ok.mp same
  rw [← (Prod.mk.inj same).2]
  rfl

theorem Serves.step {op : WeixinOp} {answer : WeixinAns op} {stage : Stage}
    (serves : Serves disk bound world) (allowed : stage.allows host bound op)
    (performed : world.perform host op choice = some (answer, after)) :
    Serves disk bound after := by
  have ticks : Serves disk bound (world.tick choice) := ⟨serves.account, serves.accounts⟩
  simp only [WeixinWorld.perform] at performed
  split at performed
  · simp at performed
  cases op with
  | currentAccount _ | discoverAccount _ | loadSyncBuf _ | getUpdates _ _ | handleInbound _ =>
      obtain ⟨-, rfl⟩ := Prod.mk.inj (Option.some.inj performed)
      exact ticks
  | adoptAccount account =>
      obtain rfl : account = bound := allowed
      obtain ⟨-, rfl⟩ := Prod.mk.inj (Option.some.inj performed)
      refine ⟨?_, ?_⟩
      · simp only [WeixinWorld.adoptAccount, WeixinWorld.tick]
        split
        · exact serves.account
        split
        · exact serves.account
        split
        · rfl
        · exact serves.account
      · have kept := (@adoptAccount_disk host world account).1
        exact (congrArg Disk.accounts kept).trans serves.accounts
  | saveAccountFile _ | setAccount _ | clearAccount _ => exact allowed.elim
  | persistBatch account updates =>
      have stored := Option.some.inj performed
      simp only [WeixinWorld.persistBatch] at stored
      split at stored
      · exact serves.storeInbox stored
      · obtain ⟨-, rfl⟩ := Prod.mk.inj stored
        exact ticks
  | saveSyncBuf account cursor =>
      have stored := Option.some.inj performed
      simp only [WeixinWorld.saveSyncBuf] at stored
      split at stored
      · refine serves.store (fun value files same => ?_) stored
        rw [← (Prod.mk.inj (Except.ok.inj same)).2]
        rfl
      · obtain ⟨-, rfl⟩ := Prod.mk.inj stored
        exact ticks
  | claimItem account owner leaseSeconds =>
      simp only [WeixinWorld.claimItem] at performed
      split at performed
      · split at performed
        · refine serves.store (fun value files same => ?_) (Option.some.inj performed)
          rw [← (Prod.mk.inj (Except.ok.inj same)).2]
        · split at performed
          · simp at performed
          obtain ⟨lease, -, stored⟩ := Option.map_eq_some_iff.mp performed
          have serves : Serves disk bound { world with issued := choice.token :: world.issued } :=
            ⟨serves.account, serves.accounts⟩
          refine serves.store (fun value files same => ?_) stored
          rw [← (Prod.mk.inj (Except.ok.inj same)).2]
          rfl
      · obtain ⟨-, rfl⟩ := Prod.mk.inj (Option.some.inj performed)
        exact ticks
  | finishItem account finish =>
      have stored := Option.some.inj performed
      simp only [WeixinWorld.finishItem] at stored
      split at stored
      · exact serves.storeInbox stored
      · obtain ⟨-, rfl⟩ := Prod.mk.inj stored
        exact ticks

/-- A bound account is the only one that is read or discovered. -/
theorem Serves.known {op : WeixinOp} {answer : WeixinAns op} (serves : Serves disk bound world)
    (own : ∀ other, discoverWeixinAccount host disk bound.accountId = some other → other = bound)
    (configured : ∀ other, discoverWeixinAccount host disk host.config.accountId = some other →
      other = bound)
    (performed : world.perform host op choice = some (answer, after)) :
    knownAccount host bound op answer := by
  simp only [WeixinWorld.perform] at performed
  split at performed
  · simp at performed
  cases op with
  | currentAccount reader =>
      obtain ⟨rfl, -⟩ := Prod.mk.inj (Option.some.inj performed)
      exact serves.account
  | discoverAccount accountId =>
      obtain ⟨rfl, -⟩ := Prod.mk.inj (Option.some.inj performed)
      intro expected other found
      rw [discover_congr serves.accounts] at found
      rcases expected with rfl | rfl
      · exact own other found
      · exact configured other found
  | _ => trivial

end Bound

/-! ## What the cursor vouches for -/

section Vouched

variable {host : Host} {provider : String → Json} {disk later : Disk} {bound : WeixinAccount}
  {slug : String} {world after : WeixinWorld} {choice : WeixinChoice}

/-- Some record of the inbox file has exactly this payload. -/
def Recorded (slug : String) (disk : Disk) (payload : Json) : Prop :=
  ∃ inboxId item, disk.item? slug inboxId = some item ∧ item.payload = payload

/-- The cursor is one that the provider has led to, and every update of every batch before it is
recorded. -/
def Passed (provider : String → Json) (slug : String) (disk : Disk) (cursor : String) : Prop :=
  ∃ count, cursorAfter provider count = cursor ∧ ∀ earlier < count,
    ∀ payload ∈ (batchAt provider (cursorAfter provider earlier)).updates,
      Recorded slug disk payload

/-- Every record is kept under the id of its payload. -/
def Filed (host : Host) (provider : String → Json) (accountId : String) (disk : Disk) : Prop :=
  ∀ inboxId item, disk.item? (safeSlug host accountId) inboxId = some item →
    stableWeixinInboxId host accountId item.payload = inboxId ∧
      item.payloadFingerprint = weixinPayloadFingerprint host item.payload ∧
      item.payload ∈ Provided provider

def Stage.Vouched (provider : String → Json) (slug : String) (disk : Disk) : Stage → Prop
  | .idle => True
  | .loaded cursor => Passed provider slug disk cursor
  | .polled batch => ∃ cursor, Passed provider slug disk cursor ∧
      (batch = batchAt provider cursor ∨ batch = ⟨[], cursor⟩)
  | .stored batch => Passed provider slug disk batch.nextCursor

theorem passed_start : Passed provider slug disk "" :=
  ⟨0, rfl, fun _ none => absurd none (Nat.not_lt_zero _)⟩

theorem Passed.next {cursor : String} (passed : Passed provider slug disk cursor)
    (stored : ∀ payload ∈ (batchAt provider cursor).updates, Recorded slug disk payload) :
    Passed provider slug disk (batchAt provider cursor).nextCursor := by
  obtain ⟨count, rfl, recorded⟩ := passed
  refine ⟨count + 1, rfl, fun earlier bound payload member => ?_⟩
  by_cases last : earlier = count
  · subst last
    exact stored payload member
  · exact recorded earlier (by omega) payload member

theorem Passed.mono {cursor : String} (passed : Passed provider slug disk cursor)
    (kept : ∀ payload, Recorded slug disk payload → Recorded slug later payload) :
    Passed provider slug later cursor := by
  obtain ⟨count, reached, recorded⟩ := passed
  exact ⟨count, reached, fun earlier bound payload member =>
    kept payload (recorded earlier bound payload member)⟩

theorem Stage.Vouched.mono {stage : Stage} (vouched : stage.Vouched provider slug disk)
    (kept : ∀ payload, Recorded slug disk payload → Recorded slug later payload) :
    stage.Vouched provider slug later := by
  cases stage with
  | idle => trivial
  | loaded cursor => exact Passed.mono vouched kept
  | polled batch =>
      obtain ⟨cursor, passed, batch⟩ := vouched
      exact ⟨cursor, passed.mono kept, batch⟩
  | stored batch => exact Passed.mono vouched kept

/-- Only an unbound account loses a record, and no step changes a payload. -/
theorem RecordStep.keeps {inboxId : String} {op : WeixinOp} {answer : WeixinAns op}
    {before record : Option InboxItem} {item : InboxItem}
    (step : RecordStep host choice slug inboxId op answer before record)
    (remains : ∀ account, op ≠ .clearAccount account) (present : before = some item) :
    ∃ kept, record = some kept ∧ kept.payload = item.payload ∧
      kept.payloadFingerprint = item.payloadFingerprint := by
  cases step with
  | same _ other => exact ⟨item, present, rfl, rfl⟩
  | added => simp at present
  | claimed file claimable expires =>
      obtain rfl := Option.some.inj present
      exact ⟨_, rfl, rfl, rfl⟩
  | finished file own processing held =>
      obtain rfl := Option.some.inj present
      exact ⟨_, rfl, rfl, rfl⟩
  | @cleared account => exact absurd rfl (remains account)

theorem DiskEffect.recorded {op : WeixinOp} {answer : WeixinAns op} {payload : Json}
    (effect : DiskEffect host world after choice op answer)
    (remains : ∀ account, op ≠ .clearAccount account)
    (recorded : Recorded slug world.disk payload) : Recorded slug after.disk payload := by
  obtain ⟨inboxId, item, present, rfl⟩ := recorded
  obtain ⟨kept, found, same, -⟩ := (effect.record slug inboxId).keeps remains present
  exact ⟨inboxId, kept, found, same⟩

theorem Stage.allows_remains {stage : Stage} {op : WeixinOp}
    (allowed : stage.allows host bound op) : ∀ account, op ≠ .clearAccount account := by
  rintro account rfl
  exact allowed.elim

theorem Filed.step {op : WeixinOp} {answer : WeixinAns op} {stage : Stage}
    (filed : Filed host provider bound.accountId world.disk)
    (vouched : stage.Vouched provider slug world.disk) (allowed : stage.allows host bound op)
    (effect : DiskEffect host world after choice op answer) :
    Filed host provider bound.accountId after.disk := by
  intro inboxId item present
  have step := effect.record (safeSlug host bound.accountId) inboxId
  rw [present] at step
  generalize found : world.disk.item? (safeSlug host bound.accountId) inboxId = record at step
  cases step with
  | same _ other => exact filed inboxId item found
  | claimed file claimable expires =>
      have unchanged := filed inboxId _ found
      exact unchanged
  | finished file own processing held =>
      have unchanged := filed inboxId _ found
      exact unchanged
  | @added account updates payload file member object own =>
      obtain ⟨rfl, next, rfl⟩ := allowed
      refine ⟨own, rfl, ?_⟩
      obtain ⟨cursor, -, batch | batch⟩ := vouched
      · refine ⟨cursor, ?_⟩
        rw [← batch]
        exact member
      · obtain ⟨rfl, -⟩ := PollBatch.mk.inj batch
        simp at member

/-- What holds at the end of a run: every record is filed under its own id, and the committed cursor
has only passed recorded batches. -/
structure Vouches (host : Host) (provider : String → Json) (accountId : String) (disk : Disk) :
    Prop where
  filed : Filed host provider accountId disk
  passed : Passed provider (safeSlug host accountId) disk (loadSyncBuf host disk accountId)

theorem Vouches.step {op : WeixinOp} {answer : WeixinAns op} {stage : Stage}
    (vouches : Vouches host provider bound.accountId world.disk)
    (vouched : stage.Vouched provider (safeSlug host bound.accountId) world.disk)
    (allowed : stage.allows host bound op)
    (effect : DiskEffect host world after choice op answer) :
    Vouches host provider bound.accountId after.disk := by
  refine ⟨vouches.filed.step vouched allowed effect, ?_⟩
  have kept : ∀ payload, Recorded (safeSlug host bound.accountId) world.disk payload →
      Recorded (safeSlug host bound.accountId) after.disk payload :=
    fun payload => effect.recorded (Stage.allows_remains allowed)
  cases present : after.disk.cursors[safeSlug host bound.accountId]? with
  | none =>
      have empty : loadSyncBuf host after.disk bound.accountId = "" := by
        simp [loadSyncBuf, present]
      rw [empty]
      exact passed_start
  | some cursor =>
      have written : loadSyncBuf host after.disk bound.accountId = cursor := by
        simp [loadSyncBuf, present]
      rw [written]
      rcases effect.cursor present with old | ⟨account, rfl, -, -⟩
      · have before : loadSyncBuf host world.disk bound.accountId = cursor := by
          simp [loadSyncBuf, old]
        have passed := vouches.passed
        rw [before] at passed
        exact passed.mono kept
      · obtain ⟨-, updates, rfl⟩ := allowed
        exact Passed.mono vouched kept

end Vouched

end Weixin

end HarborGate
