import HarborGate.Lib.Result
import HarborGate.Weixin.Runtime

/-!
What one operation does to the files of the adapter, said once: the batch and the cursor that are
stored, the record that is claimed or finished, and nothing else.
-/

namespace HarborGate

namespace Weixin

/-! ## Records -/

/-- The record under an id in the inbox file with the given slug. -/
def Disk.item? (disk : Disk) (slug inboxId : String) : Option InboxItem :=
  (disk.inboxes[slug]?).bind (·[inboxId]?)

theorem loadInbox_get (host : Host) (disk : Disk) (accountId inboxId : String) :
    (loadInbox host disk accountId)[inboxId]? = disk.item? (safeSlug host accountId) inboxId := by
  simp only [loadInbox, Disk.item?]
  cases disk.inboxes[safeSlug host accountId]? with
  | none => simp
  | some inbox => rfl

theorem saveInbox_item? (host : Host) (disk : Disk) (accountId : String) (inbox : Inbox)
    (slug inboxId : String) :
    (saveInbox host disk accountId inbox).item? slug inboxId =
      if safeSlug host accountId = slug then inbox[inboxId]? else disk.item? slug inboxId := by
  simp only [saveInbox, Disk.item?, Std.TreeMap.getElem?_insert, Std.LawfulEqCmp.compare_eq_iff_eq]
  split <;> rfl

@[simp] theorem saveInbox_cursors (host : Host) (disk : Disk) (accountId : String) (inbox : Inbox) :
    (saveInbox host disk accountId inbox).cursors = disk.cursors :=
  rfl

@[simp] theorem saveInbox_accounts (host : Host) (disk : Disk) (accountId : String)
    (inbox : Inbox) : (saveInbox host disk accountId inbox).accounts = disk.accounts :=
  rfl

theorem saveSyncBuf_item? (host : Host) (disk : Disk) (accountId cursor slug inboxId : String) :
    (saveSyncBuf host disk accountId cursor).item? slug inboxId = disk.item? slug inboxId :=
  rfl

@[simp] theorem saveSyncBuf_accounts (host : Host) (disk : Disk) (accountId cursor : String) :
    (saveSyncBuf host disk accountId cursor).accounts = disk.accounts :=
  rfl

/-! ## A stored batch -/

section Persist

variable {host : Host} {now : Time} {accountId : String}

/-- One update leaves every record as it is and adds at most its own. -/
theorem persistUpdate_ok {items stored : Inbox} {payload : Json}
    (ok : persistUpdate host now accountId items payload = .ok stored) (inboxId : String) :
    (∀ item, items[inboxId]? = some item → stored[inboxId]? = some item) ∧
      (items[inboxId]? = none → stored[inboxId]? = none ∨
        stableWeixinInboxId host accountId payload = inboxId ∧
          stored[inboxId]? = some (newInboxItem host now inboxId payload)) := by
  simp only [persistUpdate] at ok
  split at ok
  · rename_i existing found
    split at ok
    · simp at ok
    · obtain rfl := Except.ok.inj ok
      exact ⟨fun item present => present, fun absent => Or.inl absent⟩
  · rename_i absent
    obtain rfl := Except.ok.inj ok
    simp only [Std.TreeMap.getElem?_insert, Std.LawfulEqCmp.compare_eq_iff_eq]
    by_cases own : stableWeixinInboxId host accountId payload = inboxId
    · subst own
      exact ⟨by simp [absent], by simp⟩
    · simp [own]

/-- A batch leaves every record as it is; a record it adds is a pending one of its own update. -/
theorem persistUpdates_ok (updates : List Json) : ∀ {items stored : Inbox},
    persistUpdates host now accountId updates items = .ok stored → ∀ inboxId,
      (∀ item, items[inboxId]? = some item → stored[inboxId]? = some item) ∧
      (items[inboxId]? = none → stored[inboxId]? = none ∨
        ∃ payload ∈ updates, payload.isObject = true ∧
          stableWeixinInboxId host accountId payload = inboxId ∧
          stored[inboxId]? = some (newInboxItem host now inboxId payload)) := by
  induction updates with
  | nil =>
      intro items stored ok inboxId
      obtain rfl := Except.ok.inj ok
      exact ⟨fun _ present => present, fun absent => Or.inl absent⟩
  | cons payload rest ih =>
      intro items stored ok inboxId
      simp only [persistUpdates] at ok
      split at ok
      · rename_i object
        obtain ⟨middle, first, ok⟩ := Result.bind_eq_ok.mp ok
        obtain ⟨kept, added⟩ := persistUpdate_ok first inboxId
        obtain ⟨later, laterAdded⟩ := ih ok inboxId
        refine ⟨fun item present => later item (kept item present), fun absent => ?_⟩
        rcases added absent with still | ⟨own, new⟩
        · rcases laterAdded still with none | ⟨other, member, rest⟩
          · exact Or.inl none
          · exact Or.inr ⟨other, List.mem_cons_of_mem _ member, rest⟩
        · exact Or.inr ⟨payload, List.mem_cons_self, object, own, later _ new⟩
      · obtain ⟨kept, added⟩ := ih ok inboxId
        refine ⟨kept, fun absent => ?_⟩
        rcases added absent with none | ⟨other, member, rest⟩
        · exact Or.inl none
        · exact Or.inr ⟨other, List.mem_cons_of_mem _ member, rest⟩

end Persist

/-! ## Operations -/

/-- The operations that change an inbox or a cursor, when they succeed. -/
def WeixinOp.stores : (op : WeixinOp) → WeixinAns op → Bool
  | .persistBatch _ _, .ok _ => true
  | .saveSyncBuf _ _, .ok _ => true
  | .claimItem _ _ _, .ok (some _) => true
  | .finishItem _ _, .ok _ => true
  | .clearAccount _, .ok _ => true
  | _, _ => false

inductive DiskEffect (host : Host) (world after : WeixinWorld) (choice : WeixinChoice) :
    (op : WeixinOp) → WeixinAns op → Prop
  | still {op : WeixinOp} {answer : WeixinAns op}
      (inboxes : after.disk.inboxes = world.disk.inboxes)
      (cursors : after.disk.cursors = world.disk.cursors) (idle : op.stores answer = false) :
      DiskEffect host world after choice op answer
  | persisted {account : WeixinAccount} {updates : List Json} {items : Inbox}
      (current : world.accountIsCurrent account = true)
      (ok : persistUpdates host choice.now account.accountId updates
        (loadInbox host world.disk account.accountId) = .ok items)
      (saved : after.disk = saveInbox host world.disk account.accountId items) :
      DiskEffect host world after choice (.persistBatch account updates) (.ok ())
  | committed {account : WeixinAccount} {cursor : String}
      (current : world.accountIsCurrent account = true)
      (saved : after.disk = saveSyncBuf host world.disk account.accountId cursor) :
      DiskEffect host world after choice (.saveSyncBuf account cursor) (.ok ())
  | claimed {account : WeixinAccount} {owner inboxId : String} {leaseSeconds : Nat}
      {item : InboxItem} {lease : LeaseField}
      (current : world.accountIsCurrent account = true)
      (candidate : claimCandidate choice.now (loadInbox host world.disk account.accountId) =
        some (inboxId, item))
      (fresh : choice.token ∉ world.issued)
      (expires : deliveryClaimExpiresAt choice.now leaseSeconds = some lease)
      (saved : after.disk = saveInbox host world.disk account.accountId
        ((loadInbox host world.disk account.accountId).insert inboxId
          (item.claim choice.now choice.token owner lease)))
      (issued : after.issued = choice.token :: world.issued) :
      DiskEffect host world after choice (.claimItem account owner leaseSeconds)
        (.ok (some ⟨inboxId, choice.token, item.payload⟩))
  | finished {account : WeixinAccount} {finish : InboxFinish} {items : Inbox}
      (current : world.accountIsCurrent account = true)
      (ok : finishItem choice.now finish (loadInbox host world.disk account.accountId) = .ok items)
      (saved : after.disk = saveInbox host world.disk account.accountId items) :
      DiskEffect host world after choice (.finishItem account finish) (.ok ())
  | cleared {account : WeixinAccount}
      (saved : after.disk = clearWeixinAccountState host world.disk account.accountId) :
      DiskEffect host world after choice (.clearAccount account) (.ok ())

/-- What every operation does to the clock and the issued tokens. -/
structure Ticks (world after : WeixinWorld) (choice : WeixinChoice) : Prop where
  forward : world.now ≤ choice.now
  now : after.now = choice.now
  issued : after.issued = world.issued ∨ after.issued = choice.token :: world.issued

section Perform

variable {host : Host} {world after : WeixinWorld} {choice : WeixinChoice}

theorem store_ok {α : Type} {result : Except GatewayError (α × Disk)} {value : α}
    (stored : world.store choice result = (.ok value, after)) :
    ∃ disk, result = .ok (value, disk) ∧ after = { world.tick choice with disk } := by
  simp only [WeixinWorld.store] at stored
  split at stored
  · simp at stored
  · simp at stored
  · simp only [Prod.mk.injEq, Except.ok.injEq] at stored
    obtain ⟨rfl, rfl⟩ := stored
    exact ⟨_, rfl, rfl⟩

theorem store_error {α : Type} {result : Except GatewayError (α × Disk)} {error : GatewayError}
    (stored : world.store choice result = (.error error, after)) : after = world.tick choice := by
  simp only [WeixinWorld.store] at stored
  split at stored
  · exact (Prod.mk.inj stored).2.symm
  · exact (Prod.mk.inj stored).2.symm
  · simp at stored

/-- A file operation that writes one inbox. -/
theorem store_map_ok {accountId : String} {result : Except GatewayError Inbox} {value : Unit}
    (stored : world.store choice (result.map fun items =>
      ((), saveInbox host world.disk accountId items)) = (.ok value, after)) :
    ∃ items, result = .ok items ∧ after.disk = saveInbox host world.disk accountId items ∧
      after.now = choice.now ∧ after.issued = world.issued := by
  obtain ⟨disk, ok, rfl⟩ := store_ok stored
  obtain ⟨items, ok, same⟩ := Result.map_eq_ok.mp ok
  exact ⟨items, ok, (Prod.mk.inj same).2.symm, rfl, rfl⟩

theorem adoptAccount_disk (account : WeixinAccount) :
    (world.adoptAccount host account).disk = world.disk ∧
      (world.adoptAccount host account).issued = world.issued := by
  simp only [WeixinWorld.adoptAccount]
  split
  · exact ⟨rfl, rfl⟩
  split
  · exact ⟨rfl, rfl⟩
  split
  · exact ⟨rfl, rfl⟩
  · exact ⟨rfl, rfl⟩

/-- An operation whose success is not a store. -/
theorem DiskEffect.tick {op : WeixinOp} {answer : WeixinAns op} (idle : op.stores answer = false) :
    DiskEffect host world (world.tick choice) choice op answer :=
  .still rfl rfl idle

theorem perform_effect {op : WeixinOp} {answer : WeixinAns op}
    (performed : world.perform host op choice = some (answer, after)) :
    DiskEffect host world after choice op answer ∧ Ticks world after choice := by
  simp only [WeixinWorld.perform] at performed
  split at performed
  · simp at performed
  rename_i forward
  have forward : world.now ≤ choice.now := Int.not_lt.mp forward
  have ticked : Ticks world (world.tick choice) choice := ⟨forward, rfl, Or.inl rfl⟩
  cases op with
  | currentAccount _ | discoverAccount _ | loadSyncBuf _ | getUpdates _ _ | handleInbound _ =>
      obtain ⟨rfl, rfl⟩ := Prod.mk.inj (Option.some.inj performed)
      exact ⟨.tick rfl, ticked⟩
  | adoptAccount account =>
      obtain ⟨-, rfl⟩ := Prod.mk.inj (Option.some.inj performed)
      obtain ⟨disk, issued⟩ := @adoptAccount_disk host world account
      refine ⟨.still ?_ ?_ rfl, forward, rfl, Or.inl issued⟩
      · exact congrArg Disk.inboxes disk
      · exact congrArg Disk.cursors disk
  | setAccount account =>
      obtain ⟨-, rfl⟩ := Prod.mk.inj (Option.some.inj performed)
      exact ⟨.still rfl rfl rfl, forward, rfl, Or.inl rfl⟩
  | saveAccountFile account =>
      have stored := Option.some.inj performed
      cases answer with
      | error error =>
          rw [store_error stored]
          exact ⟨.tick rfl, ticked⟩
      | ok value =>
          obtain ⟨disk, same, rfl⟩ := store_ok stored
          obtain ⟨-, rfl⟩ := Prod.mk.inj (Except.ok.inj same)
          exact ⟨.still rfl rfl rfl, forward, rfl, Or.inl rfl⟩
  | persistBatch account updates =>
      have stored := Option.some.inj performed
      simp only [WeixinWorld.persistBatch] at stored
      split at stored
      · rename_i current
        cases answer with
        | error error =>
            rw [store_error stored]
            exact ⟨.tick rfl, ticked⟩
        | ok value =>
            obtain ⟨items, ok, saved, now, issued⟩ := store_map_ok stored
            exact ⟨.persisted current ok saved, forward, now, Or.inl issued⟩
      · obtain ⟨rfl, rfl⟩ := Prod.mk.inj stored
        exact ⟨.tick rfl, ticked⟩
  | saveSyncBuf account cursor =>
      have stored := Option.some.inj performed
      simp only [WeixinWorld.saveSyncBuf] at stored
      split at stored
      · rename_i current
        cases answer with
        | error error =>
            rw [store_error stored]
            exact ⟨.tick rfl, ticked⟩
        | ok value =>
            obtain ⟨disk, same, rfl⟩ := store_ok stored
            obtain ⟨-, rfl⟩ := Prod.mk.inj (Except.ok.inj same)
            exact ⟨.committed current rfl, forward, rfl, Or.inl rfl⟩
      · obtain ⟨rfl, rfl⟩ := Prod.mk.inj stored
        exact ⟨.tick rfl, ticked⟩
  | claimItem account owner leaseSeconds =>
      simp only [WeixinWorld.claimItem] at performed
      split at performed
      · rename_i current
        split at performed
        · have stored := Option.some.inj performed
          cases answer with
          | error error =>
              rw [store_error stored]
              exact ⟨.tick rfl, ticked⟩
          | ok value =>
              obtain ⟨disk, same, rfl⟩ := store_ok stored
              obtain ⟨rfl, rfl⟩ := Prod.mk.inj (Except.ok.inj same)
              exact ⟨.still rfl rfl rfl, forward, rfl, Or.inl rfl⟩
        · rename_i inboxId item candidate
          split at performed
          · simp at performed
          rename_i fresh
          obtain ⟨lease, expires, stored⟩ := Option.map_eq_some_iff.mp performed
          cases answer with
          | error error =>
              rw [store_error stored]
              exact ⟨.still rfl rfl rfl, forward, rfl, Or.inr rfl⟩
          | ok value =>
              obtain ⟨disk, same, rfl⟩ := store_ok stored
              obtain ⟨rfl, rfl⟩ := Prod.mk.inj (Except.ok.inj same)
              refine ⟨?_, forward, rfl, Or.inr rfl⟩
              exact @DiskEffect.claimed host world _ choice account owner inboxId leaseSeconds item
                lease current candidate fresh expires rfl rfl
      · obtain ⟨rfl, rfl⟩ := Prod.mk.inj (Option.some.inj performed)
        exact ⟨.tick rfl, ticked⟩
  | finishItem account finish =>
      have stored := Option.some.inj performed
      simp only [WeixinWorld.finishItem] at stored
      split at stored
      · rename_i current
        cases answer with
        | error error =>
            rw [store_error stored]
            exact ⟨.tick rfl, ticked⟩
        | ok value =>
            obtain ⟨items, ok, saved, now, issued⟩ := store_map_ok stored
            exact ⟨.finished current ok saved, forward, now, Or.inl issued⟩
      · obtain ⟨rfl, rfl⟩ := Prod.mk.inj stored
        exact ⟨.tick rfl, ticked⟩
  | clearAccount account =>
      have stored := Option.some.inj performed
      simp only [WeixinWorld.clearAccount] at stored
      split at stored
      · split at stored
        · obtain ⟨rfl, rfl⟩ := Prod.mk.inj stored
          exact ⟨.tick rfl, ticked⟩
        · obtain ⟨rfl, rfl⟩ := Prod.mk.inj stored
          exact ⟨.cleared rfl, forward, rfl, Or.inl rfl⟩
      · obtain ⟨rfl, rfl⟩ := Prod.mk.inj stored
        exact ⟨.tick rfl, ticked⟩

end Perform

/-! ## One record -/

/-- The account in whose inbox a step claims or finishes the record under an id. -/
def WeixinOp.handles (inboxId : String) : (op : WeixinOp) → WeixinAns op → Option WeixinAccount
  | .claimItem account _ _, .ok (some claim) =>
      if claim.inboxId = inboxId then some account else none
  | .finishItem account finish, .ok _ => if finish.inboxId = inboxId then some account else none
  | _, _ => none

/-- What a step does to the record under one id of one inbox file. -/
inductive RecordStep (host : Host) (choice : WeixinChoice) (slug inboxId : String) :
    (op : WeixinOp) → WeixinAns op → Option InboxItem → Option InboxItem → Prop
  | same {op : WeixinOp} {answer : WeixinAns op} (record : Option InboxItem)
      (other : ∀ account, op.handles inboxId answer = some account →
        safeSlug host account.accountId ≠ slug) :
      RecordStep host choice slug inboxId op answer record record
  | added {account : WeixinAccount} {updates : List Json} {payload : Json}
      (file : safeSlug host account.accountId = slug) (member : payload ∈ updates)
      (object : payload.isObject = true)
      (own : stableWeixinInboxId host account.accountId payload = inboxId) :
      RecordStep host choice slug inboxId (.persistBatch account updates) (.ok ()) none
        (some (newInboxItem host choice.now inboxId payload))
  | claimed {account : WeixinAccount} {owner : String} {leaseSeconds : Nat} {item : InboxItem}
      {lease : LeaseField} (file : safeSlug host account.accountId = slug)
      (claimable : item.claimable choice.now = true)
      (expires : deliveryClaimExpiresAt choice.now leaseSeconds = some lease) :
      RecordStep host choice slug inboxId (.claimItem account owner leaseSeconds)
        (.ok (some ⟨inboxId, choice.token, item.payload⟩)) (some item)
        (some (item.claim choice.now choice.token owner lease))
  | finished {account : WeixinAccount} {finish : InboxFinish} {item : InboxItem}
      (file : safeSlug host account.accountId = slug) (own : finish.inboxId = inboxId)
      (processing : item.status = .processing)
      (held : item.claimToken = some finish.claimToken) :
      RecordStep host choice slug inboxId (.finishItem account finish) (.ok ()) (some item)
        (some (item.finish choice.now finish))
  | cleared {account : WeixinAccount} (record : Option InboxItem)
      (file : safeSlug host account.accountId = slug) :
      RecordStep host choice slug inboxId (.clearAccount account) (.ok ()) record none

section Records

variable {host : Host} {world after : WeixinWorld} {choice : WeixinChoice}

theorem claimCandidate_some {now : Time} {items : Inbox} {inboxId : String} {item : InboxItem}
    (found : claimCandidate now items = some (inboxId, item)) :
    items[inboxId]? = some item ∧ item.claimable now = true := by
  have claimable := List.find?_some found
  have listed := List.mem_of_find?_eq_some found
  exact ⟨Std.TreeMap.mem_toList_iff_getElem?_eq_some.mp listed, claimable⟩

theorem finishItem_ok {now : Time} {finish : InboxFinish} {items stored : Inbox}
    (ok : finishItem now finish items = .ok stored) :
    ∃ item, items[finish.inboxId]? = some item ∧ item.status = .processing ∧
      item.claimToken = some finish.claimToken ∧
      stored = items.insert finish.inboxId (item.finish now finish) := by
  simp only [finishItem] at ok
  split at ok
  · simp at ok
  · rename_i item found
    split at ok
    · simp at ok
    · rename_i held
      simp only [not_or, not_not] at held
      exact ⟨item, found, held.1, held.2, (Except.ok.inj ok).symm⟩

theorem handles_stores {op : WeixinOp} {answer : WeixinAns op} {inboxId : String}
    {account : WeixinAccount} (handled : op.handles inboxId answer = some account) :
    op.stores answer = true := by
  simp only [WeixinOp.handles] at handled
  split at handled
  · rfl
  · rfl
  · simp at handled

theorem clearWeixinAccountState_item? (disk : Disk) (accountId slug inboxId : String) :
    (clearWeixinAccountState host disk accountId).item? slug inboxId =
      if safeSlug host accountId = slug then none else disk.item? slug inboxId := by
  simp only [clearWeixinAccountState, Disk.item?, Std.TreeMap.getElem?_erase,
    Std.LawfulEqCmp.compare_eq_iff_eq]
  split <;> rfl

/-- A write of one record of one inbox, seen from any record. -/
theorem insert_item? {accountId written slug inboxId : String} {item : InboxItem}
    (saved : after.disk = saveInbox host world.disk accountId
      ((loadInbox host world.disk accountId).insert written item)) :
    after.disk.item? slug inboxId =
      if safeSlug host accountId = slug ∧ written = inboxId then some item
      else world.disk.item? slug inboxId := by
  rw [saved, saveInbox_item?, Std.TreeMap.getElem?_insert]
  simp only [Std.LawfulEqCmp.compare_eq_iff_eq]
  by_cases file : safeSlug host accountId = slug
  · by_cases own : written = inboxId
    · simp [file, own]
    · simp [file, own, loadInbox_get]
  · simp [file]

theorem DiskEffect.record {op : WeixinOp} {answer : WeixinAns op}
    (effect : DiskEffect host world after choice op answer) (slug inboxId : String) :
    RecordStep host choice slug inboxId op answer (world.disk.item? slug inboxId)
      (after.disk.item? slug inboxId) := by
  cases effect with
  | still inboxes cursors idle =>
      have same : after.disk.item? slug inboxId = world.disk.item? slug inboxId := by
        simp only [Disk.item?, inboxes]
      rw [same]
      exact .same _ fun account handled => by
        have stores := handles_stores handled
        simp [idle] at stores
  | @persisted account updates items current ok saved =>
      have stored : after.disk.item? slug inboxId = if safeSlug host account.accountId = slug then
          items[inboxId]? else world.disk.item? slug inboxId := by
        rw [saved, saveInbox_item?]
      by_cases file : safeSlug host account.accountId = slug
      · rw [if_pos file] at stored
        have before := loadInbox_get host world.disk account.accountId inboxId
        rw [file] at before
        obtain ⟨kept, added⟩ := persistUpdates_ok updates ok inboxId
        rw [before] at kept added
        rw [stored]
        cases present : world.disk.item? slug inboxId with
        | some item =>
            rw [kept item present]
            exact .same _ (by simp [WeixinOp.handles])
        | none =>
            rcases added present with absent | ⟨payload, member, object, own, new⟩
            · rw [absent]
              exact .same _ (by simp [WeixinOp.handles])
            · rw [new]
              exact .added file member object own
      · rw [stored, if_neg file]
        exact .same _ (by simp [WeixinOp.handles])
  | committed current saved =>
      rw [saved, saveSyncBuf_item?]
      exact .same _ (by simp [WeixinOp.handles])
  | @claimed account owner claimed leaseSeconds item lease current candidate fresh expires saved =>
      obtain ⟨found, claimable⟩ := claimCandidate_some candidate
      rw [insert_item? saved]
      split
      · rename_i here
        obtain ⟨file, rfl⟩ := here
        rw [loadInbox_get, file] at found
        rw [found]
        exact .claimed file claimable expires
      · rename_i elsewhere
        refine .same _ fun other handled file => elsewhere ?_
        simp only [WeixinOp.handles] at handled
        split at handled
        · rename_i own
          obtain rfl := Option.some.inj handled
          exact ⟨file, own⟩
        · simp at handled
  | @finished account finish items current ok saved =>
      obtain ⟨item, found, processing, held, rfl⟩ := finishItem_ok ok
      rw [insert_item? saved]
      split
      · rename_i here
        obtain ⟨file, own⟩ := here
        rw [loadInbox_get, file, own] at found
        rw [found]
        exact .finished file own processing held
      · rename_i elsewhere
        refine .same _ fun other handled file => elsewhere ?_
        simp only [WeixinOp.handles] at handled
        split at handled
        · rename_i own
          obtain rfl := Option.some.inj handled
          exact ⟨file, own⟩
        · simp at handled
  | @cleared account saved =>
      rw [saved, clearWeixinAccountState_item?]
      by_cases file : safeSlug host account.accountId = slug
      · rw [if_pos file]
        exact .cleared _ file
      · rw [if_neg file]
        exact .same _ (by simp [WeixinOp.handles])

/-- A cursor that a step finds or leaves. -/
theorem DiskEffect.cursor {op : WeixinOp} {answer : WeixinAns op} {slug cursor : String}
    (effect : DiskEffect host world after choice op answer)
    (present : after.disk.cursors[slug]? = some cursor) :
    world.disk.cursors[slug]? = some cursor ∨ ∃ account, op = .saveSyncBuf account cursor ∧
      op.stores answer = true ∧ safeSlug host account.accountId = slug := by
  cases effect with
  | still inboxes cursors idle => exact Or.inl (by rw [← cursors, present])
  | persisted current ok saved => exact Or.inl (by simpa [saved] using present)
  | claimed current candidate fresh expires saved => exact Or.inl (by simpa [saved] using present)
  | finished current ok saved => exact Or.inl (by simpa [saved] using present)
  | @committed account written current saved =>
      rw [saved, saveSyncBuf, Std.TreeMap.getElem?_insert] at present
      simp only [Std.LawfulEqCmp.compare_eq_iff_eq] at present
      split at present
      · rename_i file
        obtain rfl := Option.some.inj present
        exact Or.inr ⟨account, rfl, rfl, file⟩
      · exact Or.inl present
  | cleared saved =>
      rw [saved, clearWeixinAccountState, Std.TreeMap.getElem?_erase] at present
      split at present
      · simp at present
      · exact Or.inl present

end Records

end Weixin

end HarborGate
