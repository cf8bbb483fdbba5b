import HarborGate.Lib.Lease
import HarborGate.Weixin.Delivered

/-!
The claims of one bound account's inbox records, seen as leases: which claims of a record may
follow each other, and that a record given up or done is never taken up again.
-/

namespace HarborGate

namespace Weixin

open Interleave

/-! ## Records as leases -/

def WeixinOp.claim? : (op : WeixinOp) → WeixinAns op → Option InboundClaim
  | .claimItem _ _ _, .ok claim => claim
  | _, _ => none

def WeixinOp.finish? : (op : WeixinOp) → WeixinAns op → Option InboxFinish
  | .finishItem _ finish, .ok _ => some finish
  | _, _ => none

/-- A lease that cannot be read is over. -/
def InboxItem.due (item : InboxItem) : Int :=
  match item.claimExpiresAt with
  | .at expiry => expiry
  | _ => 0

def InboxItem.slot (keep : Int) (item : InboxItem) : Lease.Slot Uuid :=
  match item.status, item.claimToken with
  | .processing, some token => .held token item.due
  | .processing, none => .free
  | .pending, _ | .failed, _ => if item.retryable then .free else .closed keep
  | .succeeded, _ | .terminalFailed, _ => .closed keep

def recordSlot (keep : Int) : Option InboxItem → Lease.Slot Uuid
  | none => .absent
  | some item => item.slot keep

/-- What a step says about the record under an id. A finish gives the record back and then may
close it. -/
def entries (inboxId : String) (now : Int) (op : WeixinOp) (answer : WeixinAns op) :
    List (Lease.Entry Uuid) :=
  match op.claim? answer, op.finish? answer with
  | some claim, _ =>
      [⟨now, if claim.inboxId = inboxId then .claim claim.claimToken else .idle⟩]
  | none, some finish =>
      if finish.inboxId = inboxId then [⟨now, .release finish.claimToken⟩, ⟨now, .idle⟩]
      else [⟨now, .idle⟩]
  | none, none => [⟨now, .idle⟩]

theorem due_passed {item : InboxItem} {now : Time} (start : 0 ≤ now) :
    item.due ≤ now ↔ claimIsUnexpired now item = false := by
  simp only [InboxItem.due, claimIsUnexpired]
  cases item.claimExpiresAt with
  | «at» expiry => simp
  | absent | null | malformed => simp [start]

section Slots

variable {host : Host} {choice : WeixinChoice} {slug inboxId : String} {keep : Int}

theorem slot_claimable {item : InboxItem} {now : Time} {token : Uuid} {due : Int}
    (start : 0 ≤ now) (claimable : item.claimable now = true) :
    Lease.Step now (item.slot keep) (.claim token) (.held token due) := by
  simp only [InboxItem.claimable, Bool.or_eq_true, Bool.and_eq_true, decide_eq_true_eq,
    Bool.not_eq_true'] at claimable
  rcases claimable with ⟨open_ | open_, retryable⟩ | ⟨processing, over_⟩
  · simp only [InboxItem.slot, open_, retryable, if_true]
    exact .claim token due
  · simp only [InboxItem.slot, open_, retryable, if_true]
    exact .claim token due
  · have passed : item.due ≤ now := (due_passed start).mpr over_
    simp only [InboxItem.slot, processing]
    cases item.claimToken with
    | none => exact .claim token due
    | some old => exact .reclaim token due passed

theorem slot_finished {item : InboxItem} {finish : InboxFinish} {now : Time} :
    Lease.Step now (.free : Lease.Slot Uuid) .idle ((item.finish now finish).slot keep) := by
  cases done : finish.succeeded with
  | true =>
      simp only [InboxItem.finish, InboxItem.slot, done, if_true]
      exact .drop keep
  | false =>
      cases again : finish.retryable with
      | true =>
          simp only [InboxItem.finish, InboxItem.slot, done, again]
          exact .stay .free
      | false =>
          simp only [InboxItem.finish, InboxItem.slot, done, again]
          exact .drop keep

theorem entries_idle {op : WeixinOp} {answer : WeixinAns op} {now : Int}
    (other : op.handles inboxId answer = none) : entries inboxId now op answer = [⟨now, .idle⟩] := by
  cases op with
  | claimItem account owner leaseSeconds =>
      match answer with
      | .error _ => rfl
      | .ok none => rfl
      | .ok (some claim) =>
          have elsewhere : claim.inboxId ≠ inboxId := by simpa [WeixinOp.handles] using other
          simp [entries, WeixinOp.claim?, elsewhere]
  | finishItem account finish =>
      cases answer with
      | error error => rfl
      | ok done =>
          have elsewhere : finish.inboxId ≠ inboxId := by simpa [WeixinOp.handles] using other
          simp [entries, WeixinOp.claim?, WeixinOp.finish?, elsewhere]
  | _ => rfl

/-- Every step of the adapter is a step of the lease of each record. -/
theorem RecordStep.lease {op : WeixinOp} {answer : WeixinAns op} {before record : Option InboxItem}
    (step : RecordStep host choice slug inboxId op answer before record)
    (start : 0 ≤ choice.now) (remains : ∀ account, op ≠ .clearAccount account)
    (own : ∀ account, op.handles inboxId answer = some account →
      safeSlug host account.accountId = slug) :
    Lease.Run (recordSlot keep before) (entries inboxId choice.now op answer)
      (recordSlot keep record) := by
  cases step with
  | same _ other =>
      have elsewhere : op.handles inboxId answer = none := by
        cases handled : op.handles inboxId answer with
        | none => rfl
        | some account => exact absurd (own account handled) (other account handled)
      rw [entries_idle elsewhere]
      exact .single (.stay _)
  | added file member object same => exact .single .add
  | claimed file claimable expires =>
      simp only [entries, WeixinOp.claim?, if_true]
      exact .single (slot_claimable start claimable)
  | @finished account finish item file same processing held =>
      simp only [entries, WeixinOp.claim?, WeixinOp.finish?, same, if_true, recordSlot]
      refine .cons ?_ (.single slot_finished)
      simp only [InboxItem.slot, processing, held]
      exact .release finish.claimToken item.due
  | @cleared account => exact absurd rfl (remains account)

end Slots

/-! ## Runs -/

section Runs

variable {host : Host} {bound : WeixinAccount}

/-- What is seen of a world whatever comes from outside. -/
def seen (world : WeixinWorld) : Disk × Time × List Uuid :=
  (world.disk, world.now, world.issued)

abbrev Seen (host : Host) (first : Disk × Time × List Uuid)
    (trace : List (weixinMachine host).Event) (last : Disk × Time × List Uuid) : Prop :=
  @Machine.Linked WeixinOp WeixinAns (weixinMachine host) _ seen first trace last

/-- A step of the bound account. -/
structure Ordinary (bound : WeixinAccount) (event : (weixinMachine host).Event) : Prop where
  account : event.before.account = bound
  remains : ∀ account, event.op ≠ .clearAccount account
  performed : ∃ choice,
    WeixinWorld.perform host event.before event.op choice = some (event.answer, event.after)

/-- The entries of a whole history for the record under an id. -/
def history (inboxId : String) (trace : List (weixinMachine host).Event) :
    List (Lease.Entry Uuid) :=
  trace.flatMap fun event => entries inboxId event.after.now event.op event.answer

theorem handles_current {world after : WeixinWorld} {choice : WeixinChoice} {op : WeixinOp}
    {answer : WeixinAns op} {inboxId : String} {account : WeixinAccount}
    (effect : DiskEffect host world after choice op answer)
    (handled : op.handles inboxId answer = some account) :
    account.accountId = world.account.accountId := by
  have same : ∀ other, world.accountIsCurrent other = true →
      other.accountId = world.account.accountId := by
    intro other current
    simp only [WeixinWorld.accountIsCurrent, Bool.and_eq_true, decide_eq_true_eq] at current
    exact current.1.2.symm
  cases effect with
  | still inboxes cursors idle =>
      have stores := handles_stores handled
      simp [idle] at stores
  | claimed current candidate fresh expires saved issued =>
      simp only [WeixinOp.handles] at handled
      split at handled
      · obtain rfl := Option.some.inj handled
        exact same _ current
      · simp at handled
  | finished current ok saved =>
      simp only [WeixinOp.handles] at handled
      split at handled
      · obtain rfl := Option.some.inj handled
        exact same _ current
      · simp at handled
  | persisted current ok saved => simp [WeixinOp.handles] at handled
  | committed current saved => simp [WeixinOp.handles] at handled
  | cleared saved => simp [WeixinOp.handles] at handled

/-- Time does not run backwards, and tokens stay issued. -/
theorem Seen.forward {trace : List (weixinMachine host).Event} {last : Disk × Time × List Uuid} :
    ∀ {first : Disk × Time × List Uuid}, Seen host first trace last →
    (∀ event ∈ trace, Ordinary bound event) →
    first.2.1 ≤ last.2.1 ∧ (∀ token ∈ first.2.2, token ∈ last.2.2) ∧
      ∀ event ∈ trace, first.2.1 ≤ event.after.now ∧ event.after.now ≤ last.2.1 := by
  induction trace with
  | nil =>
      rintro first rfl _
      exact ⟨Int.le_refl _, fun _ issued => issued, by simp⟩
  | cons event rest ih =>
      rintro first ⟨rfl, linked⟩ ordinary
      obtain ⟨choice, performed⟩ := (ordinary event List.mem_cons_self).performed
      obtain ⟨-, ticks⟩ := perform_effect performed
      have step : event.before.now ≤ event.after.now := by
        rw [ticks.now]
        exact ticks.forward
      have issued : ∀ token ∈ event.before.issued, token ∈ event.after.issued := by
        intro token member
        rcases ticks.issued with same | new
        · rw [same]
          exact member
        · rw [new]
          exact List.mem_cons_of_mem _ member
      obtain ⟨later, kept, between⟩ :=
        ih linked fun other member => ordinary other (List.mem_cons_of_mem _ member)
      have later : event.after.now ≤ last.2.1 := later
      refine ⟨Int.le_trans step later, fun token member => kept token (issued token member), ?_⟩
      intro other member
      rcases List.mem_cons.mp member with rfl | member
      · exact ⟨step, later⟩
      · obtain ⟨after, before⟩ := between other member
        exact ⟨Int.le_trans step after, before⟩

/-- The history of a record is a run of its lease. -/
theorem Seen.lease {trace : List (weixinMachine host).Event} {last : Disk × Time × List Uuid}
    {keep : Int} {inboxId : String} : ∀ {first : Disk × Time × List Uuid},
    Seen host first trace last → (∀ event ∈ trace, Ordinary bound event) → 0 ≤ first.2.1 →
    Lease.Run (recordSlot keep (first.1.item? (safeSlug host bound.accountId) inboxId))
      (history inboxId trace)
      (recordSlot keep (last.1.item? (safeSlug host bound.accountId) inboxId)) := by
  induction trace with
  | nil =>
      rintro first rfl _ _
      exact .nil _
  | cons event rest ih =>
      rintro first ⟨rfl, linked⟩ ordinary start
      have own := ordinary event List.mem_cons_self
      obtain ⟨choice, performed⟩ := own.performed
      obtain ⟨effect, ticks⟩ := perform_effect performed
      have start : 0 ≤ choice.now := Int.le_trans start ticks.forward
      have handled : ∀ account, event.op.handles inboxId event.answer = some account →
          safeSlug host account.accountId = safeSlug host bound.accountId := by
        intro account handled
        rw [handles_current effect handled, own.account]
      have step : Lease.Run (recordSlot keep _) _ (recordSlot keep _) :=
        (effect.record (safeSlug host bound.accountId) inboxId).lease start own.remains handled
      have rest := ih linked (fun other member => ordinary other (List.mem_cons_of_mem _ member))
        (by rw [seen, ticks.now]; exact start)
      rw [← ticks.now] at step
      exact step.append rest

/-- A claim gives its record a token that was never issued. -/
theorem claim_fresh {event : (weixinMachine host).Event} {claim : InboundClaim}
    (ordinary : Ordinary bound event) (claims : event.op.claim? event.answer = some claim) :
    claim.claimToken ∉ event.before.issued ∧ claim.claimToken ∈ event.after.issued ∧
      ∃ item, event.after.disk.item? (safeSlug host bound.accountId) claim.inboxId = some item ∧
        item.status = .processing ∧ item.claimToken = some claim.claimToken := by
  obtain ⟨task, op, answer, before, after⟩ := event
  obtain ⟨choice, performed⟩ := ordinary.performed
  obtain ⟨effect, -⟩ := perform_effect performed
  dsimp only at claims effect
  cases effect with
  | still inboxes cursors idle =>
      simp only [WeixinOp.claim?] at claims
      split at claims
      · subst claims
        simp [WeixinOp.stores] at idle
      · simp at claims
  | @claimed account owner inboxId leaseSeconds item lease current candidate fresh expires saved
      issued =>
      obtain rfl := Option.some.inj claims
      have same : account.accountId = bound.accountId := by
        have own := ordinary.account
        dsimp only at own
        simp only [WeixinWorld.accountIsCurrent, Bool.and_eq_true, decide_eq_true_eq] at current
        rw [← current.1.2, own]
      refine ⟨fresh, ?_, item.claim choice.now choice.token owner lease, ?_, rfl, rfl⟩
      · rw [issued]
        exact List.mem_cons_self
      · rw [← same, insert_item? saved, if_pos ⟨rfl, rfl⟩]
  | finished current ok saved => simp [WeixinOp.claim?] at claims
  | persisted current ok saved => simp [WeixinOp.claim?] at claims
  | committed current saved => simp [WeixinOp.claim?] at claims
  | cleared saved => simp [WeixinOp.claim?] at claims

theorem entries_claim {inboxId : String} {now : Int} {op : WeixinOp} {answer : WeixinAns op}
    {claim : InboundClaim} (claims : op.claim? answer = some claim)
    (own : claim.inboxId = inboxId) :
    entries inboxId now op answer = [⟨now, .claim claim.claimToken⟩] := by
  simp only [entries, claims, own, if_true]

/-- Every entry of a history tells of an event. -/
theorem history_entry {inboxId : String} {trace : List (weixinMachine host).Event}
    {entry : Lease.Entry Uuid} (member : entry ∈ history inboxId trace) :
    ∃ event ∈ trace, entry.now = event.after.now ∧
      (∀ token, entry.label = .claim token → ∃ claim,
        event.op.claim? event.answer = some claim ∧ claim.claimToken = token) ∧
      (∀ token, entry.label = .release token → ∃ finish,
        event.op.finish? event.answer = some finish ∧ finish.inboxId = inboxId ∧
          finish.claimToken = token) := by
  obtain ⟨event, present, listed⟩ := List.mem_flatMap.mp member
  refine ⟨event, present, ?_⟩
  simp only [entries] at listed
  split at listed
  · rename_i claim claims
    obtain rfl := List.mem_singleton.mp listed
    refine ⟨rfl, fun token same => ⟨claim, claims, ?_⟩, fun token same => ?_⟩
    · dsimp only at same
      split at same
      · exact Lease.Label.claim.inj same
      · simp at same
    · dsimp only at same
      split at same
      · simp at same
      · simp at same
  · rename_i finish none finishes
    split at listed
    · rename_i own
      rcases List.mem_cons.mp listed with rfl | listed
      · exact ⟨rfl, by simp, fun token same =>
          ⟨finish, finishes, own, Lease.Label.release.inj same⟩⟩
      · obtain rfl := List.mem_singleton.mp listed
        exact ⟨rfl, by simp, by simp⟩
    · obtain rfl := List.mem_singleton.mp listed
      exact ⟨rfl, by simp, by simp⟩
  · obtain rfl := List.mem_singleton.mp listed
    exact ⟨rfl, by simp, by simp⟩

/-- A closed record is not claimed any more. -/
theorem Seen.closed {later : List (weixinMachine host).Event}
    {first last : Disk × Time × List Uuid} {inboxId : String} {item : InboxItem}
    (linked : Seen host first later last) (ordinary : ∀ event ∈ later, Ordinary bound event)
    (start : 0 ≤ first.2.1)
    (present : first.1.item? (safeSlug host bound.accountId) inboxId = some item)
    (closed : item.status = .succeeded ∨ item.status = .terminalFailed) :
    ∀ event ∈ later, ∀ claim, event.op.claim? event.answer = some claim →
      claim.inboxId ≠ inboxId := by
  intro event member claim claims own
  have slot : recordSlot (last.2.1 + 1) (some item) = .closed (last.2.1 + 1) := by
    rcases closed with same | same
    · simp [recordSlot, InboxItem.slot, same]
    · simp [recordSlot, InboxItem.slot, same]
  have run := @Seen.lease host bound later last (last.2.1 + 1) inboxId first linked ordinary start
  rw [present, slot] at run
  have early : ∀ entry ∈ history inboxId later, entry.now < last.2.1 + 1 := by
    intro entry listed
    obtain ⟨source, present, now, -⟩ := history_entry listed
    have bound : source.after.now ≤ last.2.1 := ((linked.forward ordinary).2.2 source present).2
    rw [now]
    exact Int.lt_add_one_of_le bound
  have idle := (run.closed_stays early).2
  have listed : (⟨event.after.now, .claim claim.claimToken⟩ : Lease.Entry Uuid) ∈
      history inboxId later := by
    refine List.mem_flatMap.mpr ⟨event, member, ?_⟩
    rw [entries_claim claims own]
    exact List.mem_singleton.mpr rfl
  have label := idle _ listed
  simp at label

/-- After a claim its record is held until the claimant finishes it or its lease is over. -/
theorem Seen.claims_apart {between later : List (weixinMachine host).Event}
    {first second : (weixinMachine host).Event} {start last : Disk × Time × List Uuid}
    {claim again : InboundClaim}
    (linked : Seen host start (first :: between ++ second :: later) last)
    (ordinary : ∀ event ∈ first :: between ++ second :: later, Ordinary bound event)
    (begins : 0 ≤ start.2.1) (claims : first.op.claim? first.answer = some claim)
    (reclaims : second.op.claim? second.answer = some again) (same : again.inboxId = claim.inboxId) :
    (∃ event ∈ between, ∃ finish, event.op.finish? event.answer = some finish ∧
      finish.inboxId = claim.inboxId ∧ finish.claimToken = claim.claimToken) ∨
    ∃ item, first.after.disk.item? (safeSlug host bound.accountId) claim.inboxId = some item ∧
      item.claimToken = some claim.claimToken ∧
      claimIsUnexpired second.after.now item = false := by
  obtain ⟨rfl, linked⟩ := linked
  have linked : Seen host (seen first.after) (between ++ second :: later) last := linked
  have own := ordinary first (by simp)
  have rest : ∀ event ∈ between ++ second :: later, Ordinary bound event :=
    fun event member => ordinary event (List.mem_cons_of_mem _ member)
  obtain ⟨-, -, item, found, processing, held⟩ := claim_fresh own claims
  obtain ⟨choice, performed⟩ := own.performed
  have ticks := (perform_effect performed).2
  have begins : 0 ≤ first.after.now := by
    rw [ticks.now]
    exact Int.le_trans begins ticks.forward
  have slot : recordSlot 0 (some item) = .held claim.claimToken item.due := by
    simp only [recordSlot, InboxItem.slot, processing, held]
  have run := @Seen.lease host bound _ last 0 claim.inboxId _ linked rest begins
  have split : history claim.inboxId (between ++ second :: later) =
      history claim.inboxId between ++
        ⟨second.after.now, .claim again.claimToken⟩ :: history claim.inboxId later := by
    simp only [history, List.flatMap_append, List.flatMap_cons, entries_claim reclaims same,
      List.singleton_append]
  have present : (seen first.after).1.item? (safeSlug host bound.accountId) claim.inboxId =
      some item := found
  rw [split, present, slot] at run
  obtain ⟨middle, before, after⟩ := Machine.linked_append.mp linked
  have ordered : ∀ entry ∈ history claim.inboxId between, entry.now ≤ second.after.now := by
    intro entry listed
    obtain ⟨source, member, now, -⟩ := history_entry listed
    have early : source.after.now ≤ middle.2.1 :=
      ((Seen.forward before fun event member => rest event
        (List.mem_append_left _ member)).2.2 source member).2
    have later : middle.2.1 ≤ second.after.now :=
      ((Seen.forward after fun event member => rest event
        (List.mem_append_right _ member)).2.2 second List.mem_cons_self).1
    rw [now]
    exact Int.le_trans early later
  rcases run.claims_separated ordered with ⟨entry, listed, released⟩ | passed
  · obtain ⟨source, member, -, -, finishes⟩ := history_entry listed
    exact Or.inl ⟨source, member, finishes _ released⟩
  · have now : 0 ≤ second.after.now :=
      Int.le_trans begins ((linked.forward rest).2.2 second (by simp)).1
    exact Or.inr ⟨item, found, held, (due_passed now).mp passed⟩

/-- The token of an earlier claim does not hold its record once it was claimed again. -/
theorem Seen.superseded {between later : List (weixinMachine host).Event}
    {first second : (weixinMachine host).Event} {start last : Disk × Time × List Uuid}
    {claim again : InboundClaim} {item : InboxItem}
    (linked : Seen host start (first :: between ++ second :: later) last)
    (ordinary : ∀ event ∈ first :: between ++ second :: later, Ordinary bound event)
    (begins : 0 ≤ start.2.1) (claims : first.op.claim? first.answer = some claim)
    (reclaims : second.op.claim? second.answer = some again) (same : again.inboxId = claim.inboxId)
    (present : last.1.item? (safeSlug host bound.accountId) claim.inboxId = some item) :
    item.status ≠ .processing ∨ item.claimToken ≠ some claim.claimToken := by
  have run := @Seen.lease host bound _ last 0 claim.inboxId _ linked ordinary begins
  have split : history claim.inboxId (first :: between ++ second :: later) =
      history claim.inboxId (first :: between) ++
        ⟨second.after.now, .claim again.claimToken⟩ :: history claim.inboxId later := by
    simp only [history, List.flatMap_append, List.flatMap_cons, entries_claim reclaims same,
      List.singleton_append]
  rw [split] at run
  obtain ⟨rfl, rest⟩ := linked
  obtain ⟨-, issued, -⟩ := claim_fresh (ordinary first (by simp)) claims
  obtain ⟨middle, before, after⟩ := Machine.linked_append.mp rest
  have known : claim.claimToken ∈ middle.2.2 :=
    (Seen.forward before fun event member => ordinary event (by
      simp only [List.cons_append, List.mem_cons, List.mem_append]
      exact Or.inr (Or.inl member))).2.1 _ issued
  -- A token that is issued is given to no later claim.
  have others : ∀ event ∈ second :: later, ∀ other, event.op.claim? event.answer = some other →
      other.claimToken ≠ claim.claimToken := by
    intro event member other claims same
    obtain ⟨earlier, rest, whole⟩ := List.append_of_mem member
    rw [whole] at after
    obtain ⟨state, left, right⟩ := Machine.linked_append.mp after
    have ordinary : ∀ event ∈ second :: later, Ordinary bound event := fun event member =>
      ordinary event (List.mem_cons_of_mem _ (List.mem_append_right _ member))
    have stays := (Seen.forward left fun event member => ordinary event (by
      rw [whole]
      exact List.mem_append_left _ member)).2.1 _ known
    obtain ⟨rfl, -⟩ := right
    have fresh := (claim_fresh (ordinary event member) claims).1
    rw [same] at fresh
    exact fresh stays
  have fresh : ∀ entry ∈ history claim.inboxId later, entry.label ≠ .claim claim.claimToken := by
    intro entry listed label
    obtain ⟨source, member, -, claimed, -⟩ := history_entry listed
    obtain ⟨other, claims, same⟩ := claimed _ label
    exact others source (List.mem_cons_of_mem _ member) other claims same
  have unheld := run.superseded (others second List.mem_cons_self again reclaims) fresh
  by_contra holds
  simp only [not_or, not_not] at holds
  refine unheld item.due ?_
  rw [present]
  simp only [recordSlot, InboxItem.slot, holds.1, holds.2]

end Runs

/-! ## The inbox -/

section Inbox

variable {host : Host} {disk : Disk} {bound : WeixinAccount}

end Inbox

end Weixin

end HarborGate
