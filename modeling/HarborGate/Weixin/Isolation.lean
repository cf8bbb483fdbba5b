import HarborGate.Weixin.Effects

/-!
Which account's files a polled batch ends up in. The batch names no account: it is stored for the
account bound at the time of storing, which is the polled one unless another was bound meanwhile.
-/

namespace HarborGate

namespace Weixin

open Interleave

/-! ## The poll of a task -/

structure Polled where
  account : WeixinAccount
  batch : PollBatch

/-- The poll that a request to the provider makes. An idle timeout leaves the cursor where it is. -/
def WeixinOp.polls : (op : WeixinOp) → WeixinAns op → Option Polled
  | .getUpdates account syncBuf, .ok response => some ⟨account, readUpdates syncBuf response⟩
  | .getUpdates account syncBuf, .error _ => some ⟨account, ⟨[], syncBuf⟩⟩
  | _, _ => none

/-- The last poll of a task; none once it reads its account for the next. -/
def nextPoll (polled : Option Polled) : (op : WeixinOp) → WeixinAns op → Option Polled
  | .currentAccount .poll, _ => none
  | op, answer => (op.polls answer).or polled

/-- What the task's `poll_updates` returned; without an account it returns an empty batch. -/
def polledBatch (polled : Option Polled) : PollBatch :=
  (polled.map Polled.batch).getD ⟨[], ""⟩

def pollProtocol : Protocol WeixinOp WeixinAns (Option Polled) where
  allows
    | polled, .persistBatch _ updates => updates = (polledBatch polled).updates
    | polled, .saveSyncBuf _ cursor => cursor = (polledBatch polled).nextCursor
    | _, _ => True
  possible _ _ := True
  next := nextPoll

section Programs

variable {α β : Type} {host : Host} {polled : Option Polled}

/-- The program polls nothing. -/
def Keeps (program : WeixinRoutine α) : Prop :=
  ∀ polled, program.Follows pollProtocol polled fun after _ => after = polled

theorem keeps_ret (value : α) : Keeps (pure value : WeixinRoutine α) :=
  fun _ => rfl

theorem Keeps.bind {first : WeixinRoutine α} {next : α → WeixinRoutine β} (keeps : Keeps first)
    (continues : ∀ value, Keeps (next value)) : Keeps (first >>= next) := by
  intro polled
  refine Prog.Follows.bind (keeps polled) ?_
  rintro _ value rfl
  exact continues value _

theorem Keeps.lift {first : WeixinRoutine α} {next : α → WeixinGate β} (keeps : Keeps first)
    (continues : ∀ value, Keeps (next value).run) : Keeps (ExceptT.lift first >>= next).run := by
  intro polled
  refine Prog.Follows.routineBind (keeps polled) ?_
  rintro _ value rfl
  exact continues value _

theorem Keeps.follows {program : WeixinRoutine α} (keeps : Keeps program) :
    program.Follows pollProtocol polled fun _ _ => True :=
  (keeps polled).mono fun _ _ _ => trivial

theorem refreshAccountFromDisk_keeps : Keeps (refreshAccountFromDisk host) := by
  have adopts : ∀ account, Keeps (query (.adoptAccount account)) :=
    fun account polled => ⟨trivial, fun _ _ => rfl⟩
  have discovers : ∀ accountId, Keeps (query (.discoverAccount accountId)) :=
    fun accountId polled => ⟨trivial, fun _ _ => rfl⟩
  have reads : Keeps (query (.currentAccount .refresh)) :=
    fun polled => ⟨trivial, fun _ _ => rfl⟩
  simp only [refreshAccountFromDisk]
  refine reads.bind fun current => (discovers _).bind fun found => ?_
  cases found with
  | some account => exact adopts account
  | none =>
      refine (discovers _).bind fun configured => ?_
      cases configured with
      | some account => exact adopts account
      | none => exact keeps_ret ()

theorem account_keeps {reader : Reader} (other : reader ≠ .poll) :
    Keeps (account host reader) := by
  simp only [account]
  refine refreshAccountFromDisk_keeps.bind fun _ polled => ⟨trivial, fun _ _ => ?_⟩
  cases reader with
  | poll => exact absurd rfl other
  | refresh | configured | persist | commit | claim | finish | unbind => rfl

theorem claimInbound_keeps (owner : String) (leaseSeconds : Nat) :
    Keeps (claimInbound host owner leaseSeconds).run := by
  simp only [claimInbound]
  refine (account_keeps (by decide)).lift fun account => ?_
  split
  · exact keeps_ret _
  · exact fun polled => ⟨trivial, fun _ _ => rfl⟩

theorem finishInbound_keeps (finish : InboxFinish) : Keeps (finishInbound host finish).run := by
  simp only [finishInbound]
  exact (account_keeps (by decide)).lift fun account polled => ⟨trivial, fun _ _ => rfl⟩

theorem drainWeixinInbox_keeps (owner : String) (rounds : Nat) :
    Keeps (drainWeixinInbox host owner rounds) := by
  have handles : ∀ payload, Keeps (query (.handleInbound payload)) :=
    fun payload polled => ⟨trivial, fun _ _ => rfl⟩
  induction rounds with
  | zero => exact keeps_ret ()
  | succ rounds ih =>
      simp only [drainWeixinInbox]
      refine (claimInbound_keeps owner _).bind fun claim => ?_
      match claim with
      | .error _ => exact keeps_ret ()
      | .ok none => exact keeps_ret ()
      | .ok (some claim) =>
          refine (handles _).bind fun handled => ?_
          cases handled with
          | ok done =>
              refine (finishInbound_keeps _).bind fun finished => ?_
              cases finished with
              | ok done => exact ih
              | error error => exact keeps_ret ()
          | error error =>
              refine (finishInbound_keeps _).bind fun finished => ?_
              split
              · exact keeps_ret ()
              · exact ih

theorem returned_batch {batch : PollBatch} (own : polledBatch polled = batch) :
    Prog.Follows pollProtocol polled (pure batch : WeixinGate PollBatch).run
      fun after result => ∀ batch, result = .ok batch → polledBatch after = batch := by
  have returned : ∀ other, (Except.ok batch : Except GatewayError PollBatch) = .ok other →
      polledBatch polled = other := fun other same => own.trans (Except.ok.inj same)
  exact returned

theorem failed_poll (error : GatewayError) :
    Prog.Follows pollProtocol polled (throw error : WeixinGate PollBatch).run
      fun after result => ∀ batch, result = .ok batch → polledBatch after = batch := by
  have none : ∀ batch, (Except.error error : Except GatewayError PollBatch) = .ok batch →
      polledBatch polled = batch := by simp
  exact none

/-- What the provider answers to the poll's request is what the poll returns. -/
theorem pollUpdates_follows : Prog.Follows pollProtocol polled (pollUpdates host).run
    fun after result => ∀ batch, result = .ok batch → polledBatch after = batch := by
  simp only [pollUpdates]
  refine Prog.Follows.routineBind (refreshAccountFromDisk_keeps polled) fun middle _ _ => ?_
  have reads : (account host .poll).Follows pollProtocol middle fun after _ => after = none := by
    simp only [account]
    exact Prog.Follows.bind (refreshAccountFromDisk_keeps middle) fun _ _ _ =>
      ⟨trivial, fun _ _ => rfl⟩
  refine Prog.Follows.routineBind reads ?_
  rintro _ account rfl
  split
  · refine Prog.Follows.liftBind trivial fun syncBuf _ => ?_
    refine Prog.Follows.liftBind trivial fun answer _ => ?_
    cases answer with
    | ok response => exact returned_batch rfl
    | error error =>
        simp only [apply_ite ExceptT.run]
        by_cases idle : isIdleTimeout account error = true
        · rw [if_pos idle]
          exact returned_batch rfl
        · rw [if_neg idle]
          exact failed_poll error
  · exact returned_batch rfl

theorem persistInboundBatch_follows {updates : List Json}
    (own : updates = (polledBatch polled).updates) :
    Prog.Follows pollProtocol polled (persistInboundBatch host updates).run
      fun after _ => after = polled := by
  simp only [persistInboundBatch]
  refine Prog.Follows.routineBind (account_keeps (by decide) polled) ?_
  rintro _ account rfl
  split
  · rfl
  · exact ⟨own, fun _ _ => rfl⟩

theorem commitPollCursor_follows {cursor : String}
    (own : cursor = (polledBatch polled).nextCursor) :
    Prog.Follows pollProtocol polled (commitPollCursor host cursor).run
      fun after _ => after = polled := by
  simp only [commitPollCursor]
  refine Prog.Follows.routineBind (account_keeps (by decide) polled) ?_
  rintro _ account rfl
  split
  · rfl
  · exact ⟨own, fun _ _ => rfl⟩

theorem pollRound_follows (owner : String) :
    (pollRound host owner).Follows pollProtocol polled fun _ _ => True := by
  simp only [pollRound]
  refine Prog.Follows.bind (account_keeps (by decide) polled) fun _ account _ => ?_
  split
  · refine Prog.Follows.bind (drainWeixinInbox_keeps owner 100 _) fun _ _ _ => ?_
    refine Prog.Follows.bind pollUpdates_follows fun polled result returned => ?_
    cases result with
    | error error => trivial
    | ok batch =>
        have own : polledBatch polled = batch := returned batch rfl
        refine Prog.Follows.bind (persistInboundBatch_follows (by rw [own])) ?_
        rintro _ persisted rfl
        cases persisted with
        | error error => trivial
        | ok done =>
            refine Prog.Follows.bind (commitPollCursor_follows (by rw [own])) ?_
            rintro _ committed rfl
            cases committed with
            | error error => trivial
            | ok done => exact (drainWeixinInbox_keeps owner 100).follows
  · trivial

theorem runWeixinPollRuntime_follows (owner : String) (rounds : Nat) : ∀ polled,
    (runWeixinPollRuntime host owner rounds).Follows pollProtocol polled fun _ _ => True := by
  induction rounds with
  | zero => exact fun _ => trivial
  | succ rounds ih =>
      intro polled
      exact Prog.Follows.bind (pollRound_follows owner) fun after _ _ => ih after

theorem WeixinCall.program_follows (call : WeixinCall) :
    (call.program host).Follows pollProtocol none fun _ _ => True := by
  cases call with
  | runtime owner rounds =>
      exact Prog.Follows.bind (runWeixinPollRuntime_follows owner rounds _) fun _ _ _ => trivial
  | saveAccount account =>
      refine ⟨trivial, fun saved _ => ?_⟩
      cases saved with
      | error error => trivial
      | ok done => exact ⟨trivial, fun _ _ => trivial⟩
  | unbind =>
      have keeps : Keeps (Weixin.unbind host).run := by
        simp only [Weixin.unbind]
        refine (account_keeps (by decide)).lift fun account => ?_
        split
        · exact fun polled => ⟨trivial, fun _ _ => rfl⟩
        · exact fun polled => ⟨trivial, fun _ _ => rfl⟩
      exact keeps.follows

end Programs

/-! ## Files -/

section Runs

variable {host : Host} {disk : Disk}

/-- The last poll of a task in a run. -/
def lastPoll (trace : List (weixinMachine host).Event) (task : Nat) : Option Polled :=
  trace.foldl (fun polled event =>
    if event.task = task then nextPoll polled event.op event.answer else polled) none

theorem lastPoll_concat (trace : List (weixinMachine host).Event)
    (event : (weixinMachine host).Event) (task : Nat) :
    lastPoll (trace ++ [event]) task =
      if event.task = task then nextPoll (lastPoll trace task) event.op event.answer
      else lastPoll trace task := by
  simp [lastPoll]

def SameFiles (host : Host) (account other : WeixinAccount) : Prop :=
  safeSlug host account.accountId = safeSlug host other.accountId

/-- The account to whose inbox or sync file a step writes what was polled. -/
def WeixinOp.writes : (op : WeixinOp) → WeixinAns op → Option WeixinAccount
  | .persistBatch account updates, .ok _ => if updates.isEmpty then none else some account
  | .saveSyncBuf account _, .ok _ => some account
  | _, _ => none

/-- What a task has polled it only writes to the files of the account it polled with. -/
def Isolated (trace : List (weixinMachine host).Event) : Prop :=
  Machine.EachStep (fun earlier event => ∀ polled written, lastPoll earlier event.task = some polled →
    event.op.writes event.answer = some written → SameFiles host written polled.account) trace

/-- Whenever a task writes what it has polled, the account bound at that moment has the files of
the polled one. -/
def Unmoved (trace : List (weixinMachine host).Event) : Prop :=
  Machine.EachStep (fun earlier event => ∀ polled, lastPoll earlier event.task = some polled →
    event.op.writes event.answer ≠ none →
    SameFiles host event.before.account polled.account) trace

/-- A poll of the run with an account of the given files. -/
def PolledFor (trace : List (weixinMachine host).Event) (slug : String) (batch : PollBatch) : Prop :=
  ∃ event ∈ trace, ∃ account, event.op.polls event.answer = some ⟨account, batch⟩ ∧
    safeSlug host account.accountId = slug

/-- Everything in the files of an account was there before the run, or was polled with an account
of these files. A poll without an account resets the cursor. -/
structure FromPolls (disk : Disk) (trace : List (weixinMachine host).Event) (reached : Disk) :
    Prop where
  records : ∀ slug inboxId item, reached.item? slug inboxId = some item →
    (∃ old, disk.item? slug inboxId = some old ∧ item.payload = old.payload) ∨
      ∃ batch, PolledFor trace slug batch ∧ item.payload ∈ batch.updates
  cursors : ∀ slug cursor, reached.cursors[slug]? = some cursor →
    disk.cursors[slug]? = some cursor ∨ cursor = "" ∨
      ∃ batch, PolledFor trace slug batch ∧ cursor = batch.nextCursor

theorem PolledFor.later {trace : List (weixinMachine host).Event} {slug : String}
    {batch : PollBatch} (polled : PolledFor trace slug batch) (event : (weixinMachine host).Event) :
    PolledFor (trace ++ [event]) slug batch := by
  obtain ⟨poll, member, rest⟩ := polled
  exact ⟨poll, List.mem_append_left _ member, rest⟩

/-- A write goes to the files of the account bound at that moment. -/
theorem writes_current {world after : WeixinWorld} {choice : WeixinChoice} {op : WeixinOp}
    {answer : WeixinAns op} {written : WeixinAccount}
    (effect : DiskEffect host world after choice op answer)
    (writes : op.writes answer = some written) : world.account.accountId = written.accountId := by
  have bound : ∀ account, world.accountIsCurrent account = true →
      world.account.accountId = account.accountId := by
    intro account current
    simp only [WeixinWorld.accountIsCurrent, Bool.and_eq_true, decide_eq_true_eq] at current
    exact current.1.2
  cases effect with
  | still inboxes cursors idle =>
      simp only [WeixinOp.writes] at writes
      split at writes
      · simp [WeixinOp.stores] at idle
      · simp [WeixinOp.stores] at idle
      · simp at writes
  | persisted current ok saved =>
      simp only [WeixinOp.writes] at writes
      split at writes
      · simp at writes
      · obtain rfl := Option.some.inj writes
        exact bound _ current
  | committed current saved =>
      obtain rfl := Option.some.inj writes
      exact bound _ current
  | claimed current candidate fresh expires saved issued => simp [WeixinOp.writes] at writes
  | finished current ok saved => simp [WeixinOp.writes] at writes
  | cleared saved => simp [WeixinOp.writes] at writes

theorem isolated_iff_unmoved {trace : List (weixinMachine host).Event}
    (performed : ∀ event ∈ trace, ∃ choice,
      WeixinWorld.perform host event.before event.op choice = some (event.answer, event.after)) :
    Isolated trace ↔ Unmoved trace := by
  constructor
  · intro isolated earlier event later same polled last writes
    obtain ⟨written, writes⟩ := Option.ne_none_iff_exists'.mp writes
    obtain ⟨choice, done⟩ := performed event (by simp [same])
    have files := isolated earlier event later same polled written last writes
    rw [SameFiles, writes_current (perform_effect done).1 writes]
    exact files
  · intro unmoved earlier event later same polled written last writes
    obtain ⟨choice, done⟩ := performed event (by simp [same])
    have files := unmoved earlier event later same polled last (by simp [writes])
    rw [SameFiles, writes_current (perform_effect done).1 writes] at files
    exact files

theorem nextPoll_some {polled : Option Polled} {op : WeixinOp} {answer : WeixinAns op}
    {next : Polled} (last : nextPoll polled op answer = some next) :
    op.polls answer = some next ∨ polled = some next := by
  simp only [nextPoll] at last
  split at last
  · simp at last
  · rcases Option.or_eq_some_iff.mp last with new | ⟨-, old⟩
    · exact Or.inl new
    · exact Or.inr old

theorem lastPoll_fresh {trace : List (weixinMachine host).Event} {task : Nat}
    (fresh : ∀ event ∈ trace, event.task < task) : lastPoll trace task = none :=
  Machine.foldl_fresh fresh

/-- What holds of a task's ghost poll: it is the last one of the run, and really was made. -/
structure Tracked (trace : List (weixinMachine host).Event) (task : Nat) (polled : Option Polled) :
    Prop where
  last : polled = lastPoll trace task
  made : ∀ poll, polled = some poll → ∃ event ∈ trace, event.op.polls event.answer = some poll

theorem Tracked.other {trace : List (weixinMachine host).Event} {task : Nat}
    {polled : Option Polled} (tracked : Tracked trace task polled)
    {event : (weixinMachine host).Event} (other : task ≠ event.task) :
    Tracked (trace ++ [event]) task polled := by
  constructor
  · rw [lastPoll_concat, if_neg (Ne.symm other)]
    exact tracked.last
  · intro poll same
    obtain ⟨source, member, polls⟩ := tracked.made poll same
    exact ⟨source, List.mem_append_left _ member, polls⟩

theorem Tracked.step {trace : List (weixinMachine host).Event} {polled : Option Polled}
    {event : (weixinMachine host).Event} (tracked : Tracked trace event.task polled) :
    Tracked (trace ++ [event]) event.task (nextPoll polled event.op event.answer) := by
  constructor
  · rw [lastPoll_concat, if_pos rfl, tracked.last]
  · intro poll same
    rcases nextPoll_some same with new | old
    · exact ⟨event, by simp, new⟩
    · obtain ⟨source, member, polls⟩ := tracked.made poll old
      exact ⟨source, List.mem_append_left _ member, polls⟩

/-- A batch that a task writes to some files was polled for them. -/
theorem Tracked.polledFor {trace : List (weixinMachine host).Event} {polled : Option Polled}
    {event : (weixinMachine host).Event} {account : WeixinAccount} {poll : Polled}
    (tracked : Tracked trace event.task polled) (same : polled = some poll)
    (isolated : Isolated (trace ++ [event]))
    (writes : event.op.writes event.answer = some account) :
    PolledFor (trace ++ [event]) (safeSlug host account.accountId) poll.batch := by
  have files : SameFiles host account poll.account :=
    isolated trace event [] rfl poll account (tracked.last.symm.trans same) writes
  obtain ⟨source, member, polls⟩ := tracked.made poll same
  exact ⟨source, List.mem_append_left _ member, poll.account, polls, files.symm⟩

theorem FromPolls.step {world after : WeixinWorld} {trace : List (weixinMachine host).Event}
    {task : Nat} {op : WeixinOp} {choice : WeixinChoice} {answer : WeixinAns op}
    {polled : Option Polled} (from_ : FromPolls disk trace world.disk)
    (tracked : Tracked trace task polled) (allowed : pollProtocol.allows polled op)
    (effect : DiskEffect host world after choice op answer)
    (isolated : @Isolated host (trace ++ [⟨task, op, answer, world, after⟩])) :
    FromPolls disk (trace ++ [⟨task, op, answer, world, after⟩]) after.disk := by
  constructor
  · intro slug inboxId item present
    have before : ∀ old, world.disk.item? slug inboxId = some old → item.payload = old.payload →
        (∃ old, disk.item? slug inboxId = some old ∧ item.payload = old.payload) ∨
          ∃ batch, PolledFor (trace ++ [⟨task, op, answer, world, after⟩]) slug batch ∧
            item.payload ∈ batch.updates := by
      intro old found same
      rcases from_.records slug inboxId old found with ⟨first, was, kept⟩ | ⟨batch, for_, member⟩
      · exact Or.inl ⟨first, was, same.trans kept⟩
      · exact Or.inr ⟨batch, for_.later _, same ▸ member⟩
    have step := effect.record slug inboxId
    rw [present] at step
    generalize found : world.disk.item? slug inboxId = record at step
    cases step with
    | same _ other => exact before item found rfl
    | claimed file claimable expires => exact before _ found rfl
    | finished file own processing held => exact before _ found rfl
    | @added account updates payload file member object own =>
        have batch : updates = (polledBatch polled).updates := allowed
        cases polled with
        | none => simp [polledBatch, batch] at member
        | some poll =>
            have nonempty : updates.isEmpty = false := by
              cases updates with
              | nil => simp at member
              | cons head rest => rfl
            refine Or.inr ⟨poll.batch, ?_, ?_⟩
            · rw [← file]
              exact @Tracked.polledFor host trace (some poll)
                ⟨task, .persistBatch account updates, .ok (), world, after⟩ account poll
                tracked rfl isolated (by simp [WeixinOp.writes, nonempty])
            · rw [batch] at member
              exact member
  · intro slug cursor present
    rcases effect.cursor present with old | ⟨account, rfl, stored, file⟩
    · rcases from_.cursors slug cursor old with first | reset | ⟨batch, for_, same⟩
      · exact Or.inl first
      · exact Or.inr (Or.inl reset)
      · exact Or.inr (Or.inr ⟨batch, for_.later _, same⟩)
    · have batch : cursor = (polledBatch polled).nextCursor := allowed
      cases polled with
      | none => exact Or.inr (Or.inl batch)
      | some poll =>
          cases answer with
          | error error => simp [WeixinOp.stores] at stored
          | ok done =>
              refine Or.inr (Or.inr ⟨poll.batch, ?_, batch⟩)
              rw [← file]
              exact @Tracked.polledFor host trace (some poll)
                ⟨task, .saveSyncBuf account cursor, .ok done, world, after⟩ account poll tracked rfl
                isolated rfl

theorem poll_steady : @Machine.Steady WeixinOp WeixinAns (Option Polled) (weixinMachine host)
    (fun _ => pollProtocol) (fun _ => True) fun _ => True :=
  ⟨fun _ _ _ _ _ _ _ => ⟨trivial, fun _ => trivial⟩, fun _ _ _ _ => trivial⟩

/-- In every run with any calls in between, what was polled only reaches the files of the polled
account exactly if no account with other files is bound when the task that polled it writes it; and
then nothing is ever in the files of an account that was not polled for them. -/
theorem polls_stay_with_their_account_iff {moves : List (weixinMachine host).Move}
    {system : (weixinMachine host).System}
    (played : (Machine.System.boot (WeixinWorld.initial host disk)).play moves = some system) :
    (Isolated system.trace ↔ Unmoved system.trace) ∧
      (Unmoved system.trace → FromPolls disk system.trace system.world.disk) := by
  obtain ⟨phases, run, -⟩ := Machine.play_phased_boot poll_steady
    (fun call _ => WeixinCall.program_follows call) (fun _ _ => trivial) trivial played
  have exact_ : Isolated system.trace ↔ Unmoved system.trace :=
    isolated_iff_unmoved fun event member =>
      (run.performed event member).imp fun choice done => done.2
  refine ⟨exact_, fun unmoved => ?_⟩
  have maintained := Machine.Phased.maintains
    (fun world trace => Isolated trace → FromPolls disk trace world.disk)
    (fun _ trace task _ polled => Tracked trace task polled) ?boot ?start ?step ?outside run
  · exact maintained.1 (exact_.mpr unmoved)
  case boot =>
    exact fun _ => ⟨fun _ _ item present => Or.inl ⟨item, present, rfl⟩,
      fun _ _ present => Or.inl present⟩
  case start =>
    intro world phases trace call _ run _
    exact ⟨(lastPoll_fresh run.trace_tasks).symm, by simp⟩
  case step =>
    intro world after phases trace task call polled op choice answer run each holder allowed _
      performed kept
    have tracked := each task call polled holder
    refine ⟨fun isolated => ?_, @Tracked.step host trace polled ⟨task, op, answer, world, after⟩ tracked,
      fun other started otherPolled different _ old => old.other different⟩
    have earlier := (Machine.eachStep_concat.mp isolated).1
    exact (kept earlier).step tracked allowed (perform_effect performed).1 isolated
  case outside =>
    exact fun world trace event _ kept => ⟨kept, fun _ _ _ old => old⟩

end Runs

/-! ## Another account bound during a poll -/

def secondAccount : WeixinAccount :=
  ⟨"second", "token", "", ""⟩

/-- The second account is bound after the first was polled, before the batch is stored. -/
def rebindingMoves : List (weixinMachine plainHost).Move :=
  .start (.runtime "owner" 1) :: .start (.saveAccount secondAccount) ::
    (List.replicate 18 (.step 0 polledChoice) ++ List.replicate 2 (.step 1 polledChoice) ++
      List.replicate 10 (.step 0 polledChoice))

/-- The step writes what was polled to the files of another account. -/
def strays (earlier : List (weixinMachine plainHost).Event)
    (event : (weixinMachine plainHost).Event) : Bool :=
  (lastPoll earlier event.task).any fun polled =>
    (event.op.writes event.answer).any fun written =>
      safeSlug plainHost written.accountId ≠ safeSlug plainHost polled.account.accountId

theorem strays_not_isolated {events : List (weixinMachine plainHost).Event} {count : Nat}
    (stray : (events[count]?).any (strays (events.take count)) = true) : ¬Isolated events := by
  intro isolated
  obtain ⟨event, found, stray⟩ := (Option.any_eq_true _ _).mp stray
  obtain ⟨polled, last, stray⟩ := (Option.any_eq_true _ _).mp stray
  obtain ⟨written, writes, other⟩ := (Option.any_eq_true _ _).mp stray
  obtain ⟨bound, rfl⟩ := List.getElem?_eq_some_iff.mp found
  have split : events = events.take count ++ events[count] :: events.drop (count + 1) := by
    rw [List.getElem_cons_drop, List.take_append_drop]
  have files := isolated _ _ _ split polled written last writes
  exact of_decide_eq_true other files

/-- A batch polled with the first account is stored in the inbox of the second. -/
theorem rebinding_strays : ∃ system,
    (Machine.System.boot (WeixinWorld.initial plainHost boundDisk)).play rebindingMoves =
      some system ∧ ¬Isolated system.trace ∧
      (system.world.disk.item? "second" "wxinbox_second/m1").isSome = true := by
  have played : ((Machine.System.boot (WeixinWorld.initial plainHost boundDisk)).play
      rebindingMoves).any (fun system =>
        (system.trace[24]?).any (strays (system.trace.take 24)) &&
          (system.world.disk.item? "second" "wxinbox_second/m1").isSome) = true := by
    decide
  obtain ⟨system, reached, facts⟩ := (Option.any_eq_true _ _).mp played
  simp only [Bool.and_eq_true] at facts
  exact ⟨system, reached, strays_not_isolated facts.1, facts.2⟩

theorem rebinding_run_is_settled : ∃ system,
    (Machine.System.boot (WeixinWorld.initial plainHost boundDisk)).play rebindingMoves =
      some system ∧ (Isolated system.trace ↔ Unmoved system.trace) := by
  have played : ((Machine.System.boot (WeixinWorld.initial plainHost boundDisk)).play
      rebindingMoves).isSome = true := by decide
  obtain ⟨system, reached⟩ := Option.isSome_iff_exists.mp played
  exact ⟨system, reached, (polls_stay_with_their_account_iff reached).1⟩

end Weixin

end HarborGate
