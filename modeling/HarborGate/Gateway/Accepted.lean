import HarborGate.Gateway.Fencing

/-!
Sends that the adapter accepted, and the items that end as failed afterwards. Between the two the
success of the stage has to reach the ledger: its store error is returned like an error of the
adapter, and the same branch that records a failed send records this one.
-/

namespace HarborGate

open Interleave

/-! ## Events on a claim -/

/-- The claim under which the adapter accepted a message. -/
def Op.accepted? : (op : Op) → Ans op → Option Uuid
  | .sendPreparedOutbound _ _ _ context, .ok _ => some context.claimToken
  | _, _ => none

/-- The claim under which the store refused the success of a stage. -/
def Op.unnoted? : (op : Op) → Ans op → Option Uuid
  | .finishDeliveryStage completion, .error _ =>
      if completion.status = .succeeded then some completion.claimToken else none
  | _, _ => none

section

variable {digests : Digests} {host : FleetHost}

/-- The claim that the ledger shows as finished with a failed item. -/
def failedBy (event : (gatewayMachine digests host).Event) : Option Uuid :=
  match event.op with
  | .finishDeliveryItem completion =>
      if (event.after.ledger.item? completion.deliveryKey completion.itemKey).any
          (·.status = .failed) then
        finishedBy event
      else none
  | _ => none

def Accepted (trace : List (gatewayMachine digests host).Event) (token : Uuid) : Prop :=
  ∃ event ∈ trace, event.op.accepted? event.answer = some token

def Unnoted (trace : List (gatewayMachine digests host).Event) (token : Uuid) : Prop :=
  ∃ event ∈ trace, event.op.unnoted? event.answer = some token

instance (trace : List (gatewayMachine digests host).Event) (token : Uuid) :
    Decidable (Accepted trace token) :=
  inferInstanceAs (Decidable (∃ event ∈ trace, _))

/-- No claim ends as failed after the adapter accepted a message under it. -/
def AcceptedNotFailed (trace : List (gatewayMachine digests host).Event) : Prop :=
  Machine.EachStep (fun earlier event => ∀ token, failedBy event = some token →
    ¬Accepted earlier token) trace

/-- A claim whose stage success the store refused is not finished in the store either. -/
def UnnotedStaysOpen (trace : List (gatewayMachine digests host).Event) : Prop :=
  Machine.EachStep (fun earlier event => ∀ token, finishedBy event = some token →
    ¬Unnoted earlier token) trace

theorem failedBy_finished {event : (gatewayMachine digests host).Event} {token : Uuid}
    (failed : failedBy event = some token) : finishedBy event = some token := by
  simp only [failedBy] at failed
  split at failed
  · split at failed
    · exact failed
    · simp at failed
  · simp at failed

variable {contract : Contract} {world after : World} {phase : Phase} {op : Op} {choice : Choice}
  {answer : Ans op} {task : Nat} {trace : List (gatewayMachine digests host).Event} {token : Uuid}

theorem accepted_concat {event : (gatewayMachine digests host).Event} :
    Accepted (trace ++ [event]) token ↔
      Accepted trace token ∨ event.op.accepted? event.answer = some token := by
  simp [Accepted, or_and_right, exists_or]

theorem unnoted_concat {event : (gatewayMachine digests host).Event} :
    Unnoted (trace ++ [event]) token ↔
      Unnoted trace token ∨ event.op.unnoted? event.answer = some token := by
  simp [Unnoted, or_and_right, exists_or]

/-- A message is accepted for a call that may send, under the claim it holds. -/
theorem Allowed.accepted (allowed : Allowed contract phase op)
    (accepted : op.accepted? answer = some token) :
    ∃ plan itemKey response, phase = .claimed plan itemKey token ∧
      phase.next op answer = .sent plan itemKey token response := by
  cases op with
  | sendPreparedOutbound adapter outbound prepared context =>
      cases answer with
      | error error => simp [Op.accepted?] at accepted
      | ok response =>
          obtain rfl : context.claimToken = token := Option.some.inj accepted
          cases allowed with
          | neutral harmless => simp [Op.isNeutral] at harmless
          | send addresses =>
              rename_i plan itemKey held
              exact ⟨plan, itemKey, response, by rw [addresses.claim],
                by rw [addresses.claim]; rfl⟩
  | _ => simp [Op.accepted?] at accepted

/-- A stage success is refused to a call that has sent, which then will not send again. -/
theorem Allowed.unnoted (allowed : Allowed contract phase op)
    (unnoted : op.unnoted? answer = some token) :
    ∃ plan itemKey response, phase = .sent plan itemKey token response ∧
      phase.next op answer = .spoiled plan itemKey token := by
  cases op with
  | finishDeliveryStage completion =>
      cases answer with
      | ok done => simp [Op.unnoted?] at unnoted
      | error error =>
          simp only [Op.unnoted?, Option.ite_none_right_eq_some, Option.some.injEq] at unnoted
          obtain ⟨succeeded, rfl⟩ := unnoted
          cases allowed with
          | neutral harmless => simp [Op.isNeutral] at harmless
          | stageSucceeded addresses status =>
              rename_i plan itemKey held response
              exact ⟨plan, itemKey, response, by rw [addresses.claim],
                by rw [addresses.claim]; rfl⟩
          | stageFailed addresses status => exact absurd succeeded status
  | _ => simp [Op.unnoted?] at unnoted

/-- What the ledger shows after the end of an item is the status that was reported. -/
theorem LedgerEffect.failedBy_iff {completion : DeliveryItemCompletion}
    (effect : LedgerEffect world after choice op answer)
    (finishes : op = .finishDeliveryItem completion) (commits : op.commits answer = true) :
    failedBy (⟨task, op, answer, world, after⟩ : (gatewayMachine digests host).Event) = some token ↔
      completion.status = .failed ∧ completion.claimToken = token := by
  subst finishes
  cases effect with
  | still same silent => simp [commits] at silent
  | finishItem ok =>
      obtain ⟨item, use⟩ := finishDeliveryItem_ok ok
      simp [failedBy, finishedBy, Op.finished?, use.sets.self, LedgerItem.finish]

/-- An item is ended by a call that has its success on record, that may still send, or whose
success the store refused; only the first reports a success. -/
theorem Allowed.finished (allowed : Allowed contract phase op)
    (finished : op.finished? answer = some token) :
    ∃ completion plan itemKey, op = .finishDeliveryItem completion ∧
      completion.claimToken = token ∧
      ((completion.status = .succeeded ∧ ∃ response, phase = .recorded plan itemKey token response) ∨
        completion.status = .failed ∧
          (phase = .claimed plan itemKey token ∨ phase = .spoiled plan itemKey token)) := by
  cases op with
  | finishDeliveryItem completion =>
      cases answer with
      | error error => simp [Op.finished?] at finished
      | ok path =>
          obtain rfl : completion.claimToken = token := Option.some.inj finished
          cases allowed with
          | neutral harmless => simp [Op.isNeutral] at harmless
          | itemSucceeded addresses status messageId =>
              rename_i plan itemKey held response
              exact ⟨completion, plan, itemKey, rfl, rfl,
                Or.inl ⟨status, response, by rw [addresses.claim]⟩⟩
          | itemFailed holder addresses status messageId =>
              rename_i plan itemKey held
              exact ⟨completion, plan, itemKey, rfl, rfl,
                Or.inr ⟨status, by rw [addresses.claim]; exact holder⟩⟩
  | _ => simp [Op.finished?] at finished

/-! ## What a call knows of its claim -/

/-- What has happened under the claim a phase holds. -/
def ClaimStory (trace : List (gatewayMachine digests host).Event) : Phase → Prop
  | .claimed _ _ token => ¬Accepted trace token
  | .sent _ _ token _ | .recorded _ _ token _ => Accepted trace token ∧ ¬Unnoted trace token
  | .spoiled _ _ token => Accepted trace token ∧ Unnoted trace token
  | _ => True

/-- The history of the claims: under each of them a stage success was refused only after a message
was accepted, and the claim was finished as failed after a message was accepted just when the
stage success had been refused. -/
structure ClaimHistory (trace : List (gatewayMachine digests host).Event) : Prop where
  granted : ∀ token, Accepted trace token →
    ∃ event ∈ trace, ∃ deliveryKey itemKey, grantOf event = some (deliveryKey, itemKey, token)
  accepted : ∀ token, Unnoted trace token → Accepted trace token
  ends : Machine.EachStep (fun earlier event => ∀ token, finishedBy event = some token →
    (failedBy event = some token ∧ Accepted earlier token ↔ Unnoted earlier token)) trace

theorem ClaimHistory.ends_at (history : ClaimHistory trace) (story : ClaimStory trace phase)
    (allowed : Allowed contract phase op) (effect : LedgerEffect world after choice op answer)
    (finished : op.finished? answer = some token) :
    failedBy (⟨task, op, answer, world, after⟩ : (gatewayMachine digests host).Event) = some token ∧
      Accepted trace token ↔ Unnoted trace token := by
  obtain ⟨completion, plan, itemKey, rfl, same, cause⟩ := allowed.finished finished
  have commits : Op.commits (.finishDeliveryItem completion) answer = true := by
    cases answer with
    | ok path => rfl
    | error error => simp [Op.finished?] at finished
  rw [effect.failedBy_iff rfl commits]
  rcases cause with ⟨status, response, rfl⟩ | ⟨status, rfl | rfl⟩
  · simp [status, story.2]
  · have silent : ¬Unnoted trace token := fun unnoted => story (history.accepted token unnoted)
    have unsent : ¬Accepted trace token := story
    simp [silent, unsent]
  · simp [status, same, story.1, story.2]

/-- Whoever holds a claim other than the one of this step goes on with the same story. -/
theorem ClaimStory.concat {event : (gatewayMachine digests host).Event}
    (story : ClaimStory trace phase)
    (apart : ∀ held, phase.token? = some held → event.op.accepted? event.answer ≠ some held ∧
      event.op.unnoted? event.answer ≠ some held) :
    ClaimStory (trace ++ [event]) phase := by
  cases phase with
  | claimed plan itemKey held =>
      obtain ⟨unsent, -⟩ := apart held rfl
      intro accepted
      exact (accepted_concat.mp accepted).elim story unsent
  | sent plan itemKey held response | recorded plan itemKey held response =>
      obtain ⟨-, taken⟩ := apart held rfl
      refine ⟨accepted_concat.mpr (Or.inl story.1), fun unnoted => ?_⟩
      exact (unnoted_concat.mp unnoted).elim story.2 taken
  | spoiled plan itemKey held =>
      exact ⟨accepted_concat.mpr (Or.inl story.1), unnoted_concat.mpr (Or.inl story.2)⟩
  | _ => trivial

theorem ClaimStory.same (story : ClaimStory trace phase) (next : phase.next op answer = phase)
    (unsent : op.accepted? answer = none) (taken : op.unnoted? answer = none) :
    ClaimStory (trace ++ [⟨task, op, answer, world, after⟩]) (phase.next op answer) := by
  rw [next]
  exact story.concat fun held _ => ⟨by simp [unsent], by simp [taken]⟩

/-- A claim that was just granted has no story yet. -/
theorem ClaimHistory.fresh (history : ClaimHistory trace) (kept : GrantsKept world trace)
    (effect : LedgerEffect world after choice op answer) {deliveryKey itemKey : String}
    (granted : op.grant? answer = some (deliveryKey, itemKey, token)) : ¬Accepted trace token := by
  intro accepted
  obtain ⟨event, member, key, name, source⟩ := history.granted token accepted
  exact (effect.granted granted).1 (kept.issued event member key name token source)

theorem ClaimStory.step_own (story : ClaimStory trace phase) (history : ClaimHistory trace)
    (kept : GrantsKept world trace) (allowed : Allowed contract phase op)
    (effect : LedgerEffect world after choice op answer) :
    ClaimStory (trace ++ [⟨task, op, answer, world, after⟩]) (phase.next op answer) := by
  cases allowed with
  | neutral harmless =>
      cases op <;> first | exact story.same rfl rfl rfl | simp [Op.isNeutral] at harmless
  | load own =>
      cases answer with
      | ok loaded => cases loaded <;> trivial
      | error error => trivial
  | persist plan free own => cases answer <;> trivial
  | claimMaterialization between planned =>
      simp only [Phase.next, between.plan?]
      cases answer with
      | ok claim => cases claim <;> trivial
      | error error => trivial
  | finishMaterialization addresses =>
      cases answer with
      | ok done =>
          simp only [Phase.next]
          split <;> trivial
      | error error => trivial
  | claimItem source delivery fingerprint =>
      rename_i plan request
      have planned : phase.plan? = some plan := by
        rcases source with rfl | ⟨between, -⟩
        · rfl
        · exact between.plan?
      simp only [Phase.next, planned]
      cases answer with
      | error error => trivial
      | ok claim =>
          cases claim with
          | claimed token item previous =>
              have unsent : ¬Accepted trace token := history.fresh kept effect rfl
              intro accepted
              rcases accepted_concat.mp accepted with old | new
              · exact unsent old
              · simp [Op.accepted?] at new
          | _ => trivial
  | prepare | upload addresses | sendDirect own => exact story.same rfl rfl rfl
  | send addresses =>
      rename_i plan itemKey token adapter outbound prepared context
      cases answer with
      | error error => exact story.same rfl rfl rfl
      | ok response =>
          refine ⟨accepted_concat.mpr (Or.inr (by rw [← addresses.claim]; rfl)), fun unnoted => ?_⟩
          rcases unnoted_concat.mp unnoted with old | new
          · exact story (history.accepted token old)
          · simp [Op.unnoted?] at new
  | stageSucceeded addresses status =>
      rename_i plan itemKey token response completion
      cases answer with
      | ok done =>
          refine ⟨accepted_concat.mpr (Or.inl story.1), fun unnoted => ?_⟩
          rcases unnoted_concat.mp unnoted with old | new
          · exact story.2 old
          · simp [Op.unnoted?] at new
      | error error =>
          have refused : Op.unnoted? (.finishDeliveryStage completion) (.error error) =
              some token := by
            simp [Op.unnoted?, status, addresses.claim]
          exact ⟨accepted_concat.mpr (Or.inl story.1), unnoted_concat.mpr (Or.inr refused)⟩
  | stageFailed addresses status =>
      cases answer with
      | ok done => exact story.same rfl rfl rfl
      | error error => exact story.same rfl rfl (by simp [Op.unnoted?, status])
  | itemSucceeded addresses status messageId => cases answer <;> trivial
  | itemFailed holder addresses status messageId =>
      rcases holder with rfl | rfl <;> cases answer <;> trivial
  | save last fingerprint own => cases answer <;> trivial

theorem Phase.claim?_of_token? (held : phase.token? = some token) :
    ∃ plan itemKey, phase.claim? = some (plan, itemKey, token) := by
  obtain ⟨⟨plan, itemKey, same⟩, claimed, rfl⟩ := Option.map_eq_some_iff.mp held
  exact ⟨plan, itemKey, claimed⟩

/-- What happens to a message happens under the claim that the calling phase holds. -/
theorem Allowed.acts_under (allowed : Allowed contract phase op)
    (acts : op.accepted? answer = some token ∨ op.unnoted? answer = some token) :
    phase.token? = some token := by
  rcases acts with accepted | unnoted
  · obtain ⟨plan, itemKey, response, rfl, -⟩ := allowed.accepted accepted
    rfl
  · obtain ⟨plan, itemKey, response, rfl, -⟩ := allowed.unnoted unnoted
    rfl

theorem ClaimStory.step_other {otherPhase : Phase} {other : Nat}
    (story : ClaimStory trace otherPhase) (different : other ≠ task)
    (kept : GrantsKept world trace) (granted : Granted trace task phase)
    (otherGranted : Granted trace other otherPhase) (allowed : Allowed contract phase op) :
    ClaimStory (trace ++ [⟨task, op, answer, world, after⟩]) otherPhase := by
  refine story.concat fun held holds => ?_
  have apart : phase.token? ≠ some held := by
    intro same
    obtain ⟨plan, itemKey, claimed⟩ := Phase.claim?_of_token? same
    obtain ⟨otherPlan, otherKey, otherClaimed⟩ := Phase.claim?_of_token? holds
    exact different (kept.holder_unique otherGranted granted otherClaimed claimed)
  exact ⟨fun accepted => apart (allowed.acts_under (Or.inl accepted)),
    fun unnoted => apart (allowed.acts_under (Or.inr unnoted))⟩

theorem ClaimHistory.step (history : ClaimHistory trace) (story : ClaimStory trace phase)
    (granted : Granted trace task phase) (allowed : Allowed contract phase op)
    (effect : LedgerEffect world after choice op answer) :
    ClaimHistory (trace ++ [⟨task, op, answer, world, after⟩]) := by
  constructor
  · intro token accepted
    have source : ∃ event ∈ trace, ∃ deliveryKey itemKey,
        grantOf event = some (deliveryKey, itemKey, token) := by
      rcases accepted_concat.mp accepted with old | new
      · exact history.granted token old
      · obtain ⟨plan, itemKey, claimed⟩ :=
          Phase.claim?_of_token? (allowed.acts_under (Or.inl new))
        obtain ⟨event, member, -, grant⟩ := granted plan itemKey token claimed
        exact ⟨event, member, plan.deliveryKey, itemKey, grant⟩
    obtain ⟨event, member, grant⟩ := source
    exact ⟨event, List.mem_append_left _ member, grant⟩
  · intro token unnoted
    refine accepted_concat.mpr (Or.inl ?_)
    rcases unnoted_concat.mp unnoted with old | new
    · exact history.accepted token old
    · obtain ⟨plan, itemKey, response, rfl, -⟩ := allowed.unnoted new
      exact story.1
  · exact history.ends.concat fun token finished => history.ends_at story allowed effect finished

/-! ## Runs -/

theorem DeliveryRun.claimHistory {contract : Call → Contract}
    {permitted : (gatewayMachine digests host).Move → Prop} {origin : World}
    {phases : List (Call × Phase)}
    (run : DeliveryRun digests host contract permitted origin world phases trace)
    (empty : origin.ledger = ∅) : ClaimHistory trace := by
  have maintained := Machine.Phased.maintains (fun (_ : World) trace => ClaimHistory trace)
    (fun _ trace _ _ phase => ClaimStory trace phase) ?boot ?start ?step ?outside run
  · exact maintained.1
  case boot => exact ⟨by simp [Accepted], by simp [Unnoted], .nil⟩
  case start => exact fun _ _ _ _ _ _ _ => trivial
  case step =>
    intro world after phases trace task call phase op choice answer run each holder allowed _
      performed history
    have effect := World.perform_effect performed
    obtain ⟨kept, granted⟩ := DeliveryRun.grants run empty
    have story := each task call phase holder
    refine ⟨history.step story (granted task call phase holder) allowed effect,
      story.step_own history kept allowed effect, ?_⟩
    intro other started otherPhase different listed old
    exact old.step_other different kept (granted task call phase holder)
      (granted other started otherPhase listed) allowed
  case outside => exact fun _ _ _ _ history => ⟨history, fun _ _ _ story => story⟩

/-- However deliveries interleave, whatever the adapter answers and wherever the store fails: no
accepted message ends as a failed item exactly if the store never refuses the success of a stage
and then takes the end of the item under the same claim. -/
theorem accepted_not_failed_iff (routes : Std.TreeMap String Json) (directory : Directory)
    (moves : List (gatewayMachine digests host).Move) (last : (gatewayMachine digests host).System)
    (played : (Machine.System.boot (World.initial routes directory)).play moves = some last) :
    AcceptedNotFailed last.trace ↔ UnnotedStaysOpen last.trace := by
  have steady : @Machine.Steady Op Ans Phase (gatewayMachine digests host)
      (fun _ => deliveryProtocol anyContract) (fun _ => True) (fun _ => True) :=
    ⟨fun _ _ _ _ _ _ _ => ⟨trivial, fun _ => trivial⟩, fun _ _ _ _ => trivial⟩
  obtain ⟨phases, phased, -⟩ := Machine.play_phased_boot steady
    (fun call _ => call.program_follows) (fun _ _ => trivial) trivial played
  have run : DeliveryRun digests host (fun _ => anyContract) (fun _ => True)
      (World.initial routes directory) last.world phases last.trace := phased
  have history := run.claimHistory rfl
  constructor
  · intro honest earlier event later split token finished unnoted
    obtain ⟨failed, accepted⟩ :=
      (history.ends earlier event later split token finished).mpr unnoted
    exact honest earlier event later split token failed accepted
  · intro stays earlier event later split token failed accepted
    have finished := failedBy_finished failed
    have unnoted := (history.ends earlier event later split token finished).mp ⟨failed, accepted⟩
    exact stays earlier event later split token finished unnoted

end

/-- A turn in which only the write of the stage success fails. -/
def unnotedTurn : List (gatewayMachine plainDigests offlineHost).Move :=
  .start turnDelivery :: List.replicate 4 (.step 0 (smoothChoice 0 ⟨1⟩)) ++
    [.step 0 { smoothChoice 0 ⟨1⟩ with failure := some "disk full" },
      .step 0 (smoothChoice 0 ⟨1⟩)]

/-- The same turn, with the store still failing when the item ends. -/
def outageTurn : List (gatewayMachine plainDigests offlineHost).Move :=
  .start turnDelivery :: List.replicate 4 (.step 0 (smoothChoice 0 ⟨1⟩)) ++
    List.replicate 2 (.step 0 { smoothChoice 0 ⟨1⟩ with failure := some "disk full" })

theorem accepted_send_ends_failed :
    ∃ last, (Machine.System.boot (World.initial ∅ ∅)).play unnotedTurn = some last ∧
      ¬AcceptedNotFailed last.trace := by
  have shown : ((Machine.System.boot (World.initial ∅ ∅)).play unnotedTurn).map
      (fun last => decide (last.trace.getLast?.any (failedBy · = some ⟨1⟩) = true ∧
        Accepted last.trace.dropLast ⟨1⟩)) = some true := by decide
  obtain ⟨last, played, decided⟩ := Option.map_eq_some_iff.mp shown
  obtain ⟨ends, accepted⟩ := of_decide_eq_true decided
  simp only [Option.any_eq_true, decide_eq_true_eq] at ends
  obtain ⟨event, found, failed⟩ := ends
  refine ⟨last, played, fun honest => ?_⟩
  have split : last.trace = last.trace.dropLast ++ event :: [] :=
    (List.dropLast_append_getLast? event found).symm
  exact honest _ event [] split ⟨1⟩ failed accepted

theorem outage_turn_stays_open :
    ∃ last, (Machine.System.boot (World.initial ∅ ∅)).play outageTurn = some last ∧
      AcceptedNotFailed last.trace := by
  have silent : ((Machine.System.boot (World.initial ∅ ∅)).play outageTurn).map
      (fun last => decide (∀ event ∈ last.trace, finishedBy event = none)) = some true := by
    decide
  obtain ⟨last, played, decided⟩ := Option.map_eq_some_iff.mp silent
  have unfinished := of_decide_eq_true decided
  refine ⟨last, played, (accepted_not_failed_iff ∅ ∅ outageTurn last played).mpr ?_⟩
  intro earlier event later split token finished
  have member : event ∈ last.trace := by simp [split]
  simp [unfinished event member] at finished

end HarborGate
