import HarborGate.Gateway.Uploads

/-!
Over whole runs no upload crosses from one stage of an item to the other. A call works on an item in
the stage that the ledger has it in, as long as the call holds the claim.
-/

namespace HarborGate

open Interleave

/-! ## The native stage -/

/-- The operation writes a stage of the item under the claim. -/
def Op.WritesStage (op : Op) (deliveryKey itemKey : String) (token : Uuid) : Prop :=
  (∃ upload, op = .recordDeliveryItemUpload upload ∧ upload.deliveryKey = deliveryKey ∧
    upload.itemKey = itemKey ∧ upload.claimToken = token) ∨
  ∃ completion, op = .finishDeliveryStage completion ∧ completion.deliveryKey = deliveryKey ∧
    completion.itemKey = itemKey ∧ completion.claimToken = token

def Op.writesStages : Op → Bool
  | .recordDeliveryItemUpload _ | .finishDeliveryStage _ => true
  | _ => false

theorem Op.WritesStage.writes {op : Op} {deliveryKey itemKey : String} {token : Uuid}
    (writing : op.WritesStage deliveryKey itemKey token) : op.writesStages = true := by
  rcases writing with ⟨upload, rfl, -⟩ | ⟨completion, rfl, -⟩
  · rfl
  · rfl

section Native

variable {deliveryKey itemKey : String} {item moved : LedgerItem} {token : Uuid}

theorem ItemMove.native {step : LedgerStep} (move : ItemMove step deliveryKey itemKey item moved) :
    moved.native = item.native ∨
      (∃ upload, step.op = .recordUpload upload ∧ upload.deliveryKey = deliveryKey ∧
        upload.itemKey = itemKey ∧ item.claimToken = some upload.claimToken) ∨
      ∃ completion, step.op = .finishStage completion ∧ completion.deliveryKey = deliveryKey ∧
        completion.itemKey = itemKey ∧ item.claimToken = some completion.claimToken := by
  cases move with
  | keep | plan _ | claimMaterialization _ _ _ _ _ _ _ | finishMaterialization _ _ _ _ _ _
  | claim _ _ _ _ _ _ _ _ _ | finishItem _ _ _ _ => exact Or.inl rfl
  | recordUpload upload operation addressed active =>
      exact Or.inr (Or.inl ⟨upload, operation, addressed.1, addressed.2, active.holder⟩)
  | finishStage completion operation addressed active =>
      exact Or.inr (Or.inr ⟨completion, operation, addressed.1, addressed.2, active.holder⟩)
  | reconcile ttl operation => exact Or.inl (reconcileItem_frame step.now ttl item).native

theorem recordUpload_nativeUnsupported {upload : DeliveryItemUpload} (now : Time)
    (agrees : item.NativeUnsupported ↔ upload.stage = .fallback) :
    (item.recordUpload now upload).NativeUnsupported ↔ upload.stage = .fallback := by
  cases stage : upload.stage with
  | native =>
      simp [LedgerItem.NativeUnsupported, LedgerItem.recordUpload, stage, LedgerItem.setStage]
  | fallback =>
      rw [stage] at agrees
      simpa [LedgerItem.NativeUnsupported, LedgerItem.recordUpload, stage, LedgerItem.setStage]
        using agrees

theorem finishStage_nativeUnsupported {completion : DeliveryStageCompletion} (now : Time)
    (agrees : item.NativeUnsupported ↔ completion.stage = .fallback) :
    (item.finishStage now completion).NativeUnsupported ↔
      completion.stage = .fallback ∨ completion.status = .unsupported := by
  cases stage : completion.stage with
  | native =>
      simp [LedgerItem.NativeUnsupported, LedgerItem.finishStage, stage, LedgerItem.setStage]
  | fallback =>
      rw [stage] at agrees
      simpa [LedgerItem.NativeUnsupported, LedgerItem.finishStage, stage, LedgerItem.setStage]
        using agrees

variable {world after : World} {choice : Choice} {op : Op} {answer : Ans op}

theorem LedgerEffect.same (effect : LedgerEffect world after choice op answer)
    (silent : op.commits answer = false) : after.ledger = world.ledger := by
  rcases effect.applied with same | ⟨commits, -⟩
  · exact same
  · rw [silent] at commits
    simp at commits

/-- Whoever writes the native stage holds the claim of the item. -/
theorem LedgerEffect.native (effect : LedgerEffect world after choice op answer)
    (present : world.ledger.item? deliveryKey itemKey = some item)
    (found : after.ledger.item? deliveryKey itemKey = some moved)
    (held : item.claimToken = some token) :
    moved.native = item.native ∨ op.WritesStage deliveryKey itemKey token := by
  obtain ⟨step, other, there, move, performed⟩ := effect.moves present
  obtain rfl := Option.some.inj (there.symm.trans found)
  rcases performed with rfl | performedBy
  · exact Or.inl rfl
  · have operation := performedBy.operation
    rcases move.native with same | ⟨upload, uploads, key, name, holder⟩ |
      ⟨completion, finishes, key, name, holder⟩
    · exact Or.inl same
    · rw [uploads] at operation
      exact Or.inr (Or.inl ⟨upload, Op.ledgerOp_recordUpload operation, key, name,
        Option.some.inj (holder.symm.trans held)⟩)
    · rw [finishes] at operation
      exact Or.inr (Or.inr ⟨completion, Op.ledgerOp_finishStage operation, key, name,
        Option.some.inj (holder.symm.trans held)⟩)

theorem LedgerEffect.recordedUpload {upload : DeliveryItemUpload} {done : Unit}
    (effect : LedgerEffect world after choice (.recordDeliveryItemUpload upload) (.ok done))
    (present : world.ledger.item? upload.deliveryKey upload.itemKey = some item) :
    after.ledger.item? upload.deliveryKey upload.itemKey =
      some (item.recordUpload choice.now upload) := by
  cases effect with
  | still same silent => simp [Op.commits] at silent
  | recordUpload ok =>
      obtain ⟨source, fenced⟩ := recordDeliveryItemUpload_ok ok
      obtain rfl := Option.some.inj (fenced.present.symm.trans present)
      exact fenced.sets.self

theorem LedgerEffect.finishedStage {completion : DeliveryStageCompletion} {done : Unit}
    (effect : LedgerEffect world after choice (.finishDeliveryStage completion) (.ok done))
    (present : world.ledger.item? completion.deliveryKey completion.itemKey = some item) :
    after.ledger.item? completion.deliveryKey completion.itemKey =
      some (item.finishStage choice.now completion) := by
  cases effect with
  | still same silent => simp [Op.commits] at silent
  | finishStage ok =>
      obtain ⟨source, fenced⟩ := finishDeliveryStage_ok ok
      obtain rfl := Option.some.inj (fenced.present.symm.trans present)
      exact fenced.sets.self

/-- A claimed item is handed out as the ledger has it. -/
theorem LedgerEffect.claimedItem {request : DeliveryItemClaimRequest} {path : Option String}
    (effect : LedgerEffect world after choice (.claimDeliveryItem request)
      (.ok (.claimed token item path))) :
    after.ledger.item? request.deliveryKey request.itemKey = some item := by
  cases effect with
  | still same silent => simp [Op.commits] at silent
  | claimItem fresh issued ok =>
      obtain ⟨-, source, -, -, -, -, -, -, -, lease, -, -, sets⟩ := claimDeliveryItem_ok ok
      exact sets.self

end Native

/-! ## What a call bears -/

section Bearing

variable {digests : Digests} {host : FleetHost}

/-- The upload and the response at hand are the stage's own. -/
structure StageSources (trace : List (gatewayMachine digests host).Event) (job : Job) (stage : Stage)
    (upload : Option PreparedOutbound) (response : Option Json) : Prop where
  upload : ∀ value, upload = some value →
    UploadOf trace job.deliveryKey job.itemKey stage (some value.providerMediaId) value.state
  response : ∀ given, response = some given → ∀ id, responseMediaId given = some id →
    MediaOf trace job.deliveryKey job.itemKey stage id

/-- The call prepared the upload in the step it took last. -/
def JustPrepared (trace : List (gatewayMachine digests host).Event) (task : Nat) (job : Job)
    (stage : Stage) (value : PreparedOutbound) : Prop :=
  ∃ event outbound, (ownSteps trace task).getLast? = some event ∧
    event.op.prepared? event.answer = some (outbound, value) ∧
    ForStage job.deliveryKey job.itemKey outbound stage

def Produced (trace : List (gatewayMachine digests host).Event) (task : Nat) (job : Job)
    (stage : Stage) : Progress → Prop
  | .prepared value => JustPrepared trace task job stage value
  | progress => StageSources trace job stage (progress.upload? job stage) progress.response?

structure Bearing (world : World) (trace : List (gatewayMachine digests host).Event) (task : Nat)
    (job : Job) (stage : Stage) (progress : Progress) : Prop where
  granted : ∃ event ∈ trace, event.task = task ∧
    grantOf event = some (job.deliveryKey, job.itemKey, job.token)
  uploads : ItemUploads trace job.deliveryKey job.itemKey job.item
  supported : stage = .native → ¬job.item.NativeUnsupported
  current : ∀ item, world.ledger.item? job.deliveryKey job.itemKey = some item →
    item.claimToken = some job.token → (item.NativeUnsupported ↔ stage = .fallback)
  produced : Produced trace task job stage progress

variable {trace : List (gatewayMachine digests host).Event} {job : Job} {stage : Stage}
  {progress : Progress} {task : Nat} {event : (gatewayMachine digests host).Event}
  {upload : Option PreparedOutbound} {response : Option Json}

theorem StageSources.later (sources : StageSources trace job stage upload response) :
    StageSources (trace ++ [event]) job stage upload response :=
  ⟨fun value given => (sources.upload value given).later,
    fun value given id named => (sources.response value given id named).later⟩

theorem StageSources.media {id : String} (sources : StageSources trace job stage upload response)
    (atHand : MediaAtHand upload response id) :
    MediaOf trace job.deliveryKey job.itemKey stage id := by
  rcases atHand with prepared | answered
  · obtain ⟨value, given, rfl⟩ := Option.map_eq_some_iff.mp prepared
    exact (sources.upload value given).media _ rfl
  · obtain ⟨value, given, named⟩ := Option.bind_eq_some_iff.mp answered
    exact sources.response value given id named

theorem produced_iff (known : ¬progress.IsPrepared) :
    Produced trace task job stage progress ↔
      StageSources trace job stage (progress.upload? job stage) progress.response? := by
  cases progress with
  | prepared value => exact absurd trivial known
  | fresh | stocked _ | sent _ _ | ended _ _ => exact Iff.rfl

theorem ownSteps_concat_self (own : event.task = task) :
    ownSteps (trace ++ [event]) task = ownSteps trace task ++ [event] := by
  simp [ownSteps, own]

theorem ownSteps_last (own : event.task = task) :
    (ownSteps (trace ++ [event]) task).getLast? = some event := by
  rw [ownSteps_concat_self own, List.getLast?_concat]

theorem ownSteps_concat_other (other : event.task ≠ task) :
    ownSteps (trace ++ [event]) task = ownSteps trace task := by
  simp [ownSteps, other]

/-- The steps of others change nothing about what a call has at hand. -/
theorem Produced.later (produced : Produced trace task job stage progress)
    (apart : progress.IsPrepared → event.task ≠ task) :
    Produced (trace ++ [event]) task job stage progress := by
  by_cases prepared : progress.IsPrepared
  · cases progress with
    | prepared value =>
        obtain ⟨first, outbound, last, made, own⟩ := produced
        exact ⟨first, outbound, by rwa [ownSteps_concat_other (apart prepared)], made, own⟩
    | fresh | stocked _ | sent _ _ | ended _ _ => exact prepared.elim
  · exact (produced_iff prepared).mpr ((produced_iff prepared).mp produced).later

/-- What was prepared is the stage's own once it is named to the ledger. -/
theorem JustPrepared.named {value : PreparedOutbound}
    (prepared : JustPrepared trace task job stage value) (own : event.task = task)
    (named : event.op = .recordDeliveryItemUpload (stageUpload (job.context stage) value)) :
    UploadOf (trace ++ [event]) job.deliveryKey job.itemKey stage (some value.providerMediaId)
      value.state := by
  obtain ⟨first, outbound, last, made, forStage⟩ := prepared
  obtain ⟨before, split⟩ := List.getLast?_eq_some_iff.mp last
  have source : PreparedFor (trace ++ [event]) job.deliveryKey job.itemKey stage value := by
    refine ⟨task, first, event, outbound, job.token, ?_, made, forStage, named⟩
    rw [ownSteps_concat_self own, split, List.append_assoc]
    exact (List.suffix_append before [first, event]).isInfix
  refine ⟨fun id same => ?_, Or.inr ⟨value, source, rfl⟩⟩
  obtain rfl := Option.some.inj same
  exact ⟨_, Or.inl ⟨value, source, rfl⟩, Or.inl rfl⟩

variable {world after : World} {choice : Choice} {op : Op} {answer : Ans op}

/-- A step in which the item stays in the stage that the call works on. -/
theorem Bearing.step {otherStage : Stage} {otherProgress : Progress} {actor : Nat}
    (bearing : Bearing world trace task job stage progress) (kept : GrantsKept world trace)
    (effect : LedgerEffect world after choice op answer)
    (supported : otherStage = .native → stage = .native)
    (stays : ∀ item moved, world.ledger.item? job.deliveryKey job.itemKey = some item →
      after.ledger.item? job.deliveryKey job.itemKey = some moved →
      item.claimToken = some job.token → (item.NativeUnsupported ↔ stage = .fallback) →
      (moved.NativeUnsupported ↔ otherStage = .fallback))
    (produced : Produced (trace ++ [⟨actor, op, answer, world, after⟩]) task job otherStage
      otherProgress) :
    Bearing after (trace ++ [⟨actor, op, answer, world, after⟩]) task job otherStage
      otherProgress := by
  obtain ⟨grant, member, own, granted⟩ := bearing.granted
  refine ⟨⟨grant, List.mem_append_left _ member, own, granted⟩, bearing.uploads.later,
    fun native => bearing.supported (supported native), ?_, produced⟩
  intro moved found held
  rcases effect.claimToken found held with again | ⟨⟨item, present, holder⟩, -⟩
  · -- The token was granted before, and is not drawn a second time.
    exact absurd (kept.issued grant member _ _ _ granted) (effect.granted again).1
  · exact stays item moved present found holder (bearing.current item present holder)

/-- A step that writes no stage under the claim of the call. -/
theorem Bearing.still {actor : Nat} {otherProgress : Progress}
    (bearing : Bearing world trace task job stage progress) (kept : GrantsKept world trace)
    (effect : LedgerEffect world after choice op answer)
    (quiet : ¬op.WritesStage job.deliveryKey job.itemKey job.token)
    (produced : Produced (trace ++ [⟨actor, op, answer, world, after⟩]) task job stage
      otherProgress) :
    Bearing after (trace ++ [⟨actor, op, answer, world, after⟩]) task job stage otherProgress := by
  refine bearing.step kept effect id (fun item moved present found held agrees => ?_) produced
  have same := (effect.native present found held).resolve_right quiet
  rwa [LedgerItem.NativeUnsupported, same]

/-- What a call knows of its job, if it has one. -/
def Bears (world : World) (trace : List (gatewayMachine digests host).Event) (task : Nat)
    (phase : StagePhase) : Prop :=
  ∀ job stage progress, phase = .active job stage progress →
    Bearing world trace task job stage progress

theorem Bears.active (bearing : Bearing world trace task job stage progress) :
    Bears world trace task (.active job stage progress) := by
  intro other otherStage otherProgress same
  obtain ⟨rfl, rfl, rfl⟩ := StagePhase.active.inj same
  exact bearing

theorem Bears.idle : Bears world trace task .idle := by
  intro job stage progress same
  simp at same

theorem StageAllowed.writer {phase : StagePhase} {deliveryKey itemKey : String} {token : Uuid}
    (allowed : StageAllowed phase op) (writes : op.WritesStage deliveryKey itemKey token) :
    ∃ job stage progress, phase = .active job stage progress ∧ job.token = token := by
  rcases writes with ⟨upload, rfl, -, -, rfl⟩ | ⟨completion, rfl, -, -, rfl⟩
  · cases allowed with
    | neutral known harmless => simp [Op.isNeutral] at harmless
    | between other => simp [Op.isStaging] at other
    | upload => exact ⟨_, _, _, rfl, rfl⟩
  · cases allowed with
    | neutral known harmless => simp [Op.isNeutral] at harmless
    | between other => simp [Op.isStaging] at other
    | finishStage known names own media => exact ⟨_, _, _, rfl, names.claim.symm⟩

/-- The steps of others leave a call its job. -/
theorem Bears.step_other {phase otherPhase : StagePhase} {other : Nat}
    (bears : Bears world trace other otherPhase) (actor : Bears world trace task phase)
    (different : other ≠ task) (kept : GrantsKept world trace)
    (allowed : StageAllowed phase op) (effect : LedgerEffect world after choice op answer) :
    Bears after (trace ++ [⟨task, op, answer, world, after⟩]) other otherPhase := by
  rintro job stage progress rfl
  have bearing := bears job stage progress rfl
  refine bearing.still kept effect (fun writes => ?_)
    (bearing.produced.later fun _ same => different same.symm)
  obtain ⟨otherJob, otherStage, otherProgress, rfl, sameToken⟩ := allowed.writer writes
  obtain ⟨first, member, rfl, granted⟩ := bearing.granted
  obtain ⟨second, otherMember, rfl, again⟩ := (actor _ _ _ rfl).granted
  rw [sameToken] at again
  rw [kept.granted_once member otherMember granted again] at different
  exact different rfl

end Bearing

/-! ## The own steps of a call -/

section Own

variable {digests : Digests} {host : FleetHost} {world after : World}
  {trace : List (gatewayMachine digests host).Event} {task : Nat} {job : Job} {stage : Stage}
  {progress : Progress} {choice : Choice}

theorem produced_fresh (uploads : ItemUploads trace job.deliveryKey job.itemKey job.item)
    (supported : stage = .native → ¬job.item.NativeUnsupported) :
    Produced trace task job stage .fresh :=
  ⟨fun _ resumed => uploads.resumed supported resumed, fun _ mismatch => nomatch mismatch⟩

theorem Bearing.sources (bearing : Bearing world trace task job stage progress)
    (known : ¬progress.IsPrepared) :
    StageSources trace job stage (progress.upload? job stage) progress.response? :=
  (produced_iff known).mp bearing.produced

theorem not_writesStage {op : Op} {deliveryKey itemKey : String} {token : Uuid}
    (other : op.writesStages = false) : ¬op.WritesStage deliveryKey itemKey token := by
  intro writing
  rw [writing.writes] at other
  simp at other

theorem Bears.claim {request : DeliveryItemClaimRequest} {answer : StoreResult ItemClaim}
    (effect : LedgerEffect world after choice (.claimDeliveryItem request) answer)
    (items : ∀ deliveryKey itemKey item, after.ledger.item? deliveryKey itemKey = some item →
      ItemUploads (trace ++ [⟨task, .claimDeliveryItem request, answer, world, after⟩]) deliveryKey
        itemKey item) :
    Bears after (trace ++ [⟨task, .claimDeliveryItem request, answer, world, after⟩]) task
      (StagePhase.idle.next (.claimDeliveryItem request) answer) := by
  match answer with
  | .error error => exact Bears.idle
  | .ok (.succeeded item) => exact Bears.idle
  | .ok (.terminalFailed item) => exact Bears.idle
  | .ok (.busy item) => exact Bears.idle
  | .ok (.claimed token item path) =>
      have found := effect.claimedItem
      let job : Job := ⟨request.deliveryKey, request.itemKey, token, item⟩
      have starts : item.NativeUnsupported ↔ job.firstStage = .fallback := by
        by_cases unsupported : item.NativeUnsupported
        · simp [Job.firstStage, job, unsupported]
        · simp [Job.firstStage, job, unsupported]
      have supported : job.firstStage = .native → ¬job.item.NativeUnsupported := by
        intro native unsupported
        rw [starts.mp unsupported] at native
        simp at native
      have uploads := items _ _ _ found
      refine Bears.active ⟨⟨_, List.mem_append_right _ (List.mem_singleton.mpr rfl), rfl, rfl⟩,
        uploads, supported, ?_, produced_fresh uploads supported⟩
      intro other there _
      obtain rfl := Option.some.inj (found.symm.trans there)
      exact starts

theorem Bears.prepare {adapter : String} {outbound : OutboundMessage}
    {answer : Except GatewayError (Option PreparedOutbound)}
    (bearing : Bearing world trace task job stage .fresh) (kept : GrantsKept world trace)
    (own : ForStage job.deliveryKey job.itemKey outbound stage)
    (effect : LedgerEffect world after choice (.prepareOutbound adapter outbound) answer) :
    Bears after (trace ++ [⟨task, .prepareOutbound adapter outbound, answer, world, after⟩]) task
      ((StagePhase.active job stage .fresh).next (.prepareOutbound adapter outbound) answer) := by
  have quiet := @not_writesStage (.prepareOutbound adapter outbound) job.deliveryKey job.itemKey
    job.token rfl
  match answer with
  | .error error => exact Bears.active (bearing.still kept effect quiet (bearing.produced.later nofun))
  | .ok none =>
      refine Bears.active (bearing.still kept effect quiet ?_)
      exact ⟨fun _ mismatch => (nomatch mismatch), fun _ mismatch => (nomatch mismatch)⟩
  | .ok (some value) =>
      exact Bears.active (bearing.still kept effect quiet ⟨_, outbound, ownSteps_last rfl, rfl, own⟩)

theorem Bears.recordUpload {value : PreparedOutbound} {answer : StoreResult Unit}
    (bearing : Bearing world trace task job stage (.prepared value)) (kept : GrantsKept world trace)
    (effect : LedgerEffect world after choice
      (.recordDeliveryItemUpload (stageUpload (job.context stage) value)) answer) :
    Bears after (trace ++ [⟨task, .recordDeliveryItemUpload (stageUpload (job.context stage) value),
        answer, world, after⟩]) task
      ((StagePhase.active job stage (.prepared value)).next
        (.recordDeliveryItemUpload (stageUpload (job.context stage) value)) answer) := by
  have sources : StageSources (trace ++ [⟨task, .recordDeliveryItemUpload
      (stageUpload (job.context stage) value), answer, world, after⟩]) job stage (some value) none := by
    refine ⟨fun other same => ?_, fun _ mismatch => nomatch mismatch⟩
    obtain rfl := Option.some.inj same
    exact JustPrepared.named bearing.produced rfl rfl
  match answer with
  | .error error =>
      refine Bears.active (bearing.step kept effect id (fun item moved present found _ agrees => ?_)
        sources)
      rw [effect.same rfl, present] at found
      obtain rfl := Option.some.inj found
      exact agrees
  | .ok () =>
      refine Bears.active (bearing.step kept effect id (fun item moved present found _ agrees => ?_)
        sources)
      obtain rfl := Option.some.inj ((effect.recordedUpload present).symm.trans found)
      exact recordUpload_nativeUnsupported choice.now agrees

theorem Bears.send {adapter : String} {outbound : OutboundMessage} {answer : Except GatewayError Json}
    (bearing : Bearing world trace task job stage progress) (kept : GrantsKept world trace)
    (known : ¬progress.IsPrepared)
    (effect : LedgerEffect world after choice (.sendPreparedOutbound adapter outbound
      (progress.upload? job stage) (job.context stage)) answer) :
    Bears after (trace ++ [⟨task, .sendPreparedOutbound adapter outbound
        (progress.upload? job stage) (job.context stage), answer, world, after⟩]) task
      ((StagePhase.active job stage progress).next (.sendPreparedOutbound adapter outbound
        (progress.upload? job stage) (job.context stage)) answer) := by
  have quiet := @not_writesStage (.sendPreparedOutbound adapter outbound
    (progress.upload? job stage) (job.context stage)) job.deliveryKey job.itemKey job.token rfl
  have sources := bearing.sources known
  match answer with
  | .error error =>
      refine Bears.active (bearing.still kept effect quiet ⟨sources.later.upload, ?_⟩)
      exact fun _ mismatch => nomatch mismatch
  | .ok response =>
      refine Bears.active (bearing.still kept effect quiet ⟨sources.later.upload, ?_⟩)
      intro given same id named
      obtain rfl := Option.some.inj same
      refine ⟨id, Or.inr ⟨_, List.mem_append_right _ (List.mem_singleton.mpr rfl), job.token, ?_⟩,
        Or.inl rfl⟩
      exact Option.map_eq_some_iff.mpr ⟨id, named, rfl⟩

theorem Bears.finishStage {completion : DeliveryStageCompletion} {answer : StoreResult Unit}
    (bearing : Bearing world trace task job stage progress) (kept : GrantsKept world trace)
    (known : ¬progress.IsPrepared)
    (names : Names job completion.deliveryKey completion.itemKey completion.claimToken)
    (own : completion.stage = stage)
    (effect : LedgerEffect world after choice (.finishDeliveryStage completion) answer) :
    Bears after (trace ++ [⟨task, .finishDeliveryStage completion, answer, world, after⟩]) task
      ((StagePhase.active job stage progress).next (.finishDeliveryStage completion) answer) := by
  have sources := bearing.sources known
  have ended : ∀ moved : StagePhase, moved = .active job stage
        (.ended (progress.upload? job stage) progress.response?) →
      (∀ item next, world.ledger.item? job.deliveryKey job.itemKey = some item →
        after.ledger.item? job.deliveryKey job.itemKey = some next →
        (item.NativeUnsupported ↔ stage = .fallback) →
        (next.NativeUnsupported ↔ stage = .fallback)) →
      Bears after (trace ++ [⟨task, .finishDeliveryStage completion, answer, world, after⟩]) task
        moved := by
    rintro _ rfl stays
    refine Bears.active (bearing.step kept effect id ?_ sources.later)
    exact fun item next present found _ => stays item next present found
  cases answer with
  | error error =>
      refine ended _ (by cases stage <;> rfl) fun item next present found agrees => ?_
      rw [effect.same rfl, present] at found
      obtain rfl := Option.some.inj found
      exact agrees
  | ok done =>
      have writes : ∀ item next, world.ledger.item? job.deliveryKey job.itemKey = some item →
          after.ledger.item? job.deliveryKey job.itemKey = some next →
          (item.NativeUnsupported ↔ stage = .fallback) →
          (next.NativeUnsupported ↔ stage = .fallback ∨ completion.status = .unsupported) := by
        intro item next present found agrees
        rw [← names.delivery, ← names.item] at present found
        obtain rfl := Option.some.inj ((effect.finishedStage present).symm.trans found)
        rw [← own] at agrees ⊢
        exact finishStage_nativeUnsupported choice.now agrees
      cases stage with
      | fallback =>
          refine ended _ rfl fun item next present found agrees => ?_
          rw [writes item next present found agrees]
          simp
      | native =>
          by_cases unsupported : completion.status = .unsupported
          · have turned : (StagePhase.active job .native progress).next
                (.finishDeliveryStage completion) (.ok done) = .active job .fallback .fresh :=
              if_pos unsupported
            rw [turned]
            have supported : Stage.fallback = .native → ¬job.item.NativeUnsupported := nofun
            refine Bears.active (bearing.step kept effect nofun ?_
              (produced_fresh bearing.uploads.later supported))
            intro item next present found _ agrees
            rw [writes item next present found agrees]
            simp [unsupported]
          · refine ended _ (if_neg unsupported) fun item next present found agrees => ?_
            rw [writes item next present found agrees]
            simp [unsupported]

/-- The own steps of a call keep it to its job. -/
theorem Bears.step_own {phase : StagePhase} {op : Op} {answer : Ans op}
    (bears : Bears world trace task phase) (kept : GrantsKept world trace)
    (allowed : StageAllowed phase op) (effect : LedgerEffect world after choice op answer)
    (items : ∀ deliveryKey itemKey item, after.ledger.item? deliveryKey itemKey = some item →
      ItemUploads (trace ++ [⟨task, op, answer, world, after⟩]) deliveryKey itemKey item) :
    Bears after (trace ++ [⟨task, op, answer, world, after⟩]) task (phase.next op answer) := by
  cases allowed with
  | neutral known harmless =>
      rw [StagePhase.next_neutral harmless]
      rintro job stage progress rfl
      have bearing := bears job stage progress rfl
      have quiet : op.writesStages = false := by
        cases op <;> first | rfl | simp [Op.isNeutral] at harmless
      exact bearing.still kept effect (not_writesStage quiet)
        (bearing.produced.later fun prepared => absurd prepared known)
  | between other =>
      cases op with
      | claimDeliveryItem request => exact Bears.claim effect items
      | prepareOutbound _ _ | recordDeliveryItemUpload _ | sendPreparedOutbound _ _ _ _
      | finishDeliveryStage _ | finishDeliveryItem _ => simp [Op.isStaging] at other
      | _ => exact Bears.idle
  | prepare own => exact Bears.prepare (bears _ _ _ rfl) kept own effect
  | upload => exact Bears.recordUpload (bears _ _ _ rfl) kept effect
  | send known => exact Bears.send (bears _ _ _ rfl) kept known effect
  | finishStage known names own media =>
      exact Bears.finishStage (bears _ _ _ rfl) kept known names own effect
  | finishNative names media => exact Bears.idle
  | finishFallback names => exact Bears.idle

end Own

/-! ## Runs -/

section Runs

variable {digests : Digests} {host : FleetHost} {world after : World}
  {trace : List (gatewayMachine digests host).Event} {task : Nat} {phase : StagePhase} {op : Op}
  {answer : Ans op} {choice : Choice}

/-- What a call writes under a claim is its own. -/
theorem Bears.ownWrite {deliveryKey itemKey : String} {item : LedgerItem} {drawn : Uuid}
    {ledgerOp : LedgerOp} (bears : Bears world trace task phase) (allowed : StageAllowed phase op)
    (operation : op.ledgerOp drawn = some ledgerOp)
    (present : world.ledger.item? deliveryKey itemKey = some item) :
    OwnWrite (trace ++ [⟨task, op, answer, world, after⟩]) deliveryKey itemKey item ledgerOp := by
  cases ledgerOp with
  | recordUpload upload =>
      obtain rfl := Op.ledgerOp_recordUpload operation
      rintro rfl rfl held
      cases allowed with
      | neutral known harmless => simp [Op.isNeutral] at harmless
      | between other => simp [Op.isStaging] at other
      | upload =>
          have bearing := bears _ _ _ rfl
          exact ⟨JustPrepared.named bearing.produced rfl rfl, bearing.current item present held⟩
  | finishStage completion =>
      obtain rfl := Op.ledgerOp_finishStage operation
      rintro rfl rfl held
      cases allowed with
      | neutral known harmless => simp [Op.isNeutral] at harmless
      | between other => simp [Op.isStaging] at other
      | finishStage known names own media =>
          have bearing := bears _ _ _ rfl
          have sources := bearing.sources known
          rw [names.delivery, names.item] at present ⊢
          rw [names.claim] at held
          rw [own]
          exact ⟨fun id named => (sources.media (media id named)).later,
            bearing.current item present held⟩
  | finishItem completion =>
      obtain rfl := Op.ledgerOp_finishItem operation
      rintro rfl rfl held
      cases allowed with
      | neutral known harmless => simp [Op.isNeutral] at harmless
      | between other => simp [Op.isStaging] at other
      | finishNative names media =>
          have sources := (bears _ _ _ rfl).sources id
          rw [names.delivery, names.item]
          exact Or.inr fun id named => (sources.media (media id named)).later
      | finishFallback names =>
          have bearing := bears _ _ _ rfl
          rw [names.delivery, names.item] at present
          rw [names.claim] at held
          exact Or.inl ((bearing.current item present held).mpr rfl)
  | persistPlan _ _ _ _ | claimMaterialization _ _ _ _ _ | finishMaterialization _
  | claimItem _ _ | reconcileCache _ => exact trivial

/-- What holds of the items and of the history. -/
structure UploadsKept (world : World) (trace : List (gatewayMachine digests host).Event) :
    Prop where
  grants : GrantsKept world trace
  items : ∀ deliveryKey itemKey item, world.ledger.item? deliveryKey itemKey = some item →
    ItemUploads trace deliveryKey itemKey item
  sends : Machine.EachStep SendsOwn trace

theorem UploadsKept.items_step (kept : UploadsKept world trace) (bears : Bears world trace task phase)
    (allowed : StageAllowed phase op) (effect : LedgerEffect world after choice op answer)
    {deliveryKey itemKey : String} {moved : LedgerItem}
    (found : after.ledger.item? deliveryKey itemKey = some moved) :
    ItemUploads (trace ++ [⟨task, op, answer, world, after⟩]) deliveryKey itemKey moved := by
  rcases effect.applied with same | ⟨-, ledgerOp, operation, applied⟩
  · rw [same] at found
    exact (kept.items _ _ _ found).later
  · have change := LedgerStep.apply_effect ⟨choice.now, ledgerOp⟩ world.ledger deliveryKey itemKey
    rw [← applied, found] at change
    cases before : world.ledger.item? deliveryKey itemKey with
    | none =>
        rw [before] at change
        cases change with
        | born birth => exact birth.uploads
    | some item =>
        rw [before] at change
        cases change with
        | moved move =>
            exact move.uploads (kept.items _ _ _ before).later
              (bears.ownWrite allowed operation before)

theorem Bears.sendsOwn (bears : Bears world trace task phase) (allowed : StageAllowed phase op) :
    SendsOwn trace (⟨task, op, answer, world, after⟩ : (gatewayMachine digests host).Event) := by
  rintro adapter outbound value context ⟨⟩
  generalize given : some value = upload at allowed
  cases allowed with
  | neutral known harmless => simp [Op.isNeutral] at harmless
  | between other => simp [Op.isStaging] at other
  | send known =>
      have bearing := bears _ _ _ rfl
      exact (bearing.sources known).upload value given.symm

theorem UploadsKept.step (kept : UploadsKept world trace) (bears : Bears world trace task phase)
    (allowed : StageAllowed phase op)
    (performed : World.perform host world op choice = some (answer, after)) :
    UploadsKept after (trace ++ [⟨task, op, answer, world, after⟩]) :=
  ⟨kept.grants.step performed,
    fun _ _ _ found => kept.items_step bears allowed (World.perform_effect performed) found,
    kept.sends.concat (bears.sendsOwn allowed)⟩

theorem UploadsKept.outside (kept : UploadsKept world trace) (event : OutsideMove) :
    UploadsKept (event.apply host world) trace := by
  refine ⟨kept.grants.outside event, fun deliveryKey itemKey moved found => ?_, kept.sends⟩
  rcases event.apply_item? world deliveryKey itemKey with ⟨now, ttl, mapped⟩ | same
  · rw [mapped] at found
    obtain ⟨item, present, rfl⟩ := Option.map_eq_some_iff.mp found
    exact (kept.items _ _ _ present).reconcile now ttl
  · rw [same] at found
    exact kept.items _ _ _ found

theorem Bears.outside (bears : Bears world trace task phase) (event : OutsideMove) :
    Bears (event.apply host world) trace task phase := by
  intro job stage progress active
  have bearing := bears job stage progress active
  refine ⟨bearing.granted, bearing.uploads, bearing.supported, ?_, bearing.produced⟩
  intro moved found held
  obtain ⟨item, present, frame⟩ := event.item_before found
  have agrees := bearing.current item present (frame.claimToken.symm.trans held)
  rwa [LedgerItem.NativeUnsupported, frame.native]

/-- In every run an item is sent in each of its stages only with what that stage produced. -/
theorem upload_stays_in_its_stage (routes : Std.TreeMap String Json) (directory : Directory)
    (moves : List (gatewayMachine digests host).Move) (last : (gatewayMachine digests host).System)
    (played : (Machine.System.boot (World.initial routes directory)).play moves = some last) :
    Machine.EachStep SendsOwn last.trace := by
  have steady : @Machine.Steady Op Ans StagePhase (gatewayMachine digests host)
      (fun _ => stageProtocol) (fun _ => True) (fun _ => True) :=
    ⟨fun _ _ _ _ _ _ _ => ⟨trivial, fun _ => trivial⟩, fun _ _ _ _ => trivial⟩
  obtain ⟨phases, run, -⟩ := Machine.play_phased_boot steady
    (fun call _ => call.program_staged) (fun _ _ => trivial) trivial played
  have maintained := Machine.Phased.maintains UploadsKept
    (fun world trace task _ phase => Bears world trace task phase) ?boot ?start ?step ?outside run
  · exact maintained.1.sends
  case boot =>
    have empty : (World.initial routes directory).ledger = ∅ := rfl
    exact ⟨⟨by simp, .nil, by simp [empty, Ledger.item?], by simp⟩,
      by simp [empty, Ledger.item?], .nil⟩
  case start =>
    exact fun world phases trace call _ _ _ => Bears.idle
  case step =>
    intro world after phases trace task call phase op choice answer _ each holder allowed _
      performed kept
    have effect := World.perform_effect performed
    have bears := each task call phase holder
    have next := kept.step bears allowed performed
    refine ⟨next, bears.step_own kept.grants allowed effect next.items, ?_⟩
    intro other started otherPhase different _ old
    exact old.step_other bears different kept.grants allowed effect
  case outside =>
    intro world trace event _ kept
    exact ⟨kept.outside event, fun _ _ _ old => old.outside event⟩

end Runs

def Op.sentMedia? : Op → Option String
  | .sendPreparedOutbound _ _ upload _ => preparedMediaId upload
  | _ => none

def uploadingChoice (now : Time) (token : Uuid) : Choice :=
  { smoothChoice now token with prepared := .ok (some ⟨"media", none, .null⟩) }

/-- A turn whose process stops once the upload is on record, and the recovery pass after it. -/
def interruptedUpload : List (gatewayMachine plainDigests offlineHost).Move :=
  .start turnDelivery :: List.replicate 4 (.step 0 (uploadingChoice 0 ⟨1⟩)) ++
    .start (.recover textGateway) ::
      List.replicate 4 (.step 1 (smoothChoice (3600 * nanosPerSecond) ⟨2⟩))

theorem interrupted_upload_is_sent : ∃ last,
    (Machine.System.boot (World.initial ∅ ∅)).play interruptedUpload = some last ∧
      last.trace.filterMap (·.op.sentMedia?) = ["media"] ∧ Machine.EachStep SendsOwn last.trace := by
  have sent : ((Machine.System.boot (World.initial ∅ ∅)).play interruptedUpload).map
      (fun last => last.trace.filterMap (·.op.sentMedia?)) = some ["media"] := by decide
  obtain ⟨last, played, resumed⟩ := Option.map_eq_some_iff.mp sent
  exact ⟨last, played, resumed, upload_stays_in_its_stage ∅ ∅ interruptedUpload last played⟩

end HarborGate
