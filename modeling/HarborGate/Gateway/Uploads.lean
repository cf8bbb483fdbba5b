import HarborGate.Gateway.Staging

/-!
Where the uploads come from that an item is sent with. The ledger keeps them for each stage and once
more for the item; the native stage falls back to those of the item, which are its own as long as it
has not turned out to be unsupported.
-/

namespace HarborGate

open Interleave

/-! ## What a history produced -/

/-- The message an adapter prepared and the upload it made of it. -/
def Op.prepared? : (op : Op) → Ans op → Option (OutboundMessage × PreparedOutbound)
  | .prepareOutbound _ outbound, .ok (some value) => some (outbound, value)
  | _, _ => none

/-- The media id that the answer to a send names, with the claim it was sent under. -/
def Op.returned? : (op : Op) → Ans op → Option (StageContext × String)
  | .sendPreparedOutbound _ _ _ context, .ok response =>
      (responseMediaId response).map fun media => (context, media)
  | _, _ => none

section Sources

variable {digests : Digests} {host : FleetHost}

/-- The steps of one task. -/
def ownSteps (trace : List (gatewayMachine digests host).Event) (task : Nat) :
    List (gatewayMachine digests host).Event :=
  trace.filter (·.task = task)

/-- A call had the message of the stage prepared, and named the stage to the ledger next. -/
def PreparedFor (trace : List (gatewayMachine digests host).Event) (deliveryKey itemKey : String)
    (stage : Stage) (value : PreparedOutbound) : Prop :=
  ∃ task first second outbound token, [first, second] <:+: ownSteps trace task ∧
    first.op.prepared? first.answer = some (outbound, value) ∧
    ForStage deliveryKey itemKey outbound stage ∧
    second.op = .recordDeliveryItemUpload (stageUpload ⟨deliveryKey, itemKey, token, stage⟩ value)

/-- A send of the stage returned the media id. -/
def ReturnedFor (trace : List (gatewayMachine digests host).Event) (deliveryKey itemKey : String)
    (stage : Stage) (media : String) : Prop :=
  ∃ event ∈ trace, ∃ token,
    event.op.returned? event.answer = some (⟨deliveryKey, itemKey, token, stage⟩, media)

def ProducedMedia (trace : List (gatewayMachine digests host).Event) (deliveryKey itemKey : String)
    (stage : Stage) (media : String) : Prop :=
  (∃ value, PreparedFor trace deliveryKey itemKey stage value ∧ value.providerMediaId = media) ∨
    ReturnedFor trace deliveryKey itemKey stage media

/-- The media id is one the stage produced, with its surrounding whitespace or without. -/
def MediaOf (trace : List (gatewayMachine digests host).Event) (deliveryKey itemKey : String)
    (stage : Stage) (media : String) : Prop :=
  ∃ produced, ProducedMedia trace deliveryKey itemKey stage produced ∧
    (media = produced ∨ media = Text.trim produced)

/-- The state is one the stage produced, or there is none. -/
def StateOf (trace : List (gatewayMachine digests host).Event) (deliveryKey itemKey : String)
    (stage : Stage) (state : Json) : Prop :=
  state = .null ∨ ∃ value, PreparedFor trace deliveryKey itemKey stage value ∧ value.state = state

structure UploadOf (trace : List (gatewayMachine digests host).Event) (deliveryKey itemKey : String)
    (stage : Stage) (media : Option String) (state : Json) : Prop where
  media : ∀ id, media = some id → MediaOf trace deliveryKey itemKey stage id
  state : StateOf trace deliveryKey itemKey stage state

/-- What is sent under a claim was produced by the stage it is sent in. -/
def SendsOwn (earlier : List (gatewayMachine digests host).Event)
    (event : (gatewayMachine digests host).Event) : Prop :=
  ∀ adapter outbound upload context,
    event.op = .sendPreparedOutbound adapter outbound (some upload) context →
    UploadOf earlier context.deliveryKey context.itemKey context.stage (some upload.providerMediaId)
      upload.state

variable {trace : List (gatewayMachine digests host).Event} {deliveryKey itemKey : String}
  {stage : Stage} {event : (gatewayMachine digests host).Event}

theorem PreparedFor.later {value : PreparedOutbound}
    (prepared : PreparedFor trace deliveryKey itemKey stage value) :
    PreparedFor (trace ++ [event]) deliveryKey itemKey stage value := by
  obtain ⟨task, first, second, outbound, token, steps, made, own, named⟩ := prepared
  refine ⟨task, first, second, outbound, token, steps.trans ?_, made, own, named⟩
  rw [ownSteps, ownSteps, List.filter_append]
  exact (List.prefix_append _ _).isInfix

theorem MediaOf.later {media : String} (sourced : MediaOf trace deliveryKey itemKey stage media) :
    MediaOf (trace ++ [event]) deliveryKey itemKey stage media := by
  obtain ⟨produced, source, same⟩ := sourced
  refine ⟨produced, ?_, same⟩
  rcases source with ⟨value, prepared, named⟩ | ⟨send, member, token, returned⟩
  · exact Or.inl ⟨value, prepared.later, named⟩
  · exact Or.inr ⟨send, List.mem_append_left _ member, token, returned⟩

theorem MediaOf.trim {media : String} (sourced : MediaOf trace deliveryKey itemKey stage media) :
    MediaOf trace deliveryKey itemKey stage (Text.trim media) := by
  obtain ⟨produced, source, rfl | rfl⟩ := sourced
  · exact ⟨_, source, Or.inr rfl⟩
  · exact ⟨produced, source, Or.inr (Text.trim_trim produced)⟩

theorem StateOf.later {state : Json} (sourced : StateOf trace deliveryKey itemKey stage state) :
    StateOf (trace ++ [event]) deliveryKey itemKey stage state := by
  rcases sourced with absent | ⟨value, prepared, same⟩
  · exact Or.inl absent
  · exact Or.inr ⟨value, prepared.later, same⟩

theorem UploadOf.later {media : Option String} {state : Json}
    (sourced : UploadOf trace deliveryKey itemKey stage media state) :
    UploadOf (trace ++ [event]) deliveryKey itemKey stage media state :=
  ⟨fun id named => (sourced.media id named).later, sourced.state.later⟩

theorem UploadOf.none : UploadOf trace deliveryKey itemKey stage none .null :=
  ⟨fun _ mismatch => (nomatch mismatch), Or.inl rfl⟩

theorem UploadOf.or {other media : Option String} {state : Json}
    (sourced : UploadOf trace deliveryKey itemKey stage media state)
    (own : ∀ id, other = some id → MediaOf trace deliveryKey itemKey stage id) :
    UploadOf trace deliveryKey itemKey stage (other.or media) state := by
  refine ⟨fun id named => ?_, sourced.state⟩
  rcases Option.or_eq_some_iff.mp named with first | ⟨-, second⟩
  · exact own id first
  · exact sourced.media id second

/-! ## Items -/

/-- The uploads an item carries: each stage has its own, and the item those of its native stage while
that is not unsupported. -/
structure ItemUploads (trace : List (gatewayMachine digests host).Event) (deliveryKey itemKey : String)
    (item : LedgerItem) : Prop where
  stages : ∀ stage record, item.stage stage = some record →
    UploadOf trace deliveryKey itemKey stage record.providerMediaId record.providerMediaState
  native : ¬item.NativeUnsupported →
    UploadOf trace deliveryKey itemKey .native item.providerMediaId item.providerMediaState

variable {item moved : LedgerItem}

theorem ItemUploads.later (uploads : ItemUploads trace deliveryKey itemKey item) :
    ItemUploads (trace ++ [event]) deliveryKey itemKey item :=
  ⟨fun stage record found => (uploads.stages stage record found).later,
    fun supported => (uploads.native supported).later⟩

/-- What an item is resumed with is the stage's own. -/
theorem ItemUploads.resumed {value : PreparedOutbound}
    (uploads : ItemUploads trace deliveryKey itemKey item)
    (supported : stage = .native → ¬item.NativeUnsupported)
    (resumed : resumedUpload item stage = some value) :
    UploadOf trace deliveryKey itemKey stage (some value.providerMediaId) value.state := by
  have ofFields : ∀ (media client : Option String) (state : Json),
      UploadOf trace deliveryKey itemKey stage media state →
      (Text.trimmed media).map (fun id => (⟨id, Text.trimmed client, state⟩ : PreparedOutbound)) =
        some value →
      UploadOf trace deliveryKey itemKey stage (some value.providerMediaId) value.state := by
    intro media client state sourced named
    obtain ⟨id, trimmed, rfl⟩ := Option.map_eq_some_iff.mp named
    obtain ⟨raw, given, rfl⟩ : ∃ raw, media = some raw ∧ Text.trim raw = id := by
      simp only [Text.trimmed, Option.filter_eq_some_iff, Option.map_eq_some_iff] at trimmed
      exact trimmed.1
    refine ⟨fun other same => ?_, sourced.state⟩
    obtain rfl := Option.some.inj same
    exact (sourced.media raw given).trim
  have ofStage : ∀ record, item.stage stage = some record →
      (Text.trimmed record.providerMediaId).map (fun id =>
        (⟨id, Text.trimmed record.providerClientId, record.providerMediaState⟩ :
          PreparedOutbound)) = some value →
      UploadOf trace deliveryKey itemKey stage (some value.providerMediaId) value.state :=
    fun record found => ofFields _ _ _ (uploads.stages stage record found)
  cases stage with
  | fallback =>
      obtain ⟨record, found, named⟩ := Option.bind_eq_some_iff.mp resumed
      exact ofStage record found named
  | native =>
      rcases Option.or_eq_some_iff.mp resumed with own | ⟨-, ofItem⟩
      · obtain ⟨record, found, named⟩ := Option.bind_eq_some_iff.mp own
        exact ofStage record found named
      · exact ofFields _ _ _ (uploads.native (supported rfl)) ofItem

theorem ItemUploads.congr (uploads : ItemUploads trace deliveryKey itemKey item)
    (native : moved.native = item.native) (fallback : moved.fallback = item.fallback)
    (media : moved.providerMediaId = item.providerMediaId)
    (state : moved.providerMediaState = item.providerMediaState) :
    ItemUploads trace deliveryKey itemKey moved := by
  constructor
  · intro stage record found
    refine uploads.stages stage record ?_
    cases stage with
    | native => exact native.symm.trans found
    | fallback => exact fallback.symm.trans found
  · intro supported
    rw [media, state]
    refine uploads.native ?_
    rwa [LedgerItem.NativeUnsupported, native] at supported

/-- A stage with its own upload, in an item whose native stage keeps or loses its support. -/
theorem ItemUploads.setStage {value : StageRecord}
    (uploads : ItemUploads trace deliveryKey itemKey item)
    (own : UploadOf trace deliveryKey itemKey stage value.providerMediaId value.providerMediaState)
    (agrees : item.NativeUnsupported ↔ stage = .fallback) :
    ItemUploads trace deliveryKey itemKey (item.setStage stage value) := by
  constructor
  · intro other record found
    by_cases same : other = stage
    · subst same
      have written : (item.setStage other value).stage other = some value := by
        cases other <;> rfl
      obtain rfl := Option.some.inj (written.symm.trans found)
      exact own
    · refine uploads.stages other record ?_
      rw [← found]
      cases other <;> cases stage <;> first | rfl | exact absurd rfl same
  · intro supported
    cases stage with
    | fallback => exact absurd (agrees.mpr rfl) supported
    | native => exact uploads.native fun unsupported => nomatch agrees.mp unsupported

/-- The stage record that a write starts from. -/
theorem ItemUploads.stageOr (uploads : ItemUploads trace deliveryKey itemKey item) (now : Time) :
    UploadOf trace deliveryKey itemKey stage
      ((item.stage stage).getD (deliveryStageValue now)).providerMediaId
      ((item.stage stage).getD (deliveryStageValue now)).providerMediaState := by
  cases found : item.stage stage with
  | none => exact .none
  | some record => exact uploads.stages stage record found

theorem reconcileItem_upload (now : Time) (ttl : Int) (item : LedgerItem) :
    (reconcileItem now ttl item).1.providerMediaId = item.providerMediaId ∧
      (reconcileItem now ttl item).1.providerMediaState = item.providerMediaState := by
  simp only [reconcileItem]
  repeat' split
  all_goals exact ⟨rfl, rfl⟩

theorem ItemUploads.reconcile (uploads : ItemUploads trace deliveryKey itemKey item) (now : Time)
    (ttl : Int) : ItemUploads trace deliveryKey itemKey (reconcileItem now ttl item).1 := by
  have frame := reconcileItem_frame now ttl item
  have own := reconcileItem_upload now ttl item
  exact uploads.congr frame.native frame.fallback own.1 own.2

theorem ItemUploads.recordUpload {upload : DeliveryItemUpload} (now : Time)
    (uploads : ItemUploads trace deliveryKey itemKey item)
    (own : UploadOf trace deliveryKey itemKey upload.stage (some upload.providerMediaId)
      upload.providerMediaState)
    (agrees : item.NativeUnsupported ↔ upload.stage = .fallback) :
    ItemUploads trace deliveryKey itemKey (item.recordUpload now upload) := by
  have staged := @ItemUploads.setStage _ _ _ _ _ _ _
    { (item.stage upload.stage).getD (deliveryStageValue now) with
      status := .prepared
      providerMediaId := some upload.providerMediaId
      providerMediaState := upload.providerMediaState
      providerClientId := upload.providerClientId
      updatedAt := utcNowIso now } uploads own agrees
  refine ⟨staged.stages, fun supported => ?_⟩
  -- The fields of the item are those of the stage just written.
  cases stage : upload.stage with
  | native =>
      rw [stage] at own
      exact own
  | fallback =>
      refine absurd ?_ supported
      have unsupported := agrees.mpr stage
      simpa [LedgerItem.NativeUnsupported, LedgerItem.recordUpload, stage, LedgerItem.setStage]
        using unsupported

theorem ItemUploads.finishStage {completion : DeliveryStageCompletion} (now : Time)
    (uploads : ItemUploads trace deliveryKey itemKey item)
    (own : ∀ id, completion.providerMediaId = some id →
      MediaOf trace deliveryKey itemKey completion.stage id)
    (agrees : item.NativeUnsupported ↔ completion.stage = .fallback) :
    ItemUploads trace deliveryKey itemKey (item.finishStage now completion) :=
  uploads.setStage ((uploads.stageOr now).or own) agrees

theorem ItemUploads.finish {completion : DeliveryItemCompletion} (now : Time)
    (uploads : ItemUploads trace deliveryKey itemKey item)
    (own : item.NativeUnsupported ∨ ∀ id, completion.providerMediaId = some id →
      MediaOf trace deliveryKey itemKey .native id) :
    ItemUploads trace deliveryKey itemKey (item.finish now completion) := by
  refine ⟨uploads.stages, fun supported => ?_⟩
  rcases own with unsupported | own
  · exact absurd unsupported supported
  · exact (uploads.native supported).or own

/-- A write under the claim that the item carries: it is about the stage the item is in, and brings
what that stage produced. -/
def OwnWrite (trace : List (gatewayMachine digests host).Event) (deliveryKey itemKey : String)
    (item : LedgerItem) : LedgerOp → Prop
  | .recordUpload upload =>
      upload.deliveryKey = deliveryKey → upload.itemKey = itemKey →
        item.claimToken = some upload.claimToken →
        UploadOf trace deliveryKey itemKey upload.stage (some upload.providerMediaId)
          upload.providerMediaState ∧ (item.NativeUnsupported ↔ upload.stage = .fallback)
  | .finishStage completion =>
      completion.deliveryKey = deliveryKey → completion.itemKey = itemKey →
        item.claimToken = some completion.claimToken →
        (∀ id, completion.providerMediaId = some id →
          MediaOf trace deliveryKey itemKey completion.stage id) ∧
          (item.NativeUnsupported ↔ completion.stage = .fallback)
  | .finishItem completion =>
      completion.deliveryKey = deliveryKey → completion.itemKey = itemKey →
        item.claimToken = some completion.claimToken →
        item.NativeUnsupported ∨ ∀ id, completion.providerMediaId = some id →
          MediaOf trace deliveryKey itemKey .native id
  | _ => True

theorem ItemMove.uploads {step : LedgerStep} (move : ItemMove step deliveryKey itemKey item moved)
    (uploads : ItemUploads trace deliveryKey itemKey item)
    (own : OwnWrite trace deliveryKey itemKey item step.op) :
    ItemUploads trace deliveryKey itemKey moved := by
  cases move with
  | keep => exact uploads
  | plan _ | claimMaterialization _ _ _ _ _ _ _ | finishMaterialization _ _ _ _ _ _
  | claim _ _ _ _ _ _ _ _ _ => exact uploads.congr rfl rfl rfl rfl
  | recordUpload upload operation addressed active =>
      rw [operation] at own
      obtain ⟨source, agrees⟩ := own addressed.1 addressed.2 active.holder
      exact uploads.recordUpload step.now source agrees
  | finishStage completion operation addressed active =>
      rw [operation] at own
      obtain ⟨source, agrees⟩ := own addressed.1 addressed.2 active.holder
      exact uploads.finishStage step.now source agrees
  | finishItem completion operation addressed active =>
      rw [operation] at own
      exact uploads.finish step.now (own addressed.1 addressed.2 active.holder)
  | reconcile ttl operation => exact uploads.reconcile step.now ttl

/-- A new item has no uploads. -/
theorem ItemBirth.uploads {step : LedgerStep} (birth : ItemBirth step deliveryKey itemKey item) :
    ItemUploads trace deliveryKey itemKey item := by
  constructor
  · intro stage record found
    have blank : record = deliveryStageValue step.now := by
      cases birth <;> cases stage <;>
        simp [LedgerItem.stage, LedgerItem.plan, LedgerItem.claim, planSource, newItem] at found <;>
        exact found.symm
    subst blank
    exact .none
  · intro _
    cases birth with
    | plan _ _ _ _ _ _ => exact .none
    | claim _ _ _ _ _ => exact .none

end Sources

end HarborGate
