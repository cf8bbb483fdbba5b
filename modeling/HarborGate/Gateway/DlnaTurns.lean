import HarborGate.Gateway.Inbound

/-!
The turn that `harborbeacon.rs` builds from a message, as the JSON that is sent, and the guard of
`handle_gateway_turn` against DLNA commands. The guard reads the client's payload, Beacon reads the
intent of the turn.
-/

namespace HarborGate

namespace Inbound

open Interleave

/-! ## The turn as it is sent -/

/-- `raw_lookup` and `metadata_lookup`. -/
def lookupText (fields : JsonMap) (key : String) : Option String :=
  ((JsonMap.get fields key).bind Json.asStr).filter (!Text.isBlank ·)

def rawFields (inbound : InboundMessage) : JsonMap :=
  inbound.rawPayload.asObject.getD []

def eitherText (inbound : InboundMessage) (key : String) : Option String :=
  (lookupText (rawFields inbound) key).or (lookupText inbound.metadata key)

def isString (value : Json) : Bool :=
  value.asStr.isSome

/-- The intent that the channel names itself. -/
def channelIntent (inbound : InboundMessage) : Option Json :=
  (JsonMap.get inbound.metadata "intent").filter Json.isObject

def turnIntent (inbound : InboundMessage) : JsonMap :=
  let intent : JsonMap :=
    [("action", .str ((eitherText inbound "action").getD "message")),
      ("domain", .str ((eitherText inbound "domain").getD "general")),
      ("raw_text", .str inbound.text)]
  match channelIntent inbound with
  | none => intent
  | some channel =>
      ["domain", "action", "raw_text"].foldl
        (fun intent key => optionalField intent key ((channel.get key).filter isString)) intent

def objectField (fields : JsonMap) (key : String) : Option Json :=
  (JsonMap.get fields key).filter Json.isObject

def turnTransportMetadata (inbound : InboundMessage) : JsonMap :=
  let metadata : JsonMap := [("intent", .obj (turnIntent inbound))]
  let metadata := optionalField metadata "entity_refs" (objectField (rawFields inbound) "entity_refs")
  let metadata := optionalField metadata "args" (objectField (rawFields inbound) "args")
  let metadata := optionalField metadata "args" (objectField inbound.metadata "args")
  optionalField metadata "entity_refs" (objectField inbound.metadata "entity_refs")

/-- `build_turn_request`. -/
def TurnRequest.payload (texts : Texts) (digests : Digests) (request : TurnRequest) : JsonMap :=
  let inbound := request.inbound
  let event := eventFingerprint texts digests inbound
  [("actor", .obj
      [("account_id", Json.ofOption (eitherText inbound "account_id")),
        ("user_id", .str inbound.userId),
        ("workspace_id", .str ((eitherText inbound "workspace_id").getD "home-1"))]),
    ("autonomy", .obj [("level", .str "supervised")]),
    ("continuation", request.continuation.getD .null),
    ("conversation", .obj
      [("channel", .str inbound.platform),
        ("chat_type", .str (if Text.isBlank inbound.chatType then "unknown" else inbound.chatType)),
        ("handle", Json.ofOption (request.conversationHandle.filter (!Text.isBlank ·))),
        ("surface", .str "harborgate"),
        ("thread_id", .str inbound.chatId)]),
    ("input", .obj [("parts", .arr inbound.attachments), ("text", .str inbound.text)]),
    ("transport", .obj
      [("capabilities", .obj [("file", .bool true), ("image", .bool true), ("text", .bool true),
          ("video", .bool true)]),
        ("message_id", .str (Text.trim inbound.messageId)),
        ("metadata", .obj (turnTransportMetadata inbound)),
        ("route_key", .str (deriveRouteKey digests inbound))]),
    ("turn", .obj
      [("occurred_at", .str inbound.timestamp),
        ("retry_of", .null),
        ("trace_id", .str (digests.stableId "trace_" ("trace|" ++ event) 24)),
        ("turn_id", .str (digests.stableId "turn_" event 24))])]

/-- One object of the turn, changed in place. -/
def updateObject (payload : JsonMap) (part : String) (update : JsonMap → JsonMap) : JsonMap :=
  match (JsonMap.get payload part).bind Json.asObject with
  | some fields => JsonMap.insert payload part (.obj (update fields))
  | none => payload

def trimmedAt (source : Json) (path : List String) : Option Json :=
  (Text.trimmed ((source.pointer path).bind Json.asStr)).map Json.str

/-- `apply_channel_turn_overrides`. -/
def overridePayload (payload : JsonMap) (source : Json) : JsonMap :=
  let payload := updateObject payload "turn" fun turn =>
    let turn := optionalField turn "turn_id" (trimmedAt source ["turn", "turn_id"])
    let turn := optionalField turn "trace_id" (trimmedAt source ["turn", "trace_id"])
    let turn := optionalField turn "occurred_at" (trimmedAt source ["turn", "occurred_at"])
    optionalField turn "retry_of" (source.pointer ["turn", "retry_of"])
  let payload := updateObject payload "actor" fun actor =>
    let actor := optionalField actor "workspace_id" (trimmedAt source ["actor", "workspace_id"])
    optionalField actor "account_id" (source.pointer ["actor", "account_id"])
  let payload := updateObject payload "conversation" fun conversation =>
    optionalField conversation "surface" (trimmedAt source ["conversation", "surface"])
  updateObject payload "autonomy" fun autonomy =>
    optionalField autonomy "level" (trimmedAt source ["autonomy", "level"])

/-- `build_channel_turn_request`: a gateway turn keeps the payload it came with. -/
def TurnRequest.channelPayload (texts : Texts) (digests : Digests) (request : TurnRequest) : Json :=
  .obj (overridePayload (request.payload texts digests) request.inbound.rawPayload)

/-! ## The guard -/

def isDlnaDomain (domain : String) : Bool :=
  Text.toAsciiLowercase (Text.trim domain) = "dlna"

def textAt (payload : Json) (path : List String) : Option String :=
  (payload.pointer path).bind Json.asStr

/-- What Beacon would take for a DLNA command is not in the turn. -/
structure Unmarked (turn : Json) : Prop where
  domain : (textAt turn ["transport", "metadata", "intent", "domain"]).any isDlnaDomain = false
  text : (textAt turn ["input", "text"]).any dlnaCommand = false
  rawText : (textAt turn ["transport", "metadata", "intent", "raw_text"]).any dlnaCommand = false

/-! ## What the turn says -/

theorem get_updateObject {payload : JsonMap} {part query : String} {update : JsonMap → JsonMap}
    (other : part ≠ query) :
    JsonMap.get (updateObject payload part update) query = JsonMap.get payload query := by
  simp only [updateObject]
  split
  · rw [JsonMap.get_insert, if_neg other]
  · rfl

theorem get_overridePayload {payload : JsonMap} {source : Json} {query : String}
    (kept : query ∉ ["turn", "actor", "conversation", "autonomy"]) :
    JsonMap.get (overridePayload payload source) query = JsonMap.get payload query := by
  simp only [List.mem_cons, List.not_mem_nil, or_false, not_or] at kept
  obtain ⟨turn, actor, conversation, autonomy⟩ := kept
  simp only [overridePayload]
  rw [get_updateObject (Ne.symm autonomy), get_updateObject (Ne.symm conversation),
    get_updateObject (Ne.symm actor), get_updateObject (Ne.symm turn)]

theorem get_turnTransportMetadata (inbound : InboundMessage) :
    JsonMap.get (turnTransportMetadata inbound) "intent" = some (.obj (turnIntent inbound)) := by
  simp only [turnTransportMetadata]
  rw [get_optionalField (by decide), get_optionalField (by decide), get_optionalField (by decide),
    get_optionalField (by decide)]
  rfl

theorem textAt_intent (texts : Texts) (digests : Digests) (request : TurnRequest) (key : String) :
    textAt (request.channelPayload texts digests) ["transport", "metadata", "intent", key] =
      (JsonMap.get (turnIntent request.inbound) key).bind Json.asStr := by
  have kept : JsonMap.get (overridePayload (request.payload texts digests)
      request.inbound.rawPayload) "transport" =
        JsonMap.get (request.payload texts digests) "transport" :=
    get_overridePayload (by decide)
  simp only [textAt, TurnRequest.channelPayload, Json.pointer, Json.get, Json.asObject,
    Option.bind_some, kept]
  simp [TurnRequest.payload, JsonMap.get, get_turnTransportMetadata]

theorem textAt_input (texts : Texts) (digests : Digests) (request : TurnRequest) :
    textAt (request.channelPayload texts digests) ["input", "text"] =
      some request.inbound.text := by
  have kept : JsonMap.get (overridePayload (request.payload texts digests)
      request.inbound.rawPayload) "input" = JsonMap.get (request.payload texts digests) "input" :=
    get_overridePayload (by decide)
  simp only [textAt, TurnRequest.channelPayload, Json.pointer, Json.get, Json.asObject,
    Option.bind_some, kept]
  simp [TurnRequest.payload, JsonMap.get, Json.asStr]

/-- What the channel's own intent says. -/
def ownIntent (inbound : InboundMessage) (key : String) : Option Json :=
  ((channelIntent inbound).bind (·.get key)).filter isString

theorem turnIntent_domain (inbound : InboundMessage) :
    JsonMap.get (turnIntent inbound) "domain" =
      (ownIntent inbound "domain").or (some (.str ((eitherText inbound "domain").getD "general"))) := by
  simp only [turnIntent, ownIntent]
  cases channelIntent inbound with
  | none => simp [JsonMap.get]
  | some channel =>
      simp only [List.foldl_cons, List.foldl_nil, Option.bind_some]
      rw [get_optionalField (by decide), get_optionalField (by decide), get_optionalField_self]
      rfl

theorem turnIntent_rawText (inbound : InboundMessage) :
    JsonMap.get (turnIntent inbound) "raw_text" =
      (ownIntent inbound "raw_text").or (some (.str inbound.text)) := by
  simp only [turnIntent, ownIntent]
  cases channelIntent inbound with
  | none => simp [JsonMap.get]
  | some channel =>
      simp only [List.foldl_cons, List.foldl_nil, Option.bind_some]
      rw [get_optionalField_self, get_optionalField (by decide), get_optionalField (by decide)]
      rfl

/-! ## Gateway turns -/

section

variable {texts : Texts} {digests : Digests} {stamp : String} {payload : Json}
  {inbound : InboundMessage}

theorem gatewayTurnToInbound_ok
    (ok : gatewayTurnToInbound texts digests stamp payload = .ok inbound) :
    inbound.rawPayload = payload ∧
      firstString payload [["input", "text"], ["text"], ["message", "text"]] = some inbound.text ∧
      ∀ key, key ≠ "source" → key ≠ "surface" →
        JsonMap.get inbound.metadata key = payload.pointer ["transport", "metadata", key] := by
  simp only [gatewayTurnToInbound] at ok
  cases text : firstString payload [["input", "text"], ["text"], ["message", "text"]] with
  | none => simp [text, bind, Except.bind] at ok
  | some text' =>
      simp only [text, bind, Except.bind] at ok
      obtain rfl := Except.ok.inj ok
      refine ⟨rfl, rfl, ?_⟩
      intro key source surface
      simp only
      rw [get_optionalField (Ne.symm surface), JsonMap.get_insert, if_neg (Ne.symm source)]
      simp only [Json.pointer, Json.get]
      cases (payload.asObject.bind fun fields => JsonMap.get fields "transport") with
      | none => rfl
      | some transport =>
          simp only [Option.bind_some]
          cases (transport.asObject.bind fun fields => JsonMap.get fields "metadata") with
          | none => rfl
          | some metadata =>
              simp only [Option.bind_some]
              cases metadata.asObject with
              | none => rfl
              | some fields =>
                  simp only [Option.getD_some, Option.bind_some]
                  cases JsonMap.get fields key with
                  | none => rfl
                  | some value => rfl

theorem ownIntent_of_turn
    (ok : gatewayTurnToInbound texts digests stamp payload = .ok inbound) (key : String) :
    (ownIntent inbound key).bind Json.asStr =
      textAt payload ["transport", "metadata", "intent", key] := by
  obtain ⟨-, -, metadata⟩ := gatewayTurnToInbound_ok ok
  have split : payload.pointer ["transport", "metadata", "intent", key] =
      (payload.pointer ["transport", "metadata", "intent"]).bind (·.get key) := by
    simp [Json.pointer, Option.bind_assoc]
  rw [textAt, split, ownIntent, channelIntent, metadata "intent" (by decide) (by decide)]
  cases payload.pointer ["transport", "metadata", "intent"] with
  | none => rfl
  | some intent =>
      by_cases isObject : intent.isObject = true
      · simp only [Option.filter, isObject, if_true, Option.bind_some]
        cases intent.get key with
        | none => rfl
        | some value => cases value <;> rfl
      · have missing : intent.get key = none := by
          cases fields : intent.asObject with
          | none => simp [Json.get, fields]
          | some fields' => simp [Json.isObject, fields] at isObject
        have dropped : (some intent).filter Json.isObject = none := by simp [isObject]
        rw [dropped]
        simp [missing]

theorem lookupText_asStr {fields : JsonMap} {key text : String} (found : lookupText fields key = some text) :
    (JsonMap.get fields key).bind Json.asStr = some text :=
  (Option.filter_eq_some_iff.mp found).1

/-- What the guard has looked at. -/
theorem rejectUnboundDlnaTurn_ok (passed : rejectUnboundDlnaTurn payload = .ok ()) :
    (∀ path ∈ [["intent", "domain"], ["domain"], ["transport", "metadata", "intent", "domain"],
      ["transport", "metadata", "domain"]], (textAt payload path).any isDlnaDomain = false) ∧
      (firstString payload [["input", "text"], ["text"], ["message", "text"]]).any dlnaCommand =
        false := by
  simp only [rejectUnboundDlnaTurn, NaviFleet.ensure] at passed
  split at passed
  case isFalse => simp at passed
  rename_i free
  simp only [Bool.not_eq_true', Bool.or_eq_false_iff] at free
  refine ⟨fun path member => ?_, free.2⟩
  have absent := List.any_eq_false.mp free.1 path member
  rw [Bool.not_eq_true] at absent
  exact absent

/-- A turn that passes the guard is free of DLNA unless its own raw text is a command. -/
theorem unmarked_iff (ok : gatewayTurnToInbound texts digests stamp payload = .ok inbound)
    (passed : rejectUnboundDlnaTurn payload = .ok ()) {request : TurnRequest}
    (same : request.inbound = inbound) :
    Unmarked (request.channelPayload texts digests) ↔
      (textAt payload ["transport", "metadata", "intent", "raw_text"]).any dlnaCommand = false := by
  subst same
  obtain ⟨source, text, metadata⟩ := gatewayTurnToInbound_ok ok
  obtain ⟨domains, command⟩ := rejectUnboundDlnaTurn_ok passed
  rw [text] at command
  have domain : (textAt (request.channelPayload texts digests)
      ["transport", "metadata", "intent", "domain"]).any isDlnaDomain = false := by
    rw [textAt_intent, turnIntent_domain]
    have own := ownIntent_of_turn ok "domain"
    cases named : ownIntent request.inbound "domain" with
    | some value =>
        rw [named, Option.bind_some] at own
        rw [Option.some_or, Option.bind_some, own]
        exact domains _ (by simp)
    | none =>
        rw [Option.none_or, Option.bind_some, Json.asStr, Option.any_some]
        cases either : eitherText request.inbound "domain" with
        | none => decide
        | some domain =>
            rcases Option.or_eq_some_iff.mp either with raw | ⟨-, kept⟩
            · have found := domains ["domain"] (by simp)
              rw [rawFields, source] at raw
              have read : textAt payload ["domain"] = some domain := by
                have inside := lookupText_asStr raw
                cases fields : payload.asObject with
                | none => simp [fields, JsonMap.get] at inside
                | some list =>
                    rw [fields] at inside
                    simpa [textAt, Json.pointer, Json.get, fields] using inside
              rw [read, Option.any_some] at found
              rw [Option.getD_some]
              exact found
            · have found := domains ["transport", "metadata", "domain"] (by simp)
              have inside := lookupText_asStr kept
              rw [metadata "domain" (by decide) (by decide)] at inside
              rw [textAt, inside, Option.any_some] at found
              rw [Option.getD_some]
              exact found
  have input : (textAt (request.channelPayload texts digests) ["input", "text"]).any dlnaCommand =
      false := by
    rw [textAt_input]
    exact command
  have rawText : (textAt (request.channelPayload texts digests)
      ["transport", "metadata", "intent", "raw_text"]).any dlnaCommand = false ↔
        (textAt payload ["transport", "metadata", "intent", "raw_text"]).any dlnaCommand = false := by
    rw [textAt_intent, turnIntent_rawText]
    have own := ownIntent_of_turn ok "raw_text"
    rw [← own]
    cases ownIntent request.inbound "raw_text" with
    | some value => simp
    | none =>
        simp only [Option.none_or, Option.bind_some, Json.asStr, Option.bind_none, Option.any_none,
          iff_true]
        exact command
  exact ⟨fun unmarked => rawText.mp unmarked.rawText, fun free => ⟨domain, input, rawText.mpr free⟩⟩

end

/-! ## What a gateway turn submits -/

/-- The turns that pass the guard for a payload. -/
def Submitted (texts : Texts) (digests : Digests) (payload : Json) (request : TurnRequest) : Prop :=
  ∃ stamp inbound, gatewayTurnToInbound texts digests stamp payload = .ok inbound ∧
    rejectUnboundDlnaTurn payload = .ok () ∧ request.inbound = inbound

def submitProtocol (texts : Texts) (digests : Digests) (payload : Json) :
    Protocol InboundOp InboundAns Unit where
  allows _ op := ∀ request, op = .postTurn request → Submitted texts digests payload request
  possible _ _ := True
  next _ _ _ := ()

theorem handleGatewayTurn_submits (texts : Texts) (digests : Digests) (gateway : Gateway)
    (payload : Json) :
    Prog.Follows (submitProtocol texts digests payload) ()
      (handleGatewayTurn texts digests gateway payload).run fun _ _ => True := by
  have silent {op : InboundOp} (other : ∀ request, op ≠ .postTurn request) :
      (submitProtocol texts digests payload).allows () op :=
    fun request same => absurd same (other request)
  simp only [handleGatewayTurn]
  by_cases client : gateway.taskClient = true
  · rw [if_pos client]
    refine Prog.Follows.liftBind (silent (by simp)) fun stamp _ => ?_
    refine Prog.Follows.resultBind (fun _ _ => trivial) fun inbound normalized => ?_
    by_cases whatsapp : inbound.platform = "whatsapp" ∧ gateway.fleet = true
    · rw [if_pos whatsapp]
      trivial
    · rw [if_neg whatsapp]
      refine Prog.Follows.resultBind (fun _ _ => trivial) fun _ passed => ?_
      refine Prog.Follows.liftBind (silent (by simp)) fun stored _ => ?_
      refine Prog.Follows.resultBind (fun _ _ => trivial) fun metadata _ => ?_
      refine Prog.Follows.liftBind ?_ fun response _ => ?_
      · intro request same
        obtain rfl := InboundOp.postTurn.inj same
        exact ⟨stamp, inbound, normalized, passed, rfl⟩
      refine Prog.Follows.resultBind (fun _ _ => trivial) fun result _ => ?_
      refine Prog.Follows.liftBind (silent (by simp)) fun written _ => ?_
      refine Prog.Follows.resultBind (fun _ _ => trivial) fun _ _ => ?_
      refine Prog.Follows.liftBind (silent (by simp)) fun registered _ => ?_
      refine Prog.Follows.resultBind (fun _ _ => trivial) fun _ _ => ?_
      refine Prog.Follows.liftBind (silent (by simp)) fun asked _ => ?_
      refine Prog.Follows.liftBind (silent (by simp)) fun answered _ => ?_
      refine Prog.Follows.liftBind (silent (by simp)) fun appended _ => ?_
      exact Prog.Follows.resultBind (fun _ _ => trivial) fun _ _ => trivial
  · rw [if_neg client]
    trivial

/-- Of the turns that are submitted for a payload, those free of DLNA are the ones whose channel
names no DLNA command as the raw text. -/
theorem gateway_turn_is_unmarked_iff {texts : Texts} {digests : Digests} {gateway : Gateway}
    {payload : Json} {events : List (Σ op, InboundAns op)}
    {outcome : Option (Except GatewayError Json)}
    (run : (handleGatewayTurn texts digests gateway payload).run.Run events outcome)
    {request : TurnRequest} {response : Except GatewayError Json}
    (submitted : ⟨.postTurn request, response⟩ ∈ events) :
    Unmarked (request.channelPayload texts digests) ↔
      (textAt payload ["transport", "metadata", "intent", "raw_text"]).any dlnaCommand = false := by
  have admitted := (handleGatewayTurn_submits texts digests gateway payload).run_admits run
    fun _ _ => trivial
  obtain ⟨earlier, later, rfl⟩ := List.append_of_mem submitted
  have allowed := (Protocol.admits_append.mp admitted).2.1
  obtain ⟨stamp, inbound, normalized, passed, same⟩ := allowed request rfl
  exact unmarked_iff normalized passed same

/-! ## Two turns with an intent -/

def channelTexts : Texts :=
  ⟨fun _ => "", fun _ => "", fun text _ _ => text, fun _ _ => []⟩

def channelDigests : Digests :=
  ⟨fun _ => "", fun marker _ _ => marker⟩

def channelGateway : Gateway :=
  ⟨"gateway", [], false, true⟩

def turnWithRawText (rawText : String) : Json :=
  .obj [("input", .obj [("text", .str "hello")]),
    ("transport", .obj [("metadata", .obj [("intent", .obj [("raw_text", .str rawText)])])])]

def answers : (op : InboundOp) → Unit → Option (InboundAns op × Unit)
  | .utcNowIso, _ => some ("now", ())
  | .loadMetadata _ _, _ => some (.ok [], ())
  | .postTurn _, _ => some (.ok .null, ())
  | _, _ => none

def turnRun (rawText : String) : List (Σ op, InboundAns op) × Option (Except GatewayError Json) :=
  (handleGatewayTurn channelTexts channelDigests channelGateway
    (turnWithRawText rawText)).run.record answers ()

def submittedTurn : (Σ op, InboundAns op) → Option TurnRequest
  | ⟨.postTurn request, _⟩ => some request
  | _ => none

theorem mem_of_submittedTurn {events : List (Σ op, InboundAns op)} {request : TurnRequest}
    (found : events.findSome? submittedTurn = some request) :
    ∃ response, ⟨.postTurn request, response⟩ ∈ events := by
  obtain ⟨⟨op, answer⟩, member, isTurn⟩ := List.exists_of_findSome?_eq_some found
  cases op with
  | postTurn other =>
      obtain rfl := Option.some.inj isTurn
      exact ⟨answer, member⟩
  | _ => simp [submittedTurn] at isTurn

theorem harmless_turn_is_unmarked : ∃ request response,
    ⟨.postTurn request, response⟩ ∈ (turnRun "hello").1 ∧
      (Unmarked (request.channelPayload channelTexts channelDigests) ↔
        (textAt (turnWithRawText "hello") ["transport", "metadata", "intent", "raw_text"]).any
          dlnaCommand = false) := by
  have sent : ((turnRun "hello").1.findSome? submittedTurn).isSome = true := by decide
  obtain ⟨request, found⟩ := Option.isSome_iff_exists.mp sent
  obtain ⟨response, member⟩ := mem_of_submittedTurn found
  exact ⟨request, response, member,
    gateway_turn_is_unmarked_iff (Prog.run_record answers _ ()) member⟩

/-- The text is harmless, the raw text that the channel gives is not. -/
theorem raw_text_command_is_submitted : ∃ request response,
    ⟨.postTurn request, response⟩ ∈ (turnRun "/dlna stop").1 ∧
      ¬Unmarked (request.channelPayload channelTexts channelDigests) := by
  have sent : ((turnRun "/dlna stop").1.findSome? submittedTurn).any (fun request =>
      (textAt (request.channelPayload channelTexts channelDigests)
        ["transport", "metadata", "intent", "raw_text"]).any dlnaCommand) = true := by
    decide
  obtain ⟨request, found, command⟩ := Option.any_eq_true _ _ |>.mp sent
  obtain ⟨response, member⟩ := mem_of_submittedTurn found
  refine ⟨request, response, member, fun unmarked => ?_⟩
  rw [unmarked.rawText] at command
  exact Bool.false_ne_true command

end Inbound

end HarborGate
