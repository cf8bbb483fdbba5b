import HarborGate.Lib.Runs
import HarborGate.Gateway.Adapters

/-!
The websocket runtime of the Feishu adapter: `run_feishu_websocket_runtime` of `runtime.rs` with the
frames of `feishu.rs`. A frame of an event is acknowledged before the gateway gets its payload, and
a connection that is lost is reported and waited for before the next one.
-/

namespace HarborGate

namespace Feishu

open Interleave

abbrev Bytes := List UInt8

/-! ## Frames -/

structure PbHeader where
  key : String
  value : String
deriving DecidableEq, Repr

structure PbFrame where
  seqId : Nat
  logId : Nat
  service : Int
  method : Int
  headers : List PbHeader
  payloadEncoding : Option String
  payloadType : Option String
  payload : Option Bytes
  logIdNew : Option String
deriving DecidableEq, Repr

def PbFrame.header (frame : PbFrame) (key : String) : Option String :=
  (frame.headers.find? (·.key = key)).map (·.value)

/-- The derived `prost` code, `String::from_utf8` with `serde_json` for payloads, and the texts of
an HTTP status and of a JSON value in messages. -/
structure Crates where
  decode : Bytes → Except String PbFrame
  encode : PbFrame → Bytes
  fromUtf8 : Bytes → Except String String
  fromStr : String → Except String Json
  statusText : Nat → String
  jsonText : Json → String

def responsePayload : Bytes :=
  "\x7b\"code\":200\x7d".toUTF8.data.toList

def responseFrame (request : PbFrame) : PbFrame where
  seqId := request.seqId
  logId := request.logId
  service := request.service
  method := request.method
  headers := request.headers ++ [⟨"biz_rt", "0"⟩]
  payloadEncoding := none
  payloadType := none
  payload := some responsePayload
  logIdNew := none

section

variable (crates : Crates)

def buildResponseFrame (request : PbFrame) : Bytes :=
  crates.encode (responseFrame request)

def parseWsFramePayload (bytes : Bytes) : Except GatewayError (Option Json) :=
  match crates.decode bytes with
  | .error reason =>
      .error (GatewayError.validation ("Could not decode Feishu websocket frame: " ++ reason))
  | .ok frame =>
      match frame.payload.filter (!·.isEmpty) with
      | none => .ok none
      | some payload =>
          match crates.fromUtf8 payload with
          | .error reason => .error (GatewayError.validation
              ("Feishu websocket frame payload is not UTF-8: " ++ reason))
          | .ok text =>
              match crates.fromStr text with
              | .error reason => .error (GatewayError.validation
                  ("Feishu websocket payload is not JSON: " ++ reason))
              | .ok value => .ok (some value)

end

/-! ## The runtime -/

/-- What `socket.read` returns; `other` is a message that the runtime takes no notice of. -/
inductive WsMessage
  | binary (bytes : Bytes)
  | ping (data : Bytes)
  | close (reason : String)
  | other

structure EndpointReply where
  status : Nat
  body : Except String Json

/-- The fields of `FeishuConfig` that the runtime reads. -/
structure SocketConfig where
  baseUrl : String
  appId : String
  appSecret : String
  connectionMode : String

inductive WsOp
  | postEndpoint (url appId appSecret : String)
  | connect (url : String)
  | read
  | sendBinary (bytes : Bytes)
  | sendPong (data : Bytes)
  | markConnected
  | markEvent
  | markError (message : String)
  | handleInbound (payload : Json)
  | sleep (seconds : Nat)

abbrev WsAns : WsOp → Type
  | .postEndpoint _ _ _ => Except String EndpointReply
  | .connect _ => Except String Unit
  | .read => Except String WsMessage
  | .sendBinary _ => Except String Unit
  | .sendPong _ => Except String Unit
  | .markConnected => Unit
  | .markEvent => Unit
  | .markError _ => Unit
  | .handleInbound _ => Unit
  | .sleep _ => Unit

abbrev WsRoutine (α : Type) := Prog WsOp WsAns α

abbrev WsEvent := Σ op, WsAns op

def query (op : WsOp) : WsRoutine (WsAns op) :=
  Prog.perform op

section

variable (crates : Crates) (config : SocketConfig)

def SocketConfig.endpoint (config : SocketConfig) : String :=
  String.ofList (config.baseUrl.toList.rdropWhile (· = '/')) ++ "/callback/ws/endpoint"

/-- The part of `fetch_ws_url` behind the request. -/
def endpointUrl (reply : Except String EndpointReply) : Except String String :=
  match reply with
  | .error reason => .error ("request failed: " ++ reason)
  | .ok reply =>
      match reply.body with
      | .error reason => .error ("invalid endpoint response JSON: " ++ reason)
      | .ok payload =>
          if ¬(200 ≤ reply.status ∧ reply.status < 300) then
            .error ("HTTP " ++ crates.statusText reply.status ++ ": " ++ crates.jsonText payload)
          else if ((payload.get "code").bind Json.asI64).getD (-1) ≠ 0 then
            .error ("provider code != 0: " ++ crates.jsonText payload)
          else
            match ((payload.pointer ["data", "URL"]).bind Json.asStr).filter (!Text.isBlank ·) with
            | none => .error "endpoint response did not include data.URL"
            | some url => .ok url

/-- How the loop answers a frame: with an acknowledgement under a name for its failure, or not. -/
def answerOf (frame : PbFrame) : Option String :=
  let messageType := (frame.header "type").getD ""
  if frame.method = 0 ∧ (messageType = "ping" ∨ messageType = "pong") then
    some "heartbeat ack failed: "
  else if frame.method = 1 ∧ messageType = "event" then some "event ack failed: "
  else none

def isEvent (frame : PbFrame) : Bool :=
  frame.method = 1 ∧ (frame.header "type").getD "" = "event"

/-- The payload of an event frame that the gateway can be given. -/
def eventPayload (bytes : Bytes) (frame : PbFrame) : Option Json :=
  if isEvent frame then (parseWsFramePayload crates bytes).toOption.join else none

/-- What the loop does with a binary message, and why it ends if it does. -/
def readFrame (bytes : Bytes) : WsRoutine (Option String) :=
  match crates.decode bytes with
  | .error _ => return none
  | .ok frame =>
      match answerOf frame with
      | none => return none
      | some failed => do
          match ← query (.sendBinary (buildResponseFrame crates frame)) with
          | .error reason => return some (failed ++ reason)
          | .ok _ =>
              match eventPayload crates bytes frame with
              | none => return none
              | some payload =>
                  query .markEvent
                  query (.handleInbound payload)
                  return none

/-- One round of the inner loop. -/
def readMessage : WsRoutine (Option String) := do
  match ← query .read with
  | .ok (.binary bytes) => readFrame crates bytes
  | .ok (.ping data) =>
      match ← query (.sendPong data) with
      | .error reason => return some ("pong failed: " ++ reason)
      | .ok _ => return none
  | .ok (.close reason) => return some ("closed: " ++ reason)
  | .ok .other => return none
  | .error reason => return some ("read failed: " ++ reason)

/-- The inner loop for so many rounds; `none` if it still goes on. -/
def serve : Nat → WsRoutine (Option String)
  | 0 => return none
  | rounds + 1 => do
      match ← readMessage crates with
      | some reason => return some reason
      | none => serve rounds

/-- The end of every round of the outer loop that came to one. -/
def lose (reconnectAttempt : Nat) (message : String) : WsRoutine (Option Nat) := do
  let reconnectAttempt := min (reconnectAttempt + 1) (2 ^ 64 - 1)
  query (.markError message)
  query (.sleep (min reconnectAttempt 5))
  return some reconnectAttempt

/-- One round of the outer loop, with so many of the inner one; `none` if that still goes on. -/
def connectOnce (rounds reconnectAttempt : Nat) : WsRoutine (Option Nat) := do
  match endpointUrl crates
      (← query (.postEndpoint config.endpoint config.appId config.appSecret)) with
  | .error error => lose reconnectAttempt error
  | .ok url =>
      match ← query (.connect url) with
      | .error error => lose reconnectAttempt ("connect failed: " ++ error)
      | .ok _ =>
          query .markConnected
          match ← serve crates rounds with
          | none => return none
          | some reason => lose 0 reason

/-- `run_feishu_websocket_runtime` for as many rounds of each connection as the list says. -/
def runtime : List Nat → Nat → WsRoutine Unit
  | [], _ => return ()
  | rounds :: rest, reconnectAttempt => do
      match ← connectOnce crates config rounds reconnectAttempt with
      | none => return ()
      | some reconnectAttempt => runtime rest reconnectAttempt

def maybeStart (configured enabled : Bool) (rounds : List Nat) : WsRoutine Unit :=
  if !enabled || !configured || config.connectionMode ≠ "websocket" then return ()
  else runtime crates config rounds 0

end

/-! ## What is owed -/

/-- Connections lost or not made since the last one that was made; the latest event comes first. -/
def failures : List WsEvent → Nat
  | [] => 0
  | ⟨.connect _, .ok _⟩ :: _ => 0
  | ⟨.markError _, _⟩ :: past => failures past + 1
  | _ :: past => failures past

/-- Whether a connection is up. -/
def up : List WsEvent → Bool
  | [] => false
  | ⟨.connect _, .ok _⟩ :: _ => true
  | ⟨.markError _, _⟩ :: _ => false
  | _ :: past => up past

/-- The one thing that has to be done next after some events. -/
inductive Owes (crates : Crates) : List WsEvent → WsOp → Prop
  | connect {url appId appSecret target : String} {reply : Except String EndpointReply}
      {past : List WsEvent} (found : endpointUrl crates reply = .ok target) :
      Owes crates (⟨.postEndpoint url appId appSecret, reply⟩ :: past) (.connect target)
  | announce {url : String} {past : List WsEvent} :
      Owes crates (⟨.connect url, .ok ()⟩ :: past) .markConnected
  | acknowledge {bytes : Bytes} {frame : PbFrame} {failed : String} {past : List WsEvent}
      (decoded : crates.decode bytes = .ok frame) (answered : answerOf frame = some failed) :
      Owes crates (⟨.read, .ok (.binary bytes)⟩ :: past)
        (.sendBinary (buildResponseFrame crates frame))
  | pong {data : Bytes} {past : List WsEvent} :
      Owes crates (⟨.read, .ok (.ping data)⟩ :: past) (.sendPong data)
  | note {bytes ack : Bytes} {frame : PbFrame} {payload : Json} {past : List WsEvent}
      (decoded : crates.decode bytes = .ok frame)
      (event : eventPayload crates bytes frame = some payload) :
      Owes crates (⟨.sendBinary ack, .ok ()⟩ :: ⟨.read, .ok (.binary bytes)⟩ :: past) .markEvent
  | hand {bytes ack : Bytes} {frame : PbFrame} {payload : Json} {past : List WsEvent}
      (decoded : crates.decode bytes = .ok frame)
      (event : eventPayload crates bytes frame = some payload) :
      Owes crates (⟨.markEvent, ()⟩ :: ⟨.sendBinary ack, .ok ()⟩ ::
        ⟨.read, .ok (.binary bytes)⟩ :: past) (.handleInbound payload)
  | unreachable {url appId appSecret reason : String} {reply : Except String EndpointReply}
      {past : List WsEvent} (refused : endpointUrl crates reply = .error reason) :
      Owes crates (⟨.postEndpoint url appId appSecret, reply⟩ :: past) (.markError reason)
  | refused {url reason : String} {past : List WsEvent} :
      Owes crates (⟨.connect url, .error reason⟩ :: past) (.markError ("connect failed: " ++ reason))
  | broken {reason : String} {past : List WsEvent} :
      Owes crates (⟨.read, .error reason⟩ :: past) (.markError ("read failed: " ++ reason))
  | closed {reason : String} {past : List WsEvent} :
      Owes crates (⟨.read, .ok (.close reason)⟩ :: past) (.markError ("closed: " ++ reason))
  | unacknowledged {bytes ack : Bytes} {frame : PbFrame} {failed reason : String}
      {past : List WsEvent} (decoded : crates.decode bytes = .ok frame)
      (answered : answerOf frame = some failed) :
      Owes crates (⟨.sendBinary ack, .error reason⟩ :: ⟨.read, .ok (.binary bytes)⟩ :: past)
        (.markError (failed ++ reason))
  | unponged {data : Bytes} {reason : String} {past : List WsEvent} :
      Owes crates (⟨.sendPong data, .error reason⟩ :: past) (.markError ("pong failed: " ++ reason))
  | wait {message : String} {past : List WsEvent} :
      Owes crates (⟨.markError message, ()⟩ :: past) (.sleep (min (failures past + 1) 5))

/-- What is owed is done at once and nothing else; with nothing owed, a connection that is up is
read, and one that is down is sought. -/
structure Allowed (crates : Crates) (config : SocketConfig) (past : List WsEvent) (op : WsOp) :
    Prop where
  owed : ∀ need, Owes crates past need → op = need
  free : (∀ need, ¬Owes crates past need) →
    op = if up past then .read else .postEndpoint config.endpoint config.appId config.appSecret

section

variable {crates : Crates} {config : SocketConfig} {past : List WsEvent}

theorem owes_unique {op need : WsOp} (owes : Owes crates past op) (other : Owes crates past need) :
    op = need := by
  cases owes with
  | connect found =>
      cases other with
      | connect again => rw [Except.ok.inj (found.symm.trans again)]
      | unreachable refused => rw [found] at refused; simp at refused
  | announce => cases other; rfl
  | acknowledge decoded answered =>
      cases other with
      | acknowledge again _ => rw [Except.ok.inj (decoded.symm.trans again)]
  | pong => cases other; rfl
  | note decoded event => cases other; rfl
  | hand decoded event =>
      cases other with
      | hand again payload =>
          obtain rfl := Except.ok.inj (decoded.symm.trans again)
          rw [Option.some.inj (event.symm.trans payload)]
  | unreachable refused =>
      cases other with
      | connect found => rw [found] at refused; simp at refused
      | unreachable again => rw [Except.error.inj (refused.symm.trans again)]
  | refused => cases other; rfl
  | broken => cases other; rfl
  | closed => cases other; rfl
  | unacknowledged decoded answered =>
      cases other with
      | unacknowledged again also =>
          obtain rfl := Except.ok.inj (decoded.symm.trans again)
          rw [Option.some.inj (answered.symm.trans also)]
  | unponged => cases other; rfl
  | wait => cases other; rfl

theorem allowed_of_owes {op : WsOp} (owes : Owes crates past op) : Allowed crates config past op :=
  ⟨fun _ other => owes_unique owes other, fun none => absurd owes (none op)⟩

/-- Nothing is owed. -/
def Free (crates : Crates) (past : List WsEvent) : Prop :=
  ∀ need, ¬Owes crates past need

theorem allowed_of_free {op : WsOp} (none : Free crates past)
    (same : op = if up past then .read else
      .postEndpoint config.endpoint config.appId config.appSecret) :
    Allowed crates config past op :=
  ⟨fun need owes => absurd owes (none need), fun _ => same⟩

theorem failures_of_up (connected : up past = true) : failures past = 0 := by
  induction past with
  | nil => simp [up] at connected
  | cons event rest ih =>
      obtain ⟨op, answer⟩ := event
      cases op with
      | connect url =>
          cases answer with
          | error reason => exact ih connected
          | ok made => rfl
      | markError message => simp [up] at connected
      | _ => exact ih connected

/-- A runtime does what is owed, and otherwise reads or connects. -/
abbrev rules (crates : Crates) (config : SocketConfig) :
    Protocol WsOp WsAns (List WsEvent) :=
  Protocol.history (Allowed crates config)

/-- What a round of the inner loop leaves behind. -/
structure RoundEnds (crates : Crates) (past : List WsEvent) (result : Option String) : Prop where
  connected : up past = true
  goesOn : result = none → Free crates past
  reported : ∀ reason, result = some reason → Owes crates past (.markError reason)

theorem readFrame_follows {bytes : Bytes} (connected : up past = true) :
    (readFrame crates bytes).Follows (rules crates config) (⟨.read, .ok (.binary bytes)⟩ :: past)
      (RoundEnds crates) := by
  simp only [readFrame]
  split
  · rename_i reason undecoded
    refine Prog.Follows.pure ⟨connected, fun _ need owes => ?_, by simp⟩
    cases owes with
    | acknowledge decoded answered => simp [undecoded] at decoded
  · rename_i frame decoded
    split
    · rename_i unanswered
      refine Prog.Follows.pure ⟨connected, fun _ need owes => ?_, by simp⟩
      cases owes with
      | acknowledge again answered =>
          obtain rfl := Except.ok.inj (decoded.symm.trans again)
          simp [unanswered] at answered
    · rename_i failed answered
      refine Prog.Follows.performBind (allowed_of_owes (.acknowledge decoded answered)) ?_
      intro sent _
      cases sent with
      | error reason =>
          refine Prog.Follows.pure ⟨connected, by simp, fun other same => ?_⟩
          obtain rfl := Option.some.inj same
          exact .unacknowledged decoded answered
      | ok acknowledged =>
          dsimp only
          split
          · rename_i silent
            refine Prog.Follows.pure ⟨connected, fun _ need owes => ?_, by simp⟩
            cases owes with
            | note again event =>
                obtain rfl := Except.ok.inj (decoded.symm.trans again)
                simp [silent] at event
          · rename_i payload event
            refine ⟨allowed_of_owes (.note decoded event), fun _ _ =>
              ⟨allowed_of_owes (.hand decoded event), fun _ _ => ?_⟩⟩
            refine ⟨connected, fun _ need owes => ?_, by simp⟩
            cases owes

theorem readMessage_follows (connected : up past = true) (free : Free crates past) :
    (readMessage crates).Follows (rules crates config) past (RoundEnds crates) := by
  refine Prog.Follows.performBind (allowed_of_free free (by rw [if_pos connected])) ?_
  intro message _
  cases message with
  | error reason =>
      refine Prog.Follows.pure ⟨connected, by simp, fun other same => ?_⟩
      obtain rfl := Option.some.inj same
      exact .broken
  | ok message =>
      cases message with
      | binary bytes => exact readFrame_follows connected
      | ping data =>
          refine Prog.Follows.performBind (allowed_of_owes .pong) ?_
          intro sent _
          cases sent with
          | error reason =>
              refine Prog.Follows.pure ⟨connected, by simp, fun other same => ?_⟩
              obtain rfl := Option.some.inj same
              exact .unponged
          | ok answered =>
              refine Prog.Follows.pure ⟨connected, fun _ need owes => ?_, by simp⟩
              cases owes
      | close reason =>
          refine Prog.Follows.pure ⟨connected, by simp, fun other same => ?_⟩
          obtain rfl := Option.some.inj same
          exact .closed
      | other =>
          refine Prog.Follows.pure ⟨connected, fun _ need owes => ?_, by simp⟩
          cases owes

theorem serve_follows (rounds : Nat) (connected : up past = true) (free : Free crates past) :
    (serve crates rounds).Follows (rules crates config) past (RoundEnds crates) := by
  induction rounds generalizing past with
  | zero => exact Prog.Follows.pure ⟨connected, fun _ => free, by simp⟩
  | succ rounds ih =>
      refine Prog.Follows.bind (readMessage_follows connected free) ?_
      intro after result ended
      cases result with
      | some reason => exact Prog.Follows.pure ended
      | none => exact ih ended.connected (ended.goesOn rfl)

/-- Between two rounds of the outer loop: no connection, and the failures are counted. -/
structure Down (crates : Crates) (past : List WsEvent) (reconnectAttempt : Nat) : Prop where
  down : up past = false
  free : Free crates past
  counted : reconnectAttempt = min (failures past) (2 ^ 64 - 1)

theorem lose_follows {reconnectAttempt : Nat} {message : String}
    (owes : Owes crates past (.markError message))
    (counted : reconnectAttempt = min (failures past) (2 ^ 64 - 1)) :
    (lose reconnectAttempt message).Follows (rules crates config) past
      fun after result => ∀ reached, result = some reached → Down crates after reached := by
  have waits : min (min (reconnectAttempt + 1) (2 ^ 64 - 1)) 5 = min (failures past + 1) 5 := by
    rw [counted]
    omega
  refine ⟨allowed_of_owes owes, fun _ _ => ⟨?_, fun _ _ => ?_⟩⟩
  · rw [waits]
    exact allowed_of_owes .wait
  · intro reached same
    obtain rfl := Option.some.inj same
    refine ⟨rfl, fun need owes => ?_, ?_⟩
    · cases owes
    · show _ = min (failures past + 1) _
      rw [counted]
      omega

theorem connectOnce_follows {reconnectAttempt : Nat} (rounds : Nat)
    (before : Down crates past reconnectAttempt) :
    (connectOnce crates config rounds reconnectAttempt).Follows (rules crates config) past
      fun after result => ∀ reached, result = some reached → Down crates after reached := by
  refine Prog.Follows.performBind (allowed_of_free before.free (by rw [before.down]; rfl)) ?_
  intro reply _
  split
  · rename_i error refused
    exact lose_follows (.unreachable refused) before.counted
  · rename_i url found
    refine Prog.Follows.performBind (allowed_of_owes (.connect found)) ?_
    intro made _
    cases made with
    | error reason => exact lose_follows .refused before.counted
    | ok connected =>
        refine Prog.Follows.performBind (allowed_of_owes .announce) fun _ _ => ?_
        refine Prog.Follows.bind (serve_follows rounds rfl ?_) ?_
        · intro need owes
          cases owes
        · intro after result ended
          cases result with
          | none => exact Prog.Follows.pure (by simp)
          | some reason =>
              refine lose_follows (ended.reported reason rfl) ?_
              rw [failures_of_up ended.connected]
              rfl

theorem runtime_follows (rounds : List Nat) {reconnectAttempt : Nat}
    (before : Down crates past reconnectAttempt) :
    (runtime crates config rounds reconnectAttempt).Follows (rules crates config) past
      fun _ _ => True := by
  induction rounds generalizing past reconnectAttempt with
  | nil => trivial
  | cons rounds rest ih =>
      refine Prog.Follows.bind (connectOnce_follows rounds before) ?_
      intro after result ended
      cases result with
      | none => trivial
      | some reached => exact ih (ended reached rfl)

end

theorem maybeStart_follows (crates : Crates) (config : SocketConfig) (configured enabled : Bool)
    (rounds : List Nat) :
    (maybeStart crates config configured enabled rounds).Follows (rules crates config) []
      fun _ _ => True := by
  simp only [maybeStart]
  split
  · trivial
  · refine runtime_follows rounds ⟨rfl, fun need owes => ?_, rfl⟩
    cases owes

/-! ## Payloads handed on -/

section

variable (crates : Crates)

def payloadOf (bytes : Bytes) : Option Json :=
  (crates.decode bytes).toOption.bind (eventPayload crates bytes)

def isHanded : WsEvent → Option Json
  | ⟨.handleInbound payload, _⟩ => some payload
  | _ => none

/-- The payloads that the gateway was given. -/
def handed (events : List WsEvent) : List Json :=
  events.filterMap isHanded

/-- The messages that were acknowledged, the latest first as in the events. -/
def acknowledged : List WsEvent → List Bytes
  | ⟨.sendBinary _, .ok _⟩ :: ⟨.read, .ok (.binary bytes)⟩ :: past => bytes :: acknowledged past
  | _ :: past => acknowledged past
  | [] => []

/-- The payload on its way from an acknowledgement to the gateway. -/
def pending : List WsEvent → List Json
  | ⟨.sendBinary _, .ok _⟩ :: ⟨.read, .ok (.binary bytes)⟩ :: _ => (payloadOf crates bytes).toList
  | ⟨.markEvent, _⟩ :: ⟨.sendBinary _, .ok _⟩ :: ⟨.read, .ok (.binary bytes)⟩ :: _ =>
      (payloadOf crates bytes).toList
  | _ => []

/-- Every acknowledged payload has been handed on, but for the one on its way. -/
def Balanced (past : List WsEvent) : Prop :=
  (acknowledged past).filterMap (payloadOf crates) = pending crates past ++ handed past

end

section

variable {crates : Crates} {config : SocketConfig} {past : List WsEvent}

theorem toList_reverse {α : Type} (value : Option α) : value.toList.reverse = value.toList := by
  cases value <;> rfl

theorem payloadOf_some {bytes : Bytes} {payload : Json} (some_ : payloadOf crates bytes = some payload) :
    ∃ frame, crates.decode bytes = .ok frame ∧ eventPayload crates bytes frame = some payload := by
  obtain ⟨frame, decoded, event⟩ := Option.bind_eq_some_iff.mp some_
  cases read : crates.decode bytes with
  | error reason => simp [read, Except.toOption] at decoded
  | ok other =>
      obtain rfl : other = frame := by simpa [read, Except.toOption] using decoded
      exact ⟨other, rfl, event⟩

theorem pending_of_free (free : Free crates past) : pending crates past = [] := by
  unfold pending
  split
  · rename_i ack done bytes rest
    cases found : payloadOf crates bytes with
    | none => rfl
    | some payload =>
        obtain ⟨frame, decoded, event⟩ := payloadOf_some found
        exact absurd (.note decoded event) (free _)
  · rename_i noted ack done bytes rest
    cases found : payloadOf crates bytes with
    | none => rfl
    | some payload =>
        obtain ⟨frame, decoded, event⟩ := payloadOf_some found
        exact absurd (.hand decoded event) (free _)
  · rfl

theorem balanced_step {op : WsOp} (answer : WsAns op) (allowed : Allowed crates config past op)
    (before : Balanced crates past) : Balanced crates (⟨op, answer⟩ :: past) := by
  by_cases free : Free crates past
  · rw [Balanced, pending_of_free free] at before
    have same := allowed.free free
    split at same
    · subst same
      exact before
    · subst same
      exact before
  · obtain ⟨need, owes⟩ := not_forall_not.mp free
    obtain rfl := allowed.owed need owes
    cases owes with
    | acknowledge decoded answered =>
        cases answer with
        | error reason => exact before
        | ok done =>
            simp only [Balanced, acknowledged, pending, handed, isHanded, List.filterMap_cons,
              List.nil_append] at before ⊢
            rw [before]
            cases payloadOf crates _ <;> rfl
    | note decoded event => exact before
    | hand decoded event =>
        simp only [Balanced, acknowledged, pending, handed, isHanded, List.filterMap_cons, payloadOf,
          decoded, Except.toOption, Option.bind_some, event, Option.toList_some,
          List.nil_append] at before ⊢
        exact before
    | _ => exact before

/-- A run keeps what each of its questions keeps. -/
theorem balanced_run {events : List WsEvent}
    (allowed : ∀ earlier event later, events = earlier ++ event :: later →
      Allowed crates config earlier.reverse event.1) : Balanced crates events.reverse := by
  induction events using List.reverseRecOn with
  | nil => rfl
  | append_singleton earlier event ih =>
      rw [List.reverse_append]
      refine balanced_step event.2 (allowed earlier event [] rfl) (ih fun front other back split => ?_)
      refine allowed front other (back ++ [event]) ?_
      rw [split]
      simp

end

/-! A connection that brings one event and is closed. -/

def shortField (tag : UInt8) (bytes : Bytes) : Bytes :=
  tag :: UInt8.ofNat bytes.length :: bytes

/-- What `prost` writes while every number and length is below 128. -/
def encodeShort (frame : PbFrame) : Bytes :=
  [0x08, UInt8.ofNat frame.seqId, 0x10, UInt8.ofNat frame.logId, 0x18, UInt8.ofNat frame.service.toNat,
    0x20, UInt8.ofNat frame.method.toNat] ++
    frame.headers.flatMap (fun header => shortField 0x2a
      (shortField 0x0a header.key.toUTF8.data.toList ++ shortField 0x12 header.value.toUTF8.data.toList)) ++
    (frame.payload.map (shortField 0x42)).getD []

def helloFrame : PbFrame where
  seqId := 7
  logId := 9
  service := 100
  method := 1
  headers := [⟨"type", "event"⟩]
  payloadEncoding := none
  payloadType := none
  payload := some "{}".toUTF8.data.toList
  logIdNew := none

def helloCrates : Crates where
  decode bytes := if bytes = encodeShort helloFrame then .ok helloFrame else .error "truncated"
  encode := encodeShort
  fromUtf8 _ := .ok "{}"
  fromStr _ := .ok (.obj [])
  statusText _ := "200 OK"
  jsonText _ := "{}"

def helloConfig : SocketConfig where
  baseUrl := "https://open.feishu.cn"
  appId := "cli_1"
  appSecret := "secret"
  connectionMode := "websocket"

/-- The state counts the reads. -/
def helloAnswer : (op : WsOp) → Nat → Option (WsAns op × Nat)
  | .postEndpoint _ _ _, reads => some (.ok ⟨200, .ok (.obj [("code", .num 0),
      ("data", .obj [("URL", .str "wss://feishu.example")])])⟩, reads)
  | .connect _, reads => some (.ok (), reads)
  | .read, 0 => some (.ok (.binary (encodeShort helloFrame)), 1)
  | .read, reads + 1 => some (.ok (.close "bye"), reads + 2)
  | .sendBinary _, reads => some (.ok (), reads)
  | .sendPong _, reads => some (.ok (), reads)
  | .markConnected, reads => some ((), reads)
  | .markEvent, reads => some ((), reads)
  | .markError _, reads => some ((), reads)
  | .handleInbound _, reads => some ((), reads)
  | .sleep _, reads => some ((), reads)

def helloRun : List WsEvent × Option Unit :=
  Prog.record helloAnswer (maybeStart helloCrates helloConfig true true [2]) 0

theorem helloRun_runs :
    Prog.Run (maybeStart helloCrates helloConfig true true [2]) helloRun.1 helloRun.2 :=
  Prog.run_record helloAnswer (maybeStart helloCrates helloConfig true true [2]) 0

/-- However many rounds it makes and whatever it is told, the runtime does at every point what is
owed there, and only where nothing is it reads the connection it has or seeks a new one: a frame is
acknowledged before anything else is read, and a connection that breaks is reported and waited for,
one second longer for each failure in a row and five at most. -/
theorem runtime_does_what_is_owed (crates : Crates) (config : SocketConfig)
    (configured enabled : Bool) (rounds : List Nat) {earlier later : List WsEvent} {event : WsEvent}
    {outcome : Option Unit}
    (run : Prog.Run (maybeStart crates config configured enabled rounds)
      (earlier ++ event :: later) outcome) :
    Allowed crates config earlier.reverse event.1 :=
  (maybeStart_follows crates config configured enabled rounds).run_allowed run

theorem runtime_does_what_is_owed_hello :
    ∃ event, helloRun.1[5]? = some event ∧
      Allowed helloCrates helloConfig (helloRun.1.take 5).reverse event.1 := by
  have inside : 5 < helloRun.1.length := by decide
  refine ⟨helloRun.1[5], List.getElem?_eq_getElem inside, ?_⟩
  have run := helloRun_runs
  rw [← List.take_append_drop 5 helloRun.1, List.drop_eq_getElem_cons inside] at run
  exact runtime_does_what_is_owed helloCrates helloConfig true true [2] run

/-- Over all its connections, a runtime hands the gateway just the payloads of the event frames that
it acknowledged, in their order and each once, but for the one that is on its way where it stops. -/
theorem acknowledged_events_are_handed_on (crates : Crates) (config : SocketConfig)
    (configured enabled : Bool) (rounds : List Nat) {events : List WsEvent} {outcome : Option Unit}
    (run : Prog.Run (maybeStart crates config configured enabled rounds) events outcome) :
    (acknowledged events.reverse).reverse.filterMap (payloadOf crates) =
      handed events ++ pending crates events.reverse := by
  have allowed : ∀ earlier event later, events = earlier ++ event :: later →
      Allowed crates config earlier.reverse event.1 := by
    intro earlier event later split
    rw [split] at run
    exact (maybeStart_follows crates config configured enabled rounds).run_allowed run
  have balanced := balanced_run allowed
  have reversed : (pending crates events.reverse).reverse = pending crates events.reverse := by
    unfold pending
    split
    · exact toList_reverse _
    · exact toList_reverse _
    · rfl
  rw [List.filterMap_reverse, balanced, List.reverse_append, reversed, handed, List.filterMap_reverse,
    List.reverse_reverse]
  rfl

theorem acknowledged_events_are_handed_on_hello :
    handed helloRun.1 ≠ [] ∧
      (acknowledged helloRun.1.reverse).reverse.filterMap (payloadOf helloCrates) =
        handed helloRun.1 ++ pending helloCrates helloRun.1.reverse :=
  ⟨by decide,
    acknowledged_events_are_handed_on helloCrates helloConfig true true [2] helloRun_runs⟩

end Feishu

end HarborGate
