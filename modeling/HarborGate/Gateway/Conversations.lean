import HarborGate.Gateway.Inbound

/-!
Any number of inbound messages and gateway turns at once, over the session files and the routes.
Between two operations of one call those of others may step in; that is what a turn's metadata
window, from its load to its write, is open to.
-/

namespace HarborGate

namespace Inbound

open Interleave

/-! ## The machine -/

structure InboundWorld where
  store : Sessions.Store
  routes : Std.TreeMap String Json

/-- What the surroundings decide at one operation: the clock's text, whether a Weixin context token
is kept, the answers of the Navi directory, of Beacon and of the delivery, and which files can be
written. -/
structure InboundChoice where
  stamp : String
  kept : Except GatewayError Unit
  begun : Except GatewayError Unit
  selected : Except GatewayError Selection
  response : Except GatewayError Json
  delivered : Except GatewayError Json
  writable : String → Bool
  routesFailure : Option String

namespace InboundWorld

def opened (world : InboundWorld) (choice : InboundChoice) : Sessions.Store :=
  { world.store with writable := choice.writable }

def registerRoute (world : InboundWorld) (choice : InboundChoice) (routeKey : String)
    (route : Json) : Except String Unit × InboundWorld :=
  if Text.isBlank routeKey then (.error "route_key is required", world)
  else
    match choice.routesFailure with
    | some text => (.error text, world)
    | none => (.ok (), { world with routes := world.routes.insert routeKey route })

def resolveRoute (world : InboundWorld) (routeKey : String) : Option Json :=
  if Text.isBlank routeKey then none else world.routes[routeKey]?

def perform (host : Inbox.Host) (world : InboundWorld) (op : InboundOp) (choice : InboundChoice) :
    InboundAns op × InboundWorld :=
  match op with
  | .normalizeInbound adapter payload =>
      (Inbox.normalize host ⟨choice.stamp, choice.kept⟩ adapter payload, world)
  | .fleetBegin _ => (choice.begun, world)
  | .fleetSelect _ => (choice.selected, world)
  | .loadHistory platform key =>
      (Sessions.loadHistory world.store choice.stamp platform key, world)
  | .loadMetadata platform key => (Sessions.loadMetadata world.store platform key, world)
  | .postTurn _ => (choice.response, world)
  | .setMetadata platform key metadata =>
      let (written, store) := Sessions.setMetadata (world.opened choice) platform key metadata
      (written, { world with store })
  | .registerRoute routeKey route => world.registerRoute choice routeKey route
  | .appendTurns platform key turns =>
      let (written, store) :=
        Sessions.appendTurns (world.opened choice) choice.stamp platform key turns
      (written, { world with store })
  | .deliver _ _ _ _ => (choice.delivered, world)
  | .utcNowIso => (choice.stamp, world)

end InboundWorld

inductive InboundCall
  | inbound (adapterName : String) (payload : Json)
  | gatewayTurn (payload : Json)

def InboundCall.program (texts : Texts) (digests : Digests) (gateway : Gateway) :
    InboundCall → Prog InboundOp InboundAns (Except GatewayError Json)
  | .inbound adapterName payload => (handleInbound texts digests gateway adapterName payload).run
  | .gatewayTurn payload => (handleGatewayTurn texts digests gateway payload).run

/-- One gateway with its calls; nothing else writes its session files and routes. -/
structure Setup where
  texts : Texts
  digests : Digests
  host : Inbox.Host
  gateway : Gateway

abbrev inboundMachine (setup : Setup) : Machine InboundOp InboundAns where
  World := InboundWorld
  Choice := InboundChoice
  Call := InboundCall
  Outside := Empty
  Result := Except GatewayError Json
  perform world op choice := some (world.perform setup.host op choice)
  outside event _ := nomatch event
  program := InboundCall.program setup.texts setup.digests setup.gateway

/-! ## The metadata window of a turn -/

/-- What a turn has gone through: its message, its session with the metadata loaded there, the turn
id that Beacon gave it, and the metadata it has written. -/
structure TurnRecord where
  inbound : Option InboundMessage
  session : Option (String × String)
  loaded : Option JsonMap
  turn : Option String
  wrote : Option JsonMap

namespace TurnRecord

def fresh : TurnRecord :=
  ⟨none, none, none, none, none⟩

def next (record : TurnRecord) : (op : InboundOp) → InboundAns op → TurnRecord
  | .normalizeInbound _ _, .ok inbound => { record with inbound := some inbound }
  | .loadMetadata platform key, .ok metadata =>
      { record with session := some (platform, key), loaded := some metadata }
  | .postTurn request, .ok response =>
      { record with turn := some (mapTurnResponse request response).taskId }
  | .setMetadata _ _ metadata, .ok _ => { record with wrote := some metadata }
  | _, _ => record

end TurnRecord

/-- The call's turn goes to Beacon. -/
def usesBeacon (gateway : Gateway) (platform : String) : Bool :=
  gateway.taskClient || (platform = "whatsapp" && gateway.fleet)

/-- The turn ids of a session's messages after a turn. -/
def updatedTurnIds (inbound : InboundMessage) (turn : Option String) (ids : JsonMap) : JsonMap :=
  match turn with
  | none => ids
  | some turn =>
      if Text.isBlank inbound.messageId then ids
      else JsonMap.insert ids inbound.messageId (.str turn)

/-- The metadata that a turn writes holds the turn ids it loaded and its own. -/
structure TurnRecord.Writes (gateway : Gateway) (record : TurnRecord) (metadata : JsonMap) :
    Prop where
  own : ∃ inbound loaded, record.inbound = some inbound ∧ record.loaded = some loaded ∧
    record.turn.isSome = usesBeacon gateway inbound.platform ∧
    messageTurnIds metadata = updatedTurnIds inbound record.turn (messageTurnIds loaded)

def TurnRecord.allows (gateway : Gateway) (record : TurnRecord) : InboundOp → Prop
  | .normalizeInbound _ _ => record = .fresh
  | .loadMetadata platform _ => ∃ inbound, platform = inbound.platform ∧
      record = { TurnRecord.fresh with inbound := some inbound }
  | .postTurn _ => record.loaded.isSome = true ∧ record.turn = none ∧ record.wrote = none
  | .setMetadata platform key metadata => record.session = some (platform, key) ∧
      record.wrote = none ∧ record.Writes gateway metadata
  | .appendTurns platform key _ => record.session = some (platform, key)
  | _ => True

def turnProtocol (gateway : Gateway) : Protocol InboundOp InboundAns TurnRecord where
  allows := TurnRecord.allows gateway
  possible _ _ := True
  next := TurnRecord.next

section Programs

variable {texts : Texts} {digests : Digests} {gateway : Gateway} {record : TurnRecord}

theorem messageTurnIds_insert {metadata : JsonMap} {key : String} {value : Json}
    (other : key ≠ "message_turn_ids") :
    messageTurnIds (JsonMap.insert metadata key value) = messageTurnIds metadata := by
  simp only [messageTurnIds, JsonMap.get_insert, if_neg other]

theorem messageTurnIds_optionalField {metadata : JsonMap} {key : String} {value : Option Json}
    (other : key ≠ "message_turn_ids") :
    messageTurnIds (optionalField metadata key value) = messageTurnIds metadata := by
  cases value with
  | none => rfl
  | some value => exact messageTurnIds_insert other

theorem get_removeKey {fields : JsonMap} {key query : String} (other : key ≠ query) :
    JsonMap.get (removeKey fields key) query = JsonMap.get fields query := by
  induction fields with
  | nil => rfl
  | cons field rest ih =>
      obtain ⟨name, value⟩ := field
      by_cases removed : name = key
      · subst removed
        have unasked : ¬name = query := other
        simp only [removeKey, ne_eq, not_true_eq_false, decide_false, Bool.false_eq_true,
          not_false_eq_true, List.filter_cons_of_neg, JsonMap.get, if_neg unasked]
        exact ih
      · have kept : removeKey ((name, value) :: rest) key = (name, value) :: removeKey rest key := by
          simp [removeKey, removed]
        rw [kept, JsonMap.get, JsonMap.get]
        split
        · rfl
        · exact ih

/-- What `turnMetadata` names before the handle and the continuation. -/
def turnFields (routeKey sessionId : String) (inbound : InboundMessage) (result : TaskTurnResult)
    (metadata : JsonMap) : JsonMap :=
  let next := JsonMap.insert metadata "route_key" (.str routeKey)
  let next := JsonMap.insert next "session_id" (.str sessionId)
  let next := JsonMap.insert next "last_turn_id" (.str result.taskId)
  let next := JsonMap.insert next "last_trace_id" (.str result.traceId)
  if Text.isBlank inbound.messageId then next
  else JsonMap.insert next "last_message_id" (.str inbound.messageId)

theorem messageTurnIds_turnMetadata (routeKey sessionId : String) (inbound : InboundMessage)
    (result : TaskTurnResult) (metadata : JsonMap) :
    messageTurnIds (turnMetadata routeKey sessionId inbound result metadata) =
      messageTurnIds metadata := by
  have base : messageTurnIds (turnMetadata routeKey sessionId inbound result metadata) =
      messageTurnIds (optionalField (turnFields routeKey sessionId inbound result metadata)
        "conversation_handle" (result.conversationHandle.map Json.str)) := by
    unfold turnMetadata
    cases result.continuation with
    | some continuation => exact messageTurnIds_insert (by decide)
    | none =>
        dsimp only
        rw [messageTurnIds, get_removeKey (by decide), ← messageTurnIds]
        rfl
  rw [base, messageTurnIds_optionalField (by decide), turnFields]
  split
  · simp only [messageTurnIds_insert (show "last_trace_id" ≠ "message_turn_ids" by decide),
      messageTurnIds_insert (show "last_turn_id" ≠ "message_turn_ids" by decide),
      messageTurnIds_insert (show "session_id" ≠ "message_turn_ids" by decide),
      messageTurnIds_insert (show "route_key" ≠ "message_turn_ids" by decide)]
  · simp only [messageTurnIds_insert (show "last_message_id" ≠ "message_turn_ids" by decide),
      messageTurnIds_insert (show "last_trace_id" ≠ "message_turn_ids" by decide),
      messageTurnIds_insert (show "last_turn_id" ≠ "message_turn_ids" by decide),
      messageTurnIds_insert (show "session_id" ≠ "message_turn_ids" by decide),
      messageTurnIds_insert (show "route_key" ≠ "message_turn_ids" by decide)]

theorem messageTurnIds_beaconReply (adapterName : String) (inbound : InboundMessage)
    (metadata : JsonMap) (result : TaskTurnResult) :
    messageTurnIds (beaconReply texts digests adapterName inbound metadata result).nextMetadata =
      updatedTurnIds inbound (some result.taskId) (messageTurnIds metadata) := by
  simp only [beaconReply, updatedTurnIds]
  split
  · rw [messageTurnIds_turnMetadata]
  · simp [messageTurnIds, JsonMap.get_insert, Json.asObject]

theorem messageTurnIds_fallbackReply (adapterName : String) (inbound : InboundMessage)
    (history : List ConversationTurn) (metadata : JsonMap) :
    messageTurnIds (fallbackReply digests adapterName inbound history metadata).nextMetadata =
      messageTurnIds metadata := by
  simp only [fallbackReply]
  rw [messageTurnIds_insert (by decide), messageTurnIds_insert (by decide)]

/-- A turn of a session that ends well has written its metadata. -/
def TurnRecord.Ended (record : TurnRecord) (result : Except GatewayError Json) : Prop :=
  ∀ response, result = .ok response → record.session = none ∨ record.wrote.isSome = true

theorem ended_error {error : GatewayError} : record.Ended (.error error) := by
  intro response same
  simp at same

theorem follows_propagate {α : Type} {result : Except GatewayError α} {next : α → InboundGate Json}
    (continues : ∀ value, result = .ok value →
      Prog.Follows (turnProtocol gateway) record (next value).run TurnRecord.Ended) :
    Prog.Follows (turnProtocol gateway) record (propagate result >>= next).run TurnRecord.Ended := by
  cases result with
  | error error => exact ended_error
  | ok value => exact continues value rfl

theorem follows_fromStore {α : Type} {result : Except String α} {next : α → InboundGate Json}
    (continues : ∀ value, result = .ok value →
      Prog.Follows (turnProtocol gateway) record (next value).run TurnRecord.Ended) :
    Prog.Follows (turnProtocol gateway) record (fromStore result >>= next).run TurnRecord.Ended := by
  cases result with
  | error error => exact ended_error
  | ok value => exact continues value rfl

theorem settleReply_follows {adapter : Adapter} {inbound : InboundMessage}
    {selection : Option Selection} {key routeKey : String} {reply : Reply}
    (session : record.session = some (inbound.platform, key)) (unwritten : record.wrote = none)
    (writes : record.Writes gateway reply.nextMetadata) :
    Prog.Follows (turnProtocol gateway) record
      (settleReply digests adapter inbound selection key routeKey reply).run TurnRecord.Ended := by
  simp only [settleReply]
  refine Prog.Follows.liftBind ⟨session, unwritten, writes⟩ fun written _ => ?_
  refine follows_fromStore fun _ stored => ?_
  subst stored
  refine Prog.Follows.liftBind trivial fun registered _ => ?_
  refine follows_fromStore fun _ _ => ?_
  refine Prog.Follows.liftBind trivial fun asked _ => ?_
  refine Prog.Follows.liftBind trivial fun answered _ => ?_
  refine Prog.Follows.liftBind session fun appended _ => ?_
  refine follows_fromStore fun _ _ => ?_
  refine Prog.Follows.liftBind trivial fun timestamp _ => ?_
  refine Prog.Follows.liftBind trivial fun delivered _ => ?_
  have wrote : ∀ response, delivered = .ok response →
      record.session = none ∨ (some reply.nextMetadata).isSome = true :=
    fun _ _ => Or.inr rfl
  cases delivered with
  | error error => exact wrote
  | ok response => exact wrote

/-- A reply is ready to be written. -/
structure TurnRecord.Replied (gateway : Gateway) (session : String × String) (record : TurnRecord)
    (reply : Reply) : Prop where
  session : record.session = some session
  unwritten : record.wrote = none
  writes : record.Writes gateway reply.nextMetadata

theorem replyTo_follows (adapterName : String) {inbound : InboundMessage}
    {selection : Option Selection} (history : List ConversationTurn) {metadata : JsonMap}
    {session : String × String}
    (selected : selection.isSome = (inbound.platform = "whatsapp" && gateway.fleet)) :
    Prog.Follows (turnProtocol gateway)
      ⟨some inbound, some session, some metadata, none, none⟩
      (replyTo texts digests gateway adapterName inbound selection history metadata).run
      fun after result => ∀ reply, result = .ok reply → after.Replied gateway session reply := by
  have beacon : usesBeacon gateway inbound.platform =
      decide (selection.isSome = true ∨ gateway.taskClient = true) := by
    rw [usesBeacon, ← selected]
    cases selection.isSome with
    | true => simp
    | false => simp
  simp only [replyTo]
  by_cases asks : selection.isSome = true ∨ gateway.taskClient = true
  · rw [if_pos asks]
    refine Prog.Follows.liftBind ⟨rfl, rfl, rfl⟩ fun response _ => ?_
    cases response with
    | error error =>
        have none : ∀ reply, (Except.error error : Except GatewayError Reply) = .ok reply →
            TurnRecord.Replied gateway session
              ⟨some inbound, some session, some metadata, none, none⟩ reply := by simp
        exact none
    | ok response =>
        rintro _ ⟨⟩
        refine ⟨rfl, rfl, inbound, metadata, rfl, rfl, ?_, ?_⟩
        · rw [beacon, decide_eq_true asks]
          rfl
        · exact messageTurnIds_beaconReply adapterName inbound metadata _
  · rw [if_neg asks]
    rintro _ ⟨⟩
    refine ⟨rfl, rfl, inbound, metadata, rfl, rfl, ?_, ?_⟩
    · rw [beacon, decide_eq_false asks]
      rfl
    · exact messageTurnIds_fallbackReply adapterName inbound history metadata

theorem converse_follows (adapter : Adapter) (inbound : InboundMessage)
    (selection : Option Selection)
    (selected : selection.isSome = (inbound.platform = "whatsapp" && gateway.fleet)) :
    Prog.Follows (turnProtocol gateway) { TurnRecord.fresh with inbound := some inbound }
      (converse texts digests gateway adapter inbound selection).run TurnRecord.Ended := by
  simp only [converse]
  refine follows_propagate fun _ _ => ?_
  refine Prog.Follows.liftBind trivial fun history _ => ?_
  refine follows_fromStore fun history _ => ?_
  refine Prog.Follows.liftBind ⟨inbound, rfl, rfl⟩ fun metadata _ => ?_
  refine follows_fromStore fun metadata loaded => ?_
  subst loaded
  refine Prog.Follows.bindExcept (replyTo_follows adapter.name history selected) ?_ ?_
  · exact fun _ _ _ => ended_error
  · intro record reply replied
    obtain ⟨session, unwritten, writes⟩ := replied reply rfl
    exact settleReply_follows session unwritten writes

theorem handleInbound_follows (adapterName : String) (payload : Json) :
    Prog.Follows (turnProtocol gateway) .fresh
      (handleInbound texts digests gateway adapterName payload).run TurnRecord.Ended := by
  simp only [handleInbound]
  split
  · exact ended_error
  · rename_i adapter found
    refine Prog.Follows.liftBind rfl fun normalized _ => ?_
    refine follows_propagate fun inbound same => ?_
    subst same
    generalize Text.startsWith (Text.trim inbound.text) "NAVI " = names
    by_cases fleet : inbound.platform = "whatsapp" ∧ gateway.fleet = true
    · rw [if_pos fleet]
      cases names with
      | true =>
          refine Prog.Follows.liftBind trivial fun begun _ => ?_
          refine follows_propagate fun _ _ => ?_
          refine Prog.Follows.liftBind trivial fun registered _ => ?_
          refine follows_fromStore fun _ _ => ?_
          exact fun _ _ => Or.inl rfl
      | false =>
          refine Prog.Follows.liftBind trivial fun selected _ => ?_
          refine follows_propagate fun selection _ => ?_
          exact converse_follows adapter inbound (some selection) (by simp [fleet])
    · rw [if_neg fleet]
      exact converse_follows adapter inbound none (by simpa using fleet)

end Programs

end Inbound

end HarborGate
