import HarborGate.Lib.Result
import HarborGate.Lib.Runs
import HarborGate.Gateway.Relay

/-!
`poll_navi_notifications`: what a selected device has queued is delivered item by item, and the
device is told of each delivery before the next one starts. An item the device is told of was
delivered in this very poll, as the receipt says.
-/

namespace HarborGate

open Interleave NaviFleet

/-- The scope of a poll: the binding it is made for, and the route and recipient of that binding. -/
structure NotificationScope where
  bindingId : String
  generation : String
  recipient : String
  routeKey : String

namespace NotificationScope

def fields (scope : NotificationScope) : JsonMap :=
  [("binding_id", .str scope.bindingId), ("generation", .str scope.generation),
    ("recipient", .str scope.recipient), ("route_key", .str scope.routeKey)]

def receiptRequest (scope : NotificationScope) (queueId receipt : Json) : Json :=
  .obj ((scope.fields.insert "queue_id" queueId).insert "receipt" receipt)

end NotificationScope

def scopeOf (selection : Selection) (route : Route) : NotificationScope where
  bindingId := selection.bindingId
  generation := selection.generation
  recipient := route.recipient
  routeKey := route.routeKey

/-! ## The poll as a program -/

/-- What a poll asks for: the questions of a delivery, the directory for the route that is due, and
two exchanges with the device. -/
inductive PollOp
  | own (op : Op)
  | notificationTarget
  | notificationOutbox (selection : Selection) (scope : Json)
  | notificationReceipt (selection : Selection) (request : Json)

abbrev PollAns : PollOp → Type
  | .own op => Ans op
  | .notificationTarget => FleetResult (Option (Selection × NotificationScope))
  | .notificationOutbox _ _ => FleetResult Json
  | .notificationReceipt _ _ => FleetResult Json

abbrev PollGate (α : Type) := Fallible GatewayError PollOp PollAns α

abbrev PollEvent := Σ op, PollAns op

def delivering : Embedding Op Ans PollOp PollAns where
  ask := .own
  told answer := answer
  read answer := answer
  told_read _ := rfl

namespace Poll

def ask (op : PollOp) : PollGate (PollAns op) :=
  ExceptT.lift (Prog.perform op)

def propagate {α : Type} (result : Except GatewayError α) : PollGate α :=
  ExceptT.mk (pure result)

def invalidBatch : GatewayError :=
  GatewayError.infrastructure "Invalid Navi notification batch"

def invalidScope : GatewayError :=
  GatewayError.infrastructure "Invalid Navi notification scope"

def routeUnavailable : GatewayError :=
  GatewayError.infrastructure "Navi notification route is unavailable"

def routeChanged : GatewayError :=
  GatewayError.infrastructure "Navi notification route has changed"

def notAcknowledged : GatewayError :=
  GatewayError.infrastructure "Navi did not acknowledge notification receipt"

/-- The item names itself by a short id, and its notification carries that id and goes to the route
of the scope. -/
def inScope (scope : NotificationScope) (item : Json) : Bool :=
  let payload := item.index "payload"
  (item.index "queue_id").asStr.any fun id =>
    id ≠ "" ∧ Text.utf8Len id ≤ 128 ∧
      ((payload.index "notification").index "notification_id").asStr = some id ∧
      ((payload.index "destination").index "route_key").asStr = some scope.routeKey

/-- The stored route still belongs to the recipient of the scope. -/
def leadsToRecipient (scope : NotificationScope) (route : Option Json) : Bool :=
  route.any fun route =>
    (route.index "platform").asStr = some "whatsapp" ∧
      (route.index "chat_id").asStr = some scope.recipient

def isAcknowledged (answer : Json) : Bool :=
  (answer.index "acknowledged").asBool = some true

variable (digests : Digests) (gateway : Gateway)

def deliverItem (selection : Selection) (item : Json) : PollGate Json :=
  ExceptT.mk (delivering.run
    (handleNotificationDeliveryFrom digests gateway (item.index "payload") (some selection)).run)

/-- The round of one item: its route is checked, it is delivered, and the device is told. -/
def relayItem (selection : Selection) (scope : NotificationScope) (acknowledged : Nat)
    (item : Json) : PollGate Nat := do
  propagate (ensure (inScope scope item = true) invalidScope)
  let route ← propagate ((← ask (.own (.resolveRoute scope.routeKey))).mapError
    fun _ => routeUnavailable)
  propagate (ensure (leadsToRecipient scope route = true) routeChanged)
  let receipt ← deliverItem digests gateway selection item
  let answer ← propagate
    (← ask (.notificationReceipt selection (scope.receiptRequest (item.index "queue_id") receipt)))
  propagate (ensure (isAcknowledged answer = true) notAcknowledged)
  return acknowledged + 1

/-- The batch that the device answers with; a changed identity clears the selection. -/
def pullBatch (selection : Selection) (scope : NotificationScope) : PollGate (List Json) := do
  propagate (ensure (validIdentity selection.hubIdentity) CloudRelay.invalid)
  match ← ask (.notificationOutbox selection (.obj scope.fields)) with
  | .ok batch =>
      propagate (require ((batch.index "items").asArray.filter (·.length ≤ 4)) invalidBatch)
  | .error error =>
      if error.code = "NAVI_IDENTITY_CHANGED" then do
        propagate (← ask (.own (.fleetInvalidateIdentity selection)))
        throw error
      else throw error

def pollNaviNotifications : PollGate Nat :=
  if gateway.fleet then do
    match ← propagate (← ask .notificationTarget) with
    | none => return 0
    | some (selection, scope) =>
        let items ← pullBatch selection scope
        Fallible.forEach (relayItem digests gateway selection scope) 0 items
  else return 0

end Poll

theorem notificationScope_eq (selection : Selection) (route : Route) :
    notificationScope selection route = .obj (scopeOf selection route).fields :=
  rfl

/-! ## The course of a poll -/

namespace Poll

def isReceipt : PollOp → Bool
  | .notificationReceipt _ _ => true
  | _ => false

/-- The route of an item, its delivery from beginning to end, and the receipt of that delivery. -/
structure Tells (digests : Digests) (gateway : Gateway) (selection : Selection)
    (scope : NotificationScope) (item : Json) (answer : FleetResult Json)
    (events : List PollEvent) : Prop where
  within : inScope scope item = true
  delivered : ∃ route own receipt, leadsToRecipient scope route = true ∧
    Prog.Run (handleNotificationDeliveryFrom digests gateway (item.index "payload")
      (some selection)).run own (some (.ok receipt)) ∧
    events = ⟨.own (.resolveRoute scope.routeKey), .ok route⟩ :: own.map delivering.event ++
      [⟨.notificationReceipt selection
        (scope.receiptRequest (item.index "queue_id") receipt), answer⟩]

/-- The device is told of the delivery and confirms it. -/
def Relays (digests : Digests) (gateway : Gateway) (selection : Selection)
    (scope : NotificationScope) (item : Json) (events : List PollEvent) : Prop :=
  ∃ answer, isAcknowledged answer = true ∧
    Tells digests gateway selection scope item (.ok answer) events

/-- Where a poll ended: before the receipt of the item, with one that was not confirmed, or where
it was cut off. -/
def Breaks (digests : Digests) (gateway : Gateway) (selection : Selection)
    (scope : NotificationScope) (item : Json) (events : List PollEvent)
    (outcome : Option (Except GatewayError Nat)) : Prop :=
  (∀ event ∈ events, isReceipt event.1 = false) ∨
    ∃ answer, Tells digests gateway selection scope item answer events ∧
      ∀ confirmed, answer = .ok confirmed → isAcknowledged confirmed = true → outcome = none

section

variable {digests : Digests} {gateway : Gateway} {selection : Selection} {scope : NotificationScope}
  {events : List PollEvent}

theorem delivering_silent (own : List (Σ op, Ans op)) :
    ∀ event ∈ own.map delivering.event, isReceipt event.1 = false := by
  intro event member
  obtain ⟨source, -, rfl⟩ := List.mem_map.mp member
  rfl

theorem deliverItem_inv {item : Json} {outcome : Option (Except GatewayError Json)}
    (run : Prog.Run (deliverItem digests gateway selection item).run events outcome) :
    ∃ own, Prog.Run (handleNotificationDeliveryFrom digests gateway (item.index "payload")
      (some selection)).run own outcome ∧ events = own.map delivering.event :=
  Embedding.run_inv run

theorem ensure_ok {condition : Prop} [Decidable condition] {error : GatewayError} {value : Unit}
    (passed : ensure condition error = .ok value) : condition := by
  simp only [ensure] at passed
  split at passed
  · assumption
  · simp at passed

/-- A round ends early, or the item is relayed and counted. -/
theorem relayItem_inv {item : Json} {acknowledged : Nat}
    {outcome : Option (Except GatewayError Nat)}
    (run : Prog.Run (relayItem digests gateway selection scope acknowledged item).run
      events outcome) :
    (Breaks digests gateway selection scope item events outcome ∧
      ∀ count, outcome ≠ some (.ok count)) ∨
      Relays digests gateway selection scope item events ∧ outcome = some (.ok (acknowledged + 1)) := by
  rcases Prog.Run.resultBind_inv run with ⟨_, -, rfl, rfl | rfl⟩ | ⟨_, passed, resolves⟩
  · exact Or.inl ⟨Or.inl (by simp), by simp⟩
  · exact Or.inl ⟨Or.inl (by simp), by simp⟩
  have inside := ensure_ok passed
  rcases Prog.Run.askBind_inv resolves with ⟨rfl, rfl⟩ | ⟨looked, found, rfl, reads⟩
  · exact Or.inl ⟨Or.inl (by simp), by simp⟩
  have resolving : isReceipt (.own (.resolveRoute scope.routeKey)) = false := rfl
  rcases Prog.Run.resultBind_inv reads with ⟨_, -, rfl, rfl | rfl⟩ | ⟨route, known, checks⟩
  · exact Or.inl ⟨Or.inl (by simp [resolving]), by simp⟩
  · exact Or.inl ⟨Or.inl (by simp [resolving]), by simp⟩
  obtain rfl := Result.mapError_eq_ok.mp known
  rcases Prog.Run.resultBind_inv checks with ⟨_, -, rfl, rfl | rfl⟩ | ⟨_, fits, delivers⟩
  · exact Or.inl ⟨Or.inl (by simp [resolving]), by simp⟩
  · exact Or.inl ⟨Or.inl (by simp [resolving]), by simp⟩
  have leads := ensure_ok fits
  rcases Prog.Run.bindExcept_inv delivers with ⟨rfl, stopped⟩ | ⟨error, rfl, failed⟩ |
    ⟨receipt, earlier, later, served, reports, rfl⟩
  · obtain ⟨own, -, rfl⟩ := deliverItem_inv stopped
    exact Or.inl ⟨Or.inl (by simpa [resolving] using delivering_silent own), by simp⟩
  · obtain ⟨own, -, rfl⟩ := deliverItem_inv failed
    exact Or.inl ⟨Or.inl (by simpa [resolving] using delivering_silent own), by simp⟩
  obtain ⟨own, ran, rfl⟩ := deliverItem_inv served
  rcases Prog.Run.askBind_inv reports with ⟨rfl, rfl⟩ | ⟨answer, further, rfl, hears⟩
  · exact Or.inl ⟨Or.inl (by simpa [resolving] using delivering_silent own), by simp⟩
  have tells : Tells digests gateway selection scope item answer
      (⟨.own (.resolveRoute scope.routeKey), .ok route⟩ :: own.map delivering.event ++
        [⟨.notificationReceipt selection
          (scope.receiptRequest (item.index "queue_id") receipt), answer⟩]) :=
    ⟨inside, route, own, receipt, leads, ran, rfl⟩
  rcases Prog.Run.resultBind_inv hears with ⟨error, refused, rfl, ended⟩ | ⟨confirmed, told, ends⟩
  · refine Or.inl ⟨Or.inr ⟨answer, tells, ?_⟩, ?_⟩
    · intro confirmed same
      simp [refused] at same
    · rcases ended with rfl | rfl <;> simp
  subst told
  rcases Prog.Run.resultBind_inv ends with ⟨error, refused, rfl, ended⟩ | ⟨_, agreed, returns⟩
  · refine Or.inl ⟨Or.inr ⟨.ok confirmed, tells, ?_⟩, ?_⟩
    · intro other same confirms
      obtain rfl := Except.ok.inj same
      simp [ensure, confirms] at refused
    · rcases ended with rfl | rfl <;> simp
  · obtain ⟨rfl, rfl | rfl⟩ := Prog.Run.ret_inv returns
    · exact Or.inl ⟨Or.inr ⟨.ok confirmed, tells, fun _ _ _ => rfl⟩, by simp⟩
    · exact Or.inr ⟨⟨confirmed, ensure_ok agreed, tells⟩, rfl⟩

/-- Item after item is relayed, up to the end of the batch or to the one at which the poll ends. -/
theorem relayItems_inv {items : List Json} {outcome : Option (Except GatewayError Nat)}
    (run : Prog.Run (Fallible.forEach (relayItem digests gateway selection scope) 0 items).run
      events outcome) :
    ∃ done rest blocks last, items = done ++ rest ∧
      List.Forall₂ (Relays digests gateway selection scope) done blocks ∧
      events = blocks.flatten ++ last ∧
      (∀ item ∈ rest.head?, Breaks digests gateway selection scope item last outcome) ∧
      (rest = [] → last = []) ∧
      ∀ count, outcome = some (.ok count) → rest = [] ∧ count = done.length := by
  obtain ⟨done, rest, own, last, reached, rfl, rounds, ends, rfl⟩ := forEach_inv run
  have round : ∀ state next item own,
      Prog.Run (relayItem digests gateway selection scope state item).run own (some (.ok next)) →
      Relays digests gateway selection scope item own ∧ next = state + 1 := by
    intro state next item own ran
    rcases relayItem_inv ran with ⟨-, failed⟩ | ⟨relays, same⟩
    · exact absurd rfl (failed next)
    · exact ⟨relays, by simpa using same⟩
  obtain ⟨blocks, relayed, rfl⟩ := rounds.blocks fun state next item own ran =>
    (round state next item own ran).1
  have counted : reached = done.length := by
    refine rounds.keeps (fun done _ count => count = done.length) ?_ rfl
    intro done earlier state next item own before ran
    rw [(round state next item own ran).2, before, List.length_append, List.length_singleton]
  refine ⟨done, rest, blocks, last, rfl, relayed, rfl, ?_⟩
  cases ends with
  | complete ended =>
      refine ⟨by simp, fun _ => rfl, fun count same => ⟨rfl, ?_⟩⟩
      rcases ended with rfl | rfl
      · simp at same
      · rw [← counted]
        simpa using same.symm
  | stopped ran =>
      refine ⟨fun item same => ?_, by simp, by simp⟩
      obtain rfl := Option.some.inj same
      rcases relayItem_inv ran with ⟨breaks, -⟩ | ⟨-, mismatch⟩
      · exact breaks
      · simp at mismatch
  | failed ran =>
      refine ⟨fun item same => ?_, by simp, by simp⟩
      obtain rfl := Option.some.inj same
      rcases relayItem_inv ran with ⟨breaks, -⟩ | ⟨-, mismatch⟩
      · exact breaks
      · simp at mismatch

/-- The batch of a poll is at most four items of the device's answer. -/
theorem pullBatch_inv {outcome : Option (Except GatewayError (List Json))}
    (run : Prog.Run (pullBatch selection scope).run events outcome) :
    (∀ event ∈ events, isReceipt event.1 = false) ∧
      ∀ items, outcome = some (.ok items) → items.length ≤ 4 ∧
        ∃ batch, (batch.index "items").asArray = some items ∧
          events = [⟨.notificationOutbox selection (.obj scope.fields), .ok batch⟩] := by
  rcases Prog.Run.resultBind_inv run with ⟨_, -, rfl, rfl | rfl⟩ | ⟨_, -, asks⟩
  · simp
  · simp
  rcases Prog.Run.askBind_inv asks with ⟨rfl, rfl⟩ | ⟨answer, later, rfl, reads⟩
  · simp
  cases answer with
  | ok batch =>
      obtain ⟨rfl, rfl | rfl⟩ := Prog.Run.ret_inv reads
      · simp [isReceipt]
      · refine ⟨by simp [isReceipt], fun items same => ?_⟩
        simp only [require, Option.some.injEq] at same
        split at same
        · rename_i listed kept
          obtain rfl := Except.ok.inj same
          obtain ⟨found, short⟩ := Option.filter_eq_some_iff.mp kept
          exact ⟨by simpa using short, batch, found, rfl⟩
        · simp at same
  | error error =>
      dsimp only at reads
      split at reads
      · rcases Prog.Run.askBind_inv reads with ⟨rfl, rfl⟩ | ⟨cleared, ending, rfl, ends⟩
        · simp [isReceipt]
        · rcases Prog.Run.resultBind_inv ends with ⟨_, -, rfl, rfl | rfl⟩ | ⟨_, -, fails⟩
          · simp [isReceipt]
          · simp [isReceipt]
          · obtain ⟨rfl, rfl | rfl⟩ := Prog.Run.ret_inv fails <;> simp [isReceipt]
      · obtain ⟨rfl, rfl | rfl⟩ := Prog.Run.ret_inv reads <;> simp [isReceipt]

end

/-- What a poll asked and was told, and what it returned. -/
inductive Course (digests : Digests) (gateway : Gateway) :
    List PollEvent → Option (Except GatewayError Nat) → Prop
  /-- No item was taken up. -/
  | idle {events : List PollEvent} {outcome : Option (Except GatewayError Nat)}
      (silent : ∀ event ∈ events, isReceipt event.1 = false)
      (none : ∀ count, outcome = some (.ok count) → count = 0) :
      Course digests gateway events outcome
  /-- The items `done` were relayed one after the other, and `rest` was left. -/
  | served {outcome : Option (Except GatewayError Nat)} {selection : Selection}
      {scope : NotificationScope} {batch : Json} {done rest : List Json}
      {blocks : List (List PollEvent)} {last : List PollEvent}
      (pulled : (batch.index "items").asArray = some (done ++ rest))
      (short : (done ++ rest).length ≤ 4)
      (relayed : List.Forall₂ (Relays digests gateway selection scope) done blocks)
      (broke : ∀ item ∈ rest.head?, Breaks digests gateway selection scope item last outcome)
      (ended : rest = [] → last = [])
      (counted : ∀ count, outcome = some (.ok count) → rest = [] ∧ count = done.length) :
      Course digests gateway
        (⟨.notificationTarget, .ok (some (selection, scope))⟩ ::
          ⟨.notificationOutbox selection (.obj scope.fields), .ok batch⟩ ::
          (blocks.flatten ++ last)) outcome

/-- Whatever the relay, the store and the adapters answer and wherever the poll stops: the device is
told of its items in their order, of each one only what delivering it returned, and of none before
the one ahead of it was confirmed; the poll returns the number of items when all are confirmed. -/
theorem polls_report_deliveries (digests : Digests) (gateway : Gateway) {events : List PollEvent}
    {outcome : Option (Except GatewayError Nat)}
    (run : Prog.Run (pollNaviNotifications digests gateway).run events outcome) :
    Course digests gateway events outcome := by
  simp only [pollNaviNotifications] at run
  split at run
  · rcases Prog.Run.askBind_inv run with ⟨rfl, rfl⟩ | ⟨target, later, rfl, aims⟩
    · exact .idle (by simp) (by simp)
    rcases Prog.Run.resultBind_inv aims with ⟨_, -, rfl, rfl | rfl⟩ | ⟨found, rfl, pulls⟩
    · exact .idle (by simp [isReceipt]) (by simp)
    · exact .idle (by simp [isReceipt]) (by simp)
    cases found with
    | none =>
        obtain ⟨rfl, rfl | rfl⟩ := Prog.Run.ret_inv pulls
        · exact .idle (by simp [isReceipt]) (by simp)
        · exact .idle (by simp [isReceipt]) (by simp)
    | some due =>
        obtain ⟨selection, scope⟩ := due
        rcases Prog.Run.bindExcept_inv pulls with ⟨rfl, stopped⟩ | ⟨error, rfl, failed⟩ |
          ⟨items, earlier, ending, pulled, serves, rfl⟩
        · exact .idle (by simpa [isReceipt] using (pullBatch_inv stopped).1) (by simp)
        · exact .idle (by simpa [isReceipt] using (pullBatch_inv failed).1) (by simp)
        · obtain ⟨short, batch, listed, rfl⟩ := (pullBatch_inv pulled).2 items rfl
          obtain ⟨done, rest, blocks, last, rfl, relayed, rfl, broke, ended, counts⟩ :=
            relayItems_inv serves
          exact .served listed short relayed broke ended counts
  · obtain ⟨rfl, rfl | rfl⟩ := Prog.Run.ret_inv run
    · exact .idle (by simp) (by simp)
    · exact .idle (by simp) (by simp)

/-! A device with one item, which an earlier poll delivered without being able to say so. -/

def pollSelection : Selection where
  hubId := "hub-1"
  hubIdentity := "aaaaaaaaaaaaaaaaaaaaaaaaaaaaaaaaaaaaaaaaaaaaaaaaaaaaaaaaaaaaaaaa"
  bindingId := "binding"
  generation := "generation"
  selectedAt := 0

def pollScope : NotificationScope where
  bindingId := "binding"
  generation := "generation"
  recipient := "15550001"
  routeKey := "route"

def pollDigests : Digests where
  fingerprint _ := "fingerprint"
  stableId label text _ := label ++ text

def pollGateway : Gateway where
  instanceId := "gate"
  adapters := [⟨"whatsapp", 60⟩]
  fleet := true
  taskClient := false

def queuedItem : Json :=
  .obj [("payload", .obj [
      ("delivery", .obj [("idempotency_key", .str "key"), ("mode", .str "send")]),
      ("destination", .obj [("route_key", .str "route")]),
      ("notification", .obj [("notification_id", .str "n1")])]),
    ("queue_id", .str "n1")]

def pollAnswer : (op : PollOp) → Unit → Option (PollAns op × Unit)
  | .notificationTarget, _ => some (.ok (some (pollSelection, pollScope)), ())
  | .notificationOutbox _ _, _ => some (.ok (.obj [("items", .arr [queuedItem])]), ())
  | .notificationReceipt _ _, _ => some (.ok (.obj [("acknowledged", .bool true)]), ())
  | .own (.resolveRoute _), _ =>
      some (.ok (some (.obj [("chat_id", .str "15550001"), ("platform", .str "whatsapp")])), ())
  | .own (.loadDeliveryRecord _), _ =>
      some (.ok (some ⟨"fingerprint", .obj [("ok", .bool true)], .null⟩), ())
  | _, _ => none

theorem polls_report_deliveries_again :
    let run := Prog.record pollAnswer (pollNaviNotifications pollDigests pollGateway).run ()
    run.2.any (fun result => result.toOption == some 1) = true ∧
      Course pollDigests pollGateway run.1 run.2 :=
  ⟨by decide,
    polls_report_deliveries pollDigests pollGateway
      (Prog.run_record pollAnswer (pollNaviNotifications pollDigests pollGateway).run ())⟩

end Poll

end HarborGate
