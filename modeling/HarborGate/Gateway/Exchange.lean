import HarborGate.Fleet.Retired
import HarborGate.Gateway.Relay

/-!
`exchange` of `cloud_relay.rs` with the requests it sends: when a round publishes and when it only
asks, what the client pins on the way, and what a returned answer has in common with every answer
before it.
-/

namespace HarborGate

open NaviFleet

namespace CloudRelay

inductive HttpMethod
  | post
  | get
deriving DecidableEq

/-- A request of the loop; the path is relative to the endpoint. -/
structure HttpRequest where
  method : HttpMethod
  path : String
  bytes : String
deriving DecidableEq

/-- One round: the instants before its request and after its reply, in milliseconds. -/
structure Round where
  started : Int
  reply : RelayReply
  finished : Int

structure Exchanged where
  request : HttpRequest
  reply : RelayReply

/-- The mutable variables of the loop. -/
structure Pins where
  accepted : Bool
  cloudDeadline : Option Int
  cloudIdentity : Option String
  lastPublish : Int

structure Client where
  expectedHubIdentity : Option String

def Client.withHubIdentity (client : Client) (identity : String) : FleetResult Client :=
  if validIdentity identity then .ok { client with expectedHubIdentity := some identity }
  else .error invalid

def requestFields (operation : String) (body : Json) : Json :=
  .obj [("body", body), ("operation", .str operation)]

def exchangeRequest (client : Client) (id operation : String) (body : Json) (ttlMs : Nat) : Json :=
  let request : JsonMap :=
    [("body", body), ("operation", .str operation), ("requestId", .str id), ("ttlMs", .num ttlMs)]
  match client.expectedHubIdentity with
  | some identity => .obj (request.insert "hubIdentity" (.str identity))
  | none => .obj request

/-- The size limits of a request; `print` is the text of a value as `serde_json` writes it. -/
def fitsLimits (print : Json → String) (client : Client) (id operation : String) (body : Json)
    (ttlMs : Nat) : Bool :=
  let requestJson := print (requestFields operation body)
  Text.utf8Len requestJson ≤ 70000 &&
    Text.utf8Len (print (.obj [("requestJson", .str requestJson)])) + 1024 ≤ 120000 &&
    Text.utf8Len (print (exchangeRequest client id operation body ttlMs)) ≤ 74096

/-- What one reply does to the loop. -/
inductive Verdict
  | again (pins : Pins)
  | done (result : FleetResult RelayResponse)

def handleReply (codec : Codec) (id : String) (pins : Pins) (publish : Bool) (finished : Int) :
    RelayReply → Verdict
  | .failed error =>
      if error.code = "NAVI_RELAY_INVALID_RESPONSE" then .done (.error error) else .again pins
  | .answered status body now =>
      if status = 429 ∨ 500 ≤ status ∧ status < 600 then .again pins
      else if isIdentityChange status body then .done (.error identityChanged)
      else if status ≠ 200 ∧ status ≠ 202 then .done (.error unavailable)
      else
        match body with
        | none => .done (.error unavailable)
        | some payload =>
            match readAnswer id now pins.cloudDeadline pins.cloudIdentity payload with
            | .error error => .done (.error error)
            | .ok (deadline, identity) =>
                if status = 202 then
                  if (payload.index "status").asStr = some "pending" ∧
                      (payload.get "result").isNone then
                    .again {
                      accepted := true
                      cloudDeadline := some deadline
                      cloudIdentity := some identity
                      lastPublish := if publish then finished else pins.lastPublish }
                  else .done (.error unavailable)
                else .done (readResult codec identity payload)

def Pins.publishes (pins : Pins) (started : Int) : Bool :=
  !pins.accepted || decide (2000 ≤ started - pins.lastPublish)

/-- The loop with what it sends; when the rounds end, the deadline has passed. -/
def exchangeRounds (codec : Codec) (id : String) (post get : HttpRequest) :
    List Round → Pins → FleetResult RelayResponse × List Exchanged
  | [], _ => (.error unavailable, [])
  | round :: rest, pins =>
      let publish := pins.publishes round.started
      let entry : Exchanged := ⟨if publish then post else get, round.reply⟩
      match handleReply codec id pins publish round.finished round.reply with
      | .done result => (result, [entry])
      | .again pins =>
          let (result, log) := exchangeRounds codec id post get rest pins
          (result, entry :: log)

def postRequest (print : Json → String) (client : Client) (id hub operation : String)
    (body : Json) (ttlMs : Nat) : HttpRequest where
  method := .post
  path := "v1/internal/beacon-exchanges/" ++ hub
  bytes := print (exchangeRequest client id operation body ttlMs)

def getRequest (id hub : String) : HttpRequest where
  method := .get
  path := "v1/internal/beacon-exchanges/" ++ hub ++ "/" ++ id
  bytes := ""

/-- `id` is the drawn request id, `begun` the instant at which the loop starts. -/
def exchange (codec : Codec) (print : Json → String) (client : Client)
    (id hub operation : String) (body : Json) (ttlMs : Nat) (begun : Int) (rounds : List Round) :
    FleetResult RelayResponse × List Exchanged :=
  if validHubId hub ∧ body.isObject ∧ fitsLimits print client id operation body ttlMs then
    exchangeRounds codec id (postRequest print client id hub operation body ttlMs)
      (getRequest id hub) rounds
      { accepted := false, cloudDeadline := none, cloudIdentity := client.expectedHubIdentity
        lastPublish := begun }
  else (.error invalid, [])

theorem withHubIdentity_ok {client pinned : Client} {identity : String}
    (ok : client.withHubIdentity identity = .ok pinned) :
    pinned.expectedHubIdentity = some identity ∧ validIdentity identity = true := by
  simp only [Client.withHubIdentity] at ok
  split at ok
  · rename_i valid
    obtain rfl := Except.ok.inj ok
    exact ⟨rfl, valid⟩
  · simp at ok

/-! ## The loop without its requests -/

/-- A round of the loop is what its reply does to the two pinned values. -/
theorem exchangeLoop_cons (codec : Codec) (id : String) (pins : Pins) (publish : Bool)
    (finished : Int) (reply : RelayReply) (rest : List RelayReply) :
    exchangeLoop codec id (reply :: rest) pins.cloudDeadline pins.cloudIdentity =
      match handleReply codec id pins publish finished reply with
      | .done result => result
      | .again next => exchangeLoop codec id rest next.cloudDeadline next.cloudIdentity := by
  cases reply with
  | failed error =>
      simp only [exchangeLoop, handleReply]
      by_cases final : error.code = "NAVI_RELAY_INVALID_RESPONSE" <;> simp only [final, if_true, if_false]
  | answered status body now =>
      simp only [exchangeLoop, handleReply]
      by_cases deferred : status = 429 ∨ 500 ≤ status ∧ status < 600
      · simp only [if_pos deferred]
      simp only [if_neg deferred]
      cases isIdentityChange status body with
      | true => rfl
      | false =>
          simp only [Bool.false_eq_true, if_false]
          by_cases other : status ≠ 200 ∧ status ≠ 202
          · simp only [if_pos other]
          simp only [if_neg other]
          cases body with
          | none => rfl
          | some payload =>
              dsimp only
              cases readAnswer id now pins.cloudDeadline pins.cloudIdentity payload with
              | error error => rfl
              | ok answer =>
                  dsimp only
                  by_cases accepted : status = 202
                  · simp only [if_pos accepted]
                    split <;> rfl
                  · simp only [if_neg accepted]

theorem exchangeRounds_result (codec : Codec) (id : String) (post get : HttpRequest)
    (rounds : List Round) (pins : Pins) :
    (exchangeRounds codec id post get rounds pins).1 =
      exchangeLoop codec id (rounds.map (·.reply)) pins.cloudDeadline pins.cloudIdentity := by
  induction rounds generalizing pins with
  | nil => rfl
  | cons round rest ih =>
      rw [List.map_cons, exchangeLoop_cons codec id pins (pins.publishes round.started)
        round.finished round.reply]
      simp only [exchangeRounds]
      generalize handleReply codec id pins (pins.publishes round.started) round.finished
        round.reply = verdict
      cases verdict with
      | done result => rfl
      | again next => exact ih next

/-! ## What one reply does -/

/-- The answer reports that the device has a new identity. -/
def Conflicts : RelayReply → Prop
  | .failed _ => False
  | .answered status body _ => isIdentityChange status body = true

/-- An answer with status 200 or 202 names this deadline and this device. -/
def Agrees (deadline : Int) (identity : String) : RelayReply → Prop
  | .failed _ => True
  | .answered status body _ => status = 200 ∨ status = 202 →
      ∃ payload, body = some payload ∧ (payload.index "deadlineUnixMs").asI64 = some deadline ∧
        (payload.index "hubIdentity").asStr = some identity

/-- The completed answer, read at `now`, that a response is taken from. -/
structure Complete (id : String) (now deadline : Int) (payload : Json) (response : RelayResponse) :
    Prop where
  requestId : (payload.index "requestId").asStr = some id
  status : (payload.index "status").asStr = some "complete"
  resultStatus : ((payload.index "result").index "status").asStr = some "complete"
  identity : (payload.index "hubIdentity").asStr = some response.hubIdentity
  names : (payload.index "deadlineUnixMs").asI64 = some deadline
  future : now < deadline
  httpStatus : asU64 ((payload.index "result").index "httpStatus") = some response.status
  inRange : 200 ≤ response.status ∧ response.status ≤ 599
  noRedirect : ¬(300 ≤ response.status ∧ response.status < 400)
  body : (payload.index "result").get "body" = some response.body

/-- What was pinned before a round holds of the values it names. -/
structure Pins.Keeps (pins : Pins) (deadline : Int) (identity : String) : Prop where
  deadline : ∀ original, pins.cloudDeadline = some original → original = deadline
  identity : ∀ expected, pins.cloudIdentity = some expected → expected = identity

theorem readAnswer_ok {id : String} {now answered : Int} {pins : Pins} {device : String}
    {payload : Json}
    (read : readAnswer id now pins.cloudDeadline pins.cloudIdentity payload =
      .ok (answered, device)) :
    (payload.index "deadlineUnixMs").asI64 = some answered ∧
      (payload.index "hubIdentity").asStr = some device ∧
      (payload.index "requestId").asStr = some id ∧ now < answered ∧ pins.Keeps answered device := by
  simp only [readAnswer, Result.bind_eq_ok, Result.pure_eq_ok, require_ok, Prod.mk.injEq] at read
  obtain ⟨_, deadline, _, named, ⟨⟩, pinned, ⟨⟩, fresh, rfl, rfl⟩ := read
  have pinned := ensure_ok.mp pinned
  obtain ⟨requestId, future, original⟩ := ensure_ok.mp fresh
  refine ⟨deadline, (Option.filter_eq_some_iff.mp named).1, requestId, future, ?_, ?_⟩
  · intro first same
    simpa [same] using original
  · intro expected same
    simpa [same] using pinned

theorem readResult_ok {codec : Codec} {id device : String} {now answered : Int} {payload : Json}
    {response : RelayResponse} (read : readResult codec device payload = .ok response)
    (deadline : (payload.index "deadlineUnixMs").asI64 = some answered)
    (identity : (payload.index "hubIdentity").asStr = some device)
    (requestId : (payload.index "requestId").asStr = some id) (future : now < answered) :
    Complete id now answered payload response ∧ response.hubIdentity = device := by
  simp only [readResult, Result.bind_eq_ok, Result.pure_eq_ok, require_ok] at read
  obtain ⟨⟨⟩, completed, code, filtered, body, found, ⟨⟩, -, rfl⟩ := read
  obtain ⟨status, resultStatus⟩ := ensure_ok.mp completed
  obtain ⟨httpStatus, range⟩ := Option.filter_eq_some_iff.mp filtered
  have range := of_decide_eq_true range
  exact ⟨⟨requestId, status, resultStatus, identity, deadline, future, httpStatus,
    ⟨range.1, range.2.1⟩, range.2.2, found⟩, rfl⟩

section

variable {codec : Codec} {id : String} {pins next : Pins} {publish : Bool} {finished : Int}
  {reply : RelayReply}

theorem handleReply_conflict (conflicts : Conflicts reply) :
    handleReply codec id pins publish finished reply = .done (.error identityChanged) := by
  cases reply with
  | failed error => exact conflicts.elim
  | answered status body now =>
      have changed : isIdentityChange status body = true := conflicts
      obtain rfl : status = 409 := by
        simp only [isIdentityChange, Bool.and_eq_true, beq_iff_eq] at changed
        exact changed.1
      simp [handleReply, changed]

/-- A reply that lets the loop go on left the pins alone, or is accepted and pins its values. -/
theorem handleReply_again (goes : handleReply codec id pins publish finished reply = .again next)
    (deadline : Int) (identity : String) (kept : next.Keeps deadline identity) :
    pins.Keeps deadline identity ∧ Agrees deadline identity reply := by
  cases reply with
  | failed error =>
      simp only [handleReply] at goes
      split at goes
      · simp at goes
      · obtain rfl := Verdict.again.inj goes
        exact ⟨kept, trivial⟩
  | answered status body now =>
      simp only [handleReply] at goes
      by_cases deferred : status = 429 ∨ 500 ≤ status ∧ status < 600
      · obtain rfl := Verdict.again.inj (by simpa only [if_pos deferred] using goes)
        exact ⟨kept, fun accepted => by omega⟩
      simp only [if_neg deferred] at goes
      cases changed : isIdentityChange status body with
      | true => simp [changed] at goes
      | false =>
          simp only [changed, Bool.false_eq_true, if_false] at goes
          by_cases other : status ≠ 200 ∧ status ≠ 202
          · simp [other] at goes
          simp only [if_neg other] at goes
          cases body with
          | none => simp at goes
          | some payload =>
              dsimp only at goes
              cases read : readAnswer id now pins.cloudDeadline pins.cloudIdentity payload with
              | error error => simp [read] at goes
              | ok answer =>
                  obtain ⟨answered, device⟩ := answer
                  obtain ⟨names, devices, -, -, keeps⟩ := readAnswer_ok read
                  simp only [read] at goes
                  split at goes
                  · split at goes
                    · obtain rfl := Verdict.again.inj goes
                      obtain rfl := kept.deadline answered rfl
                      obtain rfl := kept.identity device rfl
                      exact ⟨keeps, fun _ => ⟨payload, rfl, names, devices⟩⟩
                    · simp at goes
                  · simp at goes

theorem handleReply_ok {response : RelayResponse}
    (ends : handleReply codec id pins publish finished reply = .done (.ok response)) :
    ∃ payload now deadline, reply = .answered 200 (some payload) now ∧
      Complete id now deadline payload response ∧ pins.Keeps deadline response.hubIdentity := by
  cases reply with
  | failed error =>
      simp only [handleReply] at ends
      split at ends <;> simp at ends
  | answered status body now =>
      simp only [handleReply] at ends
      by_cases deferred : status = 429 ∨ 500 ≤ status ∧ status < 600
      · simp [deferred] at ends
      simp only [if_neg deferred] at ends
      cases changed : isIdentityChange status body with
      | true => simp [changed] at ends
      | false =>
          simp only [changed, Bool.false_eq_true, if_false] at ends
          by_cases other : status ≠ 200 ∧ status ≠ 202
          · simp [other] at ends
          simp only [if_neg other] at ends
          cases body with
          | none => simp at ends
          | some payload =>
              dsimp only at ends
              cases read : readAnswer id now pins.cloudDeadline pins.cloudIdentity payload with
              | error error => simp [read] at ends
              | ok answer =>
                  obtain ⟨answered, device⟩ := answer
                  obtain ⟨names, devices, requestId, future, keeps⟩ := readAnswer_ok read
                  simp only [read] at ends
                  split at ends
                  · split at ends <;> simp at ends
                  · rename_i unaccepted
                    obtain rfl : status = 200 := by
                      by_contra different
                      exact other ⟨different, unaccepted⟩
                    obtain ⟨complete, rfl⟩ :=
                      readResult_ok (Verdict.done.inj ends) names devices requestId future
                    exact ⟨payload, now, answered, rfl, complete, keeps⟩

end

/-! ## Whole exchanges -/

/-- A response of an exchange: its last answer is complete, and every accepted answer before it
names the same device and the same deadline. -/
structure PinnedTo (client : Client) (id : String) (log : List Exchanged)
    (response : RelayResponse) : Prop where
  expected : ∀ identity, client.expectedHubIdentity = some identity →
    response.hubIdentity = identity
  ends : ∃ earlier request payload now deadline,
    log = earlier ++ [⟨request, .answered 200 (some payload) now⟩] ∧
    Complete id now deadline payload response ∧
    ∀ entry ∈ earlier, Agrees deadline response.hubIdentity entry.reply

/-- The request of a POST, whose body is printed from an object with this id and this body. -/
structure Carries (print : Json → String) (id : String) (body : Json) (request : HttpRequest) :
    Prop where
  method : request.method = .post
  printed : ∃ value, request.bytes = print value ∧ value.index "requestId" = .str id ∧
    value.index "body" = body

structure ExchangePinned (print : Json → String) (client : Client) (id : String) (body : Json)
    (outcome : FleetResult RelayResponse × List Exchanged) : Prop where
  returned : ∀ response, outcome.1 = .ok response → PinnedTo client id outcome.2 response
  conflict : ∀ entry ∈ outcome.2, Conflicts entry.reply → outcome.1 = .error identityChanged
  posts : ∃ post, Carries print id body post ∧
    ∀ entry ∈ outcome.2, entry.request.method = .post → entry.request = post

section

variable {codec : Codec} {id : String} {post get : HttpRequest}

theorem exchangeRounds_ok (rounds : List Round) (pins : Pins) {response : RelayResponse}
    (returned : (exchangeRounds codec id post get rounds pins).1 = .ok response) :
    ∃ earlier request payload now deadline,
      (exchangeRounds codec id post get rounds pins).2 =
        earlier ++ [⟨request, .answered 200 (some payload) now⟩] ∧
      Complete id now deadline payload response ∧ pins.Keeps deadline response.hubIdentity ∧
      ∀ entry ∈ earlier, Agrees deadline response.hubIdentity entry.reply := by
  induction rounds generalizing pins with
  | nil => simp [exchangeRounds] at returned
  | cons round rest ih =>
      simp only [exchangeRounds] at returned ⊢
      cases verdict : handleReply codec id pins (pins.publishes round.started) round.finished
          round.reply with
      | done result =>
          simp only [verdict] at returned ⊢
          subst returned
          obtain ⟨payload, now, deadline, same, complete, kept⟩ := handleReply_ok verdict
          exact ⟨[], _, payload, now, deadline, by rw [same]; rfl, complete, kept, by simp⟩
      | again next =>
          simp only [verdict] at returned ⊢
          obtain ⟨earlier, request, payload, now, deadline, log, complete, kept, agrees⟩ :=
            ih next returned
          obtain ⟨keptBefore, agreesHere⟩ := handleReply_again verdict _ _ kept
          refine ⟨_ :: earlier, request, payload, now, deadline, by rw [log]; rfl, complete,
            keptBefore, ?_⟩
          intro entry member
          rcases List.mem_cons.mp member with rfl | later
          · exact agreesHere
          · exact agrees entry later

/-- A conflict that the loop reads is its last reply. -/
theorem exchangeRounds_conflict (rounds : List Round) (pins : Pins) (entry : Exchanged)
    (member : entry ∈ (exchangeRounds codec id post get rounds pins).2)
    (conflicts : Conflicts entry.reply) :
    (exchangeRounds codec id post get rounds pins).1 = .error identityChanged := by
  induction rounds generalizing pins with
  | nil => simp [exchangeRounds] at member
  | cons round rest ih =>
      simp only [exchangeRounds] at member ⊢
      cases verdict : handleReply codec id pins (pins.publishes round.started) round.finished
          round.reply with
      | done result =>
          simp only [verdict, List.mem_singleton] at member ⊢
          subst member
          rw [handleReply_conflict conflicts] at verdict
          exact (Verdict.done.inj verdict).symm
      | again next =>
          simp only [verdict, List.mem_cons] at member ⊢
          rcases member with rfl | later
          · simp [handleReply_conflict conflicts] at verdict
          · exact ih next later

theorem exchangeRounds_requests (rounds : List Round) (pins : Pins) (entry : Exchanged)
    (member : entry ∈ (exchangeRounds codec id post get rounds pins).2) :
    entry.request = post ∨ entry.request = get := by
  induction rounds generalizing pins with
  | nil => simp [exchangeRounds] at member
  | cons round rest ih =>
      simp only [exchangeRounds] at member
      have sent : (if pins.publishes round.started = true then post else get) = post ∨
          (if pins.publishes round.started = true then post else get) = get := by
        split
        · exact Or.inl rfl
        · exact Or.inr rfl
      cases verdict : handleReply codec id pins (pins.publishes round.started) round.finished
          round.reply with
      | done result =>
          simp only [verdict, List.mem_singleton] at member
          subst member
          exact sent
      | again next =>
          simp only [verdict, List.mem_cons] at member
          rcases member with rfl | later
          · exact sent
          · exact ih next later

end

theorem postRequest_carries (print : Json → String) (client : Client)
    (id hub operation : String) (body : Json) (ttlMs : Nat) :
    Carries print id body (postRequest print client id hub operation body ttlMs) := by
  refine ⟨rfl, _, rfl, ?_, ?_⟩
  · simp only [exchangeRequest]
    split <;> rfl
  · simp only [exchangeRequest]
    split <;> rfl

/-- Whatever the relay answers and whenever: a returned response is pinned to one device and one
deadline, a reported change of identity is the outcome, and every POST is the same request. -/
theorem exchange_is_pinned (codec : Codec) (print : Json → String) (client : Client)
    (id hub operation : String) (body : Json) (ttlMs : Nat) (begun : Int) (rounds : List Round) :
    ExchangePinned print client id body
      (exchange codec print client id hub operation body ttlMs begun rounds) := by
  simp only [exchange]
  split
  · constructor
    · intro response returned
      obtain ⟨earlier, request, payload, now, deadline, log, complete, kept, agrees⟩ :=
        exchangeRounds_ok rounds _ returned
      refine ⟨fun identity same => (kept.identity identity same).symm, ?_⟩
      exact ⟨earlier, request, payload, now, deadline, log, complete, agrees⟩
    · exact fun entry member conflicts => exchangeRounds_conflict rounds _ entry member conflicts
    · refine ⟨_, postRequest_carries print client id hub operation body ttlMs, ?_⟩
      intro entry member posts
      rcases exchangeRounds_requests rounds _ entry member with same | asks
      · exact same
      · simp [asks, getRequest] at posts
  · exact ⟨by simp, by simp, _, postRequest_carries print client id hub operation body ttlMs,
      by simp⟩

/-- Accepted, asked again, completed: one POST and one GET for one device. -/
example :
    let identity := String.ofList (List.replicate 64 'a')
    let fields : JsonMap := [("deadlineUnixMs", .num 9000), ("hubIdentity", .str identity),
      ("requestId", .str "gate_1")]
    let pending := Json.obj (fields ++ [("status", .str "pending")])
    let result := Json.obj [("body", .obj []), ("httpStatus", .num 204), ("status", .str "complete")]
    let complete := Json.obj (fields ++ [("result", result), ("status", .str "complete")])
    let outcome := exchange ⟨fun _ => true, fun _ => 2, fun _ => none⟩ (fun _ => "")
      ⟨some identity⟩ "gate_1" "hub" "turn" (.obj []) 180000 0
      [⟨0, .answered 202 (some pending) 100, 100⟩, ⟨350, .answered 200 (some complete) 400, 400⟩]
    outcome.1.toOption.map (fun response => (response.hubIdentity, response.status)) =
        some (identity, 204) ∧
      outcome.2.map (·.request.method) = [.post, .get] := by
  decide

end CloudRelay

/-- The contact of a pinned client is the exchange of its rounds. -/
theorem exchange_contact {around : Surroundings} {selection : Selection} {operation : String}
    {body : Json} {desk : Desk} {print : Json → String} {hub : String} {ttlMs : Nat} {begun : Int}
    {rounds : List CloudRelay.Round} (addressed : selection.hubId = hub)
    (replies : around.replies desk.contacts.length = rounds.map (·.reply))
    (limits : around.codec.fits body = CloudRelay.fitsLimits print
      ⟨some selection.hubIdentity⟩ (around.requestId desk.contacts.length) operation body ttlMs) :
    (desk.exchange around selection operation body).1 =
      (CloudRelay.exchange around.codec print ⟨some selection.hubIdentity⟩
        (around.requestId desk.contacts.length) hub operation body ttlMs begun rounds).1 := by
  subst addressed
  simp only [Desk.exchange, CloudRelay.exchange, limits]
  split
  · rw [replies, CloudRelay.exchangeRounds_result]
  · rfl

end HarborGate
