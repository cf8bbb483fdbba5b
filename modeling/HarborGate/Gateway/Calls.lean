import HarborGate.Gateway.Protocol

/-!
How the three kinds of calls run through the delivery protocol, and what their results say
about the phase they end in.
-/

namespace HarborGate

open Interleave

/-- The answer of a notification that went out: `"ok": true`. -/
def isSent : Outcome → Bool
  | .ok payload => (payload.get "ok").bind Json.asBool = some true
  | .error _ => false

def IsConflict (result : Outcome) : Prop :=
  ∃ error, result = .error error ∧ error.code = "IDEMPOTENCY_CONFLICT"

theorem IsConflict.not_sent {result : Outcome} (conflict : IsConflict result) :
    isSent result = false := by
  obtain ⟨error, rfl, -⟩ := conflict
  rfl

/-- How a notification call ends, by the phase it ends in. -/
def NotifyDone (fingerprint : String) (phase : Phase) (result : Outcome) : Prop :=
  match phase with
  | .loaded record =>
      record.requestFingerprint ≠ fingerprint ∧ IsConflict result ∨
        record.requestFingerprint = fingerprint ∧
          (result = .ok record.responsePayload ∨ isSent result = false)
  | .refused reason =>
      isSent result = false ∧ (Text.contains reason.text "conflict" = true → IsConflict result)
  | .saved _ payload => result = .ok payload
  | _ => isSent result = false

variable {contract : Contract} {digests : Digests} {gateway : Gateway}

section Propagate

variable {α β : Type} {next : α → Gate β} {phase : Phase} {post : Phase → Except GatewayError β → Prop}

/-- `?` on a success goes on, and on an error returns it. -/
theorem follows_propagate_ok {value : α}
    (continues : Prog.Follows (deliveryProtocol contract) phase (next value).run post) :
    Prog.Follows (deliveryProtocol contract) phase (propagate (.ok value) >>= next).run post :=
  continues

theorem follows_propagate_error {error : GatewayError} (holds : post phase (.error error)) :
    Prog.Follows (deliveryProtocol contract) phase (propagate (.error error) >>= next).run post :=
  holds

end Propagate

theorem failedResponse_not_sent (request : NotificationRequest) (route : Json)
    (error : GatewayError) : isSent (.ok (failedResponse digests request route error)) = false := by
  simp only [isSent, failedResponse]
  rfl

/-- Ends of a notification that leave nothing stored. -/
theorem notifyDone_of_not_sent {fingerprint : String} {phase : Phase} {result : Outcome}
    (unsent : isSent result = false) (notLoaded : ∀ record, phase ≠ .loaded record)
    (notRefused : ∀ reason, phase ≠ .refused reason) (notSaved : ∀ plan payload, phase ≠ .saved plan payload) :
    NotifyDone fingerprint phase result := by
  cases phase with
  | loaded record => exact absurd rfl (notLoaded record)
  | refused reason => exact absurd rfl (notRefused reason)
  | saved plan payload => exact absurd rfl (notSaved plan payload)
  | idle | planned _ | materializing _ _ _ | ready _ _ | claimed _ _ _ | sent _ _ _ _
  | recorded _ _ _ _ | spoiled _ _ _ | settled _ _ _ | stopped _ => exact unsent

/-- The phase in which a notification decides to deliver: no stored answer, or one of its own
fingerprint that allows another attempt. -/
def Undelivered (fingerprint : String) (phase : Phase) : Prop :=
  phase = .idle ∨ ∃ record, phase = .loaded record ∧ record.requestFingerprint = fingerprint

theorem Undelivered.done {fingerprint : String} {phase : Phase} {result : Outcome}
    (undelivered : Undelivered fingerprint phase) (unsent : isSent result = false) :
    NotifyDone fingerprint phase result := by
  rcases undelivered with rfl | ⟨record, rfl, same⟩
  · exact unsent
  · exact Or.inr ⟨same, Or.inr unsent⟩

/-- A failed delivery becomes a conflict exactly when the delivery ended in one. -/
def failureOutcome (digests : Digests) (request : NotificationRequest) (route : Json)
    (error : GatewayError) : Outcome :=
  if error.code = "IDEMPOTENCY_CONFLICT" then .error (error.withTrace request.traceId)
  else .ok (failedResponse digests request route error)

theorem failureOutcome_not_sent (request : NotificationRequest) (route : Json)
    (error : GatewayError) : isSent (failureOutcome digests request route error) = false := by
  simp only [failureOutcome]
  split
  · rfl
  · exact failedResponse_not_sent request route error

theorem failureOutcome_conflict {request : NotificationRequest} {route : Json}
    {error : GatewayError} (conflict : error.code = "IDEMPOTENCY_CONFLICT") :
    IsConflict (failureOutcome digests request route error) := by
  simp only [failureOutcome, if_pos conflict]
  exact ⟨_, rfl, by simpa using conflict⟩

theorem persistFailure_conflict {reason : StoreError}
    (conflict : Text.contains reason.text "conflict" = true) :
    (persistFailure reason).code = "IDEMPOTENCY_CONFLICT" := by
  simp [persistFailure, conflict, GatewayError.new]

theorem DeliveryDone.notifyDone {deliveryKey fingerprint : String} {phase after : Phase}
    {error : GatewayError} {request : NotificationRequest} {route : Json}
    (undelivered : Undelivered fingerprint phase)
    (done : DeliveryDone deliveryKey fingerprint phase after (.error error)) :
    NotifyDone fingerprint after (failureOutcome digests request route error) := by
  have unsent : isSent (failureOutcome digests request route error) = false :=
    failureOutcome_not_sent request route error
  rcases done with rfl | ⟨reason, rfl, rfl⟩ | ⟨plan, halted⟩
  · exact undelivered.done unsent
  · exact ⟨unsent, fun conflict => failureOutcome_conflict (persistFailure_conflict conflict)⟩
  · refine notifyDone_of_not_sent unsent ?_ ?_ ?_
    · rintro record rfl
      simp [Phase.halted?] at halted
    · rintro reason rfl
      simp [Phase.halted?] at halted
    · rintro _ payload rfl
      simp [Phase.halted?] at halted

/-! ## Notifications -/

/-- The routes that a notification can be sent along, by what the call knows of the table. -/
def Resolves (contract : Contract) (request : NotificationRequest) (route : Json) : Prop :=
  if request.routeKey ≠ "" then
    ∃ stored, contract.possible (.resolveRoute request.routeKey) (.ok stored) ∧
      boundRoute request stored = .ok route
  else proactiveRoute request = .ok route

/-- A notification on `route` keeps to the contract: its key, every plan it can make and the
answer it stores. -/
structure Honours (contract : Contract) (digests : Digests) (request : NotificationRequest)
    (route : Json) : Prop where
  key : contract.key request.idempotencyKey
  plan : ∀ (adapter : Adapter) (timestamp : String) (items : List DeliveryItem),
    adapter.name = routeAdapterName route →
    splitOutboundItems (notificationOutbound request route timestamp) = .ok items →
    contract.plan ⟨request.idempotencyKey, digests.fingerprint (effectiveRequest request route),
      items.map (planItem adapter request.idempotencyKey)⟩
  answer : ∀ response, contract.answer response (sentResponse digests request route response)

theorem deliverNotification_follows {request : NotificationRequest} {route : Json}
    {adapter : Adapter} {phase : Phase} (named : adapter.name = routeAdapterName route)
    (keyed : Text.isBlank request.idempotencyKey = false)
    (honours : Honours contract digests request route)
    (undelivered : Undelivered (digests.fingerprint (effectiveRequest request route)) phase) :
    Prog.Follows (deliveryProtocol contract) phase
      (deliverNotification digests gateway request route adapter
        (digests.fingerprint (effectiveRequest request route))).run
      (NotifyDone (digests.fingerprint (effectiveRequest request route))) := by
  simp only [deliverNotification]
  have clock : Quiet contract (ask .utcNowIso).run := quiet_ask rfl
  refine Prog.Follows.bindExcept (clock phase) ?_ ?_
  · rintro _ error rfl
    exact undelivered.done rfl
  intro same timestamp unchanged
  rw [unchanged]
  have free : phase.token? = none := by
    rcases undelivered with rfl | ⟨record, rfl, -⟩ <;> rfl
  refine Prog.Follows.routineBind (deliverOutboundItemsGuarded_follows gateway _ adapter _ _ _
    free (fun items split => honours.plan adapter timestamp items named split)
    (by simp [keyed])) ?_
  intro after result done
  cases result with
  | ok response =>
      obtain ⟨blank, -⟩ | ⟨plan, itemKey, rfl, last, key, fingerprint⟩ := done
      · simp [keyed] at blank
      rw [← key]
      refine Prog.Follows.liftBind (.save last fingerprint.symm (honours.answer response)) ?_
      intro saved _
      cases saved with
      | ok done => exact Prog.Follows.pure rfl
      | error error => exact Prog.Follows.pure rfl
  | error error =>
      have ended : NotifyDone _ after (failureOutcome digests request route error) :=
        done.notifyDone undelivered
      simp only [failureOutcome] at ended
      dsimp only
      split
      · rename_i conflict
        rw [if_pos conflict] at ended
        exact Prog.Follows.pure ended
      · rename_i different
        rw [if_neg different] at ended
        exact Prog.Follows.pure ended

theorem findAdapter_name {name : String} {adapter : Adapter}
    (found : findAdapter gateway name = some adapter) : adapter.name = name := by
  simpa using List.find?_some found

theorem deliverOnRoute_follows {request : NotificationRequest} {route : Json}
    (keyed : Text.isBlank request.idempotencyKey = false)
    (honours : Honours contract digests request route) :
    Prog.Follows (deliveryProtocol contract) .idle
      (deliverOnRoute digests gateway request route).run
      (NotifyDone (digests.fingerprint (effectiveRequest request route))) := by
  simp only [deliverOnRoute]
  split
  · exact Prog.Follows.pure rfl
  · rename_i adapter found
    have named := findAdapter_name found
    split
    · exact Prog.Follows.pure rfl
    · refine Prog.Follows.liftBind (.load honours.key) fun answer _ => ?_
      match answer with
      | .error error => exact Prog.Follows.pure rfl
      | .ok none => exact deliverNotification_follows named keyed honours (Or.inl rfl)
      | .ok (some record) =>
          refine follows_propagate_ok ?_
          show Prog.Follows (deliveryProtocol contract) (.loaded record) _ _
          by_cases same : record.requestFingerprint =
              digests.fingerprint (effectiveRequest request route)
          · by_cases retry : isRetryableFailure record.responsePayload = true
            · have again : replay request (digests.fingerprint (effectiveRequest request route))
                  (some record) = .ok none := by simp [replay, same, retry]
              rw [again]
              refine follows_propagate_ok ?_
              exact deliverNotification_follows named keyed honours (Or.inr ⟨record, rfl, same⟩)
            · have answered : replay request (digests.fingerprint (effectiveRequest request route))
                  (some record) = .ok (some record.responsePayload) := by simp [replay, same, retry]
              rw [answered]
              exact follows_propagate_ok (Prog.Follows.pure (Or.inr ⟨same, Or.inl rfl⟩))
          · have conflict : replay request (digests.fingerprint (effectiveRequest request route))
                (some record) = .error (idempotencyConflict.withTrace request.traceId) := by
              simp [replay, same]
            rw [conflict]
            exact follows_propagate_error (Or.inl ⟨same, _, rfl, by simp [idempotencyConflict, GatewayError.new]⟩)

theorem readNotification_key {payload : Json} {selection : Option Selection}
    {request : NotificationRequest} (read : readNotification payload selection = .ok request) :
    Text.isBlank request.idempotencyKey = false := by
  simp only [readNotification] at read
  split at read
  · simp at read
  split at read
  · simp at read
  split at read
  · simp at read
  rename_i delivery _
  obtain ⟨-, -, read⟩ := Result.bind_eq_ok.mp read
  split at read
  · simp at read
  rename_i keyed
  obtain rfl := Except.ok.inj read
  cases blank : Text.isBlank (strField delivery "idempotency_key") with
  | false => rfl
  | true => exact absurd (Text.isBlank_trim blank) keyed

/-- A notification that was understood, and the route it went along. -/
def Delivers (contract : Contract) (payload : Json) (selection : Option Selection)
    (request : NotificationRequest) (route : Json) : Prop :=
  readNotification payload selection = .ok request ∧ Resolves contract request route

theorem handleNotificationDeliveryFrom_follows {payload : Json} {selection : Option Selection}
    (honours : ∀ request route, Delivers contract payload selection request route →
      Honours contract digests request route) :
    Prog.Follows (deliveryProtocol contract) .idle
      (handleNotificationDeliveryFrom digests gateway payload selection).run
      fun phase result => phase = .idle ∧ isSent result = false ∨
        ∃ request route, Delivers contract payload selection request route ∧
          NotifyDone (digests.fingerprint (effectiveRequest request route)) phase result := by
  simp only [handleNotificationDeliveryFrom]
  cases read : readNotification payload selection with
  | error error => exact Prog.Follows.pure (Or.inl ⟨rfl, rfl⟩)
  | ok request =>
      have routed : Prog.Follows (deliveryProtocol contract) .idle
          (resolveNotificationRoute request).run fun phase result => phase = .idle ∧
            ∀ route, result = .ok route → Resolves contract request route := by
        simp only [resolveNotificationRoute]
        split
        · rename_i bound
          refine Prog.Follows.liftBind (.neutral rfl) fun answer possible => ?_
          cases answer with
          | error error => exact Prog.Follows.pure ⟨rfl, by simp⟩
          | ok stored =>
              refine Prog.Follows.pure ⟨rfl, fun route resolved => ?_⟩
              simp only [Resolves, if_pos bound]
              exact ⟨stored, possible, resolved⟩
        · rename_i unbound
          refine Prog.Follows.pure ⟨rfl, fun route resolved => ?_⟩
          simpa only [Resolves, if_neg unbound] using resolved
      refine follows_propagate_ok ?_
      refine Prog.Follows.bindExcept routed ?_ ?_
      · rintro _ error ⟨rfl, -⟩
        exact Or.inl ⟨rfl, rfl⟩
      · rintro _ route ⟨rfl, resolved⟩
        have delivers : Delivers contract payload selection request route :=
          ⟨read, resolved route rfl⟩
        refine (deliverOnRoute_follows (readNotification_key read)
          (honours request route delivers)).mono ?_
        exact fun phase result done => Or.inr ⟨request, route, delivers, done⟩

-- From here on a notification is known by the lemma above.
attribute [local irreducible] handleNotificationDeliveryFrom

/-! ## Recovery passes and plain deliveries -/

/-- The contract of a call that nothing is known about. -/
def anyContract : Contract where
  key _ := True
  plan _ := True
  answer _ _ := True
  direct := True
  possible _ _ := True

theorem retryPlans_follows (plans : List RetryablePlan) : ∀ (phase : Phase) (attempted : Nat),
    phase.token? = none →
    (retryPlans digests gateway plans attempted).Follows (deliveryProtocol anyContract) phase
      fun _ _ => True := by
  induction plans with
  | nil => exact fun _ _ _ => trivial
  | cons plan plans ih =>
      intro phase attempted free
      simp only [retryPlans]
      split
      · exact ih phase attempted free
      · rename_i adapter _
        refine Prog.Follows.bind (deliverOutboundItemsGuarded_follows gateway _ adapter _ _ _ free
          (fun _ _ => trivial) (fun _ => trivial)) ?_
        exact fun after result done => ih after (attempted + 1) (done.free free)

/-- Every call of every kind runs through the delivery protocol. -/
theorem Call.program_follows (call : Call) :
    (call.program digests).Follows (deliveryProtocol anyContract) .idle fun _ _ => True := by
  cases call with
  | deliver gateway adapter outbound deliveryKey fingerprint =>
      simp only [Call.program]
      refine (deliverOutboundItemsGuarded_follows gateway _ adapter outbound deliveryKey fingerprint
        rfl (fun _ _ => trivial) (fun _ => trivial)).mono fun _ _ _ => trivial
  | notify gateway payload selection =>
      simp only [Call.program]
      have honours : ∀ request route, Delivers anyContract payload selection request route →
          Honours anyContract digests request route :=
        fun _ _ _ => ⟨trivial, fun _ _ _ _ _ => trivial, fun _ => trivial⟩
      exact (handleNotificationDeliveryFrom_follows honours).mono fun _ _ _ => trivial
  | recover gateway =>
      simp only [Call.program]
      have passes : Prog.Follows (deliveryProtocol anyContract) .idle
          (retryPendingDeliveries digests gateway).run fun _ _ => True := by
        simp only [retryPendingDeliveries]
        refine Prog.Follows.liftBind (.neutral rfl) fun answer _ => ?_
        cases answer with
        | error error => exact follows_propagate_error trivial
        | ok plans =>
            refine follows_propagate_ok ?_
            exact Prog.Follows.bind (retryPlans_follows plans .idle 0 rfl) fun _ _ _ => trivial
      exact Prog.Follows.bind passes fun _ _ _ => trivial

end HarborGate
