import HarborGate.Lib.Interleave
import HarborGate.Store.Ledger
import HarborGate.Fleet.Directory

/-!
`deliver_outbound_items_guarded` of `gateway.rs` and what it calls. Each `await` and each store
call is one operation that other tasks may interleave with; everything between two operations
is a pure step. Removing cache files is left out: it touches no state modelled here.
-/

namespace HarborGate

open Interleave

structure Adapter where
  name : String
  leaseSeconds : Nat
deriving DecidableEq, Repr

structure PreparedOutbound where
  providerMediaId : String
  providerClientId : Option String
  state : Json

structure MaterializedAttachments where
  attachments : List Json
  failedCount : Nat

/-- An entry of `_deliveries.json`. -/
structure DeliveryRecord where
  requestFingerprint : String
  responsePayload : Json
  classification : Json

/-- The claim a stage is sent under. It goes along with the send only to name it in a run; an
adapter gets the message and the prepared upload. -/
structure StageContext where
  deliveryKey : String
  itemKey : String
  claimToken : Uuid
  stage : Stage
deriving DecidableEq, Repr

inductive Op
  | loadDeliveryRecord (idempotencyKey : String)
  | saveDeliveryRecord (idempotencyKey : String) (record : DeliveryRecord)
  | resolveRoute (routeKey : String)
  | persistDeliveryPlan (deliveryKey fingerprint : String) (plannedOutbound : OutboundMessage)
      (plannedItems : List DeliveryPlanItem)
  | claimDeliveryMaterialization (deliveryKey itemKey owner : String) (leaseSeconds : Nat)
  | finishDeliveryMaterialization (completion : DeliveryMaterializationCompletion)
  | claimDeliveryItem (request : DeliveryItemClaimRequest)
  | recordDeliveryItemUpload (upload : DeliveryItemUpload)
  | finishDeliveryStage (completion : DeliveryStageCompletion)
  | finishDeliveryItem (completion : DeliveryItemCompletion)
  | retryableDeliveryPlans
  | fleetCheck (outbound : OutboundMessage)
  | fleetInvalidateIdentity (selection : Selection)
  | authorizeCameraAttachments (cameras : List Json)
  | authorizeWhatsappDelivery (outbound : OutboundMessage)
  | materializeAttachments (attachments : List Json) (segment : String)
  | prepareOutbound (adapter : String) (outbound : OutboundMessage)
  | sendPreparedOutbound (adapter : String) (outbound : OutboundMessage)
      (prepared : Option PreparedOutbound) (context : StageContext)
  | sendOutbound (adapter : String) (outbound : OutboundMessage)
  | utcNowIso

abbrev Ans : Op → Type
  | .loadDeliveryRecord _ => StoreResult (Option DeliveryRecord)
  | .saveDeliveryRecord _ _ => StoreResult Unit
  | .resolveRoute _ => StoreResult (Option Json)
  | .persistDeliveryPlan _ _ _ _ => StoreResult Unit
  | .claimDeliveryMaterialization _ _ _ _ => StoreResult MaterializationClaim
  | .finishDeliveryMaterialization _ => StoreResult Unit
  | .claimDeliveryItem _ => StoreResult ItemClaim
  | .recordDeliveryItemUpload _ => StoreResult Unit
  | .finishDeliveryStage _ => StoreResult Unit
  | .finishDeliveryItem _ => StoreResult (Option String)
  | .retryableDeliveryPlans => StoreResult (List RetryablePlan)
  | .fleetCheck _ => Except GatewayError Selection
  | .fleetInvalidateIdentity _ => Except GatewayError Unit
  | .authorizeCameraAttachments _ => Except GatewayError Unit
  | .authorizeWhatsappDelivery _ => Except GatewayError Unit
  | .materializeAttachments _ _ => MaterializedAttachments
  | .prepareOutbound _ _ => Except GatewayError (Option PreparedOutbound)
  | .sendPreparedOutbound _ _ _ _ => Except GatewayError Json
  | .sendOutbound _ _ => Except GatewayError Json
  | .utcNowIso => String

/-! ## The shared world -/

structure World where
  now : Time
  issued : List Uuid
  ledger : Ledger
  records : Std.TreeMap String DeliveryRecord
  routes : Std.TreeMap String Json
  directory : Directory

/-- What the surroundings decide at one operation: the clock, the next UUID, whether the store
fails, and the replies of Beacon, the device and the provider. -/
structure Choice where
  now : Time
  token : Uuid
  failure : Option String
  authorization : Except GatewayError Unit
  materialized : MaterializedAttachments
  prepared : Except GatewayError (Option PreparedOutbound)
  sent : Except GatewayError Json
  timestamp : String

namespace World

def tick (world : World) (choice : Choice) : World :=
  { world with now := choice.now }

/-- The outcome of a ledger operation. A failing store writes nothing; a panic ends the task,
so the step does not exist. -/
def ledgerStep {α : Type} (world : World) (choice : Choice) (result : StoreResult (α × Ledger)) :
    Option (StoreResult α × World) :=
  match choice.failure with
  | some text => some (.error (.message text), world.tick choice)
  | none =>
      match result with
      | .ok (value, ledger) => some (.ok value, { world.tick choice with ledger })
      | .error (.message text) => some (.error (.message text), world.tick choice)
      | .error .panicked => none

/-- A step that draws a UUID never drawn before. -/
def draw (world : World) (choice : Choice) : Option World :=
  if choice.token ∈ world.issued then none
  else some { world with issued := choice.token :: world.issued }

def orFailure {α : Type} (choice : Choice) (result : StoreResult α) : StoreResult α :=
  match choice.failure with
  | some text => .error (.message text)
  | none => result

def loadDeliveryRecord (world : World) (idempotencyKey : String) : Option DeliveryRecord :=
  if Text.isBlank idempotencyKey then none else world.records[idempotencyKey]?

def saveDeliveryRecord (world : World) (choice : Choice) (idempotencyKey : String)
    (record : DeliveryRecord) : StoreResult Unit × World :=
  if Text.isBlank idempotencyKey then
    (.error (.message "idempotency_key is required"), world.tick choice)
  else
    match choice.failure with
    | some text => (.error (.message text), world.tick choice)
    | none =>
        (.ok (), { world.tick choice with records := world.records.insert idempotencyKey record })

def resolveRoute (world : World) (routeKey : String) : Option Json :=
  if Text.isBlank routeKey then none else world.routes[routeKey]?

/-- The directory keeps whole seconds. -/
def fleetNow (now : Time) : Int :=
  now / nanosPerSecond

def fleetCheck (host : FleetHost) (world : World) (choice : Choice) (outbound : OutboundMessage) :
    Except GatewayError Selection :=
  if choice.failure.isSome then .error NaviFleet.unavailable
  else NaviFleet.check host (fleetNow choice.now) outbound world.directory

def perform (host : FleetHost) (world : World) (op : Op) (choice : Choice) :
    Option (Ans op × World) :=
  if choice.now < world.now then none
  else
    match op with
    | .loadDeliveryRecord key =>
        some (orFailure choice (.ok (world.loadDeliveryRecord key)), world.tick choice)
    | .saveDeliveryRecord key record => some (world.saveDeliveryRecord choice key record)
    | .resolveRoute key =>
        some (orFailure choice (.ok (world.resolveRoute key)), world.tick choice)
    | .persistDeliveryPlan deliveryKey fingerprint plannedOutbound plannedItems =>
        world.ledgerStep choice
          ((HarborGate.persistDeliveryPlan choice.now deliveryKey fingerprint plannedOutbound
            plannedItems world.ledger).map fun ledger => ((), ledger))
    | .claimDeliveryMaterialization deliveryKey itemKey owner leaseSeconds =>
        (world.draw choice).bind fun world => world.ledgerStep choice
          (HarborGate.claimDeliveryMaterialization choice.now choice.token deliveryKey itemKey
            owner leaseSeconds world.ledger)
    | .finishDeliveryMaterialization completion =>
        world.ledgerStep choice
          ((HarborGate.finishDeliveryMaterialization choice.now completion world.ledger).map
            fun ledger => ((), ledger))
    | .claimDeliveryItem request =>
        (world.draw choice).bind fun world => world.ledgerStep choice
          (HarborGate.claimDeliveryItem choice.now choice.token request world.ledger)
    | .recordDeliveryItemUpload upload =>
        world.ledgerStep choice
          ((HarborGate.recordDeliveryItemUpload choice.now upload world.ledger).map
            fun ledger => ((), ledger))
    | .finishDeliveryStage completion =>
        world.ledgerStep choice
          ((HarborGate.finishDeliveryStage choice.now completion world.ledger).map
            fun ledger => ((), ledger))
    | .finishDeliveryItem completion =>
        world.ledgerStep choice
          (HarborGate.finishDeliveryItem choice.now completion world.ledger)
    | .retryableDeliveryPlans =>
        some (orFailure choice (.ok (HarborGate.retryableDeliveryPlans world.ledger)),
          world.tick choice)
    | .fleetCheck outbound => some (world.fleetCheck host choice outbound, world.tick choice)
    | .fleetInvalidateIdentity selection =>
        if choice.failure.isSome then some (.error NaviFleet.unavailable, world.tick choice)
        else some (.ok (), { world.tick choice with
          directory := NaviFleet.invalidateIdentity selection world.directory })
    | .authorizeCameraAttachments _ => some (choice.authorization, world.tick choice)
    | .authorizeWhatsappDelivery _ => some (choice.authorization, world.tick choice)
    | .materializeAttachments _ _ => some (choice.materialized, world.tick choice)
    | .prepareOutbound _ _ => some (choice.prepared, world.tick choice)
    | .sendPreparedOutbound _ _ _ _ => some (choice.sent, world.tick choice)
    | .sendOutbound _ _ => some (choice.sent, world.tick choice)
    | .utcNowIso => some (choice.timestamp, world.tick choice)

end World

/-! ## Pure helpers -/

def textItemIdentity : String := "item:v1:text"

def attachmentItemIdentity (artifactId : String) : String :=
  "item:v1:artifact:" ++ toString (Text.utf8Len artifactId) ++ ":" ++ artifactId

def deliveryItemKey (deliveryKey itemIdentity : String) : String :=
  "delivery:v1:" ++ toString (Text.utf8Len deliveryKey) ++ ":" ++ deliveryKey ++ ":" ++ itemIdentity

def deliveryArtifactId (artifact : Json) : Option String :=
  Text.trimmed ((((artifact.get "artifact_id").or (artifact.get "id")).or
    (artifact.pointer ["metadata", "harborlink_artifact_id"])).bind Json.asStr)

def deliveryItemRequiresMaterialization (adapterName : String) (outbound : OutboundMessage) :
    Bool :=
  (adapterName == "weixin" || adapterName == "whatsapp") &&
    match outbound.attachments with
    | [attachment] =>
        (((attachment.get "path").bind Json.asStr).all Text.isBlank) &&
          (((attachment.get "url").bind Json.asStr).any fun url => !Text.isBlank url)
    | _ => false

structure DeliveryItem where
  identity : String
  artifactId : String
  kind : String
  outbound : OutboundMessage

def textItem (outbound : OutboundMessage) : DeliveryItem where
  identity := textItemIdentity
  artifactId := "__text"
  kind := "text"
  outbound := outbound

def attachmentItem (outbound : OutboundMessage) (attachment : Json) (artifactId : String) :
    DeliveryItem where
  identity := attachmentItemIdentity artifactId
  artifactId := artifactId
  kind := Text.trim
    ((((attachment.get "kind").or (attachment.get "type")).bind Json.asStr).getD "file")
  outbound := { outbound with text := "", attachments := [attachment] }

/-- The loop over the attachments, with the artifact ids met so far. -/
def attachmentItems (outbound : OutboundMessage) (seen : List String) :
    List Json → Except GatewayError (List DeliveryItem)
  | [] => .ok []
  | attachment :: rest =>
      match deliveryArtifactId attachment with
      | none => attachmentItems outbound seen rest
      | some artifactId =>
          if artifactId ∈ seen then
            .error (GatewayError.new 422 "DUPLICATE_DELIVERY_ARTIFACT"
              ("duplicate artifact_id in delivery plan: " ++ artifactId))
          else
            (attachmentItems outbound (artifactId :: seen) rest).map
              (attachmentItem outbound attachment artifactId :: ·)

def splitOutboundItems (outbound : OutboundMessage) : Except GatewayError (List DeliveryItem) :=
  (attachmentItems outbound [] outbound.attachments).map fun attachments =>
    let items :=
      if Text.isBlank outbound.text then attachments
      else textItem { outbound with attachments := [] } :: attachments
    if items.isEmpty then [textItem outbound] else items

def planItem (adapter : Adapter) (deliveryKey : String) (item : DeliveryItem) : DeliveryPlanItem where
  itemKey := deliveryItemKey deliveryKey item.identity
  artifactId := item.artifactId
  kind := item.kind
  plannedOutbound := item.outbound
  materializationRequired := deliveryItemRequiresMaterialization adapter.name item.outbound

def nativeVideoFileFallback (outbound : OutboundMessage) : Option OutboundMessage :=
  match outbound.attachments with
  | [attachment] =>
      let isVideo := (attachment.get "kind").bind Json.asStr = some "video" ∨
        ((attachment.get "mime_type").bind Json.asStr).any (Text.startsWith · "video/")
      if (attachment.pointer ["metadata", "native_attachment_fallback"]).bind Json.asStr =
          some "file" ∧ isVideo then
        let file := match attachment with
          | .obj fields => .obj ((JsonMap.insert fields "kind" (.str "file")).insert "mime_type"
              (.str "application/octet-stream"))
          | other => other
        some { outbound with
          attachments := [file]
          metadata := outbound.metadata.insert "native_attachment_fallback_used" (.bool true) }
      else none
  | _ => none

def shouldFallbackToFile (error : GatewayError) : Bool :=
  error.code == "UNSUPPORTED_NATIVE_VIDEO" || error.code == "NATIVE_MEDIA_PRE_SEND_FAILED"

def authFailureWords : List String :=
  ["not configured", "authorization", "auth", "permission", "scope", "forbidden", "unauthorized"]

def mapDeliveryFailure (message : String) : String × Bool :=
  let lower := Text.toLowercase message
  if Text.contains lower "context_token" then ("INVALID_RECIPIENT", false)
  else if authFailureWords.any (Text.contains lower) then ("PROVIDER_AUTH_FAILED", false)
  else if Text.contains lower "unsupported" then ("UNSUPPORTED_CONTENT", false)
  else ("PLATFORM_UNAVAILABLE", true)

/-- The message id a successful send leaves in the ledger. -/
def ledgerMessageId (response : Json) : Option String :=
  (((response.get "provider_message_id").or (response.get "message_id")).bind Json.asStr).filter
    (!Text.isBlank ·)

def responseMediaId (response : Json) : Option String :=
  ((response.get "provider_media_id").or (response.get "media_id")).bind Json.asStr

def responseClientId (response : Json) : Option String :=
  (response.get "provider_client_id").bind Json.asStr

def preparedMediaId (prepared : Option PreparedOutbound) : Option String :=
  prepared.map (·.providerMediaId)

def preparedClientId (prepared : Option PreparedOutbound) : Option String :=
  prepared.bind (·.providerClientId)

/-- The answer rebuilt for an item that the ledger already holds as succeeded. -/
def ledgerResponse (item : LedgerItem) : Json :=
  .obj [("message_id", Json.ofOption item.providerMessageId),
    ("provider_client_id", Json.ofOption item.providerClientId),
    ("provider_media_id", Json.ofOption item.providerMediaId),
    ("provider_message_id", Json.ofOption item.providerMessageId)]

/-- The upload an earlier attempt recorded for this stage. -/
def resumedUpload (item : LedgerItem) (stage : Stage) : Option PreparedOutbound :=
  let ofStage := (item.stage stage).bind fun record =>
    (Text.trimmed record.providerMediaId).map fun mediaId =>
      { providerMediaId := mediaId
        providerClientId := Text.trimmed record.providerClientId
        state := record.providerMediaState }
  match stage with
  | .fallback => ofStage
  | .native => ofStage.or ((Text.trimmed item.providerMediaId).map fun mediaId =>
      { providerMediaId := mediaId
        providerClientId := Text.trimmed item.providerClientId
        state := item.providerMediaState })

/-- The item message as it is sent: tagged with its delivery and item keys. -/
def tagOutbound (deliveryKey itemKey : String) (outbound : OutboundMessage) : OutboundMessage :=
  let attachments := match outbound.attachments with
    | .obj fields :: rest =>
        match JsonMap.get fields "metadata" with
        | some (.obj metadata) =>
            .obj (JsonMap.insert fields "metadata"
              (.obj (JsonMap.insert metadata "delivery_item_key" (.str itemKey)))) :: rest
        | _ => .obj fields :: rest
    | other => other
  { outbound with
    attachments
    metadata := (outbound.metadata.insert "delivery_key" (.str deliveryKey)).insert
      "delivery_item_key" (.str itemKey) }

def isCameraArtifact (artifact : Json) : Bool :=
  ((artifact.index "url").asStr).any (Text.contains · "/api/cameras/recordings/artifacts/")

def StoreError.text : StoreError → String
  | .message text => text
  | .panicked => ""

/-! ## The delivery program -/

/-- One gateway process: which adapters it runs, and whether a Navi fleet and a Beacon client
are configured. -/
structure Gateway where
  instanceId : String
  adapters : List Adapter
  fleet : Bool
  taskClient : Bool

abbrev Routine (α : Type) := Prog Op Ans α

abbrev Gate (α : Type) := Fallible GatewayError Op Ans α

def query (op : Op) : Routine (Ans op) :=
  Prog.perform op

/-- An operation inside a function with error returns; its own outcome is not yet looked at. -/
def ask (op : Op) : Gate (Ans op) :=
  ExceptT.lift (query op)

/-- A call whose `Result` is matched on instead of being propagated. -/
def attempt {α : Type} (call : Gate α) : Gate (Except GatewayError α) :=
  ExceptT.lift call.run

/-- The `?` operator on a `Result<_, GatewayError>`. -/
def propagate {α : Type} (result : Except GatewayError α) : Gate α :=
  ExceptT.mk (pure result)

/-- `map_err(|error| GatewayError::infrastructure(error.to_string()))`. -/
def storeFailure (error : StoreError) : GatewayError :=
  GatewayError.infrastructure error.text

def fromStore {α : Type} (result : StoreResult α) : Gate α :=
  propagate (result.mapError storeFailure)

/-- The client for an outbound message; which device it talks to is left to the surroundings. -/
def outboundTaskClient (gateway : Gateway) (outbound : OutboundMessage) : Gate Unit :=
  if outbound.platform = "whatsapp" ∧ gateway.fleet then do
    let selection ← propagate (← ask (.fleetCheck outbound))
    propagate (NaviFleet.ensure (NaviFleet.validIdentity selection.hubIdentity)
      (GatewayError.validation "Invalid Navi relay request"))
    propagate (NaviFleet.ensure (NaviFleet.validHubId selection.hubId)
      (GatewayError.validation "Invalid selected Navi"))
  else if outbound.platform = "whatsapp" ∧ (outbound.metadata.get "navi_selection").isSome then
    throw (GatewayError.infrastructure "Navi routing is temporarily unavailable")
  else if gateway.taskClient then pure ()
  else throw (GatewayError.infrastructure "WhatsApp delivery check is temporarily unavailable")

def authorizeCameraDelivery (gateway : Gateway) (outbound : OutboundMessage) : Gate Unit :=
  match outbound.attachments.filter isCameraArtifact with
  | [] => pure ()
  | cameras => do
      outboundTaskClient gateway outbound
      propagate (← ask (.authorizeCameraAttachments cameras))

def checkSelection (gateway : Gateway) (outbound : OutboundMessage) : Gate Unit :=
  if gateway.fleet then do
    let _ ← propagate (← ask (.fleetCheck outbound))
    return ()
  else return ()

/-- The checks of `authorize_delivery_context` before its identity clean-up. -/
def authorizeDelivery (gateway : Gateway) (outbound : OutboundMessage) : Gate Unit := do
  authorizeCameraDelivery gateway outbound
  if outbound.platform = "whatsapp" then
    outboundTaskClient gateway outbound
    propagate (← ask (.authorizeWhatsappDelivery outbound))
    checkSelection gateway outbound
  else return ()

def authorizeDeliveryContext (gateway : Gateway) (outbound : OutboundMessage) : Gate Unit := do
  match ← attempt (authorizeDelivery gateway outbound) with
  | .ok () => return ()
  | .error error =>
      if error.code = "NAVI_IDENTITY_CHANGED" ∧ gateway.fleet then
        match (outbound.metadata.get "navi_selection").bind Selection.ofJson with
        | none => throw error
        | some selection =>
            propagate (← ask (.fleetInvalidateIdentity selection))
            throw error
      else throw error

def stageSuccess (context : StageContext) (prepared : Option PreparedOutbound) (response : Json) :
    DeliveryStageCompletion where
  deliveryKey := context.deliveryKey
  itemKey := context.itemKey
  claimToken := context.claimToken
  stage := context.stage
  status := .succeeded
  providerMediaId := (responseMediaId response).or (preparedMediaId prepared)
  providerClientId := (responseClientId response).or (preparedClientId prepared)
  providerMessageId := ledgerMessageId response
  retryable := false
  lastError := none

def stageFailure (context : StageContext) (prepared : Option PreparedOutbound)
    (error : GatewayError) : DeliveryStageCompletion where
  deliveryKey := context.deliveryKey
  itemKey := context.itemKey
  claimToken := context.claimToken
  stage := context.stage
  status := if shouldFallbackToFile error then .unsupported else .failed
  providerMediaId := preparedMediaId prepared
  providerClientId := preparedClientId prepared
  providerMessageId := none
  retryable := !shouldFallbackToFile error && (mapDeliveryFailure error.message).2
  lastError := some error.message

abbrev StageOutcome := Except GatewayError Json × Option PreparedOutbound

/-- The end of `send_delivery_stage`: the ledger learns the outcome before the caller does. -/
def completeStage (context : StageContext) (prepared : Option PreparedOutbound)
    (result : Except GatewayError Json) : Routine StageOutcome := do
  let completion := match result with
    | .ok response => stageSuccess context prepared response
    | .error error => stageFailure context prepared error
  match ← query (.finishDeliveryStage completion) with
  | .ok () => return (result, prepared)
  | .error error => return (.error (storeFailure error), prepared)

def sendAuthorized (gateway : Gateway) (adapter : Adapter) (outbound : OutboundMessage)
    (prepared : Option PreparedOutbound) (context : StageContext) : Routine (Except GatewayError Json) := do
  match ← (authorizeDeliveryContext gateway outbound).run with
  | .ok () => query (.sendPreparedOutbound adapter.name outbound prepared context)
  | .error error => return .error error

def stageUpload (context : StageContext) (value : PreparedOutbound) : DeliveryItemUpload where
  deliveryKey := context.deliveryKey
  itemKey := context.itemKey
  claimToken := context.claimToken
  stage := context.stage
  providerMediaId := value.providerMediaId
  providerMediaState := value.state
  providerClientId := value.providerClientId

/-- The branch of `send_delivery_stage` without an earlier upload. -/
def prepareAndSend (gateway : Gateway) (adapter : Adapter) (outbound : OutboundMessage)
    (context : StageContext) : Routine StageOutcome := do
  match ← query (.prepareOutbound adapter.name outbound) with
  | .error error => completeStage context none (.error error)
  | .ok none =>
      let result ← sendAuthorized gateway adapter outbound none context
      completeStage context none result
  | .ok (some value) =>
      match ← query (.recordDeliveryItemUpload (stageUpload context value)) with
      | .error error => return (.error (storeFailure error), some value)
      | .ok () =>
          let result ← sendAuthorized gateway adapter outbound (some value) context
          completeStage context (some value) result

def sendDeliveryStage (gateway : Gateway) (adapter : Adapter) (outbound : OutboundMessage)
    (item : LedgerItem) (context : StageContext) : Routine StageOutcome := do
  let prepared := resumedUpload item context.stage
  match ← (authorizeDeliveryContext gateway outbound).run with
  | .error error => completeStage context prepared (.error error)
  | .ok () =>
      match prepared with
      | none => prepareAndSend gateway adapter outbound context
      | some value =>
          let result ← query
            (.sendPreparedOutbound adapter.name outbound (some value) context)
          completeStage context (some value) result

structure SendOutcome where
  result : Except GatewayError Json
  prepared : Option PreparedOutbound
  fallbackUsed : Bool

def sendStages (gateway : Gateway) (adapter : Adapter) (outbound : OutboundMessage)
    (item : LedgerItem) (deliveryKey itemKey : String) (token : Uuid) : Routine SendOutcome := do
  let context (stage : Stage) : StageContext :=
    { deliveryKey, itemKey, claimToken := token, stage }
  let fallbackOutbound := nativeVideoFileFallback outbound
  if item.native.map (·.status) = some .unsupported then
    match fallbackOutbound with
    | some fallback =>
        let (result, prepared) ← sendDeliveryStage gateway adapter fallback item (context .fallback)
        return { result, prepared, fallbackUsed := true }
    | none =>
        return {
          result := .error (GatewayError.infrastructure
            "native delivery is unsupported and no fallback is available")
          prepared := none
          fallbackUsed := false }
  else
    let (nativeResult, nativePrepared) ←
      sendDeliveryStage gateway adapter outbound item (context .native)
    match nativeResult, fallbackOutbound with
    | .error error, some fallback =>
        if shouldFallbackToFile error then
          let (result, prepared) ←
            sendDeliveryStage gateway adapter fallback item (context .fallback)
          return { result, prepared, fallbackUsed := true }
        else return { result := .error error, prepared := nativePrepared, fallbackUsed := false }
    | result, _ => return { result, prepared := nativePrepared, fallbackUsed := false }

def itemSuccess (deliveryKey itemKey : String) (token : Uuid) (outcome : SendOutcome)
    (response : Json) : DeliveryItemCompletion where
  deliveryKey := deliveryKey
  itemKey := itemKey
  claimToken := token
  status := .succeeded
  providerMediaId :=
    ((responseMediaId response).filter (!Text.isBlank ·)).or (preparedMediaId outcome.prepared)
  providerClientId :=
    ((responseClientId response).filter (!Text.isBlank ·)).or (preparedClientId outcome.prepared)
  providerMessageId := ledgerMessageId response
  retryable := false
  lastError := none
  fallbackUsed := outcome.fallbackUsed

def itemFailure (deliveryKey itemKey : String) (token : Uuid) (outcome : SendOutcome)
    (error : GatewayError) : DeliveryItemCompletion where
  deliveryKey := deliveryKey
  itemKey := itemKey
  claimToken := token
  status := .failed
  providerMediaId := preparedMediaId outcome.prepared
  providerClientId := preparedClientId outcome.prepared
  providerMessageId := none
  retryable := (mapDeliveryFailure error.message).2
  lastError := some error.message
  fallbackUsed := outcome.fallbackUsed

/-! ## Materialization of one item -/

def materializationFailure (deliveryKey itemKey : String) (token : Uuid) (message : String)
    (retryable : Bool) : DeliveryMaterializationCompletion where
  deliveryKey := deliveryKey
  itemKey := itemKey
  claimToken := token
  status := .failed
  materializedOutbound := none
  cachePath := none
  retryable := retryable
  lastError := some message

def materializationSuccess (deliveryKey itemKey : String) (token : Uuid)
    (outbound : OutboundMessage) (cachePath : String) : DeliveryMaterializationCompletion where
  deliveryKey := deliveryKey
  itemKey := itemKey
  claimToken := token
  status := .materialized
  materializedOutbound := some outbound
  cachePath := some cachePath
  retryable := true
  lastError := none

/-- Records the failure, then returns `error`; a store failure takes its place. -/
def failMaterialization {α : Type} (completion : DeliveryMaterializationCompletion)
    (error : GatewayError) : Gate α := do
  fromStore (← ask (.finishDeliveryMaterialization completion))
  throw error

def firstPath (outbound : OutboundMessage) : Option String :=
  outbound.attachments.head?.bind fun attachment => (attachment.get "path").bind Json.asStr

/-- A WhatsApp item is authorized before its media is fetched. -/
def authorizeMaterialization (gateway : Gateway) (deliveryKey itemKey : String) (token : Uuid)
    (plannedOutbound : OutboundMessage) : Gate Unit :=
  if plannedOutbound.platform = "whatsapp" then do
    match ← attempt (authorizeDeliveryContext gateway plannedOutbound) with
    | .ok () => return ()
    | .error error =>
        failMaterialization (materializationFailure deliveryKey itemKey token error.message
          (mapDeliveryFailure error.message).2) error
  else return ()

/-- `materialize_delivery_item` once the nested claim is granted. -/
def materializeClaimed (gateway : Gateway) (segment : String → String)
    (deliveryKey itemKey : String) (token : Uuid) (plannedOutbound : OutboundMessage) :
    Gate OutboundMessage := do
  authorizeMaterialization gateway deliveryKey itemKey token plannedOutbound
  match ← attempt (outboundTaskClient gateway plannedOutbound) with
  | .error _ =>
      failMaterialization (materializationFailure deliveryKey itemKey token
        "HarborBeacon media proxy is not configured" true)
        (GatewayError.infrastructure "HarborBeacon media proxy is not configured")
  | .ok () =>
      let materialized ← ask (.materializeAttachments plannedOutbound.attachments
        (segment deliveryKey))
      if 0 < materialized.failedCount ∨ materialized.attachments.length ≠ 1 then
        failMaterialization (materializationFailure deliveryKey itemKey token
          "media attachment materialization failed" true)
          (GatewayError.infrastructure "media attachment materialization failed")
      else
        let outbound := { plannedOutbound with attachments := materialized.attachments }
        match firstPath outbound with
        | none =>
            throw (GatewayError.infrastructure
              "materialized delivery item is missing its trusted cache path")
        | some cachePath =>
            fromStore (← ask (.finishDeliveryMaterialization
              (materializationSuccess deliveryKey itemKey token outbound cachePath)))
            return outbound

def materializeDeliveryItem (gateway : Gateway) (segment : String → String) (adapter : Adapter)
    (deliveryKey itemKey : String) (plannedOutbound : OutboundMessage) : Gate OutboundMessage := do
  if deliveryItemRequiresMaterialization adapter.name plannedOutbound then
    let claim ← fromStore (← ask (.claimDeliveryMaterialization deliveryKey itemKey
      gateway.instanceId adapter.leaseSeconds))
    match claim with
    | .materialized item =>
        propagate (NaviFleet.require item.materializedOutbound (GatewayError.infrastructure
          "materialized delivery item is missing its outbound payload"))
    | .notRequired _ => return plannedOutbound
    | .terminalFailed item =>
        throw (GatewayError.new 422 "DELIVERY_MATERIALIZATION_TERMINAL_FAILED"
          ((item.materialization.bind (·.lastError)).getD
            "delivery materialization previously failed terminally"))
    | .busy _ =>
        throw (GatewayError.infrastructure "delivery item is already being materialized")
    | .claimed token _ =>
        materializeClaimed gateway segment deliveryKey itemKey token plannedOutbound
  else return plannedOutbound

/-! ## The plan -/

def persistFailure (error : StoreError) : GatewayError :=
  if Text.contains error.text "conflict" then
    GatewayError.new 409 "IDEMPOTENCY_CONFLICT"
      "delivery key was reused with a different effective plan"
  else storeFailure error

def claimFailure (error : StoreError) : GatewayError :=
  if Text.contains error.text "fingerprint conflict" ∨
      Text.contains error.text "identity conflict" then
    GatewayError.new 409 "IDEMPOTENCY_CONFLICT"
      "delivery key was reused with a different effective request"
  else storeFailure error

def terminalFailure (item : LedgerItem) : GatewayError :=
  (GatewayError.new 422 "DELIVERY_TERMINAL_FAILED"
    ((Text.trimmed item.lastError).getD "delivery item previously failed terminally")
    ).withDeliveryFailure item.providerMessageId

def claimRequest (gateway : Gateway) (adapter : Adapter) (deliveryKey fingerprint itemKey : String)
    (item : DeliveryItem) (outbound : OutboundMessage) : DeliveryItemClaimRequest where
  deliveryKey := deliveryKey
  requestFingerprint := fingerprint
  itemKey := itemKey
  artifactId := item.artifactId
  kind := item.kind
  owner := gateway.instanceId
  cachePath := Text.trimmed (firstPath outbound)
  leaseSeconds := adapter.leaseSeconds

/-- The rest of one loop round once the item claim is granted. -/
def deliverClaimed (gateway : Gateway) (adapter : Adapter) (deliveryKey itemKey : String)
    (token : Uuid) (item : LedgerItem) (outbound : OutboundMessage) : Gate Json := do
  let outcome ← ExceptT.lift
    (sendStages gateway adapter (tagOutbound deliveryKey itemKey outbound) item deliveryKey itemKey
      token)
  match outcome.result with
  | .ok response =>
      let _ ← fromStore (← ask (.finishDeliveryItem
        (itemSuccess deliveryKey itemKey token outcome response)))
      return response
  | .error error =>
      let _ ← fromStore (← ask (.finishDeliveryItem
        (itemFailure deliveryKey itemKey token outcome error)))
      throw error

/-- One round of the loop over the planned items: the response it leaves as the last one. -/
def deliverItem (gateway : Gateway) (segment : String → String) (adapter : Adapter)
    (deliveryKey fingerprint : String) (item : DeliveryItem) : Gate Json := do
  let itemKey := deliveryItemKey deliveryKey item.identity
  let outbound ← materializeDeliveryItem gateway segment adapter deliveryKey itemKey item.outbound
  let claim ← propagate ((← ask (.claimDeliveryItem
    (claimRequest gateway adapter deliveryKey fingerprint itemKey item outbound))).mapError
      claimFailure)
  match claim with
  | .succeeded stored => return ledgerResponse stored
  | .terminalFailed stored => throw (terminalFailure stored)
  | .busy _ => throw (GatewayError.infrastructure "delivery item is already being sent")
  | .claimed token stored _ =>
      deliverClaimed gateway adapter deliveryKey itemKey token stored outbound

def deliverItems (gateway : Gateway) (segment : String → String) (adapter : Adapter)
    (deliveryKey fingerprint : String) : List DeliveryItem → Json → Gate Json
  | [], last => return last
  | item :: rest, _ => do
      let response ← deliverItem gateway segment adapter deliveryKey fingerprint item
      deliverItems gateway segment adapter deliveryKey fingerprint rest response

/-- `segment` is `delivery_idempotency_cache_segment`, a digest of the delivery key. -/
def deliverOutboundItemsGuarded (gateway : Gateway) (segment : String → String) (adapter : Adapter)
    (outbound : OutboundMessage) (deliveryKey fingerprint : String) : Gate Json := do
  if Text.isBlank deliveryKey then
    if outbound.platform = "whatsapp" then
      throw (GatewayError.new 403 "IM_DELIVERY_NOT_ALLOWED"
        "WhatsApp delivery permission requires a persistent delivery reference")
    else
      authorizeDeliveryContext gateway outbound
      propagate (← ask (.sendOutbound adapter.name outbound))
  else
    let items ← propagate (splitOutboundItems outbound)
    propagate ((← ask (.persistDeliveryPlan deliveryKey fingerprint outbound
      (items.map (planItem adapter deliveryKey)))).mapError persistFailure)
    deliverItems gateway segment adapter deliveryKey fingerprint items (.obj [])

end HarborGate
