import Std.Data.TreeMap
import HarborGate.Models

/-!
The Navi directory `routes.json` of `navi_fleet.rs`. Each operation is one transaction under
the directory's file lock: it reads the directory, and writes it back unless it fails. `now`
is the transaction's clock reading in whole seconds; `begin` also reads the clock before it waits
for the lock.
-/

namespace HarborGate

structure Selection where
  hubId : String
  hubIdentity : String
  bindingId : String
  generation : String
  selectedAt : Int
deriving DecidableEq, Repr

structure Pending where
  id : String
  hubId : String
  token : String
  recipient : String
  routeKey : String
  occurredAt : String
  expiresAt : Int
  nextPoll : Int
  sessionId : Option String
  hubIdentity : Option String
deriving DecidableEq, Repr

inductive RouteStatus
  | paused
  | active
  | retired
deriving DecidableEq, Repr

def RouteStatus.text : RouteStatus → String
  | .paused => "paused"
  | .active => "active"
  | .retired => "retired"

structure RouteUpdate where
  selection : Selection
  recipient : String
  routeKey : String
  revision : Nat
  status : RouteStatus
  issuedAt : Int
  nextPoll : Int

structure Route where
  active : Option Selection
  pending : Option Pending
  seen : Std.TreeMap String Int
  newestProofAt : Int
  recipient : String
  routeKey : String
  revision : Nat
  updates : Std.TreeMap String RouteUpdate
  notificationNextPoll : Int

def Route.default : Route where
  active := none
  pending := none
  seen := ∅
  newestProofAt := 0
  recipient := ""
  routeKey := ""
  revision := 0
  updates := ∅
  notificationNextPoll := 0

abbrev Directory := Std.TreeMap String Route

/-- What the directory takes from other crates: SHA-256 over two JSON array shapes, and the
Unix second of an RFC 3339 text. -/
structure FleetHost where
  key : String → String → String
  proofId : String → String → String
  timestamp : String → Option Int

abbrev FleetResult := Except GatewayError

namespace NaviFleet

def unavailable : GatewayError :=
  GatewayError.infrastructure "Navi routing is temporarily unavailable"

def denied : GatewayError :=
  GatewayError.new 403 "IM_DELIVERY_NOT_ALLOWED"
    "Navi selection permission no longer permits this delivery"

def ensure (condition : Prop) [Decidable condition] (error : GatewayError) : FleetResult Unit :=
  if condition then .ok () else .error error

def require {α : Type} (value : Option α) (error : GatewayError) : FleetResult α :=
  match value with
  | some present => .ok present
  | none => .error error

def isHexText (text : String) : Bool :=
  Text.allChars Text.isAsciiHexdigit text

def validHubId (hub : String) : Bool :=
  3 ≤ Text.utf8Len hub && Text.utf8Len hub ≤ 64 &&
    Text.allChars (fun c => c.isAlphanum || c == '_' || c == '-') hub

def validProofId (value : String) : Bool :=
  (Text.utf8Len value == 32 || Text.utf8Len value == 64) && isHexText value

def validIdentity (identity : String) : Bool :=
  Text.utf8Len identity == 64 && isHexText identity

end NaviFleet

/-- The first element of least measure, as `Iterator::min_by_key` picks it. -/
def minByKey {α : Type} (measure : α → Int) : List α → Option α
  | [] => none
  | first :: rest =>
      match minByKey measure rest with
      | none => some first
      | some least => if measure least < measure first then some least else some first

/-! ## Selections in message metadata -/

def Selection.toJson (selection : Selection) : Json :=
  .obj [("binding_id", .str selection.bindingId), ("generation", .str selection.generation),
    ("hub_id", .str selection.hubId), ("hub_identity", .str selection.hubIdentity),
    ("selected_at", .num selection.selectedAt)]

/-- `serde_json::from_value::<Selection>`: an object with the five fields, others ignored, or
an array of exactly the five values. -/
def Selection.ofJson : Json → Option Selection
  | .obj fields => do
      let hubId ← (JsonMap.get fields "hub_id").bind Json.asStr
      let hubIdentity ← (JsonMap.get fields "hub_identity").bind Json.asStr
      let bindingId ← (JsonMap.get fields "binding_id").bind Json.asStr
      let generation ← (JsonMap.get fields "generation").bind Json.asStr
      let selectedAt ← (JsonMap.get fields "selected_at").bind Json.asI64
      return { hubId, hubIdentity, bindingId, generation, selectedAt }
  | .arr [hubId, hubIdentity, bindingId, generation, selectedAt] => do
      let hubId ← hubId.asStr
      let hubIdentity ← hubIdentity.asStr
      let bindingId ← bindingId.asStr
      let generation ← generation.asStr
      let selectedAt ← selectedAt.asI64
      return { hubId, hubIdentity, bindingId, generation, selectedAt }
  | _ => none

namespace NaviFleet

/-! ## Operations -/

def maxRevision : Nat := 9007199254740991

def queueRouteUpdate (now : Int) (status : RouteStatus) (route : Route) : FleetResult Route :=
  match route.active with
  | none => .ok route
  | some selection =>
      if route.recipient = "" ∨ route.routeKey = "" then .ok route
      else if 64 ≤ route.updates.size ∧ ¬route.updates.contains selection.generation then
        .error unavailable
      else if maxRevision < route.revision + 1 then .error unavailable
      else .ok { route with
        revision := route.revision + 1
        updates := route.updates.insert selection.generation
          { selection
            recipient := route.recipient
            routeKey := route.routeKey
            revision := route.revision + 1
            status := status
            issuedAt := now
            nextPoll := 0 } }

def Selection.matches (selection item : Selection) : Bool :=
  item.hubId == selection.hubId && item.hubIdentity == selection.hubIdentity

def invalidateRoute (selection : Selection) (route : Route) : Route :=
  { route with
    active := route.active.filter (!Selection.matches selection ·)
    pending := route.pending.filter fun item =>
      !(item.hubId == selection.hubId &&
        item.hubIdentity.all (· == selection.hubIdentity))
    updates := route.updates.filter fun _ update => !Selection.matches selection update.selection }

def invalidateIdentity (selection : Selection) (directory : Directory) : Directory :=
  directory.map fun _ route => invalidateRoute selection route

/-- The proof has not lapsed: `expires_at > now()`. -/
def Pending.isOpen (now : Int) (pending : Pending) : Bool :=
  now < pending.expiresAt

def Route.hasOpenProof (now : Int) (route : Route) : Bool :=
  route.pending.any (Pending.isOpen now)

def isNotificationCandidate (now : Int) (route : Route) : Bool :=
  route.active.isSome && route.recipient ≠ "" && route.routeKey ≠ "" &&
    route.notificationNextPoll ≤ now && !Route.hasOpenProof now route

def notificationScope (selection : Selection) (route : Route) : Json :=
  .obj [("binding_id", .str selection.bindingId), ("generation", .str selection.generation),
    ("recipient", .str route.recipient), ("route_key", .str route.routeKey)]

def notificationTarget (now : Int) (directory : Directory) :
    FleetResult (Option (Selection × Json) × Directory) :=
  match minByKey (fun entry => entry.2.notificationNextPoll)
      (directory.toList.filter fun entry => isNotificationCandidate now entry.2) with
  | none => .ok (none, directory)
  | some (name, route) => do
      let selection ← require route.active denied
      return (some (selection, notificationScope selection route),
        directory.insert name { route with notificationNextPoll := now + 15 })

/-- The checks of `begin` before its transaction, at their own clock reading: the named hub, its
token and the second at which the message occurred. -/
def readProof (host : FleetHost) (now : Int) (incoming : InboundMessage) :
    FleetResult (String × String × Int) := do
  let message ← require (Text.stripLead (Text.trim incoming.text) "NAVI ") denied
  let (hub, token) ← require (Text.splitOnce message '.') denied
  let occurred ← require (host.timestamp incoming.timestamp) denied
  ensure (validHubId hub ∧ Text.utf8Len token = 64 ∧ isHexText token ∧
    incoming.platform = "whatsapp" ∧ incoming.chatType = "p2p" ∧
    incoming.chatId = incoming.userId ∧
    7 ≤ Text.utf8Len incoming.userId ∧ Text.utf8Len incoming.userId ≤ 15 ∧
    Text.allChars Text.isAsciiDigit incoming.userId ∧
    incoming.routeKey ≠ "" ∧ Text.utf8Len incoming.routeKey ≤ 256 ∧ incoming.messageId ≠ "" ∧
    now - 300 < occurred ∧ occurred ≤ now + 60) denied
  return (hub, token, occurred)

/-- The route of a `begin` once the sender's coordinates are refreshed and lapsed proof ids
forgotten. -/
def refreshRoute (now : Int) (incoming : InboundMessage) (route : Route) : Route :=
  { route with
    recipient := incoming.userId
    routeKey := incoming.routeKey
    seen := route.seen.filter fun _ expiry => now < expiry }

def acceptProof (host : FleetHost) (now : Int) (incoming : InboundMessage)
    (proof : String × String × Int) (route : Route) : Route :=
  let (hub, token, occurred) := proof
  let id := host.proofId hub token
  { route with
    seen := route.seen.insert id (occurred + 360)
    newestProofAt := occurred
    pending := some
      { id
        hubId := hub
        token := token
        recipient := incoming.userId
        routeKey := incoming.routeKey
        occurredAt := incoming.timestamp
        expiresAt := min (occurred + 300) (now + 300)
        nextPoll := 0
        sessionId := none
        hubIdentity := none } }

def begin (host : FleetHost) (checkedAt now : Int) (incoming : InboundMessage)
    (directory : Directory) : FleetResult Directory := do
  let (hub, token, occurred) ← readProof host checkedAt incoming
  let name := host.key incoming.userId incoming.routeKey
  ensure (¬(4096 ≤ directory.size ∧ ¬directory.contains name)) unavailable
  let route := refreshRoute now incoming (directory[name]?.getD Route.default)
  if route.seen.contains (host.proofId hub token) then
    return directory.insert name route
  ensure (¬(occurred < route.newestProofAt ∨ 64 ≤ route.seen.size)) denied
  let route ← queueRouteUpdate now .paused
    (acceptProof host now incoming (hub, token, occurred) route)
  return directory.insert name route

def dropLapsedProof (now : Int) (route : Route) : FleetResult Route :=
  if route.pending.any (fun pending => pending.expiresAt ≤ now) then
    queueRouteUpdate now .active { route with pending := none }
  else .ok route

/-- One pass of `for route in state.routes.values_mut()` with a fallible body. -/
def updateRoutes (update : Route → FleetResult Route) (directory : Directory) :
    FleetResult Directory :=
  directory.toList.foldlM (fun routes entry => do
    let route ← update entry.2
    return routes.insert entry.1 route) directory

def claim (now : Int) (directory : Directory) : FleetResult (Option Pending × Directory) := do
  let directory ← updateRoutes (dropLapsedProof now) directory
  let due := directory.toList.filterMap fun entry =>
    (entry.2.pending.filter (·.nextPoll ≤ now)).map fun pending => (entry.1, entry.2, pending)
  match minByKey (fun entry => entry.2.2.nextPoll) due with
  | none => return (none, directory)
  | some (name, route, pending) =>
      let polled := { pending with nextPoll := now + 10 }
      return (some polled, directory.insert name { route with pending := some polled })

/-- The part of `finish` for a device that answered 200 to a proof still open: the proof as
this answer pins it. -/
def pinProof (now : Int) (proof : Json) (identity : String) (current : Pending) :
    FleetResult (String × Pending) := do
  ensure (validIdentity identity ∧ current.hubIdentity.all (· == identity)) unavailable
  let session ← require (((proof.index "session_id").asStr).filter validProofId) unavailable
  let expires ← require (((proof.index "expires_at").asI64).filter (now < ·)) unavailable
  ensure (current.sessionId.all (· == session)) unavailable
  return (session, { current with
    hubIdentity := some identity
    sessionId := some session
    expiresAt := min current.expiresAt expires })

def bindProof (host : FleetHost) (now : Int) (generation : String) (pending : Pending)
    (proof : Json) (identity session : String) (current : Pending) (route : Route) :
    FleetResult Route := do
  let occurred ← require (host.timestamp current.occurredAt) unavailable
  ensure ((proof.index "binding_id").asStr = some session ∧
    (proof.index "confirmed_at").asI64.any (fun at_ => occurred ≤ at_ ∧ at_ ≤ now + 60))
    unavailable
  let route ← queueRouteUpdate now .retired { route with pending := some current }
  queueRouteUpdate now .active { route with
    active := some
      { hubId := pending.hubId
        hubIdentity := identity
        bindingId := session
        generation := generation
        selectedAt := now }
    pending := none }

def finishRoute (host : FleetHost) (now : Int) (generation : String) (pending : Pending)
    (status : Nat) (proof : Json) (identity : String) (current : Pending) (route : Route) :
    FleetResult Route := do
  if current.expiresAt ≤ now ∨ status ∈ [400, 401, 403, 404, 410, 422] then
    queueRouteUpdate now .active { route with pending := none }
  else
    ensure (status = 200) unavailable
    let (session, pinned) ← pinProof now proof identity current
    match (proof.index "status").asStr with
    | some "awaiting_owner_confirmation" =>
        return { route with pending := some { pinned with nextPoll := now + 1 } }
    | some "bound" => bindProof host now generation pending proof identity session pinned route
    | _ => throw unavailable

def finish (host : FleetHost) (now : Int) (generation : String) (pending : Pending)
    (status : Nat) (proof : Json) (identity : String) (directory : Directory) :
    FleetResult Directory := do
  let name := host.key pending.recipient pending.routeKey
  let route ← require directory[name]? unavailable
  match route.pending.filter (·.id = pending.id) with
  | none => return directory
  | some current =>
      let route ← finishRoute host now generation pending status proof identity current route
      return directory.insert name route

def select (host : FleetHost) (now : Int) (incoming : InboundMessage) (directory : Directory) :
    FleetResult Selection := do
  let route ← require directory[host.key incoming.userId incoming.routeKey]? denied
  ensure (¬Route.hasOpenProof now route) unavailable
  let selection ← require route.active denied
  let occurred ← require (host.timestamp incoming.timestamp) denied
  ensure (incoming.platform = "whatsapp" ∧ incoming.chatId = incoming.userId ∧
    incoming.chatType = "p2p" ∧ selection.selectedAt < occurred ∧ occurred ≤ now + 60) denied
  return selection

/-- The selection and the route coordinates a message carries. -/
def claimedSelection (outbound : OutboundMessage) : FleetResult (Selection × String) := do
  let value ← require (outbound.metadata.get "navi_selection") denied
  let original ← require (Selection.ofJson value) denied
  let route ← require ((outbound.metadata.get "route_key").bind Json.asStr) denied
  return (original, route)

def check (host : FleetHost) (now : Int) (outbound : OutboundMessage) (directory : Directory) :
    FleetResult Selection := do
  let (original, routeKey) ← claimedSelection outbound
  let route ← require directory[host.key outbound.chatId routeKey]? denied
  ensure (¬Route.hasOpenProof now route) unavailable
  ensure (route.active = some original) denied
  return original

def claimRouteUpdate (now : Int) (directory : Directory) : Option RouteUpdate × Directory :=
  let due := directory.toList.flatMap fun entry =>
    (entry.2.updates.toList.filter fun update => update.2.nextPoll ≤ now).map fun update =>
      (entry.1, entry.2, update.1, update.2)
  match minByKey (fun entry => entry.2.2.2.nextPoll) due with
  | none => (none, directory)
  | some (name, route, generation, update) =>
      let polled := { update with nextPoll := now + 10 }
      (some polled,
        directory.insert name { route with updates := route.updates.insert generation polled })

def finishRouteUpdate (host : FleetHost) (update : RouteUpdate) (status : Nat) (receipt : Json)
    (directory : Directory) : FleetResult Directory := do
  let name := host.key update.recipient update.routeKey
  match directory[name]? with
  | none => return directory
  | some route =>
      match route.updates[update.selection.generation]? with
      | none => return directory
      | some current =>
          if current.revision ≠ update.revision then
            return directory
          ensure (if status = 200 then
            (receipt.index "binding_id").asStr = some update.selection.bindingId ∧
              (receipt.index "generation").asStr = some update.selection.generation ∧
              (receipt.index "revision").asInt = some (update.revision : Int) ∧
              (receipt.index "status").asStr = some update.status.text ∧
              (receipt.index "applied").asBool = some true
            else status = 403 ∨ status = 410) unavailable
          return directory.insert name
            { route with updates := route.updates.erase update.selection.generation }

end NaviFleet

end HarborGate
