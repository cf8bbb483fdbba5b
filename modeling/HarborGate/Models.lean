import Mathlib.Algebra.Order.Ring.Int
import HarborGate.Lib.Text

/-!
Data shared by every part of the gateway: `serde_json` values, the message structs of
`models.rs` and `GatewayError` of `error.rs`.
-/

namespace HarborGate

/-- A `serde_json::Value`. An integer is kept as such; any other number as its printed text. -/
inductive Json
  | null
  | bool (value : Bool)
  | num (value : Int)
  | float (text : String)
  | str (value : String)
  | arr (items : List Json)
  | obj (fields : List (String × Json))

/-- A `serde_json::Map`, in key order. -/
abbrev JsonMap := List (String × Json)

namespace JsonMap

def get (fields : JsonMap) (key : String) : Option Json :=
  match fields with
  | [] => none
  | (name, value) :: rest => if name = key then some value else JsonMap.get rest key

def insert (fields : JsonMap) (key : String) (value : Json) : JsonMap :=
  match fields with
  | [] => [(key, value)]
  | (name, old) :: rest =>
      if name = key then (key, value) :: rest
      else if key < name then (key, value) :: (name, old) :: rest
      else (name, old) :: JsonMap.insert rest key value

end JsonMap

namespace Json

def asStr : Json → Option String
  | .str value => some value
  | _ => none

def asBool : Json → Option Bool
  | .bool value => some value
  | _ => none

def asInt : Json → Option Int
  | .num value => some value
  | _ => none

/-- `Value::as_i64`. -/
def asI64 (value : Json) : Option Int :=
  value.asInt.filter fun number => -(2 ^ 63) ≤ number ∧ number < 2 ^ 63

def asArray : Json → Option (List Json)
  | .arr items => some items
  | _ => none

def asObject : Json → Option JsonMap
  | .obj fields => some fields
  | _ => none

def isObject (value : Json) : Bool :=
  value.asObject.isSome

def get (value : Json) (key : String) : Option Json :=
  value.asObject.bind (JsonMap.get · key)

/-- The value that `value[key]` yields: `null` when the key or the object is missing. -/
def index (value : Json) (key : String) : Json :=
  (value.get key).getD .null

/-- `Value::pointer` for a path of object keys. -/
def pointer (value : Json) : List String → Option Json
  | [] => some value
  | key :: rest => (value.get key).bind (pointer · rest)

def ofOption : Option String → Json
  | some value => .str value
  | none => .null

end Json

theorem JsonMap.get_insert (fields : JsonMap) (key query : String) (value : Json) :
    (fields.insert key value).get query = if key = query then some value else fields.get query := by
  induction fields with
  | nil => rfl
  | cons field rest ih =>
      obtain ⟨name, old⟩ := field
      simp only [JsonMap.insert]
      split
      · rename_i same
        subst same
        by_cases hit : name = query <;> simp [JsonMap.get, hit]
      · rename_i different
        split
        · by_cases hit : key = query <;> simp [JsonMap.get, hit]
        · simp only [JsonMap.get]
          rw [ih]
          by_cases hit : name = query
          · have other : ¬key = query := fun equal => different (hit.trans equal.symm)
            simp [hit, other]
          · simp [hit]

/-- Instants are nanoseconds since the Unix epoch, as `Utc::now` reads them. -/
abbrev Time := Int

abbrev nanosPerSecond : Int := 1000000000

/-- The value of `Uuid::new_v4`; its `simple` text is never blank. -/
structure Uuid where
  value : Nat
deriving DecidableEq, Repr

structure InboundMessage where
  platform : String
  chatId : String
  userId : String
  text : String
  messageId : String
  chatType : String
  routeKey : String
  sessionId : String
  mentions : List Json
  attachments : List Json
  metadata : JsonMap
  timestamp : String
  rawPayload : Json

structure OutboundMessage where
  platform : String
  chatId : String
  text : String
  attachments : List Json
  timestamp : String
  metadata : JsonMap

/-- Of the failed ledger item that the source attaches as `delivery_failure`, only its
`provider_message_id` is ever read. -/
structure GatewayError where
  status : Nat
  code : String
  message : String
  traceId : Option String
  deliveryFailure : Option (Option String)
deriving DecidableEq, Repr

namespace GatewayError

def new (status : Nat) (code message : String) : GatewayError :=
  { status, code, message, traceId := none, deliveryFailure := none }

def withTrace (error : GatewayError) (traceId : String) : GatewayError :=
  if Text.isBlank traceId then error else { error with traceId := some traceId }

def withDeliveryFailure (error : GatewayError) (providerMessageId : Option String) : GatewayError :=
  { error with deliveryFailure := some providerMessageId }

def validation (message : String) : GatewayError :=
  new 422 "VALIDATION_ERROR" message

def infrastructure (message : String) : GatewayError :=
  new 500 "INFRASTRUCTURE_ERROR" message

@[simp] theorem withTrace_code (error : GatewayError) (traceId : String) :
    (error.withTrace traceId).code = error.code := by
  simp only [withTrace]
  split <;> rfl

end GatewayError

end HarborGate
