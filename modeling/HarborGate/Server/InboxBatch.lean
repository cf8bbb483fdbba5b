import HarborGate.Server.InboxAdmission

/-!
The messages of one webhook body. `enqueue` goes through them in their order and ends at the first
one that it cannot normalise, so a bad message decides over all that come after it.
-/

namespace HarborGate

namespace Inbox

open Adapters

/-- The id of the record that a message gets, if it can be normalised. -/
def recordId? (host : Host) (payload : Json) : Option String :=
  (WhatsApp.normalizeInbound host.whatsapp host.formats payload).toOption.map fun inbound =>
    host.itemId host.whatsapp.phoneNumberId inbound.messageId

def accepts (host : Host) (payload : Json) : Bool :=
  (recordId? host payload).isSome

/-- A message that can be normalised has a record. -/
def Recorded (host : Host) (inbox : List Item) (payload : Json) : Prop :=
  ∀ id, recordId? host payload = some id → ∃ item ∈ inbox, item.id = id

/-- The messages before the first bad one. -/
def front (host : Host) (messages : List Json) : List Json :=
  messages.takeWhile (accepts host)

def afterFront (host : Host) (messages : List Json) : List Json :=
  messages.dropWhile (accepts host)

/-- The records after a batch that fits: those that were there, and those of the front. -/
theorem enqueue_ids {host : Host} {now : Int} {id : String} : ∀ {messages : List Json}
    {inbox : List Item}, inbox.length + messages.length ≤ 10000 →
    ((∃ item ∈ enqueue host now messages inbox, item.id = id) ↔
      (∃ item ∈ inbox, item.id = id) ∨
        ∃ payload ∈ front host messages, recordId? host payload = some id) := by
  intro messages
  induction messages with
  | nil => simp [enqueue, front]
  | cons payload rest ih =>
      intro inbox room
      rw [List.length_cons] at room
      cases normalized : WhatsApp.normalizeInbound host.whatsapp host.formats payload with
      | error error =>
          have rejected : accepts host payload = false := by
            simp [accepts, recordId?, normalized, Except.toOption]
          simp [enqueue, normalized, front, rejected]
      | ok inbound =>
          have named : recordId? host payload =
              some (host.itemId host.whatsapp.phoneNumberId inbound.messageId) := by
            simp [recordId?, normalized, Except.toOption]
          have accepted : accepts host payload = true := by simp [accepts, named]
          have split : front host (payload :: rest) = payload :: front host rest := by
            simp [front, accepted]
          simp only [enqueue, normalized]
          rw [split]
          by_cases known : (inbox.any fun item =>
              item.id = host.itemId host.whatsapp.phoneNumberId inbound.messageId) = true
          · obtain ⟨old, member, same⟩ := List.any_eq_true.mp known
            rw [if_pos known, ih (by omega)]
            simp only [List.mem_cons, exists_eq_or_imp, named, Option.some.injEq]
            constructor
            · rintro (before | new)
              · exact Or.inl before
              · exact Or.inr (Or.inr new)
            · rintro (before | rfl | new)
              · exact Or.inl before
              · exact Or.inl ⟨old, member, by simpa using same⟩
              · exact Or.inr new
          · have space : ¬10000 < inbox.length + 1 := by omega
            rw [if_neg known, if_neg space, ih]
            · simp only [List.mem_append, List.mem_cons, List.not_mem_nil, or_false, or_and_right,
                exists_or, exists_eq_left, named, Option.some.injEq, or_assoc]
            · simp only [List.length_append, List.length_singleton]
              omega

/-- A batch that fits leaves a record of every good message exactly if each good message after the
first bad one has its record already. -/
theorem batch_recorded_iff {host : Host} {body : List UInt8} {signature : String}
    {messages : List Json} (verified : verifiedMessages host body signature = .ok messages)
    (now : Int) (reading : Reading) {world : World}
    (room : world.inbox.length + messages.length ≤ 10000) :
    (∀ payload ∈ messages, Recorded host
        (Moment.apply host ⟨now, reading, .whatsappWebhook body signature⟩ world).inbox payload) ↔
      ∀ payload ∈ afterFront host messages, ∀ id, recordId? host payload = some id →
        (∃ item ∈ world.inbox, item.id = id) ∨
          ∃ earlier ∈ front host messages, recordId? host earlier = some id := by
  have queued : (Moment.apply host ⟨now, reading, .whatsappWebhook body signature⟩ world).inbox =
      enqueue host now messages world.inbox := by
    simp only [Moment.apply, verified]
  have parts : messages = front host messages ++ afterFront host messages :=
    (List.takeWhile_append_dropWhile).symm
  rw [queued]
  constructor
  · intro all payload member id named
    have listed : payload ∈ messages := by
      rw [parts]
      exact List.mem_append_right _ member
    exact (enqueue_ids room).mp (all payload listed id named)
  · intro rest payload member id named
    refine (enqueue_ids room).mpr ?_
    rw [parts] at member
    rcases List.mem_append.mp member with early | late
    · exact Or.inr ⟨payload, early, named⟩
    · exact rest payload late id named

/-! ## A bad message first -/

def batchMessage (id body : String) : Json :=
  .obj [("from", .str "861"), ("id", .str id), ("text", .obj [("body", .str body)]),
    ("timestamp", .str "1"), ("type", .str "text")]

def batchPayload (id body : String) : Json :=
  .obj [("message", batchMessage id body), ("phone_number_id", .str "1")]

def batchEvent (first second : String × String) : Json :=
  .obj [("entry", .arr [.obj [("changes", .arr [.obj [("field", .str "messages"),
    ("value", .obj [
      ("messages", .arr [batchMessage first.1 first.2, batchMessage second.1 second.2]),
      ("metadata", .obj [("phone_number_id", .str "1")])])]])]]),
    ("object", .str "whatsapp_business_account")]

/-- A host that receives two messages; the signature of the body is accepted. -/
def batchHost (first second : String × String) : Host :=
  { queueHost with
    parseBody := fun _ => some (batchEvent first second)
    verifies := fun _ _ => true }

theorem batch_verified (first second : String × String) :
    verifiedMessages (batchHost first second) [] ("sha256=" ++ zeroDigest) =
      .ok [batchPayload first.1 first.2, batchPayload second.1 second.2] := by
  have configured : WhatsApp.requireConfig (batchHost first second).whatsapp = .ok () := rfl
  have number : (batchHost first second).whatsapp.phoneNumberId = "1" := rfl
  have parsed : (batchHost first second).parseBody [] = some (batchEvent first second) := rfl
  have verifies (bytes : List UInt8) : (batchHost first second).verifies [] bytes = true := rfl
  have stripped : Text.stripLead ("sha256=" ++ zeroDigest) "sha256=" = some zeroDigest := by
    decide
  have decoded : hexBytes zeroDigest.toList = some (List.replicate 32 0) := by decide
  have digits : zeroDigest.toList.length = 64 := by decide
  have object : ((batchEvent first second).index "object").asStr =
      some "whatsapp_business_account" := by
    simp [batchEvent, Json.index, Json.get, Json.asObject, JsonMap.get, Json.asStr]
  have texts : bodyMessages "1" (batchEvent first second) =
      [batchPayload first.1 first.2, batchPayload second.1 second.2] := by
    simp [bodyMessages, changeMessages, batchEvent, batchMessage, batchPayload, Json.index, Json.get,
      Json.asObject, JsonMap.get, Json.asStr, Json.asArray, Json.pointer]
  simp [verifiedMessages, configured, stripped, digits, decoded, verifies, parsed, object, number,
    texts, bind, Except.bind, pure, Except.pure]

/-- The empty text comes first: the message after it gets no record. -/
theorem bad_message_hides_the_next :
    verifiedMessages (batchHost ("wamid.1", "") ("wamid.2", "hello")) [] ("sha256=" ++ zeroDigest) =
        .ok [batchPayload "wamid.1" "", batchPayload "wamid.2" "hello"] ∧
      ¬Recorded (batchHost ("wamid.1", "") ("wamid.2", "hello"))
        (Moment.apply (batchHost ("wamid.1", "") ("wamid.2", "hello"))
          ⟨0, ⟨"", .ok ()⟩, .whatsappWebhook [] ("sha256=" ++ zeroDigest)⟩ .initial).inbox
        (batchPayload "wamid.2" "hello") := by
  have verified := batch_verified ("wamid.1", "") ("wamid.2", "hello")
  refine ⟨verified, fun recorded => ?_⟩
  have named : recordId? (batchHost ("wamid.1", "") ("wamid.2", "hello"))
      (batchPayload "wamid.2" "hello") = some "1wamid.2" := by decide
  obtain ⟨item, member, -⟩ := recorded _ named
  have nothing : enqueue (batchHost ("wamid.1", "") ("wamid.2", "hello")) 0
      [batchPayload "wamid.1" "", batchPayload "wamid.2" "hello"] [] = [] := by rfl
  simp only [Moment.apply, verified, World.initial, nothing] at member
  simp at member

/-- The inbox after the batch whose empty text comes last. -/
def goodFirstInbox : List Item :=
  (Moment.apply (batchHost ("wamid.2", "hello") ("wamid.1", ""))
    ⟨0, ⟨"", .ok ()⟩, .whatsappWebhook [] ("sha256=" ++ zeroDigest)⟩ .initial).inbox

theorem good_message_first_is_recorded :
    Recorded (batchHost ("wamid.2", "hello") ("wamid.1", "")) goodFirstInbox
        (batchPayload "wamid.2" "hello") ∧
      Recorded (batchHost ("wamid.2", "hello") ("wamid.1", "")) goodFirstInbox
        (batchPayload "wamid.1" "") := by
  have recorded : ∀ payload ∈ [batchPayload "wamid.2" "hello", batchPayload "wamid.1" ""],
      Recorded (batchHost ("wamid.2", "hello") ("wamid.1", "")) goodFirstInbox payload := by
    refine (batch_recorded_iff (batch_verified ("wamid.2", "hello") ("wamid.1", "")) 0
      ⟨"", .ok ()⟩ (by decide)).mpr ?_
    intro payload member id named
    have rest : afterFront (batchHost ("wamid.2", "hello") ("wamid.1", ""))
        [batchPayload "wamid.2" "hello", batchPayload "wamid.1" ""] =
          [batchPayload "wamid.1" ""] := by
      rfl
    rw [rest] at member
    obtain rfl := List.mem_singleton.mp member
    have unnamed : recordId? (batchHost ("wamid.2", "hello") ("wamid.1", ""))
        (batchPayload "wamid.1" "") = none := by rfl
    rw [unnamed] at named
    simp at named
  exact ⟨recorded _ (by simp), recorded _ (by simp)⟩

end Inbox

end HarborGate
