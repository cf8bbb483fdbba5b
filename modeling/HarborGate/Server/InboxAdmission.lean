import HarborGate.Server.InboxQueue

/-!
What the inbox stores for an accepted message and what it reads back. The webhook bounds its body,
the text and the id of a message; the claim bounds the file that holds the record.
-/

namespace HarborGate

namespace Inbox

open Adapters

/-! ## The stored file -/

def hexDigit (value : Nat) : Char :=
  if value < 10 then Char.ofNat (48 + value) else Char.ofNat (87 + value)

/-- The escapes of `serde_json`. -/
def escapeChar (c : Char) : List Char :=
  if c.toNat = 0x22 then ['\\', c]
  else if c = '\\' then ['\\', '\\']
  else if c.toNat = 0x08 then ['\\', 'b']
  else if c.toNat = 0x09 then ['\\', 't']
  else if c.toNat = 0x0A then ['\\', 'n']
  else if c.toNat = 0x0C then ['\\', 'f']
  else if c.toNat = 0x0D then ['\\', 'r']
  else if c.toNat < 0x20 then
    ['\\', 'u', '0', '0', hexDigit (c.toNat / 16), hexDigit (c.toNat % 16)]
  else [c]

def quoteChar : Char := Char.ofNat 0x22

def writeStr (text : String) : List Char :=
  quoteChar :: (text.toList.flatMap escapeChar ++ [quoteChar])

def joinWith (separator : Char) : List (List Char) → List Char
  | [] => []
  | [text] => text
  | text :: rest => text ++ separator :: joinWith separator rest

mutual

/-- The compact text of `serde_json::to_writer`. -/
def writeJson : Json → List Char
  | .null => "null".toList
  | .bool value => if value then "true".toList else "false".toList
  | .num value => (toString value).toList
  | .float text => text.toList
  | .str text => writeStr text
  | .arr items => '[' :: (joinWith ',' (writeItems items) ++ [']'])
  | .obj fields => Char.ofNat 0x7B :: (joinWith ',' (writeFields fields) ++ [Char.ofNat 0x7D])

def writeItems : List Json → List (List Char)
  | [] => []
  | item :: rest => writeJson item :: writeItems rest

def writeFields : List (String × Json) → List (List Char)
  | [] => []
  | (key, value) :: rest => (writeStr key ++ ':' :: writeJson value) :: writeFields rest

end

def byteCount (text : List Char) : Nat :=
  (text.map Char.utf8Size).sum

def Status.text : Status → String
  | .pending => "pending"
  | .running => "running"
  | .done => "done"

/-- The record of a live item. -/
def Item.record (item : Item) : Json :=
  .obj ([("attempts", .num item.attempts)] ++
    (item.claimedAt.map fun since => ("claimed_at", .num since)).toList ++
    [("created_at", .num item.createdAt), ("id", .str item.id), ("payload", item.payload)] ++
    (item.retryAt.map fun since => ("retry_at", .num since)).toList ++
    [("status", .str item.status.text)])

def fileSize (item : Item) : Nat :=
  byteCount (writeJson item.record)

/-- The live records whose files `claim_message` passes by. -/
def oversizedFiles (inbox : List Item) : List String :=
  (inbox.filter fun item => item.status ≠ .done ∧ 65536 < fileSize item).map (·.id)

/-- A claim on an inbox where the record is the only one. -/
def claimAlone (now : Int) (item : Item) : Option Item × List Item :=
  claimMessage now (oversizedFiles [item]) [item.id] [item]

/-- A turn whose claim meets the files as they are. -/
def Turn.sized (turn : Turn) (world : World) : Turn :=
  match turn.op with
  | .claim _ order => { turn with op := .claim (oversizedFiles world.inbox) order }
  | .enqueue _ | .finish _ _ => turn

def runSized (host : Host) (turns : List Turn) (world : World) : World :=
  turns.foldl (fun world turn => (turn.sized world).apply host world) world

/-! ## What the claim admits -/

/-- `enqueue` made the record for a message of a body whose signature was checked. -/
def Accepted (host : Host) (created : Int) (record : Item) : Prop :=
  ∃ body signature messages inbox, verifiedMessages host body signature = .ok messages ∧
    record ∈ enqueue host created messages inbox ∧ inbox.all (·.id ≠ record.id)

theorem mem_enqueue_fresh {host : Host} {now : Int} {item : Item} {messages : List Json}
    {inbox : List Item} (member : item ∈ enqueue host now messages inbox) :
    item ∈ inbox ∨ item.status = .pending ∧ item.createdAt = now ∧ item.attempts = 0 ∧
      item.retryAt = none := by
  induction messages generalizing inbox with
  | nil => exact .inl member
  | cons payload rest ih =>
      simp only [enqueue] at member
      split at member
      · exact .inl member
      · split at member
        · exact ih member
        · split at member
          · exact .inl member
          · rcases ih member with old | fresh
            · rcases List.mem_append.mp old with older | added
              · exact .inl older
              · obtain rfl := List.mem_singleton.mp added
                exact .inr ⟨rfl, rfl, rfl, rfl⟩
            · exact .inr fresh

theorem Accepted.fresh {host : Host} {created : Int} {record : Item}
    (accepted : Accepted host created record) :
    record.status = .pending ∧ record.createdAt = created ∧ record.attempts = 0 ∧
      record.retryAt = none := by
  obtain ⟨-, -, messages, inbox, -, member, absent⟩ := accepted
  rcases mem_enqueue_fresh member with old | fresh
  · have other := List.all_eq_true.mp absent record old
    simp at other
  · exact fresh

theorem not_mem_oversizedFiles {item : Item} (fits : fileSize item ≤ 65536) :
    item.id ∉ oversizedFiles [item] := by
  have small : ¬65536 < fileSize item := by omega
  simp [oversizedFiles, small]

/-- A file over the limit is passed by at every moment; no age and no number of attempts ends it. -/
theorem claimAlone_oversized {item : Item} (live : item.status ≠ .done)
    (large : 65536 < fileSize item) (now : Int) : claimAlone now item = (none, [item]) := by
  have listed : item.id ∈ oversizedFiles [item] := by simp [oversizedFiles, live, large]
  simp [claimAlone, claimMessage, listed]

/-- Any other live record is claimed or closed at some moment. -/
theorem claimAlone_fitting {item : Item} (live : item.status ≠ .done)
    (fits : fileSize item ≤ 65536) :
    claimAlone (item.createdAt + 86401) item = (none, [item.close]) := by
  have listed := not_mem_oversizedFiles fits
  have old : item.createdAt < item.createdAt + 86401 - 86400 := by omega
  have young : ¬item.createdAt < item.createdAt + 86401 - 7 * 86400 := by omega
  simp [claimAlone, claimMessage, listed, live, old, replaceItem, Item.close]

theorem skipped_for_ever_iff {item : Item} (live : item.status ≠ .done) :
    (∀ now, claimAlone now item = (none, [item])) ↔ 65536 < fileSize item := by
  constructor
  · intro skipped
    by_contra fits
    have closed := claimAlone_fitting live (by omega)
    rw [skipped] at closed
    have same : item = item.close := by simpa using congrArg Prod.snd closed
    exact live (by rw [same]; rfl)
  · exact fun large now => claimAlone_oversized live large now

theorem Accepted.claimed {host : Host} {created now : Int} {record : Item}
    (accepted : Accepted host created record) (fits : fileSize record ≤ 65536)
    (epoch : 0 ≤ created) (after : created ≤ now) (within : now ≤ created + 86400) :
    (claimAlone now record).1 = some (record.claim now) := by
  obtain ⟨pending, made, attempts, retry⟩ := accepted.fresh
  have listed := not_mem_oversizedFiles fits
  have young : ¬record.createdAt < now - 86400 := by omega
  have due : 0 ≤ now := by omega
  simp [claimAlone, claimMessage, listed, pending, young, attempts, retry, due, Item.claim]

/-- `Utc::now` has no reading before the epoch. -/
theorem accepted_records_are_served_iff_they_fit {host : Host} {created : Int} {record : Item}
    (epoch : 0 ≤ created) (accepted : Accepted host created record) (turns : List Turn) :
    ((∀ now, created ≤ now → now ≤ created + 86400 →
        (claimAlone now record).1 = some (record.claim now)) ∧
      ∀ before after, turns = before ++ after →
        ∀ item ∈ (runSized host before ⟨[record], []⟩).inbox, item.status ≠ .done →
          ¬∀ now, claimAlone now item = (none, [item])) ↔
      ∀ before after, turns = before ++ after →
        ∀ item ∈ (runSized host before ⟨[record], []⟩).inbox, item.status ≠ .done →
          fileSize item ≤ 65536 := by
  constructor
  · rintro ⟨-, served⟩ before after split item member live
    by_contra large
    exact served before after split item member live
      ((skipped_for_ever_iff live).mpr (by omega))
  · intro fits
    constructor
    · intro now later within
      have live : record.status ≠ .done := by simp [accepted.fresh.1]
      exact accepted.claimed (fits [] turns rfl record (by simp [runSized]) live) epoch later within
    · intro before after split item member live skipped
      have large := (skipped_for_ever_iff live).mp skipped
      have small := fits before after split item member live
      omega

/-! ## A long referral -/

theorem byteCount_append (left right : List Char) :
    byteCount (left ++ right) = byteCount left + byteCount right := by
  simp [byteCount]

theorem byteCount_cons (c : Char) (text : List Char) :
    byteCount (c :: text) = c.utf8Size + byteCount text := by
  simp [byteCount]

/-- Inside the bounds on the text and the id; the referral is another field of the message. -/
def referredMessage (referral : String) : Json :=
  .obj [("from", .str "861"), ("id", .str "wamid.1"),
    ("referral", .obj [("body", .str referral)]),
    ("text", .obj [("body", .str "hello")]), ("timestamp", .str "1"), ("type", .str "text")]

def referredPayload (referral : String) : Json :=
  .obj [("message", referredMessage referral), ("phone_number_id", .str "1")]

def referredEvent (referral : String) : Json :=
  .obj [("entry", .arr [.obj [("changes", .arr [.obj [("field", .str "messages"),
    ("value", .obj [("messages", .arr [referredMessage referral]),
      ("metadata", .obj [("phone_number_id", .str "1")])])]])]]),
    ("object", .str "whatsapp_business_account")]

def referredBody (referral : String) : List UInt8 :=
  (writeJson (referredEvent referral)).map fun c => UInt8.ofNat c.toNat

def filler (length : Nat) : String :=
  String.ofList (List.replicate length 'x')

theorem writeStr_filler (length : Nat) :
    writeStr (filler length) = quoteChar :: (List.replicate length 'x' ++ [quoteChar]) := by
  have escaped : (List.replicate length 'x').flatMap escapeChar = List.replicate length 'x' := by
    induction length with
    | zero => rfl
    | succ n ih =>
        rw [List.replicate_succ, List.flatMap_cons, ih]
        rfl
  rw [writeStr, filler, String.toList_ofList, escaped]

theorem byteCount_filler (length : Nat) : byteCount (writeStr (filler length)) = length + 2 := by
  have count : byteCount (List.replicate length 'x') = length := by
    induction length with
    | zero => rfl
    | succ n ih =>
        have one : 'x'.utf8Size = 1 := by decide
        rw [List.replicate_succ, byteCount_cons, ih, one]
        omega
  have one : quoteChar.utf8Size = 1 := by decide
  rw [writeStr_filler, byteCount_cons, byteCount_append, count, byteCount_cons, one]
  simp [byteCount]
  omega

theorem referredBody_length (referral : String) :
    (referredBody referral).length = (writeStr referral).length + 246 := by
  simp only [referredBody, referredEvent, referredMessage, writeJson, writeItems, writeFields,
    joinWith, List.length_map, List.length_append, List.length_cons, List.length_nil]
  generalize (writeStr referral).length = width
  simp [writeStr, escapeChar]
  omega

/-- A host that receives the message; the real signature of its body is accepted. -/
def referralHost (referral : String) : Host :=
  { queueHost with
    parseBody := fun body =>
      if body = referredBody referral then some (referredEvent referral) else none
    verifies := fun _ _ => true }

def zeroDigest : String :=
  "0000000000000000000000000000000000000000000000000000000000000000"

def referralRecord (referral : String) : Item where
  id := "1wamid.1"
  status := .pending
  createdAt := 0
  attempts := 0
  claimedAt := none
  retryAt := none
  payload := referredPayload referral

theorem referredEvent_messages (referral : String) :
    ((referredEvent referral).index "object").asStr = some "whatsapp_business_account" ∧
      bodyMessages "1" (referredEvent referral) = [referredPayload referral] := by
  constructor
  · simp [referredEvent, Json.index, Json.get, Json.asObject, JsonMap.get, Json.asStr]
  · simp [bodyMessages, changeMessages, referredEvent, referredMessage, referredPayload, Json.index,
      Json.get, Json.asObject, JsonMap.get, Json.asStr, Json.asArray, Json.pointer]

theorem referral_verified {referral : String} (bounded : (writeStr referral).length ≤ 1000000) :
    verifiedMessages (referralHost referral) (referredBody referral) ("sha256=" ++ zeroDigest) =
      .ok [referredPayload referral] := by
  have length := referredBody_length referral
  have fits : ¬1024 * 1024 < (referredBody referral).length := by omega
  have configured : WhatsApp.requireConfig (referralHost referral).whatsapp = .ok () := rfl
  have number : (referralHost referral).whatsapp.phoneNumberId = "1" := rfl
  have parsed : (referralHost referral).parseBody (referredBody referral) =
      some (referredEvent referral) := by simp [referralHost]
  have verifies (bytes : List UInt8) :
      (referralHost referral).verifies (referredBody referral) bytes = true := rfl
  have stripped : Text.stripLead ("sha256=" ++ zeroDigest) "sha256=" = some zeroDigest := by
    decide
  have decoded : hexBytes zeroDigest.toList = some (List.replicate 32 0) := by decide
  have digits : zeroDigest.toList.length = 64 := by decide
  obtain ⟨object, messages⟩ := referredEvent_messages referral
  simp [verifiedMessages, configured, fits, stripped, digits, decoded, verifies, parsed, object,
    number, messages, bind, Except.bind, pure, Except.pure]

theorem referral_accepted {referral : String} (bounded : (writeStr referral).length ≤ 1000000) :
    Accepted (referralHost referral) 0 (referralRecord referral) := by
  refine ⟨_, _, _, [], referral_verified bounded, ?_, rfl⟩
  have digits : WhatsApp.digits "861" = true := by decide
  have sizes : ¬512 < Text.utf8Len "wamid.1" ∧ ¬4096 < "hello".length := by decide
  have date : (some (1 : Int)).filter (0 < ·) = some 1 := by decide
  have normalized : ∃ inbound, WhatsApp.normalizeInbound (referralHost referral).whatsapp
      (referralHost referral).formats (referredPayload referral) = .ok inbound ∧
        inbound.messageId = "wamid.1" := by
    simp [WhatsApp.normalizeInbound, WhatsApp.requireConfig, referralHost, queueHost, referredPayload,
      referredMessage, Json.index, Json.get, Json.asObject, JsonMap.get, Json.asStr, Json.pointer,
      digits, sizes, date, bind, Except.bind]
  obtain ⟨inbound, normalized, named⟩ := normalized
  simp only [enqueue, normalized, named]
  exact List.mem_singleton.mpr rfl

theorem le_fileSize_referral (referral : String) :
    byteCount (writeStr referral) ≤ fileSize (referralRecord referral) := by
  simp only [fileSize, Item.record, referralRecord, referredPayload, referredMessage, writeJson,
    writeFields, joinWith, Option.map_none, Option.toList_none, List.append_nil, List.cons_append,
    List.nil_append, byteCount_append, byteCount_cons]
  omega

/-- The record of the long referral is accepted, and no claim ever returns or ends it. -/
theorem long_referral_is_skipped_for_ever :
    Accepted (referralHost (filler 66000)) 0 (referralRecord (filler 66000)) ∧
      ∀ now, claimAlone now (referralRecord (filler 66000)) =
        (none, [referralRecord (filler 66000)]) := by
  have width : (writeStr (filler 66000)).length = 66002 := by
    rw [writeStr_filler]
    simp only [List.length_cons, List.length_append, List.length_replicate, List.length_nil]
  have size := le_fileSize_referral (filler 66000)
  rw [byteCount_filler] at size
  exact ⟨referral_accepted (by omega), claimAlone_oversized (by simp [referralRecord]) (by omega)⟩

/-- A short referral is served. -/
theorem accepted_records_are_served_short :
    (claimAlone 5 (referralRecord "hi")).1 = some ((referralRecord "hi").claim 5) := by
  have short : (writeStr "hi").length ≤ 1000000 := by decide
  have fits : fileSize (referralRecord "hi") ≤ 65536 := by
    set_option maxRecDepth 1000 in
    decide
  refine ((accepted_records_are_served_iff_they_fit (by decide) (referral_accepted short) []).mpr
    ?_).1 5 (by decide) (by decide)
  intro before after split item member _
  obtain rfl : before = [] := (List.append_eq_nil_iff.mp split.symm).1
  obtain rfl := List.mem_singleton.mp member
  exact fits

end Inbox

end HarborGate
