import HarborGate.Gateway.Canonical
import HarborGate.Gateway.Inbound

/-!
The identifiers that Gate derives for a message: its route key, its session id and the text behind
its turn id. All three join fields with a bar, which the fields may hold themselves.
-/

namespace HarborGate

namespace Inbound

/-! ## What a message is known by -/

def rawMessageId (inbound : InboundMessage) : Option String :=
  ["message_id", "msg_id", "event_id", "client_id"].findSome? fun key =>
    ((inbound.rawPayload.get key).bind Json.asStr).filter (!Text.isBlank ·)

/-- The message id, or else the first id of the raw payload that is not blank. -/
def effectiveId (inbound : InboundMessage) : Option String :=
  if ¬Text.isBlank inbound.messageId then some inbound.messageId else rawMessageId inbound

def isWhatsappId (inbound : InboundMessage) : Bool :=
  inbound.platform = "whatsapp" && !Text.isBlank inbound.messageId

/-- What stands for the id of a message without one. -/
def identityJson (inbound : InboundMessage) : Json :=
  .obj [("chat_id", .str inbound.chatId), ("platform", .str inbound.platform),
    ("raw_payload", inbound.rawPayload), ("text", .str inbound.text),
    ("timestamp", .str inbound.timestamp), ("user_id", .str inbound.userId)]

/-- Neither a route key nor a session id is given. -/
def IsDerived (inbound : InboundMessage) : Prop :=
  Text.isBlank inbound.routeKey = true ∧ Text.isBlank inbound.sessionId = true

/-- The event text of a WhatsApp message with this chat and id. -/
def whatsappText (texts : Texts) (digests : Digests) (chatId messageId : String) : String :=
  texts.compactJson (.arr [.str "whatsapp",
    .str (digests.stableId "gw_route_" ("whatsapp" ++ "|" ++ chatId) 20), .str messageId])

theorem eventFingerprint_eq (texts : Texts) (digests : Digests) {inbound : InboundMessage}
    (derived : IsDerived inbound) : eventFingerprint texts digests inbound =
      if isWhatsappId inbound then whatsappText texts digests inbound.chatId inbound.messageId
      else inbound.platform ++ "|" ++ inbound.chatId ++ "|" ++
        (effectiveId inbound).getD (texts.canonicalJson (identityJson inbound)) := by
  simp only [eventFingerprint, isWhatsappId, effectiveId, rawMessageId, whatsappText,
    deriveRouteKey, derived.1, if_true]
  by_cases blank : Text.isBlank inbound.messageId = true
  · simp only [blank, not_true_eq_false, and_false, if_false, Bool.not_true, Bool.and_false,
      Bool.false_eq_true]
    cases (["message_id", "msg_id", "event_id", "client_id"].findSome? fun key =>
      ((inbound.rawPayload.get key).bind Json.asStr).filter (!Text.isBlank ·)) with
    | none => rfl
    | some id => rfl
  · by_cases whatsapp : inbound.platform = "whatsapp"
    · simp [blank, whatsapp]
    · simp [blank, whatsapp]

/-- `serde_json` writes an array of strings without blanks between them. -/
structure Texts.Documented (texts : Texts) : Prop where
  canonical : texts.canonicalJson = HarborGate.canonicalJson
  strings : ∀ items : List String, texts.compactJson (.arr (items.map .str)) =
    "[" ++ ",".intercalate (items.map printString) ++ "]"

/-- The truncated digest taken as injective; it is a lead followed by hexadecimal digits. -/
structure IdealDigests (digests : Digests) : Prop where
  injective : ∀ lead length, Function.Injective fun payload => digests.stableId lead payload length
  digits : ∀ lead payload length, ∃ digits, (digests.stableId lead payload length).toList =
    lead.toList ++ digits ∧ ∀ c ∈ digits, Text.isAsciiHexdigit c = true

/-! ## Texts with bars -/

theorem bar_split {left right left' right' : List Char}
    (same : left ++ '|' :: right = left' ++ '|' :: right') :
    (left = left' ∧ right = right') ∨
      (∃ moved, left' = left ++ '|' :: moved ∧ right = moved ++ '|' :: right') ∨
      ∃ moved, left = left' ++ '|' :: moved ∧ right' = moved ++ '|' :: right := by
  rcases List.append_eq_append_iff.mp same with ⟨more, first, second⟩ | ⟨more, first, second⟩
  · cases more with
    | nil => exact .inl ⟨by simpa using first.symm, by simpa using second⟩
    | cons c moved =>
        obtain ⟨rfl, rest⟩ := List.cons.inj second
        exact .inr (.inl ⟨moved, first, rest⟩)
  · cases more with
    | nil => exact .inl ⟨by simpa using first, by simpa using second.symm⟩
    | cons c moved =>
        obtain ⟨rfl, rest⟩ := List.cons.inj second
        exact .inr (.inr ⟨moved, first, rest⟩)

/-- A field without a bar ends at the first one. -/
theorem bar_first {left right left' right' : List Char} (free : '|' ∉ left)
    (same : left ++ '|' :: right = left' ++ '|' :: right') :
    (left = left' ∧ right = right') ∨
      ∃ moved, left' = left ++ '|' :: moved ∧ right = moved ++ '|' :: right' := by
  rcases bar_split same with equal | longer | ⟨moved, first, -⟩
  · exact .inl equal
  · exact .inr longer
  · exact absurd (by simp [first]) free

/-- Of three fields the last one may have taken bars in, and then it ends in the other's last. -/
theorem three_fields {first second last first' second' last' : List Char} (free : '|' ∉ first)
    (free' : '|' ∉ second)
    (same : first ++ '|' :: (second ++ '|' :: last) =
      first' ++ '|' :: (second' ++ '|' :: last')) :
    (first' = first ∧ second' = second ∧ last' = last) ∨
      ∃ before after, last = before ++ '|' :: (after ++ last') := by
  rcases bar_first free same with ⟨rfl, rest⟩ | ⟨moved, -, rest⟩
  · rcases bar_first free' rest with ⟨rfl, rfl⟩ | ⟨moved, -, ends⟩
    · exact .inl ⟨rfl, rfl, rfl⟩
    · exact .inr ⟨moved, [], ends⟩
  · rcases bar_first free' rest with ⟨-, ends⟩ | ⟨before, -, ends⟩
    · exact .inr ⟨second', [], ends⟩
    · exact .inr ⟨before, second' ++ ['|'], by simpa using ends⟩

theorem joined_toList (left right : String) :
    (left ++ "|" ++ right).toList = left.toList ++ '|' :: right.toList := by
  simp [String.toList_append]

theorem bar_escape (text : List Char) : (text.flatMap escapeChar).count '|' = text.count '|' := by
  have escapes : ∀ code : Fin 0x5D, needsEscape code.val = true →
      (escapeOf code.val).count '|' = 0 := by
    decide
  have one (c : Char) : (escapeChar c).count '|' = [c].count '|' := by
    simp only [escapeChar]
    split
    · rename_i escaped
      rw [escapes ⟨c.toNat, needsEscape_small escaped⟩ escaped]
      by_cases bar : c = '|'
      · subst bar
        exact absurd escaped (by decide)
      · simp [bar]
    · rfl
  induction text with
  | nil => rfl
  | cons c text ih =>
      rw [List.flatMap_cons, List.count_append, one, ih, ← List.count_append, List.singleton_append]

theorem printString_toList (text : String) : (printString text).toList =
    quotationMark :: (text.toList.flatMap escapeChar ++ [quotationMark]) := by
  rw [printString, String.toList_ofList, List.cons_append]

theorem bar_print (text : String) :
    (printString text).toList.count '|' = text.toList.count '|' := by
  have mark : ¬quotationMark = '|' := by decide
  rw [printString_toList, List.count_cons, List.count_append, bar_escape]
  simp [mark]

/-! ## The texts of the three formats -/

section Formats

variable {texts : Texts} {digests : Digests} {inbound : InboundMessage}

/-- The last field of a text with bars. -/
def lastField (texts : Texts) (inbound : InboundMessage) : String :=
  (effectiveId inbound).getD (texts.canonicalJson (identityJson inbound))

theorem effectiveId_visible {id : String} (found : effectiveId inbound = some id) :
    Text.isBlank id = false := by
  simp only [effectiveId] at found
  split at found
  · rename_i visible
    obtain rfl := Option.some.inj found
    simpa using visible
  · obtain ⟨key, -, named⟩ := List.exists_of_findSome?_eq_some found
    simpa using (Option.filter_eq_some_iff.mp named).2

theorem json_visible (documented : texts.Documented) (inbound : InboundMessage) :
    Text.isBlank (texts.canonicalJson (identityJson inbound)) = false := by
  rw [documented.canonical, identityJson, Text.isBlank, obj_chars, List.all_cons]
  exact Bool.and_eq_false_imp.mpr fun white => absurd white (by decide)

theorem lastField_visible (documented : texts.Documented) (inbound : InboundMessage) :
    Text.isBlank (lastField texts inbound) = false := by
  cases found : effectiveId inbound with
  | some id =>
      simp only [lastField, found, Option.getD_some]
      exact effectiveId_visible found
  | none =>
      simp only [lastField, found, Option.getD_none]
      exact json_visible documented inbound

theorem barred_text (derived : IsDerived inbound) (other : isWhatsappId inbound = false) :
    (eventFingerprint texts digests inbound).toList =
      inbound.platform.toList ++ '|' ::
        (inbound.chatId.toList ++ '|' :: (lastField texts inbound).toList) := by
  rw [eventFingerprint_eq texts digests derived, other, if_neg (by decide), joined_toList,
    joined_toList, List.append_assoc, List.cons_append]
  rfl

theorem whatsapp_text (derived : IsDerived inbound) (whatsapp : isWhatsappId inbound = true) :
    eventFingerprint texts digests inbound =
      whatsappText texts digests inbound.chatId inbound.messageId := by
  rw [eventFingerprint_eq texts digests derived, whatsapp, if_pos rfl]

theorem whatsapp_chars (documented : texts.Documented) (chatId messageId : String) :
    (whatsappText texts digests chatId messageId).toList = '[' ::
      ((printString "whatsapp").toList ++ ',' ::
        ((printString (digests.stableId "gw_route_" ("whatsapp" ++ "|" ++ chatId) 20)).toList ++
          ',' :: ((printString messageId).toList ++ [']']))) := by
  have strings := documented.strings ["whatsapp",
    digests.stableId "gw_route_" ("whatsapp" ++ "|" ++ chatId) 20, messageId]
  rw [whatsappText]
  simp only [List.map_cons, List.map_nil] at strings
  rw [strings]
  simp [String.toList_append]

theorem whatsapp_bars (documented : texts.Documented) (ideal : IdealDigests digests)
    (chatId messageId : String) :
    (whatsappText texts digests chatId messageId).toList.count '|' =
      messageId.toList.count '|' := by
  have route : (digests.stableId "gw_route_" ("whatsapp" ++ "|" ++ chatId) 20).toList.count '|' =
      0 := by
    obtain ⟨digits, parts, hex⟩ := ideal.digits "gw_route_" ("whatsapp" ++ "|" ++ chatId) 20
    rw [parts, List.count_append, List.count_eq_zero.mpr (by decide), Nat.zero_add]
    exact List.count_eq_zero.mpr fun bar => absurd (hex '|' bar) (by decide)
  have name : "whatsapp".toList.count '|' = 0 := by decide
  rw [whatsapp_chars documented]
  simp only [List.count_cons, List.count_append, bar_print, route, name]
  simp

end Formats

/-! ## Which messages keep their identifiers to themselves -/

section Unmistakable

variable (texts : Texts) (digests : Digests) (inbound : InboundMessage)

/-- Another message with an identifier of this one agrees in the fields it stands for. -/
structure Unmistakable : Prop where
  event : ∀ other, IsDerived other →
    eventFingerprint texts digests inbound = eventFingerprint texts digests other →
    other.platform = inbound.platform ∧ other.chatId = inbound.chatId ∧
      effectiveId other = effectiveId inbound
  turn : ∀ other metadata metadata', IsDerived other →
    (buildTurnRequest texts digests inbound metadata).turnId =
      (buildTurnRequest texts digests other metadata').turnId →
    other.platform = inbound.platform ∧ other.chatId = inbound.chatId ∧
      effectiveId other = effectiveId inbound
  route : ∀ other, IsDerived other →
    deriveRouteKey digests inbound = deriveRouteKey digests other →
    other.platform = inbound.platform ∧ other.chatId = inbound.chatId
  session : ∀ other, IsDerived other →
    deriveSessionId digests inbound = deriveSessionId digests other →
    other.platform = inbound.platform ∧ other.chatId = inbound.chatId ∧
      other.userId = inbound.userId

/-- The id, joined to platform and chat, reads in one way only: nothing but blanks stands behind a
bar, and neither is it the JSON text of a message without an id in the same chat nor is the whole
the array of a WhatsApp message. -/
structure PlainId (id : String) : Prop where
  bars : ∀ before after, id.toList = before ++ '|' :: after → after.all Text.isWhitespace = true
  json : ∀ other : InboundMessage, other.platform = inbound.platform →
    other.chatId = inbound.chatId → effectiveId other = none →
    id ≠ texts.canonicalJson (identityJson other)
  array : ∀ chatId messageId, Text.isBlank messageId = false →
    inbound.platform ++ "|" ++ inbound.chatId ++ "|" ++ id ≠
      whatsappText texts digests chatId messageId

/-- No field has a bar that a separator could be taken for. -/
structure PlainFields : Prop where
  platform : '|' ∉ inbound.platform.toList
  chat : '|' ∉ inbound.chatId.toList
  user : '|' ∉ inbound.userId.toList
  id : ∃ id, effectiveId inbound = some id ∧
    if isWhatsappId inbound then id.toList.count '|' ≤ 1 else PlainId texts digests inbound id

end Unmistakable

section Plain

variable {texts : Texts} {digests : Digests} {inbound : InboundMessage}

theorem joined_unique {left right left' right' : String} (free : '|' ∉ left.toList)
    (free' : '|' ∉ right.toList) (same : left ++ "|" ++ right = left' ++ "|" ++ right') :
    left' = left ∧ right' = right := by
  have chars := congrArg String.toList same
  rw [joined_toList, joined_toList] at chars
  rcases bar_first free chars with ⟨first, second⟩ | ⟨moved, -, second⟩
  · exact ⟨(String.toList_injective first).symm, (String.toList_injective second).symm⟩
  · exact absurd (by simp [second]) free'

theorem PlainFields.route (plain : PlainFields texts digests inbound) (ideal : IdealDigests digests)
    (derived : IsDerived inbound) {other : InboundMessage} (derived' : IsDerived other)
    (same : deriveRouteKey digests inbound = deriveRouteKey digests other) :
    other.platform = inbound.platform ∧ other.chatId = inbound.chatId := by
  simp only [deriveRouteKey, derived.1, derived'.1, if_true] at same
  exact joined_unique plain.platform plain.chat (ideal.injective _ _ same)

theorem PlainFields.session (plain : PlainFields texts digests inbound)
    (ideal : IdealDigests digests) (derived : IsDerived inbound) {other : InboundMessage}
    (derived' : IsDerived other)
    (same : deriveSessionId digests inbound = deriveSessionId digests other) :
    other.platform = inbound.platform ∧ other.chatId = inbound.chatId ∧
      other.userId = inbound.userId := by
  simp only [deriveSessionId, derived.2, derived'.2, if_true] at same
  have chars := congrArg String.toList (ideal.injective _ _ same)
  simp only [joined_toList, List.append_assoc, List.cons_append] at chars
  rcases three_fields plain.platform plain.chat chars with
    ⟨platform, chat, user⟩ | ⟨before, after, user⟩
  · exact ⟨String.toList_injective platform, String.toList_injective chat,
      String.toList_injective user⟩
  · exact absurd (by simp [user]) plain.user

/-- What an equal text with bars is made of. -/
theorem barred_unique (plain : PlainFields texts digests inbound) {id : String}
    (bars : ∀ before after, id.toList = before ++ '|' :: after →
      after.all Text.isWhitespace = true) {platform chatId last : String}
    (visible : Text.isBlank last = false)
    (same : inbound.platform.toList ++ '|' :: (inbound.chatId.toList ++ '|' :: id.toList) =
      platform.toList ++ '|' :: (chatId.toList ++ '|' :: last.toList)) :
    platform = inbound.platform ∧ chatId = inbound.chatId ∧ last = id := by
  rcases three_fields plain.platform plain.chat same with ⟨first, second, third⟩ | ⟨before, after, ends⟩
  · exact ⟨String.toList_injective first, String.toList_injective second,
      String.toList_injective third⟩
  · have blank := bars before (after ++ last.toList) ends
    rw [List.all_append, Bool.and_eq_true] at blank
    rw [Text.isBlank, blank.2] at visible
    exact absurd visible (by decide)

theorem whatsapp_unique (documented : texts.Documented) (ideal : IdealDigests digests)
    {chatId messageId chatId' messageId' : String}
    (same : whatsappText texts digests chatId messageId =
      whatsappText texts digests chatId' messageId') : chatId = chatId' ∧ messageId = messageId' := by
  have chars := congrArg String.toList same
  rw [whatsapp_chars documented, whatsapp_chars documented, List.cons.injEq] at chars
  obtain ⟨-, rest⟩ := printString_unique chars.2
  obtain ⟨routes, rest⟩ := printString_unique (List.cons.inj rest).2
  obtain ⟨ids, -⟩ := printString_unique (List.cons.inj rest).2
  exact ⟨(String.append_right_inj _).mp (ideal.injective _ _ routes), ids⟩

theorem effectiveId_whatsapp (whatsapp : isWhatsappId inbound = true) :
    effectiveId inbound = some inbound.messageId := by
  have visible := (Bool.and_eq_true_iff.mp whatsapp).2
  simp only [effectiveId]
  rw [if_pos (by simpa using visible)]

theorem PlainFields.event (plain : PlainFields texts digests inbound)
    (documented : texts.Documented) (ideal : IdealDigests digests) (derived : IsDerived inbound)
    {other : InboundMessage} (derived' : IsDerived other)
    (same : eventFingerprint texts digests inbound = eventFingerprint texts digests other) :
    other.platform = inbound.platform ∧ other.chatId = inbound.chatId ∧
      effectiveId other = effectiveId inbound := by
  obtain ⟨id, isId, plainId⟩ := plain.id
  cases whatsapp : isWhatsappId inbound with
  | true =>
      rw [whatsapp, if_pos rfl] at plainId
      obtain rfl : inbound.messageId = id := by
        simpa [effectiveId_whatsapp whatsapp] using isId
      cases whatsapp' : isWhatsappId other with
      | true =>
          rw [whatsapp_text derived whatsapp, whatsapp_text derived' whatsapp'] at same
          obtain ⟨chats, ids⟩ := whatsapp_unique documented ideal same
          have platforms : other.platform = inbound.platform := by
            simp only [isWhatsappId, Bool.and_eq_true, decide_eq_true_eq] at whatsapp whatsapp'
            rw [whatsapp.1, whatsapp'.1]
          exact ⟨platforms, chats.symm, by
            rw [effectiveId_whatsapp whatsapp, effectiveId_whatsapp whatsapp', ids]⟩
      | false =>
          -- The array has the bars of its id alone, the other text two of its own.
          have counts := congrArg (fun text => text.toList.count '|') same
          simp only [whatsapp_text derived whatsapp, whatsapp_bars documented ideal,
            barred_text derived' whatsapp', List.count_append, List.count_cons_self] at counts
          omega
  | false =>
      rw [whatsapp, if_neg (by decide)] at plainId
      have texts_ : (lastField texts inbound) = id := by simp [lastField, isId]
      cases whatsapp' : isWhatsappId other with
      | true =>
          have visible := (Bool.and_eq_true_iff.mp whatsapp').2
          rw [eventFingerprint_eq texts digests derived, whatsapp, if_neg (by decide), isId,
            whatsapp_text derived' whatsapp'] at same
          exact absurd same (plainId.array other.chatId other.messageId (by simpa using visible))
      | false =>
          have chars := congrArg String.toList same
          rw [barred_text derived whatsapp, barred_text derived' whatsapp', texts_] at chars
          obtain ⟨platforms, chats, ids⟩ :=
            barred_unique plain plainId.bars (lastField_visible documented other) chars
          refine ⟨platforms, chats, ?_⟩
          cases found : effectiveId other with
          | some otherId => simpa [lastField, found, isId] using ids
          | none =>
              have json : texts.canonicalJson (identityJson other) = id := by
                simpa [lastField, found] using ids
              exact absurd json.symm (plainId.json other platforms chats found)

theorem PlainFields.unmistakable (plain : PlainFields texts digests inbound)
    (documented : texts.Documented) (ideal : IdealDigests digests) (derived : IsDerived inbound) :
    Unmistakable texts digests inbound where
  event _ derived' same := plain.event documented ideal derived derived' same
  turn _ _ _ derived' same :=
    plain.event documented ideal derived derived' (ideal.injective _ _ same)
  route _ derived' same := plain.route ideal derived derived' same
  session _ derived' same := plain.session ideal derived derived' same

/-! ## A message with the same identifier -/

theorem list_joined {before after : List Char} {text : String}
    (parts : text.toList = before ++ '|' :: after) :
    text = String.ofList before ++ "|" ++ String.ofList after := by
  apply String.toList_injective
  rw [joined_toList, parts, String.toList_ofList, String.toList_ofList]

theorem longer_ne {text : String} {before after : List Char}
    (parts : text.toList = before ++ '|' :: after) : String.ofList before ≠ text := by
  intro same
  have length := congrArg (fun text => text.toList.length) same
  simp only [String.toList_ofList, parts, List.length_append, List.length_cons] at length
  omega

theorem Unmistakable.platform (unmistakable : Unmistakable texts digests inbound)
    (derived : IsDerived inbound) : '|' ∉ inbound.platform.toList := by
  intro bar
  obtain ⟨before, after, parts⟩ := List.append_of_mem bar
  -- What stands behind the bar moves on to the chat.
  let other : InboundMessage := { inbound with
    platform := String.ofList before
    chatId := String.ofList after ++ "|" ++ inbound.chatId }
  have same : deriveRouteKey digests inbound = deriveRouteKey digests other := by
    simp only [deriveRouteKey, derived.1, if_true, other]
    rw [list_joined parts]
    simp only [String.append_assoc]
  exact longer_ne parts (unmistakable.route other derived same).1

theorem Unmistakable.chat (unmistakable : Unmistakable texts digests inbound)
    (derived : IsDerived inbound) : '|' ∉ inbound.chatId.toList := by
  intro bar
  obtain ⟨before, after, parts⟩ := List.append_of_mem bar
  let other : InboundMessage := { inbound with
    platform := inbound.platform ++ "|" ++ String.ofList before
    chatId := String.ofList after }
  have same : deriveRouteKey digests inbound = deriveRouteKey digests other := by
    simp only [deriveRouteKey, derived.1, if_true, other]
    rw [list_joined parts]
    simp only [String.append_assoc]
  have chats := (unmistakable.route other derived same).2
  have length := congrArg (fun text => text.toList.length) chats
  simp only [other, String.toList_ofList, parts, List.length_append, List.length_cons] at length
  omega

theorem Unmistakable.user (unmistakable : Unmistakable texts digests inbound)
    (derived : IsDerived inbound) : '|' ∉ inbound.userId.toList := by
  intro bar
  obtain ⟨before, after, parts⟩ := List.append_of_mem bar
  let other : InboundMessage := { inbound with
    chatId := inbound.chatId ++ "|" ++ String.ofList before
    userId := String.ofList after }
  have same : deriveSessionId digests inbound = deriveSessionId digests other := by
    simp only [deriveSessionId, derived.2, if_true, other]
    rw [list_joined parts]
    simp only [String.append_assoc]
  have users := (unmistakable.session other derived same).2.2
  have length := congrArg (fun text => text.toList.length) users
  simp only [other, String.toList_ofList, parts, List.length_append, List.length_cons] at length
  omega

/-- The message with no id but one in its raw payload. -/
def carrying (inbound : InboundMessage) (id : String) : InboundMessage :=
  { inbound with
    messageId := ""
    rawPayload := .obj [("message_id", .str id)] }

theorem carrying_id {id : String} (visible : Text.isBlank id = false) :
    effectiveId (carrying inbound id) = some id := by
  have blank : Text.isBlank (carrying inbound id).messageId = true := rfl
  have named : ((carrying inbound id).rawPayload.get "message_id").bind Json.asStr = some id := rfl
  simp [effectiveId, blank, rawMessageId, named, visible]

theorem carrying_text (derived : IsDerived inbound) {id : String}
    (visible : Text.isBlank id = false) : eventFingerprint texts digests (carrying inbound id) =
      inbound.platform ++ "|" ++ inbound.chatId ++ "|" ++ id := by
  have other : isWhatsappId (carrying inbound id) = false := Bool.and_false _
  have derived' : IsDerived (carrying inbound id) := derived
  rw [eventFingerprint_eq texts digests derived', other, if_neg (by decide), carrying_id visible]
  rfl

theorem whatsappId_of_none (none : effectiveId inbound = none) : isWhatsappId inbound = false := by
  cases whatsapp : isWhatsappId inbound with
  | false => rfl
  | true => simp [effectiveId_whatsapp whatsapp] at none

theorem Unmistakable.named (unmistakable : Unmistakable texts digests inbound)
    (documented : texts.Documented) (derived : IsDerived inbound) :
    ∃ id, effectiveId inbound = some id := by
  cases found : effectiveId inbound with
  | some id => exact ⟨id, rfl⟩
  | none =>
      have visible := json_visible documented inbound
      have same : eventFingerprint texts digests inbound =
          eventFingerprint texts digests
            (carrying inbound (texts.canonicalJson (identityJson inbound))) := by
        rw [carrying_text derived visible, eventFingerprint_eq texts digests derived,
          whatsappId_of_none found, if_neg (by decide), found]
        rfl
      have ids := (unmistakable.event (carrying inbound _) derived same).2.2
      rw [carrying_id visible, found] at ids
      exact absurd ids (by simp)

theorem two_bars {text : List Char} (bars : 2 ≤ text.count '|') :
    ∃ first second third, text = first ++ '|' :: (second ++ '|' :: third) := by
  have bar : '|' ∈ text := List.count_pos_iff.mp (by omega)
  obtain ⟨first, rest, rfl, free⟩ := List.eq_append_cons_of_mem bar
  have none : first.count '|' = 0 := List.count_eq_zero.mpr free
  rw [List.count_append, List.count_cons_self, none] at bars
  obtain ⟨second, third, rfl⟩ := List.append_of_mem
    (List.count_pos_iff.mp (by omega) : '|' ∈ rest)
  exact ⟨first, second, third, rfl⟩

/-- The text of an array whose id has two bars reads as three fields. -/
theorem whatsapp_split (documented : texts.Documented) {chatId messageId : String}
    {first second third : List Char}
    (parts : messageId.toList = first ++ '|' :: (second ++ '|' :: third)) :
    ∃ lead middle ending, (whatsappText texts digests chatId messageId).toList =
      '[' :: lead ++ '|' :: (middle ++ '|' :: (ending ++ [']'])) := by
  have bar : escapeChar '|' = ['|'] := by decide
  refine ⟨(printString "whatsapp").toList ++ ',' ::
    ((printString (digests.stableId "gw_route_" ("whatsapp" ++ "|" ++ chatId) 20)).toList ++
      ',' :: quotationMark :: first.flatMap escapeChar), second.flatMap escapeChar,
    third.flatMap escapeChar ++ [quotationMark], ?_⟩
  rw [whatsapp_chars documented, printString_toList messageId, parts]
  simp only [List.flatMap_append, List.flatMap_cons, bar, List.append_assoc, List.cons_append,
    List.nil_append]

theorem Unmistakable.whatsapp (unmistakable : Unmistakable texts digests inbound)
    (documented : texts.Documented) (derived : IsDerived inbound)
    (whatsapp : isWhatsappId inbound = true) : inbound.messageId.toList.count '|' ≤ 1 := by
  by_contra more
  obtain ⟨first, second, third, parts⟩ := two_bars (by omega : 2 ≤ inbound.messageId.toList.count '|')
  obtain ⟨lead, middle, ending, chars⟩ :=
    @whatsapp_split texts digests documented inbound.chatId _ first second third parts
  let moved : InboundMessage := { inbound with
    platform := String.ofList ('[' :: lead)
    chatId := String.ofList middle }
  have derived' : IsDerived moved := derived
  have visible : Text.isBlank (String.ofList (ending ++ [']'])) = false := by
    have bracket : Text.isWhitespace ']' = false := by decide
    rw [Text.isBlank, String.toList_ofList, List.all_append, List.all_cons, bracket,
      Bool.false_and, Bool.and_false]
  have same : eventFingerprint texts digests inbound =
      eventFingerprint texts digests (carrying moved (String.ofList (ending ++ [']']))) := by
    apply String.toList_injective
    rw [whatsapp_text derived whatsapp, chars, carrying_text derived' visible, joined_toList,
      joined_toList]
    simp only [moved, String.toList_ofList, List.append_assoc, List.cons_append]
  have platforms : String.ofList ('[' :: lead) = inbound.platform :=
    (unmistakable.event (carrying moved _) derived same).1
  have isWhatsapp : inbound.platform = "whatsapp" := by
    simpa using (Bool.and_eq_true_iff.mp whatsapp).1
  have heads := congrArg (fun text => text.toList.head?) (platforms.trans isWhatsapp)
  simp only [String.toList_ofList, List.head?_cons] at heads
  exact absurd heads (by decide)

theorem Unmistakable.plainId (unmistakable : Unmistakable texts digests inbound)
    (documented : texts.Documented) (derived : IsDerived inbound)
    (other : isWhatsappId inbound = false) {id : String} (found : effectiveId inbound = some id) :
    PlainId texts digests inbound id := by
  have text : eventFingerprint texts digests inbound =
      inbound.platform ++ "|" ++ inbound.chatId ++ "|" ++ id := by
    rw [eventFingerprint_eq texts digests derived, other, if_neg (by decide), found]
    rfl
  refine ⟨?_, ?_, ?_⟩
  · intro before after parts
    by_contra visible
    have visible' : Text.isBlank (String.ofList after) = false := by
      simpa [Text.isBlank] using visible
    let moved : InboundMessage := { inbound with
      platform := inbound.platform ++ "|" ++ inbound.chatId
      chatId := String.ofList before }
    have derived' : IsDerived moved := derived
    have same : eventFingerprint texts digests inbound =
        eventFingerprint texts digests (carrying moved (String.ofList after)) := by
      rw [text, carrying_text derived' visible', list_joined parts]
      simp only [moved, String.append_assoc]
    have platforms := (unmistakable.event (carrying moved _) derived same).1
    have length := congrArg (fun text => text.toList.length) platforms
    simp only [carrying, moved, joined_toList, List.length_append, List.length_cons] at length
    omega
  · rintro nameless platforms chats unnamed rfl
    let moved : InboundMessage := { nameless with routeKey := "", sessionId := "" }
    have unnamed' : effectiveId moved = none := unnamed
    have same : eventFingerprint texts digests inbound = eventFingerprint texts digests moved := by
      rw [text, eventFingerprint_eq texts digests ⟨rfl, rfl⟩, whatsappId_of_none unnamed',
        if_neg (by decide), unnamed', ← platforms, ← chats]
      rfl
    have ids := (unmistakable.event moved ⟨rfl, rfl⟩ same).2.2
    rw [unnamed', found] at ids
    exact absurd ids (by simp)
  · intro chatId messageId visible reads
    let moved : InboundMessage := { inbound with
      platform := "whatsapp"
      chatId := chatId
      messageId := messageId }
    have derived' : IsDerived moved := derived
    have whatsapp : isWhatsappId moved = true := by simp [isWhatsappId, moved, visible]
    have same : eventFingerprint texts digests inbound = eventFingerprint texts digests moved := by
      rw [text, reads, whatsapp_text derived' whatsapp]
    have platforms : "whatsapp" = inbound.platform := (unmistakable.event moved derived same).1
    have chars := congrArg String.toList reads
    rw [← platforms, whatsapp_chars documented] at chars
    have heads := congrArg List.head? chars
    simp [String.toList_append] at heads

theorem identifiers_unmistakable_iff (texts : Texts) (digests : Digests)
    (inbound : InboundMessage) (documented : texts.Documented) (ideal : IdealDigests digests)
    (derived : IsDerived inbound) :
    Unmistakable texts digests inbound ↔ PlainFields texts digests inbound := by
  constructor
  · intro unmistakable
    obtain ⟨id, found⟩ := unmistakable.named documented derived
    refine ⟨unmistakable.platform derived, unmistakable.chat derived, unmistakable.user derived,
      id, found, ?_⟩
    cases whatsapp : isWhatsappId inbound with
    | true =>
        rw [if_pos rfl]
        obtain rfl : inbound.messageId = id := by simpa [effectiveId_whatsapp whatsapp] using found
        exact unmistakable.whatsapp documented derived whatsapp
    | false =>
        rw [if_neg (by decide)]
        exact unmistakable.plainId documented derived whatsapp found
  · exact fun plain => plain.unmistakable documented ideal derived

end Plain

/-! ## Messages that meet -/

/-- A message of a Feishu chat. -/
def feishuMessage (chatId userId messageId : String) : InboundMessage where
  platform := "feishu"
  chatId := chatId
  userId := userId
  text := ""
  messageId := messageId
  chatType := "p2p"
  routeKey := ""
  sessionId := ""
  mentions := []
  attachments := []
  metadata := []
  timestamp := ""
  rawPayload := .null

/-- Two chats, one turn id and one session. -/
theorem barred_chats_meet :
    IsDerived (feishuMessage "a|b" "c" "d") ∧ IsDerived (feishuMessage "a" "b|c" "b|d") ∧
      (∀ (texts : Texts) (digests : Digests) (metadata : JsonMap),
        eventFingerprint texts digests (feishuMessage "a|b" "c" "d") =
            eventFingerprint texts digests (feishuMessage "a" "b|c" "b|d") ∧
          (buildTurnRequest texts digests (feishuMessage "a|b" "c" "d") metadata).turnId =
            (buildTurnRequest texts digests (feishuMessage "a" "b|c" "b|d") metadata).turnId ∧
          deriveSessionId digests (feishuMessage "a|b" "c" "d") =
            deriveSessionId digests (feishuMessage "a" "b|c" "b|d")) ∧
      (feishuMessage "a|b" "c" "d").chatId ≠ (feishuMessage "a" "b|c" "b|d").chatId := by
  refine ⟨⟨rfl, rfl⟩, ⟨rfl, rfl⟩, ?_, by decide⟩
  intro texts digests metadata
  have first : eventFingerprint texts digests (feishuMessage "a|b" "c" "d") = "feishu|a|b|d" := by
    rw [eventFingerprint_eq texts digests ⟨rfl, rfl⟩]
    rfl
  have second : eventFingerprint texts digests (feishuMessage "a" "b|c" "b|d") = "feishu|a|b|d" := by
    rw [eventFingerprint_eq texts digests ⟨rfl, rfl⟩]
    rfl
  refine ⟨first.trans second.symm, ?_, rfl⟩
  simp only [buildTurnRequest, first, second]

def sampleTexts : Texts where
  canonicalJson := HarborGate.canonicalJson
  compactJson := HarborGate.canonicalJson
  renderRetrievalReply text _ _ := text
  nativeSourceBoundAttachments _ _ := []

theorem sampleTexts_documented : sampleTexts.Documented where
  canonical := rfl
  strings items := by
    have printed (text : String) : HarborGate.canonicalJson (.str text) = printString text :=
      canonicalJson_scalar rfl
    simp only [sampleTexts, canonicalJson_arr, List.map_map]
    congr 3
    exact List.map_congr_left fun text _ => printed text

def charDigits (c : Char) : List Char :=
  Nat.toDigits 10 c.toNat ++ ['a']

/-- A digest that loses nothing. -/
def sampleDigests : Digests where
  fingerprint _ := ""
  stableId lead payload _ := lead ++ String.ofList (payload.toList.flatMap charDigits ++ ['b'])

theorem charDigits_apart (c d : Char) (rest rest' : List Char)
    (same : charDigits c ++ rest = charDigits d ++ rest') : c = d ∧ rest = rest' := by
  simp only [charDigits, List.append_assoc, List.singleton_append] at same
  have stops (rest : List Char) : ∀ c ∈ ('a' :: rest).head?, Char.isDigit c = false := by
    intro c first
    obtain rfl := Option.some.inj first
    decide
  obtain ⟨numbers, rests⟩ := Printing.word_unique (fun _ => digit_of_mem) (fun _ => digit_of_mem)
    (stops rest) (stops rest') same
  exact ⟨Char.ext (UInt32.toNat_inj.mp (digits_injective numbers)), (List.cons.inj rests).2⟩

theorem sampleDigests_ideal : IdealDigests sampleDigests where
  injective lead _ := by
    intro left right same
    have chars := congrArg String.toList ((String.append_right_inj lead).mp same)
    simp only [String.toList_ofList] at chars
    have opens (c : Char) : ∃ head tail, charDigits c = head :: tail ∧ head ≠ 'b' := by
      obtain ⟨head, tail, digits⟩ :=
        List.exists_cons_of_ne_nil (@Nat.toDigits_ne_nil c.toNat 10)
      refine ⟨head, tail ++ ['a'], by rw [charDigits, digits, List.cons_append], ?_⟩
      rintro rfl
      have digit := digit_of_mem (digits ▸ List.mem_cons_self : 'b' ∈ Nat.toDigits 10 c.toNat)
      exact absurd digit (by decide)
    exact String.toList_injective (Printing.code_unique charDigits_apart opens chars).1
  digits lead payload _ := by
    refine ⟨payload.toList.flatMap charDigits ++ ['b'], ?_, ?_⟩
    · simp [sampleDigests, String.toList_append]
    · intro c member
      rcases List.mem_append.mp member with inCodes | last
      · obtain ⟨d, -, inCode⟩ := List.mem_flatMap.mp inCodes
        rcases List.mem_append.mp inCode with digit | stop
        · simp [Text.isAsciiHexdigit, digit_of_mem digit]
        · obtain rfl := List.mem_singleton.mp stop
          decide
      · obtain rfl := List.mem_singleton.mp last
        decide

theorem plain_chat_unmistakable_iff :
    Unmistakable sampleTexts sampleDigests (feishuMessage "a" "b" "c") ↔
      PlainFields sampleTexts sampleDigests (feishuMessage "a" "b" "c") :=
  identifiers_unmistakable_iff sampleTexts sampleDigests (feishuMessage "a" "b" "c")
    sampleTexts_documented sampleDigests_ideal ⟨rfl, rfl⟩

end Inbound

end HarborGate
