import HarborGate.Weixin.Lease
import HarborGate.Weixin.Messages

/-!
What happens when a Weixin message is sent again. A message with a delivery item key names its
messages the same way in every attempt; an attachment that was uploaded once goes out again without
another upload, as the same item under the same id.
-/

namespace HarborGate

namespace Weixin

namespace Sending

open Interleave

/-! ## Client ids of an attempt -/

/-- Whether a caption goes ahead of the attachments. -/
def leads (outbound : OutboundMessage) : Nat :=
  if Text.trim outbound.text = "" then 0 else 1

/-- The id of the message at a place of the send; the attachments count from one. -/
def plannedId (crates : Crates) (outbound : OutboundMessage) (key : String) (index : Nat) : String :=
  if shouldSendNativeAttachmentReply outbound then
    if index < leads outbound then stableWeixinDeliveryId crates "wxmsg" key 0
    else (metadataText outbound "provider_client_id").getD
      (stableWeixinDeliveryId crates "wxmsg" key (index - leads outbound + 1))
  else stableWeixinDeliveryId crates "wxmsg" key index

/-- The item of the message at a place, where it does not depend on an upload. -/
def fixedItem (outbound : OutboundMessage) (index : Nat) : Option Json :=
  if shouldSendNativeAttachmentReply outbound then
    if index < leads outbound then some (buildTextMessageItem (Text.trim outbound.text))
    else (preparedItem (outbound.metadata.get "provider_media_state")).map MediaItem.item
  else (splitTextForWeixin outbound.text 900)[index]?.map buildTextMessageItem

section

variable {crates : Crates} {outbound : OutboundMessage} {attachments : List NativeAttachment}
  {uploaded : List MediaItem} {index : Nat} {message : Message}

theorem leads_of_caption (index : Nat) (media : List Message) (caption : Message) :
    ((if Text.trim outbound.text = "" then [] else [caption]) ++ media)[index]? =
      if index < leads outbound then some caption else media[index - leads outbound]? := by
  by_cases blank : Text.trim outbound.text = ""
  · rw [if_pos blank, leads, if_pos blank, if_neg (by omega)]
    rfl
  · rw [if_neg blank, leads, if_neg blank]
    by_cases first : index < 1
    · obtain rfl : index = 0 := by omega
      rfl
    · rw [if_neg first, List.getElem?_append_right (by rw [List.length_singleton]; omega)]
      rfl

/-- In a send with attachments, a place holds the caption or the media item at its distance. -/
theorem mediaMessages_getElem? {key clientId : Option String}
    (found : (mediaMessages crates key clientId (Text.trim outbound.text) uploaded)[index]? =
      some message) :
    index < leads outbound ∧ message = ⟨buildTextMessageItem (Text.trim outbound.text),
        key.map (stableWeixinDeliveryId crates "wxmsg" · 0), false⟩ ∨
      leads outbound ≤ index ∧ ∃ media, uploaded[index - leads outbound]? = some media ∧
        message = ⟨media.item, clientId.or (key.map
          (stableWeixinDeliveryId crates "wxmsg" · (index - leads outbound + 1))),
          media.usedFileFallback⟩ := by
  rw [mediaMessages, leads_of_caption] at found
  split at found
  · rename_i early
    exact Or.inl ⟨early, (Option.some.inj found).symm⟩
  · rename_i late
    rw [List.getElem?_mapIdx] at found
    obtain ⟨media, stood, rfl⟩ := Option.map_eq_some_iff.mp found
    exact Or.inr ⟨by omega, media, stood, rfl⟩

theorem plannedMessages_named {key : String} (resolved : Resolved outbound attachments)
    (keyed : metadataText outbound "delivery_item_key" = some key)
    (found : (plannedMessages crates (planOf outbound attachments) uploaded)[index]? = some message) :
    message.clientId = some (plannedId crates outbound key index) := by
  have native := resolved.native
  cases reply : shouldSendNativeAttachmentReply outbound with
  | true =>
      rw [plannedMessages, if_pos (by simp [Plan.native, planOf, native, reply])] at found
      rcases mediaMessages_getElem? found with ⟨early, rfl⟩ | ⟨late, media, -, rfl⟩
      · simp [planOf, plannedId, keyed, reply, early]
      · simp only [planOf, plannedId, keyed, reply, if_true, Option.map_some]
        rw [if_neg (by omega)]
        cases metadataText outbound "provider_client_id" <;> rfl
  | false =>
      rw [plannedMessages, if_neg (by simp [Plan.native, planOf, native, reply]), textMessages,
        List.getElem?_mapIdx] at found
      obtain ⟨chunk, -, rfl⟩ := Option.map_eq_some_iff.mp found
      simp [planOf, plannedId, keyed, reply]

theorem plannedMessages_fixed (resolved : Resolved outbound attachments)
    (uploads : Uploads (planOf outbound attachments).prepared attachments uploaded)
    (found : (plannedMessages crates (planOf outbound attachments) uploaded)[index]? = some message) :
    ∀ item, fixedItem outbound index = some item → message.item = item := by
  intro item fixed
  have native := resolved.native
  cases reply : shouldSendNativeAttachmentReply outbound with
  | true =>
      rw [plannedMessages, if_pos (by simp [Plan.native, planOf, native, reply])] at found
      simp only [fixedItem, reply, if_true] at fixed
      rcases mediaMessages_getElem? found with ⟨early, rfl⟩ | ⟨late, media, stood, rfl⟩
      · rw [if_pos early] at fixed
        exact Option.some.inj fixed
      · rw [if_neg (by omega)] at fixed
        obtain ⟨prepared, given, rfl⟩ := Option.map_eq_some_iff.mp fixed
        have single := resolved.single prepared given
        obtain ⟨inside, rfl⟩ := List.getElem?_eq_some_iff.mp stood
        have first : index - leads outbound = 0 := by
          have counted := uploads.counted
          omega
        rw [uploads.first prepared given uploaded[index - leads outbound]
          (by simp [first, List.head?_eq_getElem?])]
  | false =>
      rw [plannedMessages, if_neg (by simp [Plan.native, planOf, native, reply]), textMessages,
        List.getElem?_mapIdx] at found
      obtain ⟨chunk, stood, rfl⟩ := Option.map_eq_some_iff.mp found
      have empty : attachments.isEmpty = true := by simp [native, reply]
      simp only [planOf, empty, if_true] at stood
      simp only [fixedItem, reply, stood] at fixed
      simpa using fixed

/-- A message that went out at a place, with what the plan says about it. -/
structure Resent (crates : Crates) (outbound : OutboundMessage) (key : String) (index : Nat)
    (sent : Posted) (item : Json) : Prop where
  payload : ∃ contextToken, sent.payload = buildSendMessagePayloadItems outbound.chatId item
    contextToken (plannedId crates outbound key index)
  fixed : ∀ other, fixedItem outbound index = some other → item = other

theorem sent_at {session : Session} {messages : List Message} {sent : List Posted} {complete : Prop}
    {one : Posted} (sends : Sends session messages sent complete) (found : sent[index]? = some one) :
    ∃ message, messages[index]? = some message ∧ Carries session message one := by
  obtain ⟨begun, rest, rfl, carried⟩ := sends.planned
  obtain ⟨inside, rfl⟩ := List.getElem?_eq_some_iff.mp found
  have begins : index < begun.length := by
    rw [carried.length_eq]
    exact inside
  refine ⟨begun[index], ?_, carried.get begins inside⟩
  rw [List.getElem?_append_left begins, List.getElem?_eq_getElem begins]

theorem sends_name_their_messages {key : String} {events : List SendEvent}
    {outcome : Option (Except GatewayError Json)} {sent : Posted}
    (keyed : metadataText outbound "delivery_item_key" = some key)
    (run : Prog.Run (sendOutbound crates outbound).run events outcome)
    (found : (posted events)[index]? = some sent) : ∃ item, Resent crates outbound key index sent item := by
  rcases sendOutbound_inv run with ⟨none, -⟩ |
    ⟨account, contextToken, batchId, attachments, resolved, transmits⟩
  · rw [none] at found
    simp at found
  obtain ⟨uploaded, earlier, later, uploads, rfl, silent, -, sends⟩ := transmits.split
  rw [posted_append, silent, List.nil_append] at found
  obtain ⟨message, planned, -, clientId, named, payload⟩ := sent_at sends found
  have same := named _ (plannedMessages_named resolved keyed planned)
  exact ⟨message.item, ⟨contextToken, by rw [payload, same]⟩,
    plannedMessages_fixed resolved uploads planned⟩

end

/-- Two attempts to send a message with a delivery item key: whatever was answered in either, the
messages at one place go out under one id, and with one item wherever it is no fresh upload. -/
theorem resends_repeat_messages (crates : Crates) (outbound : OutboundMessage) {key : String}
    {first second : List SendEvent} {ended again : Option (Except GatewayError Json)} {index : Nat}
    {one other : Posted} (keyed : metadataText outbound "delivery_item_key" = some key)
    (run : Prog.Run (sendOutbound crates outbound).run first ended)
    (rerun : Prog.Run (sendOutbound crates outbound).run second again)
    (sent : (posted first)[index]? = some one) (resent : (posted second)[index]? = some other) :
    ∃ item item' contextToken contextToken',
      one.payload = buildSendMessagePayloadItems outbound.chatId item contextToken
        (plannedId crates outbound key index) ∧
      other.payload = buildSendMessagePayloadItems outbound.chatId item' contextToken'
        (plannedId crates outbound key index) ∧
      ((fixedItem outbound index).isSome = true → item = item') := by
  obtain ⟨item, told⟩ := sends_name_their_messages keyed run sent
  obtain ⟨item', retold⟩ := sends_name_their_messages keyed rerun resent
  obtain ⟨contextToken, payload⟩ := told.payload
  obtain ⟨contextToken', payload'⟩ := retold.payload
  refine ⟨item, item', contextToken, contextToken', payload, payload', fun fixed => ?_⟩
  obtain ⟨only, given⟩ := Option.isSome_iff_exists.mp fixed
  exact (told.fixed only given).trans (retold.fixed only given).symm

/-- The picture with its caption as an item of a delivery. -/
def keyed : OutboundMessage :=
  { captioned with metadata := ("delivery_item_key", .str "item-1") :: captioned.metadata }

theorem resends_repeat_messages_keyed :
    let run := Prog.record scriptedAnswer (sendOutbound plainCrates keyed).run ()
    ∃ one, (posted run.1)[1]? = some one ∧ ∃ item item' contextToken contextToken',
      one.payload = buildSendMessagePayloadItems keyed.chatId item contextToken
        (plannedId plainCrates keyed "item-1" 1) ∧
      one.payload = buildSendMessagePayloadItems keyed.chatId item' contextToken'
        (plannedId plainCrates keyed "item-1" 1) ∧
      ((fixedItem keyed 1).isSome = true → item = item') := by
  intro run
  have ran := Prog.run_record scriptedAnswer (sendOutbound plainCrates keyed).run ()
  obtain ⟨one, sent⟩ := Option.isSome_iff_exists.mp
    (show (posted run.1)[1]?.isSome = true by decide)
  exact ⟨one, sent, resends_repeat_messages plainCrates keyed (by decide) ran ran sent sent⟩

/-! ## Sends of what was prepared -/

section

variable {crates : Crates} {outbound : OutboundMessage} {prepared : PreparedOutbound}
  {events : List SendEvent}

/-- What a preparation hands on: a media item, and an id for the message it goes out in. -/
structure Prepares (crates : Crates) (prepared : PreparedOutbound) (item : Json) (clientId : String) :
    Prop where
  media : prepared.state.get "message_item" = some item
  given : prepared.providerClientId = some clientId
  named : ∃ key, clientId = stableWeixinDeliveryId crates "wxmsg" key 1

theorem prepareOutbound_inv
    (run : Prog.Run (prepareOutbound crates outbound).run events (some (.ok (some prepared)))) :
    ∃ item clientId, Prepares crates prepared item clientId := by
  simp only [prepareOutbound] at run
  split at run
  · split at run
    · rcases Prog.Run.bindExcept_inv run with ⟨mismatch, -⟩ | ⟨_, mismatch, -⟩ |
        ⟨opened, _, _, -, resolves, -⟩
      · simp at mismatch
      · simp at mismatch
      rcases Prog.Run.bindExcept_inv resolves with ⟨mismatch, -⟩ | ⟨_, mismatch, -⟩ |
        ⟨attachment, _, _, -, uploads, -⟩
      · simp at mismatch
      · simp at mismatch
      rcases Prog.Run.bindExcept_inv uploads with ⟨mismatch, -⟩ | ⟨_, mismatch, -⟩ |
        ⟨media, _, _, -, ends, -⟩
      · simp at mismatch
      · simp at mismatch
      obtain ⟨-, mismatch | same⟩ := Prog.Run.ret_inv ends
      · simp at mismatch
      obtain rfl := Option.some.inj (Except.ok.inj (Option.some.inj same))
      exact ⟨media.2.item, _, rfl, rfl, _, rfl⟩
    · obtain ⟨-, mismatch | mismatch⟩ := Prog.Run.ret_inv run <;> simp at mismatch
  · obtain ⟨-, mismatch | mismatch⟩ := Prog.Run.ret_inv run <;> simp at mismatch

theorem stableWeixinDeliveryId_filled (crates : Crates) (key : String) (index : Nat) :
    Text.trim (stableWeixinDeliveryId crates "wxmsg" key index) ≠ "" := by
  intro empty
  have blank := Text.isBlank_of_trim empty
  simp only [Text.isBlank, List.all_eq_true] at blank
  have first := blank 'w' (by simp [stableWeixinDeliveryId, String.toList_append])
  simp [Text.isWhitespace] at first

theorem withPrepared_reply (outbound : OutboundMessage) (prepared : PreparedOutbound) :
    shouldSendNativeAttachmentReply (withPrepared outbound prepared) =
      shouldSendNativeAttachmentReply outbound := by
  have source : JsonMap.get (withPrepared outbound prepared).metadata "source" =
      JsonMap.get outbound.metadata "source" := by
    rw [withPrepared, get_optionalField (by decide), JsonMap.get_insert, if_neg (by decide)]
  simp only [shouldSendNativeAttachmentReply]
  rw [source]
  rfl

theorem withPrepared_state (outbound : OutboundMessage) (prepared : PreparedOutbound) :
    JsonMap.get (withPrepared outbound prepared).metadata "provider_media_state" =
      some prepared.state := by
  rw [withPrepared, get_optionalField (by decide), JsonMap.get_insert, if_pos rfl]

variable {item : Json} {clientId : String}

theorem withPrepared_clientId (prepares : Prepares crates prepared item clientId)
    (outbound : OutboundMessage) :
    metadataText (withPrepared outbound prepared) "provider_client_id" =
      some (Text.trim clientId) := by
  obtain ⟨key, named⟩ := prepares.named
  have filled := stableWeixinDeliveryId_filled crates key 1
  rw [← named] at filled
  simp only [metadataText, withPrepared, prepares.given, optionalField, Option.map_some]
  rw [JsonMap.get_insert, if_pos rfl]
  simp [Text.trimmed, Json.asStr, filled]

/-! ### No upload in the send -/

/-- The question is not part of an upload. -/
def SendOp.isNoUpload (op : SendOp) : Bool :=
  !op.isUpload

theorem openSession_no_upload (outbound : OutboundMessage) :
    Prog.Asks SendOp.isNoUpload (openSession outbound).run := by
  refine .askBind rfl fun account => ?_
  split
  · refine .askBind rfl fun answer => .resultBind fun token => ?_
    split <;> trivial
  · trivial

theorem sendMessage_no_upload (session : Session) (progress : Progress) (message : Message) :
    Prog.Asks SendOp.isNoUpload (sendMessage crates session progress message).run := by
  have named : Prog.Asks SendOp.isNoUpload (clientIdFor crates message.clientId).run := by
    cases message.clientId with
    | some given => trivial
    | none => exact ⟨rfl, fun _ => trivial⟩
  have sends : Prog.Asks SendOp.isNoUpload (sendMessageItems crates session message).run :=
    .bindExcept named fun _ => .askBind rfl fun _ => .resultBind fun _ => .resultBind fun _ => trivial
  refine .liftBind sends fun result => ?_
  cases result with
  | error error => trivial
  | ok receipt => exact ⟨rfl, fun _ => ⟨rfl, fun _ => trivial⟩⟩

theorem transmit_no_upload {plan : Plan} (session : Session) (planned : List BatchItem)
    {media : MediaItem} (ready : plan.prepared = some media) (single : plan.attachments.length ≤ 1) :
    Prog.Asks SendOp.isNoUpload (transmit crates session plan planned).run := by
  simp only [transmit]
  split
  · refine .bindExcept ?_ fun uploaded => .forEach (sendMessage_no_upload session) _ _
    cases attachments : plan.attachments with
    | nil => trivial
    | cons attachment rest =>
        have last : rest = [] := by simpa [attachments] using single
        rw [last, ready]
        trivial
  · exact .forEach (sendMessage_no_upload session) _ _

theorem sendPlanned_no_upload {plan : Plan} (account : WeixinAccount) (contextToken : String)
    {media : MediaItem} (ready : plan.prepared = some media) (single : plan.attachments.length ≤ 1) :
    Prog.Asks SendOp.isNoUpload (sendPlanned crates account contextToken outbound plan).run := by
  have named : Prog.Asks SendOp.isNoUpload (batchIdFor crates plan.deliveryItemKey).run := by
    cases plan.deliveryItemKey with
    | some key => trivial
    | none => exact ⟨rfl, fun _ => trivial⟩
  refine .bindExcept named fun batchId => .liftBind ?_ fun _ =>
    .liftBind (transmit_no_upload _ _ ready single) fun result => ?_
  · exact ⟨rfl, fun _ => ⟨rfl, fun _ => ⟨rfl, fun _ => trivial⟩⟩⟩
  · cases result with
    | error failure =>
        exact ⟨rfl, fun _ => ⟨rfl, fun _ => ⟨rfl, fun _ => ⟨rfl, fun _ => trivial⟩⟩⟩⟩
    | ok progress =>
        exact ⟨rfl, fun _ => ⟨rfl, fun _ => ⟨rfl, fun _ => ⟨rfl, fun _ => ⟨rfl, fun _ => trivial⟩⟩⟩⟩⟩

theorem sendOutbound_no_upload (reply : shouldSendNativeAttachmentReply outbound = true)
    {state : Json} (found : JsonMap.get outbound.metadata "provider_media_state" = some state)
    (ready : state.get "message_item" = some item) :
    Prog.Asks SendOp.isNoUpload (sendOutbound crates outbound).run := by
  refine .bindExcept (openSession_no_upload outbound) fun opened => ?_
  have given : outbound.metadata.get "provider_media_state" = some state := found
  generalize named : (⟨((state.get "delivery_kind").bind Json.asStr).getD "file", "", ""⟩ :
    NativeAttachment) = native
  have resolves : nativeAttachments crates opened.1 opened.2 outbound = pure [native] := by
    rw [nativeAttachments, if_pos reply, given]
    simp only [Option.bind_some, ready, named]
  have prepared : (planOf outbound [native]).prepared =
      some ⟨item, ((state.get "used_file_fallback").bind Json.asBool).getD false⟩ := by
    simp only [planOf, given, preparedItem, Option.bind_some, ready, Option.map_some]
  rw [resolves]
  show Prog.Asks SendOp.isNoUpload (if (planOf outbound [native]).attachments.isEmpty ∧
    (planOf outbound [native]).chunks.isEmpty then throw emptyMessage
    else sendPlanned crates opened.1 opened.2 outbound (planOf outbound [native])).run
  split
  · trivial
  · exact sendPlanned_no_upload _ _ prepared (Nat.le_refl 1)

/-- The return value of a prepared send is made of the response alone. -/
theorem sendPreparedOutbound_inv {resent : OutboundMessage}
    {outcome : Option (Except GatewayError Json)}
    (run : Prog.Run (sendPreparedOutbound crates resent (some prepared)).run events outcome) :
    ∃ ended, Prog.Run (sendOutbound crates (withPrepared resent prepared)).run events ended := by
  rcases Prog.Run.bindExcept_inv run with ⟨-, stopped⟩ | ⟨error, -, failed⟩ |
    ⟨response, earlier, later, sends, ends, rfl⟩
  · exact ⟨_, stopped⟩
  · exact ⟨_, failed⟩
  · refine ⟨some (.ok response), ?_⟩
    have silent : later = [] := by
      cases response with
      | obj fields => exact (Prog.Run.ret_inv ends).1
      | _ => exact (Prog.Run.ret_inv ends).1
    rw [silent, List.append_nil]
    exact sends

/-- Behind the caption, a send of what was prepared has at most one message: the prepared one. -/
theorem prepared_message (prepares : Prepares crates prepared item clientId)
    {attachments : List NativeAttachment} {uploaded : List MediaItem} {index : Nat}
    {message : Message} (reply : shouldSendNativeAttachmentReply outbound = true)
    (resolved : Resolved (withPrepared outbound prepared) attachments)
    (uploads : Uploads (planOf (withPrepared outbound prepared) attachments).prepared attachments
      uploaded)
    (found : (plannedMessages crates (planOf (withPrepared outbound prepared) attachments)
      uploaded)[index]? = some message) (late : leads outbound ≤ index) :
    index = leads outbound ∧ message.item = item ∧ message.clientId = some (Text.trim clientId) := by
  have native : attachments.isEmpty = false := by
    rw [resolved.native, withPrepared_reply, reply]
    rfl
  have same : leads (withPrepared outbound prepared) = leads outbound := rfl
  have ready : preparedItem ((withPrepared outbound prepared).metadata.get "provider_media_state") =
      some ⟨item, ((prepared.state.get "used_file_fallback").bind Json.asBool).getD false⟩ := by
    have state : (withPrepared outbound prepared).metadata.get "provider_media_state" =
      some prepared.state := withPrepared_state outbound prepared
    simp only [state, preparedItem, Option.bind_some, prepares.media, Option.map_some]
  rw [plannedMessages, if_pos (by simp [Plan.native, planOf, native])] at found
  rcases mediaMessages_getElem? found with ⟨early, -⟩ | ⟨-, media, stood, rfl⟩
  · omega
  · obtain ⟨inside, rfl⟩ := List.getElem?_eq_some_iff.mp stood
    have single := resolved.single _ ready
    have counted := uploads.counted
    have first : index - leads (withPrepared outbound prepared) = 0 := by omega
    refine ⟨by omega, ?_, ?_⟩
    · rw [uploads.first _ ready uploaded[index - leads (withPrepared outbound prepared)]
        (by simp [first, List.head?_eq_getElem?])]
    · simp only [planOf, withPrepared_clientId prepares outbound]
      rfl

end

/-- Behind the caption of a prepared send only the prepared message goes out. -/
theorem prepared_placed {crates : Crates} {resent : OutboundMessage} {prepared : PreparedOutbound}
    {item : Json} {clientId : String} {events : List SendEvent}
    {ended : Option (Except GatewayError Json)} {index : Nat} {sent : Posted}
    (ready : Prepares crates prepared item clientId)
    (reply : shouldSendNativeAttachmentReply resent = true)
    (sends : Prog.Run (sendOutbound crates (withPrepared resent prepared)).run events ended)
    (late : leads resent ≤ index) (found : (posted events)[index]? = some sent) :
    index = leads resent ∧ ∃ contextToken, sent.payload =
      buildSendMessagePayloadItems resent.chatId item contextToken (Text.trim clientId) := by
  rcases sendOutbound_inv sends with ⟨none, -⟩ |
    ⟨account, contextToken, batchId, attachments, resolved, transmits⟩
  · rw [none] at found
    simp at found
  obtain ⟨uploaded, earlier, later, uploads, rfl, silent, -, whole⟩ := transmits.split
  rw [posted_append, silent, List.nil_append] at found
  obtain ⟨message, planned, -, given, named, payload⟩ := sent_at whole found
  obtain ⟨first, media, id⟩ := prepared_message ready reply resolved uploads planned late
  rw [named _ id, media] at payload
  exact ⟨first, contextToken, payload⟩

theorem prepared_drop_length {crates : Crates} {resent : OutboundMessage}
    {prepared : PreparedOutbound} {item : Json} {clientId : String} {events : List SendEvent}
    {ended : Option (Except GatewayError Json)} (ready : Prepares crates prepared item clientId)
    (reply : shouldSendNativeAttachmentReply resent = true)
    (sends : Prog.Run (sendOutbound crates (withPrepared resent prepared)).run events ended) :
    (posted events).length ≤ leads resent + 1 := by
  by_contra long
  have inside : leads resent + 1 < (posted events).length := by omega
  have second := (prepared_placed ready reply sends (Nat.le_succ _)
    (List.getElem?_eq_getElem inside)).1
  omega

theorem prepared_no_upload {crates : Crates} {resent : OutboundMessage} {prepared : PreparedOutbound}
    {item : Json} {clientId : String} {events : List SendEvent}
    {ended : Option (Except GatewayError Json)} (ready : Prepares crates prepared item clientId)
    (reply : shouldSendNativeAttachmentReply resent = true)
    (sends : Prog.Run (sendOutbound crates (withPrepared resent prepared)).run events ended) :
    ∀ event ∈ events, event.1.isUpload = false := by
  intro event member
  have replies := (withPrepared_reply resent prepared).trans reply
  have asks : Prog.Asks SendOp.isNoUpload (sendOutbound crates (withPrepared resent prepared)).run :=
    sendOutbound_no_upload replies (withPrepared_state resent prepared) ready.media
  simpa [SendOp.isNoUpload] using sends.asks asks event member

/-- A media item that was prepared once goes out by itself in every send of it, whatever is
answered: nothing is uploaded again, and behind the caption at most one message goes out, with just
the prepared item and under the prepared id. -/
theorem prepared_sends_repeat (crates : Crates) {outbound resent : OutboundMessage}
    {prepared : PreparedOutbound} {asked events : List SendEvent}
    {outcome : Option (Except GatewayError Json)}
    (prepares : Prog.Run (prepareOutbound crates outbound).run asked (some (.ok (some prepared))))
    (reply : shouldSendNativeAttachmentReply resent = true)
    (run : Prog.Run (sendPreparedOutbound crates resent (some prepared)).run events outcome) :
    (∀ event ∈ events, event.1.isUpload = false) ∧
      (posted events).length ≤ leads resent + 1 ∧
      ∃ item clientId, prepared.state.get "message_item" = some item ∧
        prepared.providerClientId = some clientId ∧
        ∀ sent ∈ (posted events).drop (leads resent), ∃ contextToken,
          sent.payload = buildSendMessagePayloadItems resent.chatId item contextToken
            (Text.trim clientId) := by
  obtain ⟨item, clientId, ready⟩ := prepareOutbound_inv prepares
  obtain ⟨ended, sends⟩ := sendPreparedOutbound_inv run
  refine ⟨prepared_no_upload ready reply sends, prepared_drop_length ready reply sends, item,
    clientId, ready.media, ready.given, ?_⟩
  intro sent member
  obtain ⟨index, found⟩ := List.getElem?_of_mem member
  rw [List.getElem?_drop] at found
  exact (prepared_placed ready reply sends (by omega) found).2

/-! The picture without a caption, uploaded at the first attempt. -/

def picture : OutboundMessage where
  platform := "weixin"
  chatId := "user-1"
  text := ""
  attachments := [.obj [("kind", .str "image"), ("path", .str "/tmp/cat.png")]]
  timestamp := "t"
  metadata := [("delivery_item_key", .str "item-1"), ("source", .str "harborbeacon")]

def uploadAnswer : (op : SendOp) → Unit → Option (SendAns op × Unit)
  | .account, _ => some (⟨"bot", "token", "https://host", "me"⟩, ())
  | .contextToken _ _, _ => some (.ok "context", ())
  | .resolvePath path, _ => some (some path, ())
  | .readArtifact _, _ => some (.ok [0], ())
  | .newUuid, _ => some (⟨0⟩, ())
  | .postJson _ .getUploadUrl _, _ =>
      some (.ok (.obj [("upload_full_url", .str "https://cdn.example/put")]), ())
  | .cdnPost _ _, _ => some (.answered 200 (some "param") "", ())
  | _, _ => none

def preparedPicture : PreparedOutbound where
  providerMediaId := plainCrates.simple ⟨0⟩
  providerClientId := some "wxmsg_"
  state := .obj [("delivery_kind", .str "image"),
    ("message_item", buildNativeImageMessageItem
      ⟨plainCrates.simple ⟨0⟩, "param", hexLower (plainCrates.uuidBytes ⟨0⟩), 1, 16⟩),
    ("used_file_fallback", .bool false)]

theorem picture_prepared :
    Prog.Run (prepareOutbound plainCrates picture).run
      (Prog.record uploadAnswer (prepareOutbound plainCrates picture).run ()).1
      (some (.ok (some preparedPicture))) :=
  Prog.run_record uploadAnswer (prepareOutbound plainCrates picture).run ()

theorem prepared_sends_repeat_picture :
    let run := Prog.record scriptedAnswer
      (sendPreparedOutbound plainCrates picture (some preparedPicture)).run ()
    (∀ event ∈ run.1, event.1.isUpload = false) ∧ (posted run.1).length ≤ leads picture + 1 ∧
      ∃ item clientId, preparedPicture.state.get "message_item" = some item ∧
        preparedPicture.providerClientId = some clientId ∧
        ∀ sent ∈ (posted run.1).drop (leads picture), ∃ contextToken,
          sent.payload = buildSendMessagePayloadItems picture.chatId item contextToken
            (Text.trim clientId) :=
  prepared_sends_repeat plainCrates picture_prepared (by decide)
    (Prog.run_record scriptedAnswer
      (sendPreparedOutbound plainCrates picture (some preparedPicture)).run ())

/-! ## Requests under one claim -/

def SendOp.isRequest : SendOp → Bool
  | .postJson _ _ _ | .cdnPost _ _ => true
  | _ => false

def requests (events : List SendEvent) : Nat :=
  events.countP fun event => event.1.isRequest

/-- Every request of a send without uploads is a message. -/
theorem requests_of_no_upload {events : List SendEvent}
    (noUpload : ∀ event ∈ events, event.1.isUpload = false) :
    requests events = (posted events).length := by
  induction events with
  | nil => rfl
  | cons event rest ih =>
      have later := ih fun other member => noUpload other (List.mem_cons_of_mem _ member)
      have here := noUpload event List.mem_cons_self
      rw [requests] at later ⊢
      obtain ⟨op, answer⟩ := event
      cases op with
      | postJson account endpoint payload =>
          cases endpoint with
          | getUploadUrl => simp [SendOp.isUpload] at here
          | sendMessage =>
              rw [List.countP_cons_of_pos rfl, later]
              rfl
      | cdnPost url body => simp [SendOp.isUpload] at here
      | _ =>
          rw [List.countP_cons_of_neg (by simp [SendOp.isRequest]), later]
          rfl

section

variable {crates : Crates}

theorem failWith_requests {α : Type} {bound : Nat} (message : String) :
    Prog.AtMost SendOp.isRequest bound (failWith message : SendGate α).run :=
  .otherBind rfl fun _ => .ret _

/-- One request for each attempt. -/
theorem tryUpload_requests (url : String) (ciphertext : Bytes) (label : String) (attempts : Nat)
    (lastError : String) :
    Prog.AtMost SendOp.isRequest attempts (tryUpload url ciphertext label attempts lastError).run := by
  induction attempts generalizing lastError with
  | zero => exact failWith_requests lastError
  | succ attempts ih =>
      refine .askBind fun reply => ?_
      cases reply with
      | failed reason => exact ih _
      | answered status encryptedParam body =>
          dsimp only
          split
          · split
            · exact ih _
            · exact .ret _
          · split
            · exact failWith_requests _
            · exact ih _

theorem uploadArtifact_requests (noun label : String) (mediaType : Int) (account : WeixinAccount)
    (attachment : NativeAttachment) (toUserId : String) :
    Prog.AtMost SendOp.isRequest (cdnUploadMaxRetries + 1)
      (uploadArtifact crates noun label mediaType account attachment toUserId).run := by
  refine .otherBind rfl fun read => ?_
  cases read with
  | error reason => exact failWith_requests _
  | ok bytes =>
      dsimp only
      split
      · exact failWith_requests _
      · refine .otherBind rfl fun filekey => .otherBind rfl fun aeskey => .askBind fun answer =>
          .resultBind fun response => ?_
        split
        · exact failWith_requests _
        · exact .earlyBind (tryUpload_requests _ _ _ _ _) fun _ => .ret _

theorem prepareOutbound_requests (outbound : OutboundMessage) :
    Prog.AtMost SendOp.isRequest (cdnUploadMaxRetries + 1) (prepareOutbound crates outbound).run := by
  have opens : Prog.AtMost SendOp.isRequest 0 (openSession outbound).run := by
    refine .otherBind rfl fun account => ?_
    split
    · refine .otherBind rfl fun answer => .resultBind fun token => ?_
      split <;> exact .ret _
    · exact .ret _
  have resolves : ∀ value,
      Prog.AtMost SendOp.isRequest 0 (nativeMediaAttachmentFromValue value).run := by
    intro value
    simp only [nativeMediaAttachmentFromValue]
    split
    · exact .ret _
    · refine .otherBind rfl fun path => ?_
      cases path <;> exact .ret _
  have uploads : ∀ account attachment chatId, Prog.AtMost SendOp.isRequest (cdnUploadMaxRetries + 1)
      (uploadAttachment crates account attachment chatId).run := by
    intro account attachment chatId
    simp only [uploadAttachment]
    split
    · exact .earlyBind (uploadArtifact_requests _ _ _ _ _ _) fun _ => .ret _
    · split <;> exact .earlyBind (uploadArtifact_requests _ _ _ _ _ _) fun _ => .ret _
  simp only [prepareOutbound]
  split
  · split
    · exact .lateBind opens fun opened => .lateBind (resolves _) fun attachment =>
        .earlyBind (uploads _ _ _) fun media => .ret _
    · exact .ret _
  · exact .ret _

end

/-- What an attachment item asks of the provider while it is claimed, once as itself and once more
as a plain file, takes no longer than the claim lasts if each request keeps to its timeout. -/
theorem prepared_sends_fit_their_claim (crates : Crates) {outbound resent : OutboundMessage}
    {prepared : PreparedOutbound} {asked events : List SendEvent}
    {outcome : Option (Except GatewayError Json)} (timeoutSeconds : Nat)
    (prepares : Prog.Run (prepareOutbound crates outbound).run asked (some (.ok (some prepared))))
    (reply : shouldSendNativeAttachmentReply resent = true)
    (uncaptioned : Text.trim resent.text = "")
    (run : Prog.Run (sendPreparedOutbound crates resent (some prepared)).run events outcome) :
    min (2 * ((requests asked + requests events) * timeoutSeconds) + 30) u64Max ≤
      deliveryClaimLeaseSeconds timeoutSeconds := by
  obtain ⟨item, clientId, ready⟩ := prepareOutbound_inv prepares
  obtain ⟨ended, sends⟩ := sendPreparedOutbound_inv run
  have uploading : requests asked ≤ cdnUploadMaxRetries + 1 :=
    prepareOutbound_requests outbound _ _ prepares
  have sending : requests events ≤ 1 := by
    rw [requests_of_no_upload (prepared_no_upload ready reply sends)]
    have few := prepared_drop_length ready reply sends
    rw [leads, if_pos uncaptioned] at few
    exact few
  have total : (requests asked + requests events) * timeoutSeconds ≤
      timeoutSeconds * (cdnUploadMaxRetries + 2) := by
    rw [Nat.mul_comm timeoutSeconds]
    exact Nat.mul_le_mul_right _ (by omega)
  simp only [deliveryClaimLeaseSeconds]
  omega

theorem prepared_sends_fit_their_claim_picture :
    let upload := Prog.record uploadAnswer (prepareOutbound plainCrates picture).run ()
    let send := Prog.record scriptedAnswer
      (sendPreparedOutbound plainCrates picture (some preparedPicture)).run ()
    requests upload.1 = 2 ∧ requests send.1 = 1 ∧
      min (2 * ((requests upload.1 + requests send.1) * 45) + 30) u64Max ≤
        deliveryClaimLeaseSeconds 45 :=
  ⟨by decide, by decide,
    prepared_sends_fit_their_claim plainCrates 45 picture_prepared (by decide)
      (by decide)
      (Prog.run_record scriptedAnswer
        (sendPreparedOutbound plainCrates picture (some preparedPicture)).run ())⟩

end Sending

end Weixin

end HarborGate
