import Mathlib.Data.List.Forall2
import HarborGate.Weixin.Sending

/-!
What a Weixin send puts on the wire. Whatever the answers are and wherever the send stops, its
messages are a beginning of one fixed list, in order, each behind an accepted one; every upload
comes before the first of them.
-/

namespace HarborGate

namespace Weixin

namespace Sending

open Interleave

/-! ## Requests and messages of a run -/

def SendOp.isMessage : SendOp → Bool
  | .postJson _ .sendMessage _ => true
  | _ => false

def SendOp.isUpload : SendOp → Bool
  | .readArtifact _ | .cdnPost _ _ | .postJson _ .getUploadUrl _ => true
  | _ => false

/-- Neither a message nor an upload. -/
def SendOp.isQuiet (op : SendOp) : Bool :=
  !op.isMessage && !op.isUpload

/-- The provider takes the message: the request succeeds and its `ret` is absent or zero. -/
def accepts (answer : Except GatewayError Json) : Bool :=
  match answer with
  | .ok response => (validateSendMessageResponse response []).isOk
  | .error _ => false

/-- A message that was posted: account, payload and answer. -/
structure Posted where
  account : WeixinAccount
  payload : Json
  answer : Except GatewayError Json

def postedOf : SendEvent → Option Posted
  | ⟨.postJson account .sendMessage payload, answer⟩ => some ⟨account, payload, answer⟩
  | _ => none

def posted (events : List SendEvent) : List Posted :=
  events.filterMap postedOf

@[simp] theorem posted_nil : posted [] = [] :=
  rfl

@[simp] theorem posted_append (earlier later : List SendEvent) :
    posted (earlier ++ later) = posted earlier ++ posted later :=
  List.filterMap_append

theorem posted_of_no_message {events : List SendEvent}
    (none : ∀ event ∈ events, event.1.isMessage = false) : posted events = [] := by
  refine List.filterMap_eq_nil_iff.mpr fun event member => ?_
  have silent := none event member
  obtain ⟨op, answer⟩ := event
  cases op with
  | postJson account endpoint payload =>
      cases endpoint with
      | getUploadUrl => rfl
      | sendMessage => simp [SendOp.isMessage] at silent
  | _ => rfl

theorem isOk_validate (response : Json) (secrets other : List String) :
    (validateSendMessageResponse response secrets).isOk =
      (validateSendMessageResponse response other).isOk := by
  simp only [validateSendMessageResponse]
  split
  · rfl
  · split
    · rfl
    · split <;> rfl

theorem accepts_ok {response : Json} {secrets : List String} {value : Unit}
    (valid : validateSendMessageResponse response secrets = .ok value) :
    accepts (.ok response) = true := by
  simp only [accepts]
  rw [isOk_validate response [] secrets, valid]
  rfl

theorem accepts_error {response : Json} {secrets : List String} {error : GatewayError}
    (refused : validateSendMessageResponse response secrets = .error error) :
    accepts (.ok response) = false := by
  simp only [accepts]
  rw [isOk_validate response [] secrets, refused]
  rfl

/-- The posted message carries the planned one, under the id it was given if there is one. -/
def Carries (session : Session) (message : Message) (sent : Posted) : Prop :=
  sent.account = session.account ∧ ∃ clientId,
    (∀ given, message.clientId = some given → clientId = given) ∧
    sent.payload = buildSendMessagePayloadItems session.chatId message.item session.contextToken
      clientId

section

variable {crates : Crates} {session : Session} {events : List SendEvent}

theorem clientIdFor_inv {given : Option String} {outcome : Option (Except GatewayError String)}
    (run : Prog.Run (clientIdFor crates given).run events outcome) :
    (∀ event ∈ events, event.1.isQuiet = true) ∧
      (∀ error, outcome ≠ some (.error error)) ∧
      ∀ clientId, outcome = some (.ok clientId) → ∀ id, given = some id → clientId = id := by
  cases given with
  | some id =>
      obtain ⟨rfl, rfl | rfl⟩ := Prog.Run.ret_inv run
      · simp
      · refine ⟨by simp, by simp, ?_⟩
        intro clientId same other named
        obtain rfl := Option.some.inj named
        simpa using same.symm
  | none =>
      rcases Prog.Run.askBind_inv run with ⟨rfl, rfl⟩ | ⟨token, later, rfl, returns⟩
      · simp
      · obtain ⟨rfl, rfl | rfl⟩ := Prog.Run.ret_inv returns
        · simp [SendOp.isQuiet, SendOp.isMessage, SendOp.isUpload]
        · simp [SendOp.isQuiet, SendOp.isMessage, SendOp.isUpload]

theorem no_upload_of_quiet (quiet : ∀ event ∈ events, event.1.isQuiet = true) :
    ∀ event ∈ events, event.1.isUpload = false := by
  intro event member
  have both := quiet event member
  simp only [SendOp.isQuiet, Bool.and_eq_true, Bool.not_eq_true'] at both
  exact both.2

theorem posted_of_quiet (quiet : ∀ event ∈ events, event.1.isQuiet = true) : posted events = [] := by
  refine posted_of_no_message fun event member => ?_
  have both := quiet event member
  simp only [SendOp.isQuiet, Bool.and_eq_true, Bool.not_eq_true'] at both
  exact both.1

/-- The one message of a round, unless it stops before. -/
theorem sendMessageItems_inv {message : Message} {outcome : Option (Except GatewayError Receipt)}
    (run : Prog.Run (sendMessageItems crates session message).run events outcome) :
    (∀ event ∈ events, event.1.isUpload = false) ∧
      (posted events = [] ∧ outcome = none ∨
        ∃ sent, posted events = [sent] ∧ Carries session message sent ∧
          (∀ receipt, outcome = some (.ok receipt) → accepts sent.answer = true) ∧
          ∀ error, outcome = some (.error error) → accepts sent.answer = false) := by
  rcases Prog.Run.bindExcept_inv run with ⟨rfl, stopped⟩ | ⟨error, rfl, failed⟩ |
    ⟨clientId, earlier, later, named, posts, rfl⟩
  · have quiet := (clientIdFor_inv stopped).1
    exact ⟨no_upload_of_quiet quiet, Or.inl ⟨posted_of_quiet quiet, rfl⟩⟩
  · exact absurd rfl ((clientIdFor_inv failed).2.1 error)
  obtain ⟨quiet, -, given⟩ := clientIdFor_inv named
  have before := no_upload_of_quiet quiet
  rw [posted_append, posted_of_quiet quiet, List.nil_append]
  rcases Prog.Run.askBind_inv posts with ⟨rfl, rfl⟩ | ⟨answer, further, rfl, reads⟩
  · exact ⟨by simpa using before, Or.inl ⟨rfl, rfl⟩⟩
  have carries : Carries session message
      ⟨session.account, buildSendMessagePayloadItems session.chatId message.item
        session.contextToken clientId, answer⟩ :=
    ⟨rfl, clientId, given clientId rfl, rfl⟩
  -- Nothing is asked after the answer.
  have ends : further = [] ∧
      (∀ receipt, outcome = some (.ok receipt) → accepts answer = true) ∧
      ∀ error, outcome = some (.error error) → accepts answer = false := by
    rcases Prog.Run.resultBind_inv reads with ⟨error, rfl, rfl, rfl | rfl⟩ | ⟨response, told, valid⟩
    · simp
    · simp [accepts]
    subst told
    rcases Prog.Run.resultBind_inv valid with ⟨error, refused, rfl, rfl | rfl⟩ |
      ⟨value, passed, returns⟩
    · simp
    · exact ⟨rfl, by simp, fun _ _ => accepts_error refused⟩
    · obtain ⟨rfl, rfl | rfl⟩ := Prog.Run.ret_inv returns
      · simp
      · exact ⟨rfl, fun _ _ => accepts_ok passed, by simp⟩
  obtain ⟨rfl, ok, failed⟩ := ends
  refine ⟨?_, Or.inr ⟨_, rfl, carries, ok, failed⟩⟩
  intro event member
  rcases List.mem_append.mp member with early | only
  · exact before event early
  · obtain rfl := List.mem_singleton.mp only
    rfl

/-! ## The rounds over the messages -/

theorem updateDeliveryBatch_quiet (batchId status : String) (items : List BatchItem) :
    (updateDeliveryBatch batchId status items).Asks SendOp.isQuiet :=
  ⟨rfl, fun _ => ⟨rfl, fun _ => trivial⟩⟩

/-- A round sends its message; it ends well just when the provider takes it. -/
theorem sendMessage_inv {progress : Progress} {message : Message}
    {outcome : Option (Except Failure Progress)}
    (run : Prog.Run (sendMessage crates session progress message).run events outcome) :
    (∀ event ∈ events, event.1.isUpload = false) ∧
      (posted events = [] ∧ outcome = none ∨
        ∃ sent, posted events = [sent] ∧ Carries session message sent ∧
          ∀ next, outcome = some (.ok next) → accepts sent.answer = true) := by
  rcases Prog.Run.bind_inv run with ⟨rfl, stopped⟩ | ⟨result, earlier, later, sends, ends, rfl⟩
  · rcases Prog.Run.bind_inv stopped with ⟨-, cut⟩ | ⟨result, earlier, later, sends, ends, rfl⟩
    · obtain ⟨noUpload, idle | ⟨sent, only, carries, -⟩⟩ := sendMessageItems_inv cut
      · exact ⟨noUpload, Or.inl ⟨idle.1, rfl⟩⟩
      · exact ⟨noUpload, Or.inr ⟨sent, only, carries, by simp⟩⟩
    · obtain ⟨rfl, -⟩ := Prog.Run.ret_inv ends
      rw [List.append_nil]
      obtain ⟨noUpload, idle | ⟨sent, only, carries, -⟩⟩ := sendMessageItems_inv sends
      · simp at idle
      · exact ⟨noUpload, Or.inr ⟨sent, only, carries, by simp⟩⟩
  · rcases Prog.Run.bind_inv sends with ⟨mismatch, -⟩ | ⟨answer, own, rest, inner, returns, rfl⟩
    · simp at mismatch
    obtain ⟨rfl, mismatch | same⟩ := Prog.Run.ret_inv returns
    · simp at mismatch
    obtain rfl := Option.some.inj same
    obtain ⟨noUpload, idle | ⟨sent, only, carries, taken, -⟩⟩ := sendMessageItems_inv inner
    · simp at idle
    cases answer with
    | error error =>
        obtain ⟨rfl, rfl | rfl⟩ := Prog.Run.ret_inv ends
        · exact ⟨by simpa using noUpload, Or.inr ⟨sent, by simpa using only, carries, by simp⟩⟩
        · exact ⟨by simpa using noUpload, Or.inr ⟨sent, by simpa using only, carries, by simp⟩⟩
    | ok receipt =>
        have quiet : ∀ event ∈ later, event.1.isQuiet = true := by
          refine Prog.Run.asks (Prog.Asks.liftBind (updateDeliveryBatch_quiet _ _ _)
            fun _ => ?_) ends
          trivial
        refine ⟨?_, Or.inr ⟨sent, ?_, carries, fun _ _ => taken receipt rfl⟩⟩
        · intro event member
          rcases List.mem_append.mp member with early | late
          · exact noUpload event (by simpa using early)
          · exact no_upload_of_quiet quiet event late
        · rw [posted_append, posted_of_quiet quiet, List.append_nil]
          simpa using only

/-- The messages that went out are a beginning of the planned ones, all but the last accepted. -/
structure Sends (session : Session) (messages : List Message) (sent : List Posted)
    (complete : Prop) : Prop where
  planned : ∃ begun rest, messages = begun ++ rest ∧ List.Forall₂ (Carries session) begun sent
  accepted : ∀ one ∈ sent.dropLast, accepts one.answer = true
  whole : complete → sent.length = messages.length ∧ ∀ one ∈ sent, accepts one.answer = true

theorem sendMessages_inv {progress : Progress} {messages : List Message}
    {outcome : Option (Except Failure Progress)}
    (run : Prog.Run (sendMessages crates session progress messages).run events outcome) :
    (∀ event ∈ events, event.1.isUpload = false) ∧
      Sends session messages (posted events) (∃ reached, outcome = some (.ok reached)) := by
  obtain ⟨done, rest, own, last, reached, rfl, rounds, ends, rfl⟩ := forEach_inv run
  have kept : (∀ event ∈ own, event.1.isUpload = false) ∧
      List.Forall₂ (Carries session) done (posted own) ∧
      ∀ one ∈ posted own, accepts one.answer = true := by
    refine rounds.keeps (fun done events _ => (∀ event ∈ events, event.1.isUpload = false) ∧
      List.Forall₂ (Carries session) done (posted events) ∧
      ∀ one ∈ posted events, accepts one.answer = true) ?_ ⟨by simp, by simp, by simp⟩
    rintro done earlier state next message own ⟨noUpload, carried, accepted⟩ ran
    obtain ⟨silent, idle | ⟨sent, only, carries, taken⟩⟩ := sendMessage_inv ran
    · simp at idle
    · refine ⟨?_, ?_, ?_⟩
      · intro event member
        rcases List.mem_append.mp member with early | late
        · exact noUpload event early
        · exact silent event late
      · rw [posted_append, only]
        exact List.rel_append carried (.cons carries .nil)
      · rw [posted_append, only]
        intro one member
        rcases List.mem_append.mp member with early | late
        · exact accepted one early
        · obtain rfl := List.mem_singleton.mp late
          exact taken next rfl
  obtain ⟨noUpload, carried, accepted⟩ := kept
  have round : ∀ {item : Message} {outcome : Option (Except Failure Progress)},
      Prog.Run (sendMessage crates session reached item).run last outcome →
      (∀ event ∈ own ++ last, event.1.isUpload = false) ∧
        (posted last = [] ∨ ∃ sent, posted last = [sent] ∧ Carries session item sent) := by
    intro item outcome ran
    obtain ⟨silent, sends⟩ := sendMessage_inv ran
    refine ⟨?_, ?_⟩
    · intro event member
      rcases List.mem_append.mp member with early | late
      · exact noUpload event early
      · exact silent event late
    · rcases sends with ⟨none, -⟩ | ⟨sent, only, carries, -⟩
      · exact Or.inl none
      · exact Or.inr ⟨sent, only, carries⟩
  have partly : ∀ {item : Message} {others : List Message} {outcome : Option (Except Failure Progress)},
      Prog.Run (sendMessage crates session reached item).run last outcome →
      ¬(∃ next, outcome = some (.ok next)) →
      (∀ event ∈ own ++ last, event.1.isUpload = false) ∧
        Sends session (done ++ item :: others) (posted (own ++ last))
          (∃ next, outcome = some (.ok next)) := by
    intro item others outcome ran incomplete
    obtain ⟨silent, sends⟩ := round ran
    refine ⟨silent, ?_⟩
    rw [posted_append]
    rcases sends with none | ⟨sent, only, carries⟩
    · rw [none, List.append_nil]
      exact ⟨⟨done, item :: others, rfl, carried⟩,
        fun one member => accepted one (List.dropLast_subset _ member),
        fun complete => absurd complete incomplete⟩
    · rw [only]
      refine ⟨⟨done ++ [item], others, by simp, List.rel_append carried (.cons carries .nil)⟩, ?_,
        fun complete => absurd complete incomplete⟩
      rw [List.dropLast_concat]
      exact accepted
  cases ends with
  | complete ended =>
      rw [List.append_nil, List.append_nil]
      exact ⟨noUpload, ⟨done, [], (List.append_nil _).symm, carried⟩,
        fun one member => accepted one (List.dropLast_subset _ member),
        fun _ => ⟨carried.length_eq.symm, accepted⟩⟩
  | stopped ran => exact partly ran (by simp)
  | failed ran => exact partly ran (by simp)

/-! ## The parts of a send that post no message -/

/-- The question is not a message. -/
def SendOp.isOther (op : SendOp) : Bool :=
  !op.isMessage

/-- It is not a report of a batch either. -/
def SendOp.isSilent : SendOp → Bool
  | .updateTransport _ (some _) => false
  | .postJson _ .sendMessage _ => false
  | _ => true

theorem Asks.other {α : Type} {program : SendRoutine α} (asks : program.Asks SendOp.isSilent) :
    program.Asks SendOp.isOther := by
  refine asks.mono fun op silent => ?_
  cases op with
  | postJson account endpoint payload =>
      cases endpoint with
      | getUploadUrl => rfl
      | sendMessage => simp [SendOp.isSilent] at silent
  | _ => rfl

theorem failWith_silent {α : Type} (message : String) :
    Prog.Asks SendOp.isSilent (failWith message : SendGate α).run :=
  ⟨rfl, fun _ => trivial⟩

theorem tryUpload_silent (url : String) (ciphertext : Bytes) (label : String) (attempts : Nat)
    (lastError : String) :
    Prog.Asks SendOp.isSilent (tryUpload url ciphertext label attempts lastError).run := by
  induction attempts generalizing lastError with
  | zero => exact failWith_silent lastError
  | succ attempts ih =>
      refine .askBind rfl fun reply => ?_
      cases reply with
      | failed reason => exact ih _
      | answered status encryptedParam body =>
          dsimp only
          split
          · split
            · exact ih _
            · trivial
          · split
            · exact failWith_silent _
            · exact ih _

theorem uploadArtifact_silent (noun label : String) (mediaType : Int) (account : WeixinAccount)
    (attachment : NativeAttachment) (toUserId : String) :
    Prog.Asks SendOp.isSilent
      (uploadArtifact crates noun label mediaType account attachment toUserId).run := by
  refine .askBind rfl fun read => ?_
  cases read with
  | error reason => exact failWith_silent _
  | ok bytes =>
      dsimp only
      split
      · exact failWith_silent _
      · refine .askBind rfl fun filekey => .askBind rfl fun aeskey => .askBind rfl fun answer =>
          .resultBind fun response => ?_
        split
        · exact failWith_silent _
        · exact .bindExcept (tryUpload_silent _ _ _ _ _) fun _ => trivial

theorem uploadAttachment_silent (account : WeixinAccount) (attachment : NativeAttachment)
    (chatId : String) :
    Prog.Asks SendOp.isSilent (uploadAttachment crates account attachment chatId).run := by
  simp only [uploadAttachment]
  split
  · exact .bindExcept (uploadArtifact_silent _ _ _ _ _ _) fun _ => trivial
  · split <;> exact .bindExcept (uploadArtifact_silent _ _ _ _ _ _) fun _ => trivial

theorem uploadNext_silent (account : WeixinAccount) (chatId : String) (prepared : Option MediaItem)
    (offset : Nat) (planned : List BatchItem) (uploaded : List MediaItem)
    (attachment : NativeAttachment) :
    Prog.Asks SendOp.isSilent
      (uploadNext crates account chatId prepared offset planned uploaded attachment).run := by
  simp only [uploadNext]
  split
  · trivial
  · refine .liftBind (uploadAttachment_silent _ _ _) fun result => ?_
    cases result <;> trivial

theorem openSession_silent (outbound : OutboundMessage) :
    Prog.Asks SendOp.isSilent (openSession outbound).run := by
  refine .askBind rfl fun account => ?_
  split
  · refine .askBind rfl fun answer => .resultBind fun token => ?_
    split <;> trivial
  · trivial

theorem nativeMediaAttachmentFromValue_silent (value : Json) :
    Prog.Asks SendOp.isSilent (nativeMediaAttachmentFromValue value).run := by
  simp only [nativeMediaAttachmentFromValue]
  split
  · trivial
  · refine .askBind rfl fun path => ?_
    cases path <;> trivial

theorem resolveNativeMediaAttachments_silent (outbound : OutboundMessage) :
    Prog.Asks SendOp.isSilent (resolveNativeMediaAttachments outbound).run := by
  refine .bindExcept (.forEach (fun resolved attachment => ?_) _ _) fun resolved => ?_
  · exact .bindExcept (nativeMediaAttachmentFromValue_silent _) fun _ => trivial
  · split <;> trivial

theorem nativeAttachments_other (account : WeixinAccount) (contextToken : String)
    (outbound : OutboundMessage) :
    Prog.Asks SendOp.isOther (nativeAttachments crates account contextToken outbound).run := by
  simp only [nativeAttachments]
  split
  · split
    · trivial
    · refine .liftBind (Asks.other (resolveNativeMediaAttachments_silent _)) fun result => ?_
      cases result with
      | ok attachments => trivial
      | error error =>
          refine .liftBind ?_ fun _ => trivial
          exact ⟨rfl, fun _ => ⟨rfl, fun _ => ⟨rfl, fun _ => ⟨rfl, fun _ => trivial⟩⟩⟩⟩
  · trivial

theorem batchIdFor_silent (key : Option String) :
    Prog.Asks SendOp.isSilent (batchIdFor crates key).run := by
  cases key with
  | some key => trivial
  | none => exact ⟨rfl, fun _ => trivial⟩

theorem reportStart_other (plan : Plan) (outbound : OutboundMessage) :
    (reportStart session plan outbound).Asks SendOp.isOther :=
  ⟨rfl, fun _ => ⟨rfl, fun _ => ⟨rfl, fun _ => trivial⟩⟩⟩

theorem posted_of_other (other : ∀ event ∈ events, event.1.isOther = true) : posted events = [] := by
  refine posted_of_no_message fun event member => ?_
  have silent := other event member
  simpa [SendOp.isOther] using silent

/-! ## The course of a send -/

/-- What goes out, once the attachments are uploaded. -/
def plannedMessages (crates : Crates) (plan : Plan) (uploaded : List MediaItem) : List Message :=
  if plan.native then
    mediaMessages crates plan.deliveryItemKey plan.preparedClientId plan.caption uploaded
  else textMessages crates plan.deliveryItemKey plan.chunks

/-- The media items of the attachments: one of each, the first of them the prepared one. -/
structure Uploads (prepared : Option MediaItem) (attachments : List NativeAttachment)
    (uploaded : List MediaItem) : Prop where
  counted : uploaded.length = attachments.length
  first : ∀ item, prepared = some item → ∀ head ∈ uploaded.head?, head = item

theorem uploadNext_inv {account : WeixinAccount} {chatId : String} {prepared : Option MediaItem}
    {offset : Nat} {planned : List BatchItem} {uploaded next : List MediaItem}
    {attachment : NativeAttachment}
    (run : Prog.Run (uploadNext crates account chatId prepared offset planned uploaded
      attachment).run events (some (.ok next))) :
    ∃ media, next = uploaded ++ [media] ∧ (uploaded = [] → ∀ item, prepared = some item →
      media = item) := by
  simp only [uploadNext] at run
  split at run
  · rename_i item due
    obtain ⟨-, mismatch | same⟩ := Prog.Run.ret_inv run
    · simp at mismatch
    obtain rfl := Except.ok.inj (Option.some.inj same)
    refine ⟨item, rfl, fun empty other given => ?_⟩
    rw [empty] at due
    exact Option.some.inj (due.symm.trans given)
  · rename_i none
    rcases Prog.Run.bind_inv run with ⟨mismatch, -⟩ | ⟨result, _, _, lifted, ends, -⟩
    · simp at mismatch
    cases result with
    | error failure =>
        obtain ⟨-, mismatch | mismatch⟩ := Prog.Run.ret_inv ends <;> simp at mismatch
    | ok outcome =>
        cases outcome with
        | error error =>
            obtain ⟨-, mismatch | mismatch⟩ := Prog.Run.ret_inv ends <;> simp at mismatch
        | ok media =>
            obtain ⟨-, mismatch | same⟩ := Prog.Run.ret_inv ends
            · simp at mismatch
            obtain rfl := Except.ok.inj (Option.some.inj same)
            refine ⟨media.2, rfl, fun empty item given => ?_⟩
            rw [empty, given] at none
            simp at none

theorem uploads_inv {account : WeixinAccount} {chatId : String} {prepared : Option MediaItem}
    {offset : Nat} {planned : List BatchItem} {attachments : List NativeAttachment}
    {uploaded : List MediaItem}
    (run : Prog.Run (Fallible.forEach (uploadNext crates account chatId prepared offset planned) []
      attachments).run events (some (.ok uploaded))) : Uploads prepared attachments uploaded := by
  obtain ⟨done, rest, own, last, reached, rfl, rounds, ends, rfl⟩ := forEach_inv run
  have kept : Uploads prepared done reached := by
    refine rounds.keeps (fun done _ uploaded => Uploads prepared done uploaded) ?_ ⟨rfl, by simp⟩
    intro done earlier state next attachment own before ran
    obtain ⟨media, rfl, first⟩ := uploadNext_inv ran
    refine ⟨by simp [before.counted], fun item given head member => ?_⟩
    cases state with
    | nil =>
        obtain rfl : media = head := by simpa using member
        exact first rfl item given
    | cons front back => exact before.first item given head (by simpa using member)
  cases ends with
  | complete ended =>
      rcases ended with mismatch | same
      · simp at mismatch
      · obtain rfl := Except.ok.inj (Option.some.inj same)
        rw [List.append_nil]
        exact kept

/-- The messages of the events behind the uploads, of all the events there are. -/
structure Transmits (crates : Crates) (session : Session) (plan : Plan) (events : List SendEvent)
    (complete : Prop) : Prop where
  split : ∃ uploaded earlier later, Uploads plan.prepared plan.attachments uploaded ∧
    events = earlier ++ later ∧ posted earlier = [] ∧
    (∀ event ∈ later, event.1.isUpload = false) ∧
    Sends session (plannedMessages crates plan uploaded) (posted later) complete

theorem transmit_inv {plan : Plan} {planned : List BatchItem}
    {outcome : Option (Except Failure Progress)}
    (run : Prog.Run (transmit crates session plan planned).run events outcome) :
    (posted events = [] ∧ ∀ reached, outcome ≠ some (.ok reached)) ∨
      Transmits crates session plan events (∃ reached, outcome = some (.ok reached)) := by
  simp only [transmit] at run
  split at run
  · rename_i native
    have silent : ∀ {own : List SendEvent} {outcome : Option (Except Failure (List MediaItem))},
        Prog.Run (Fallible.forEach (uploadNext crates session.account session.chatId plan.prepared
          plan.offset planned) [] plan.attachments).run own outcome → posted own = [] :=
      fun ran => posted_of_other (ran.asks (.forEach (fun _ _ => Asks.other (uploadNext_silent _ _ _ _ _ _ _)) _ _))
    rcases Prog.Run.bindExcept_inv run with ⟨rfl, stopped⟩ | ⟨error, rfl, failed⟩ |
      ⟨uploaded, earlier, later, ran, sends, rfl⟩
    · exact Or.inl ⟨silent stopped, by simp⟩
    · exact Or.inl ⟨silent failed, by simp⟩
    · obtain ⟨noUpload, sent⟩ := sendMessages_inv sends
      refine Or.inr ⟨uploaded, earlier, later, uploads_inv ran, rfl, silent ran, noUpload, ?_⟩
      rw [plannedMessages, if_pos native]
      exact sent
  · rename_i text
    obtain ⟨noUpload, sent⟩ := sendMessages_inv run
    refine Or.inr ⟨[], [], events, ?_, rfl, rfl, noUpload, ?_⟩
    · have empty : plan.attachments = [] := by simpa [Plan.native] using text
      rw [empty]
      exact ⟨rfl, by simp⟩
    · rw [plannedMessages, if_neg text]
      exact sent

/-- A quiet end changes nothing about what was sent; a shorter one completes nothing. -/
theorem Transmits.ends {plan : Plan} {later : List SendEvent} {complete finished : Prop}
    (transmits : Transmits crates session plan events complete)
    (quiet : ∀ event ∈ later, event.1.isQuiet = true) (stronger : finished → complete) :
    Transmits crates session plan (events ++ later) finished := by
  obtain ⟨uploaded, earlier, own, counted, rfl, silent, noUpload, sent⟩ := transmits.split
  refine ⟨uploaded, earlier, own ++ later, counted, by simp, silent, ?_, ?_⟩
  · intro event member
    rcases List.mem_append.mp member with early | late
    · exact noUpload event early
    · exact no_upload_of_quiet quiet event late
  · rw [posted_append, posted_of_quiet quiet, List.append_nil]
    exact ⟨sent.planned, sent.accepted, fun ended => sent.whole (stronger ended)⟩

theorem Transmits.begins {plan : Plan} {before : List SendEvent} {complete : Prop}
    (transmits : Transmits crates session plan events complete) (silent : posted before = []) :
    Transmits crates session plan (before ++ events) complete := by
  obtain ⟨uploaded, earlier, own, counted, rfl, none, noUpload, sent⟩ := transmits.split
  exact ⟨uploaded, before ++ earlier, own, counted, by simp, by simp [silent, none], noUpload, sent⟩

theorem reportFailure_quiet (plan : Plan) (outbound : OutboundMessage) (failure : Failure) :
    (reportFailure session plan outbound failure).Asks SendOp.isQuiet := by
  refine .bind (updateDeliveryBatch_quiet _ _ _) fun _ => ?_
  exact ⟨rfl, fun _ => ⟨rfl, fun _ => trivial⟩⟩

theorem reportSuccess_quiet (plan : Plan) (outbound : OutboundMessage) (progress : Progress) :
    (reportSuccess session plan outbound progress).Asks SendOp.isQuiet := by
  refine .bind (updateDeliveryBatch_quiet _ _ _) fun _ => ?_
  exact ⟨rfl, fun _ => ⟨rfl, fun _ => trivial⟩⟩

theorem sendPlanned_inv {account : WeixinAccount} {contextToken : String}
    {outbound : OutboundMessage} {plan : Plan} {outcome : Option (Except GatewayError Json)}
    (run : Prog.Run (sendPlanned crates account contextToken outbound plan).run events outcome) :
    (posted events = [] ∧ ∀ response, outcome ≠ some (.ok response)) ∨
      ∃ batchId, Transmits crates ⟨account, outbound.chatId, contextToken, batchId⟩ plan events
        (∃ response, outcome = some (.ok response)) := by
  rcases Prog.Run.bindExcept_inv run with ⟨rfl, stopped⟩ | ⟨error, rfl, failed⟩ |
    ⟨batchId, naming, further, named, starts, rfl⟩
  · exact Or.inl ⟨posted_of_other (stopped.asks (Asks.other (batchIdFor_silent _))), by simp⟩
  · exact Or.inl ⟨posted_of_other (failed.asks (Asks.other (batchIdFor_silent _))), by simp⟩
  have unnamed := posted_of_other (named.asks (Asks.other (batchIdFor_silent _)))
  rcases Prog.Run.liftBind_inv starts with ⟨rfl, stopped⟩ | ⟨_, opening, rest, started, goes, rfl⟩
  · refine Or.inl ⟨?_, by simp⟩
    rw [posted_append, unnamed, posted_of_other (stopped.asks (reportStart_other _ _))]
    rfl
  have unopened := posted_of_other (started.asks (reportStart_other _ _))
  have silent : posted (naming ++ opening) = [] := by
    rw [posted_append, unnamed, unopened, List.append_nil]
  rw [← List.append_assoc]
  rcases Prog.Run.liftBind_inv goes with ⟨rfl, stopped⟩ | ⟨result, own, ending, ran, ends, rfl⟩
  · rcases transmit_inv stopped with ⟨none, -⟩ | transmits
    · exact Or.inl ⟨by simp [unnamed, unopened, none], by simp⟩
    · refine Or.inr ⟨batchId, ?_⟩
      have incomplete : ∀ response : Json,
          (none : Option (Except GatewayError Json)) ≠ some (.ok response) := by simp
      rw [← List.append_nil rest]
      refine (transmits.ends (by simp) ?_).begins silent
      rintro ⟨response, same⟩
      exact absurd same (incomplete response)
  cases result with
  | error failure =>
      have incomplete : ∀ response, outcome ≠ some (.ok response) := by
        rcases Prog.Run.liftBind_inv ends with ⟨rfl, -⟩ | ⟨_, _, _, -, throws, -⟩
        · simp
        · obtain ⟨-, rfl | rfl⟩ := Prog.Run.ret_inv throws <;> simp
      have quiet : ∀ event ∈ ending, event.1.isQuiet = true := by
        refine Prog.Run.asks (.liftBind (reportFailure_quiet _ _ _) fun _ => ?_) ends
        trivial
      rcases transmit_inv ran with ⟨none, -⟩ | transmits
      · refine Or.inl ⟨?_, incomplete⟩
        simp only [posted_append, unnamed, unopened, none, posted_of_quiet quiet, List.append_nil]
      · refine Or.inr ⟨batchId, (transmits.ends quiet ?_).begins silent⟩
        rintro ⟨response, same⟩
        exact absurd same (incomplete response)
  | ok progress =>
      have quiet : ∀ event ∈ ending, event.1.isQuiet = true := by
        refine Prog.Run.asks (.liftBind (reportSuccess_quiet _ _ _) fun _ =>
          .askBind rfl fun _ => ?_) ends
        trivial
      rcases transmit_inv ran with ⟨-, mismatch⟩ | transmits
      · exact absurd rfl (mismatch progress)
      · exact Or.inr ⟨batchId, (transmits.ends quiet fun _ => ⟨progress, rfl⟩).begins silent⟩

end

/-- What a send takes its attachments to be: none unless it replies with them, and a single one where
one was uploaded beforehand. -/
structure Resolved (outbound : OutboundMessage) (attachments : List NativeAttachment) : Prop where
  native : attachments.isEmpty = !shouldSendNativeAttachmentReply outbound
  single : ∀ item, preparedItem (outbound.metadata.get "provider_media_state") = some item →
    attachments.length ≤ 1

theorem resolveNativeMediaAttachments_filled {outbound : OutboundMessage} {events : List SendEvent}
    {resolved : List NativeAttachment}
    (run : Prog.Run (resolveNativeMediaAttachments outbound).run events (some (.ok resolved))) :
    resolved.isEmpty = false := by
  rcases Prog.Run.bindExcept_inv run with ⟨mismatch, -⟩ | ⟨_, mismatch, -⟩ | ⟨found, _, _, -, ends, -⟩
  · simp at mismatch
  · simp at mismatch
  split at ends
  · obtain ⟨-, mismatch | mismatch⟩ := Prog.Run.ret_inv ends <;> simp at mismatch
  · rename_i filled
    obtain ⟨-, mismatch | same⟩ := Prog.Run.ret_inv ends
    · simp at mismatch
    obtain rfl := Except.ok.inj (Option.some.inj same)
    simpa using filled

theorem nativeAttachments_resolved {crates : Crates} {account : WeixinAccount} {contextToken : String}
    {outbound : OutboundMessage} {events : List SendEvent} {attachments : List NativeAttachment}
    (run : Prog.Run (nativeAttachments crates account contextToken outbound).run events
      (some (.ok attachments))) : Resolved outbound attachments := by
  simp only [nativeAttachments] at run
  split at run
  · rename_i native
    split at run
    · obtain ⟨-, mismatch | same⟩ := Prog.Run.ret_inv run
      · simp at mismatch
      obtain rfl := Except.ok.inj (Option.some.inj same)
      exact ⟨by simp [native], by simp⟩
    · rename_i unprepared
      rcases Prog.Run.liftBind_inv run with ⟨mismatch, -⟩ | ⟨result, _, _, resolves, ends, -⟩
      · simp at mismatch
      cases result with
      | error error =>
          rcases Prog.Run.liftBind_inv ends with ⟨mismatch, -⟩ | ⟨_, _, _, -, throws, -⟩
          · simp at mismatch
          · obtain ⟨-, mismatch | mismatch⟩ := Prog.Run.ret_inv throws <;> simp at mismatch
      | ok resolved =>
          obtain ⟨-, mismatch | same⟩ := Prog.Run.ret_inv ends
          · simp at mismatch
          obtain rfl := Except.ok.inj (Option.some.inj same)
          refine ⟨?_, fun item given => ?_⟩
          · rw [native, resolveNativeMediaAttachments_filled resolves]
            rfl
          · simp [preparedItem, unprepared] at given
  · rename_i text
    obtain ⟨-, mismatch | same⟩ := Prog.Run.ret_inv run
    · simp at mismatch
    obtain rfl := Except.ok.inj (Option.some.inj same)
    exact ⟨by simp [text], by simp⟩

theorem sendOutbound_inv {crates : Crates} {outbound : OutboundMessage} {events : List SendEvent}
    {outcome : Option (Except GatewayError Json)}
    (run : Prog.Run (sendOutbound crates outbound).run events outcome) :
    (posted events = [] ∧ ∀ response, outcome ≠ some (.ok response)) ∨
      ∃ account contextToken batchId attachments, Resolved outbound attachments ∧
        Transmits crates ⟨account, outbound.chatId, contextToken, batchId⟩
          (planOf outbound attachments) events (∃ response, outcome = some (.ok response)) := by
  rcases Prog.Run.bindExcept_inv run with ⟨rfl, stopped⟩ | ⟨error, rfl, failed⟩ |
    ⟨opened, earlier, further, opens, goes, rfl⟩
  · exact Or.inl ⟨posted_of_other (stopped.asks (Asks.other (openSession_silent _))), by simp⟩
  · exact Or.inl ⟨posted_of_other (failed.asks (Asks.other (openSession_silent _))), by simp⟩
  have silent := posted_of_other (opens.asks (Asks.other (openSession_silent _)))
  rcases Prog.Run.bindExcept_inv goes with ⟨rfl, stopped⟩ | ⟨error, rfl, failed⟩ |
    ⟨attachments, own, rest, resolves, sends, rfl⟩
  · refine Or.inl ⟨?_, by simp⟩
    rw [posted_append, silent, posted_of_other (stopped.asks (nativeAttachments_other _ _ _))]
    rfl
  · refine Or.inl ⟨?_, by simp⟩
    rw [posted_append, silent, posted_of_other (failed.asks (nativeAttachments_other _ _ _))]
    rfl
  have quiet : posted (earlier ++ own) = [] := by
    rw [posted_append, silent, posted_of_other (resolves.asks (nativeAttachments_other _ _ _))]
    rfl
  rw [← List.append_assoc]
  dsimp only at sends
  split at sends
  · obtain ⟨rfl, ended⟩ := Prog.Run.ret_inv sends
    refine Or.inl ⟨by simpa using quiet, ?_⟩
    rcases ended with rfl | rfl <;> simp
  · rcases sendPlanned_inv sends with ⟨none, incomplete⟩ | ⟨batchId, transmits⟩
    · exact Or.inl ⟨by rw [posted_append, quiet, none]; rfl, incomplete⟩
    · exact Or.inr ⟨opened.1, opened.2, batchId, attachments, nativeAttachments_resolved resolves,
        transmits.begins quiet⟩

/-- Messages that a send may be made of. -/
def PlannedFor (crates : Crates) (outbound : OutboundMessage) (messages : List Message) : Prop :=
  ∃ attachments uploaded, Resolved outbound attachments ∧
    Uploads (planOf outbound attachments).prepared attachments uploaded ∧
    messages = plannedMessages crates (planOf outbound attachments) uploaded

/-- The shape of a send: uploads first, then planned messages in order, each behind accepted ones. -/
structure FollowsPlan (crates : Crates) (outbound : OutboundMessage) (events : List SendEvent)
    (outcome : Option (Except GatewayError Json)) : Prop where
  uploadsFirst : ∀ earlier event later, events = earlier ++ event :: later →
    event.1.isUpload = true → posted earlier = []
  behind : ∀ one ∈ (posted events).dropLast, accepts one.answer = true
  planned : posted events = [] ∨ ∃ session begun rest, session.chatId = outbound.chatId ∧
    PlannedFor crates outbound (begun ++ rest) ∧ List.Forall₂ (Carries session) begun (posted events)
  whole : ∀ response, outcome = some (.ok response) →
    (∀ one ∈ posted events, accepts one.answer = true) ∧
      ∃ messages, PlannedFor crates outbound messages ∧ (posted events).length = messages.length

/-- Whatever the answers and wherever it stops, a send uploads first and then posts a beginning of
its planned messages in order, each behind one that the provider took; a send that returns a
response has posted them all, and the provider took each. -/
theorem sends_follow_their_plan (crates : Crates) (outbound : OutboundMessage)
    {events : List SendEvent} {outcome : Option (Except GatewayError Json)}
    (run : Prog.Run (sendOutbound crates outbound).run events outcome) :
    FollowsPlan crates outbound events outcome := by
  rcases sendOutbound_inv run with ⟨none, incomplete⟩ |
    ⟨account, contextToken, batchId, attachments, resolved, transmits⟩
  · refine ⟨?_, by simp [none], Or.inl none, fun response ended => absurd ended (incomplete response)⟩
    rintro earlier event later rfl -
    rw [posted_append, List.append_eq_nil_iff] at none
    exact none.1
  · obtain ⟨uploaded, earlier, later, uploads, rfl, silent, noUpload, sends⟩ := transmits.split
    have planned : PlannedFor crates outbound
        (plannedMessages crates (planOf outbound attachments) uploaded) :=
      ⟨attachments, uploaded, resolved, uploads, rfl⟩
    have same : posted (earlier ++ later) = posted later := by
      rw [posted_append, silent, List.nil_append]
    refine ⟨?_, ?_, ?_, ?_⟩
    · intro front event back split uploads
      -- The upload is not behind the point where the messages begin.
      rcases List.append_eq_append_iff.mp split with ⟨middle, rfl, whole⟩ | ⟨middle, rfl, -⟩
      · have behind := noUpload event (by simp [whole])
        simp [behind] at uploads
      · rw [posted_append, List.append_eq_nil_iff] at silent
        exact silent.1
    · rw [same]
      exact sends.accepted
    · obtain ⟨begun, rest, whole, carried⟩ := sends.planned
      rw [same]
      exact Or.inr ⟨_, begun, rest, rfl, whole ▸ planned, carried⟩
    · intro response ended
      obtain ⟨count, accepted⟩ := sends.whole ⟨response, ended⟩
      rw [same]
      exact ⟨accepted, _, planned, count⟩

/-! A picture that was uploaded beforehand, with a caption; the provider takes only the caption. -/

def plainCrates : Crates where
  md5 _ := ""
  encrypt _ bytes := bytes
  encodeUrl text := text
  simple _ := String.ofList (List.replicate 32 'a')
  uuidBytes _ := List.replicate 16 0xaa
  cdnBaseUrl := "https://cdn.example"

def captioned : OutboundMessage where
  platform := "weixin"
  chatId := "user-1"
  text := "look"
  attachments := [.obj [("kind", .str "image"), ("path", .str "/tmp/cat.png")]]
  timestamp := "t"
  metadata := [
    ("provider_client_id", .str "wxmsg_1"),
    ("provider_media_state", .obj [("delivery_kind", .str "image"),
      ("message_item", .obj [("type", .num 2)]), ("used_file_fallback", .bool false)]),
    ("source", .str "harborbeacon")]

/-- The provider takes text and refuses everything else. -/
def scriptedAnswer : (op : SendOp) → Unit → Option (SendAns op × Unit)
  | .account, _ => some (⟨"bot", "token", "https://host", "me"⟩, ())
  | .contextToken _ _, _ => some (.ok "context", ())
  | .newUuid, _ => some (⟨0⟩, ())
  | .utcNowIso, _ => some ("now", ())
  | .updateTransport _ _, _ => some ((), ())
  | .postJson _ .sendMessage payload, _ =>
      if ((payload.pointer ["msg", "item_list"]).bind Json.asArray).any (fun items =>
          items.any fun item => (item.get "text_item").isSome)
      then some (.ok (.obj [("message_id", .str "m1"), ("ret", .num 0)]), ())
      else some (.ok (.obj [("errmsg", .str "busy"), ("ret", .num 1)]), ())
  | _, _ => none

theorem sends_follow_their_plan_half_sent :
    let run := Prog.record scriptedAnswer (sendOutbound plainCrates captioned).run ()
    (posted run.1).length = 2 ∧ FollowsPlan plainCrates captioned run.1 run.2 :=
  ⟨by decide,
    sends_follow_their_plan plainCrates captioned
      (Prog.run_record scriptedAnswer (sendOutbound plainCrates captioned).run ())⟩

end Sending

end Weixin

end HarborGate
