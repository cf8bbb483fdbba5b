import HarborGate.Setup.Login

/-!
Which accounts a QR login binds. However the calls are interleaved, an account is saved only if the
provider confirmed it for a QR code that it had issued to the gateway itself, asked for within the
time of that code and at a host that the provider named.
-/

namespace HarborGate

namespace Setup

open Interleave Weixin

abbrev LoginEvent := loginMachine.Event

/-! ## What the provider has said -/

/-- The QR code that an event was told of. -/
def issuedBy (op : LoginOp) (answer : LoginAns op) : Option String :=
  match op, answer with
  | .getBotQr _, .ok payload => Text.trimmed ((payload.get "qrcode").bind Json.asStr)
  | _, _ => none

/-- A reading of the clock. -/
def readBy (op : LoginOp) (answer : LoginAns op) : Option Nat :=
  match op, answer with
  | .epochSeconds, epoch => some epoch
  | _, _ => none

/-- A status that was asked for: the host, the QR code and the status. -/
structure Told where
  host : String
  qrcode : String
  status : Json

def toldBy (op : LoginOp) (answer : LoginAns op) : Option Told :=
  match op, answer with
  | .getQrStatus host qrcode, .ok status => some ⟨host, qrcode, status⟩
  | _, _ => none

/-- A call went through an event of one kind and then through one of another. -/
def Through (trace : List LoginEvent) (first second : LoginEvent → Prop) : Prop :=
  ∃ earlier event later, trace = earlier ++ event :: later ∧ first event ∧
    ∃ next ∈ later, next.task = event.task ∧ second next

/-- The provider issued the QR code to a call that read the clock after that. -/
def Issued (trace : List LoginEvent) (qrcode : String) (epoch : Nat) : Prop :=
  Through trace (fun event => issuedBy event.op event.answer = some qrcode)
    fun event => readBy event.op event.answer = some epoch

/-- The call asked for the status after it had read the clock. -/
def Asked (trace : List LoginEvent) (task now : Nat) (told : Told) : Prop :=
  Through trace (fun event => event.task = task ∧ readBy event.op event.answer = some now)
    fun event => toldBy event.op event.answer = some told

/-- A base URL that may be stored for a QR code: the provider's own, one that it redirected to, or
the one of an account that it confirmed. -/
inductive Trusted (trace : List LoginEvent) (qrcode : String) : String → Prop
  | provider : Trusted trace qrcode ilinkBaseUrl
  | redirected {baseUrl host : String} {event : LoginEvent} {status : Json} (member : event ∈ trace)
      (told : toldBy event.op event.answer = some ⟨pollHost baseUrl, qrcode, status⟩)
      (before : Trusted trace qrcode baseUrl) (redirects : statusOf status = "scaned_but_redirect")
      (named : redirectHost status = some host) : Trusted trace qrcode ("https://" ++ host)
  | confirmed {baseUrl : String} {event : LoginEvent} {status : Json} (member : event ∈ trace)
      (told : toldBy event.op event.answer = some ⟨pollHost baseUrl, qrcode, status⟩)
      (before : Trusted trace qrcode baseUrl) (confirms : statusOf status = "confirmed") :
      Trusted trace qrcode (accountOf status).baseUrl

/-- A login with a QR code is about one that was issued, for its time or less. -/
structure Genuine (trace : List LoginEvent) (now : Nat) (login : JsonMap) : Prop where
  issued : qrcodeOf login ≠ "" → ∃ epoch, Issued trace (qrcodeOf login) epoch ∧
    (deadlineOf login = some (epoch + weixinQrTtlSeconds) ∨
      ∃ past ≤ now, deadlineOf login = some past)
  trusted : qrcodeOf login ≠ "" → Trusted trace (qrcodeOf login) (baseUrlOf login)

section

variable {trace : List LoginEvent} {event : LoginEvent} {qrcode : String} {now later : Nat}
  {login : JsonMap}

theorem Through.concat {first second : LoginEvent → Prop} (through : Through trace first second) :
    Through (trace ++ [event]) first second := by
  obtain ⟨earlier, head, later, rfl, isFirst, next, member, same, isSecond⟩ := through
  exact ⟨earlier, head, later ++ [event], by simp, isFirst, next, List.mem_append_left _ member, same,
    isSecond⟩

theorem Through.ends {first second : LoginEvent → Prop} {head : LoginEvent} (member : head ∈ trace)
    (isFirst : first head) (same : event.task = head.task) (isSecond : second event) :
    Through (trace ++ [event]) first second := by
  obtain ⟨earlier, later, rfl⟩ := List.append_of_mem member
  exact ⟨earlier, head, later ++ [event], by simp, isFirst, event, by simp, same, isSecond⟩

theorem Trusted.concat {baseUrl : String} (trusted : Trusted trace qrcode baseUrl) :
    Trusted (trace ++ [event]) qrcode baseUrl := by
  induction trusted with
  | provider => exact .provider
  | redirected member told before redirects named ih =>
      exact .redirected (List.mem_append_left _ member) told ih redirects named
  | confirmed member told before confirms ih =>
      exact .confirmed (List.mem_append_left _ member) told ih confirms

theorem Genuine.concat (genuine : Genuine trace now login) (order : now ≤ later) :
    Genuine (trace ++ [event]) later login where
  issued := by
    intro filled
    obtain ⟨epoch, issued, deadline⟩ := genuine.issued filled
    refine ⟨epoch, Through.concat issued, ?_⟩
    rcases deadline with full | ⟨past, before, short⟩
    · exact Or.inl full
    · exact Or.inr ⟨past, Nat.le_trans before order, short⟩
  trusted := fun filled => (genuine.trusted filled).concat

theorem genuine_of_blank (blank : qrcodeOf login = "") : Genuine trace now login :=
  ⟨fun filled => absurd blank filled, fun filled => absurd blank filled⟩

end

/-! ## Phases of a call -/

/-- What a call knows: the QR code it was issued and its time, or the login it loaded with the
reading of the clock, the status and the second reading that followed. -/
inductive LoginPhase
  | nothing
  | challenged (qrcode : String)
  | started (qrcode : String) (epoch : Nat)
  | loaded (login : JsonMap)
  | timed (login : JsonMap) (now : Nat)
  | told (login : JsonMap) (now : Option Nat) (status : Json) (reading : Option Nat)

def LoginPhase.next : LoginPhase → (op : LoginOp) → LoginAns op → LoginPhase
  | _, .loadLogin, .ok login => .loaded login
  | phase, .getBotQr _, .ok payload =>
      match Text.trimmed ((payload.get "qrcode").bind Json.asStr) with
      | some qrcode => .challenged qrcode
      | none => phase
  | .challenged qrcode, .epochSeconds, epoch => .started qrcode epoch
  | .loaded login, .epochSeconds, now => .timed login now
  | .loaded login, .getQrStatus _ _, .ok status => .told login none status none
  | .timed login now, .getQrStatus _ _, .ok status => .told login (some now) status none
  | .told login now status _, .epochSeconds, reading => .told login now status (some reading)
  | phase, _, _ => phase

def LoginPhase.login : LoginPhase → Option JsonMap
  | .loaded login => some login
  | .timed login _ => some login
  | .told login _ _ _ => some login
  | _ => none

def LoginPhase.status : LoginPhase → Option Json
  | .told _ _ status _ => some status
  | _ => none

def LoginPhase.reading : LoginPhase → Option Nat
  | .told _ _ _ reading => reading
  | _ => none

/-- A login made of the one that was loaded, with what the status has changed. -/
structure Derived (phase : LoginPhase) (old login : JsonMap) : Prop where
  code : qrcodeOf login = qrcodeOf old
  deadline : deadlineOf login = deadlineOf old ∨
    ∃ reading, phase.reading = some reading ∧ deadlineOf login = some reading
  base : baseUrlOf login = baseUrlOf old ∨ ∃ status, phase.status = some status ∧
    ((statusOf status = "scaned_but_redirect" ∧ ∃ host, redirectHost status = some host ∧
        baseUrlOf login = "https://" ++ host) ∨
      statusOf status = "confirmed" ∧ baseUrlOf login = (accountOf status).baseUrl)

/-- What a call may save: no QR code, the one it was issued, or the one it loaded. -/
inductive MaySave : LoginPhase → JsonMap → Prop
  | blank {phase : LoginPhase} {login : JsonMap} (none : qrcodeOf login = "") : MaySave phase login
  | issued {qrcode : String} {epoch : Nat} {login : JsonMap} (code : qrcodeOf login = qrcode)
      (deadline : deadlineOf login = some (epoch + weixinQrTtlSeconds))
      (base : baseUrlOf login = ilinkBaseUrl) : MaySave (.started qrcode epoch) login
  | derived {phase : LoginPhase} {old login : JsonMap} (own : phase.login = some old)
      (derived : Derived phase old login) : MaySave phase login

/-- A status may be asked for where the login has the QR code and the base URL, and its time is not
over by the reading of the clock, if it has a deadline. -/
inductive MayAsk : LoginPhase → String → String → Prop
  | timed {login : JsonMap} {now expires : Nat} (deadline : deadlineOf login = some expires)
      (inTime : now < expires) (filled : qrcodeOf login ≠ "") :
      MayAsk (.timed login now) (pollHost (baseUrlOf login)) (qrcodeOf login)
  | untimed {login : JsonMap} (deadline : deadlineOf login = none) (filled : qrcodeOf login ≠ "") :
      MayAsk (.loaded login) (pollHost (baseUrlOf login)) (qrcodeOf login)

/-- An account may be saved that a confirmed status tells of in full. -/
inductive MayBind : LoginPhase → WeixinAccount → Prop
  | intro {login : JsonMap} {now reading : Option Nat} {status : Json}
      (confirms : statusOf status = "confirmed") (id : (accountOf status).accountId ≠ "")
      (token : (accountOf status).token ≠ "") :
      MayBind (.told login now status reading) (accountOf status)

def loginAllowed (phase : LoginPhase) : LoginOp → Prop
  | .saveLogin login => MaySave phase login
  | .getQrStatus host qrcode => MayAsk phase host qrcode
  | .saveAccount account => MayBind phase account
  | _ => True

def loginProtocol : Protocol LoginOp LoginAns LoginPhase where
  allows := loginAllowed
  possible
    | .epochSeconds, epoch => epoch + weixinQrTtlSeconds < 2 ^ 64
    | _, _ => True
  next := LoginPhase.next

/-! ## The calls keep to it -/

section

variable {phase : LoginPhase} {old login : JsonMap}

theorem derived_refl (phase : LoginPhase) (login : JsonMap) : Derived phase login login :=
  ⟨rfl, Or.inl rfl, Or.inl rfl⟩

/-- A field that is none of the three may be set to anything. -/
theorem Derived.insert {key : String} {value : Json} (derived : Derived phase old login)
    (other : key ∉ ["qrcode", "expires_at_epoch", "current_base_url"]) :
    Derived phase old (login.insert key value) := by
  simp only [List.mem_cons, List.not_mem_nil, or_false, not_or] at other
  have code : qrcodeOf (login.insert key value) = qrcodeOf login := by
    rw [qrcodeOf, JsonMap.get_insert, if_neg other.1]
    rfl
  have deadline : deadlineOf (login.insert key value) = deadlineOf login := by
    rw [deadlineOf, JsonMap.get_insert, if_neg other.2.1]
    rfl
  have base : baseUrlOf (login.insert key value) = baseUrlOf login := by
    rw [baseUrlOf, JsonMap.get_insert, if_neg other.2.2]
    rfl
  exact ⟨code.trans derived.code, deadline ▸ derived.deadline, base ▸ derived.base⟩

theorem Derived.setBase {baseUrl : String} (derived : Derived phase old login) {status : Json}
    (told : phase.status = some status)
    (given : (statusOf status = "scaned_but_redirect" ∧ ∃ host, redirectHost status = some host ∧
        baseUrl = "https://" ++ host) ∨
      statusOf status = "confirmed" ∧ baseUrl = (accountOf status).baseUrl) :
    Derived phase old (login.insert "current_base_url" (.str baseUrl)) where
  code := by
    rw [qrcodeOf, JsonMap.get_insert, if_neg (by decide)]
    exact derived.code
  deadline := by
    rw [deadlineOf, JsonMap.get_insert, if_neg (by decide)]
    exact derived.deadline
  base := by
    refine Or.inr ⟨status, told, ?_⟩
    rw [baseUrlOf, JsonMap.get_insert, if_pos rfl]
    exact given

theorem asU64_nat {number : Nat} (fits : number < 2 ^ 64) : asU64 (.num (number : Int)) = some number := by
  have nonneg : (0 : Int) ≤ number := Int.natCast_nonneg number
  have small : (number : Int) < 2 ^ 64 := by exact_mod_cast fits
  simp only [asU64, Json.asInt, Option.filter, nonneg, small, and_self, decide_true, if_true,
    Option.map_some, Int.toNat_natCast]

theorem Derived.setDeadline {reading : Nat} (derived : Derived phase old login)
    (read : phase.reading = some reading) (fits : reading < 2 ^ 64) :
    Derived phase old (login.insert "expires_at_epoch" (.num (reading : Int))) where
  code := by
    rw [qrcodeOf, JsonMap.get_insert, if_neg (by decide)]
    exact derived.code
  deadline := by
    refine Or.inr ⟨reading, read, ?_⟩
    rw [deadlineOf, JsonMap.get_insert, if_pos rfl, Option.bind_some, asU64_nat fits]
  base := by
    rw [baseUrlOf, JsonMap.get_insert, if_neg (by decide)]
    exact derived.base

/-- The same login in the phase behind a text of the clock. -/
theorem next_utcNowIso (phase : LoginPhase) (time : String) :
    loginProtocol.next phase .utcNowIso time = phase := by
  cases phase <;> rfl

theorem save_follows {reply : LoginReply} (saves : MaySave phase login) :
    Prog.Follows loginProtocol phase
      (do propagate (← ask (.saveLogin login)); return reply : LoginGate LoginReply).run
      fun _ _ => True := by
  refine Prog.Follows.liftBind saves fun result _ => ?_
  exact Prog.Follows.resultBind (by simp) fun _ _ => trivial

theorem expireLogin_follows (own : phase.login = some login) :
    Prog.Follows loginProtocol phase (expireLogin login).run fun _ _ => True := by
  refine Prog.Follows.liftBind trivial fun checkedAt _ => ?_
  rw [next_utcNowIso]
  refine save_follows (.derived own ?_)
  exact ((derived_refl phase login).insert (by decide)).insert (by decide)

theorem failLogin_follows (own : phase.login = some login) (error : GatewayError) :
    Prog.Follows loginProtocol phase (failLogin login error).run fun _ _ => True := by
  refine Prog.Follows.liftBind trivial fun checkedAt _ => ?_
  rw [next_utcNowIso]
  refine save_follows (.derived own ?_)
  exact (((derived_refl phase login).insert (by decide)).insert (by decide)).insert (by decide)

/-- The updated login may be saved in the phase that the update ends in. -/
def Updated (old : JsonMap) (after : LoginPhase) (result : Except GatewayError JsonMap) : Prop :=
  ∀ login, result = .ok login → after.login = some old ∧ Derived after old login

theorem updated_ok (own : phase.login = some old) (derived : Derived phase old login) :
    Prog.Follows loginProtocol phase (pure login : LoginGate JsonMap).run (Updated old) := by
  intro other same
  obtain rfl := Except.ok.inj same
  exact ⟨own, derived⟩

theorem confirmLogin_follows {now : Option Nat} {status : Json}
    (derived : Derived (.told old now status none) old login)
    (confirms : statusOf status = "confirmed") :
    Prog.Follows loginProtocol (.told old now status none) (confirmLogin login status).run
      (Updated old) := by
  simp only [confirmLogin]
  split
  · exact updated_ok rfl ((derived.insert (by decide)).insert (by decide))
  · rename_i complete
    rw [not_or] at complete
    refine Prog.Follows.liftBind (.intro confirms complete.1 complete.2) fun saved _ => ?_
    refine Prog.Follows.resultBind (fun error _ => ?_) fun _ _ => ?_
    · intro login same
      simp at same
    · refine updated_ok rfl ?_
      exact ((derived.insert (by decide)).insert (by decide)).setBase rfl (Or.inr ⟨confirms, rfl⟩)

theorem updateLogin_follows {now : Option Nat} {status : Json} :
    Prog.Follows loginProtocol (.told old now status none) (updateLogin old status).run
      (Updated old) := by
  refine Prog.Follows.liftBind trivial fun checkedAt _ => ?_
  rw [next_utcNowIso]
  have derived : Derived (.told old now status none) old
      (((old.insert "status" (.str (statusOf status))).insert "last_checked_at"
        (.str checkedAt)).insert "last_error" (.str "")) :=
    (((derived_refl _ old).insert (by decide)).insert (by decide)).insert (by decide)
  dsimp only
  split
  · rename_i redirects
    split
    · rename_i host named
      exact updated_ok rfl (derived.setBase rfl (Or.inl ⟨redirects, host, named, rfl⟩))
    · exact updated_ok rfl derived
  · split
    · refine Prog.Follows.liftBind trivial fun epoch fits => updated_ok rfl ?_
      have later : Derived (.told old now status (some epoch)) old _ :=
        ⟨derived.code, derived.deadline.imp_right (by rintro ⟨_, mismatch, -⟩; cases mismatch),
          derived.base⟩
      exact later.setDeadline rfl (Nat.lt_of_le_of_lt (Nat.le_add_right _ _) fits)
    · split
      · rename_i confirms
        exact confirmLogin_follows derived confirms
      · exact updated_ok rfl derived

theorem told_follows {now : Option Nat} {status : Json} :
    Prog.Follows loginProtocol (.told old now status none)
      (do
        let login ← updateLogin old status
        propagate (← ask (.saveLogin login))
        return ⟨200, ((JsonMap.get login "status").bind Json.asStr) = some "confirmed",
          "微信扫码状态已更新。", login⟩ : LoginGate LoginReply).run fun _ _ => True := by
  refine Prog.Follows.bindExcept updateLogin_follows (fun _ _ _ => trivial) ?_
  intro after login updated
  obtain ⟨own, derived⟩ := updated login rfl
  exact save_follows (.derived own derived)

/-- What the clock leaves to do: the login has run out, or its status may be asked for. -/
theorem isExpired_follows :
    (isExpired login).Follows loginProtocol (.loaded login) fun after expired =>
      after.login = some login ∧ (expired = false → qrcodeOf login ≠ "" →
        MayAsk after (pollHost (baseUrlOf login)) (qrcodeOf login) ∧
          ∀ host qrcode status, ∃ now,
            after.next (.getQrStatus host qrcode) (.ok status) = .told login now status none) := by
  simp only [isExpired]
  split
  · rename_i deadline
    exact Prog.Follows.pure ⟨rfl, fun _ filled => ⟨.untimed deadline filled, fun _ _ _ => ⟨_, rfl⟩⟩⟩
  · rename_i expires deadline
    refine ⟨trivial, fun now _ => ⟨rfl, fun early filled => ⟨.timed deadline ?_ filled,
      fun _ _ _ => ⟨_, rfl⟩⟩⟩⟩
    simpa using early

theorem pollWeixinLogin_follows :
    Prog.Follows loginProtocol .nothing pollWeixinLogin.run fun _ _ => True := by
  refine Prog.Follows.liftBind trivial fun answer _ => ?_
  cases answer with
  | error error => exact Prog.Follows.resultBind (fun _ _ => trivial) (by simp)
  | ok login =>
      show Prog.Follows loginProtocol (.loaded login) _ _
      refine Prog.Follows.resultBind (by simp) fun other same => ?_
      obtain rfl := Except.ok.inj same
      dsimp only
      split
      · trivial
      · rename_i filled
        refine Prog.Follows.routineBind isExpired_follows ?_
        rintro after expired ⟨own, asks⟩
        cases expired with
        | true => exact expireLogin_follows own
        | false =>
            obtain ⟨allowed, told⟩ := asks rfl filled
            refine Prog.Follows.liftBind allowed fun answer _ => ?_
            cases answer with
            | error error =>
                have same : loginProtocol.next after (.getQrStatus (pollHost (baseUrlOf login))
                    (qrcodeOf login)) (.error error) = after := by
                  cases after <;> rfl
                rw [same]
                exact failLogin_follows own error
            | ok status =>
                obtain ⟨now, same⟩ := told (pollHost (baseUrlOf login)) (qrcodeOf login) status
                show Prog.Follows loginProtocol (after.next _ _) _ _
                rw [same]
                exact told_follows

theorem stringField_trim (value : Json) (key : String) :
    Text.trim (stringField value key) = stringField value key := by
  rw [stringField, Adapters.textOf]
  exact Text.trim_trim _

theorem trimmed_stringField {value : Json} {key : String} (filled : stringField value key ≠ "") :
    Text.trimmed ((value.get key).bind Json.asStr) = some (stringField value key) := by
  rw [stringField, Adapters.textOf] at filled ⊢
  cases text : (value.get key).bind Json.asStr with
  | none => simp [text, Text.trim] at filled
  | some raw =>
      rw [text, Option.getD_some] at filled
      rw [Option.getD_some, Text.trimmed, Option.map_some, Option.filter_some, if_pos (by simpa using filled)]

theorem next_getBotQr {botType : String} {payload : Json} (filled : stringField payload "qrcode" ≠ "") :
    loginProtocol.next .nothing (.getBotQr botType) (.ok payload) =
      .challenged (stringField payload "qrcode") := by
  show LoginPhase.next .nothing (.getBotQr botType) (.ok payload) = _
  simp only [LoginPhase.next, trimmed_stringField filled]

/-- An error that names the account at hand. -/
theorem refuse_follows {α : Type} {post : LoginPhase → Except GatewayError α → Prop}
    (error : WeixinAccount → GatewayError) (fails : ∀ after error, post after (.error error)) :
    Prog.Follows loginProtocol phase
      (do let account ← ask .stateAccount; throw (error account) : LoginGate α).run post :=
  Prog.Follows.liftBind trivial fun account _ => fails _ (error account)

theorem requestQrChallenge_follows (botType : String) :
    Prog.Follows loginProtocol .nothing (requestQrChallenge botType).run fun after result =>
      ∀ challenge, result = .ok challenge →
        after = .challenged challenge.qrcode ∧ Text.trim challenge.qrcode = challenge.qrcode := by
  simp only [requestQrChallenge]
  generalize (if Text.isBlank botType = true then "3" else Text.trim botType) = chosen
  refine Prog.Follows.liftBind trivial fun answer _ => ?_
  cases answer with
  | error error =>
      refine Prog.Follows.resultBind (fun _ _ => ?_) (by simp)
      intro challenge same
      simp at same
  | ok payload =>
      refine Prog.Follows.resultBind (by simp) fun other same => ?_
      obtain rfl := Except.ok.inj same
      split
      · exact refuse_follows _ (by simp)
      · rename_i filled
        rw [next_getBotQr filled]
        intro challenge same
        obtain rfl := Except.ok.inj same
        exact ⟨rfl, stringField_trim _ _⟩

theorem challengeLogin_deadline {challenge : QrChallenge} {startedAt : String} {epoch : Nat}
    (fits : epoch + weixinQrTtlSeconds < 2 ^ 64) :
    deadlineOf (challengeLogin challenge startedAt epoch) = some (epoch + weixinQrTtlSeconds) := by
  have found : JsonMap.get (challengeLogin challenge startedAt epoch) "expires_at_epoch" =
    some (.num ((epoch + weixinQrTtlSeconds : Nat) : Int)) := rfl
  rw [deadlineOf, found, Option.bind_some, asU64_nat fits]

theorem startWeixinLogin_follows :
    Prog.Follows loginProtocol .nothing startWeixinLogin.run fun _ _ => True := by
  refine Prog.Follows.routineBind (requestQrChallenge_follows "3") ?_
  intro after result ended
  cases result with
  | ok challenge =>
      obtain ⟨rfl, trimmed⟩ := ended challenge rfl
      refine Prog.Follows.liftBind trivial fun startedAt _ => ?_
      rw [next_utcNowIso]
      refine Prog.Follows.liftBind trivial fun epoch fits => ?_
      exact save_follows (.issued trimmed (challengeLogin_deadline fits) rfl)
  | error error =>
      refine Prog.Follows.liftBind trivial fun startedAt _ => ?_
      refine Prog.Follows.liftBind trivial fun checkedAt _ => ?_
      exact save_follows (.blank rfl)

theorem unbindWeixin_follows :
    unbindWeixin.Follows loginProtocol .nothing fun _ _ => True := by
  refine Prog.Follows.performBind trivial fun response _ => ?_
  split
  · exact ⟨.blank rfl, fun _ _ => trivial⟩
  · trivial

theorem program_follows (call : LoginCall) :
    call.program.Follows loginProtocol .nothing fun _ _ => True := by
  cases call with
  | start => exact Prog.Follows.bind startWeixinLogin_follows fun _ _ _ => trivial
  | poll => exact Prog.Follows.bind pollWeixinLogin_follows fun _ _ _ => trivial
  | unbind => exact Prog.Follows.bind unbindWeixin_follows fun _ _ _ => trivial

end

/-! ## Every run keeps to it -/

/-- What a call knows is so. -/
def Knows (trace : List LoginEvent) (clock task : Nat) : LoginPhase → Prop
  | .nothing => True
  | .challenged qrcode => ∃ issue ∈ trace, issue.task = task ∧
      issuedBy issue.op issue.answer = some qrcode
  | .started qrcode epoch => Issued trace qrcode epoch
  | .loaded login => Genuine trace clock login
  | .timed login now => Genuine trace now login ∧ now ≤ clock ∧ ∃ reading ∈ trace,
      reading.task = task ∧ readBy reading.op reading.answer = some now
  | .told login now status reading => ∃ time expires, now = some time ∧ Genuine trace time login ∧
      time ≤ clock ∧ deadlineOf login = some expires ∧ time < expires ∧ qrcodeOf login ≠ "" ∧
      Asked trace task time ⟨pollHost (baseUrlOf login), qrcodeOf login, status⟩ ∧
      ∀ later, reading = some later → later ≤ clock

/-- The account was confirmed, for a QR code of the gateway's own and in its time. -/
def ConfirmedFor (trace : List LoginEvent) (task : Nat) (account : WeixinAccount) : Prop :=
  ∃ qrcode epoch now baseUrl status, Issued trace qrcode epoch ∧
    now < epoch + weixinQrTtlSeconds ∧ Asked trace task now ⟨pollHost baseUrl, qrcode, status⟩ ∧
    Trusted trace qrcode baseUrl ∧ statusOf status = "confirmed" ∧ account = accountOf status ∧
    account.accountId ≠ "" ∧ account.token ≠ ""

section

variable {trace : List LoginEvent} {event : LoginEvent} {clock later task now : Nat}
  {phase : LoginPhase} {login old : JsonMap}

theorem Knows.concat (knows : Knows trace clock task phase) (order : clock ≤ later) :
    Knows (trace ++ [event]) later task phase := by
  cases phase with
  | nothing => trivial
  | challenged qrcode =>
      obtain ⟨issue, member, known⟩ := knows
      exact ⟨issue, List.mem_append_left _ member, known⟩
  | started qrcode epoch => exact Through.concat knows
  | loaded login => exact Genuine.concat knows order
  | timed login now =>
      obtain ⟨genuine, before, reading, member, known⟩ := knows
      exact ⟨genuine.concat (Nat.le_refl _), Nat.le_trans before order, reading,
        List.mem_append_left _ member, known⟩
  | told login now status reading =>
      obtain ⟨time, expires, same, genuine, before, deadline, inTime, filled, asked, read⟩ := knows
      exact ⟨time, expires, same, genuine.concat (Nat.le_refl _), Nat.le_trans before order, deadline,
        inTime, filled, Through.concat asked, fun later given => Nat.le_trans (read later given) order⟩

/-- The time of a login that is still running is what it was issued for. -/
theorem Genuine.running {expires : Nat} (genuine : Genuine trace now login)
    (filled : qrcodeOf login ≠ "") (deadline : deadlineOf login = some expires)
    (inTime : now < expires) :
    ∃ epoch, Issued trace (qrcodeOf login) epoch ∧ now < epoch + weixinQrTtlSeconds := by
  obtain ⟨epoch, issued, full | ⟨past, before, short⟩⟩ := genuine.issued filled
  · obtain rfl := Option.some.inj (deadline.symm.trans full)
    exact ⟨epoch, issued, inTime⟩
  · obtain rfl := Option.some.inj (deadline.symm.trans short)
    omega

theorem Derived.genuine (derived : Derived phase old login) (genuine : Genuine trace now old)
    (order : now ≤ clock) (read : ∀ reading, phase.reading = some reading → reading ≤ clock)
    (told : ∀ status, phase.status = some status → ∃ event ∈ trace,
      toldBy event.op event.answer = some ⟨pollHost (baseUrlOf old), qrcodeOf old, status⟩) :
    Genuine trace clock login where
  issued := by
    intro filled
    rw [derived.code] at filled ⊢
    obtain ⟨epoch, issued, deadline⟩ := genuine.issued filled
    refine ⟨epoch, issued, ?_⟩
    rcases derived.deadline with same | ⟨reading, given, short⟩
    · rw [same]
      rcases deadline with full | ⟨past, before, short⟩
      · exact Or.inl full
      · exact Or.inr ⟨past, Nat.le_trans before order, short⟩
    · exact Or.inr ⟨reading, read reading given, short⟩
  trusted := by
    intro filled
    rw [derived.code] at filled ⊢
    have before := genuine.trusted filled
    rcases derived.base with same | ⟨status, given, ⟨redirects, host, named, same⟩ | ⟨confirms, same⟩⟩
    · rw [same]
      exact before
    · obtain ⟨event, member, asked⟩ := told status given
      rw [same]
      exact .redirected member asked before redirects named
    · obtain ⟨event, member, asked⟩ := told status given
      rw [same]
      exact .confirmed member asked before confirms

/-- What a call saves is genuine. -/
theorem MaySave.genuine (saves : MaySave phase login) (knows : Knows trace clock task phase) :
    Genuine trace clock login := by
  cases saves with
  | blank none => exact genuine_of_blank none
  | issued code deadline base =>
      refine ⟨fun _ => ⟨_, code ▸ knows, Or.inl deadline⟩, fun _ => ?_⟩
      rw [base]
      exact .provider
  | derived own derived =>
      cases phase with
      | loaded login =>
          obtain rfl := Option.some.inj own
          exact derived.genuine knows (Nat.le_refl _) (by simp [LoginPhase.reading])
            (by simp [LoginPhase.status])
      | timed login now =>
          obtain rfl := Option.some.inj own
          exact derived.genuine knows.1 knows.2.1 (by simp [LoginPhase.reading])
            (by simp [LoginPhase.status])
      | told login now status reading =>
          obtain rfl := Option.some.inj own
          obtain ⟨time, expires, -, genuine, before, -, -, -, asked, read⟩ := knows
          refine derived.genuine genuine before read ?_
          intro other given
          obtain rfl := Option.some.inj given
          obtain ⟨earlier, reading, later, rfl, -, next, member, -, known⟩ := asked
          exact ⟨next, List.mem_append_right _ (List.mem_cons_of_mem _ member), known⟩
      | nothing => simp [LoginPhase.login] at own
      | challenged qrcode => simp [LoginPhase.login] at own
      | started qrcode epoch => simp [LoginPhase.login] at own

/-- What a call binds is confirmed. -/
theorem MayBind.confirmed {account : WeixinAccount} (binds : MayBind phase account)
    (knows : Knows trace clock task phase) : ConfirmedFor trace task account := by
  cases binds with
  | intro confirms id token =>
      obtain ⟨time, expires, -, genuine, -, deadline, inTime, filled, asked, -⟩ := knows
      obtain ⟨epoch, issued, running⟩ := genuine.running filled deadline inTime
      exact ⟨_, epoch, time, _, _, issued, running, asked, genuine.trusted filled, confirms, rfl, id,
        token⟩

/-- The stored login is genuine, and every account that was saved confirmed by then. -/
structure Kept (world : LoginWorld) (trace : List LoginEvent) : Prop where
  stored : ∀ login, world.login = some login → Genuine trace world.clock login
  bound : Machine.EachStep (fun earlier event => ∀ account, event.op = .saveAccount account →
    ConfirmedFor earlier event.task account) trace

variable {world after : LoginWorld} {choice : LoginChoice}

/-- An operation leaves the stored login, breaks it, or replaces it with the one it saves. -/
theorem perform_stored {op : LoginOp} {answer : LoginAns op}
    (performed : world.perform op choice = some (answer, after)) :
    world.clock ≤ after.clock ∧
      (after.login = world.login ∨ after.login = none ∨
        ∃ login, op = .saveLogin login ∧ after.login = some login) := by
  cases op with
  | loadLogin =>
      obtain rfl := congrArg Prod.snd (Option.some.inj performed)
      simp only [LoginWorld.load]
      split
      · simp only [LoginWorld.spoil]
        split <;> simp
      · simp
      · simp
  | saveLogin login =>
      obtain rfl := congrArg Prod.snd (Option.some.inj performed)
      simp only [LoginWorld.save]
      split
      · simp only [LoginWorld.spoil]
        split <;> simp
      · simp
      · simp
  | epochSeconds =>
      simp only [LoginWorld.perform, LoginWorld.tick] at performed
      split at performed
      · rename_i forward
        obtain rfl := congrArg Prod.snd (Option.some.inj performed)
        exact ⟨forward.1, Or.inl rfl⟩
      · simp at performed
  | _ =>
      obtain rfl := congrArg Prod.snd (Option.some.inj performed)
      exact ⟨Nat.le_refl _, Or.inl rfl⟩

/-- An answer that tells the call nothing new. -/
theorem Knows.same {op : LoginOp} {answer : LoginAns op}
    (performed : world.perform op choice = some (answer, after))
    (knows : Knows trace world.clock task phase) (same : phase.next op answer = phase) :
    Knows (trace ++ [⟨task, op, answer, world, after⟩]) after.clock task (phase.next op answer) := by
  rw [same]
  exact knows.concat (perform_stored performed).1

theorem Knows.nextLoad {answer : LoginAns .loadLogin}
    (performed : world.perform .loadLogin choice = some (answer, after)) (kept : Kept world trace)
    (knows : Knows trace world.clock task phase) :
    Knows (trace ++ [⟨task, .loadLogin, answer, world, after⟩]) after.clock task
      (phase.next .loadLogin answer) := by
  cases answer with
  | error error => exact knows.same performed (by cases phase <;> rfl)
  | ok login =>
      have loaded : phase.next .loadLogin (.ok login) = .loaded login := by cases phase <;> rfl
      rw [loaded]
      have order := (perform_stored performed).1
      simp only [LoginWorld.perform, LoginWorld.load, Option.some.injEq] at performed
      split at performed
      · simp at performed
      · simp at performed
      · rename_i stored _ given
        obtain rfl : stored = login := by simpa using congrArg Prod.fst performed
        exact Genuine.concat (kept.stored _ given) order

theorem Knows.nextChallenge {botType : String} {answer : LoginAns (.getBotQr botType)}
    (performed : world.perform (.getBotQr botType) choice = some (answer, after))
    (knows : Knows trace world.clock task phase) :
    Knows (trace ++ [⟨task, .getBotQr botType, answer, world, after⟩]) after.clock task
      (phase.next (.getBotQr botType) answer) := by
  cases answer with
  | error error => exact knows.same performed (by cases phase <;> rfl)
  | ok payload =>
      cases issued : Text.trimmed ((payload.get "qrcode").bind Json.asStr) with
      | none =>
          refine knows.same performed ?_
          cases phase <;> simp only [LoginPhase.next, issued]
      | some qrcode =>
          have challenged : phase.next (.getBotQr botType) (.ok payload) = .challenged qrcode := by
            cases phase <;> simp only [LoginPhase.next, issued]
          rw [challenged]
          exact ⟨_, List.mem_append_right _ (List.mem_singleton.mpr rfl), rfl, issued⟩

theorem Knows.nextReading {answer : LoginAns .epochSeconds}
    (performed : world.perform .epochSeconds choice = some (answer, after))
    (knows : Knows trace world.clock task phase) :
    Knows (trace ++ [⟨task, .epochSeconds, answer, world, after⟩]) after.clock task
      (phase.next .epochSeconds answer) := by
  have forward : world.clock ≤ answer ∧ after.clock = answer := by
    simp only [LoginWorld.perform, LoginWorld.tick] at performed
    split at performed
    · rename_i moved
      simp only [Option.some.injEq, Prod.mk.injEq] at performed
      obtain ⟨rfl, rfl⟩ := performed
      exact ⟨moved.1, rfl⟩
    · simp at performed
  cases phase with
  | nothing => trivial
  | challenged qrcode =>
      obtain ⟨issue, member, own, issued⟩ := knows
      exact Through.ends member issued own.symm rfl
  | started qrcode epoch => exact knows.same performed rfl
  | loaded login =>
      refine ⟨Genuine.concat knows forward.1, Nat.le_of_eq forward.2.symm, ?_⟩
      exact ⟨_, List.mem_append_right _ (List.mem_singleton.mpr rfl), rfl, rfl⟩
  | timed login now => exact knows.same performed rfl
  | told login now status reading =>
      have told : Knows (trace ++ [⟨task, .epochSeconds, answer, world, after⟩]) after.clock task
          (.told login now status reading) := knows.concat (perform_stored performed).1
      obtain ⟨time, expires, same, genuine, before, deadline, inTime, filled, asked, -⟩ := told
      refine ⟨time, expires, same, genuine, before, deadline, inTime, filled, asked, ?_⟩
      intro later given
      obtain rfl := Option.some.inj given
      exact Nat.le_of_eq forward.2.symm

theorem Knows.nextStatus {host qrcode : String} {answer : LoginAns (.getQrStatus host qrcode)}
    (performed : world.perform (.getQrStatus host qrcode) choice = some (answer, after))
    (knows : Knows trace world.clock task phase) (asks : MayAsk phase host qrcode) :
    Knows (trace ++ [⟨task, .getQrStatus host qrcode, answer, world, after⟩]) after.clock task
      (phase.next (.getQrStatus host qrcode) answer) := by
  cases answer with
  | error error => exact knows.same performed (by cases phase <;> rfl)
  | ok status =>
      have order := (perform_stored performed).1
      cases asks with
      | timed deadline inTime filled =>
          obtain ⟨genuine, before, reading, member, own, read⟩ := knows
          refine ⟨_, _, rfl, genuine.concat (Nat.le_refl _), Nat.le_trans before order, deadline, inTime,
            filled, ?_, by simp⟩
          exact Through.ends member ⟨own, read⟩ own.symm rfl
      | untimed deadline filled =>
          -- A genuine login has a deadline.
          obtain ⟨epoch, -, full | ⟨past, -, short⟩⟩ := Genuine.issued knows filled
          · simp [deadline] at full
          · simp [deadline] at short

/-- What a step tells its call is so. -/
theorem Knows.next {op : LoginOp} {answer : LoginAns op}
    (performed : world.perform op choice = some (answer, after)) (kept : Kept world trace)
    (knows : Knows trace world.clock task phase) (allowed : loginAllowed phase op) :
    Knows (trace ++ [⟨task, op, answer, world, after⟩]) after.clock task
      (phase.next op answer) := by
  cases op with
  | loadLogin => exact knows.nextLoad performed kept
  | getBotQr botType => exact knows.nextChallenge performed
  | getQrStatus host qrcode => exact knows.nextStatus performed allowed
  | epochSeconds => exact knows.nextReading performed
  | _ => exact knows.same performed (by cases phase <;> rfl)

theorem Kept.next {op : LoginOp} {answer : LoginAns op}
    (performed : world.perform op choice = some (answer, after)) (kept : Kept world trace)
    (knows : Knows trace world.clock task phase) (allowed : loginAllowed phase op) :
    Kept after (trace ++ [⟨task, op, answer, world, after⟩]) where
  stored := by
    intro login given
    obtain ⟨order, same | none | ⟨saved, rfl, replaced⟩⟩ := perform_stored performed
    · exact (kept.stored login (same ▸ given)).concat order
    · simp [none] at given
    · obtain rfl := Option.some.inj (replaced.symm.trans given)
      exact (MaySave.genuine allowed knows).concat order
  bound := by
    refine kept.bound.concat ?_
    rintro account rfl
    exact MayBind.confirmed allowed knows

theorem loginMachine_steady :
    @Machine.Steady LoginOp LoginAns LoginPhase loginMachine (fun _ => loginProtocol)
      (fun _ => True) (fun _ => True) where
  step world op choice answer after _ performed := by
    refine ⟨trivial, fun _ => ?_⟩
    cases op with
    | epochSeconds =>
        simp only [LoginWorld.perform, LoginWorld.tick] at performed
        split at performed
        · rename_i moved
          simp only [Option.some.injEq, Prod.mk.injEq] at performed
          obtain ⟨rfl, -⟩ := performed
          exact moved.2
        · simp at performed
    | _ => trivial
  outside _ event := event.elim

theorem kept_of_played {origin : LoginWorld} {moves : List loginMachine.Move}
    {last : loginMachine.System}
    (unissued : ∀ login, origin.login = some login → qrcodeOf login = "")
    (played : (Machine.System.boot origin).play moves = some last) : Kept last.world last.trace := by
  obtain ⟨phases, phased, -⟩ := Machine.play_phased_boot loginMachine_steady
    (fun call _ => program_follows call) (fun _ _ => trivial) trivial played
  have maintained := Machine.Phased.maintains Kept
    (fun world trace task _ phase => Knows trace world.clock task phase) ?boot ?start ?step ?outside
    phased
  · exact maintained.1
  case boot => exact ⟨fun login given => genuine_of_blank (unissued login given), .nil⟩
  case start => exact fun _ _ _ _ _ _ _ => trivial
  case step =>
    intro world after phases trace task call phase op choice answer _ each holder allowed _ performed
      kept
    have knows := each task call phase holder
    refine ⟨kept.next performed knows allowed, knows.next performed kept allowed, ?_⟩
    intro other started otherPhase _ _ old
    exact old.concat (perform_stored performed).1
  case outside => exact fun _ _ event => event.elim

def savedBy : LoginOp → Option WeixinAccount
  | .saveAccount account => some account
  | _ => none

theorem op_of_savedBy {op : LoginOp} {account : WeixinAccount} (saves : savedBy op = some account) :
    op = .saveAccount account := by
  cases op with
  | saveAccount own =>
      obtain rfl := Option.some.inj saves
      rfl
  | _ => simp [savedBy] at saves

/-- However the calls interleave, and whatever is answered to them: an account is saved only after
the provider confirmed it, to the call that saves it, for a QR code that it had issued to the
gateway, before that code had run out and at a host that it named. -/
theorem bound_accounts_are_confirmed (origin : LoginWorld) (moves : List loginMachine.Move)
    (last : loginMachine.System)
    (unissued : ∀ login, origin.login = some login → qrcodeOf login = "")
    (played : (Machine.System.boot origin).play moves = some last)
    (earlier : List LoginEvent) (event : LoginEvent) (later : List LoginEvent)
    (account : WeixinAccount) (split : last.trace = earlier ++ event :: later)
    (saves : savedBy event.op = some account) : ConfirmedFor earlier event.task account :=
  (kept_of_played unissued played).bound earlier event later split account (op_of_savedBy saves)

end

/-! A scan that is confirmed a minute after the QR code was issued. -/

def scanChoice (reply : Json) (clock : Nat) : LoginChoice where
  failure := none
  broken := false
  clock
  time := "2026-01-01T00:00:00Z"
  reply := .ok reply
  account := accountOf .null
  saved := .ok ()
  unbound := .null

def confirmedStatus : Json :=
  .obj [("bot_token", .str "token"), ("ilink_bot_id", .str "bot"), ("status", .str "confirmed")]

def unusedLogin : LoginWorld where
  login := some []
  clock := 0

def confirmedScan : List loginMachine.Move :=
  .start .start :: .start .poll ::
    (List.replicate 4 (.step 0 (scanChoice (.obj [("qrcode", .str "qr-1")]) 100)) ++
      List.replicate 6 (.step 1 (scanChoice confirmedStatus 160)))

theorem bound_accounts_are_confirmed_scan :
    ∃ last : loginMachine.System, (Machine.System.boot unusedLogin : loginMachine.System).play confirmedScan = some last ∧
      ∃ earlier event later, last.trace = earlier ++ event :: later ∧
        savedBy event.op = some (accountOf confirmedStatus) ∧
        ConfirmedFor earlier event.task (accountOf confirmedStatus) := by
  have shown : ((Machine.System.boot unusedLogin : loginMachine.System).play confirmedScan).map
      (fun last => decide (last.trace[8]?.bind (savedBy ·.op) = some (accountOf confirmedStatus))) =
        some true := by
    decide
  obtain ⟨last, played, decided⟩ := Option.map_eq_some_iff.mp shown
  obtain ⟨event, found, saves⟩ := Option.bind_eq_some_iff.mp (of_decide_eq_true decided)
  obtain ⟨inside, rfl⟩ := List.getElem?_eq_some_iff.mp found
  have split : last.trace = last.trace.take 8 ++ last.trace[8] :: last.trace.drop 9 := by
    rw [← List.drop_eq_getElem_cons inside, List.take_append_drop]
  have unissued : ∀ login, unusedLogin.login = some login → qrcodeOf login = "" := by
    intro login same
    obtain rfl := Option.some.inj same
    rfl
  exact ⟨last, played, _, _, _, split, saves,
    bound_accounts_are_confirmed unusedLogin confirmedScan last unissued played _ _ _ _ split saves⟩

end Setup

end HarborGate
