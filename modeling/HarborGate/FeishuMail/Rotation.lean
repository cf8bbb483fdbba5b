import HarborGate.FeishuMail.Tokens

/-!
Refresh tokens handed on from one refresh to the next. A call submits the token it has read from the
state file; that is the latest one as long as the refresh that brought it has been saved before.
-/

namespace HarborGate

namespace FeishuMail

open Interleave

/-! ## What a request does with the tokens -/

variable {settings : FeishuMailConfig}

/-- The refresh token that a step submits. -/
def MailOp.submits : MailOp → Option String
  | .post (.refresh _ _ _ refreshToken) => some refreshToken
  | _ => none

/-- The refresh token that a successful refresh returns. -/
def MailOp.returns (settings : FeishuMailConfig) : (op : MailOp) → MailAns op → Option String
  | .post (.refresh _ _ _ refreshToken), exchange =>
      ((decodeOpenapiResponse settings "Could not reach Feishu Mail refresh API"
        exchange).toOption.bind (readGranted refreshToken)).map Granted.refreshToken
  | _, _ => none

inductive TokenPhase
  | start
  | loaded (token : String)
  | refreshed (token : String)
  | done

def tokenProtocol (settings : FeishuMailConfig) : Protocol MailOp MailAns TokenPhase where
  allows
    | .start, .post (.refresh _ _ _ _) => False
    | .start, .saveUserTokenState _ => False
    | .loaded _, .loadUserTokenState => False
    | .loaded token, .post (.refresh _ _ _ refreshToken) => refreshToken = token ∧ token ≠ ""
    | .loaded _, .saveUserTokenState _ => False
    | .refreshed _, .loadUserTokenState => False
    | .refreshed _, .post _ => False
    | .refreshed token, .saveUserTokenState state => state.userRefreshToken = token
    | .done, .loadUserTokenState => False
    | .done, .post (.refresh _ _ _ _) => False
    | .done, .saveUserTokenState _ => False
    | _, _ => True
  possible _ _ := True
  next
    | .start, .loadUserTokenState, .ok state => .loaded (submittedToken settings state)
    | .loaded _, .post (.refresh url clientId clientSecret refreshToken), exchange =>
        match MailOp.returns settings (.post (.refresh url clientId clientSecret refreshToken))
          exchange with
        | some token => .refreshed token
        | none => .done
    | .refreshed _, .saveUserTokenState _, _ => .done
    | phase, _, _ => phase

section Programs

variable {α : Type}

theorem storedAccessToken_follows {token : String} (state : Option UserTokenState) :
    (storedAccessToken state).Follows (tokenProtocol settings) (.loaded token)
      fun phase _ => phase = .loaded token := by
  cases state with
  | none => rfl
  | some state =>
      simp only [storedAccessToken]
      by_cases blank : Text.trim state.userAccessToken = ""
      · rw [if_pos blank]
        rfl
      · rw [if_neg blank]
        refine ⟨trivial, fun now _ => ?_⟩
        by_cases fresh : saturatingAdd now 60 < state.accessExpiresAtEpochSeconds
        · show Prog.Follows _ _ (if _ then _ else _) _
          rw [if_pos fresh]
          exact ⟨trivial, fun later _ => ⟨trivial, fun _ _ => rfl⟩⟩
        · show Prog.Follows _ _ (if _ then _ else _) _
          rw [if_neg fresh]
          rfl

theorem refreshExpiresAt_follows {token : String} (state : Option UserTokenState) (expiresIn : Nat) :
    (refreshExpiresAt state expiresIn).Follows (tokenProtocol settings) (.refreshed token)
      fun phase _ => phase = .refreshed token := by
  simp only [refreshExpiresAt]
  split
  · rfl
  · exact ⟨trivial, fun _ _ => rfl⟩

theorem refreshUserToken_follows (state : Option UserTokenState) :
    Prog.Follows (tokenProtocol settings) (.loaded (submittedToken settings state))
      (refreshUserToken settings state).run fun _ _ => True := by
  simp only [refreshUserToken]
  split
  · trivial
  · rename_i filled
    split
    · refine Prog.Follows.liftBind ⟨rfl, filled⟩ fun exchange _ => ?_
      have next : (tokenProtocol settings).next (.loaded (submittedToken settings state))
          (.post (.refresh (authUrl settings "/open-apis/authen/v2/oauth/token") settings.appId
            settings.appSecret (submittedToken settings state))) exchange =
          match MailOp.returns settings (.post (.refresh
            (authUrl settings "/open-apis/authen/v2/oauth/token") settings.appId
            settings.appSecret (submittedToken settings state))) exchange with
          | some token => .refreshed token
          | none => .done := rfl
      rw [next]
      simp only [MailOp.returns]
      refine Prog.Follows.resultBind (fun _ _ => trivial) fun payload decoded => ?_
      rw [decoded, Except.toOption, Option.bind_some]
      cases read : readGranted (submittedToken settings state) payload with
      | none => trivial
      | some granted =>
          refine Prog.Follows.liftBind trivial fun now _ => ?_
          refine Prog.Follows.routineBind (refreshExpiresAt_follows state _) ?_
          rintro _ expires rfl
          have saves : ∀ state : UserTokenState, state.userRefreshToken = granted.refreshToken →
              Prog.Follows (tokenProtocol settings) (.refreshed granted.refreshToken)
                (ExceptT.mk (query (.saveUserTokenState state)) : MailGate Unit).run
                fun phase _ => phase = .done :=
            fun state same => ⟨same, fun _ _ => rfl⟩
          refine Prog.Follows.bindExcept (saves _ rfl) (fun _ _ _ => trivial) ?_
          rintro _ saved rfl
          exact ⟨trivial, fun _ _ => trivial⟩
    · trivial

theorem getUserAccessToken_follows :
    Prog.Follows (tokenProtocol settings) .start (getUserAccessToken settings).run
      fun _ _ => True := by
  simp only [getUserAccessToken]
  refine Prog.Follows.liftBind trivial fun cached _ => ?_
  cases cached with
  | some token => trivial
  | none =>
      refine ⟨trivial, fun loaded _ => ?_⟩
      cases loaded with
      | error error => trivial
      | ok state =>
          refine Prog.Follows.routineBind (storedAccessToken_follows state) ?_
          rintro _ stored rfl
          cases stored with
          | some token => trivial
          | none => exact refreshUserToken_follows state

theorem getTenantAccessToken_follows :
    Prog.Follows (tokenProtocol settings) .start (getTenantAccessToken settings).run
      fun _ _ => True := by
  simp only [getTenantAccessToken]
  refine Prog.Follows.liftBind trivial fun cached _ => ?_
  cases cached with
  | some token => trivial
  | none =>
      show Prog.Follows _ _ (ExceptT.run (if _ then _ else _)) _
      by_cases known : hasAppCredentials settings = true
      · rw [if_pos known]
        refine Prog.Follows.liftBind trivial fun exchange _ => ?_
        refine Prog.Follows.resultBind (fun _ _ => trivial) fun payload _ => ?_
        split
        · trivial
        · exact ⟨trivial, fun _ _ => trivial⟩
      · rw [if_neg known]
        trivial

theorem accessToken_follows :
    Prog.Follows (tokenProtocol settings) .start (accessToken settings).run fun _ _ => True := by
  simp only [accessToken]
  split
  · exact Prog.Follows.bindExcept getUserAccessToken_follows (fun _ _ _ => trivial)
      fun _ _ _ => trivial
  · split
    · trivial
    · exact Prog.Follows.bindExcept getTenantAccessToken_follows (fun _ _ _ => trivial)
        fun _ _ _ => trivial

end Programs

/-! ## The chain -/

section Runs

variable {settings : FeishuMailConfig} {file : TokenStateFile}

/-- The state that reading the file yields, if it can be read. -/
def MailWorld.state? (settings : FeishuMailConfig) (world : MailWorld) :
    Option (Option UserTokenState) :=
  (world.loadUserTokenState settings none).toOption

/-- The stored refresh token, or the configured one. -/
def firstToken (settings : FeishuMailConfig) (file : TokenStateFile) : String :=
  submittedToken settings ((MailWorld.initial file).state? settings).join

abbrev MailEvent (settings : FeishuMailConfig) := (mailMachine settings).Event

def returned (event : MailEvent settings) : Option String :=
  event.op.returns settings event.answer

/-- The refresh token that the latest successful refresh returned, at first the stored or configured
one. -/
def latestToken (file : TokenStateFile) (trace : List (MailEvent settings)) : String :=
  trace.foldl (fun latest event => (returned event).getD latest) (firstToken settings file)

/-- The refresh tokens that the provider has replaced. -/
def replaced (trace : List (MailEvent settings)) : List String :=
  trace.filterMap fun event => if (returned event).isSome then event.op.submits else none

/-- Each refresh submits the token of the latest successful one, and none that has been
replaced. -/
def Chained (file : TokenStateFile) (trace : List (MailEvent settings)) : Prop :=
  Machine.EachStep (fun earlier event => ∀ token, event.op.submits = some token →
    token = latestToken file earlier ∧ token ∉ replaced earlier) trace

def knownTokens (file : TokenStateFile) (trace : List (MailEvent settings)) : List String :=
  firstToken settings file :: trace.filterMap returned

/-- Every successful refresh returns a token that was not there before. -/
def Rotates (file : TokenStateFile) (trace : List (MailEvent settings)) : Prop :=
  (knownTokens file trace).Nodup

/-- The latest successful refresh: its task and token, whether the state file holds it, and the
tasks that have read the file since. -/
structure Standing where
  latest : Option (Nat × String)
  saved : Bool
  informed : List Nat

def Standing.next (settings : FeishuMailConfig) (standing : Standing) (task : Nat) :
    (op : MailOp) → MailAns op → Standing
  | .post request, exchange =>
      match MailOp.returns settings (.post request) exchange with
      | some token => ⟨some (task, token), false, []⟩
      | none => standing
  | .saveUserTokenState _, .ok () =>
      if Text.trim settings.userTokenStatePath ≠ "" ∧ standing.latest.map Prod.fst = some task then
        { standing with saved := true }
      else standing
  | .loadUserTokenState, .ok _ =>
      if standing.saved then { standing with informed := task :: standing.informed } else standing
  | _, _ => standing

def standing (trace : List (MailEvent settings)) : Standing :=
  trace.foldl (fun standing event => standing.next settings event.task event.op event.answer)
    ⟨none, false, []⟩

/-- No refresh has succeeded yet, or the task has read the state file after the latest successful
one was saved there. -/
def Standing.Informed (standing : Standing) (task : Nat) : Prop :=
  standing.latest = none ∨ task ∈ standing.informed

/-- Whoever submits a refresh token is informed. -/
def WellInformed (trace : List (MailEvent settings)) : Prop :=
  Machine.EachStep (fun earlier event => event.op.submits ≠ none →
    (standing earlier).Informed event.task) trace

variable {trace : List (MailEvent settings)} {event : MailEvent settings}

@[simp] theorem standing_concat : standing (trace ++ [event]) =
    (standing trace).next settings event.task event.op event.answer := by
  simp [standing]

@[simp] theorem latestToken_concat : latestToken file (trace ++ [event]) =
    (returned event).getD (latestToken file trace) := by
  simp [latestToken]

theorem knownTokens_concat : knownTokens file (trace ++ [event]) =
    knownTokens file trace ++ (returned event).toList := by
  cases event_returned : returned event <;> simp [knownTokens, event_returned]

theorem mem_knownTokens_concat {token : String} (known : token ∈ knownTokens file trace) :
    token ∈ knownTokens file (trace ++ [event]) := by
  rw [knownTokens_concat]
  exact List.mem_append_left _ known

theorem Rotates.earlier (rotates : Rotates file (trace ++ [event])) : Rotates file trace := by
  rw [Rotates, knownTokens_concat] at rotates
  exact (List.nodup_append.mp rotates).1

/-- A returned token is new. -/
theorem Rotates.new (rotates : Rotates file (trace ++ [event])) {token : String}
    (returns : returned event = some token) : token ∉ knownTokens file trace := by
  rw [Rotates, knownTokens_concat, returns] at rotates
  intro known
  exact (List.nodup_append.mp rotates).2.2 token known token (by simp) rfl

/-! ## Steps -/

/-- What a step does to the state file and to the phase of its task. -/
inductive TokenStep (settings : FeishuMailConfig) (world after : MailWorld) :
    TokenPhase → (op : MailOp) → MailAns op → TokenPhase → Prop
  | idle {phase : TokenPhase} {op : MailOp} {answer : MailAns op}
      (same : after.file = world.file) (submits : op.submits = none)
      (returns : op.returns settings answer = none)
      (still : ∀ standing : Standing, ∀ task, standing.next settings task op answer = standing) :
      TokenStep settings world after phase op answer phase
  | read {state : Option UserTokenState} (same : after.file = world.file)
      (found : world.state? settings = some state) :
      TokenStep settings world after .start .loadUserTokenState (.ok state)
        (.loaded (submittedToken settings state))
  | refused {url clientId clientSecret token : String} {exchange : Exchange}
      (same : after.file = world.file)
      (returns : MailOp.returns settings (.post (.refresh url clientId clientSecret token))
        exchange = none) :
      TokenStep settings world after (.loaded token)
        (.post (.refresh url clientId clientSecret token)) exchange .done
  | refreshed {url clientId clientSecret token fresh : String} {exchange : Exchange}
      (same : after.file = world.file) (filled : token ≠ "")
      (returns : MailOp.returns settings (.post (.refresh url clientId clientSecret token))
        exchange = some fresh) :
      TokenStep settings world after (.loaded token)
        (.post (.refresh url clientId clientSecret token)) exchange (.refreshed fresh)
  | saved {state : UserTokenState} (configured : Text.trim settings.userTokenStatePath ≠ "")
      (written : after.file = .written state) :
      TokenStep settings world after (.refreshed state.userRefreshToken) (.saveUserTokenState state)
        (.ok ()) .done
  | unsaved {state : UserTokenState} {answer : Except GatewayError Unit}
      (same : after.file = world.file)
      (still : ∀ standing : Standing, ∀ task,
        standing.next settings task (.saveUserTokenState state) answer = standing) :
      TokenStep settings world after (.refreshed state.userRefreshToken) (.saveUserTokenState state)
        answer .done

theorem loadUserTokenState_ok {world : MailWorld} {fault : Option String}
    {state : Option UserTokenState} (loaded : world.loadUserTokenState settings fault = .ok state) :
    world.state? settings = some state := by
  simp only [MailWorld.state?, MailWorld.loadUserTokenState] at loaded ⊢
  by_cases unconfigured : Text.trim settings.userTokenStatePath = ""
  · rw [if_pos unconfigured] at loaded ⊢
    rw [loaded]
    rfl
  · rw [if_neg unconfigured] at loaded ⊢
    generalize world.file = file at loaded ⊢
    cases fault with
    | none =>
        rw [loaded]
        rfl
    | some text =>
        cases file with
        | absent =>
            obtain rfl := Except.ok.inj loaded
            rfl
        | invalid text => simp at loaded
        | written state => simp at loaded

theorem save_step {world after : MailWorld} {state : UserTokenState} {choice : MailChoice}
    {answer : Except GatewayError Unit}
    (performed : world.perform settings (.saveUserTokenState state) choice = some (answer, after)) :
    TokenStep settings world after (.refreshed state.userRefreshToken) (.saveUserTokenState state)
      answer .done := by
  have outcome : world.saveUserTokenState settings state choice.saveFault = (answer, after) :=
    Option.some.inj performed
  simp only [MailWorld.saveUserTokenState] at outcome
  by_cases unconfigured : Text.trim settings.userTokenStatePath = ""
  · rw [if_pos unconfigured] at outcome
    obtain ⟨rfl, rfl⟩ := Prod.mk.inj outcome
    exact .unsaved rfl fun standing task => by simp [Standing.next, unconfigured]
  · rw [if_neg unconfigured] at outcome
    cases fault : choice.saveFault with
    | none =>
        rw [fault] at outcome
        obtain ⟨rfl, rfl⟩ := Prod.mk.inj outcome
        exact .saved unconfigured rfl
    | some text =>
        rw [fault] at outcome
        obtain ⟨rfl, rfl⟩ := Prod.mk.inj outcome
        exact .unsaved rfl fun standing task => rfl

theorem token_step {world after : MailWorld} {phase : TokenPhase} {op : MailOp}
    {answer : MailAns op} {choice : MailChoice} (allowed : (tokenProtocol settings).allows phase op)
    (performed : world.perform settings op choice = some (answer, after)) :
    TokenStep settings world after phase op answer ((tokenProtocol settings).next phase op answer) := by
  cases op with
  | readUserCache | readTenantCache | nowEpochSeconds | cacheUser _ _ _ | cacheTenant _ _ =>
      obtain ⟨rfl, rfl⟩ := Prod.mk.inj (Option.some.inj performed)
      cases phase <;> exact .idle rfl rfl rfl fun _ _ => rfl
  | loadUserTokenState =>
      obtain ⟨read, rfl⟩ := Prod.mk.inj (Option.some.inj performed)
      cases phase with
      | start =>
          cases answer with
          | ok state => exact .read rfl (loadUserTokenState_ok read)
          | error error => exact .idle rfl rfl rfl fun _ _ => rfl
      | loaded token => exact allowed.elim
      | refreshed token => exact allowed.elim
      | done => exact allowed.elim
  | post request =>
      obtain ⟨rfl, rfl⟩ := Prod.mk.inj (Option.some.inj performed)
      cases request with
      | tenant url appId appSecret =>
          cases phase with
          | refreshed token => exact allowed.elim
          | start | loaded _ | done => exact .idle rfl rfl rfl fun _ _ => rfl
      | refresh url clientId clientSecret refreshToken =>
          cases phase with
          | start => exact allowed.elim
          | refreshed token => exact allowed.elim
          | done => exact allowed.elim
          | loaded token =>
              obtain ⟨rfl, filled⟩ : refreshToken = token ∧ token ≠ "" := allowed
              cases returns : MailOp.returns settings
                  (.post (.refresh url clientId clientSecret refreshToken)) choice.exchange with
              | none =>
                  simp only [tokenProtocol, returns]
                  exact .refused rfl returns
              | some fresh =>
                  simp only [tokenProtocol, returns]
                  exact .refreshed rfl filled returns
  | saveUserTokenState state =>
      cases phase with
      | start => exact allowed.elim
      | loaded token => exact allowed.elim
      | done => exact allowed.elim
      | refreshed token =>
          obtain rfl : state.userRefreshToken = token := allowed
          exact save_step performed

/-! ## Where tokens come from -/

theorem submittedToken_written {state : UserTokenState}
    (plain : Text.trim state.userRefreshToken = state.userRefreshToken)
    (filled : state.userRefreshToken ≠ "") :
    submittedToken settings (some state) = state.userRefreshToken := by
  simp [submittedToken, Text.trimmed, Option.filter, plain, filled]

theorem state?_written {world : MailWorld} {state : UserTokenState}
    (configured : Text.trim settings.userTokenStatePath ≠ "") (written : world.file = .written state) :
    world.state? settings = some (some state) := by
  simp [MailWorld.state?, MailWorld.loadUserTokenState, configured, written, Except.toOption]

theorem state?_congr {world other : MailWorld} (same : other.file = world.file) :
    other.state? settings = world.state? settings := by
  simp [MailWorld.state?, MailWorld.loadUserTokenState, same]

theorem submittedToken_trim (state : Option UserTokenState) :
    Text.trim (submittedToken settings state) = submittedToken settings state := by
  rw [submittedToken]
  cases stored : Text.trimmed (state.map UserTokenState.userRefreshToken) with
  | some token => exact (Text.trimmed_eq_some stored).1
  | none => exact Text.trim_trim _

/-- A returned token is trimmed, as is the submitted one that it may repeat. -/
theorem returns_trim {url clientId clientSecret token fresh : String} {exchange : Exchange}
    (returns : MailOp.returns settings (.post (.refresh url clientId clientSecret token)) exchange =
      some fresh) (plain : Text.trim token = token) (filled : token ≠ "") :
    Text.trim fresh = fresh ∧ fresh ≠ "" := by
  simp only [MailOp.returns, Option.map_eq_some_iff, Option.bind_eq_some_iff] at returns
  obtain ⟨granted, ⟨payload, -, read⟩, rfl⟩ := returns
  simp only [readGranted] at read
  split at read
  · simp at read
  · obtain rfl := Option.some.inj read
    dsimp only
    cases named : Text.trimmed ((((payload.get "data").getD payload).get "refresh_token").bind
        Json.asStr) with
    | some other => exact Text.trimmed_eq_some named
    | none =>
        rw [Option.getD_none, plain]
        exact ⟨plain, filled⟩

def TokenPhase.Known (tokens : List String) : TokenPhase → Prop
  | .loaded token => token ∈ tokens ∧ Text.trim token = token
  | .refreshed token => token ∈ tokens ∧ Text.trim token = token ∧ token ≠ ""
  | _ => True

theorem TokenPhase.Known.mono {phase : TokenPhase} (known : phase.Known (knownTokens file trace)) :
    phase.Known (knownTokens file (trace ++ [event])) := by
  cases phase with
  | start => trivial
  | loaded token => exact ⟨mem_knownTokens_concat known.1, known.2⟩
  | refreshed token => exact ⟨mem_knownTokens_concat known.1, known.2⟩
  | done => trivial

/-- Every token in the file and every one submitted is the first one or was returned. -/
structure Sourced (file : TokenStateFile) (world : MailWorld) (trace : List (MailEvent settings)) :
    Prop where
  stored : ∀ state, world.state? settings = some state →
    submittedToken settings state ∈ knownTokens file trace
  spent : ∀ token ∈ replaced trace, token ∈ knownTokens file trace

theorem replaced_concat : replaced (trace ++ [event]) =
    replaced trace ++ (if (returned event).isSome then event.op.submits else none).toList := by
  rw [replaced, List.filterMap_append]
  congr 1

section Step

variable {world after : MailWorld} {task : Nat} {phase next : TokenPhase} {op : MailOp}
  {answer : MailAns op}

theorem Sourced.step (sourced : Sourced file world trace)
    (known : phase.Known (knownTokens file trace))
    (step : TokenStep settings world after phase op answer next) :
    @Sourced settings file after (trace ++ [⟨task, op, answer, world, after⟩]) ∧
      next.Known (@knownTokens settings file (trace ++ [⟨task, op, answer, world, after⟩])) := by
  have still : after.file = world.file → ∀ state, after.state? settings = some state →
      submittedToken settings state ∈
        @knownTokens settings file (trace ++ [⟨task, op, answer, world, after⟩]) := by
    intro same state found
    rw [state?_congr same] at found
    exact mem_knownTokens_concat (sourced.stored state found)
  have unspent : op.returns settings answer = none → ∀ token ∈
      @replaced settings (trace ++ [⟨task, op, answer, world, after⟩]),
      token ∈ @knownTokens settings file (trace ++ [⟨task, op, answer, world, after⟩]) := by
    intro returns token spent
    have none : returned (⟨task, op, answer, world, after⟩ : MailEvent settings) = none := returns
    rw [replaced_concat, none] at spent
    exact mem_knownTokens_concat (sourced.spent token (by simpa using spent))
  cases step with
  | idle same submits returns stays => exact ⟨⟨still same, unspent returns⟩, known.mono⟩
  | read same found =>
      exact ⟨⟨still same, unspent rfl⟩,
        mem_knownTokens_concat (sourced.stored _ found), submittedToken_trim _⟩
  | refused same returns => exact ⟨⟨still same, unspent returns⟩, trivial⟩
  | @refreshed url clientId clientSecret token fresh exchange same filled returns =>
      obtain ⟨plain, nonempty⟩ := returns_trim returns known.2 filled
      have returns_ : returned (⟨task, .post (.refresh url clientId clientSecret token), exchange, world,
          after⟩ : MailEvent settings) = some fresh := returns
      refine ⟨⟨still same, ?_⟩, ?_, plain, nonempty⟩
      · intro token' spent
        rw [replaced_concat, returns_] at spent
        rcases List.mem_append.mp spent with old | new
        · exact mem_knownTokens_concat (sourced.spent token' old)
        · obtain rfl : token' = token := by simpa [MailOp.submits] using new
          exact mem_knownTokens_concat known.1
      · rw [knownTokens_concat, returns_]
        simp
  | @saved state configured written =>
      refine ⟨⟨?_, unspent rfl⟩, trivial⟩
      intro found same
      rw [state?_written configured written] at same
      obtain rfl := Option.some.inj same
      rw [submittedToken_written known.2.1 known.2.2]
      exact mem_knownTokens_concat known.1
  | unsaved same stays => exact ⟨⟨still same, unspent rfl⟩, trivial⟩

end Step

abbrev MailRun (settings : FeishuMailConfig) (file : TokenStateFile) (world : MailWorld)
    (phases : List (MailCall × TokenPhase)) (trace : List (MailEvent settings)) : Prop :=
  @Machine.Phased MailOp MailAns TokenPhase (mailMachine settings) (fun _ => tokenProtocol settings)
    (fun _ => .start) (fun _ => True) (.initial file) world phases trace

theorem MailRun.sourced {world : MailWorld} {phases : List (MailCall × TokenPhase)}
    (run : MailRun settings file world phases trace) :
    Sourced file world trace ∧ ∀ (task : Nat) call phase, phases[task]? = some (call, phase) →
      phase.Known (knownTokens file trace) := by
  refine Machine.Phased.maintains (fun world trace => Sourced file world trace)
    (fun _ trace _ _ phase => phase.Known (knownTokens file trace)) ?boot ?start ?step ?outside run
  case boot =>
    refine ⟨?_, by simp [replaced]⟩
    intro state found
    have first : submittedToken settings state = firstToken settings file := by
      rw [firstToken, found]
      rfl
    rw [first]
    exact List.mem_cons_self
  case start => exact fun _ _ _ _ _ _ _ => trivial
  case step =>
    intro world after phases trace task call phase op choice answer _ each holder allowed _ performed
      sourced
    obtain ⟨moved, own⟩ := sourced.step (each task call phase holder) (token_step allowed performed)
    exact ⟨moved, own, fun _ _ _ _ _ known => known.mono⟩
  case outside => exact fun _ _ event => event.elim

/-! ## Who holds the latest token -/

/-- No successful refresh is waiting for its token to be saved. -/
def Standing.Settled (standing : Standing) : Prop :=
  standing.latest = none ∨ standing.saved = true

structure Held (file : TokenStateFile) (world : MailWorld) (trace : List (MailEvent settings)) :
    Prop where
  stored : ∀ state, world.state? settings = some state →
    ((standing trace).Settled ↔ submittedToken settings state = latestToken file trace)
  saved : ∀ task ∈ (standing trace).informed, (standing trace).saved = true
  fresh : latestToken file trace ∉ replaced trace

/-- An informed task has the latest token, any other one another. Only the task of the latest
refresh can have a token that it has not yet saved. -/
def TokenPhase.Fits (latest : String) (standing : Standing) (task : Nat) : TokenPhase → Prop
  | .start => task ∉ standing.informed
  | .loaded token => standing.Informed task ↔ token = latest
  | .refreshed token => standing.latest = some (task, token) ∧ standing.saved = false ∧ token = latest
  | .done => True

section Step

variable {world after : MailWorld} {task other : Nat} {phase next otherPhase : TokenPhase} {op : MailOp}
  {answer : MailAns op}

theorem Held.informed_saved (held : Held file world trace) (informed : (standing trace).Informed task)
    {latest : Nat × String} (some_ : (standing trace).latest = some latest) :
    (standing trace).saved = true := by
  rcases informed with none | member
  · rw [none] at some_
    simp at some_
  · exact held.saved task member

/-- Nothing of what is known changes at a step that neither reads the file nor refreshes nor saves. -/
theorem Held.still (held : Held file world trace) {event : MailEvent settings}
    (same : after.file = world.file)
    (unreturned : returned event = none)
    (stays : standing (trace ++ [event]) = standing trace) : Held file after (trace ++ [event]) := by
  have latest : latestToken file (trace ++ [event]) = latestToken file trace := by
    rw [latestToken_concat, unreturned, Option.getD_none]
  constructor
  · intro state found
    rw [state?_congr same] at found
    rw [stays, latest]
    exact held.stored state found
  · rw [stays]
    exact held.saved
  · rw [latest, replaced_concat, unreturned]
    simpa using held.fresh

theorem Held.step (held : Held file world trace) (sourced : Sourced file world trace)
    (known : phase.Known (knownTokens file trace))
    (fits : phase.Fits (latestToken file trace) (standing trace) task)
    (rotates : @Rotates settings file (trace ++ [⟨task, op, answer, world, after⟩]))
    (step : TokenStep settings world after phase op answer next) :
    @Held settings file after (trace ++ [⟨task, op, answer, world, after⟩]) ∧
      next.Fits (@latestToken settings file (trace ++ [⟨task, op, answer, world, after⟩]))
        (@standing settings (trace ++ [⟨task, op, answer, world, after⟩])) task := by
  cases step with
  | idle same submits returns stays =>
      have event_returned : returned (⟨task, op, answer, world, after⟩ : MailEvent settings) = none :=
        returns
      have event_standing : @standing settings (trace ++ [⟨task, op, answer, world, after⟩]) =
          standing trace := by
        rw [standing_concat]
        exact stays _ _
      refine ⟨held.still same event_returned event_standing, ?_⟩
      rw [latestToken_concat, event_returned, event_standing]
      exact fits
  | @read state same found =>
      have stored := held.stored state found
      by_cases saved : (standing trace).saved = true
      · have told : @standing settings
            (trace ++ [⟨task, .loadUserTokenState, .ok state, world, after⟩]) =
            { standing trace with informed := task :: (standing trace).informed } := by
          rw [standing_concat]
          simp only [Standing.next, saved, if_true]
        have latest : @latestToken settings file
            (trace ++ [⟨task, .loadUserTokenState, .ok state, world, after⟩]) =
            latestToken file trace := by
          rw [latestToken_concat]
          rfl
        rw [told, latest]
        refine ⟨⟨?_, ?_, ?_⟩, ?_⟩
        · intro other found
          rw [state?_congr same] at found
          rw [told, latest]
          exact held.stored other found
        · rw [told]
          exact fun _ _ => saved
        · rw [latest, replaced_concat]
          simpa [returned, MailOp.returns] using held.fresh
        · exact ⟨fun _ => stored.mp (.inr saved), fun _ => .inr List.mem_cons_self⟩
      · have told : @standing settings
            (trace ++ [⟨task, .loadUserTokenState, .ok state, world, after⟩]) = standing trace := by
          rw [standing_concat]
          simp only [Standing.next, if_neg saved]
        refine ⟨held.still same rfl told, ?_⟩
        rw [told, latestToken_concat]
        have uninformed : task ∉ (standing trace).informed := fits
        have settled : (standing trace).Informed task ↔ (standing trace).Settled := by
          simp [Standing.Informed, Standing.Settled, uninformed, saved]
        exact settled.trans stored
  | refused same returns =>
      refine ⟨held.still same returns ?_, trivial⟩
      rw [standing_concat]
      simp only [Standing.next, returns]
  | @refreshed url clientId clientSecret token fresh exchange same filled returns =>
      have returns_ : returned (⟨task, .post (.refresh url clientId clientSecret token), exchange, world,
          after⟩ : MailEvent settings) = some fresh := returns
      have told : @standing settings (trace ++ [⟨task, .post (.refresh url clientId clientSecret token),
          exchange, world, after⟩]) = ⟨some (task, fresh), false, []⟩ := by
        rw [standing_concat]
        simp only [Standing.next, returns]
      have new : fresh ∉ knownTokens file trace := rotates.new returns_
      rw [told]
      refine ⟨⟨?_, ?_, ?_⟩, ?_⟩
      · intro state found
        rw [state?_congr same] at found
        rw [told, latestToken_concat, returns_, Option.getD_some]
        have other : submittedToken settings state ≠ fresh := by
          rintro rfl
          exact new (sourced.stored state found)
        simp [Standing.Settled, other]
      · rw [told]
        simp
      · rw [latestToken_concat, replaced_concat, returns_]
        intro spent
        rcases List.mem_append.mp spent with old | last
        · exact new (sourced.spent fresh old)
        · obtain rfl : fresh = token := by simpa [MailOp.submits] using last
          exact new known.1
      · rw [latestToken_concat, returns_]
        exact ⟨rfl, rfl, rfl⟩
  | @saved state configured written =>
      obtain ⟨mine, -, latest⟩ := fits
      have told : @standing settings
          (trace ++ [⟨task, .saveUserTokenState state, .ok (), world, after⟩]) =
          { standing trace with saved := true } := by
        rw [standing_concat]
        simp only [Standing.next, mine, Option.map_some, configured, ne_eq, not_false_eq_true,
          and_self, if_true]
      refine ⟨⟨?_, ?_, ?_⟩, trivial⟩
      · intro found same
        rw [state?_written configured written] at same
        obtain rfl := Option.some.inj same
        rw [told, submittedToken_written known.2.1 known.2.2, latestToken_concat]
        exact ⟨fun _ => latest, fun _ => .inr rfl⟩
      · rw [told]
        exact fun _ _ => rfl
      · rw [latestToken_concat, replaced_concat]
        simpa [returned, MailOp.returns] using held.fresh
  | unsaved same stays =>
      refine ⟨held.still same rfl ?_, trivial⟩
      rw [standing_concat]
      exact stays _ _

theorem TokenPhase.Fits.step_other (different : other ≠ task)
    (fits : otherPhase.Fits (latestToken file trace) (standing trace) other)
    (otherKnown : otherPhase.Known (knownTokens file trace)) (held : Held file world trace)
    (known : phase.Fits (latestToken file trace) (standing trace) task)
    (rotates : @Rotates settings file (trace ++ [⟨task, op, answer, world, after⟩]))
    (informed : op.submits ≠ none → (standing trace).Informed task)
    (step : TokenStep settings world after phase op answer next) :
    otherPhase.Fits (@latestToken settings file (trace ++ [⟨task, op, answer, world, after⟩]))
      (@standing settings (trace ++ [⟨task, op, answer, world, after⟩])) other := by
  rw [latestToken_concat, standing_concat]
  cases step with
  | idle same submits returns stays =>
      have event_returned : returned (⟨task, op, answer, world, after⟩ : MailEvent settings) = none :=
        returns
      rw [event_returned, Option.getD_none]
      dsimp only
      rw [stays]
      exact fits
  | @read state same found =>
      dsimp only [returned, MailOp.returns, Option.getD_none, Standing.next]
      split
      · cases otherPhase with
        | start =>
            intro member
            rcases List.mem_cons.mp member with equal | old
            · exact different equal
            · exact fits old
        | loaded token =>
            refine Iff.trans ?_ fits
            simp [Standing.Informed, different]
        | refreshed token => exact fits
        | done => trivial
      · exact fits
  | refused same returns =>
      dsimp only [returned, Standing.next]
      rw [returns]
      exact fits
  | @refreshed url clientId clientSecret token fresh exchange same filled returns =>
      have new : fresh ∉ knownTokens file trace := rotates.new returns
      dsimp only [returned, Standing.next]
      rw [returns]
      cases otherPhase with
      | start => exact List.not_mem_nil
      | loaded old =>
          have apart : old ≠ fresh := by
            rintro rfl
            exact new otherKnown.1
          simp [TokenPhase.Fits, Standing.Informed, apart]
      | refreshed old =>
          obtain ⟨latest, unsaved, -⟩ := fits
          have saved := held.informed_saved (informed (by simp [MailOp.submits])) latest
          rw [unsaved] at saved
          simp at saved
      | done => trivial
  | @saved state configured written =>
      dsimp only [returned, MailOp.returns, Option.getD_none, Standing.next]
      split
      · cases otherPhase with
        | start => exact fits
        | loaded token => exact fits
        | refreshed token =>
            obtain ⟨latest, -, -⟩ := fits
            obtain ⟨mine, -, -⟩ := known
            rw [latest] at mine
            simp only [Option.some.injEq, Prod.mk.injEq] at mine
            exact absurd mine.1 different
        | done => trivial
      · exact fits
  | unsaved same stays =>
      dsimp only [returned, MailOp.returns, Option.getD_none]
      rw [stays]
      exact fits

/-- A task that submits a token is informed exactly if it is the latest one. -/
theorem TokenPhase.Fits.chained (fits : phase.Fits (latestToken file trace) (standing trace) task)
    (held : Held file world trace) (step : TokenStep settings world after phase op answer next) :
    (∀ token, op.submits = some token → token = latestToken file trace ∧ token ∉ replaced trace) ↔
      (op.submits ≠ none → (standing trace).Informed task) := by
  cases step with
  | idle same submits returns stays => simp [submits]
  | read same found => simp [MailOp.submits]
  | @refused url clientId clientSecret token exchange same returns | @refreshed url clientId clientSecret token fresh exchange same filled returns =>
      have exact_ : (standing trace).Informed task ↔ token = latestToken file trace := fits
      rw [exact_]
      constructor
      · exact fun latest _ => (latest token rfl).1
      · intro latest other submitted
        obtain rfl := Option.some.inj submitted
        have same := latest (by simp [MailOp.submits])
        refine ⟨same, ?_⟩
        rw [same]
        exact held.fresh
  | saved configured written => simp [MailOp.submits]
  | unsaved same stays => simp [MailOp.submits]

end Step

/-- Whoever is informed of a refresh has run. -/
theorem informed_ran {trace : List (MailEvent settings)} :
    ∀ task ∈ (standing trace).informed, ∃ event ∈ trace, event.task = task := by
  induction trace using List.reverseRecOn with
  | nil => simp [standing]
  | append_singleton trace event ih =>
      intro task member
      have old : task ∈ (standing trace).informed →
          ∃ other ∈ trace ++ [event], other.task = task := by
        intro before
        obtain ⟨other, listed, same⟩ := ih task before
        exact ⟨other, List.mem_append_left _ listed, same⟩
      rw [standing_concat] at member
      obtain ⟨mover, op, answer, before, after⟩ := event
      cases op with
      | readUserCache | readTenantCache | nowEpochSeconds | cacheUser _ _ _ | cacheTenant _ _ =>
          exact old member
      | loadUserTokenState =>
          cases answer with
          | error error => exact old member
          | ok state =>
              simp only [Standing.next] at member
              split at member
              · rcases List.mem_cons.mp member with rfl | earlier
                · exact ⟨_, List.mem_append_right _ List.mem_cons_self, rfl⟩
                · exact old earlier
              · exact old member
      | post request =>
          simp only [Standing.next] at member
          split at member
          · simp at member
          · exact old member
      | saveUserTokenState state =>
          cases answer with
          | error error => exact old member
          | ok done =>
              simp only [Standing.next] at member
              split at member <;> exact old member

/-- The phases of a run that rotates tokens, as long as everyone who refreshes is informed. -/
theorem MailRun.held {world : MailWorld} {phases : List (MailCall × TokenPhase)}
    (run : MailRun settings file world phases trace) :
    (Rotates file trace → (Chained file trace ↔ WellInformed trace) ∧
      (WellInformed trace → Held file world trace)) ∧
    ∀ (task : Nat) call phase, phases[task]? = some (call, phase) → Rotates file trace →
      WellInformed trace → phase.Fits (latestToken file trace) (standing trace) task := by
  refine Machine.Phased.maintains
    (fun world trace => Rotates file trace → (Chained file trace ↔ WellInformed trace) ∧
      (WellInformed trace → Held file world trace))
    (fun _ trace task _ phase => Rotates file trace → WellInformed trace →
      phase.Fits (latestToken file trace) (standing trace) task) ?boot ?start ?step ?outside run
  case boot =>
    refine fun _ => ⟨⟨fun _ => .nil, fun _ => .nil⟩, fun _ => ⟨?_, by simp [standing],
      by simp [replaced]⟩⟩
    intro state found
    have first : submittedToken settings state = firstToken settings file := by
      rw [firstToken, found]
      rfl
    exact ⟨fun _ => first, fun _ => .inl rfl⟩
  case start =>
    intro world phases trace call _ run _ _ _ member
    obtain ⟨event, listed, same⟩ := informed_ran _ member
    have early := run.trace_tasks event listed
    omega
  case step =>
    intro world after phases trace task call phase op choice answer run each holder allowed _ performed
      kept
    have step := token_step allowed performed
    obtain ⟨sourced, known⟩ := MailRun.sourced run
    have fits := each task call phase holder
    refine ⟨fun rotates => ?_, fun rotates informed => ?_, ?_⟩
    · obtain ⟨same, held⟩ := kept rotates.earlier
      rw [Chained, WellInformed, Machine.eachStep_concat, Machine.eachStep_concat]
      refine ⟨?_, fun informed => ((held informed.1).step sourced (known task call phase holder)
        (fits rotates.earlier informed.1) rotates step).1⟩
      constructor
      · rintro ⟨chained, last⟩
        have before := same.mp chained
        exact ⟨before, ((fits rotates.earlier before).chained (held before) step).mp last⟩
      · rintro ⟨before, last⟩
        exact ⟨same.mpr before, ((fits rotates.earlier before).chained (held before) step).mpr last⟩
    · have before := (Machine.eachStep_concat.mp informed).1
      have held := (kept rotates.earlier).2 before
      exact (held.step sourced (known task call phase holder) (fits rotates.earlier before) rotates
        step).2
    · intro other started otherPhase different listed old rotates informed
      obtain ⟨before, last⟩ := Machine.eachStep_concat.mp informed
      have held := (kept rotates.earlier).2 before
      exact (old rotates.earlier before).step_other different
        (known other started otherPhase listed) held (fits rotates.earlier before) rotates last step
  case outside => exact fun _ _ event => event.elim

theorem mail_steady : @Machine.Steady MailOp MailAns TokenPhase (mailMachine settings)
    (fun _ => tokenProtocol settings) (fun _ => True) fun _ => True :=
  ⟨fun _ _ _ _ _ _ _ => ⟨trivial, fun _ => trivial⟩, fun _ event => event.elim⟩

/-- In every run with a provider that rotates, the refresh tokens form a chain exactly if each call
that refreshes has read the state file after the token of the latest refresh was saved there. -/
theorem refresh_tokens_form_a_chain_iff {moves : List (mailMachine settings).Move}
    {system : (mailMachine settings).System}
    (played : (Machine.System.boot (MailWorld.initial file)).play moves = some system)
    (rotates : Rotates file system.trace) :
    Chained file system.trace ↔ WellInformed system.trace := by
  obtain ⟨phases, run, -⟩ := Machine.play_phased_boot mail_steady
    (fun call _ => (accessToken_follows : Prog.Follows _ _ ((mailMachine settings).program call) _))
    (fun _ _ => trivial) trivial played
  exact ((MailRun.held run).1 rotates).1

end Runs

/-! ## Two calls, each after the cached token has expired -/

def mailSettings (statePath : String) : FeishuMailConfig :=
  ⟨"", "seed", statePath, "app", "secret", "https://open"⟩

def rotation (refreshToken : String) : Exchange :=
  .answered 200 "200 OK" "" (.ok (.obj [("access_token", .str "access"), ("expires_in", .num 60),
    ("refresh_token", .str refreshToken)]))

def mailChoice (instant : Nat) (refreshToken : String) : MailChoice where
  instant := instant
  epochSeconds := instant
  exchange := rotation refreshToken
  readFault := none
  saveFault := none

def twoCalls {settings : FeishuMailConfig} (steps : Nat) : List (mailMachine settings).Move :=
  .start .accessToken :: List.replicate 6 (.step 0 (mailChoice 0 "first")) ++
    .start .accessToken :: List.replicate steps (.step 1 (mailChoice 60000000000 "second"))

theorem not_chained {settings : FeishuMailConfig} {file : TokenStateFile}
    {events : List (MailEvent settings)} {count : Nat}
    (stray : (events[count]?).any (fun event =>
      event.op.submits.any (· ≠ latestToken file (events.take count))) = true) :
    ¬Chained file events := by
  intro chained
  obtain ⟨event, found, stray⟩ := (Option.any_eq_true _ _).mp stray
  obtain ⟨token, submitted, other⟩ := (Option.any_eq_true _ _).mp stray
  obtain ⟨bound, rfl⟩ := List.getElem?_eq_some_iff.mp found
  have split : events = events.take count ++ events[count] :: events.drop (count + 1) := by
    rw [List.getElem_cons_drop, List.take_append_drop]
  have latest := chained _ _ _ split token submitted
  exact of_decide_eq_true other latest.1

/-- Without a state file the second call submits the configured token again. -/
theorem seed_is_submitted_twice : ∃ system,
    (Machine.System.boot (MailWorld.initial .absent)).play
      (twoCalls 6 : List (mailMachine (mailSettings "")).Move) = some system ∧
      Rotates .absent system.trace ∧ replaced system.trace = ["seed", "seed"] ∧
      ¬Chained .absent system.trace := by
  have played : ((Machine.System.boot (MailWorld.initial .absent)).play
      (twoCalls 6 : List (mailMachine (mailSettings "")).Move)).any (fun system =>
        knownTokens .absent system.trace = ["seed", "first", "second"] &&
          replaced system.trace = ["seed", "seed"] &&
          (system.trace[8]?).any fun event =>
            event.op.submits.any (· ≠ latestToken .absent (system.trace.take 8))) = true := by
    decide
  obtain ⟨system, reached, facts⟩ := (Option.any_eq_true _ _).mp played
  simp only [Bool.and_eq_true, decide_eq_true_eq] at facts
  exact ⟨system, reached, by rw [Rotates, facts.1.1]; decide, facts.1.2, not_chained facts.2⟩

/-- With a state file the second call submits what the first was given. -/
theorem saved_token_is_handed_on : ∃ system,
    (Machine.System.boot (MailWorld.initial .absent)).play
      (twoCalls 7 : List (mailMachine (mailSettings "state.json")).Move) = some system ∧
      replaced system.trace = ["seed", "first"] ∧
      (Chained .absent system.trace ↔ WellInformed system.trace) := by
  have played : ((Machine.System.boot (MailWorld.initial .absent)).play
      (twoCalls 7 : List (mailMachine (mailSettings "state.json")).Move)).any (fun system =>
        knownTokens .absent system.trace = ["seed", "first", "second"] &&
          replaced system.trace = ["seed", "first"]) = true := by
    decide
  obtain ⟨system, reached, facts⟩ := (Option.any_eq_true _ _).mp played
  simp only [Bool.and_eq_true, decide_eq_true_eq] at facts
  have rotates : Rotates .absent system.trace := by
    rw [Rotates, facts.1]
    decide
  exact ⟨system, reached, facts.2, refresh_tokens_form_a_chain_iff reached rotates⟩

end FeishuMail

end HarborGate
