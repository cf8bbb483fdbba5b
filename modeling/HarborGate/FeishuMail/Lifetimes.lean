import HarborGate.FeishuMail.Tokens

/-!
How long the Feishu adapters keep a token in their cache. The lifetime comes from the provider, and
the instant it leads to is computed while the lock of the cache is held: a panic there leaves the lock
poisoned, and with it every later call.
-/

namespace HarborGate

/-- A `Mutex`. -/
structure Lock (α : Type) where
  value : α
  poisoned : Bool

/-- A critical section: `none` is a panic in it, with the value as far as it was changed. A poisoned
lock is not entered. -/
def Lock.hold {α : Type} (lock : Lock α) (critical : α → Option Unit × α) : Option Unit × Lock α :=
  if lock.poisoned then (none, lock)
  else
    let (done, value) := critical lock.value
    (done, ⟨value, done.isNone⟩)

/-- The first instant, in nanoseconds, whose seconds do not fit into an `i64`. -/
def instantEnd : Nat := 2 ^ 63 * 1000000000

/-- `Instant + Duration`, of whole seconds; `none` is its panic. -/
def instantAfter (instant seconds : Nat) : Option Nat :=
  if instant + 1000000000 * seconds < instantEnd then some (instant + 1000000000 * seconds) else none

def i64Range (value : Int) : Prop :=
  -2 ^ 63 ≤ value ∧ value < 2 ^ 63

instance (value : Int) : Decidable (i64Range value) :=
  inferInstanceAs (Decidable (_ ∧ _))

/-- The subtraction of `i64`: an overflow panics or wraps around, as the build has it. -/
def i64Sub (overflowChecks : Bool) (left right : Int) : Option Int :=
  if i64Range (left - right) then some (left - right)
  else if overflowChecks then none
  else some ((left - right).bmod (2 ^ 64))

/-- How a call leaves: without a token, with one, or by a panic. -/
inductive TokenOutcome
  | unserved
  | served (token : String)
  | panicked
deriving DecidableEq

/-- The assignments of a token and its expiry under the lock. -/
def storeToken {α : Type} (token : String) (instant ttlSeconds : Nat) (setToken : α → α)
    (setExpiry : Nat → α → α) (lock : Lock α) : TokenOutcome × Lock α :=
  let (done, lock) := lock.hold fun cache =>
    match instantAfter instant ttlSeconds with
    | none => (none, setToken cache)
    | some expiry => (some (), setExpiry expiry (setToken cache))
  (if done.isSome then .served token else .panicked, lock)

/-! ## The tenant tokens -/

def tenantToken (payload : Json) : String :=
  Text.trim (((payload.get "tenant_access_token").bind Json.asStr).getD "")

def tenantExpire (payload : Json) : Int :=
  ((payload.get "expire").bind Json.asI64).getD 0

/-- `(expire - 60).max(60) as u64`. -/
def tenantLifetime (overflowChecks : Bool) (expire : Int) : Option Nat :=
  (i64Sub overflowChecks expire 60).map fun seconds => (max seconds 60).toNat

/-- The end of `get_tenant_access_token`, which the two adapters share. -/
def storeTenantToken {α : Type} (overflowChecks : Bool) (instant : Nat) (payload : Json)
    (setToken : String → α → α) (setExpiry : Nat → α → α) (lock : Lock α) : TokenOutcome × Lock α :=
  if tenantToken payload = "" then (.unserved, lock)
  else
    match tenantLifetime overflowChecks (tenantExpire payload) with
    | none => (.panicked, lock)
    | some ttl => storeToken (tenantToken payload) instant ttl (setToken (tenantToken payload)) setExpiry lock

namespace Feishu

structure TokenCache where
  tenantAccessToken : String
  expiresAt : Option Nat

def storeTenantToken (overflowChecks : Bool) (instant : Nat) (payload : Json) (lock : Lock TokenCache) :
    TokenOutcome × Lock TokenCache :=
  HarborGate.storeTenantToken overflowChecks instant payload
    (fun token cache => { cache with tenantAccessToken := token })
    (fun expiry cache => { cache with expiresAt := some expiry }) lock

end Feishu

namespace FeishuMail

def storeTenantToken (overflowChecks : Bool) (instant : Nat) (payload : Json) (lock : Lock TokenCache) :
    TokenOutcome × Lock TokenCache :=
  HarborGate.storeTenantToken overflowChecks instant payload
    (fun token cache => { cache with tenantAccessToken := token })
    (fun expiry cache => { cache with expiresAt := some expiry }) lock

/-! ## The user tokens -/

/-- The assignments that both branches of `get_user_access_token` end with. -/
def storeUserToken (token refreshToken : String) (instant ttlSeconds : Nat) (lock : Lock TokenCache) :
    TokenOutcome × Lock TokenCache :=
  storeToken token instant ttlSeconds
    (fun cache => { cache with userAccessToken := token, userRefreshToken := refreshToken })
    (fun expiry cache => { cache with userExpiresAt := some expiry }) lock

/-- Whether the token of the state file is good for a minute. -/
def isFresh (now : Nat) (state : UserTokenState) : Bool :=
  Text.trim state.userAccessToken ≠ "" && saturatingAdd now 60 < state.accessExpiresAtEpochSeconds

/-- The branch with a stored state; `later` is the second reading of the clock. -/
def storeStoredToken (instant now later : Nat) (state : UserTokenState) (lock : Lock TokenCache) :
    TokenOutcome × Lock TokenCache :=
  if isFresh now state then
    storeUserToken (Text.trim state.userAccessToken) (Text.trim state.userRefreshToken) instant
      (max (state.accessExpiresAtEpochSeconds - later - 30) 30) lock
  else (.unserved, lock)

/-- The branch with a refresh response, once the new state is saved. -/
def storeRefreshedToken (instant : Nat) (refreshToken : String) (payload : Json)
    (lock : Lock TokenCache) : TokenOutcome × Lock TokenCache :=
  match readGranted refreshToken payload with
  | none => (.unserved, lock)
  | some granted =>
      storeUserToken granted.accessToken granted.refreshToken instant (max (granted.expiresIn - 60) 30)
        lock

end FeishuMail

/-! ## Runs -/

/-- The token caches of the two adapters. -/
structure TokenLocks where
  feishu : Lock Feishu.TokenCache
  mail : Lock FeishuMail.TokenCache

/-- A call, with what it computes a lifetime from. -/
inductive TokenCall
  | feishuTenant (payload : Json)
  | mailTenant (payload : Json)
  | mailStored (now later : Nat) (state : FeishuMail.UserTokenState)
  | mailRefreshed (refreshToken : String) (payload : Json)

def TokenLocks.perform (overflowChecks : Bool) (instant : Nat) (locks : TokenLocks) :
    TokenCall → TokenOutcome × TokenLocks
  | .feishuTenant payload =>
      let (outcome, lock) := Feishu.storeTenantToken overflowChecks instant payload locks.feishu
      (outcome, { locks with feishu := lock })
  | .mailTenant payload =>
      let (outcome, lock) := FeishuMail.storeTenantToken overflowChecks instant payload locks.mail
      (outcome, { locks with mail := lock })
  | .mailStored now later state =>
      let (outcome, lock) := FeishuMail.storeStoredToken instant now later state locks.mail
      (outcome, { locks with mail := lock })
  | .mailRefreshed refreshToken payload =>
      let (outcome, lock) := FeishuMail.storeRefreshedToken instant refreshToken payload locks.mail
      (outcome, { locks with mail := lock })

/-- The calls of a run, each with the instant it reads. -/
def TokenLocks.run (overflowChecks : Bool) (locks : TokenLocks) :
    List (Nat × TokenCall) → List TokenOutcome × TokenLocks
  | [] => ([], locks)
  | (instant, call) :: rest =>
      let (outcome, locks) := locks.perform overflowChecks instant call
      let (outcomes, locks) := locks.run overflowChecks rest
      (outcome :: outcomes, locks)

/-! ## When they stay usable -/

def TokenLocks.Usable (locks : TokenLocks) : Prop :=
  locks.feishu.poisoned = false ∧ locks.mail.poisoned = false

/-- The one subtraction that does not saturate has a result of its type. -/
def TokenCall.InRange : TokenCall → Prop
  | .feishuTenant payload | .mailTenant payload =>
      tenantToken payload ≠ "" → i64Range (tenantExpire payload - 60)
  | .mailStored _ _ _ | .mailRefreshed _ _ => True

structure Unbroken (overflowChecks : Bool) (locks : TokenLocks) (calls : List (Nat × TokenCall)) :
    Prop where
  inRange : ∀ call ∈ calls, call.2.InRange
  unpanicked : ∀ outcome ∈ (locks.run overflowChecks calls).1, outcome ≠ .panicked
  usable : (locks.run overflowChecks calls).2.Usable

/-- The instant so many seconds later can be represented. -/
def HasRoom (instant : Nat) (seconds : Int) : Prop :=
  (instant : Int) + seconds * 1000000000 < (2 ^ 63 : Int) * 1000000000

/-- The `expires_in` of a refresh response. -/
def FeishuMail.refreshedExpiresIn (payload : Json) : Int :=
  (((((payload.get "data").getD payload).get "expires_in")).bind Json.asI64).getD 7200

def TokenCall.Fits (instant : Nat) : TokenCall → Prop
  | .feishuTenant payload | .mailTenant payload =>
      tenantToken payload ≠ "" → -2 ^ 63 + 60 ≤ tenantExpire payload ∧ HasRoom instant 60 ∧
        HasRoom instant (tenantExpire payload - 60)
  | .mailStored now later state =>
      FeishuMail.isFresh now state → HasRoom instant 30 ∧
        HasRoom instant ((state.accessExpiresAtEpochSeconds : Int) - later - 30)
  | .mailRefreshed refreshToken payload =>
      (FeishuMail.readGranted refreshToken payload).isSome → HasRoom instant 30 ∧
        HasRoom instant (FeishuMail.refreshedExpiresIn payload - 60)

theorem instantAfter_isSome {instant seconds : Nat} :
    (instantAfter instant seconds).isSome ↔ HasRoom instant seconds := by
  have bound : instant + 1000000000 * seconds < instantEnd ↔ HasRoom instant seconds := by
    unfold instantEnd HasRoom
    omega
  rw [← bound, instantAfter]
  by_cases fits : instant + 1000000000 * seconds < instantEnd
  · rw [if_pos fits]
    exact iff_of_true rfl fits
  · rw [if_neg fits]
    exact iff_of_false Bool.false_ne_true fits

theorem hasRoom_max {instant : Nat} (least : Nat) {seconds : Int} :
    HasRoom instant ((max seconds least).toNat : Int) ↔
      HasRoom instant least ∧ HasRoom instant seconds := by
  unfold HasRoom
  omega

/-- A call on one lock neither panics nor leaves it poisoned. -/
def Unharmed {α : Type} (outcome : TokenOutcome × Lock α) : Prop :=
  outcome.1 ≠ .panicked ∧ outcome.2.poisoned = false

theorem unharmed_storeToken {α : Type} {token : String} {instant ttlSeconds : Nat}
    {setToken : α → α} {setExpiry : Nat → α → α} {lock : Lock α} (usable : lock.poisoned = false) :
    Unharmed (storeToken token instant ttlSeconds setToken setExpiry lock) ↔
      HasRoom instant ttlSeconds := by
  rw [← instantAfter_isSome, storeToken, Lock.hold, if_neg (by simp [usable])]
  cases after : instantAfter instant ttlSeconds with
  | none => simp [Unharmed]
  | some expiry => simp [Unharmed]

theorem Json.asI64_range {value : Json} {number : Int} (read : value.asI64 = some number) :
    i64Range number := by
  rw [Json.asI64, Option.filter_eq_some_iff] at read
  have within := of_decide_eq_true read.2
  exact ⟨by omega, within.2⟩

theorem tenantExpire_range (payload : Json) : i64Range (tenantExpire payload) := by
  rw [tenantExpire]
  cases read : (payload.get "expire").bind Json.asI64 with
  | none => decide
  | some expire =>
      obtain ⟨value, _, read⟩ := Option.bind_eq_some_iff.mp read
      exact Json.asI64_range read

theorem tenantExpire_sub_range {payload : Json} :
    i64Range (tenantExpire payload - 60) ↔ -2 ^ 63 + 60 ≤ tenantExpire payload := by
  have range := tenantExpire_range payload
  unfold i64Range at *
  omega

theorem tenantLifetime_of_least {overflowChecks : Bool} {payload : Json}
    (least : -2 ^ 63 + 60 ≤ tenantExpire payload) :
    tenantLifetime overflowChecks (tenantExpire payload) =
      some (max (tenantExpire payload - 60) 60).toNat := by
  rw [tenantLifetime, i64Sub, if_pos (tenantExpire_sub_range.mpr least)]
  simp only [Option.map_some]

theorem unharmed_storeTenantToken {α : Type} (overflowChecks : Bool) {instant : Nat} {payload : Json}
    (setToken : String → α → α) (setExpiry : Nat → α → α) {lock : Lock α}
    (usable : lock.poisoned = false) :
    ((tenantToken payload ≠ "" → i64Range (tenantExpire payload - 60)) ∧
      Unharmed (storeTenantToken overflowChecks instant payload setToken setExpiry lock)) ↔
      (tenantToken payload ≠ "" → -2 ^ 63 + 60 ≤ tenantExpire payload ∧ HasRoom instant 60 ∧
        HasRoom instant (tenantExpire payload - 60)) := by
  by_cases named : tenantToken payload = ""
  · rw [storeTenantToken, if_pos named]
    simp [named, Unharmed, usable]
  · rw [storeTenantToken, if_neg named, tenantExpire_sub_range]
    by_cases least : -2 ^ 63 + 60 ≤ tenantExpire payload
    · rw [tenantLifetime_of_least least]
      simp only [unharmed_storeToken usable, ne_eq, named, not_false_eq_true, forall_const, least,
        true_and]
      exact hasRoom_max 60
    · simp only [ne_eq, named, not_false_eq_true, forall_const, least, false_and]

theorem storeToken_user {instant ttlSeconds : Nat} {token refreshToken : String}
    {lock : Lock FeishuMail.TokenCache} (usable : lock.poisoned = false) :
    Unharmed (FeishuMail.storeUserToken token refreshToken instant ttlSeconds lock) ↔
      HasRoom instant ttlSeconds :=
  unharmed_storeToken usable

theorem unharmed_storeStoredToken {instant now later : Nat} {state : FeishuMail.UserTokenState}
    {lock : Lock FeishuMail.TokenCache} (usable : lock.poisoned = false) :
    Unharmed (FeishuMail.storeStoredToken instant now later state lock) ↔
      (TokenCall.mailStored now later state).Fits instant := by
  rw [FeishuMail.storeStoredToken, TokenCall.Fits]
  by_cases fresh : FeishuMail.isFresh now state
  · rw [if_pos fresh, storeToken_user usable]
    simp only [fresh, forall_const]
    have lifetime : ((max (state.accessExpiresAtEpochSeconds - later - 30) 30 : Nat) : Int) =
        ((max ((state.accessExpiresAtEpochSeconds : Int) - later - 30) (30 : Nat)).toNat : Int) := by
      omega
    rw [lifetime]
    exact hasRoom_max 30
  · rw [if_neg fresh]
    simp [fresh, Unharmed, usable]

theorem readGranted_expiresIn {refreshToken : String} {payload : Json} {granted : FeishuMail.Granted}
    (read : FeishuMail.readGranted refreshToken payload = some granted) :
    granted.expiresIn = (max (FeishuMail.refreshedExpiresIn payload) 60).toNat := by
  simp only [FeishuMail.readGranted] at read
  split at read
  · cases read
  · cases read
    rfl

theorem unharmed_storeRefreshedToken {instant : Nat} {refreshToken : String} {payload : Json}
    {lock : Lock FeishuMail.TokenCache} (usable : lock.poisoned = false) :
    Unharmed (FeishuMail.storeRefreshedToken instant refreshToken payload lock) ↔
      (TokenCall.mailRefreshed refreshToken payload).Fits instant := by
  rw [FeishuMail.storeRefreshedToken, TokenCall.Fits]
  cases read : FeishuMail.readGranted refreshToken payload with
  | none => simp [Unharmed, usable]
  | some granted =>
      simp only [storeToken_user usable, Option.isSome_some, forall_const]
      have lifetime : ((max (granted.expiresIn - 60) 30 : Nat) : Int) =
          ((max (FeishuMail.refreshedExpiresIn payload - 60) (30 : Nat)).toNat : Int) := by
        rw [readGranted_expiresIn read]
        omega
      rw [lifetime]
      exact hasRoom_max 30

/-- One call on usable locks. -/
theorem perform_unbroken (overflowChecks : Bool) {instant : Nat} {locks : TokenLocks}
    {call : TokenCall} (usable : locks.Usable) :
    (call.InRange ∧ (locks.perform overflowChecks instant call).1 ≠ .panicked ∧
      (locks.perform overflowChecks instant call).2.Usable) ↔ call.Fits instant := by
  obtain ⟨feishu, mail⟩ := usable
  cases call with
  | feishuTenant payload =>
      rw [TokenCall.Fits, ← unharmed_storeTenantToken overflowChecks
        (fun token cache => { cache with tenantAccessToken := token })
        (fun expiry cache => { cache with expiresAt := some expiry }) feishu]
      simp only [TokenCall.InRange, TokenLocks.perform, Feishu.storeTenantToken, TokenLocks.Usable,
        Unharmed, mail, and_true]
  | mailTenant payload =>
      rw [TokenCall.Fits, ← unharmed_storeTenantToken overflowChecks
        (fun token cache => { cache with tenantAccessToken := token })
        (fun expiry cache => { cache with expiresAt := some expiry }) mail]
      simp only [TokenCall.InRange, TokenLocks.perform, FeishuMail.storeTenantToken,
        TokenLocks.Usable, Unharmed, feishu, true_and]
  | mailStored now later state =>
      rw [← unharmed_storeStoredToken mail]
      simp only [TokenCall.InRange, TokenLocks.perform, TokenLocks.Usable, Unharmed, feishu, true_and]
  | mailRefreshed refreshToken payload =>
      rw [← unharmed_storeRefreshedToken mail]
      simp only [TokenCall.InRange, TokenLocks.perform, TokenLocks.Usable, Unharmed, feishu, true_and]

/-! ## The token programs -/

theorem storeToken_value {α : Type} {token : String} {instant ttlSeconds : Nat}
    {setToken : α → α} {setExpiry : Nat → α → α} {lock : Lock α} (usable : lock.poisoned = false)
    (room : HasRoom instant ttlSeconds) :
    (storeToken token instant ttlSeconds setToken setExpiry lock).2.value =
      setExpiry (instant + 1000000000 * ttlSeconds) (setToken lock.value) := by
  have some_after := instantAfter_isSome.mpr room
  rw [storeToken, Lock.hold, if_neg (by simp [usable])]
  cases after : instantAfter instant ttlSeconds with
  | none => simp [after] at some_after
  | some expiry =>
      rw [instantAfter] at after
      split at after
      · cases after
        rfl
      · cases after

/-- Where the instant has room, the lock holds what the token programs cache. -/
theorem perform_cacheUser {settings : FeishuMail.FeishuMailConfig} {world : FeishuMail.MailWorld}
    {token refreshToken : String} {ttlSeconds : Nat} {choice : FeishuMail.MailChoice}
    (room : HasRoom choice.instant ttlSeconds) :
    world.perform settings (.cacheUser token refreshToken ttlSeconds) choice =
      some ((), { world with cache := (FeishuMail.storeUserToken token refreshToken choice.instant
        ttlSeconds ⟨world.cache, false⟩).2.value }) := by
  rw [FeishuMail.storeUserToken, storeToken_value rfl room, Nat.mul_comm]
  rfl

theorem perform_cacheTenant {settings : FeishuMail.FeishuMailConfig} {world : FeishuMail.MailWorld}
    {overflowChecks : Bool} {payload : Json} {choice : FeishuMail.MailChoice}
    (named : tenantToken payload ≠ "") (fits : (TokenCall.mailTenant payload).Fits choice.instant) :
    world.perform settings (.cacheTenant (tenantToken payload)
        (max (tenantExpire payload - 60) 60).toNat) choice =
      some ((), { world with cache := (FeishuMail.storeTenantToken overflowChecks choice.instant
        payload ⟨world.cache, false⟩).2.value }) := by
  obtain ⟨least, room⟩ := fits named
  have later : HasRoom choice.instant (max (tenantExpire payload - 60) 60).toNat :=
    (hasRoom_max 60).mpr room
  rw [FeishuMail.storeTenantToken, storeTenantToken, if_neg named, tenantLifetime_of_least least]
  dsimp only
  rw [storeToken_value rfl later, Nat.mul_comm]
  rfl

/-! ## Whole runs -/

/-- A poisoned lock stays so. -/
theorem storeToken_usable {α : Type} {token : String} {instant ttlSeconds : Nat}
    {setToken : α → α} {setExpiry : Nat → α → α} {lock : Lock α}
    (usable : (storeToken token instant ttlSeconds setToken setExpiry lock).2.poisoned = false) :
    lock.poisoned = false := by
  cases held : lock.poisoned with
  | false => rfl
  | true =>
      rw [storeToken, Lock.hold, if_pos held] at usable
      exact held.symm.trans usable

theorem storeTenantToken_usable {α : Type} {overflowChecks : Bool} {instant : Nat} {payload : Json}
    {setToken : String → α → α} {setExpiry : Nat → α → α} {lock : Lock α}
    (usable : (storeTenantToken overflowChecks instant payload setToken setExpiry lock).2.poisoned =
      false) : lock.poisoned = false := by
  rw [storeTenantToken] at usable
  by_cases named : tenantToken payload = ""
  · rw [if_pos named] at usable
    exact usable
  · rw [if_neg named] at usable
    cases lifetime : tenantLifetime overflowChecks (tenantExpire payload) with
    | none =>
        rw [lifetime] at usable
        exact usable
    | some ttl =>
        rw [lifetime] at usable
        exact storeToken_usable usable

theorem storeStoredToken_usable {instant now later : Nat} {state : FeishuMail.UserTokenState}
    {lock : Lock FeishuMail.TokenCache}
    (usable : (FeishuMail.storeStoredToken instant now later state lock).2.poisoned = false) :
    lock.poisoned = false := by
  rw [FeishuMail.storeStoredToken] at usable
  by_cases fresh : FeishuMail.isFresh now state
  · rw [if_pos fresh] at usable
    exact storeToken_usable usable
  · rw [if_neg fresh] at usable
    exact usable

theorem storeRefreshedToken_usable {instant : Nat} {refreshToken : String} {payload : Json}
    {lock : Lock FeishuMail.TokenCache}
    (usable : (FeishuMail.storeRefreshedToken instant refreshToken payload lock).2.poisoned = false) :
    lock.poisoned = false := by
  rw [FeishuMail.storeRefreshedToken] at usable
  cases read : FeishuMail.readGranted refreshToken payload with
  | none =>
      rw [read] at usable
      exact usable
  | some granted =>
      rw [read] at usable
      exact storeToken_usable usable

theorem perform_usable {overflowChecks : Bool} {instant : Nat} {locks : TokenLocks} {call : TokenCall}
    (usable : (locks.perform overflowChecks instant call).2.Usable) : locks.Usable := by
  obtain ⟨feishu, mail⟩ := usable
  cases call with
  | feishuTenant payload =>
      simp only [TokenLocks.perform, Feishu.storeTenantToken] at feishu mail
      exact ⟨storeTenantToken_usable feishu, mail⟩
  | mailTenant payload =>
      simp only [TokenLocks.perform, FeishuMail.storeTenantToken] at feishu mail
      exact ⟨feishu, storeTenantToken_usable mail⟩
  | mailStored now later state =>
      simp only [TokenLocks.perform] at feishu mail
      exact ⟨feishu, storeStoredToken_usable mail⟩
  | mailRefreshed refreshToken payload =>
      simp only [TokenLocks.perform] at feishu mail
      exact ⟨feishu, storeRefreshedToken_usable mail⟩

theorem run_cons {overflowChecks : Bool} {locks : TokenLocks} {call : Nat × TokenCall}
    {rest : List (Nat × TokenCall)} :
    locks.run overflowChecks (call :: rest) =
      ((locks.perform overflowChecks call.1 call.2).1 ::
        ((locks.perform overflowChecks call.1 call.2).2.run overflowChecks rest).1,
       ((locks.perform overflowChecks call.1 call.2).2.run overflowChecks rest).2) := rfl

theorem run_usable {overflowChecks : Bool} {locks : TokenLocks} {calls : List (Nat × TokenCall)}
    (usable : (locks.run overflowChecks calls).2.Usable) : locks.Usable := by
  induction calls generalizing locks with
  | nil => exact usable
  | cons call rest ih =>
      rw [run_cons] at usable
      exact perform_usable (ih usable)

/-- No run of calls overflows, panics or poisons a lock exactly when every call of it fits. -/
theorem token_runs_are_unbroken_iff {overflowChecks : Bool} {locks : TokenLocks}
    {calls : List (Nat × TokenCall)} (usable : locks.Usable) :
    Unbroken overflowChecks locks calls ↔ ∀ call ∈ calls, call.2.Fits call.1 := by
  induction calls generalizing locks with
  | nil =>
      exact iff_of_true ⟨List.forall_mem_nil _, List.forall_mem_nil _, usable⟩ (List.forall_mem_nil _)
  | cons call rest ih =>
      rw [List.forall_mem_cons, ← perform_unbroken overflowChecks usable]
      constructor
      · rintro ⟨inRange, unpanicked, last⟩
        rw [run_cons] at unpanicked last
        rw [List.forall_mem_cons] at inRange unpanicked
        have later := run_usable last
        exact ⟨⟨inRange.1, unpanicked.1, later⟩, (ih later).mp ⟨inRange.2, unpanicked.2, last⟩⟩
      · rintro ⟨⟨inRange, unpanicked, later⟩, fits⟩
        have unbroken := (ih later).mpr fits
        constructor
        · exact List.forall_mem_cons.mpr ⟨inRange, unbroken.inRange⟩
        · rw [run_cons]
          exact List.forall_mem_cons.mpr ⟨unpanicked, unbroken.unpanicked⟩
        · rw [run_cons]
          exact unbroken.usable

def freshLocks : TokenLocks where
  feishu := ⟨⟨"", none⟩, false⟩
  mail := ⟨⟨"", none, "", "", none⟩, false⟩

/-- A usual tenant token, and one kept in the state file. -/
theorem usual_lifetimes_fit :
    Unbroken true freshLocks
      [(5000000000, .mailTenant (.obj [("tenant_access_token", .str "t"), ("expire", .num 7200)])),
        (6000000000, .mailStored 1000 1001 ⟨"a", "r", 8200, 0⟩)] := by
  refine (token_runs_are_unbroken_iff ⟨rfl, rfl⟩).mpr fun call member => ?_
  rcases List.mem_cons.mp member with rfl | member
  · intro _
    exact ⟨by decide, by unfold HasRoom; decide, by unfold HasRoom; decide⟩
  · rw [List.mem_singleton.mp member]
    intro _
    exact ⟨by unfold HasRoom; decide, by unfold HasRoom; decide⟩

/-- The greatest lifetime overflows the instant under the lock once the clock reads a minute and a second. -/
theorem greatest_lifetime_poisons :
    ¬Unbroken false freshLocks
      [(61000000000, .feishuTenant
        (.obj [("tenant_access_token", .str "t"), ("expire", .num (2 ^ 63 - 1))]))] := by
  intro unbroken
  have outcome := unbroken.unpanicked .panicked
  exact outcome (by decide) rfl

end HarborGate
