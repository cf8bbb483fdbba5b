import Mathlib.Algebra.Order.Ring.Int
import HarborGate.Lib.Text
import HarborGate.Lib.Result

/-!
The device sessions of `device_session.rs`. Codes and tokens are kept as digests; each operation
reads the clock and draws its secrets before it takes the lock, and reads and writes the state
under it. A run is the list of operations of all processes in the order of the lock.
-/

namespace HarborGate

namespace DeviceSession

inductive SessionError
  | invalidPairing
  | invalidSession
  | cameraDenied
  | unavailable (reason : String)
deriving DecidableEq, Repr

structure PairingRecord where
  pairingId : String
  codeSha256 : String
  cameraId : String
  expiresAt : Nat
  consumedAt : Option Nat
deriving DecidableEq, Repr

structure SessionRecord where
  sessionId : String
  tokenSha256 : String
  cameraId : String
  expiresAt : Nat
  revokedAt : Option Nat
deriving DecidableEq, Repr

structure State where
  pairings : List PairingRecord
  sessions : List SessionRecord
deriving DecidableEq, Repr

def State.default : State where
  pairings := []
  sessions := []

structure Principal where
  principalId : String
  cameraId : String
  expiresAt : Nat
deriving DecidableEq, Repr

/-- The calls with what they draw: `issue_pairing` its code, `exchange` its token. -/
inductive Op
  | issuePairing (camera : String) (ttl : Nat) (code : String) (pairingId : String)
  | exchange (code : String) (ttl : Nat) (token : String) (sessionId : String)
  | authenticate (token camera : String)
  | current (token : String)
  | revoke (token : String)

inductive Answer
  | issued (code camera : String) (expiresAt : Nat)
  | exchanged (token : String) (principal : Principal)
  | principal (principal : Principal)
  | revoked
deriving DecidableEq, Repr

/-- `lost` fails before the new state is renamed into place; `exposed` fails after, when the
permissions of the new file cannot be set. -/
inductive Storage
  | stored
  | lost
  | exposed
deriving DecidableEq, Repr

structure Step where
  now : Nat
  op : Op
  storage : Storage

def saturatingAdd (left right : Nat) : Nat :=
  min (left + right) (2 ^ 64 - 1)

def isControl (c : Char) : Bool :=
  c.toNat ≤ 0x1F || (0x7F ≤ c.toNat && c.toNat ≤ 0x9F)

def validateCameraId (camera : String) : Except SessionError String :=
  let camera := Text.trim camera
  if camera = "" ∨ 128 < Text.utf8Len camera ∨ '/' ∈ camera.toList ∨
      camera.toList.any isControl then
    .error .cameraDenied
  else .ok camera

/-- The first record that matches, and the list with that record changed in place. -/
def updateFirst {α : Type} (found : α → Bool) (change : α → α) : List α → Option (α × List α)
  | [] => none
  | record :: rest =>
      if found record then some (record, change record :: rest)
      else (updateFirst found change rest).map fun hit => (hit.1, record :: hit.2)

section

variable (digest : String → String)

def issuePairing (now : Nat) (camera : String) (ttl : Nat) (code : String) (pairingId : String)
    (state : State) : Except SessionError (Answer × State) := do
  let camera ← validateCameraId camera
  if ¬(60 ≤ ttl ∧ ttl ≤ 1800) then
    throw (.unavailable "pairing ttl must be between 60 and 1800 seconds")
  let expiresAt := saturatingAdd now ttl
  let kept := state.pairings.filter fun record =>
    now < record.expiresAt && record.consumedAt.isNone
  return (.issued code camera expiresAt, { state with
    pairings := kept ++ [{
      pairingId
      codeSha256 := digest code
      cameraId := camera
      expiresAt
      consumedAt := none }] })

def exchange (now : Nat) (code : String) (ttl : Nat) (token : String) (sessionId : String)
    (state : State) : Except SessionError (Answer × State) :=
  if Text.trim code = "" ∨ ttl = 0 then .error .invalidPairing
  else
    match updateFirst (fun record : PairingRecord => record.consumedAt.isNone &&
        now < record.expiresAt && record.codeSha256 == digest (Text.trim code))
        (fun record => { record with consumedAt := some now }) state.pairings with
    | none => .error .invalidPairing
    | some (pairing, pairings) =>
        let expiresAt := saturatingAdd now ttl
        let kept := state.sessions.filter fun record =>
          now < record.expiresAt && record.revokedAt.isNone
        .ok (.exchanged token
            { principalId := "harbornavi-device:" ++ sessionId
              cameraId := pairing.cameraId
              expiresAt },
          { pairings
            sessions := kept ++ [{
              sessionId
              tokenSha256 := digest token
              cameraId := pairing.cameraId
              expiresAt
              revokedAt := none }] })

def current (now : Nat) (token : String) (state : State) : Except SessionError Principal :=
  if Text.trim token = "" then .error .invalidSession
  else
    match state.sessions.find? fun record => record.revokedAt.isNone &&
        now < record.expiresAt && record.tokenSha256 == digest (Text.trim token) with
    | none => .error .invalidSession
    | some session => .ok
        { principalId := "harbornavi-device:" ++ session.sessionId
          cameraId := session.cameraId
          expiresAt := session.expiresAt }

def authenticate (now : Nat) (token camera : String) (state : State) :
    Except SessionError Principal := do
  let camera ← validateCameraId camera
  let principal ← current digest now token state
  if principal.cameraId ≠ camera then throw .cameraDenied
  return principal

def revoke (now : Nat) (token : String) (state : State) :
    Except SessionError (Answer × State) :=
  match updateFirst (fun record : SessionRecord => record.revokedAt.isNone &&
      record.tokenSha256 == digest (Text.trim token))
      (fun record => { record with revokedAt := some now }) state.sessions with
  | none => .error .invalidSession
  | some (_, sessions) => .ok (.revoked, { state with sessions })

/-- What the operation does to the state it finds under the lock. -/
def Step.perform (step : Step) (state : State) : Except SessionError (Answer × State) :=
  match step.op with
  | .issuePairing camera ttl code pairingId =>
      issuePairing digest step.now camera ttl code pairingId state
  | .exchange code ttl token sessionId => exchange digest step.now code ttl token sessionId state
  | .authenticate token camera =>
      (authenticate digest step.now token camera state).map fun found => (.principal found, state)
  | .current token =>
      (current digest step.now token state).map fun found => (.principal found, state)
  | .revoke token => revoke digest step.now token state

def Op.writes : Op → Bool
  | .issuePairing _ _ _ _ | .exchange _ _ _ _ | .revoke _ => true
  | .authenticate _ _ | .current _ => false

def storageFailure : SessionError :=
  .unavailable "storage"

/-- The checks an operation makes before it opens the state. -/
def Op.checked : Op → Except SessionError Unit
  | .issuePairing camera ttl _ _ => do
      let _ ← validateCameraId camera
      if ¬(60 ≤ ttl ∧ ttl ≤ 1800) then
        throw (.unavailable "pairing ttl must be between 60 and 1800 seconds")
  | .exchange code ttl _ _ =>
      if Text.trim code = "" ∨ ttl = 0 then .error .invalidPairing else .ok ()
  | .authenticate token camera => do
      let _ ← validateCameraId camera
      if Text.trim token = "" then throw .invalidSession
  | .current token => if Text.trim token = "" then .error .invalidSession else .ok ()
  | .revoke _ => .ok ()

def Step.outcome (step : Step) (state : State) : Except SessionError Answer × State :=
  match step.storage, step.perform digest state with
  | .lost, _ => (step.op.checked.bind fun _ => .error storageFailure, state)
  | _, .error error => (.error error, state)
  | .stored, .ok (answer, after) => (.ok answer, after)
  | .exposed, .ok (answer, after) =>
      if step.op.writes then (.error storageFailure, after) else (.ok answer, after)

def Step.apply (step : Step) (state : State) : State :=
  (step.outcome digest state).2

/-- The operation did what it was asked to, whether or not its caller was told. -/
def Step.TookEffect (step : Step) (state : State) : Prop :=
  step.storage ≠ .lost ∧ ∃ answer after, step.perform digest state = .ok (answer, after)

def run (steps : List Step) : State :=
  steps.foldl (fun state step => step.apply digest state) State.default

end

/-- The secrets an operation draws. -/
def Step.drawn (step : Step) : List String :=
  match step.op with
  | .issuePairing _ _ code _ => [code]
  | .exchange _ _ token _ => [token]
  | _ => []

/-! ## What one operation does -/

theorem updateFirst_eq_some {α : Type} {found : α → Bool} {change : α → α} {record : α}
    {records changed : List α}
    (hit : updateFirst found change records = some (record, changed)) :
    ∃ before after, records = before ++ record :: after ∧
      changed = before ++ change record :: after ∧ found record = true := by
  induction records generalizing changed with
  | nil => simp [updateFirst] at hit
  | cons first rest ih =>
      simp only [updateFirst] at hit
      split at hit
      · rename_i here
        simp only [Option.some.injEq, Prod.mk.injEq] at hit
        obtain ⟨rfl, rfl⟩ := hit
        exact ⟨[], rest, rfl, rfl, here⟩
      · simp only [Option.map_eq_some_iff, Prod.mk.injEq] at hit
        obtain ⟨⟨found, later⟩, further, same, rest⟩ := hit
        dsimp only at same rest
        subst same rest
        obtain ⟨before, after, rfl, rfl, holds⟩ := ih further
        exact ⟨first :: before, after, rfl, rfl, holds⟩

inductive Effect (digest : String → String) (step : Step) (state : State) : State → Prop
  | none : ¬(step.op.writes = true ∧ step.TookEffect digest state) → Effect digest step state state
  | issued {camera ttl code pairingId valid} :
      step.op = .issuePairing camera ttl code pairingId → step.TookEffect digest state →
      validateCameraId camera = .ok valid →
      Effect digest step state { state with
        pairings := (state.pairings.filter fun record =>
          step.now < record.expiresAt && record.consumedAt.isNone) ++
          [⟨pairingId, digest code, valid, saturatingAdd step.now ttl, Option.none⟩] }
  | exchanged {code ttl token sessionId pairing pairings} :
      step.op = .exchange code ttl token sessionId → step.TookEffect digest state →
      updateFirst (fun record : PairingRecord => record.consumedAt.isNone &&
        step.now < record.expiresAt && record.codeSha256 == digest (Text.trim code))
        (fun record => { record with consumedAt := some step.now }) state.pairings =
        some (pairing, pairings) →
      Effect digest step state
        { pairings
          sessions := (state.sessions.filter fun record =>
            step.now < record.expiresAt && record.revokedAt.isNone) ++
            [⟨sessionId, digest token, pairing.cameraId, saturatingAdd step.now ttl,
              Option.none⟩] }
  | revoked {token session sessions} :
      step.op = .revoke token → step.TookEffect digest state →
      updateFirst (fun record : SessionRecord => record.revokedAt.isNone &&
        record.tokenSha256 == digest (Text.trim token))
        (fun record => { record with revokedAt := some step.now }) state.sessions =
        some (session, sessions) →
      Effect digest step state { state with sessions }

theorem Step.apply_of_performed {digest : String → String} {step : Step} {state after : State}
    {answer : Answer} (kept : step.storage ≠ .lost)
    (performed : step.perform digest state = .ok (answer, after)) :
    step.apply digest state = after := by
  cases storage : step.storage with
  | lost => exact absurd storage kept
  | stored => simp [Step.apply, Step.outcome, storage, performed]
  | exposed =>
      simp only [Step.apply, Step.outcome, storage, performed]
      split <;> rfl

theorem Step.apply_of_not_effect {digest : String → String} {step : Step} {state : State}
    (none : ¬step.TookEffect digest state) : step.apply digest state = state := by
  cases storage : step.storage with
  | lost => simp [Step.apply, Step.outcome, storage]
  | stored | exposed =>
      cases performed : step.perform digest state with
      | error error => simp [Step.apply, Step.outcome, storage, performed]
      | ok result => exact absurd ⟨by simp [storage], _, _, performed⟩ none

theorem Step.apply_effect (digest : String → String) (step : Step) (state : State) :
    Effect digest step state (step.apply digest state) := by
  by_cases took : step.TookEffect digest state
  swap
  · rw [Step.apply_of_not_effect took]
    exact .none fun both => took both.2
  obtain ⟨kept, answer, after, performed⟩ := id took
  rw [Step.apply_of_performed kept performed]
  simp only [Step.perform] at performed
  split at performed <;> rename_i chosen
  · simp only [issuePairing, Result.bind_eq_ok] at performed
    obtain ⟨valid, checked, performed⟩ := performed
    split at performed
    · simp [throw, throwThe, MonadExceptOf.throw] at performed
    · simp only [pure, Except.pure, Except.ok.injEq, Prod.mk.injEq] at performed
      obtain ⟨-, rfl⟩ := performed
      exact .issued chosen took checked
  · simp only [exchange] at performed
    split at performed
    · simp at performed
    · split at performed
      · simp at performed
      · rename_i pairing pairings found
        simp only [Except.ok.injEq, Prod.mk.injEq] at performed
        obtain ⟨-, rfl⟩ := performed
        exact .exchanged chosen took found
  · simp only [Result.map_eq_ok, Prod.mk.injEq] at performed
    obtain ⟨_, -, -, rfl⟩ := performed
    exact .none (by simp [chosen, Op.writes])
  · simp only [Result.map_eq_ok, Prod.mk.injEq] at performed
    obtain ⟨_, -, -, rfl⟩ := performed
    exact .none (by simp [chosen, Op.writes])
  · simp only [revoke] at performed
    split at performed
    · simp at performed
    · rename_i session sessions found
      simp only [Except.ok.injEq, Prod.mk.injEq] at performed
      obtain ⟨-, rfl⟩ := performed
      exact .revoked chosen took found

/-! ## Where a record comes from -/

section

variable (digest : String → String)

/-- The pairing was stored by an earlier `issue_pairing` for its camera. -/
def PairingOrigin (past : List Step) (record : PairingRecord) : Prop :=
  ∃ before step after camera ttl code pairingId, past = before ++ step :: after ∧
    step.op = .issuePairing camera ttl code pairingId ∧ step.TookEffect digest (run digest before) ∧
    validateCameraId camera = .ok record.cameraId ∧ record.codeSha256 = digest code ∧
    record.expiresAt = saturatingAdd step.now ttl

/-- The session was stored by an earlier `exchange` of an open pairing for its camera, and unless
it is marked no revocation of its token took effect since. -/
def SessionOrigin (past : List Step) (record : SessionRecord) : Prop :=
  ∃ before step after code ttl token sessionId pairing, past = before ++ step :: after ∧
    step.op = .exchange code ttl token sessionId ∧ step.TookEffect digest (run digest before) ∧
    PairingOrigin digest before pairing ∧ pairing.codeSha256 = digest (Text.trim code) ∧
    step.now < pairing.expiresAt ∧ pairing.cameraId = record.cameraId ∧
    record.tokenSha256 = digest token ∧ record.expiresAt = saturatingAdd step.now ttl ∧
    (record.revokedAt = none → ∀ middle revocation rest presented,
      after = middle ++ revocation :: rest → revocation.op = .revoke presented →
      digest (Text.trim presented) = record.tokenSha256 →
      ¬revocation.TookEffect digest (run digest (before ++ step :: middle)))

def secretsOf (steps : List Step) : List String :=
  steps.flatMap Step.drawn

/-- The exchanged code was drawn before, and no open pairing has it any more. -/
def Spent (past : List Step) (pairings : List PairingRecord) (code : String) : Prop :=
  Text.trim code ∈ secretsOf past ∧
    ∀ record ∈ pairings, record.codeSha256 = digest (Text.trim code) → record.consumedAt ≠ none

structure Traced (past : List Step) (state : State) : Prop where
  pairings : ∀ record ∈ state.pairings, PairingOrigin digest past record
  sessions : ∀ record ∈ state.sessions, SessionOrigin digest past record
  codes : (state.pairings.map PairingRecord.codeSha256).Nodup
  tokens : (state.sessions.map SessionRecord.tokenSha256).Nodup
  spent : ∀ before step after code ttl token sessionId, past = before ++ step :: after →
    step.op = .exchange code ttl token sessionId → step.TookEffect digest (run digest before) →
    Spent digest past state.pairings code

end

section

variable {digest : String → String} {past : List Step} {step : Step} {state : State}

theorem PairingOrigin.extend {record : PairingRecord} (origin : PairingOrigin digest past record) :
    PairingOrigin digest (past ++ [step]) record := by
  obtain ⟨before, issue, after, camera, ttl, code, pairingId, rfl, facts⟩ := origin
  exact ⟨before, issue, after ++ [step], camera, ttl, code, pairingId, by simp, facts⟩

theorem PairingOrigin.drawn {record : PairingRecord} (origin : PairingOrigin digest past record) :
    ∃ code ∈ secretsOf past, record.codeSha256 = digest code := by
  obtain ⟨before, issue, after, camera, ttl, code, pairingId, rfl, issued, -, -, hashed, -⟩ := origin
  exact ⟨code, by simp [secretsOf, Step.drawn, issued], hashed⟩

theorem SessionOrigin.drawn {record : SessionRecord} (origin : SessionOrigin digest past record) :
    ∃ token ∈ secretsOf past, record.tokenSha256 = digest token := by
  obtain ⟨before, exchange, after, code, ttl, token, sessionId, pairing, rfl, exchanged, -, -, -, -,
    -, hashed, -⟩ := origin
  exact ⟨token, by simp [secretsOf, Step.drawn, exchanged], hashed⟩

/-- A record stays traced as long as no revocation of it goes unmarked. -/
theorem SessionOrigin.extend {record : SessionRecord} (origin : SessionOrigin digest past record)
    (marked : record.revokedAt = none → ∀ presented, step.op = .revoke presented →
      digest (Text.trim presented) = record.tokenSha256 →
      ¬step.TookEffect digest (run digest past)) :
    SessionOrigin digest (past ++ [step]) record := by
  obtain ⟨before, exchange, after, code, ttl, token, sessionId, pairing, rfl, exchanged, took,
    paired, codeHash, open_, camera, hashed, expires, unrevoked⟩ := origin
  refine ⟨before, exchange, after ++ [step], code, ttl, token, sessionId, pairing, by simp,
    exchanged, took, paired, codeHash, open_, camera, hashed, expires, ?_⟩
  intro unmarked middle revocation rest presented split revokes same
  rcases List.eq_nil_or_concat rest with rfl | ⟨init, last, rfl⟩
  · have tail := List.append_inj' split rfl
    obtain ⟨rfl, final⟩ := tail
    obtain rfl := (List.cons.inj final).1
    exact marked unmarked presented revokes same
  · rw [List.concat_eq_append, ← List.cons_append, ← List.append_assoc] at split
    obtain ⟨rfl, -⟩ := List.append_inj' split rfl
    exact unrevoked unmarked middle revocation init presented rfl revokes same

theorem run_snoc (digest : String → String) (past : List Step) (step : Step) :
    run digest (past ++ [step]) = step.apply digest (run digest past) := by
  simp [run]

theorem secretsOf_snoc (past : List Step) (step : Step) :
    secretsOf (past ++ [step]) = secretsOf past ++ step.drawn := by
  simp [secretsOf]

/-- The spent codes of the earlier steps stay spent when every pairing that is open now was open
before or is new. -/
theorem Traced.spent_extend {pairings : List PairingRecord} (traced : Traced digest past state)
    (stays : ∀ code, Spent digest past state.pairings code →
      ∀ record ∈ pairings, record.codeSha256 = digest (Text.trim code) → record.consumedAt ≠ none)
    (last : ∀ code ttl token sessionId, step.op = .exchange code ttl token sessionId →
      step.TookEffect digest (run digest past) → Spent digest (past ++ [step]) pairings code) :
    ∀ before exchange after code ttl token sessionId,
      past ++ [step] = before ++ exchange :: after →
      exchange.op = .exchange code ttl token sessionId →
      exchange.TookEffect digest (run digest before) →
      Spent digest (past ++ [step]) pairings code := by
  intro before exchange after code ttl token sessionId split exchanged took
  rcases List.eq_nil_or_concat after with rfl | ⟨init, final, rfl⟩
  · obtain ⟨rfl, same⟩ := List.append_inj' split rfl
    obtain rfl := (List.cons.inj same).1
    exact last code ttl token sessionId exchanged took
  · rw [List.concat_eq_append, ← List.cons_append, ← List.append_assoc] at split
    obtain ⟨rfl, -⟩ := List.append_inj' split rfl
    have spent := traced.spent before exchange init code ttl token sessionId rfl exchanged took
    refine ⟨?_, stays code spent⟩
    rw [secretsOf_snoc]
    exact List.mem_append_left _ spent.1

theorem Traced.idle (traced : Traced digest past state)
    (quiet : ¬(step.op.writes = true ∧ step.TookEffect digest (run digest past))) :
    Traced digest (past ++ [step]) state := by
  constructor
  · exact fun record member => (traced.pairings record member).extend
  · intro record member
    refine (traced.sessions record member).extend ?_
    intro _ presented revokes _ took
    exact quiet ⟨by simp [revokes, Op.writes], took⟩
  · exact traced.codes
  · exact traced.tokens
  · refine traced.spent_extend (fun _ spent => spent.2) ?_
    intro code ttl token sessionId exchanged took
    exact absurd ⟨by simp [exchanged, Op.writes], took⟩ quiet

theorem Traced.issued {camera pairingId valid : String} {ttl : Nat} {code : String}
    (traced : Traced digest past state) (injective : Function.Injective digest)
    (fresh : code ∉ secretsOf past)
    (issues : step.op = .issuePairing camera ttl code pairingId)
    (took : step.TookEffect digest (run digest past))
    (checked : validateCameraId camera = .ok valid) :
    Traced digest (past ++ [step]) { state with
      pairings := (state.pairings.filter fun record =>
        step.now < record.expiresAt && record.consumedAt.isNone) ++
        [⟨pairingId, digest code, valid, saturatingAdd step.now ttl, none⟩] } := by
  have unused : ∀ record ∈ state.pairings, record.codeSha256 ≠ digest code := by
    intro record member same
    obtain ⟨earlier, drawn, hashed⟩ := (traced.pairings record member).drawn
    have equal := injective (hashed.symm.trans same)
    exact fresh (equal ▸ drawn)
  constructor
  · intro record member
    rcases List.mem_append.mp member with old | new
    · exact (traced.pairings record (List.mem_filter.mp old).1).extend
    · obtain rfl := List.mem_singleton.mp new
      exact ⟨past, step, [], camera, ttl, code, pairingId, rfl, issues, took, checked, rfl, rfl⟩
  · intro record member
    refine (traced.sessions record member).extend ?_
    intro _ presented revokes
    simp [issues] at revokes
  · rw [List.map_append, List.nodup_append]
    refine ⟨(traced.codes).sublist (List.filter_sublist.map _), by simp, ?_⟩
    intro hash old other new
    obtain ⟨record, member, rfl⟩ := List.mem_map.mp old
    simp only [List.map_cons, List.map_nil, List.mem_singleton] at new
    rw [new]
    exact unused record (List.mem_filter.mp member).1
  · exact traced.tokens
  · refine traced.spent_extend ?_ ?_
    · intro given spent record member same
      rcases List.mem_append.mp member with old | new
      · exact spent.2 record (List.mem_filter.mp old).1 same
      · obtain rfl := List.mem_singleton.mp new
        exact absurd (injective same ▸ spent.1) fresh
    · intro given ttl token sessionId exchanged
      simp [issues] at exchanged

/-- Two records of a list without repeated keys that have the same key are the same record. -/
theorem same_of_nodup_key {α β : Type} {key : α → β} {before after : List α} {record other : α}
    (distinct : ((before ++ record :: after).map key).Nodup)
    (member : other ∈ before ++ after) : key other ≠ key record := by
  intro same
  rw [(List.perm_middle.map key).nodup_iff, List.map_cons, List.nodup_cons] at distinct
  exact distinct.1 (same ▸ List.mem_map_of_mem member)

theorem Traced.exchanged {code sessionId : String} {ttl : Nat} {token : String}
    {pairing : PairingRecord} {pairings : List PairingRecord}
    (traced : Traced digest past state) (injective : Function.Injective digest)
    (fresh : token ∉ secretsOf past)
    (exchanges : step.op = .exchange code ttl token sessionId)
    (took : step.TookEffect digest (run digest past))
    (found : updateFirst (fun record : PairingRecord => record.consumedAt.isNone &&
      step.now < record.expiresAt && record.codeSha256 == digest (Text.trim code))
      (fun record => { record with consumedAt := some step.now }) state.pairings =
      some (pairing, pairings)) :
    Traced digest (past ++ [step])
      { pairings
        sessions := (state.sessions.filter fun record =>
          step.now < record.expiresAt && record.revokedAt.isNone) ++
          [⟨sessionId, digest token, pairing.cameraId, saturatingAdd step.now ttl,
            none⟩] } := by
  obtain ⟨before, after, whole, rfl, matched⟩ := updateFirst_eq_some found
  simp only [Bool.and_eq_true, Option.isNone_iff_eq_none, decide_eq_true_eq, beq_iff_eq] at matched
  obtain ⟨⟨unconsumed, open_⟩, hash⟩ := matched
  have member : pairing ∈ state.pairings := by simp [whole]
  have others : ∀ record ∈ before ++ after, record.codeSha256 ≠ pairing.codeSha256 := by
    intro record other
    have distinct := traced.codes
    rw [whole] at distinct
    exact same_of_nodup_key distinct other
  have unused : ∀ record ∈ state.sessions, record.tokenSha256 ≠ digest token := by
    intro record old same
    obtain ⟨earlier, drawn, hashed⟩ := (traced.sessions record old).drawn
    have equal := injective (hashed.symm.trans same)
    exact fresh (equal ▸ drawn)
  constructor
  · intro record changed
    rcases List.mem_append.mp changed with old | new
    · exact (traced.pairings record (by simp [whole, old])).extend
    · rcases List.mem_cons.mp new with rfl | old
      · have origin : PairingOrigin digest past { pairing with consumedAt := some step.now } :=
          traced.pairings pairing member
        exact origin.extend
      · exact (traced.pairings record (by simp [whole, old])).extend
  · intro record kept
    rcases List.mem_append.mp kept with old | new
    · refine (traced.sessions record (List.mem_filter.mp old).1).extend ?_
      intro _ presented revokes
      simp [exchanges] at revokes
    · obtain rfl := List.mem_singleton.mp new
      refine ⟨past, step, [], code, ttl, token, sessionId, pairing, rfl, exchanges, took,
        traced.pairings pairing member, hash, open_, rfl, rfl, rfl, ?_⟩
      intro _ middle revocation rest presented split
      simp at split
  · have distinct := traced.codes
    rw [whole] at distinct
    simpa using distinct
  · rw [List.map_append, List.nodup_append]
    refine ⟨(traced.tokens).sublist (List.filter_sublist.map _), by simp, ?_⟩
    intro hash old other new
    obtain ⟨record, kept, rfl⟩ := List.mem_map.mp old
    simp only [List.map_cons, List.map_nil, List.mem_singleton] at new
    rw [new]
    exact unused record (List.mem_filter.mp kept).1
  · -- the pairing found is the only one with its code, and it is consumed now
    refine traced.spent_extend ?_ ?_
    · intro given spent record changed same
      rcases List.mem_append.mp changed with old | new
      · exact spent.2 record (by simp [whole, old]) same
      · rcases List.mem_cons.mp new with rfl | old
        · simp
        · exact spent.2 record (by simp [whole, old]) same
    · intro given ttl' token' sessionId' exchanged _
      rw [exchanges, Op.exchange.injEq] at exchanged
      obtain ⟨rfl, -⟩ := exchanged
      constructor
      · obtain ⟨earlier, drawn, hashed⟩ := (traced.pairings pairing member).drawn
        have equal := injective (hash.symm.trans hashed)
        rw [secretsOf_snoc, equal]
        exact List.mem_append_left _ drawn
      · intro record changed same
        rcases List.mem_append.mp changed with old | new
        · exact absurd (same.trans hash.symm) (others record (by simp [old]))
        · rcases List.mem_cons.mp new with rfl | old
          · simp
          · exact absurd (same.trans hash.symm) (others record (by simp [old]))

theorem Traced.revoked {token : String} {session : SessionRecord} {sessions : List SessionRecord}
    (traced : Traced digest past state) (revokes : step.op = .revoke token)
    (found : updateFirst (fun record : SessionRecord => record.revokedAt.isNone &&
      record.tokenSha256 == digest (Text.trim token))
      (fun record => { record with revokedAt := some step.now }) state.sessions =
      some (session, sessions)) :
    Traced digest (past ++ [step]) { state with sessions } := by
  obtain ⟨before, after, whole, rfl, matched⟩ := updateFirst_eq_some found
  simp only [Bool.and_eq_true, Option.isNone_iff_eq_none, beq_iff_eq] at matched
  obtain ⟨unrevoked, hash⟩ := matched
  have distinct := traced.tokens
  rw [whole] at distinct
  have kept : ∀ record ∈ before ++ after, SessionOrigin digest (past ++ [step]) record := by
    intro record other
    refine (traced.sessions record ?_).extend ?_
    · rw [whole]
      rcases List.mem_append.mp other with old | old
      · simp [old]
      · simp [old]
    · intro _ presented again same _
      rw [revokes, Op.revoke.injEq] at again
      subst again
      exact same_of_nodup_key distinct other (same.symm.trans hash.symm)
  constructor
  · exact fun record member => (traced.pairings record member).extend
  · intro record changed
    rcases List.mem_append.mp changed with old | new
    · exact kept record (List.mem_append_left _ old)
    · rcases List.mem_cons.mp new with rfl | old
      · have marked : SessionOrigin digest past { session with revokedAt := some step.now } := by
          obtain ⟨first, exchange, later, code, ttl, drawn, sessionId, pairing, split, exchanged,
            took, paired, codeHash, open_, camera, hashed, expires, -⟩ :=
            traced.sessions session (by simp [whole])
          exact ⟨first, exchange, later, code, ttl, drawn, sessionId, pairing, split, exchanged,
            took, paired, codeHash, open_, camera, hashed, expires, by simp⟩
        exact marked.extend (by simp)
      · exact kept record (List.mem_append_right _ old)
  · exact traced.codes
  · simpa using distinct
  · refine traced.spent_extend (fun _ spent => spent.2) ?_
    intro code ttl drawn sessionId exchanged
    simp [revokes] at exchanged

theorem Traced.performed (traced : Traced digest past (run digest past))
    (injective : Function.Injective digest) (distinct : (secretsOf (past ++ [step])).Nodup) :
    Traced digest (past ++ [step]) (run digest (past ++ [step])) := by
  have fresh : ∀ secret ∈ step.drawn, secret ∉ secretsOf past := by
    intro secret drawn old
    rw [secretsOf_snoc] at distinct
    exact (List.nodup_append.mp distinct).2.2 secret old secret drawn rfl
  rw [run_snoc]
  generalize result : step.apply digest (run digest past) = after
  have effect := step.apply_effect digest (run digest past)
  rw [result] at effect
  cases effect with
  | none quiet => exact traced.idle quiet
  | issued issues took checked =>
      exact traced.issued injective (fresh _ (by simp [Step.drawn, issues])) issues took checked
  | exchanged exchanges took found =>
      exact traced.exchanged injective (fresh _ (by simp [Step.drawn, exchanges])) exchanges took
        found
  | revoked revokes took found => exact traced.revoked revokes found

theorem run_traced (injective : Function.Injective digest) (steps : List Step)
    (distinct : (secretsOf steps).Nodup) : Traced digest steps (run digest steps) := by
  induction steps using List.reverseRecOn with
  | nil => constructor <;> simp [run, State.default]
  | append_singleton past step ih =>
      refine Traced.performed (ih ?_) injective distinct
      rw [secretsOf_snoc] at distinct
      exact (List.nodup_append.mp distinct).1

/-! ## Whole runs -/

theorem authenticate_ok {now : Nat} {token camera : String} {principal : Principal}
    (granted : authenticate digest now token camera state = .ok principal) :
    ∃ session ∈ state.sessions, validateCameraId camera = .ok session.cameraId ∧
      session.revokedAt = none ∧ now < session.expiresAt ∧
      session.tokenSha256 = digest (Text.trim token) ∧ principal.expiresAt = session.expiresAt := by
  simp only [authenticate, Result.bind_eq_ok] at granted
  obtain ⟨valid, checked, found, looked, granted⟩ := granted
  split at granted
  · simp [throw, throwThe, MonadExceptOf.throw] at granted
  rename_i same
  simp only [pure, Except.pure, Except.ok.injEq] at granted
  subst granted
  simp only [current] at looked
  split at looked
  · simp at looked
  split at looked
  · simp at looked
  rename_i session hit
  have holds := List.find?_some hit
  simp only [Bool.and_eq_true, Option.isNone_iff_eq_none, decide_eq_true_eq, beq_iff_eq] at holds
  simp only [Except.ok.injEq] at looked
  subst looked
  simp only [ne_eq, not_not] at same
  exact ⟨session, List.mem_of_find?_eq_some hit, by rw [checked, same], holds.1.1, holds.1.2,
    holds.2, rfl⟩

theorem exchange_told {code token sessionId : String} {ttl : Nat} (stored : step.storage = .stored)
    (exchanges : step.op = .exchange code ttl token sessionId)
    (took : step.TookEffect digest state) :
    ∃ principal, (step.outcome digest state).1 = .ok (.exchanged token principal) := by
  obtain ⟨-, answer, after, performed⟩ := took
  have told : (step.outcome digest state).1 = .ok answer := by
    simp [Step.outcome, stored, performed]
  rw [told]
  simp only [Step.perform, exchanges, exchange] at performed
  split at performed
  · simp at performed
  split at performed
  · simp at performed
  rename_i pairing pairings found
  simp only [Except.ok.injEq, Prod.mk.injEq] at performed
  obtain ⟨rfl, -⟩ := performed
  exact ⟨_, rfl⟩

end

/-- `token` was drawn by an exchange of a code that was issued for the camera and open when the
exchange began; its session is open at `now` and no revocation of it took effect. -/
def Entitled (digest : String → String) (past : List Step) (now : Nat) (token camera : String) :
    Prop :=
  ∃ before exchange after code ttl sessionId issued paired issue between given pairingTtl pairingId,
    past = before ++ exchange :: after ∧ before = issued ++ issue :: between ∧
    issue.op = .issuePairing given pairingTtl code pairingId ∧ Text.trim given = camera ∧
    issue.TookEffect digest (run digest issued) ∧
    exchange.op = .exchange paired ttl token sessionId ∧ Text.trim paired = code ∧
    exchange.TookEffect digest (run digest before) ∧
    (exchange.storage = .stored →
      ∃ principal, (exchange.outcome digest (run digest before)).1 =
        .ok (.exchanged token principal)) ∧
    exchange.now < saturatingAdd issue.now pairingTtl ∧ now < saturatingAdd exchange.now ttl ∧
    ∀ middle revocation rest presented, after = middle ++ revocation :: rest →
      revocation.op = .revoke presented → Text.trim presented = token →
      ¬revocation.TookEffect digest (run digest (before ++ exchange :: middle))

theorem validateCameraId_ok {camera valid : String} (checked : validateCameraId camera = .ok valid) :
    valid = Text.trim camera := by
  simp only [validateCameraId] at checked
  split at checked
  · simp at checked
  · simpa using checked.symm

theorem Traced.entitled {digest : String → String} {past : List Step} {now : Nat}
    {token camera : String} {principal : Principal} (injective : Function.Injective digest)
    (traced : Traced digest past (run digest past))
    (granted : authenticate digest now token camera (run digest past) = .ok principal) :
    Entitled digest past now (Text.trim token) (Text.trim camera) := by
  obtain ⟨session, member, checked, unrevoked, open_, hash, -⟩ := authenticate_ok granted
  obtain ⟨before, exchange, after, code, ttl, drawn, sessionId, pairing, rfl, exchanged, took,
    ⟨issued, issue, between, given, pairingTtl, issuedCode, pairingId, rfl, issues, issueTook,
      issueChecked, issueHash, issueExpires⟩,
    codeHash, pairingOpen, sameCamera, tokenHash, expires, unmarked⟩ := traced.sessions session member
  have sameToken : drawn = Text.trim token := injective (tokenHash.symm.trans hash)
  have sameCode : Text.trim code = issuedCode := injective (codeHash.symm.trans issueHash)
  subst sameToken
  refine ⟨_, exchange, after, issuedCode, ttl, sessionId, issued, code, issue, between, given,
    pairingTtl, pairingId, rfl, rfl, issues, ?_, issueTook, exchanged, sameCode, took,
    fun stored => exchange_told stored exchanged took, issueExpires ▸ pairingOpen, expires ▸ open_,
    ?_⟩
  · rw [← validateCameraId_ok issueChecked, sameCamera, validateCameraId_ok checked]
  · intro middle revocation rest presented split revokes same
    exact unmarked unrevoked middle revocation rest presented split revokes
      (by rw [same, tokenHash])

/-- A successful exchange finds an open pairing with its code. -/
theorem exchange_finds_open {digest : String → String} {step : Step} {state : State}
    {code token sessionId : String} {ttl : Nat}
    (exchanges : step.op = .exchange code ttl token sessionId)
    (took : step.TookEffect digest state) :
    ∃ record ∈ state.pairings, record.codeSha256 = digest (Text.trim code) ∧
      record.consumedAt = none := by
  obtain ⟨-, answer, after, performed⟩ := took
  simp only [Step.perform, exchanges, exchange] at performed
  split at performed
  · simp at performed
  split at performed
  · simp at performed
  rename_i pairing pairings found
  obtain ⟨before, after, whole, -, matched⟩ := updateFirst_eq_some found
  simp only [Bool.and_eq_true, Option.isNone_iff_eq_none, decide_eq_true_eq, beq_iff_eq] at matched
  exact ⟨pairing, by simp [whole], matched.2, matched.1.1⟩

/-- An operation that answers with an error leaves the state alone, unless it had put the new state
in place and only the permissions of the file were not set. -/
theorem Step.unchanged_on_error {digest : String → String} {step : Step} {state : State}
    {error : SessionError} (failed : (step.outcome digest state).1 = .error error) :
    step.apply digest state = state ∨ step.storage = .exposed ∧ error = storageFailure := by
  by_cases took : step.TookEffect digest state
  swap
  · exact .inl (Step.apply_of_not_effect took)
  obtain ⟨kept, answer, after, performed⟩ := took
  cases storage : step.storage with
  | lost => exact absurd storage kept
  | stored => simp [Step.outcome, storage, performed] at failed
  | exposed =>
      simp only [Step.outcome, storage, performed] at failed
      split at failed
      · simp only [Except.error.injEq] at failed
        exact .inr ⟨rfl, failed.symm⟩
      · simp at failed

/-- Device sessions are one-time, scoped to a camera and revocable, over every run. -/
theorem device_sessions_are_scoped_and_one_time (digest : String → String)
    (injective : Function.Injective digest) (steps : List Step)
    (distinct : (secretsOf steps).Nodup) :
    (∀ before step after token camera principal, steps = before ++ step :: after →
      step.op = .authenticate token camera →
      (step.outcome digest (run digest before)).1 = .ok (.principal principal) →
      Entitled digest before step.now (Text.trim token) (Text.trim camera)) ∧
    (∀ before first middle second after code ttl token sessionId code' ttl' token' sessionId',
      steps = before ++ first :: middle ++ second :: after →
      first.op = .exchange code ttl token sessionId →
      second.op = .exchange code' ttl' token' sessionId' → Text.trim code = Text.trim code' →
      first.TookEffect digest (run digest before) →
      ¬second.TookEffect digest (run digest (before ++ first :: middle))) ∧
    (∀ before step after error, steps = before ++ step :: after →
      (step.outcome digest (run digest before)).1 = .error error →
      run digest (before ++ [step]) = run digest before ∨
        step.storage = .exposed ∧ error = storageFailure) := by
  have traced : ∀ before rest, steps = before ++ rest → Traced digest before (run digest before) := by
    intro before rest split
    refine run_traced injective before ?_
    rw [split, secretsOf, List.flatMap_append] at distinct
    exact (List.nodup_append.mp distinct).1
  refine ⟨?_, ?_, ?_⟩
  · intro before step after token camera principal split authenticates granted
    have found : authenticate digest step.now token camera (run digest before) = .ok principal := by
      cases storage : step.storage with
      | lost =>
          simp only [Step.outcome, storage] at granted
          cases checked : step.op.checked <;> simp [checked, Except.bind] at granted
      | stored | exposed =>
          simp only [Step.outcome, storage, Step.perform, authenticates, Op.writes] at granted
          cases found : authenticate digest step.now token camera (run digest before) with
          | error error => simp [found, Except.map] at granted
          | ok other => simpa [found, Except.map] using granted
    exact (traced before _ split).entitled injective found
  · intro before first middle second after code ttl token sessionId code' ttl' token' sessionId'
      split exchanges again same took tookAgain
    obtain ⟨record, member, hash, unconsumed⟩ := exchange_finds_open again tookAgain
    have spent := (traced (before ++ first :: middle) _ split).spent before first middle code ttl
      token sessionId rfl exchanges took
    exact spent.2 record member (by rw [hash, same]) unconsumed
  · intro before step after error split failed
    rw [run_snoc]
    exact Step.unchanged_on_error failed

def sampleCode : String := "9f1c2b7de04a4c55a1d3f6b80e7c29146b0d8e3fa2c94715b8e6d01f7a3c5294"

def sampleToken : String := "3e7a90d14bc84f2e8d5516fa0c7b2e9d71c4a8f63b5d4e0c92f81a6d0b7e3c45"

/-- SHA-256 on the two secrets of the sample run, and apart from them elsewhere. -/
def sampleDigest (text : String) : String :=
  if text = sampleCode then "9cd5525079000b88ca966613f8b91aa10b26de71f25bfc5556a36c28891b37e3"
  else if text = sampleToken then "b3e085636c947162b4398dc0d829e39f315f7e66342da437f4d9d17279a0c0a7"
  else "sha256 of " ++ text

theorem sampleDigest_cases (text : String) :
    text = sampleCode ∨ text = sampleToken ∨ sampleDigest text = "sha256 of " ++ text := by
  by_cases code : text = sampleCode
  · exact .inl code
  by_cases token : text = sampleToken
  · exact .inr (.inl token)
  · exact .inr (.inr (by simp [sampleDigest, code, token]))

theorem sampleDigest_injective : Function.Injective sampleDigest := by
  have code : sampleDigest sampleCode =
      "9cd5525079000b88ca966613f8b91aa10b26de71f25bfc5556a36c28891b37e3" := by decide
  have token : sampleDigest sampleToken =
      "b3e085636c947162b4398dc0d829e39f315f7e66342da437f4d9d17279a0c0a7" := by decide
  have apart : ∀ text hash : String, hash.toList.head? ≠ some 's' → "sha256 of " ++ text ≠ hash := by
    intro text hash other same
    exact other (by simp [← same])
  intro left right same
  rcases sampleDigest_cases left with rfl | rfl | plain <;>
    rcases sampleDigest_cases right with rfl | rfl | plain'
  · rfl
  · rw [code, token] at same
    exact absurd same (by decide)
  · rw [code, plain'] at same
    exact absurd same.symm (apart right _ (by decide))
  · rw [code, token] at same
    exact absurd same (by decide)
  · rfl
  · rw [token, plain'] at same
    exact absurd same.symm (apart right _ (by decide))
  · rw [code, plain] at same
    exact absurd same (apart left _ (by decide))
  · rw [token, plain] at same
    exact absurd same (apart left _ (by decide))
  · rw [plain, plain', String.append_right_inj] at same
    exact same

def sampleIssue : Step :=
  ⟨1000, .issuePairing "cam-1" 600 sampleCode "p1", .stored⟩

def sampleExchange : Step :=
  ⟨1010, .exchange sampleCode 86400 sampleToken "s1", .stored⟩

def sampleAuthenticate (token : String) : Step :=
  ⟨1020, .authenticate token "cam-1", .stored⟩

theorem sampleRun_distinct (token : String) :
    (secretsOf [sampleIssue, sampleExchange, sampleAuthenticate token]).Nodup := by
  simp [secretsOf, Step.drawn, sampleIssue, sampleExchange, sampleAuthenticate, sampleCode,
    sampleToken]

theorem sampleCamera_valid : validateCameraId "cam-1" = .ok "cam-1" := by
  decide

theorem sampleIssue_outcome : sampleIssue.outcome sampleDigest State.default =
    (.ok (.issued sampleCode "cam-1" 1600),
      { State.default with pairings := [⟨"p1", sampleDigest sampleCode, "cam-1", 1600, none⟩] }) := by
  simp [Step.outcome, Step.perform, sampleIssue, issuePairing, sampleCamera_valid, State.default,
    saturatingAdd, bind, Except.bind, pure, Except.pure]

theorem sampleExchange_outcome :
    sampleExchange.outcome sampleDigest (run sampleDigest [sampleIssue]) =
      (.ok (.exchanged sampleToken ⟨"harbornavi-device:s1", "cam-1", 87410⟩),
        { pairings := [⟨"p1", sampleDigest sampleCode, "cam-1", 1600, some 1010⟩]
          sessions := [⟨"s1", sampleDigest sampleToken, "cam-1", 87410, none⟩] }) := by
  have trimmed : Text.trim sampleCode = sampleCode := by decide
  have named : sampleCode ≠ "" := by decide
  have issued : run sampleDigest [sampleIssue] =
      (sampleIssue.outcome sampleDigest State.default).2 := rfl
  rw [issued, sampleIssue_outcome]
  simp [Step.outcome, Step.perform, sampleExchange, exchange, trimmed, named, State.default,
    updateFirst, saturatingAdd]

theorem sampleRun_granted :
    ((sampleAuthenticate (" " ++ sampleToken ++ " ")).outcome sampleDigest
      (run sampleDigest [sampleIssue, sampleExchange])).1 =
        .ok (.principal ⟨"harbornavi-device:s1", "cam-1", 87410⟩) := by
  have trimmed : Text.trim (" " ++ sampleToken ++ " ") = sampleToken := by decide
  have named : sampleToken ≠ "" := by decide
  have paired : run sampleDigest [sampleIssue, sampleExchange] =
      (sampleExchange.outcome sampleDigest (run sampleDigest [sampleIssue])).2 := rfl
  rw [paired, sampleExchange_outcome]
  simp [Step.outcome, Step.perform, sampleAuthenticate, authenticate, current, trimmed, named,
    sampleCamera_valid, bind, Except.bind, pure, Except.pure, Except.map]

/-- The padded token opens the session, and a revocation that fails to set permissions revokes. -/
theorem padded_token_is_admitted :
    Function.Injective sampleDigest ∧
    (secretsOf [sampleIssue, sampleExchange,
      sampleAuthenticate (" " ++ sampleToken ++ " ")]).Nodup ∧
    ((sampleAuthenticate (" " ++ sampleToken ++ " ")).outcome sampleDigest
      (run sampleDigest [sampleIssue, sampleExchange])).1 =
        .ok (.principal ⟨"harbornavi-device:s1", "cam-1", 87410⟩) ∧
    (∀ before step after principal, [sampleIssue, sampleExchange] = before ++ step :: after →
      (step.outcome sampleDigest (run sampleDigest before)).1 ≠
        .ok (.exchanged (" " ++ sampleToken ++ " ") principal)) ∧
    ((Step.outcome sampleDigest ⟨1030, .revoke sampleToken, .exposed⟩
      (run sampleDigest [sampleIssue, sampleExchange])).1 = .error storageFailure) ∧
    run sampleDigest [sampleIssue, sampleExchange, ⟨1030, .revoke sampleToken, .exposed⟩] ≠
      run sampleDigest [sampleIssue, sampleExchange] := by
  refine ⟨sampleDigest_injective, sampleRun_distinct _, sampleRun_granted, ?_, by decide,
    by decide⟩
  intro before step after principal split
  rcases before with _ | ⟨first, _ | ⟨second, rest⟩⟩
  · obtain ⟨rfl, -⟩ := List.cons.inj split
    have told : (sampleIssue.outcome sampleDigest (run sampleDigest [])).1 =
        .ok (.issued sampleCode "cam-1" 1600) := congrArg Prod.fst sampleIssue_outcome
    simp [told]
  · obtain ⟨rfl, exchanged⟩ := List.cons.inj split
    obtain ⟨rfl, -⟩ := List.cons.inj exchanged
    have told : (sampleExchange.outcome sampleDigest (run sampleDigest [sampleIssue])).1 =
        .ok (.exchanged sampleToken ⟨"harbornavi-device:s1", "cam-1", 87410⟩) :=
      congrArg Prod.fst sampleExchange_outcome
    have other : sampleToken ≠ " " ++ sampleToken ++ " " := by decide
    simp only [told, ne_eq, Except.ok.injEq, Answer.exchanged.injEq, not_and]
    exact fun same => absurd same other
  · have short := congrArg List.length split
    simp only [List.length_cons, List.length_append, List.length_nil] at short
    omega

theorem paired_token_is_entitled :
    Entitled sampleDigest [sampleIssue, sampleExchange] 1020 sampleToken "cam-1" := by
  have whole := (device_sessions_are_scoped_and_one_time sampleDigest sampleDigest_injective
    [sampleIssue, sampleExchange, sampleAuthenticate (" " ++ sampleToken ++ " ")]
    (sampleRun_distinct _)).1
  have entitled := whole [sampleIssue, sampleExchange] _ [] _ _ _ rfl rfl sampleRun_granted
  have trimmed : Text.trim (" " ++ sampleToken ++ " ") = sampleToken := by decide
  have camera : Text.trim "cam-1" = "cam-1" := by decide
  rwa [trimmed, camera] at entitled

end DeviceSession

end HarborGate
