import Mathlib.Data.List.Chain
import HarborGate.Lib.Result

/-!
The tokens that `debian/ensure-harborbeacon-token-env` writes: the checks on a complete set, the
reading of the legacy environment file, and what each mode makes of the set it finds. Texts are
bytes, one character each, as the script sees them in the C locale.
-/

namespace HarborGate

namespace Credentials

structure Tokens where
  g2bSend : String
  g2bAccept : String
  g2bPrevious : String
  b2gSend : String
  b2gAccept : String
  b2gPrevious : String
deriving DecidableEq, Repr

inductive Mode
  | prepare
  | switch
  | finalize
  | rollback
  | recover
deriving DecidableEq, Repr

/-- How a run ends without success; `drawing` is the loop of `generate_unique_token` going on. -/
inductive Exit
  | status (code : Nat)
  | drawing
deriving DecidableEq, Repr

def isTokenChar (c : Char) : Bool :=
  ('A' ≤ c && c ≤ 'Z') || ('a' ≤ c && c ≤ 'z') || ('0' ≤ c && c ≤ '9') || c == '_' || c == '-'

def validToken (value : String) : Bool :=
  value.toList.all isTokenChar && decide (32 ≤ value.toList.length)

def validOptionalToken (value : String) : Bool :=
  value == "" || validToken value

def validateCompleteState (set : Tokens) : Bool :=
  !(!validToken set.g2bSend || !validToken set.g2bAccept || !validOptionalToken set.g2bPrevious ||
    !validToken set.b2gSend || !validToken set.b2gAccept || !validOptionalToken set.b2gPrevious ||
    set.g2bAccept == set.b2gAccept ||
    (set.g2bPrevious != "" && set.g2bPrevious == set.g2bAccept) ||
    (set.b2gPrevious != "" && set.b2gPrevious == set.b2gAccept)) &&
  !(set.g2bSend != set.g2bAccept && set.g2bPrevious != set.g2bSend) &&
  !(set.b2gSend != set.b2gAccept && set.b2gPrevious != set.b2gSend) &&
  !(set.g2bAccept == set.b2gSend || set.b2gAccept == set.g2bSend ||
    (set.g2bPrevious != "" && set.g2bPrevious == set.b2gAccept) ||
    (set.b2gPrevious != "" && set.b2gPrevious == set.g2bAccept))

/-! ## The legacy environment file -/

/-- `[[:space:]]`. -/
def isSpace (c : Char) : Bool :=
  c == ' ' || (0x09 ≤ c.toNat && c.toNat ≤ 0x0D)

def trimSpace (text : List Char) : List Char :=
  ((text.dropWhile isSpace).reverse.dropWhile isSpace).reverse

/-- The text between two quotes of one kind, for a text that starts with such a quote. -/
def unquote (quote : Char) (text : List Char) : Option (List Char) :=
  if 2 ≤ text.length ∧ text.getLast? = some quote then some (text.drop 1).dropLast else none

def parseEnvTokenValue (raw : List Char) : Option String :=
  let raw := trimSpace raw
  let value :=
    if raw.head? = some '\x22' then unquote '\x22' raw
    else if raw.head? = some '\x27' then unquote '\x27' raw
    else some raw
  (value.map String.ofList).filter validToken

/-- What follows the key on a line that starts with it, blanks apart. -/
def afterKey (key : List Char) (line : List Char) : Option (List Char) :=
  let line := line.dropWhile isSpace
  if key.isPrefixOf line then some (line.drop key.length) else none

inductive Assignment
  | value (raw : List Char)
  | malformed
  | other

def readAssignment (key : List Char) (line : List Char) : Assignment :=
  match afterKey key line with
  | none => .other
  | some rest =>
      match rest.dropWhile isSpace with
      | '=' :: raw => .value raw
      | _ => if rest.head?.all isSpace then .malformed else .other

/-- The loop of `read_env_value` over the lines of the file; `found` is the last value read. -/
def readEnvLines (key : List Char) : Option String → List (List Char) → Except Nat String
  | some found, [] => .ok found
  | none, [] => .error 1
  | found, line :: rest =>
      match readAssignment key line with
      | .value raw =>
          match parseEnvTokenValue raw with
          | none => .error 68
          | some parsed => readEnvLines key (some parsed) rest
      | .malformed => .error 68
      | .other => readEnvLines key found rest

def readEnvValue (legacy : Option String) (key : String) : Except Nat String :=
  match legacy with
  | none => .error 1
  | some content =>
      -- `read` drops NUL bytes
      readEnvLines key.toList none ((content.toList.filter (· ≠ '\x00')).splitOn '\n')

def firstValidLegacy (legacy : Option String) : List String → Except Nat String
  | [] => .error 1
  | key :: keys =>
      match readEnvValue legacy key with
      | .ok value => .ok value
      | .error status => if status = 1 then firstValidLegacy legacy keys else .error status

def g2bLegacyKeys : List String :=
  ["HARBOR_GATE_TO_BEACON_TOKEN", "HARBORBEACON_WEB_API_TOKEN"]

def b2gLegacyKeys : List String :=
  ["HARBOR_BEACON_TO_GATE_TOKEN", "HARBORGATE_BEARER_TOKEN", "HARBOR_IM_GATEWAY_BEARER_TOKEN",
    "IM_AGENT_SERVICE_TOKEN"]

/-! ## The modes -/

/-- The loop draws until a token differs from the three given. -/
def generateUniqueToken (first second third : String) : List String → Except Exit (String × List String)
  | [] => .error .drawing
  | token :: rest =>
      if token ≠ first ∧ token ≠ second ∧ token ≠ third then .ok (token, rest)
      else generateUniqueToken first second third rest

def optionalLegacy (found : Except Nat String) : Except Exit String :=
  match found with
  | .ok value => .ok value
  | .error status => if status = 1 then .ok "" else .error (.status status)

def requiredLegacy (found : Except Nat String) : Except Exit String :=
  match found with
  | .ok value => .ok value
  | .error status => .error (.status (if status = 1 then 65 else status))

/-- The first prepare, on a directory without credentials. -/
def firstPrepare (legacy : Option String) (draws : List String) : Except Exit Tokens := do
  let legacyG2b ← optionalLegacy (firstValidLegacy legacy g2bLegacyKeys)
  let legacyB2g ← optionalLegacy (firstValidLegacy legacy b2gLegacyKeys)
  let (g2bAccept, draws) ← generateUniqueToken legacyG2b legacyB2g "" draws
  let (b2gAccept, _) ← generateUniqueToken g2bAccept legacyG2b legacyB2g draws
  let g2bSend := if validToken legacyG2b then legacyG2b else g2bAccept
  let b2gSend := if validToken legacyB2g then legacyB2g else b2gAccept
  return {
    g2bSend
    g2bAccept
    g2bPrevious := if g2bSend ≠ g2bAccept then g2bSend else ""
    b2gSend
    b2gAccept
    b2gPrevious := if b2gSend ≠ b2gAccept then b2gSend else "" }

def prepare (set : Tokens) : Tokens :=
  { set with
    g2bPrevious :=
      if validToken set.g2bSend && validToken set.g2bAccept && set.g2bSend != set.g2bAccept then
        set.g2bSend
      else set.g2bPrevious
    b2gPrevious :=
      if validToken set.b2gSend && validToken set.b2gAccept && set.b2gSend != set.b2gAccept then
        set.b2gSend
      else set.b2gPrevious }

def require (holds : Bool) (status : Nat) : Except Exit Unit :=
  if holds then .ok () else .error (.status status)

def switch (set : Tokens) : Except Exit Tokens := do
  require (validateCompleteState set) 65
  return { set with g2bSend := set.g2bAccept, b2gSend := set.b2gAccept }

def rollback (legacy : Option String) (set : Tokens) : Except Exit Tokens := do
  require (validateCompleteState set) 66
  require legacy.isSome 65
  let legacyG2b ← requiredLegacy (firstValidLegacy legacy g2bLegacyKeys)
  let legacyB2g ← requiredLegacy (firstValidLegacy legacy b2gLegacyKeys)
  return { set with
    g2bSend := legacyG2b
    g2bPrevious := legacyG2b
    b2gSend := legacyB2g
    b2gPrevious := legacyB2g }

def finalize (set : Tokens) : Except Exit Tokens := do
  require (validateCompleteState set) 66
  require (set.g2bSend == set.g2bAccept && set.b2gSend == set.b2gAccept) 66
  return { set with g2bPrevious := "", b2gPrevious := "" }

/-- The branches of the script by mode, for any mode but `recover`. -/
def dispatch (mode : Mode) (legacy : Option String) (draws : List String) :
    Option Tokens → Except Exit Tokens
  | none =>
      if mode = .prepare then firstPrepare legacy draws else .error (.status 65)
  | some set =>
      match mode with
      | .prepare => .ok (prepare set)
      | .switch => switch set
      | .rollback => rollback legacy set
      | .finalize | .recover => finalize set

/-- The set that the script goes on to commit. -/
def plan (mode : Mode) (legacy : Option String) (draws : List String) (existing : Option Tokens) :
    Except Exit Tokens := do
  let next ← dispatch mode legacy draws existing
  require (validateCompleteState next) 67
  return next

structure Run where
  mode : Mode
  legacy : Option String
  draws : List String

/-- The set in place after a run that succeeds, none of its steps being interrupted. -/
def Run.execute (run : Run) (existing : Option Tokens) : Except Exit Tokens :=
  if run.mode = .recover then
    match existing with
    | none => .error (.status 65)
    | some set => do
        require (validateCompleteState set) 67
        return set
  else plan run.mode run.legacy run.draws existing

/-- The sets that successive runs leave, each with the mode it came from, when all succeed. -/
def play : List Run → Option Tokens → Option (List (Mode × Tokens))
  | [], _ => some []
  | run :: rest, existing =>
      match run.execute existing with
      | .ok after => (play rest (some after)).map ((run.mode, after) :: ·)
      | .error _ => none

/-! ## Every sequence of runs -/

structure Sound (set : Tokens) : Prop where
  g2bKnown : set.g2bSend = set.g2bAccept ∨ set.g2bSend = set.g2bPrevious
  b2gKnown : set.b2gSend = set.b2gAccept ∨ set.b2gSend = set.b2gPrevious
  g2bApart : set.g2bAccept ∉ [set.b2gSend, set.b2gAccept, set.b2gPrevious]
  b2gApart : set.b2gAccept ∉ [set.g2bSend, set.g2bAccept, set.g2bPrevious]

structure Finalized (set : Tokens) : Prop where
  g2bPrevious : set.g2bPrevious = ""
  b2gPrevious : set.b2gPrevious = ""
  g2bSend : set.g2bSend = set.g2bAccept
  b2gSend : set.b2gSend = set.b2gAccept
  apart : ∀ token ∈ [set.g2bSend, set.g2bAccept], token ∉ [set.b2gSend, set.b2gAccept]

/-- The receivers of one set accept what the senders of the other send. -/
def Serves (receiver sender : Tokens) : Prop :=
  sender.g2bSend ∈ [receiver.g2bAccept, receiver.g2bPrevious] ∧
    sender.b2gSend ∈ [receiver.b2gAccept, receiver.b2gPrevious]

def SameAccept (left right : Tokens) : Prop :=
  left.g2bAccept = right.g2bAccept ∧ left.b2gAccept = right.b2gAccept

theorem validToken_ne_empty {value : String} (valid : validToken value = true) : value ≠ "" := by
  rintro rfl
  simp [validToken] at valid

theorem sound_of_validate {set : Tokens} (valid : validateCompleteState set = true) : Sound set := by
  simp only [validateCompleteState, Bool.and_eq_true, Bool.not_eq_true', Bool.or_eq_false_iff,
    Bool.and_eq_false_iff, bne_eq_false_iff_eq, beq_eq_false_iff_ne, Bool.not_eq_false'] at valid
  obtain ⟨⟨⟨⟨⟨⟨⟨⟨⟨⟨⟨-, g2bValid⟩, -⟩, -⟩, b2gValid⟩, -⟩, accepts⟩, -⟩, -⟩, g2bSent⟩, b2gSent⟩,
    ⟨⟨g2bOther, b2gOther⟩, g2bOld⟩, b2gOld⟩ := valid
  have g2bSome := validToken_ne_empty g2bValid
  have b2gSome := validToken_ne_empty b2gValid
  constructor
  · exact g2bSent.imp id Eq.symm
  · exact b2gSent.imp id Eq.symm
  · have old : set.g2bAccept ≠ set.b2gPrevious := by
      rcases b2gOld with empty | different
      · rw [empty]
        exact g2bSome
      · exact different.symm
    simp [g2bOther, accepts, old]
  · have old : set.b2gAccept ≠ set.g2bPrevious := by
      rcases g2bOld with empty | different
      · rw [empty]
        exact b2gSome
      · exact different.symm
    simp [b2gOther, accepts.symm, old]

theorem require_eq_ok {holds : Bool} {status : Nat} {result : Unit} :
    require holds status = .ok result ↔ holds = true := by
  cases holds <;> simp [require]

/-- What a successful run made of the set it found. -/
inductive Made : Option Tokens → Mode → Tokens → Prop
  | first (after : Tokens) : Made none .prepare after
  | prepare (set : Tokens) : Made (some set) .prepare (prepare set)
  | switch (set : Tokens) : validateCompleteState set = true →
      Made (some set) .switch { set with g2bSend := set.g2bAccept, b2gSend := set.b2gAccept }
  | rollback (set : Tokens) (g2b b2g : String) : Made (some set) .rollback { set with
      g2bSend := g2b, g2bPrevious := g2b, b2gSend := b2g, b2gPrevious := b2g }
  | finalize (set : Tokens) : set.g2bSend = set.g2bAccept → set.b2gSend = set.b2gAccept →
      Made (some set) .finalize { set with g2bPrevious := "", b2gPrevious := "" }
  | recover (set : Tokens) : Made (some set) .recover set

theorem switch_ok {set after : Tokens} (ok : Credentials.switch set = .ok after) :
    Made (some set) .switch after := by
  simp only [Credentials.switch, Result.bind_eq_ok, Result.pure_eq_ok] at ok
  obtain ⟨_, valid, rfl⟩ := ok
  exact .switch set (require_eq_ok.mp valid)

theorem rollback_ok {legacy : Option String} {set after : Tokens}
    (ok : Credentials.rollback legacy set = .ok after) : Made (some set) .rollback after := by
  simp only [Credentials.rollback, Result.bind_eq_ok, Result.pure_eq_ok] at ok
  obtain ⟨_, -, _, -, g2b, -, b2g, -, rfl⟩ := ok
  exact .rollback set g2b b2g

theorem finalize_ok {set after : Tokens} (ok : Credentials.finalize set = .ok after) :
    Made (some set) .finalize after := by
  simp only [Credentials.finalize, Result.bind_eq_ok, Result.pure_eq_ok] at ok
  obtain ⟨_, -, _, switched, rfl⟩ := ok
  have both := require_eq_ok.mp switched
  simp only [Bool.and_eq_true, beq_iff_eq] at both
  exact .finalize set both.1 both.2

theorem plan_ok {mode : Mode} {legacy : Option String} {draws : List String}
    {existing : Option Tokens} {after : Tokens} (working : mode ≠ .recover)
    (ok : plan mode legacy draws existing = .ok after) :
    validateCompleteState after = true ∧ Made existing mode after := by
  simp only [plan, Result.bind_eq_ok, Result.pure_eq_ok] at ok
  obtain ⟨next, planned, _, valid, rfl⟩ := ok
  refine ⟨require_eq_ok.mp valid, ?_⟩
  cases existing with
  | none =>
      by_cases preparing : mode = .prepare
      · rw [preparing]
        exact .first next
      · simp [dispatch, preparing] at planned
  | some set =>
      cases mode with
      | prepare =>
          obtain rfl := Except.ok.inj planned
          exact .prepare set
      | switch => exact switch_ok planned
      | rollback => exact rollback_ok planned
      | finalize => exact finalize_ok planned
      | recover => exact absurd rfl working

theorem Run.execute_ok {run : Run} {existing : Option Tokens} {after : Tokens}
    (ok : run.execute existing = .ok after) :
    validateCompleteState after = true ∧ Made existing run.mode after := by
  simp only [Run.execute] at ok
  split at ok
  · rename_i recovering
    rw [recovering]
    cases existing with
    | none => simp at ok
    | some set =>
        simp only [Result.bind_eq_ok, Result.pure_eq_ok] at ok
        obtain ⟨_, valid, rfl⟩ := ok
        exact ⟨require_eq_ok.mp valid, .recover set⟩
  · rename_i working
    exact plan_ok working ok

theorem Made.sameAccept {set after : Tokens} {mode : Mode} (made : Made (some set) mode after) :
    SameAccept set after := by
  cases made <;> exact ⟨rfl, rfl⟩

theorem Made.finalized {existing : Option Tokens} {after : Tokens}
    (made : Made existing .finalize after) (sound : Sound after) : Finalized after := by
  cases made with
  | finalize set g2b b2g =>
      refine ⟨rfl, rfl, g2b, b2g, ?_⟩
      have apart := sound.g2bApart
      simp only [List.mem_cons, List.not_mem_nil, or_false, not_or] at apart
      intro token member
      simp only [List.mem_cons, List.not_mem_nil, or_false, not_or] at member ⊢
      rcases member with rfl | rfl
      · rw [g2b, b2g]
        exact ⟨apart.2.1, apart.2.1⟩
      · exact ⟨apart.1, apart.2.1⟩

/-- The sender stays the authority through a prepare: what it sends is accepted before and after. -/
theorem prepare_serves {set : Tokens} (valid : validateCompleteState (prepare set) = true)
    (sound : Sound set) : Serves set (prepare set) ∧ Serves (prepare set) set := by
  have after := sound_of_validate valid
  have g2b : (prepare set).g2bSend = set.g2bSend := rfl
  have b2g : (prepare set).b2gSend = set.b2gSend := rfl
  have g2bKept : (prepare set).g2bAccept = set.g2bAccept := rfl
  have b2gKept : (prepare set).b2gAccept = set.b2gAccept := rfl
  constructor
  · simp only [Serves, List.mem_cons, List.not_mem_nil, or_false]
    exact ⟨sound.g2bKnown, sound.b2gKnown⟩
  · simp only [Serves, List.mem_cons, List.not_mem_nil, or_false]
    rw [← g2b, ← b2g]
    exact ⟨after.g2bKnown, after.b2gKnown⟩

theorem Made.serves {set after : Tokens} {mode : Mode} (made : Made (some set) mode after)
    (forward : mode ≠ .rollback) (sound : Sound set) (valid : validateCompleteState after = true) :
    Serves set after ∧ Serves after set := by
  cases made with
  | prepare => exact prepare_serves valid sound
  | switch =>
      simp only [Serves, List.mem_cons, List.not_mem_nil, or_false]
      exact ⟨⟨.inl trivial, .inl trivial⟩, sound.g2bKnown, sound.b2gKnown⟩
  | rollback => exact absurd rfl forward
  | finalize _ g2b b2g =>
      simp only [Serves, List.mem_cons, List.not_mem_nil, or_false]
      exact ⟨⟨.inl g2b, .inl b2g⟩, .inl g2b, .inl b2g⟩
  | recover =>
      simp only [Serves, List.mem_cons, List.not_mem_nil, or_false]
      exact ⟨⟨sound.g2bKnown, sound.b2gKnown⟩, sound.g2bKnown, sound.b2gKnown⟩

theorem SameAccept.trans {first second third : Tokens} (left : SameAccept first second)
    (right : SameAccept second third) : SameAccept first third :=
  ⟨left.1.trans right.1, left.2.trans right.2⟩

theorem play_nil {existing : Option Tokens} {states : List (Mode × Tokens)}
    (played : play [] existing = some states) : states = [] :=
  (Option.some.inj played).symm

theorem play_cons {run : Run} {rest : List Run} {existing : Option Tokens}
    {states : List (Mode × Tokens)} (played : play (run :: rest) existing = some states) :
    ∃ after later, run.execute existing = .ok after ∧ play rest (some after) = some later ∧
      states = (run.mode, after) :: later := by
  simp only [play] at played
  split at played
  · rename_i after ok
    obtain ⟨later, continued, rfl⟩ := Option.map_eq_some_iff.mp played
    exact ⟨after, later, ok, continued, rfl⟩
  · simp at played

theorem play_sound (runs : List Run) : ∀ (existing : Option Tokens) (states : List (Mode × Tokens)),
    play runs existing = some states →
    ∀ entry ∈ states, Sound entry.2 ∧ (entry.1 = .finalize → Finalized entry.2) := by
  induction runs with
  | nil =>
      intro existing states played
      obtain rfl := play_nil played
      simp
  | cons run rest ih =>
      intro existing states played
      obtain ⟨after, later, ok, continued, rfl⟩ := play_cons played
      obtain ⟨valid, made⟩ := Run.execute_ok ok
      intro entry member
      rcases List.mem_cons.mp member with rfl | member
      · have sound := sound_of_validate valid
        refine ⟨sound, fun finalized => ?_⟩
        dsimp only at finalized
        rw [finalized] at made
        exact made.finalized sound
      · exact ih (some after) later continued entry member

theorem play_sameAccept (runs : List Run) : ∀ (set : Tokens) (states : List (Mode × Tokens)),
    play runs (some set) = some states → ∀ entry ∈ states, SameAccept set entry.2 := by
  induction runs with
  | nil =>
      intro set states played
      obtain rfl := play_nil played
      simp
  | cons run rest ih =>
      intro set states played
      obtain ⟨after, later, ok, continued, rfl⟩ := play_cons played
      have kept := (Run.execute_ok ok).2.sameAccept
      intro entry member
      rcases List.mem_cons.mp member with rfl | member
      · exact kept
      · exact kept.trans (ih after later continued entry member)

/-- The later of two successive sets, unless rolled back to, and the earlier serve each other. -/
def Handover (earlier later : Mode × Tokens) : Prop :=
  later.1 ≠ .rollback → Serves earlier.2 later.2 ∧ Serves later.2 earlier.2

theorem play_handover (runs : List Run) : ∀ (mode : Mode) (set : Tokens)
    (states : List (Mode × Tokens)), Sound set → play runs (some set) = some states →
    ((mode, set) :: states).IsChain Handover := by
  induction runs with
  | nil =>
      intro mode set states _ played
      obtain rfl := play_nil played
      simp
  | cons run rest ih =>
      intro mode set states sound played
      obtain ⟨after, later, ok, continued, rfl⟩ := play_cons played
      obtain ⟨valid, made⟩ := Run.execute_ok ok
      refine .cons_cons ?_ (ih run.mode after later (sound_of_validate valid) continued)
      exact fun forward => made.serves forward sound valid

/-- The rotation invariant, over every sequence of successful runs from an empty directory. -/
theorem rotation_is_safe (runs : List Run) (states : List (Mode × Tokens))
    (played : play runs none = some states) :
    (∀ entry ∈ states, Sound entry.2 ∧ (entry.1 = .finalize → Finalized entry.2)) ∧
    (∀ earlier ∈ states, ∀ later ∈ states, SameAccept earlier.2 later.2) ∧
    states.IsChain Handover := by
  refine ⟨play_sound runs none states played, ?_⟩
  cases runs with
  | nil =>
      obtain rfl := play_nil played
      simp
  | cons run rest =>
      obtain ⟨after, later, ok, continued, rfl⟩ := play_cons played
      have same : ∀ entry ∈ (run.mode, after) :: later, SameAccept after entry.2 := by
        intro entry member
        rcases List.mem_cons.mp member with rfl | member
        · exact ⟨rfl, rfl⟩
        · exact play_sameAccept rest after later continued entry member
      constructor
      · intro earlier earlierIn next nextIn
        have back := same earlier earlierIn
        exact SameAccept.trans ⟨back.1.symm, back.2.symm⟩ (same next nextIn)
      · exact play_handover rest run.mode after later
          (sound_of_validate (Run.execute_ok ok).1) continued

def sampleLegacy : String :=
  "HARBORBEACON_WEB_API_TOKEN=legacy_shared_token_0123456789abcdef0123456789abcdef\n" ++
    "IM_AGENT_SERVICE_TOKEN=legacy_shared_token_0123456789abcdef0123456789abcdef\n"

def sampleRuns : List Run :=
  [⟨.prepare, some sampleLegacy, ["5b1f0c9e7a3d46288e2f9b0c1d7a6e53", "c04e8b7f2a914d6f83b5e0d2f6a71c98"]⟩,
    ⟨.switch, none, []⟩, ⟨.finalize, none, []⟩]

theorem sampleRuns_played :
    (play sampleRuns none).map (List.map Prod.fst) =
      some [.prepare, .switch, .finalize] := by
  set_option maxRecDepth 1000 in
  decide

theorem shared_legacy_rotation_is_safe :
    ∃ states, play sampleRuns none = some states ∧ states.length = 3 ∧
      (∀ entry ∈ states, Sound entry.2 ∧ (entry.1 = .finalize → Finalized entry.2)) ∧
      (∀ earlier ∈ states, ∀ later ∈ states, SameAccept earlier.2 later.2) ∧
      states.IsChain Handover := by
  obtain ⟨states, played, modes⟩ := Option.map_eq_some_iff.mp sampleRuns_played
  have count : states.length = 3 := by
    rw [← List.length_map, modes]
    decide
  exact ⟨states, played, count, rotation_is_safe sampleRuns states played⟩

end Credentials

end HarborGate
