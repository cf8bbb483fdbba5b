import HarborGate.Credentials.Commit

/-!
Runs of the script that are killed, or that a failing command ends, any number of times: a commit,
then recoveries. `cleanup` runs in the failing process and can be killed in turn.
-/

namespace HarborGate

namespace Credentials

open Crash

/-- One process: what its `rm -rf` gets to, how many commands it takes, and whether it is then
killed or ended by a failing command, with the same for its cleanup. -/
structure Attempt where
  order : List Entry
  limit : Nat
  fails : Bool
  cleanupOrder : List Entry
  cleanupLimit : Nat

def exitsUnhappily (fails : Bool) : Option (Except Nat Unit) → Bool
  | none => fails
  | some (.ok _) => false
  | some (.error _) => true

def Attempt.play (attempt : Attempt) (script : List Entry → Script Unit) (past : List Cmd × World) :
    List Cmd × World :=
  let stopped := (script attempt.order).upTo exec attempt.limit past.1 { past.2 with active := false }
  if exitsUnhappily attempt.fails stopped.1 && stopped.2.2.active then
    ((recoverTransaction attempt.cleanupOrder).upTo exec attempt.cleanupLimit stopped.2.1
      stopped.2.2).2
  else stopped.2

def start (old : Option (Name → String)) : World where
  credential := present old
  journal := none
  active := false

/-- The commands done and the directory left by an interrupted commit and the recoveries after. -/
def history (old : Option (Name → String)) (next : Tokens) (first : Attempt) (later : List Attempt) :
    List Cmd × World :=
  later.foldl (fun past attempt => attempt.play recoverTransaction past)
    (first.play (commitCredentials next) ([], start old))

def recovery (order : List Entry) (past : List Cmd × World) : Except Nat Unit × World :=
  let ended := (recoverTransaction order).run exec past.1 { past.2 with active := false }
  (ended.1, ended.2.2)

/-- Found on the files of `old`, the run goes on to commit `next`. -/
def Commits (run : Run) (old : Option (Name → String)) (next : Tokens) : Prop :=
  run.mode ≠ .recover ∧ ∃ existing, loadExisting (present old) = some existing ∧
    plan run.mode run.legacy run.draws existing = .ok next

section

variable {old : Option (Name → String)} {next : Tokens}

theorem Attempt.play_stage {attempt : Attempt} {script : List Entry → Script Unit}
    {past : List Cmd × World} {post : Except Nat Unit → List Cmd → World → Prop}
    (valid : validateCompleteState next = true)
    (holds : (script attempt.order).Holds exec (Stage old next) post past.1
      { past.2 with active := false }) :
    Stage old next (attempt.play script past).1 (attempt.play script past).2 := by
  have stopped := (holds.upTo attempt.limit).1
  simp only [Attempt.play]
  split
  · exact ((recoverTransaction_holds attempt.cleanupOrder valid stopped).upTo
      attempt.cleanupLimit).1
  · exact stopped

theorem history_stage (valid : validateCompleteState next = true) (first : Attempt)
    (later : List Attempt) :
    Stage old next (history old next first later).1 (history old next first later).2 := by
  have begun : Stage old next (first.play (commitCredentials next) ([], start old)).1
      (first.play (commitCredentials next) ([], start old)).2 :=
    Attempt.play_stage valid
      (commitCredentials_holds first.order valid ⟨rfl, by simp⟩ rfl rfl)
  rw [history]
  generalize first.play (commitCredentials next) ([], start old) = past at begun ⊢
  induction later generalizing past with
  | nil => exact begun
  | cons attempt later ih =>
      refine ih _ (Attempt.play_stage valid (recoverTransaction_holds attempt.order valid ?_))
      exact begun.of_eq rfl rfl

theorem recovery_recovers (valid : validateCompleteState next = true) (order : List Entry)
    (first : Attempt) (later : List Attempt) :
    ((recovery order (history old next first later)).1 = .ok () →
      (recovery order (history old next first later)).2.journal = none ∧
        Uniform old next (recovery order (history old next first later)).2) ∧
    (Clears order → ((recovery order (history old next first later)).1 = .ok () ↔
      Recoverable old (history old next first later).1)) := by
  have stage : Stage old next (history old next first later).1
      { (history old next first later).2 with active := false } :=
    (history_stage valid first later).of_eq rfl rfl
  exact (recoverTransaction_holds order valid stage).run.2

theorem Commits.valid {run : Run} (commits : Commits run old next) :
    validateCompleteState next = true := by
  obtain ⟨working, existing, -, planned⟩ := commits
  exact (plan_ok working planned).1

end

/-- However often commit and recovery are interrupted, a recovery that succeeds leaves the whole
old set or the whole new set and no journal. -/
theorem interrupted_commit_is_atomic (run : Run) (old : Option (Name → String)) (next : Tokens)
    (commits : Commits run old next) (first : Attempt) (later : List Attempt) (order : List Entry)
    (recovered : (recovery order (history old next first later)).1 = .ok ()) :
    (recovery order (history old next first later)).2.journal = none ∧
      ((recovery order (history old next first later)).2.credential = present old ∨
        (recovery order (history old next first later)).2.credential = written next) :=
  (recovery_recovers commits.valid order first later).1 recovered

/-- An uninterrupted recovery succeeds exactly when the commands done leave it a journal it
accepts. -/
theorem recovery_succeeds_iff (run : Run) (old : Option (Name → String)) (next : Tokens)
    (commits : Commits run old next) (first : Attempt) (later : List Attempt) (order : List Entry)
    (clears : Clears order) :
    (recovery order (history old next first later)).1 = .ok () ↔
      Recoverable old (history old next first later).1 :=
  (recovery_recovers commits.valid order first later).2 clears

theorem loadExisting_written {set : Tokens} (valid : validateCompleteState set = true) :
    loadExisting (written set) = some (some set) := by
  simp [loadExisting, credentialNames, written, loadCredentials_written valid]

/-- An uninterrupted run of the script on the files of a set does what `execute` says of the set. -/
theorem ensureTokenEnv_executes {run : Run} {existing : Option Tokens} {next : Tokens}
    (known : ∀ set, existing = some set → validateCompleteState set = true)
    (first second : List Entry) (clears : Clears second) (executed : run.execute existing = .ok next) :
    (ensureTokenEnv run first second).Holds exec (fun _ _ => True)
      (fun result _ after => result = .ok () ∧ after.journal = none ∧
        after.credential = written next) [] (start (existing.map render)) := by
  have loaded : loadExisting (present (existing.map render)) = some existing := by
    cases existing with
    | none => rfl
    | some set => exact loadExisting_written (known set rfl)
  have counted : existingCount (start (existing.map render)) =
      if existing.isSome then credentialNames.length else 0 := by
    cases existing <;> rfl
  refine .bind (fun result trace after => result = .ok () ∧ trace = [] ∧
    after = start (existing.map render)) (.readBind (.pure trivial ⟨rfl, rfl, rfl⟩)) (by simp) ?_
  rintro _ trace world - ⟨-, rfl, rfl⟩
  refine .checkBind (by rw [counted]; cases existing <;> rfl) ?_
  refine .readBind ?_
  simp only [Run.execute] at executed
  split at executed
  · rename_i recovering
    rw [if_pos recovering]
    cases existing with
    | none => simp at executed
    | some set =>
        simp only [Result.bind_eq_ok, Result.pure_eq_ok] at executed
        obtain ⟨_, -, rfl⟩ := executed
        refine .checkBind (by rw [counted]; rfl) ?_
        exact .check (completeCredentials_written (known set rfl)) trivial ⟨rfl, rfl, rfl⟩
  · rename_i working
    rw [if_neg working]
    have seen : loadExisting (start (existing.map render)).credential = some existing := loaded
    rw [seen]
    dsimp only
    rw [executed]
    refine (commitCredentials_holds second (plan_ok working executed).1 ⟨rfl, by simp⟩ rfl
      rfl).mono (fun _ _ _ => trivial) ?_
    rintro result _ after - ⟨ends, through⟩
    obtain rfl := through clears
    exact ⟨rfl, ends rfl⟩

/-! ## Orders of deletion -/

def Gone (journal : Journal) : Entry → Prop
  | .root => False
  | .folder folder => journal.folder folder = none
  | .file file => journal.file file = none

/-- Each directory comes after its files, as `rm -rf` takes them. -/
def filesFirst : List Entry → List Entry → Bool
  | _, [] => true
  | _, .root :: _ => false
  | before, .folder folder :: rest =>
      credentialNames.all (fun name => .file (.inside folder name) ∈ before) &&
        filesFirst (.folder folder :: before) rest
  | before, .file file :: rest => filesFirst (.file file :: before) rest

theorem Gone.setFile {journal : Journal} {entry : Entry} (file : File) (gone : Gone journal entry) :
    Gone (journal.setFile file none) entry := by
  cases entry with
  | root => exact gone
  | folder folder =>
      show (journal.setFile file none).folder folder = none
      rw [← Option.not_isSome_iff_eq_none, Journal.folder_setFile_isSome, gone]
      simp
  | file other => exact Journal.file_setFile_none gone

theorem deleteAll_file (journal : Journal) (file : File) :
    ∃ after, deleteAll [.file file] (some journal) = some after ∧ Gone after (.file file) ∧
      ∀ entry, Gone journal entry → Gone after entry := by
  cases found : journal.file file with
  | none => exact ⟨journal, by simp [deleteAll, Journal.removable, found], found, fun _ gone => gone⟩
  | some content =>
      refine ⟨journal.setFile file none, ?_, Journal.file_setFile_same ?_, fun _ => Gone.setFile file⟩
      · simp [deleteAll, Journal.removable, found, Journal.delete]
      · rintro folder name rfl
        simp only [Journal.file, Option.bind_eq_some_iff] at found
        obtain ⟨files, there, -⟩ := found
        simp [there]

theorem deleteAll_folder (journal : Journal) (folder : Folder)
    (empty : ∀ name, Gone journal (.file (.inside folder name))) :
    ∃ after, deleteAll [.folder folder] (some journal) = some after ∧ Gone after (.folder folder) ∧
      ∀ entry, Gone journal entry → Gone after entry := by
  cases found : journal.folder folder with
  | none => exact ⟨journal, by simp [deleteAll, Journal.removable, found], found, fun _ gone => gone⟩
  | some files =>
      have vacant : ∀ name, files name = none := by
        intro name
        have gone : journal.file (.inside folder name) = none := empty name
        simpa [Journal.file, found] using gone
      refine ⟨{ journal with folder := Function.update journal.folder folder none }, ?_, ?_, ?_⟩
      · simp [deleteAll, Journal.removable, found, vacant, Journal.delete]
      · simp [Gone]
      · intro entry gone
        cases entry with
        | root => exact gone
        | folder other =>
            by_cases same : other = folder
            · subst same
              simp [Gone]
            · simpa [Gone, Function.update_of_ne same] using gone
        | file file =>
            cases file with
            | state | stateNew | restoring => exact gone
            | inside other name =>
                by_cases same : other = folder
                · subst same
                  simp [Gone, Journal.file]
                · simpa [Gone, Journal.file, Function.update_of_ne same] using gone

theorem deleteAll_gone (order : List Entry) : ∀ (before : List Entry) (journal : Journal),
    filesFirst before order = true → (∀ entry ∈ before, Gone journal entry) →
    ∃ after, deleteAll order (some journal) = some after ∧
      ∀ entry, entry ∈ before ∨ entry ∈ order → Gone after entry := by
  induction order with
  | nil => exact fun before journal _ gone => ⟨journal, rfl, by simpa using gone⟩
  | cons first rest ih =>
      intro before journal ordered gone
      have extend : ∀ after, deleteAll [first] (some journal) = some after → Gone after first →
          (∀ entry, Gone journal entry → Gone after entry) →
          filesFirst (first :: before) rest = true →
          ∃ last, deleteAll (first :: rest) (some journal) = some last ∧
            ∀ entry, entry ∈ before ∨ entry ∈ first :: rest → Gone last entry := by
        intro after deleted new kept ordered
        obtain ⟨last, through, all⟩ := ih (first :: before) after ordered (by
          intro entry member
          rcases List.mem_cons.mp member with rfl | old
          · exact new
          · exact kept entry (gone entry old))
        refine ⟨last, ?_, ?_⟩
        · rw [← through, ← deleted]
          rfl
        · intro entry member
          refine all entry ?_
          simp only [List.mem_cons] at member ⊢
          rcases member with old | rfl | later
          · exact .inl (.inr old)
          · exact .inl (.inl rfl)
          · exact .inr later
      cases first with
      | root => simp [filesFirst] at ordered
      | folder folder =>
          simp only [filesFirst, Bool.and_eq_true, List.all_eq_true, decide_eq_true_eq] at ordered
          obtain ⟨after, deleted, new, kept⟩ := deleteAll_folder journal folder
            (fun name => gone _ (ordered.1 name (mem_credentialNames name)))
          exact extend after deleted new kept ordered.2
      | file file =>
          obtain ⟨after, deleted, new, kept⟩ := deleteAll_file journal file
          exact extend after deleted new kept ordered

/-- Files before their directories, nothing left out, the transaction directory last. -/
theorem clears_of_filesFirst {order : List Entry} (ordered : filesFirst [] order = true)
    (all : ∀ entry, entry ≠ .root → entry ∈ order) : Clears (order ++ [Entry.root]) := by
  intro journal
  obtain ⟨after, deleted, gone⟩ := deleteAll_gone order [] journal ordered (by simp)
  have nothing : ∀ entry, entry ≠ .root → Gone after entry :=
    fun entry other => gone entry (.inr (all entry other))
  have empty : after.isEmpty = true := by
    have state : after.state = none := nothing (.file .state) (by simp)
    have stateNew : after.stateNew = none := nothing (.file .stateNew) (by simp)
    have restoring : ∀ name, after.restoring name = none :=
      fun name => nothing (.file (.restoring name)) (by simp)
    have folders : ∀ folder, after.folder folder = none :=
      fun folder => nothing (.folder folder) (by simp)
    simp [Journal.isEmpty, state, stateNew, restoring, folders]
  have last : deleteAll (order ++ [Entry.root]) (some journal) =
      deleteAll [Entry.root] (some after) := by
    rw [← deleted, deleteAll, List.foldl_append]
    rfl
  rw [last]
  simp [deleteAll, Journal.removable, empty, Journal.delete]

/-! ## Two interruptions -/

/-- Every file of a journal, then its directories, then the transaction directory. -/
def fullOrder : List Entry :=
  [.file .state, .file .stateNew] ++ credentialNames.map (fun name => .file (.restoring name)) ++
    [Folder.stage, .backup, .absent].flatMap (fun folder =>
      credentialNames.map (fun name => .file (.inside folder name)) ++ [.folder folder]) ++ [.root]

theorem fullOrder_clears : Clears fullOrder := by
  refine clears_of_filesFirst (by decide) ?_
  intro entry other
  cases entry with
  | root => exact absurd rfl other
  | folder folder => cases folder <;> decide
  | file file =>
      cases file with
      | state | stateNew => decide
      | restoring name => cases name <;> decide
      | inside folder name => cases folder <;> cases name <;> decide

def freshSet : Tokens where
  g2bSend := "5b1f0c9e7a3d46288e2f9b0c1d7a6e53"
  g2bAccept := "5b1f0c9e7a3d46288e2f9b0c1d7a6e53"
  g2bPrevious := ""
  b2gSend := "c04e8b7f2a914d6f83b5e0d2f6a71c98"
  b2gAccept := "c04e8b7f2a914d6f83b5e0d2f6a71c98"
  b2gPrevious := ""

def freshRun : Run :=
  ⟨.prepare, none, ["5b1f0c9e7a3d46288e2f9b0c1d7a6e53", "c04e8b7f2a914d6f83b5e0d2f6a71c98"]⟩

theorem freshRun_commits : Commits freshRun none freshSet :=
  ⟨by decide, none, rfl, by decide⟩

/-- The first install, whose `rm -rf` is killed when it has deleted one marker. -/
def tornAttempt : Attempt where
  order := [.file (.inside .absent .g2bSend), .file .state]
  limit := 86
  fails := false
  cleanupOrder := []
  cleanupLimit := 0

/-- A set whose previous token is neither empty nor the one still sent. -/
def wrongPrevious : Tokens where
  g2bSend := "legacy_shared_token_0123456789abcdef0123456789abcdef"
  g2bAccept := "5b1f0c9e7a3d46288e2f9b0c1d7a6e53"
  g2bPrevious := "unrelated_previous_0123456789abcdef0123456789ab"
  b2gSend := "c04e8b7f2a914d6f83b5e0d2f6a71c98"
  b2gAccept := "c04e8b7f2a914d6f83b5e0d2f6a71c98"
  b2gPrevious := ""

/-- The prepare that repairs it, killed when the journal has been put to use. -/
def repairAttempt : Attempt where
  order := fullOrder
  limit := 74
  fails := false
  cleanupOrder := []
  cleanupLimit := 0

theorem recovery_can_be_stuck :
    Commits freshRun none freshSet ∧ Clears fullOrder ∧
    (history none freshSet tornAttempt []).1.getLast? =
      some (.delete (.file (.inside .absent .g2bSend))) ∧
    (recovery fullOrder (history none freshSet tornAttempt [])).1 = .error 1 ∧
    Commits ⟨.prepare, none, []⟩ (some (render wrongPrevious)) (prepare wrongPrevious) ∧
    (history (some (render wrongPrevious)) (prepare wrongPrevious) repairAttempt []).1.getLast? =
      some .renameState ∧
    (recovery fullOrder (history (some (render wrongPrevious)) (prepare wrongPrevious)
      repairAttempt [])).1 = .error 1 := by
  refine ⟨freshRun_commits, fullOrder_clears, by decide, by decide, ?_,
    by decide, by decide⟩
  exact ⟨by decide, some wrongPrevious, by decide, by decide⟩

/-- The first install, killed between two renames of staged files. -/
def midwayAttempt : Attempt where
  order := fullOrder
  limit := 73
  fails := false
  cleanupOrder := []
  cleanupLimit := 0

theorem midway_recovery : (recovery fullOrder (history none freshSet midwayAttempt [])).1 = .ok () := by
  decide

theorem midway_install_is_undone :
    (recovery fullOrder (history none freshSet midwayAttempt [])).2.journal = none ∧
      ((recovery fullOrder (history none freshSet midwayAttempt [])).2.credential = present none ∨
        (recovery fullOrder (history none freshSet midwayAttempt [])).2.credential =
          written freshSet) :=
  interrupted_commit_is_atomic freshRun none freshSet freshRun_commits midwayAttempt [] fullOrder
    midway_recovery

theorem midway_install_is_recoverable :
    Recoverable none (history none freshSet midwayAttempt []).1 :=
  (recovery_succeeds_iff freshRun none freshSet freshRun_commits midwayAttempt [] fullOrder
    fullOrder_clears).mp midway_recovery

end Credentials

end HarborGate
