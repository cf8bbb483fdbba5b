import HarborGate.Credentials.Journal

/-!
Interrupted commits and recoveries. `Stage` says, from the commands done so far, what the
directory holds wherever the script is stopped; every command keeps it.
-/

namespace HarborGate

namespace Credentials

open Crash

/-- The files of a set, or none. -/
def present (old : Option (Name → String)) : Name → Option String :=
  fun name => old.map (· name)

def written (next : Tokens) : Name → Option String :=
  fun name => some (render next name)

def marker (old : Option (Name → String)) : Name → Option String :=
  fun _ => if old.isSome then none else some ""

/-- The entries without which a journal in use is refused. -/
def Entry.required : Entry → Bool
  | .folder _ | .file (.inside .backup _) | .file (.inside .absent _) => true
  | _ => false

def renames (trace : List Cmd) : Nat :=
  trace.count .renameState

def Cleared (trace : List Cmd) : Prop :=
  Cmd.delete (.file .state) ∈ trace

def Torn (trace : List Cmd) : Prop :=
  ∃ entry, Entry.required entry = true ∧ Cmd.delete entry ∈ trace

structure Kept (old : Option (Name → String)) (journal : Journal) : Prop where
  stage : (journal.folder .stage).isSome = true
  backup : journal.folder .backup = some (present old)
  absent : journal.folder .absent = some (marker old)

/-- A directory is missing, or a credential has neither its backup nor its marker. -/
def Gap (journal : Journal) : Prop :=
  (∃ folder, journal.folder folder = none) ∨
    ∃ name, journal.file (.inside .backup name) = none ∧ journal.file (.inside .absent name) = none

def Stateless (world : World) : Prop :=
  ∀ journal, world.journal = some journal → journal.state = none

def Uniform (old : Option (Name → String)) (next : Tokens) (world : World) : Prop :=
  world.credential = present old ∨ world.credential = written next

inductive Stage (old : Option (Name → String)) (next : Tokens) (trace : List Cmd) (world : World) :
    Prop
  | building : renames trace = 0 → world.credential = present old → Stateless world →
      Stage old next trace world
  | prepared (journal : Journal) : renames trace = 1 → ¬Cleared trace → ¬Torn trace →
      world.journal = some journal → journal.state = some "prepared\n" → Kept old journal →
      (∀ name, world.credential name = present old name ∨
        world.credential name = written next name) →
      Stage old next trace world
  | committed (journal : Journal) : renames trace = 2 → ¬Cleared trace → ¬Torn trace →
      world.journal = some journal → journal.state = some "committed\n" → Kept old journal →
      world.credential = written next → Stage old next trace world
  | torn (journal : Journal) : renames trace ≠ 0 → ¬Cleared trace → Torn trace →
      world.journal = some journal → journal.state ≠ none → Gap journal →
      Uniform old next world → Stage old next trace world
  | cleared : renames trace ≠ 0 → Cleared trace → Uniform old next world → Stateless world →
      Stage old next trace world

/-- What is left of a journal when `rm -rf` has deleted what it could of `order`. -/
def deleteAll (order : List Entry) (journal : Option Journal) : Option Journal :=
  order.foldl (fun journal entry =>
    if journal.any (·.removable entry) then journal.bind (·.delete entry) else journal) journal

/-- `rm -rf` gets through: nothing of any journal is left. -/
def Clears (order : List Entry) : Prop :=
  ∀ journal, deleteAll order (some journal) = none

section

variable {old : Option (Name → String)} {next : Tokens} {trace : List Cmd} {world : World}

/-! ## Deleting one entry -/

theorem renames_snoc {cmd : Cmd} (other : cmd ≠ .renameState) :
    renames (trace ++ [cmd]) = renames trace := by
  simp [renames, List.count_append, other]

theorem cleared_snoc {cmd : Cmd} :
    Cleared (trace ++ [cmd]) ↔ Cleared trace ∨ cmd = .delete (.file .state) := by
  simp only [Cleared, List.mem_append, List.mem_singleton]
  exact or_congr Iff.rfl eq_comm

theorem torn_snoc {cmd : Cmd} :
    Torn (trace ++ [cmd]) ↔ Torn trace ∨ ∃ entry, Entry.required entry = true ∧
      cmd = .delete entry := by
  constructor
  · rintro ⟨entry, required, member⟩
    rcases List.mem_append.mp member with old | new
    · exact .inl ⟨entry, required, old⟩
    · exact .inr ⟨entry, required, (List.mem_singleton.mp new).symm⟩
  · rintro (⟨entry, required, member⟩ | ⟨entry, required, rfl⟩)
    · exact ⟨entry, required, List.mem_append_left _ member⟩
    · exact ⟨entry, required, by simp⟩

/-- Commands that neither rename the state file nor delete leave the stage as it was. -/
theorem Stage.snoc {cmd : Cmd} (stage : Stage old next trace world) (other : cmd ≠ .renameState)
    (kept : ∀ entry, cmd ≠ .delete entry) : Stage old next (trace ++ [cmd]) world := by
  have count : renames (trace ++ [cmd]) = renames trace := renames_snoc other
  have cleared : Cleared (trace ++ [cmd]) ↔ Cleared trace := by simp [cleared_snoc, kept]
  have torn : Torn (trace ++ [cmd]) ↔ Torn trace := by simp [torn_snoc, kept]
  cases stage with
  | building none credential stateless => exact .building (by rw [count, none]) credential stateless
  | prepared journal renamed uncleared whole =>
      exact .prepared journal (by rw [count, renamed]) (by rwa [cleared]) (by rwa [torn]) ‹_› ‹_› ‹_›
        ‹_›
  | committed journal renamed uncleared whole =>
      exact .committed journal (by rw [count, renamed]) (by rwa [cleared]) (by rwa [torn]) ‹_› ‹_›
        ‹_› ‹_›
  | torn journal renamed uncleared gaping =>
      exact .torn journal (by rwa [count]) (by rwa [cleared]) (by rwa [torn]) ‹_› ‹_› ‹_› ‹_›
  | cleared renamed gone uniform stateless =>
      exact .cleared (by rwa [count]) (by rwa [cleared]) uniform stateless

theorem Stage.of_eq {other : World} (stage : Stage old next trace world)
    (credential : other.credential = world.credential) (journal : other.journal = world.journal) :
    Stage old next trace other := by
  obtain ⟨credentials, transaction, active⟩ := other
  dsimp only at credential journal
  subst credential journal
  cases stage with
  | building none credential stateless => exact .building none credential stateless
  | prepared journal renamed uncleared whole =>
      exact .prepared journal renamed uncleared whole ‹_› ‹_› ‹_› ‹_›
  | committed journal renamed uncleared whole =>
      exact .committed journal renamed uncleared whole ‹_› ‹_› ‹_› ‹_›
  | torn journal renamed uncleared gaping =>
      exact .torn journal renamed uncleared gaping ‹_› ‹_› ‹_› ‹_›
  | cleared renamed gone uniform stateless => exact .cleared renamed gone uniform stateless

theorem Stateless.delete {entry : Entry} (stateless : Stateless world) :
    Stateless (exec (.delete entry) world) := by
  intro journal found
  simp only [exec, Option.bind_eq_some_iff] at found
  obtain ⟨before, present, deleted⟩ := found
  have none := stateless before present
  cases entry with
  | root => simp [Journal.delete] at deleted
  | folder folder =>
      obtain rfl := Option.some.inj deleted
      exact none
  | file file =>
      obtain rfl := Option.some.inj deleted
      cases file <;> simp [Journal.setFile, none]

theorem Gap.delete {journal after : Journal} {entry : Entry} (gap : Gap journal)
    (deleted : journal.delete entry = some after) : Gap after := by
  cases entry with
  | root => simp [Journal.delete] at deleted
  | folder folder =>
      obtain rfl := Option.some.inj deleted
      exact .inl ⟨folder, by simp⟩
  | file file =>
      obtain rfl := Option.some.inj deleted
      rcases gap with ⟨missing, none⟩ | ⟨uncovered, backup, absent⟩
      · refine .inl ⟨missing, ?_⟩
        rw [← Option.not_isSome_iff_eq_none, Journal.folder_setFile_isSome, none]
        simp
      · exact .inr ⟨uncovered, Journal.file_setFile_none backup, Journal.file_setFile_none absent⟩

/-- A deletion that leaves the state file either leaves the snapshot whole or opens a gap. -/
theorem Kept.delete {journal after : Journal} {entry : Entry} (kept : Kept old journal)
    (removable : journal.removable entry = true) (deleted : journal.delete entry = some after) :
    if entry.required then Gap after else Kept old after := by
  cases entry with
  | root => simp [Journal.delete] at deleted
  | folder folder =>
      obtain rfl := Option.some.inj deleted
      exact .inl ⟨folder, by simp⟩
  | file file =>
      obtain rfl := Option.some.inj deleted
      cases file with
      | state | stateNew | restoring =>
          rw [if_neg (by simp [Entry.required])]
          exact ⟨kept.stage, kept.backup, kept.absent⟩
      | inside folder name =>
          have there : (journal.file (.inside folder name)).isSome = true := removable
          cases folder with
          | stage =>
              refine ⟨?_, ?_, ?_⟩
              · rw [Journal.folder_setFile_isSome]
                exact kept.stage
              · rw [Journal.folder_setFile_other (by simp)]
                exact kept.backup
              · rw [Journal.folder_setFile_other (by simp)]
                exact kept.absent
          | backup =>
              refine .inr ⟨name, Journal.file_setFile_same ?_, ?_⟩
              · intro folder other same
                obtain ⟨rfl, -⟩ := File.inside.inj same
                simp [kept.backup]
              · rw [Journal.file_setFile_other (by simp)]
                simp only [Journal.file, kept.backup, kept.absent, Option.bind_some] at there ⊢
                cases old <;> simp_all [present, marker]
          | absent =>
              refine .inr ⟨name, ?_, Journal.file_setFile_same ?_⟩
              · rw [Journal.file_setFile_other (by simp)]
                simp only [Journal.file, kept.backup, kept.absent, Option.bind_some] at there ⊢
                cases old <;> simp_all [present, marker]
              · intro folder other same
                obtain ⟨rfl, -⟩ := File.inside.inj same
                simp [kept.absent]

theorem delete_state {journal after : Journal} {entry : Entry}
    (deleted : journal.delete entry = some after) :
    after.state = if entry = .file .state then none else journal.state := by
  cases entry with
  | root => simp [Journal.delete] at deleted
  | folder folder =>
      obtain rfl := Option.some.inj deleted
      simp
  | file file =>
      obtain rfl := Option.some.inj deleted
      cases file <;> simp [Journal.setFile]

/-- The whole directory only goes once its state file has. -/
theorem Journal.delete_eq_some {journal : Journal} {entry : Entry}
    (removable : journal.removable entry = true) (used : journal.state ≠ none) :
    ∃ after, journal.delete entry = some after := by
  cases entry with
  | root => simp_all [Journal.removable, Journal.isEmpty]
  | folder folder => exact ⟨_, rfl⟩
  | file file => exact ⟨_, rfl⟩

theorem exec_delete {journal after : Journal} {entry : Entry} (found : world.journal = some journal)
    (deleted : journal.delete entry = some after) :
    exec (.delete entry) world = { world with journal := some after } := by
  simp [exec, found, deleted]

/-- A journal in use after one deletion: its state file is gone, it has a gap, or it is whole. -/
theorem Stage.delete_used {journal : Journal} {entry : Entry} (renamed : renames trace ≠ 0)
    (uncleared : ¬Cleared trace) (found : world.journal = some journal)
    (used : journal.state ≠ none) (removable : journal.removable entry = true)
    (uniform : Uniform old next world)
    (shape : Torn trace ∧ Gap journal ∨ ¬Torn trace ∧ Kept old journal)
    (stays : ∀ after, ¬Cleared (trace ++ [Cmd.delete entry]) → ¬Torn (trace ++ [Cmd.delete entry]) →
      after.state = journal.state → Kept old after →
      Stage old next (trace ++ [Cmd.delete entry]) { world with journal := some after }) :
    Stage old next (trace ++ [Cmd.delete entry]) (exec (.delete entry) world) := by
  obtain ⟨after, deleted⟩ := Journal.delete_eq_some removable used
  have state := delete_state deleted
  have counted : renames (trace ++ [Cmd.delete entry]) ≠ 0 := by
    rw [renames_snoc (by simp)]
    exact renamed
  rw [exec_delete found deleted]
  by_cases clears : entry = .file .state
  · rw [if_pos clears] at state
    refine .cleared counted (cleared_snoc.mpr (.inr (by rw [clears]))) uniform ?_
    intro journal same
    obtain rfl := Option.some.inj same
    exact state
  rw [if_neg clears] at state
  have open_ : ¬Cleared (trace ++ [Cmd.delete entry]) := by
    rw [cleared_snoc]
    rintro (before | now)
    · exact uncleared before
    · exact clears (Cmd.delete.inj now)
  rcases shape with ⟨torn, gap⟩ | ⟨whole, kept⟩
  · exact .torn after counted open_ (torn_snoc.mpr (.inl torn)) rfl (by rw [state]; exact used)
      (gap.delete deleted) uniform
  · have shape := kept.delete removable deleted
    by_cases required : entry.required = true
    · rw [if_pos required] at shape
      exact .torn after counted open_ (torn_snoc.mpr (.inr ⟨entry, required, rfl⟩)) rfl
        (by rw [state]; exact used) shape uniform
    · rw [if_neg required] at shape
      refine stays after open_ ?_ state shape
      rw [torn_snoc]
      rintro (before | ⟨other, needed, same⟩)
      · exact whole before
      · exact required (Cmd.delete.inj same ▸ needed)

theorem Stage.delete {journal : Journal} {entry : Entry} (stage : Stage old next trace world)
    (uniform : Uniform old next world) (found : world.journal = some journal)
    (removable : journal.removable entry = true) :
    Stage old next (trace ++ [Cmd.delete entry]) (exec (.delete entry) world) := by
  cases stage with
  | building none credential stateless =>
      exact .building (by rw [renames_snoc (by simp), none]) credential stateless.delete
  | cleared renamed cleared _ stateless =>
      exact .cleared (by rw [renames_snoc (by simp)]; exact renamed)
        (cleared_snoc.mpr (.inl cleared)) uniform stateless.delete
  | prepared other renamed uncleared whole present state kept mixed =>
      obtain rfl := Option.some.inj (present.symm.trans found)
      refine Stage.delete_used (by omega) uncleared found (by simp [state]) removable uniform
        (.inr ⟨whole, kept⟩) ?_
      intro after open_ whole same kept
      exact .prepared after (by rw [renames_snoc (by simp), renamed]) open_ whole rfl
        (same.trans state) kept mixed
  | committed other renamed uncleared whole present state kept credential =>
      obtain rfl := Option.some.inj (present.symm.trans found)
      refine Stage.delete_used (by omega) uncleared found (by simp [state]) removable uniform
        (.inr ⟨whole, kept⟩) ?_
      intro after open_ whole same kept
      exact .committed after (by rw [renames_snoc (by simp), renamed]) open_ whole rfl
        (same.trans state) kept credential
  | torn other renamed uncleared torn present used gap _ =>
      obtain rfl := Option.some.inj (present.symm.trans found)
      refine Stage.delete_used renamed uncleared found used removable uniform (.inl ⟨torn, gap⟩) ?_
      intro after _ whole _ _
      exact absurd (torn_snoc.mpr (.inl torn)) whole

/-! ## Removing the transaction -/

theorem Uniform.of_eq {other : World} (uniform : Uniform old next world)
    (same : other.credential = world.credential) : Uniform old next other := by
  rw [Uniform, same]
  exact uniform

theorem removeTransaction_holds {journal : Journal} (order : List Entry)
    (stage : Stage old next trace world) (uniform : Uniform old next world)
    (found : world.journal = some journal) :
    (removeTransaction order).Holds exec (Stage old next)
      (fun result _ after =>
        (result = .ok () → after.journal = none ∧ after.credential = world.credential) ∧
          (Clears order → result = .ok ())) trace world := by
  refine .checkBind (by simp [found]) ?_
  refine .bind (fun result _ after => result = .ok () ∧
    after.credential = world.credential ∧ after.journal = deleteAll order (some journal))
    (.forEach (fun done _ after => after.credential = world.credential ∧
      after.journal = deleteAll done (some journal)) stage ⟨rfl, found⟩ ?_ ?_) ?_ ?_
  · intro before entry rest trace after _ stage reached
    obtain ⟨same, left⟩ := reached
    have step : deleteAll (before ++ [entry]) (some journal) =
        if after.journal.any (·.removable entry) then after.journal.bind (·.delete entry)
        else after.journal := by
      rw [left, deleteAll, List.foldl_append]
      rfl
    show (if after.journal.any (·.removable entry) then Script.command (Cmd.delete entry)
      else .done () : Script Unit).Holds exec _ _ trace after
    split
    · rename_i removable
      rw [if_pos removable] at step
      obtain ⟨here, present, allowed⟩ := (Option.any_eq_true _ _).mp removable
      exact .command stage (stage.delete (uniform.of_eq same) present allowed) ⟨same, step.symm⟩
    · rename_i stuck
      rw [if_neg stuck] at step
      exact .pure stage ⟨same, by rw [step, left]⟩
  · exact fun _ _ _ reached => ⟨rfl, reached⟩
  · intro status _ _ _ failed
    simp at failed
  · intro _ trace after stage reached
    obtain ⟨-, same, left⟩ := reached
    by_cases gone : after.journal = none
    · refine .checkBind (by simp [gone]) ?_
      exact .command stage (stage.snoc (by simp) (by simp)) ⟨fun _ => ⟨gone, same⟩, fun _ => rfl⟩
    · refine .checkFails (by simpa [Option.isSome_iff_ne_none] using gone) stage ⟨by simp, fun clears => ?_⟩
      rw [left] at gone
      exact absurd (clears journal) gone

/-! ## Restoring the old snapshot -/

/-- The starting set is empty or one that recovery accepts. -/
def Restorable (old : Option (Name → String)) : Prop :=
  ∀ files, old = some files → completeCredentials (present old) = true

theorem mem_credentialNames (name : Name) : name ∈ credentialNames := by
  cases name <;> decide

theorem Kept.backup_file {journal : Journal} (kept : Kept old journal) :
    (fun name => journal.file (.inside .backup name)) = present old := by
  funext name
  simp [Journal.file, kept.backup]

theorem Kept.backedUp {journal : Journal} (kept : Kept old journal) (name : Name) :
    journal.backedUp name = old.isSome := by
  cases old <;> simp [Journal.backedUp, Journal.file, kept.backup, kept.absent, present, marker]

theorem Kept.markedAbsent {journal : Journal} (kept : Kept old journal) (name : Name) :
    journal.markedAbsent name = old.isNone := by
  cases old <;> simp [Journal.markedAbsent, Journal.file, kept.backup, kept.absent, present, marker]

theorem Kept.backupCount {journal : Journal} (kept : Kept old journal) :
    journal.backupCount = if old.isSome then credentialNames.length else 0 := by
  have each : journal.backedUp = fun _ => old.isSome := by
    funext name
    exact kept.backedUp name
  rw [Journal.backupCount, each]
  cases old <;> rfl

theorem Kept.snapshotValid {journal : Journal} (kept : Kept old journal)
    (used : journal.state ≠ none) : journal.snapshotValid = true := by
  have state : journal.state.isSome = true := Option.isSome_iff_ne_none.mpr used
  have covered : ∀ name, (journal.backedUp name || journal.markedAbsent name) = true := by
    intro name
    rw [kept.backedUp, kept.markedAbsent]
    cases old <;> rfl
  simp only [Journal.snapshotValid, kept.stage, kept.backup, kept.absent, state, covered,
    kept.backupCount]
  cases old <;> rfl

theorem Gap.snapshotInvalid {journal : Journal} (gap : Gap journal) :
    journal.snapshotValid = false := by
  by_contra valid
  simp only [Journal.snapshotValid, Bool.not_eq_false, Bool.and_eq_true, List.all_eq_true,
    Bool.or_eq_true] at valid
  obtain ⟨⟨⟨⟨⟨stage, backup⟩, absent⟩, -⟩, covered⟩, -⟩ := valid
  rcases gap with ⟨folder, missing⟩ | ⟨name, noBackup, noMarker⟩
  · cases folder <;> simp_all
  · have shown := covered name (mem_credentialNames name)
    simp [Journal.backedUp, Journal.markedAbsent, noBackup, noMarker] at shown

/-- The journal is prepared, and the files named in `done` are the old ones again. -/
structure Restoring (old : Option (Name → String)) (next : Tokens) (done : List Name)
    (trace : List Cmd) (world : World) : Prop where
  renamed : renames trace = 1
  uncleared : ¬Cleared trace
  whole : ¬Torn trace
  journal : ∃ journal, world.journal = some journal ∧ journal.state = some "prepared\n" ∧
    Kept old journal
  mixed : ∀ name, world.credential name = present old name ∨
    world.credential name = written next name
  restored : ∀ name ∈ done, world.credential name = present old name

theorem Restoring.stage {done : List Name} (restoring : Restoring old next done trace world) :
    Stage old next trace world := by
  obtain ⟨journal, found, state, kept⟩ := restoring.journal
  exact .prepared journal restoring.renamed restoring.uncleared restoring.whole found state kept
    restoring.mixed

/-- Commands on the temporary copies keep everything. -/
theorem Restoring.edit {done : List Name} {cmd : Cmd} {after : World}
    (restoring : Restoring old next done trace world) (other : cmd ≠ .renameState)
    (undeleted : ∀ entry, cmd ≠ .delete entry) (credential : after.credential = world.credential)
    (edited : after.journal = world.journal ∨ ∃ name content,
      after.journal = world.journal.map (·.setFile (.restoring name) content)) :
    Restoring old next done (trace ++ [cmd]) after := by
  refine ⟨?_, ?_, ?_, ?_, ?_, ?_⟩
  · rw [renames_snoc other]
    exact restoring.renamed
  · simpa [cleared_snoc, undeleted] using restoring.uncleared
  · simpa [torn_snoc, undeleted] using restoring.whole
  · obtain ⟨journal, found, state, kept⟩ := restoring.journal
    rcases edited with same | ⟨name, content, same⟩
    · exact ⟨journal, same.trans found, state, kept⟩
    · refine ⟨journal.setFile (.restoring name) content, by rw [same, found]; rfl, state, ?_⟩
      exact ⟨kept.stage, kept.backup, kept.absent⟩
  · intro name
    rw [credential]
    exact restoring.mixed name
  · intro name member
    rw [credential]
    exact restoring.restored name member

/-- A command that puts the old value of one name back. -/
theorem Restoring.putBack {done : List Name} {cmd : Cmd} {after : World} {name : Name}
    (restoring : Restoring old next done trace world) (other : cmd ≠ .renameState)
    (undeleted : ∀ entry, cmd ≠ .delete entry)
    (credential : after.credential = Function.update world.credential name (present old name))
    (edited : after.journal = world.journal ∨ ∃ name content,
      after.journal = world.journal.map (·.setFile (.restoring name) content)) :
    Restoring old next (done ++ [name]) (trace ++ [cmd]) after := by
  have kept : Restoring old next done (trace ++ [cmd]) { after with credential := world.credential } :=
    restoring.edit other undeleted rfl edited
  refine ⟨kept.renamed, kept.uncleared, kept.whole, kept.journal, ?_, ?_⟩
  · intro asked
    rw [credential]
    by_cases same : asked = name
    · subst same
      exact .inl (by simp)
    · rw [Function.update_of_ne same]
      exact restoring.mixed asked
  · intro asked member
    rw [credential]
    by_cases same : asked = name
    · subst same
      simp
    · rw [Function.update_of_ne same]
      rcases List.mem_append.mp member with old | new
      · exact restoring.restored asked old
      · exact absurd (List.mem_singleton.mp new) same

def Cmd.quiet : Cmd → Bool
  | .chown | .chmod | .sync => true
  | _ => false

/-- Owner, mode and sync of a file that is there: nothing but the trace changes. -/
theorem secureFile_holds {during : List Cmd → World → Prop} {file : File} (P : List Cmd → Prop)
    (there : fileThere file world = true) (here : P trace)
    (implied : ∀ trace, P trace → during trace world)
    (stays : ∀ trace cmd, cmd.quiet = true → P trace → P (trace ++ [cmd])) :
    (secureFile file).Holds exec during
      (fun result trace after => result = .ok () ∧ P trace ∧ after = world) trace world := by
  have owned := stays trace .chown rfl here
  have moded := stays _ .chmod rfl owned
  have synced := stays _ .sync rfl moded
  refine .commandBind (implied _ here) ?_
  refine .commandBind (implied _ owned) ?_
  refine .checkBind there ?_
  exact .command (implied _ moded) (implied _ synced) ⟨rfl, synced, rfl⟩

theorem Restoring.quiet {done : List Name} {cmd : Cmd} (quiet : cmd.quiet = true)
    (restoring : Restoring old next done trace world) :
    Restoring old next done (trace ++ [cmd]) world :=
  restoring.edit (by rintro rfl; simp [Cmd.quiet] at quiet)
    (by rintro entry rfl; simp [Cmd.quiet] at quiet) rfl (.inl rfl)

theorem restoreFile_holds {journal : Journal} {done : List Name} {name : Name}
    (kept : Kept old journal) (restoring : Restoring old next done trace world) :
    (restoreFile journal name).Holds exec (Stage old next)
      (fun result trace after => result = .ok () ∧ Restoring old next (done ++ [name]) trace after)
      trace world := by
  have backup : journal.file (.inside .backup name) = present old name :=
    congrFun kept.backup_file name
  rw [restoreFile, backup]
  cases old with
  | none =>
      have removed : Restoring none next (done ++ [name]) (trace ++ [Cmd.removeCredential name])
          (exec (.removeCredential name) world) :=
        restoring.putBack (by simp) (by simp) rfl (.inl rfl)
      exact .command restoring.stage removed.stage ⟨rfl, removed⟩
  | some files =>
      have leftover : (Script.look fun world => if fileThere (.restoring name) world then
          .command (.removeRestoring name) else .done () : Script Unit).Holds exec
          (Stage (some files) next)
          (fun result trace after => result = .ok () ∧ Restoring (some files) next done trace after)
          trace world := by
        show (if fileThere (.restoring name) world then Script.command (.removeRestoring name)
          else .done () : Script Unit).Holds exec _ _ trace world
        split
        · have removed : Restoring (some files) next done (trace ++ [Cmd.removeRestoring name])
              (exec (.removeRestoring name) world) :=
            restoring.edit (by simp) (by simp) rfl (.inr ⟨name, none, rfl⟩)
          exact .command restoring.stage removed.stage ⟨rfl, removed⟩
        · exact .pure restoring.stage ⟨rfl, restoring⟩
      refine .bind _ leftover (by simp) ?_
      rintro _ trace world - ⟨-, restoring⟩
      obtain ⟨journal, found, -, -⟩ := restoring.journal
      have created : Restoring (some files) next done (trace ++ [Cmd.create (.restoring name)])
          (exec (.create (.restoring name)) world) :=
        restoring.edit (by simp) (by simp) rfl (.inr ⟨name, some "", rfl⟩)
      refine .commandBind restoring.stage ?_
      have copied : Restoring (some files) next done
          (trace ++ [Cmd.create (.restoring name)] ++ [Cmd.write (.restoring name) (files name)])
          (exec (.write (.restoring name) (files name)) (exec (.create (.restoring name)) world)) :=
        created.edit (by simp) (by simp) rfl (.inr ⟨name, some (files name), rfl⟩)
      have content : ∃ journal, (exec (.write (.restoring name) (files name))
          (exec (.create (.restoring name)) world)).journal = some journal ∧
          journal.restoring name = some (files name) := by
        refine ⟨(journal.setFile (.restoring name) (some "")).setFile (.restoring name)
          (some (files name)), by simp [exec, found], ?_⟩
        simp [Journal.setFile]
      refine .commandBind created.stage ?_
      generalize exec (.write (.restoring name) (files name)) _ = world at copied content ⊢
      generalize trace ++ [Cmd.create (.restoring name)] ++ _ = trace at copied ⊢
      obtain ⟨journal, found, content⟩ := content
      refine .bind _ (secureFile_holds (fun trace => Restoring (some files) next done trace world)
        (by simp [fileThere, found, Journal.file, content]) copied (fun _ => Restoring.stage)
        (fun _ _ => Restoring.quiet)) (by simp) ?_
      rintro _ trace world - ⟨-, restoring, rfl⟩
      have back : Restoring (some files) next (done ++ [name]) (trace ++ [Cmd.putBack name])
          (exec (.putBack name) world) := by
        refine restoring.putBack (by simp) (by simp) ?_ (.inr ⟨name, none, ?_⟩)
        · simp [exec, found, Journal.file, content, present]
        · simp [exec, found]
      refine .commandBind restoring.stage ?_
      refine .checkBind ?_ ?_
      · rw [back.restored name (by simp)]
        rfl
      · exact .command back.stage (back.quiet rfl).stage ⟨rfl, back.quiet rfl⟩

theorem restoreOldSnapshot_holds {journal : Journal} (renamed : renames trace = 1)
    (uncleared : ¬Cleared trace) (whole : ¬Torn trace) (found : world.journal = some journal)
    (state : journal.state = some "prepared\n") (kept : Kept old journal)
    (mixed : ∀ name, world.credential name = present old name ∨
      world.credential name = written next name) :
    (restoreOldSnapshot journal).Holds exec (Stage old next)
      (fun result _ after =>
        (Restorable old → result = .ok ()) ∧
          (result = .ok () → Restorable old ∧ after.credential = present old ∧
            ∃ journal, after.journal = some journal)) trace world := by
  have begun : Restoring old next [] trace world :=
    ⟨renamed, uncleared, whole, ⟨journal, found, state, kept⟩, mixed, by simp⟩
  refine .checkBind ?_ ?_
  · rw [validateTransactionSnapshot, found]
    exact kept.snapshotValid (by simp [state])
  have accepted : (journal.backupCount != credentialNames.length ||
      completeCredentials fun name => journal.file (.inside .backup name)) = true ↔
      Restorable old := by
    rw [kept.backup_file, kept.backupCount]
    cases old <;> simp [Restorable, credentialNames]
  by_cases restorable : Restorable old
  swap
  · refine .checkFails ?_ begun.stage ⟨fun holds => absurd holds restorable, by simp⟩
    exact Bool.eq_false_iff.mpr (fun holds => restorable (accepted.mp holds))
  refine .checkBind (accepted.mpr restorable) ?_
  refine .bind (fun result trace after => result = .ok () ∧
    Restoring old next credentialNames trace after) (.forEach (Restoring old next) begun.stage begun
      ?_ ?_) (by simp) ?_
  · intro before name rest trace world _ _ restoring
    refine (restoreFile_holds kept restoring).mono (fun _ _ holds => holds) ?_
    rintro result trace world - ⟨rfl, restored⟩
    exact restored
  · exact fun _ _ _ restored => ⟨rfl, restored⟩
  rintro _ trace world - ⟨-, restored⟩
  refine .commandBind restored.stage ?_
  have back : world.credential = present old := by
    funext name
    exact restored.restored name (mem_credentialNames name)
  obtain ⟨after, left, -, -⟩ := restored.journal
  have complete : (if journal.backupCount == credentialNames.length then
      existingCount world == credentialNames.length && completeCredentials world.credential
      else existingCount world == 0) = true := by
    rw [kept.backupCount, existingCount, back]
    cases old with
    | none => rfl
    | some files => simpa [credentialNames, present] using restorable files rfl
  have ended : Restoring old next credentialNames (trace ++ [Cmd.sync]) world := restored.quiet rfl
  exact .check complete ended.stage ⟨fun _ => rfl, fun _ => ⟨restorable, back, after, left⟩⟩


/-! ## Recovery -/

/-- Whether recovery gets through: the journal was never put to use or is no longer in use, or it
is whole and, if still to be undone, holds a set that recovery accepts. -/
def Recoverable (old : Option (Name → String)) (trace : List Cmd) : Prop :=
  renames trace = 0 ∨ Cleared trace ∨ ¬Torn trace ∧ (renames trace = 1 → Restorable old)

theorem readLine_append {value : String} (newline : '\n' ∉ value.toList)
    (nul : '\x00' ∉ value.toList) : readLine (value ++ "\n") = some value := by
  have reversed : (value ++ "\n").toList.reverse = '\n' :: value.toList.reverse := by simp
  rw [readLine, reversed]
  simp [newline, nul]

theorem readLine_token {value : String} (valid : validOptionalToken value = true) :
    readLine (value ++ "\n") = some value := by
  simp only [validOptionalToken, Bool.or_eq_true, beq_iff_eq] at valid
  rcases valid with rfl | valid
  · decide
  · simp only [validToken, Bool.and_eq_true, List.all_eq_true] at valid
    refine readLine_append ?_ ?_
    · intro member
      exact absurd (valid.1 _ member) (by decide)
    · intro member
      exact absurd (valid.1 _ member) (by decide)

theorem loadCredentials_written (valid : validateCompleteState next = true) :
    loadCredentialsFrom (written next) = some next := by
  simp only [validateCompleteState, Bool.and_eq_true, Bool.not_eq_true', Bool.or_eq_false_iff,
    Bool.not_eq_false'] at valid
  obtain ⟨⟨⟨⟨⟨⟨⟨⟨⟨⟨⟨g2bSend, g2bAccept⟩, g2bPrevious⟩, b2gSend⟩, b2gAccept⟩, b2gPrevious⟩, -⟩, -⟩, -⟩,
    -⟩, -⟩, -⟩ := valid
  have token : ∀ {value}, validToken value = true → readLine (value ++ "\n") = some value :=
    fun held => readLine_token (by simp [validOptionalToken, held])
  simp [loadCredentialsFrom, readTokenFile, written, render, token g2bSend, token g2bAccept,
    readLine_token g2bPrevious, token b2gSend, token b2gAccept, readLine_token b2gPrevious]

theorem completeCredentials_written (valid : validateCompleteState next = true) :
    completeCredentials (written next) = true := by
  simp [completeCredentials, loadCredentials_written valid, valid]

/-- What one recovery ends with, `can` telling whether it gets through. -/
def Recovers (old : Option (Name → String)) (next : Tokens) (order : List Entry) (can : Prop)
    (result : Except Nat Unit) (_ : List Cmd) (after : World) : Prop :=
  (result = .ok () → after.journal = none ∧ Uniform old next after) ∧
    (Clears order → (result = .ok () ↔ can))

theorem removeTransaction_recovers {journal : Journal} {can : Prop} (order : List Entry)
    (stage : Stage old next trace world) (uniform : Uniform old next world)
    (found : world.journal = some journal) (able : can) :
    (removeTransaction order).Holds exec (Stage old next) (Recovers old next order can) trace
      world := by
  refine (removeTransaction_holds order stage uniform found).mono (fun _ _ holds => holds) ?_
  rintro result _ after - ⟨ends, clears⟩
  refine ⟨fun ok => ⟨(ends ok).1, uniform.of_eq (ends ok).2⟩, fun cleared => ?_⟩
  exact ⟨fun _ => able, fun _ => clears cleared⟩

theorem recoverTransaction_unused {can : Prop} (order : List Entry)
    (stage : Stage old next trace world) (uniform : Uniform old next world)
    (stateless : Stateless world) (able : can) :
    (recoverTransaction order).Holds exec (Stage old next) (Recovers old next order can) trace
      world := by
  refine .readBind ?_
  cases found : world.journal with
  | none => exact .pure stage ⟨fun _ => ⟨found, uniform⟩, fun _ => ⟨fun _ => able, fun _ => rfl⟩⟩
  | some journal =>
      dsimp only
      rw [stateless journal found]
      exact removeTransaction_recovers order stage uniform found able

theorem recoverTransaction_holds (order : List Entry) (valid : validateCompleteState next = true)
    (stage : Stage old next trace world) :
    (recoverTransaction order).Holds exec (Stage old next)
      (Recovers old next order (Recoverable old trace)) trace world := by
  have here := stage
  cases stage with
  | building none credential stateless =>
      exact recoverTransaction_unused order here (.inl credential) stateless (.inl none)
  | cleared renamed cleared uniform stateless =>
      exact recoverTransaction_unused order here uniform stateless (.inr (.inl cleared))
  | prepared journal renamed uncleared whole found state kept mixed =>
      refine .readBind ?_
      rw [found]
      dsimp only
      rw [state]
      refine .checkBind (by simp [validateTransactionSnapshot, found, kept.snapshotValid, state]) ?_
      have line : readLine "prepared\n" = some "prepared" := by decide
      rw [line]
      have able : Restorable old → Recoverable old trace :=
        fun restorable => .inr (.inr ⟨whole, fun _ => restorable⟩)
      refine .bind _ (restoreOldSnapshot_holds renamed uncleared whole found state kept mixed) ?_ ?_
      · rintro status _ _ - ⟨accepts, -⟩
        refine ⟨by simp, fun _ => ⟨by simp, ?_⟩⟩
        rintro (none | cleared | ⟨-, restorable⟩)
        · omega
        · exact absurd cleared uncleared
        · exact absurd (accepts (restorable renamed)) (by simp)
      · rintro _ trace world stage ⟨-, restored⟩
        obtain ⟨restorable, credential, journal, found⟩ := restored rfl
        exact removeTransaction_recovers order stage (.inl credential) found (able restorable)
  | committed journal renamed uncleared whole found state kept credential =>
      have snapshot : validateTransactionSnapshot world = true := by
        simp [validateTransactionSnapshot, found, kept.snapshotValid, state]
      refine .readBind ?_
      rw [found]
      dsimp only
      rw [state]
      refine .checkBind snapshot ?_
      have line : readLine "committed\n" = some "committed" := by decide
      rw [line]
      refine .checkBind (by rw [credential]; exact completeCredentials_written valid) ?_
      refine .checkBind snapshot ?_
      exact removeTransaction_recovers order here (.inr credential) found
        (.inr (.inr ⟨whole, by omega⟩))
  | torn journal renamed uncleared torn found used gap uniform =>
      obtain ⟨content, state⟩ := Option.ne_none_iff_exists'.mp used
      refine .readBind ?_
      rw [found]
      dsimp only
      rw [state]
      refine .checkFails (by simp [validateTransactionSnapshot, found, gap.snapshotInvalid]) here ?_
      refine ⟨by simp, fun _ => ⟨by simp, ?_⟩⟩
      rintro (none | cleared | ⟨whole, -⟩)
      · exact absurd none renamed
      · exact absurd cleared uncleared
      · exact absurd torn whole

end

end Credentials

end HarborGate
