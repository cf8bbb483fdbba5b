import HarborGate.Credentials.Recovery

/-!
`commit_credentials` step by step: the journal is drafted, put to use, the staged files are
published one by one, and the journal is marked committed and removed. Wherever it is stopped the
directory is at a `Stage`.
-/

namespace HarborGate

namespace Credentials

open Crash

section

variable {old : Option (Name → String)} {next : Tokens} {trace : List Cmd} {world : World}

/-- `count` renames of the state file and no deletion so far. -/
def Undeleted (count : Nat) (trace : List Cmd) : Prop :=
  renames trace = count ∧ ∀ entry, Cmd.delete entry ∉ trace

theorem Undeleted.snoc {count : Nat} {cmd : Cmd} (so : Undeleted count trace)
    (other : cmd ≠ .renameState) (kept : ∀ entry, cmd ≠ .delete entry) :
    Undeleted count (trace ++ [cmd]) := by
  refine ⟨by rw [renames_snoc other, so.1], fun entry member => ?_⟩
  rcases List.mem_append.mp member with old | new
  · exact so.2 entry old
  · exact kept entry (List.mem_singleton.mp new).symm

theorem Undeleted.quiet {count : Nat} {cmd : Cmd} (quiet : cmd.quiet = true)
    (so : Undeleted count trace) : Undeleted count (trace ++ [cmd]) :=
  so.snoc (by rintro rfl; simp [Cmd.quiet] at quiet)
    (by rintro entry rfl; simp [Cmd.quiet] at quiet)

theorem Undeleted.rename {count : Nat} (so : Undeleted count trace) :
    Undeleted (count + 1) (trace ++ [Cmd.renameState]) := by
  refine ⟨by simp [renames, ← so.1], fun entry member => ?_⟩
  rcases List.mem_append.mp member with old | new
  · exact so.2 entry old
  · simp at new

theorem Undeleted.uncleared {count : Nat} (so : Undeleted count trace) : ¬Cleared trace :=
  so.2 _

theorem Undeleted.whole {count : Nat} (so : Undeleted count trace) : ¬Torn trace := by
  rintro ⟨entry, -, member⟩
  exact so.2 entry member

theorem Undeleted.building {journal : Journal} (so : Undeleted 0 trace)
    (credential : world.credential = present old) (found : world.journal = some journal)
    (unused : journal.state = none) : Stage old next trace world := by
  refine .building so.1 credential fun other same => ?_
  rw [found] at same
  obtain rfl := Option.some.inj same
  exact unused

/-- The files of the names done, and no others. -/
def progress (done : List Name) (files : Name → Option String) : Name → Option String :=
  fun name => if name ∈ done then files name else none

/-- The journal while it is built: the files staged and the files copied or marked. -/
def draft (old : Option (Name → String)) (next : Tokens) (staged copied : List Name) : Journal where
  folder
    | .stage => some (progress staged (written next))
    | .backup => some (progress copied (present old))
    | .absent => some (progress copied (marker old))
  restoring := fun _ => none
  state := none
  stateNew := none

theorem progress_snoc (done : List Name) (name : Name) (files : Name → Option String) :
    progress (done ++ [name]) files = Function.update (progress done files) name (files name) := by
  funext other
  by_cases same : other = name
  · subst same
    simp [progress]
  · simp [progress, same]

theorem progress_all (files : Name → Option String) : progress credentialNames files = files := by
  funext name
  simp [progress, mem_credentialNames]

theorem draft_staged (staged : List Name) (name : Name) :
    ((draft old next staged []).setFile (.inside .stage name) (some "")).setFile
      (.inside .stage name) (some (render next name)) = draft old next (staged ++ [name]) [] := by
  simp only [draft, Journal.setFile, progress_snoc, Function.update_self, Option.map_some,
    Function.update_idem, Journal.mk.injEq, and_self, and_true]
  funext folder
  cases folder <;> simp [written]

theorem progress_nil (files : Name → Option String) : progress [] files = fun _ => none := by
  funext name
  simp [progress]

theorem progress_none (done : List Name) : progress done (fun _ => none) = fun _ => none := by
  funext name
  simp [progress]

theorem draft_backed (files : Name → String) (copied : List Name) (name : Name) :
    ((draft (some files) next credentialNames copied).setFile (.inside .backup name)
      (some "")).setFile (.inside .backup name) (some (files name)) =
      draft (some files) next credentialNames (copied ++ [name]) := by
  have unmarked : marker (some files) = fun _ => none := rfl
  simp only [draft, Journal.setFile, progress_snoc, unmarked, progress_none, Function.update_self,
    Option.map_some, Function.update_idem, Journal.mk.injEq, and_self, and_true]
  funext folder
  cases folder <;> simp [present]

theorem draft_marked (copied : List Name) (name : Name) :
    (draft none next credentialNames copied).setFile (.inside .absent name) (some "") =
      draft none next credentialNames (copied ++ [name]) := by
  have uncopied : present none = fun _ => none := rfl
  simp only [draft, Journal.setFile, progress_snoc, uncopied, progress_none, Option.map_some,
    Journal.mk.injEq, and_self, and_true]
  funext folder
  cases folder <;> simp [marker]

theorem draft_kept : Kept old (draft old next credentialNames credentialNames) := by
  refine ⟨rfl, ?_, ?_⟩
  · simp [draft, progress_all]
  · simp [draft, progress_all]

/-- The directory while the journal is built. -/
structure Drafting (old : Option (Name → String)) (next : Tokens) (staged copied : List Name)
    (trace : List Cmd) (world : World) : Prop where
  undeleted : Undeleted 0 trace
  credential : world.credential = present old
  journal : world.journal = some (draft old next staged copied)

theorem Drafting.stage {staged copied : List Name}
    (drafting : Drafting old next staged copied trace world) : Stage old next trace world :=
  drafting.undeleted.building drafting.credential drafting.journal rfl

theorem Drafting.quiet {staged copied : List Name} {cmd : Cmd} (quiet : cmd.quiet = true)
    (drafting : Drafting old next staged copied trace world) :
    Drafting old next staged copied (trace ++ [cmd]) world :=
  ⟨drafting.undeleted.quiet quiet, drafting.credential, drafting.journal⟩

theorem makeFolders_holds (start : Undeleted 0 trace) (credential : world.credential = present old)
    (found : world.journal = some .empty) :
    (Script.forEach makeFolder [.stage, .backup, .absent]).Holds exec (Stage old next)
      (fun result trace after => result = .ok () ∧ Drafting old next [] [] trace after)
      trace world := by
  refine .forEach (fun done trace world => Undeleted 0 trace ∧ world.credential = present old ∧
    world.journal = some { Journal.empty with
      folder := fun folder => if folder ∈ done then some fun _ => none else none })
    (start.building credential found rfl) ⟨start, credential, by simp [found, Journal.empty]⟩ ?_ ?_
  · intro before folder after trace world split stage reached
    obtain ⟨undeleted, credential, found⟩ := reached
    have new : folder ∉ before := by
      intro old
      have distinct : ([.stage, .backup, .absent] : List Folder).Nodup := by decide
      rw [split] at distinct
      exact (List.nodup_append.mp distinct).2.2 folder old folder (by simp) rfl
    have made : Undeleted 0 (trace ++ [Cmd.mkdir folder]) := undeleted.snoc (by simp) (by simp)
    have changed : (exec (.mkdir folder) world).journal = some { Journal.empty with
        folder := fun other => if other ∈ before ++ [folder] then some fun _ => none else none } := by
      simp only [exec, found, Option.map_some, Option.some.injEq, Journal.mk.injEq, and_self,
        and_true]
      funext other
      by_cases same : other = folder
      · subst same
        simp
      · simp [same]
    refine .checkBind (by simp [found, new]) ?_
    exact .command stage (made.building credential changed rfl) ⟨made, credential, changed⟩
  · intro trace world _ reached
    obtain ⟨undeleted, credential, found⟩ := reached
    refine ⟨rfl, undeleted, credential, ?_⟩
    rw [found]
    simp only [draft, Journal.empty, Option.some.injEq, Journal.mk.injEq, and_self, and_true]
    funext folder
    cases folder <;> simp [progress_nil]

theorem stageFiles_holds (drafting : Drafting old next [] [] trace world) :
    (Script.forEach (stageFile next) credentialNames).Holds exec (Stage old next)
      (fun result trace after => result = .ok () ∧ Drafting old next credentialNames [] trace after)
      trace world := by
  refine .forEach (fun done => Drafting old next done []) drafting.stage drafting ?_
    (fun _ _ _ drafted => ⟨rfl, drafted⟩)
  intro before name after trace world _ stage drafting
  have created : Undeleted 0 (trace ++ [Cmd.create (.inside .stage name)]) :=
    drafting.undeleted.snoc (by simp) (by simp)
  have emptied : (exec (.create (.inside .stage name)) world).journal =
      some ((draft old next before []).setFile (.inside .stage name) (some "")) := by
    simp [exec, drafting.journal]
  refine .commandBind stage ?_
  have staged : Drafting old next (before ++ [name]) []
      (trace ++ [Cmd.create (.inside .stage name)] ++
        [Cmd.write (.inside .stage name) (render next name)])
      (exec (.write (.inside .stage name) (render next name))
        (exec (.create (.inside .stage name)) world)) := by
    refine ⟨created.snoc (by simp) (by simp), drafting.credential, ?_⟩
    rw [← draft_staged]
    simp [exec, drafting.journal]
  exact .command (created.building drafting.credential emptied rfl) staged.stage staged

theorem draft_stage_there {copied : List Name} (name : Name) :
    ((draft old next credentialNames copied).file (.inside .stage name)).isSome = true := by
  simp [draft, Journal.file, progress_all, written]

theorem snapshotFile_holds {copied : List Name} {name : Name}
    (drafting : Drafting old next credentialNames copied trace world) :
    (snapshotFile name).Holds exec (Stage old next)
      (fun result trace after => result = .ok () ∧
        Drafting old next credentialNames (copied ++ [name]) trace after) trace world := by
  refine .bind _ (secureFile_holds
    (fun trace => Drafting old next credentialNames copied trace world)
    (by simp [fileThere, drafting.journal, draft_stage_there]) drafting (fun _ => Drafting.stage)
    (fun _ _ => Drafting.quiet)) (by simp) ?_
  rintro _ trace world - ⟨-, drafting, rfl⟩
  refine .readBind ?_
  rw [drafting.credential]
  cases old with
  | some files =>
      have created : Undeleted 0 (trace ++ [Cmd.create (.inside .backup name)]) :=
        drafting.undeleted.snoc (by simp) (by simp)
      have emptied : (exec (.create (.inside .backup name)) world).journal =
          some ((draft (some files) next credentialNames copied).setFile (.inside .backup name)
            (some "")) := by
        simp [exec, drafting.journal]
      have copied : Drafting (some files) next credentialNames (copied ++ [name])
          (trace ++ [Cmd.create (.inside .backup name)] ++
            [Cmd.write (.inside .backup name) (files name)])
          (exec (.write (.inside .backup name) (files name))
            (exec (.create (.inside .backup name)) world)) := by
        refine ⟨created.snoc (by simp) (by simp), drafting.credential, ?_⟩
        rw [← draft_backed]
        simp [exec, drafting.journal]
      refine .commandBind drafting.stage ?_
      refine .commandBind (created.building drafting.credential emptied rfl) ?_
      have there : fileThere (.inside .backup name) (exec (.write (.inside .backup name) (files name))
          (exec (.create (.inside .backup name)) world)) = true := by
        simp [fileThere, copied.journal, draft, Journal.file, progress, present]
      refine (secureFile_holds (fun trace => Drafting (some files) next credentialNames _ trace _)
        there copied (fun _ => Drafting.stage) (fun _ _ => Drafting.quiet)).mono
        (fun _ _ holds => holds) ?_
      rintro result trace after - ⟨rfl, drafted, rfl⟩
      exact ⟨rfl, drafted⟩
  | none =>
      have marked : Drafting none next credentialNames (copied ++ [name])
          (trace ++ [Cmd.create (.inside .absent name)])
          (exec (.create (.inside .absent name)) world) := by
        refine ⟨drafting.undeleted.snoc (by simp) (by simp), drafting.credential, ?_⟩
        rw [← draft_marked]
        simp [exec, drafting.journal]
      refine .commandBind drafting.stage ?_
      have there : fileThere (.inside .absent name) (exec (.create (.inside .absent name)) world) =
          true := by
        simp [fileThere, marked.journal, draft, Journal.file, progress, marker]
      refine (secureFile_holds (fun trace => Drafting none next credentialNames _ trace _)
        there marked (fun _ => Drafting.stage) (fun _ _ => Drafting.quiet)).mono
        (fun _ _ holds => holds) ?_
      rintro result trace after - ⟨rfl, drafted, rfl⟩
      exact ⟨rfl, drafted⟩

theorem buildJournal_holds (start : Undeleted 0 trace) (credential : world.credential = present old)
    (unused : world.journal = none) :
    (buildJournal next).Holds exec (Stage old next)
      (fun result trace after => result = .ok () ∧
        Drafting old next credentialNames credentialNames trace after) trace world := by
  have stage : Stage old next trace world :=
    .building start.1 credential fun journal found => by simp [unused] at found
  refine .checkBind ?_ ?_
  · rw [existingCount, credential]
    cases old <;> simp [present, credentialNames]
  refine .checkBind (by simp [unused]) ?_
  refine .commandBind stage ?_
  have rooted : Undeleted 0 (trace ++ [Cmd.mkdirRoot]) := start.snoc (by simp) (by simp)
  refine .bind _ (makeFolders_holds rooted credential rfl) (by simp) ?_
  rintro _ trace world - ⟨-, drafting⟩
  refine .bind _ (stageFiles_holds drafting) (by simp) ?_
  rintro _ trace world - ⟨-, drafting⟩
  refine .bind (fun result trace after => result = .ok () ∧
    Drafting old next credentialNames credentialNames trace after)
    (.forEach (fun done => Drafting old next credentialNames done) drafting.stage drafting ?_
      (fun _ _ _ drafted => ⟨rfl, drafted⟩)) (by simp) ?_
  · intro before name after trace world _ _ drafting
    refine (snapshotFile_holds drafting).mono (fun _ _ holds => holds) ?_
    rintro result trace world - ⟨rfl, drafted⟩
    exact drafted
  rintro _ trace world - ⟨-, drafting⟩
  refine .forEach (fun _ => Drafting old next credentialNames credentialNames) drafting.stage
    drafting ?_ (fun _ _ _ drafted => ⟨rfl, drafted⟩)
  intro before item after trace world _ stage drafting
  have synced : Drafting old next credentialNames credentialNames (trace ++ [Cmd.sync]) world :=
    drafting.quiet rfl
  exact .command stage synced.stage synced

def World.withStateNew (world : World) (journal : Journal) (content : Option String) : World :=
  { world with journal := some { journal with stateNew := content } }

def World.withState (world : World) (journal : Journal) (content : String) : World :=
  { world with journal := some { journal with state := some content, stateNew := none } }

/-- Until the rename only `state.new` differs; the rename puts the new state in place. -/
theorem writeTransactionState_holds {journal : Journal} {count : Nat} (state : String)
    (start : Undeleted count trace) (found : world.journal = some journal)
    (unused : journal.stateNew = none)
    (before : ∀ trace content, Undeleted count trace →
      Stage old next trace (world.withStateNew journal content))
    (after : ∀ trace, Undeleted (count + 1) trace →
      Stage old next trace (world.withState journal (state ++ "\n"))) :
    (writeTransactionState state).Holds exec (Stage old next)
      (fun result trace last => result = .ok () ∧ Undeleted (count + 1) trace ∧
        last = world.withState journal (state ++ "\n")) trace world := by
  have same : world = world.withStateNew journal none := by
    rw [World.withStateNew, ← unused, ← found]
  have created : exec (.create .stateNew) world = world.withStateNew journal (some "") := by
    simp [exec, found, Journal.setFile, World.withStateNew]
  have filled : exec (.write .stateNew (state ++ "\n")) (world.withStateNew journal (some "")) =
      world.withStateNew journal (some (state ++ "\n")) := by
    simp [exec, Journal.setFile, World.withStateNew]
  have renamed : exec .renameState (world.withStateNew journal (some (state ++ "\n"))) =
      world.withState journal (state ++ "\n") := by
    simp [exec, World.withStateNew, World.withState]
  have one : Undeleted count (trace ++ [Cmd.create .stateNew]) := start.snoc (by simp) (by simp)
  have two : Undeleted count (trace ++ [Cmd.create .stateNew] ++
      [Cmd.write .stateNew (state ++ "\n")]) :=
    one.snoc (by simp) (by simp)
  have ready : Undeleted count (trace ++ [Cmd.create .stateNew] ++
      [Cmd.write .stateNew (state ++ "\n")] ++ [Cmd.chown] ++ [Cmd.chmod] ++ [Cmd.sync]) :=
    ((two.quiet rfl).quiet rfl).quiet rfl
  refine .checkBind (by simp [found]) ?_
  refine .checkBind (by simp [fileThere, found, Journal.file, unused]) ?_
  refine .commandBind (by rw [same]; exact before _ _ start) ?_
  rw [created]
  refine .commandBind (before _ _ one) ?_
  rw [filled]
  refine .commandBind (before _ _ two) ?_
  refine .commandBind (before _ _ (two.quiet rfl)) ?_
  refine .checkBind (by rfl) ?_
  refine .commandBind (before _ _ ((two.quiet rfl).quiet rfl)) ?_
  refine .commandBind (before _ _ ready) ?_
  show Script.Holds exec _ _ _ _ (exec .renameState (world.withStateNew journal _))
  rw [renamed]
  refine .checkBind (by rfl) ?_
  exact .command (after _ ready.rename) (after _ (ready.rename.quiet rfl))
    ⟨rfl, ready.rename.quiet rfl, rfl⟩

/-- The journal of the files published so far. -/
def publishing (old : Option (Name → String)) (next : Tokens) (done : List Name) : Journal where
  folder
    | .stage => some fun name => if name ∈ done then none else written next name
    | .backup => some (present old)
    | .absent => some (marker old)
  restoring := fun _ => none
  state := some "prepared\n"
  stateNew := none

theorem publishing_kept (done : List Name) : Kept old (publishing old next done) :=
  ⟨rfl, rfl, rfl⟩

structure Publishing (old : Option (Name → String)) (next : Tokens) (done : List Name)
    (trace : List Cmd) (world : World) : Prop where
  undeleted : Undeleted 1 trace
  credential : world.credential = fun name =>
    if name ∈ done then written next name else present old name
  journal : world.journal = some (publishing old next done)

theorem Publishing.stage {done : List Name} (publish : Publishing old next done trace world) :
    Stage old next trace world := by
  refine .prepared _ publish.undeleted.1 publish.undeleted.uncleared publish.undeleted.whole
    publish.journal rfl (publishing_kept done) ?_
  intro name
  rw [publish.credential]
  dsimp only
  split
  · exact .inr rfl
  · exact .inl rfl

theorem publishFile_holds {done : List Name} {name : Name} (new : name ∉ done)
    (publish : Publishing old next done trace world) :
    (publishFile name).Holds exec (Stage old next)
      (fun result trace after => result = .ok () ∧ Publishing old next (done ++ [name]) trace after)
      trace world := by
  have staged : (publishing old next done).file (.inside .stage name) = written next name := by
    simp [publishing, Journal.file, new]
  have credential : (exec (.publish name) world).credential = fun other =>
      if other ∈ done ++ [name] then written next other else present old other := by
    simp only [exec, publish.journal, staged, publish.credential]
    funext other
    by_cases same : other = name
    · subst same
      simp
    · simp [same]
  have journal : (exec (.publish name) world).journal =
      some (publishing old next (done ++ [name])) := by
    simp only [exec, publish.journal, Journal.setFile, publishing, Option.map_some,
      Option.some.injEq, Journal.mk.injEq, and_self, and_true]
    funext folder
    cases folder with
    | stage =>
        simp only [Function.update_self, Option.some.injEq]
        funext other
        by_cases same : other = name
        · subst same
          simp
        · simp [same]
    | backup | absent => simp
  have moved : Publishing old next (done ++ [name]) (trace ++ [Cmd.publish name])
      (exec (.publish name) world) :=
    ⟨publish.undeleted.snoc (by simp) (by simp), credential, journal⟩
  refine .checkBind (by simp [fileThere, publish.journal, staged, written]) ?_
  refine .commandBind publish.stage ?_
  exact .check (by simp [credential, written]) moved.stage ⟨rfl, moved⟩


theorem draft_prepared : { draft old next credentialNames credentialNames with
    state := some "prepared\n", stateNew := none } = publishing old next [] := by
  simp only [draft, publishing, progress_all, Journal.mk.injEq, and_self, and_true]
  funext folder
  cases folder <;> simp

theorem Drafting.publishing (drafting : Drafting old next credentialNames credentialNames trace world)
    {later : List Cmd} (undeleted : Undeleted 1 later) :
    Publishing old next [] later (world.withState
      (draft old next credentialNames credentialNames) ("prepared" ++ "\n")) := by
  have text : "prepared" ++ "\n" = "prepared\n" := by decide
  refine ⟨undeleted, ?_, ?_⟩
  · simpa [World.withState] using drafting.credential
  · rw [text, World.withState, draft_prepared]

theorem publishFiles_holds (publish : Publishing old next [] trace world) :
    (Script.forEach publishFile credentialNames).Holds exec (Stage old next)
      (fun result trace after => result = .ok () ∧
        Publishing old next credentialNames trace after) trace world := by
  refine .forEach (Publishing old next) publish.stage publish ?_
    (fun _ _ _ published => ⟨rfl, published⟩)
  intro before name after trace world split _ publish
  have new : name ∉ before := by
    intro old
    have distinct : credentialNames.Nodup := by decide
    rw [split] at distinct
    exact (List.nodup_append.mp distinct).2.2 name old name (by simp) rfl
  refine (publishFile_holds new publish).mono (fun _ _ holds => holds) ?_
  rintro result trace world - ⟨rfl, moved⟩
  exact moved

theorem Publishing.all (publish : Publishing old next credentialNames trace world) :
    world.credential = written next := by
  rw [publish.credential]
  funext name
  simp [mem_credentialNames]

theorem commitCredentials_holds (order : List Entry) (valid : validateCompleteState next = true)
    (start : Undeleted 0 trace) (credential : world.credential = present old)
    (unused : world.journal = none) :
    (commitCredentials next order).Holds exec (Stage old next)
      (fun result _ after =>
        (result = .ok () → after.journal = none ∧ after.credential = written next) ∧
          (Clears order → result = .ok ())) trace world := by
  refine .bind _ (buildJournal_holds start credential unused) (by simp) ?_
  rintro _ trace world - ⟨-, drafting⟩
  refine .bind _ (writeTransactionState_holds "prepared" drafting.undeleted drafting.journal rfl ?_
    ?_) (by simp) ?_
  · intro trace content undeleted
    exact undeleted.building drafting.credential rfl rfl
  · intro trace undeleted
    exact (drafting.publishing undeleted).stage
  rintro _ trace _ - ⟨-, undeleted, rfl⟩
  have publish := drafting.publishing undeleted
  generalize world.withState _ _ = world at publish ⊢
  refine .checkBind ?_ ?_
  · rw [validateTransactionSnapshot, publish.journal]
    exact (publishing_kept []).snapshotValid (by simp [Credentials.publishing])
  refine .commandBind publish.stage ?_
  have active : Publishing old next [] (trace ++ [Cmd.activate true])
      (exec (.activate true) world) :=
    ⟨publish.undeleted.snoc (by simp) (by simp), publish.credential, publish.journal⟩
  refine .bind _ (publishFiles_holds active) (by simp) ?_
  rintro _ trace world - ⟨-, published⟩
  have synced : Undeleted 1 (trace ++ [Cmd.sync]) := published.undeleted.quiet rfl
  refine .commandBind published.stage ?_
  refine .checkBind (by simpa [exec, published.all] using completeCredentials_written valid) ?_
  have committed : ∀ trace, Undeleted 2 trace → Stage old next trace
      (world.withState (Credentials.publishing old next credentialNames) ("committed" ++ "\n")) :=
    fun trace undeleted => .committed _ undeleted.1 undeleted.uncleared undeleted.whole rfl
      (congrArg some (by decide)) ⟨rfl, rfl, rfl⟩ published.all
  refine .bind _ (writeTransactionState_holds "committed" synced published.journal rfl ?_ committed)
    (by simp) ?_
  · intro trace content undeleted
    exact .prepared _ undeleted.1 undeleted.uncleared undeleted.whole rfl rfl ⟨rfl, rfl, rfl⟩
      (fun name => .inr (congrFun published.all name))
  rintro _ trace _ - ⟨-, undeleted, rfl⟩
  have stage := committed trace undeleted
  refine .checkBind ?_ ?_
  · rw [validateTransactionSnapshot, World.withState]
    exact Kept.snapshotValid ⟨rfl, rfl, rfl⟩ (by simp)
  refine .checkBind ?_ ?_
  · show completeCredentials world.credential = true
    rw [published.all]
    exact completeCredentials_written valid
  refine .commandBind stage ?_
  have passive : Stage old next (trace ++ [Cmd.activate false]) (exec (.activate false)
      (world.withState (Credentials.publishing old next credentialNames) ("committed" ++ "\n"))) :=
    (stage.snoc (by simp) (by simp)).of_eq rfl rfl
  refine (removeTransaction_holds order passive (.inr published.all) rfl).mono
    (fun _ _ holds => holds) ?_
  rintro result trace after - ⟨ends, clears⟩
  exact ⟨fun ok => ⟨(ends ok).1, (ends ok).2.trans published.all⟩, clears⟩

end

end Credentials

end HarborGate
