import HarborGate.Gateway.CacheCleaning

/-!
The removal of the files that the reconciled ledger lets go: which lists of paths it gets through,
and that it then leaves none of the listed files.
-/

namespace HarborGate

namespace AttachmentCache

open FileTree

variable {root : Path} {cache : FileTree} {place : Place}

/-! ## Paths below the root -/

theorem pathOf_injective : Function.Injective (pathOf root) := by
  intro left right same
  have names : left.map Component.normal = right.map Component.normal := List.append_cancel_left same
  exact List.map_injective_iff.mpr (fun _ _ equal => Component.normal.inj equal) names

theorem relativePath_pathOf (filled : place ≠ []) :
    relativePath root (pathOf root place) = some place :=
  relativePath_eq_some.mpr ⟨filled, rfl⟩

theorem relativePath_root : relativePath root (pathOf root []) = none := by
  cases named : relativePath root (pathOf root []) with
  | none => rfl
  | some place =>
      obtain ⟨filled, same⟩ := relativePath_eq_some.mp named
      exact absurd (pathOf_injective same).symm filled

theorem parent_pathOf (filled : place ≠ []) :
    parent (pathOf root place) = some (pathOf root place.dropLast) := by
  obtain ⟨folder, name, rfl⟩ : ∃ folder name, place = folder ++ [name] :=
    ⟨_, _, (List.dropLast_append_getLast filled).symm⟩
  simp [parent, pathOf, ← List.append_assoc]

/-! ## The files -/

/-- What lets the removal of a file pass, when those in `before` have had their turn. -/
structure Passable (cache : FileTree) (before : List Place) (place : Place) : Prop where
  notFolder : cache.node place ≠ some .folder
  unblocked : ∀ lead, lead <+: place.dropLast → cache.node lead = some .file → lead ∈ before

def AllPassable (cache : FileTree) (places : List Place) : Prop :=
  ∀ before place rest, places = before ++ place :: rest → Passable cache before place

/-- The cache after the turn of one path: what it names is gone. -/
def Without (cache : FileTree) (place : Place) (after : FileTree) : Prop :=
  ∀ other, after.node other = if other = place then none else cache.node other

theorem Without.shrinks {after : FileTree} (without : Without cache place after) :
    Shrinks cache after := by
  intro other
  rw [without other]
  split
  · exact .inr rfl
  · exact .inl rfl

theorem without_erase (free : cache.isEmptyFolder place = true) :
    Without cache place (cache.erase place) :=
  fun _ => node_erase free

theorem without_self (absent : cache.node place = none) : Without cache place cache := by
  intro other
  split
  · rename_i same
    rw [same, absent]
  · rfl

theorem Without.allPassable {after : FileTree} {rest : List Place}
    (without : Without cache place after) (first : Passable cache [] place) :
    AllPassable after rest ↔ AllPassable cache (place :: rest) := by
  constructor
  · intro later before other behind same
    cases before with
    | nil =>
        obtain ⟨rfl, -⟩ := List.cons.inj same
        exact first
    | cons head before =>
        obtain ⟨rfl, split⟩ := List.cons.inj same
        have passable := later before other behind split
        constructor
        · intro folder
          by_cases equal : other = place
          · exact first.notFolder (equal ▸ folder)
          · exact passable.notFolder (by rw [without other, if_neg equal, folder])
        · intro lead below file
          by_cases equal : lead = place
          · exact equal ▸ List.mem_cons_self
          · exact List.mem_cons_of_mem _
              (passable.unblocked lead below (by rw [without lead, if_neg equal, file]))
  · intro all before other behind split
    have passable := all (place :: before) other behind (by rw [split]; rfl)
    constructor
    · exact fun folder => passable.notFolder (without.shrinks.some folder)
    · intro lead below file
      have kept := without.shrinks.some file
      rcases List.mem_cons.mp (passable.unblocked lead below kept) with equal | member
      · rw [equal, without place, if_pos rfl] at file
        simp at file
      · exact member

/-- The turn of one file. -/
theorem removeFile_turn (root : Path) (filled : place ≠ []) (direct : cache.Direct place) :
    (Passable cache [] place ∧ ∃ after, Without cache place after ∧
      (removeFile root cache (pathOf root place) = .ok after ∨
        (removeFile root cache (pathOf root place) = .error .notFound ∧ after = cache))) ∨
    (¬Passable cache [] place ∧ ∃ kind, removeFile root cache (pathOf root place) = .error kind ∧
      missing kind = false) := by
  have named : removeFile root cache (pathOf root place) = cache.unlink place := by
    rw [removeFile, within, relativePath_pathOf filled]
  rw [named]
  by_cases blocked : cache.Blocked place
  · refine .inr ⟨?_, _, unlink_blocked blocked, rfl⟩
    intro passable
    obtain ⟨lead, below, file⟩ := blocked
    simpa using passable.unblocked lead below file
  · by_cases folder : cache.node place = some .folder
    · exact .inr ⟨fun passable => passable.notFolder folder, _, unlink_folder folder, rfl⟩
    · have passable : Passable cache [] place :=
        ⟨folder, fun lead below file => absurd ⟨lead, below, file⟩ blocked⟩
      refine .inl ⟨passable, ?_⟩
      rcases unlink_open direct blocked folder with ⟨done, free⟩ | ⟨absent, none⟩
      · exact ⟨_, without_erase free, .inl done⟩
      · exact ⟨cache, without_self none, .inr ⟨absent, rfl⟩⟩

/-- The removal of the files gets through exactly the passable lists, and leaves none of them. -/
theorem removeAll_files (root : Path) {places : List Place} (filled : ∀ place ∈ places, place ≠ [])
    (direct : ∀ place ∈ places, cache.Direct place) :
    (AllPassable cache places → ∃ after,
      removeAll (removeFile root) missing (places.map (pathOf root)) cache = (none, after) ∧
      ∀ other, after.node other = if other ∈ places then none else cache.node other) ∧
    ((removeAll (removeFile root) missing (places.map (pathOf root)) cache).1 = none →
      AllPassable cache places) := by
  induction places generalizing cache with
  | nil => exact ⟨fun _ => ⟨cache, rfl, by simp⟩, fun _ before place rest same => by simp at same⟩
  | cons place rest ih =>
      rcases removeFile_turn root (filled place List.mem_cons_self)
        (direct place List.mem_cons_self) with ⟨passable, after, without, turn⟩ | ⟨stuck, kind, failed, stops⟩
      · have continues : removeAll (removeFile root) missing ((place :: rest).map (pathOf root)) cache =
            removeAll (removeFile root) missing (rest.map (pathOf root)) after := by
          rw [List.map_cons, removeAll]
          rcases turn with done | ⟨absent, rfl⟩
          · rw [done]
          · rw [absent]
            rfl
        have restDirect : ∀ other ∈ rest, after.Direct other :=
          fun other member => (direct other (List.mem_cons_of_mem _ member)).shrinks without.shrinks
        obtain ⟨enough, needed⟩ :=
          ih (fun other member => filled other (List.mem_cons_of_mem _ member)) restDirect
        rw [continues]
        constructor
        · intro all
          obtain ⟨last, run, gone⟩ := enough ((without.allPassable passable).mpr all)
          refine ⟨last, run, ?_⟩
          intro other
          rw [gone other, without other]
          by_cases later : other ∈ rest <;> by_cases same : other = place <;> simp [later, same]
        · exact fun run => (without.allPassable passable).mp (needed run)
      · have ends : (removeAll (removeFile root) missing ((place :: rest).map (pathOf root)) cache).1 =
            some kind := by
          rw [List.map_cons, removeAll, failed]
          simp [stops]
        constructor
        · exact fun all => absurd (all [] place rest rfl) stuck
        · intro run
          rw [run] at ends
          simp at ends

/-! ## The folders -/

/-- A removal that gets through its list has met safe paths only. -/
theorem removeAll_within (operate : FileTree → Place → Except ErrorKind FileTree)
    {passes : ErrorKind → Bool} (strict : passes .permissionDenied = false) {paths : List Path}
    (run : (removeAll (fun cache path => within root path (operate cache)) passes paths cache).1 =
      none) :
    ∀ path ∈ paths, ∃ place, place ≠ [] ∧ path = pathOf root place := by
  induction paths generalizing cache with
  | nil => simp
  | cons first rest ih =>
      rw [removeAll] at run
      cases named : relativePath root first with
      | none => simp [within, named, strict] at run
      | some place =>
          have later : ∀ path ∈ rest, ∃ place, place ≠ [] ∧ path = pathOf root place := by
            cases done : within root first (operate cache) with
            | ok after =>
                rw [done] at run
                exact ih run
            | error kind =>
                rw [done] at run
                by_cases let_pass : passes kind = true
                · simp only [let_pass, if_true] at run
                  exact ih run
                · simp [let_pass] at run
          intro path member
          rcases List.mem_cons.mp member with rfl | inRest
          · exact ⟨place, relativePath_eq_some.mp named⟩
          · exact later path inRest

theorem removeAll_folders {directories : List Path}
    (folders : ∀ directory ∈ directories, ∃ place, directory = pathOf root place ∧ place ≠ [] ∧
      cache.Direct place ∧ ¬cache.Blocked place ∧ cache.node place ≠ some .file) :
    (removeAll (removeDir root) missingOrFull directories cache).1 = none ∧
      Shrinks cache (removeAll (removeDir root) missingOrFull directories cache).2 := by
  induction directories generalizing cache with
  | nil => exact ⟨rfl, .refl cache⟩
  | cons directory rest ih =>
      obtain ⟨place, rfl, filled, direct, clear, other⟩ := folders directory List.mem_cons_self
      have named : removeDir root cache (pathOf root place) = cache.rmdir place := by
        rw [removeDir, within, relativePath_pathOf filled]
      have inRest : ∀ directory ∈ rest, ∃ place, directory = pathOf root place ∧ place ≠ [] ∧
          cache.Direct place ∧ ¬cache.Blocked place ∧ cache.node place ≠ some .file :=
        fun directory member => folders directory (List.mem_cons_of_mem _ member)
      rw [removeAll, named]
      rcases rmdir_open direct clear other with done | absent | full
      · rw [done]
        have shrinks := Shrinks.erase cache place
        have open_still : ∀ directory ∈ rest, ∃ inner, directory = pathOf root inner ∧ inner ≠ [] ∧
            (cache.erase place).Direct inner ∧ ¬(cache.erase place).Blocked inner ∧
            (cache.erase place).node inner ≠ some .file := by
          intro directory member
          obtain ⟨inner, same, filled, direct, clear, other⟩ := inRest directory member
          exact ⟨inner, same, filled, direct.shrinks shrinks, fun blocked =>
            clear (blocked.grows shrinks), fun file => other (shrinks.some file)⟩
        have later := ih open_still
        exact ⟨later.1, shrinks.trans later.2⟩
      · rw [absent]
        exact ih inRest
      · rw [full]
        exact ih inRest

/-! ## The whole removal -/

/-- The start goes on, and no listed file below the root is left. -/
structure Cleans (root : Path) (paths directories : List Path) (cache : FileTree) : Prop where
  passes : (removeReconciled root paths directories cache).1 = none
  gone : ∀ place, pathOf root place ∈ paths → cache.node place = some .file →
    (removeReconciled root paths directories cache).2.node place = none

/-- Every path is the root followed by two names or more, none leads to a folder, and none leads
over a file that is not listed before it. -/
def Clear (root : Path) (paths : List Path) (cache : FileTree) : Prop :=
  ∃ places : List Place, paths = places.map (pathOf root) ∧
    (∀ place ∈ places, 2 ≤ place.length) ∧ AllPassable cache places

theorem places_of_paths {paths : List Path}
    (named : ∀ path ∈ paths, ∃ place, place ≠ [] ∧ path = pathOf root place) :
    ∃ places : List Place, paths = places.map (pathOf root) ∧ ∀ place ∈ places, place ≠ [] := by
  induction paths with
  | nil => exact ⟨[], rfl, by simp⟩
  | cons path rest ih =>
      obtain ⟨place, filled, rfl⟩ := named path List.mem_cons_self
      obtain ⟨places, rfl, all⟩ := ih fun path member => named path (List.mem_cons_of_mem _ member)
      exact ⟨place :: places, rfl, List.forall_mem_cons.mpr ⟨filled, all⟩⟩

theorem length_of_dropLast (deep : place.dropLast ≠ []) : 2 ≤ place.length := by
  have long := List.length_pos_iff.mpr deep
  rw [List.length_dropLast] at long
  omega

section
variable {paths directories : List Path}

theorem ParentSet.mem (parents : ParentSet paths directories) {directory : Path} :
    directory ∈ directories ↔ ∃ path ∈ paths, parent path = some directory := by
  rw [parents.mem_iff, List.mem_dedup, List.mem_filterMap]

theorem Clear.cleans (clear : Clear root paths cache) (parents : ParentSet paths directories)
    (direct : ∀ place, pathOf root place ∈ paths → cache.Direct place) :
    Cleans root paths directories cache := by
  obtain ⟨places, rfl, deep, passable⟩ := clear
  have filled : ∀ place ∈ places, place ≠ [] := by
    rintro place member rfl
    have long := deep [] member
    simp at long
  have listed : ∀ place ∈ places, cache.Direct place :=
    fun place member => direct place (List.mem_map_of_mem member)
  obtain ⟨after, run, gone⟩ := (removeAll_files root filled listed).1 passable
  have shrinks : Shrinks cache after := by
    intro place
    rw [gone place]
    split
    · exact .inr rfl
    · exact .inl rfl
  have free : ∀ place ∈ places, ∀ lead, lead <+: place.dropLast → after.node lead ≠ some .file := by
    intro place member lead below file
    obtain ⟨before, rest, split⟩ := List.append_of_mem member
    have early := (passable before place rest split).unblocked lead below (shrinks.some file)
    have inAll : lead ∈ places := by
      rw [split]
      exact List.mem_append_left _ early
    rw [gone lead, if_pos inAll] at file
    simp at file
  have folders : (removeAll (removeDir root) missingOrFull directories after).1 = none ∧
      Shrinks after (removeAll (removeDir root) missingOrFull directories after).2 :=
    removeAll_folders fun directory member => by
      obtain ⟨path, inPaths, above⟩ := parents.mem.mp member
      obtain ⟨place, inPlaces, rfl⟩ := List.mem_map.mp inPaths
      rw [parent_pathOf (filled place inPlaces)] at above
      refine ⟨place.dropLast, (Option.some.inj above).symm, ?_, ?_, ?_, ?_⟩
      · intro empty
        have long := deep place inPlaces
        have short := congrArg List.length empty
        rw [List.length_dropLast, List.length_nil] at short
        omega
      · exact fun lead below target found =>
          listed place inPlaces lead (below.trans (List.dropLast_prefix place)) target
            (shrinks.some found)
      · rintro ⟨lead, below, file⟩
        exact free place inPlaces lead (below.trans (List.dropLast_prefix _)) file
      · exact free place inPlaces _ List.prefix_rfl
  have whole : removeReconciled root (places.map (pathOf root)) directories cache =
      removeAll (removeDir root) missingOrFull directories after := by
    rw [removeReconciled, run]
  constructor
  · rw [whole]
    exact folders.1
  · intro place member _
    rw [whole]
    obtain ⟨same, inPlaces, equal⟩ := List.mem_map.mp member
    obtain rfl := pathOf_injective equal
    have absent : after.node same = none := by rw [gone same, if_pos inPlaces]
    rcases folders.2 same with kept | none
    · rw [kept, absent]
    · exact none

theorem Cleans.clear (cleans : Cleans root paths directories cache)
    (parents : ParentSet paths directories)
    (direct : ∀ place, pathOf root place ∈ paths → cache.Direct place) : Clear root paths cache := by
  have passes := cleans.passes
  rw [removeReconciled] at passes
  cases run : removeAll (removeFile root) missing paths cache with
  | mk failure after =>
      rw [run] at passes
      cases failure with
      | some kind => simp at passes
      | none =>
          have files : (removeAll (removeFile root) missing paths cache).1 = none := by rw [run]
          obtain ⟨places, rfl, filled⟩ := places_of_paths
            (removeAll_within FileTree.unlink rfl files)
          refine ⟨places, rfl, ?_, ?_⟩
          · intro place member
            have inSet : pathOf root place.dropLast ∈ directories :=
              parents.mem.mpr ⟨_, List.mem_map_of_mem member, parent_pathOf (filled place member)⟩
            obtain ⟨other, deep, same⟩ :=
              removeAll_within FileTree.rmdir rfl passes _ inSet
            rw [← pathOf_injective same] at deep
            exact length_of_dropLast deep
          · exact (removeAll_files root filled fun place member =>
              direct place (List.mem_map_of_mem member)).2 files

end

end AttachmentCache

open AttachmentCache FileTree

/-- The start gets through the paths that the ledger lets go, and leaves none of the listed files,
exactly when all of them are clear. -/
theorem start_clears_listed_files_iff (records : Ledger) (now : Time) (ttl : Int) (root : Path)
    (directories : List Path) (cache : FileTree)
    (parents : ParentSet ((reconcileDeliveryCache now ttl records).1.deletePaths.map components)
      directories)
    (direct : ∀ place, pathOf root place ∈
      (reconcileDeliveryCache now ttl records).1.deletePaths.map components → cache.Direct place) :
    Cleans root ((reconcileDeliveryCache now ttl records).1.deletePaths.map components) directories
        cache ↔
      Clear root ((reconcileDeliveryCache now ttl records).1.deletePaths.map components) cache :=
  ⟨fun cleans => cleans.clear parents direct, fun clear => clear.cleans parents direct⟩

/-- A path that Beacon named comes first; a file of the cache comes after it. -/
def foreignFirst : Ledger :=
  cachedLedger [cachedItem "a" false "/tmp/outside.jpg" (.at 0),
    cachedItem "b" false "/gate/attachment-cache/turn/a.jpg" (.at 0)]

/-- The path outside ends the start, and the file of the cache stays while the ledger has let it go. -/
theorem foreign_path_stops_cleaning :
    (reconcileDeliveryCache 0 oneDay foreignFirst).1.deletePaths =
      ["/tmp/outside.jpg", "/gate/attachment-cache/turn/a.jpg"] ∧
    ∀ directories,
      ParentSet ((reconcileDeliveryCache 0 oneDay foreignFirst).1.deletePaths.map components)
        directories →
      (cleanAtStart cacheRoot (reconcileDeliveryCache 0 oneDay foreignFirst).1 directories 0
        (fun _ => none) sharedFolder).1 = some .permissionDenied ∧
      (cleanAtStart cacheRoot (reconcileDeliveryCache 0 oneDay foreignFirst).1 directories 0
        (fun _ => none) sharedFolder).2.node ["turn", "a.jpg"] = some .file ∧
      (reconcileDeliveryCache 0 oneDay
        (reconcileDeliveryCache 0 oneDay foreignFirst).2).1.deletePaths = [] ∧
      ¬Cleans cacheRoot ((reconcileDeliveryCache 0 oneDay foreignFirst).1.deletePaths.map components)
        directories sharedFolder := by
  have listed : (reconcileDeliveryCache 0 oneDay foreignFirst).1.deletePaths =
      ["/tmp/outside.jpg", "/gate/attachment-cache/turn/a.jpg"] := by decide
  refine ⟨listed, fun directories _ => ?_⟩
  have stopped : removeReconciled cacheRoot
      ((reconcileDeliveryCache 0 oneDay foreignFirst).1.deletePaths.map components) directories
      sharedFolder = (some .permissionDenied, sharedFolder) := by
    rw [listed]
    rfl
  refine ⟨?_, ?_, by decide, fun cleans => ?_⟩
  · rw [cleanAtStart, stopped]
  · rw [cleanAtStart, stopped]
    decide
  · have passes := cleans.passes
    rw [stopped] at passes
    simp at passes

theorem own_files_are_cleared :
    Cleans cacheRoot ((reconcileDeliveryCache 0 oneDay finishedBeside).1.deletePaths.map components)
      [components "/gate/attachment-cache/turn"] sharedFolder := by
  have listed : (reconcileDeliveryCache 0 oneDay finishedBeside).1.deletePaths.map components =
      [pathOf cacheRoot ["turn", "a.jpg"]] := by decide
  have file : sharedFolder.node ["turn", "a.jpg"] = some .file := by decide
  refine (start_clears_listed_files_iff finishedBeside 0 oneDay cacheRoot _ sharedFolder ?_ ?_).mpr ?_
  · rw [listed, ParentSet]
    exact .of_eq (by decide)
  · rw [listed]
    intro place member
    obtain rfl := pathOf_injective (List.mem_singleton.mp member)
    exact direct_of_node file (by simp)
  · refine ⟨[["turn", "a.jpg"]], listed, by simp, ?_⟩
    intro before place rest split
    cases before with
    | nil =>
        obtain ⟨rfl, -⟩ := List.cons.inj split
        exact ⟨by rw [file]; simp, fun lead below found =>
          absurd ⟨lead, below, found⟩ (not_blocked_of_node file)⟩
    | cons first more => simp at split

end HarborGate
