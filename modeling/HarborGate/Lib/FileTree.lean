import Mathlib.Data.List.Nodup
import Mathlib.Data.List.Induction

/-!
File trees below one folder, the texts of paths, and the calls that follow, add and remove. The
operating system itself refuses nothing here.
-/

/-! ## Texts of paths -/

namespace FileTree

inductive Component
  | rootDir
  | curDir
  | parentDir
  | normal (name : String)
deriving DecidableEq, Repr

/-- Paths are compared and hashed by their components. -/
abbrev Path := List Component

def Component.name? : Component → Option String
  | .normal name => some name
  | _ => none

def component (part : List Char) : Option Component :=
  if part = [] ∨ part = ['.'] then none
  else if part = ['.', '.'] then some .parentDir
  else some (.normal (String.ofList part))

/-- `Path::components`. -/
def components (text : String) : Path :=
  let parts := text.toList.splitOn '/'
  let named := parts.filterMap component
  if text.toList.head? = some '/' then .rootDir :: named
  else if parts.head? = some ['.'] then .curDir :: named
  else named

/-- `Path::parent`. -/
def parent (path : Path) : Option Path :=
  match path.getLast? with
  | none | some .rootDir => none
  | some _ => some path.dropLast

/-- `Path::join` for a relative path. -/
def join (base name : String) : String :=
  if base = "" ∨ base.toList.getLast? = some '/' then base ++ name else base ++ "/" ++ name

/-- A name that stands for itself. -/
structure PlainName (name : String) : Prop where
  filled : name ≠ ""
  single : '/' ∉ name.toList
  self : name ≠ "."
  above : name ≠ ".."

theorem PlainName.component {name : String} (plain : PlainName name) :
    component name.toList = some (.normal name) := by
  have filled : name.toList ≠ [] := by
    intro empty
    exact plain.filled (String.toList_inj.mp empty)
  have self : name.toList ≠ ['.'] := by
    intro same
    exact plain.self (String.toList_inj.mp same)
  have above : name.toList ≠ ['.', '.'] := by
    intro same
    exact plain.above (String.toList_inj.mp same)
  simp [FileTree.component, filled, self, above]

theorem head?_splitOn_append (before after : List Char) :
    ((before ++ '/' :: after).splitOn '/').head? = (before.splitOn '/').head? := by
  rw [List.splitOn_append_cons_self]
  have filled := List.splitOn_ne_nil '/' before
  cases parts : before.splitOn '/' with
  | nil => exact absurd parts filled
  | cons part rest => rfl

theorem components_join {base name : String} (filled : base ≠ "") (plain : PlainName name) :
    components (join base name) = components base ++ [Component.normal name] := by
  have last : ([name.toList].filterMap component) = [.normal name] := by
    simp [plain.component]
  have alone : name.toList.splitOn '/' = [name.toList] := List.splitOn_eq_singleton plain.single
  have some_head : base.toList ≠ [] := by
    intro empty
    exact filled (String.toList_inj.mp empty)
  by_cases ended : base.toList.getLast? = some '/'
  · obtain ⟨before, shape⟩ : ∃ before, base.toList = before ++ ['/'] :=
      List.getLast?_eq_some_iff.mp ended
    have joined : (join base name).toList = before ++ '/' :: name.toList := by
      simp [join, shape]
    have heads : (before ++ '/' :: name.toList).head? = (before ++ ['/']).head? := by
      cases before <;> rfl
    have parts : ((before ++ ['/']).splitOn '/').filterMap component =
        (before.splitOn '/').filterMap component := by
      rw [List.splitOn_append_cons_self, List.filterMap_append]
      simp [component]
    simp only [components, joined, shape, heads, head?_splitOn_append, parts]
    rw [List.splitOn_append_cons_self, alone, List.filterMap_append, last]
    split
    · rfl
    · split <;> rfl
  · have joined : (join base name).toList = base.toList ++ '/' :: name.toList := by
      simp [join, ended, filled]
    have heads : (base.toList ++ '/' :: name.toList).head? = base.toList.head? := by
      cases chars : base.toList with
      | nil => exact absurd chars some_head
      | cons => rfl
    simp only [components, joined, heads, head?_splitOn_append]
    rw [List.splitOn_append_cons_self, alone, List.filterMap_append, last]
    split
    · rfl
    · split <;> rfl

/-! ## Trees -/

/-- Where something lies below the folder of the tree. -/
abbrev Place := List String

inductive ErrorKind
  | notFound
  | permissionDenied
  | notADirectory
  | isADirectory
  | directoryNotEmpty
  | alreadyExists
deriving DecidableEq, Repr

/-- A symbolic link is kept with what following it comes to: a folder of the tree, or an error. -/
inductive Node
  | file
  | folder
  | link (target : Except ErrorKind Place)
deriving DecidableEq

end FileTree

open FileTree in
/-- The entries in the order in which they are listed; each lies in a folder. -/
structure FileTree where
  entries : List (Place × Node)
  distinct : (entries.map Prod.fst).Nodup
  rooted : ∀ entry ∈ entries, entry.1 ≠ [] ∧
    (entry.1.dropLast = [] ∨ (entry.1.dropLast, Node.folder) ∈ entries)

namespace FileTree

variable {tree : FileTree} {place other : Place} {kind : Node}

def node (tree : FileTree) (place : Place) : Option Node :=
  tree.entries.lookup place

def isFolder (tree : FileTree) (place : Place) : Bool :=
  place = [] || tree.node place = some .folder

theorem lookup_eq_some {entries : List (Place × Node)} (distinct : (entries.map Prod.fst).Nodup) :
    entries.lookup place = some kind ↔ (place, kind) ∈ entries := by
  induction entries with
  | nil => simp
  | cons entry rest ih =>
      obtain ⟨first, found⟩ := entry
      rw [List.map_cons, List.nodup_cons] at distinct
      by_cases same : place = first
      · subst same
        have absent : (place, kind) ∉ rest := fun member =>
          distinct.1 (List.mem_map.mpr ⟨_, member, rfl⟩)
        simp [absent, eq_comm]
      · have different : (place == first) = false := by simpa using same
        simp [List.lookup_cons, different, ih distinct.2, same]

theorem node_eq_some : tree.node place = some kind ↔ (place, kind) ∈ tree.entries :=
  lookup_eq_some tree.distinct

theorem node_eq_none : tree.node place = none ↔ ∀ kind, (place, kind) ∉ tree.entries := by
  rw [Option.eq_none_iff_forall_ne_some]
  exact forall_congr' fun kind => not_congr node_eq_some

theorem node_nil : tree.node [] = none :=
  node_eq_none.mpr fun _ member => (tree.rooted _ member).1 rfl

/-- What lies below a folder of the tree lies below folders of the tree. -/
theorem node_lead {lead : Place} (found : tree.node place = some kind) (below : lead <+: place)
    (filled : lead ≠ []) (proper : lead ≠ place) : tree.node lead = some .folder := by
  induction place using List.reverseRecOn generalizing kind with
  | nil => exact absurd (List.prefix_nil.mp below) filled
  | append_singleton folder name ih =>
      have inside := (tree.rooted _ (node_eq_some.mp found)).2
      rw [List.dropLast_concat] at inside
      have shorter : lead <+: folder := (List.prefix_concat_iff.mp below).resolve_left proper
      have parent : tree.node folder = some .folder := by
        rcases inside with empty | member
        · subst empty
          exact absurd (List.prefix_nil.mp shorter) filled
        · exact node_eq_some.mpr member
      by_cases same : lead = folder
      · rw [same]
        exact parent
      · exact ih parent shorter same

/-! ## Removing and adding -/

/-- The names in a folder. -/
def children (tree : FileTree) (folder : Place) : List String :=
  tree.entries.filterMap fun entry =>
    if entry.1.dropLast = folder then entry.1.getLast? else none

def isEmptyFolder (tree : FileTree) (folder : Place) : Bool :=
  tree.entries.all fun entry => entry.1.dropLast ≠ folder

theorem rooted_filter (free : tree.isEmptyFolder place = true) :
    ∀ entry ∈ tree.entries.filter (·.1 ≠ place), entry.1 ≠ [] ∧
      (entry.1.dropLast = [] ∨
        (entry.1.dropLast, Node.folder) ∈ tree.entries.filter (·.1 ≠ place)) := by
  intro entry kept
  have member := (List.mem_filter.mp kept).1
  refine ⟨(tree.rooted entry member).1, ?_⟩
  have elsewhere : entry.1.dropLast ≠ place := by
    simpa using List.all_eq_true.mp free entry member
  rcases (tree.rooted entry member).2 with empty | inside
  · exact .inl empty
  · exact .inr (List.mem_filter.mpr ⟨inside, by simpa using elsewhere⟩)

/-- A folder with something in it stays. -/
def erase (tree : FileTree) (place : Place) : FileTree :=
  if free : tree.isEmptyFolder place = true then
    { entries := tree.entries.filter (·.1 ≠ place)
      distinct := tree.distinct.sublist (List.Sublist.map _ List.filter_sublist)
      rooted := rooted_filter free }
  else tree

theorem node_erase (free : tree.isEmptyFolder place = true) :
    (tree.erase place).node other = if other = place then none else tree.node other := by
  ext kind
  rw [node_eq_some]
  simp only [erase, dif_pos free, List.mem_filter]
  by_cases same : other = place
  · simp [same]
  · simp [same, node_eq_some]

theorem node_erase_of_ne (different : other ≠ place) :
    (tree.erase place).node other = tree.node other := by
  by_cases free : tree.isEmptyFolder place = true
  · rw [node_erase free, if_neg different]
  · rw [erase, dif_neg free]

theorem isEmptyFolder_of_node (found : tree.node place = some kind) (leaf : kind ≠ .folder) :
    tree.isEmptyFolder place = true := by
  rw [isEmptyFolder, List.all_eq_true]
  intro entry member
  rw [decide_eq_true_eq]
  intro inside
  rcases (tree.rooted entry member).2 with empty | folder
  · rw [← inside, empty, node_nil] at found
    simp at found
  · rw [inside] at folder
    rw [node_eq_some.mpr folder] at found
    exact leaf (Option.some.inj found).symm

theorem rooted_cons (filled : place ≠ []) (inside : tree.isFolder place.dropLast = true) :
    ∀ entry ∈ (place, kind) :: tree.entries, entry.1 ≠ [] ∧
      (entry.1.dropLast = [] ∨ (entry.1.dropLast, Node.folder) ∈ (place, kind) :: tree.entries) := by
  intro entry member
  rcases List.mem_cons.mp member with rfl | old
  · refine ⟨filled, ?_⟩
    simp only [isFolder, Bool.or_eq_true, decide_eq_true_eq] at inside
    rcases inside with empty | found
    · exact .inl empty
    · exact .inr (List.mem_cons_of_mem _ (node_eq_some.mp found))
  · refine ⟨(tree.rooted entry old).1, ?_⟩
    rcases (tree.rooted entry old).2 with empty | found
    · exact .inl empty
    · exact .inr (List.mem_cons_of_mem _ found)

theorem distinct_cons (absent : tree.node place = none) :
    (((place, kind) :: tree.entries).map Prod.fst).Nodup := by
  rw [List.map_cons, List.nodup_cons]
  refine ⟨?_, tree.distinct⟩
  intro member
  obtain ⟨⟨_, found⟩, listed, rfl⟩ := List.mem_map.mp member
  exact node_eq_none.mp absent found listed

/-- Something new, where nothing is yet. -/
def put (tree : FileTree) (place : Place) (kind : Node) : FileTree :=
  if fits : place ≠ [] ∧ tree.isFolder place.dropLast = true ∧ tree.node place = none then
    { entries := (place, kind) :: tree.entries
      distinct := distinct_cons fits.2.2
      rooted := rooted_cons fits.1 fits.2.1 }
  else tree

theorem node_put (filled : place ≠ []) (inside : tree.isFolder place.dropLast = true)
    (absent : tree.node place = none) :
    (tree.put place kind).node other = if other = place then some kind else tree.node other := by
  rw [put, dif_pos ⟨filled, inside, absent⟩, node, List.lookup_cons]
  by_cases same : other = place
  · simp [same]
  · have different : (other == place) = false := by simpa using same
    simp [different, same, node]

/-! ## The calls -/

/-- The folder that the directories of a path lead to, links followed. -/
def walk (tree : FileTree) : Place → Place → Except ErrorKind Place
  | folder, [] => .ok folder
  | folder, name :: rest =>
      match tree.node (folder ++ [name]) with
      | none => .error .notFound
      | some .file => .error .notADirectory
      | some .folder => tree.walk (folder ++ [name]) rest
      | some (.link (.ok target)) => tree.walk target rest
      | some (.link (.error kind)) => .error kind

/-- Where the entry lies that a path names; a link at its end is not followed. -/
def locate (tree : FileTree) (place : Place) : Except ErrorKind Place :=
  (tree.walk [] place.dropLast).map (· ++ place.getLast?.toList)

def unlink (tree : FileTree) (place : Place) : Except ErrorKind FileTree :=
  (tree.locate place).bind fun found =>
    match tree.node found with
    | none => .error .notFound
    | some .folder => .error .isADirectory
    | some _ => .ok (tree.erase found)

def rmdir (tree : FileTree) (place : Place) : Except ErrorKind FileTree :=
  (tree.locate place).bind fun found =>
    match tree.node found with
    | none => .error .notFound
    | some .folder =>
        if tree.isEmptyFolder found then .ok (tree.erase found) else .error .directoryNotEmpty
    | some _ => .error .notADirectory

/-- `mkdir` and the exclusive creation of a file. -/
def create (kind : Node) (tree : FileTree) (place : Place) : Except ErrorKind FileTree :=
  (tree.locate place).bind fun found =>
    match tree.node found with
    | some _ => .error .alreadyExists
    | none =>
        if tree.isFolder found.dropLast then .ok (tree.put found kind) else .error .notFound

/-! ## Ways over folders -/

theorem walk_folders {folder rest : Place}
    (folders : ∀ lead, lead ≠ [] → lead <+: rest → tree.node (folder ++ lead) = some .folder) :
    tree.walk folder rest = .ok (folder ++ rest) := by
  induction rest generalizing folder with
  | nil => simp [walk]
  | cons name rest ih =>
      have first := folders [name] (by simp) (by simp)
      rw [walk, first]
      have later : tree.walk (folder ++ [name]) rest = .ok (folder ++ [name] ++ rest) :=
        ih fun lead filled below => by
          rw [List.append_assoc, List.singleton_append]
          exact folders (name :: lead) (by simp) (List.cons_prefix_cons.mpr ⟨rfl, below⟩)
      simpa using later

theorem dropLast_getLast? (place : Place) : place.dropLast ++ place.getLast?.toList = place := by
  induction place using List.reverseRecOn with
  | nil => rfl
  | append_singleton folder name _ => simp

theorem ne_of_above {lead : Place} (above : lead <+: place.dropLast) (filled : lead ≠ []) :
    lead ≠ place := by
  rintro rfl
  have shorter := above.length_le
  have long := List.length_pos_iff.mpr filled
  rw [List.length_dropLast] at shorter
  omega

/-- What is in the tree is found under its own name. -/
theorem locate_of_node (found : tree.node place = some kind) : tree.locate place = .ok place := by
  have folders : tree.walk [] place.dropLast = .ok ([] ++ place.dropLast) := by
    refine walk_folders fun lead filled above => ?_
    rw [List.nil_append]
    exact node_lead found (above.trans (List.dropLast_prefix place)) filled (ne_of_above above filled)
  rw [locate, folders, List.nil_append]
  simp [Except.map, dropLast_getLast?]

/-- No symbolic link stands on the way. -/
def Direct (tree : FileTree) (place : Place) : Prop :=
  ∀ lead, lead <+: place → ∀ target, tree.node lead ≠ some (.link target)

/-- What is in the tree has no link and no file above it. -/
theorem direct_of_node (found : tree.node place = some kind) (plain : ∀ target, kind ≠ .link target) :
    tree.Direct place := by
  intro lead below target linked
  by_cases filled : lead = []
  · rw [filled, node_nil] at linked
    simp at linked
  · by_cases same : lead = place
    · rw [same, found] at linked
      exact plain target (Option.some.inj linked)
    · rw [node_lead found below filled same] at linked
      simp at linked

theorem walk_blocked {folder rest lead : Place}
    (below : lead <+: rest) (filled : lead ≠ []) (file : tree.node (folder ++ lead) = some .file) :
    tree.walk folder rest = .error .notADirectory := by
  induction rest generalizing folder lead with
  | nil => exact absurd (List.prefix_nil.mp below) filled
  | cons name rest ih =>
      cases lead with
      | nil => exact absurd rfl filled
      | cons first more =>
          obtain ⟨rfl, further⟩ := List.cons_prefix_cons.mp below
          by_cases done : more = []
          · subst done
            rw [walk, file]
          · have inside : tree.node (folder ++ [first]) = some .folder :=
              node_lead file (by simp) (by simp) (by simpa using done)
            rw [walk, inside]
            exact ih further done (by simpa using file)

theorem walk_open {folder rest : Place}
    (direct : ∀ lead, lead <+: rest → ∀ target, tree.node (folder ++ lead) ≠ some (.link target))
    (clear : ∀ lead, lead <+: rest → lead ≠ [] → tree.node (folder ++ lead) ≠ some .file) :
    tree.walk folder rest = .ok (folder ++ rest) ∨ tree.walk folder rest = .error .notFound := by
  induction rest generalizing folder with
  | nil => simp [walk]
  | cons name rest ih =>
      have single : [name] <+: name :: rest := by simp
      rw [walk]
      cases first : tree.node (folder ++ [name]) with
      | none => exact .inr rfl
      | some kind =>
          cases kind with
          | file => exact absurd first (clear [name] single (by simp))
          | link target => exact absurd first (direct [name] single target)
          | folder =>
              have later : tree.walk (folder ++ [name]) rest = .ok (folder ++ [name] ++ rest) ∨
                  tree.walk (folder ++ [name]) rest = .error .notFound :=
                ih
                  (fun lead below target => by
                    simpa using direct (name :: lead) (List.cons_prefix_cons.mpr ⟨rfl, below⟩) target)
                  (fun lead below _ => by
                    simpa using clear (name :: lead) (List.cons_prefix_cons.mpr ⟨rfl, below⟩)
                      (by simp))
              simpa using later

/-- A file stands where the way needs a folder. -/
def Blocked (tree : FileTree) (place : Place) : Prop :=
  ∃ lead, lead <+: place.dropLast ∧ tree.node lead = some .file

theorem not_blocked_of_node (found : tree.node place = some kind) : ¬tree.Blocked place := by
  intro blocked
  obtain ⟨lead, above, file⟩ := blocked
  have filled : lead ≠ [] := by
    rintro rfl
    rw [node_nil] at file
    simp at file
  rw [node_lead found (above.trans (List.dropLast_prefix place)) filled
    (ne_of_above above filled)] at file
  simp at file

theorem locate_blocked (blocked : tree.Blocked place) :
    tree.locate place = .error .notADirectory := by
  obtain ⟨lead, below, file⟩ := blocked
  have filled : lead ≠ [] := by
    rintro rfl
    rw [node_nil] at file
    simp at file
  rw [locate, walk_blocked below filled (by simpa using file)]
  rfl

theorem locate_open (direct : tree.Direct place) (clear : ¬tree.Blocked place) :
    tree.locate place = .ok place ∨
      (tree.locate place = .error .notFound ∧ tree.node place = none) := by
  have way : tree.walk [] place.dropLast = .ok ([] ++ place.dropLast) ∨
      tree.walk [] place.dropLast = .error .notFound := walk_open
    (fun lead below target => by
      simpa using direct lead (below.trans (List.dropLast_prefix place)) target)
    (fun lead below _ file => clear ⟨lead, below, by simpa using file⟩)
  rcases way with led | missing
  · refine .inl ?_
    rw [locate, led, List.nil_append]
    simp [Except.map, dropLast_getLast?]
  · refine .inr ⟨by rw [locate, missing]; rfl, ?_⟩
    cases found : tree.node place with
    | none => rfl
    | some kind =>
        have led := locate_of_node found
        rw [locate, missing] at led
        simp [Except.map] at led

/-! ## What removing leaves -/

/-- Only removals lie between the two. -/
def Shrinks (before after : FileTree) : Prop :=
  ∀ place, after.node place = before.node place ∨ after.node place = none

namespace Shrinks

variable {before middle after : FileTree}

theorem refl (tree : FileTree) : Shrinks tree tree :=
  fun _ => .inl rfl

theorem trans (left : Shrinks before middle) (right : Shrinks middle after) :
    Shrinks before after := by
  intro place
  rcases right place with same | gone
  · rw [same]
    exact left place
  · exact .inr gone

theorem erase (tree : FileTree) (place : Place) : Shrinks tree (tree.erase place) := by
  intro other
  by_cases same : other = place
  · subst same
    by_cases free : tree.isEmptyFolder other = true
    · exact .inr (by rw [node_erase free, if_pos rfl])
    · exact .inl (by rw [FileTree.erase, dif_neg free])
  · exact .inl (node_erase_of_ne same)

theorem some (shrinks : Shrinks before after) (found : after.node place = .some kind) :
    before.node place = .some kind := by
  rcases shrinks place with same | gone
  · rw [← same]
    exact found
  · rw [gone] at found
    simp at found

theorem walk (shrinks : Shrinks before after) {folder rest target : Place}
    (led : after.walk folder rest = .ok target) : before.walk folder rest = .ok target := by
  induction rest generalizing folder with
  | nil => exact led
  | cons name rest ih =>
      rw [FileTree.walk] at led ⊢
      rcases shrinks (folder ++ [name]) with same | gone
      · rw [same] at led
        cases found : before.node (folder ++ [name]) with
        | none => simp [found] at led
        | some kind =>
            rw [found] at led
            cases kind with
            | file => simp at led
            | folder => exact ih led
            | link target =>
                cases target with
                | ok place => exact ih led
                | error kind => simp at led
      · simp [gone] at led

theorem locate (shrinks : Shrinks before after) (led : after.locate place = .ok other) :
    before.locate place = .ok other := by
  rw [FileTree.locate] at led ⊢
  cases way : after.walk [] place.dropLast with
  | error kind =>
      rw [way] at led
      simp [Except.map] at led
  | ok folder =>
      rw [way] at led
      rw [shrinks.walk way]
      exact led

end Shrinks

theorem Direct.shrinks {before after : FileTree} (direct : before.Direct place)
    (shrinks : Shrinks before after) : after.Direct place :=
  fun lead below target found => direct lead below target (shrinks.some found)

theorem Blocked.grows {before after : FileTree} (blocked : after.Blocked place)
    (shrinks : Shrinks before after) : before.Blocked place := by
  obtain ⟨lead, below, file⟩ := blocked
  exact ⟨lead, below, shrinks.some file⟩

/-! ## What the calls come to -/

theorem unlink_eq_ok {after : FileTree} (done : tree.unlink place = .ok after) :
    ∃ found kind, tree.locate place = .ok found ∧ tree.node found = some kind ∧
      kind ≠ .folder ∧ after = tree.erase found := by
  rw [unlink] at done
  cases led : tree.locate place with
  | error kind => simp [led, Except.bind] at done
  | ok found =>
      simp only [led, Except.bind] at done
      cases kept : tree.node found with
      | none => simp [kept] at done
      | some kind =>
          rw [kept] at done
          refine ⟨found, kind, rfl, kept, ?_⟩
          cases kind with
          | folder => simp at done
          | file => simpa [eq_comm] using done
          | link target => simpa [eq_comm] using done

theorem rmdir_eq_ok {after : FileTree} (done : tree.rmdir place = .ok after) :
    ∃ found, tree.locate place = .ok found ∧ tree.node found = some .folder ∧
      tree.isEmptyFolder found = true ∧ after = tree.erase found := by
  rw [rmdir] at done
  cases led : tree.locate place with
  | error kind => simp [led, Except.bind] at done
  | ok found =>
      simp only [led, Except.bind] at done
      cases kept : tree.node found with
      | none => simp [kept] at done
      | some kind =>
          cases kind with
          | folder =>
              simp only [kept] at done
              split at done
              · rename_i empty
                exact ⟨found, rfl, kept, empty, (Except.ok.inj done).symm⟩
              · simp at done
          | file => simp [kept] at done
          | link target => simp [kept] at done

/-- Removing a file whose way is clear. -/
theorem unlink_open (direct : tree.Direct place) (clear : ¬tree.Blocked place)
    (leaf : tree.node place ≠ some .folder) :
    (tree.unlink place = .ok (tree.erase place) ∧ tree.isEmptyFolder place = true) ∨
      (tree.unlink place = .error .notFound ∧ tree.node place = none) := by
  rcases locate_open direct clear with led | ⟨missing, none⟩
  · cases found : tree.node place with
    | none => exact .inr ⟨by simp [unlink, led, Except.bind, found], rfl⟩
    | some kind =>
        have other : kind ≠ .folder := fun same => leaf (same ▸ found)
        refine .inl ⟨?_, isEmptyFolder_of_node found other⟩
        cases kind with
        | folder => exact absurd rfl other
        | file => simp [unlink, led, Except.bind, found]
        | link target => simp [unlink, led, Except.bind, found]
  · exact .inr ⟨by simp [unlink, missing, Except.bind], none⟩

theorem unlink_blocked (blocked : tree.Blocked place) :
    tree.unlink place = .error .notADirectory := by
  simp [unlink, locate_blocked blocked, Except.bind]

theorem unlink_folder (folder : tree.node place = some .folder) :
    tree.unlink place = .error .isADirectory := by
  simp [unlink, locate_of_node folder, Except.bind, folder]

/-- Something new below a folder of the tree. -/
theorem create_open (folder : tree.isFolder place.dropLast = true) (absent : tree.node place = none) : create kind tree place = .ok (tree.put place kind) := by
  have way : tree.walk [] place.dropLast = .ok ([] ++ place.dropLast) := by
    refine walk_folders fun lead some_name below => ?_
    have inside : tree.node place.dropLast = some .folder := by
      have deep : place.dropLast ≠ [] := by
        intro top
        rw [top] at below
        exact some_name (List.prefix_nil.mp below)
      simpa [isFolder, deep] using folder
    rw [List.nil_append]
    by_cases same : lead = place.dropLast
    · rw [same]
      exact inside
    · exact node_lead inside below some_name same
  have led : tree.locate place = .ok place := by
    rw [locate, way, List.nil_append]
    simp [Except.map, dropLast_getLast?]
  simp [create, led, Except.bind, absent, folder]

/-- Removing a folder: with the way clear it fails only where there is nothing, or something. -/
theorem rmdir_open (direct : tree.Direct place) (clear : ¬tree.Blocked place)
    (other : tree.node place ≠ some .file) :
    tree.rmdir place = .ok (tree.erase place) ∨ tree.rmdir place = .error .notFound ∨
      tree.rmdir place = .error .directoryNotEmpty := by
  rcases locate_open direct clear with led | ⟨missing, -⟩
  · cases found : tree.node place with
    | none => exact .inr (.inl (by simp [rmdir, led, Except.bind, found]))
    | some kind =>
        cases kind with
        | file => exact absurd found other
        | link target => exact absurd found (direct place List.prefix_rfl target)
        | folder =>
            by_cases free : tree.isEmptyFolder place = true
            · exact .inl (by simp [rmdir, led, Except.bind, found, free])
            · exact .inr (.inr (by simp [rmdir, led, Except.bind, found, free]))
  · exact .inr (.inl (by simp [rmdir, missing, Except.bind]))

end FileTree
