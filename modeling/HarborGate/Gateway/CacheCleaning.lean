import HarborGate.Gateway.AttachmentCache
import HarborGate.Store.LedgerSpec
import HarborGate.Store.Terminal

/-!
The clean-up of the attachment cache at the start of the gateway: `reconcile_delivery_cache` over
the ledger, the removal of the files it lets go, and the sweep of the folders that have expired.
-/

namespace HarborGate

/-! ## The reconciled ledger -/

section
open Std

theorem impl_map_map {α : Type} {β γ δ : α → Type} [Ord α] (f : (a : α) → β a → γ a)
    (g : (a : α) → γ a → δ a) (map : DTreeMap.Internal.Impl α β) :
    (map.map f).map g = map.map fun key value => g key (f key value) := by
  induction map with
  | leaf => rfl
  | inner size key value left right left_ih right_ih =>
      simp only [DTreeMap.Internal.Impl.map, left_ih, right_ih]

theorem treeMap_map_map {α β γ δ : Type} {cmp : α → α → Ordering} (f : α → β → γ) (g : α → γ → δ)
    (map : TreeMap α β cmp) : (map.map f).map g = map.map fun key value => g key (f key value) := by
  obtain ⟨⟨inner, _⟩⟩ := map
  simp only [TreeMap.map, DTreeMap.map, impl_map_map]

end

/-- What keeps a cached file for the delivery of its item. -/
def LedgerItem.retains (now : Time) (ttl : Int) (item : LedgerItem) : Bool :=
  item.status ∈ [.pending, .sending, .failed] && item.retryable ≠ some false &&
    match item.updatedAt with
    | .at updated => decide (now - updated ≤ ttl)
    | .absent | .malformed => true

def Ledger.items (records : Ledger) : List LedgerItem :=
  records.toList.flatMap fun (_, record) => record.items.toList.map Prod.snd

def cachePaths (items : List LedgerItem) : List String :=
  items.filterMap fun item => Text.trimmed item.cachePath

section
variable (now : Time) (ttl : Int) (item : LedgerItem) (records : Ledger)

theorem reconcileItem_blank (blank : Text.trimmed item.cachePath = none) :
    reconcileItem now ttl item = (item, none) := by
  simp [reconcileItem, blank]

/-- A file is kept, or let go with its item, which has expired if its delivery was still wanted. -/
theorem reconcileItem_named {path : String} (named : Text.trimmed item.cachePath = some path) :
    (item.retains now ttl = true ∧ reconcileItem now ttl item =
      (match item.updatedAt with
        | .at _ => item
        | _ => { item with updatedAt := .at now }, some (path, true))) ∨
    (item.retains now ttl = false ∧ (reconcileItem now ttl item).1.cachePath = none ∧
      (reconcileItem now ttl item).2 = some (path, false)) := by
  have statuses : decide (item.status ∈ [.pending, .sending, .failed]) =
      (item.status = .pending || item.status = .sending || item.status = .failed) := by
    simp [Bool.or_assoc]
  have retryable : decide (item.retryable ≠ some false) = item.retryable.getD true := by
    rcases item.retryable with _ | _ | _ <;> rfl
  simp only [reconcileItem, LedgerItem.retains, statuses, retryable, named]
  generalize (item.status = .pending || item.status = .sending || item.status = .failed) = waiting
  generalize item.retryable.getD true = again
  cases item.updatedAt with
  | absent => cases waiting <;> cases again <;> simp
  | malformed => cases waiting <;> cases again <;> simp
  | «at» updated =>
      by_cases old : ttl < now - updated
      · have late : decide (now - updated ≤ ttl) = false := decide_eq_false (Int.not_le.mpr old)
        simp only [late, decide_eq_true old]
        cases waiting <;> cases again <;> simp
      · have early : decide (now - updated ≤ ttl) = true := decide_eq_true (Int.not_lt.mp old)
        simp only [early, decide_eq_false old]
        cases waiting <;> cases again <;> simp

theorem reconcileItem_path :
    (reconcileItem now ttl item).2 =
      (Text.trimmed item.cachePath).map fun path => (path, item.retains now ttl) := by
  cases named : Text.trimmed item.cachePath with
  | none =>
      rw [reconcileItem_blank now ttl item named]
      rfl
  | some path =>
      rcases reconcileItem_named now ttl item named with ⟨kept, same⟩ | ⟨dropped, -, same⟩
      · rw [same, kept]
        rfl
      · rw [same, dropped]
        rfl

theorem filter_cachePaths (items : List LedgerItem) (keep : Bool) :
    ((items.filterMap fun item => (reconcileItem now ttl item).2).filter (·.2 == keep)).map Prod.fst =
      cachePaths (items.filter fun item => item.retains now ttl == keep) := by
  induction items with
  | nil => rfl
  | cons item rest ih =>
      simp only [cachePaths] at ih ⊢
      rw [List.filterMap_cons, reconcileItem_path, List.filter_cons]
      cases path : Text.trimmed item.cachePath with
      | none =>
          rw [Option.map_none]
          by_cases kept : (item.retains now ttl == keep) = true
          · simp only [kept, if_true, List.filterMap_cons, path]
            exact ih
          · simp only [kept]
            exact ih
      | some path' =>
          rw [Option.map_some]
          by_cases kept : (item.retains now ttl == keep) = true
          · simp only [kept, if_true, List.filterMap_cons, path, List.filter_cons, List.map_cons]
            rw [ih]
          · simp only [kept, List.filter_cons]
            exact ih

theorem reconcile_paths : (reconcileDeliveryCache now ttl records).1 =
    let paths := records.items.filterMap fun item => (reconcileItem now ttl item).2
    ⟨(paths.filter (·.2)).map Prod.fst, (paths.filter (!·.2)).map Prod.fst⟩ := by
  have flat : (records.toList.flatMap fun record =>
      record.2.items.toList.filterMap fun item => (reconcileItem now ttl item.2).2) =
      records.items.filterMap fun item => (reconcileItem now ttl item).2 := by
    simp only [Ledger.items, List.filterMap_flatMap, List.filterMap_map]
    rfl
  simp only [reconcileDeliveryCache, flat]

theorem retainedPaths_eq : (reconcileDeliveryCache now ttl records).1.retainedPaths =
    cachePaths (records.items.filter (·.retains now ttl)) := by
  rw [reconcile_paths]
  simpa using filter_cachePaths now ttl records.items true

theorem deletePaths_eq : (reconcileDeliveryCache now ttl records).1.deletePaths =
    cachePaths (records.items.filter (!·.retains now ttl)) := by
  rw [reconcile_paths]
  simpa using filter_cachePaths now ttl records.items false

theorem retains_stamped (waits : 0 ≤ ttl) (kept : item.retains now ttl = true) :
    ({ item with updatedAt := .at now } : LedgerItem).retains now ttl = true := by
  simp only [LedgerItem.retains, Bool.and_eq_true] at kept ⊢
  refine ⟨kept.1, ?_⟩
  rw [decide_eq_true_eq, Int.sub_self]
  exact waits

/-- What is written back is in order for a second run at the same time. -/
theorem reconcileItem_again (waits : 0 ≤ ttl) :
    reconcileItem now ttl (reconcileItem now ttl item).1 =
      ((reconcileItem now ttl item).1, (reconcileItem now ttl item).2.filter (·.2)) := by
  cases named : Text.trimmed item.cachePath with
  | none => simp [reconcileItem_blank now ttl item named]
  | some path =>
      rcases reconcileItem_named now ttl item named with ⟨kept, same⟩ | ⟨-, gone, dropped⟩
      · have stamped : reconcileItem now ttl { item with updatedAt := .at now } =
            ({ item with updatedAt := .at now }, some (path, true)) := by
          rcases reconcileItem_named now ttl { item with updatedAt := .at now } named with
            ⟨-, again⟩ | ⟨dropped, -, -⟩
          · exact again
          · rw [retains_stamped now ttl item waits kept] at dropped
            simp at dropped
        rw [same]
        cases stamp : item.updatedAt with
        | absent => exact stamped
        | malformed => exact stamped
        | «at» updated =>
            simp only [stamp] at same
            rw [same]
            rfl
      · have blank : Text.trimmed (reconcileItem now ttl item).1.cachePath = none := by
          rw [gone]
          rfl
        rw [reconcileItem_blank now ttl _ blank, dropped]
        rfl

theorem items_reconciled : (reconcileDeliveryCache now ttl records).2.items =
    records.items.map fun item => (reconcileItem now ttl item).1 := by
  simp only [Ledger.items, reconcileDeliveryCache, Std.TreeMap.toList_map, List.flatMap_map,
    List.map_flatMap, List.map_map]
  rfl

theorem paths_again (waits : 0 ≤ ttl) :
    ((reconcileDeliveryCache now ttl records).2.items.filterMap fun item =>
      (reconcileItem now ttl item).2) =
    (records.items.filterMap fun item => (reconcileItem now ttl item).2).filter (·.2) := by
  rw [items_reconciled, List.filterMap_map, List.filter_filterMap]
  congr 1
  funext item
  rw [Function.comp_apply, reconcileItem_again now ttl item waits]

/-- A second run at the same time keeps the same files, lets none go and writes the same ledger. -/
theorem reconcileDeliveryCache_again (waits : 0 ≤ ttl) :
    reconcileDeliveryCache now ttl (reconcileDeliveryCache now ttl records).2 =
      (⟨(reconcileDeliveryCache now ttl records).1.retainedPaths, []⟩,
        (reconcileDeliveryCache now ttl records).2) := by
  have same_ledger : (reconcileDeliveryCache now ttl (reconcileDeliveryCache now ttl records).2).2 =
      (reconcileDeliveryCache now ttl records).2 := by
    simp only [reconcileDeliveryCache, treeMap_map_map]
    congr 1
    funext key record
    congr 1
    congr 1
    funext itemKey item
    rw [reconcileItem_again now ttl item waits]
  refine Prod.ext ?_ same_ledger
  rw [reconcile_paths, paths_again now ttl records waits, reconcile_paths]
  simp [List.filter_filter]

end

namespace AttachmentCache

open FileTree

/-- The part of `from_config` that cleans the cache; an error ends the start. -/
def cleanAtStart (root : Path) (reconciliation : DeliveryCacheReconciliation)
    (directories : List Path) (now : Int) (modified : Place → Option Int) (cache : FileTree) :
    Option ErrorKind × FileTree :=
  match removeReconciled root (reconciliation.deletePaths.map components) directories cache with
  | (none, after) =>
      (none, sweepExpired root (reconciliation.retainedPaths.map components) now modified after)
  | failed => failed

/-! ## What is retained stays -/

section
variable {root : Path} {before cache : FileTree} {held : Place}

/-- The file is there, and only removals lie behind. -/
structure Kept (before : FileTree) (held : Place) (cache : FileTree) : Prop where
  file : cache.node held = some .file
  shrinks : Shrinks before cache

theorem Kept.erase {place : Place} (kept : Kept before held cache) (other : held ≠ place) :
    Kept before held (cache.erase place) where
  file := by
    rw [node_erase_of_ne other]
    exact kept.file
  shrinks := kept.shrinks.trans (.erase cache place)

theorem Kept.removeFile {path : Path} {after : FileTree} (kept : Kept before held cache)
    (elsewhere : ∀ place, relativePath root path = some place → before.locate place ≠ .ok held)
    (done : removeFile root cache path = .ok after) : Kept before held after := by
  rw [AttachmentCache.removeFile, within] at done
  cases named : relativePath root path with
  | none => simp [named] at done
  | some place =>
      rw [named] at done
      obtain ⟨found, kind, led, -, -, rfl⟩ := unlink_eq_ok done
      refine kept.erase ?_
      rintro rfl
      exact elsewhere place named (kept.shrinks.locate led)

theorem Kept.removeDir {path : Path} {after : FileTree} (kept : Kept before held cache)
    (done : removeDir root cache path = .ok after) : Kept before held after := by
  rw [AttachmentCache.removeDir, within] at done
  cases named : relativePath root path with
  | none => simp [named] at done
  | some place =>
      rw [named] at done
      obtain ⟨found, -, folder, -, rfl⟩ := rmdir_eq_ok done
      refine kept.erase ?_
      rintro rfl
      rw [kept.file] at folder
      simp at folder

/-- A property of the cache that each removal keeps is kept by all of them. -/
theorem removeAll_keeps {remove : FileTree → Path → Except ErrorKind FileTree}
    {passes : ErrorKind → Bool} {keeps : FileTree → Prop} :
    ∀ (paths : List Path) {cache : FileTree},
      (∀ path ∈ paths, ∀ cache after, keeps cache → remove cache path = .ok after → keeps after) →
      keeps cache → keeps (removeAll remove passes paths cache).2 := by
  intro paths
  induction paths with
  | nil => exact fun _ start => start
  | cons path rest ih =>
      intro cache step start
      have later : ∀ path ∈ rest, ∀ cache after, keeps cache → remove cache path = .ok after →
          keeps after := fun path member => step path (List.mem_cons_of_mem _ member)
      rw [removeAll]
      cases done : remove cache path with
      | ok after => exact ih later (step path List.mem_cons_self cache after start done)
      | error kind =>
          by_cases let_pass : passes kind = true
          · simp only [let_pass, if_true]
            exact ih later start
          · simp only [let_pass]
            exact start

theorem Kept.removeReconciled {paths directories : List Path} (kept : Kept before held cache)
    (elsewhere : ∀ path ∈ paths, ∀ place, relativePath root path = some place →
      before.locate place ≠ .ok held) :
    Kept before held (removeReconciled root paths directories cache).2 := by
  have files : Kept before held (removeAll (AttachmentCache.removeFile root) missing paths cache).2 :=
    removeAll_keeps paths
      (fun path member _ _ kept done => kept.removeFile (elsewhere path member) done) kept
  rw [AttachmentCache.removeReconciled]
  cases removed : removeAll (AttachmentCache.removeFile root) missing paths cache with
  | mk failure after =>
      rw [removed] at files
      cases failure with
      | some kind => exact files
      | none =>
          exact removeAll_keeps directories
            (fun path _ _ _ kept done => kept.removeDir done) files

theorem scan_hasRetryable {retained : Place → Bool} {folder : Place} {name : String} :
    ∀ {names : List String}, (scan cache retained folder names).hasRetryable = false →
      name ∈ (scan cache retained folder names).removable →
      retained (folder ++ [name]) = false := by
  intro names
  induction names with
  | nil => simp [scan]
  | cons first rest ih =>
      intro unseen member
      rw [scan] at unseen member
      by_cases inner : cache.node (folder ++ [first]) = some .folder
      · simp [inner] at member
      · simp only [inner, if_false, Bool.or_eq_false_iff] at unseen member
        rcases List.mem_cons.mp member with rfl | later
        · exact unseen.1
        · exact ih unseen.2 later

theorem Kept.eraseAll {place : String → Place} {names : List String} {cache : FileTree}
    (kept : Kept before held cache) (other : ∀ name ∈ names, held ≠ place name) :
    Kept before held (names.foldl (fun cache name => cache.erase (place name)) cache) := by
  induction names generalizing cache with
  | nil => exact kept
  | cons name rest ih =>
      exact ih (kept.erase (other name List.mem_cons_self)) fun later member =>
        other later (List.mem_cons_of_mem _ member)

theorem Kept.sweepEntry {retained expired : Place → Bool} (kept : Kept before held cache)
    (wanted : retained held = true) (name : String) :
    Kept before held (sweepEntry retained expired cache name) := by
  rw [AttachmentCache.sweepEntry]
  split
  · rename_i folder
    split
    · dsimp only
      split
      · exact kept
      · rename_i unseen
        split
        · have others : ∀ child ∈ (scan cache retained [name] (cache.children [name])).removable,
              held ≠ [name, child] := by
            rintro child member rfl
            have unwanted := scan_hasRetryable (by simpa using unseen) member
            simp only [List.singleton_append] at unwanted
            rw [unwanted] at wanted
            simp at wanted
          refine (kept.eraseAll others).erase ?_
          rintro rfl
          rw [kept.file] at folder
          simp at folder
        · exact kept
    · exact kept
  · exact kept

theorem Kept.sweepExpired {retained : List Path} {now : Int} {modified : Place → Option Int}
    (kept : Kept before held cache) (wanted : pathOf root held ∈ retained) :
    Kept before held (sweepExpired root retained now modified cache) := by
  rw [AttachmentCache.sweepExpired]
  generalize cache.children [] = names
  induction names generalizing cache with
  | nil => exact kept
  | cons name rest ih => exact ih (kept.sweepEntry (by simpa using wanted) name)

end

end AttachmentCache

open AttachmentCache FileTree

/-- The clean-up at the start: which files the ledger keeps and which it lets go, that a second run
changes nothing, and that a file which a retained path names stays unless a path that is let go
leads to it. -/
theorem start_cleaning_is_safe (records : Ledger) (now : Time) (ttl : Int) :
    ((reconcileDeliveryCache now ttl records).1.retainedPaths =
        cachePaths (records.items.filter (·.retains now ttl)) ∧
      (reconcileDeliveryCache now ttl records).1.deletePaths =
        cachePaths (records.items.filter (!·.retains now ttl))) ∧
    (∀ deliveryKey itemKey item, records.item? deliveryKey itemKey = some item →
      Text.trimmed item.cachePath ≠ none → item.retains now ttl = false →
      ((reconcileDeliveryCache now ttl records).2.item? deliveryKey itemKey).map (·.cachePath) =
        some none) ∧
    (0 ≤ ttl → reconcileDeliveryCache now ttl (reconcileDeliveryCache now ttl records).2 =
      (⟨(reconcileDeliveryCache now ttl records).1.retainedPaths, []⟩,
        (reconcileDeliveryCache now ttl records).2)) ∧
    (∀ (root : Path) (directories : List Path) (sweep : Int) (modified : Place → Option Int)
      (cache : FileTree) (place : Place),
      pathOf root place ∈ (reconcileDeliveryCache now ttl records).1.retainedPaths.map components →
      cache.node place = some .file →
      (∀ path ∈ (reconcileDeliveryCache now ttl records).1.deletePaths, ∀ other,
        relativePath root (components path) = some other → cache.locate other ≠ .ok place) →
      (cleanAtStart root (reconcileDeliveryCache now ttl records).1 directories sweep modified
        cache).2.node place = some .file) := by
  refine ⟨⟨retainedPaths_eq now ttl records, deletePaths_eq now ttl records⟩, ?_,
    reconcileDeliveryCache_again now ttl records, ?_⟩
  · intro deliveryKey itemKey item found named dropped
    rw [reconcileDeliveryCache_item?, found, Option.map_some, Option.map_some]
    obtain ⟨path, named⟩ := Option.ne_none_iff_exists'.mp named
    rcases reconcileItem_named now ttl item named with ⟨kept, -⟩ | ⟨-, gone, -⟩
    · rw [kept] at dropped
      simp at dropped
    · rw [gone]
  · intro root directories sweep modified cache place wanted file elsewhere
    generalize (reconcileDeliveryCache now ttl records).1 = reconciliation at wanted elsewhere ⊢
    have start : Kept cache place cache := ⟨file, .refl cache⟩
    have removed : Kept cache place (removeReconciled root
        (reconciliation.deletePaths.map components) directories cache).2 :=
      start.removeReconciled fun path member other named => by
        obtain ⟨text, listed, rfl⟩ := List.mem_map.mp member
        exact elsewhere text listed other named
    rw [cleanAtStart]
    cases run : removeReconciled root (reconciliation.deletePaths.map components) directories cache with
    | mk failure after =>
        rw [run] at removed
        cases failure with
        | some kind => exact removed.file
        | none => exact (removed.sweepExpired wanted).file

def cachedItem (itemKey : String) (retryable : Bool) (cachePath : String) (updatedAt : Stamp) :
    LedgerItem :=
  { newItem 0 "fingerprint" itemKey itemKey "image" none none (some cachePath) with
    status := .failed
    retryable := some retryable
    updatedAt := updatedAt }

def cachedLedger (items : List LedgerItem) : Ledger :=
  (∅ : Ledger).insert "delivery"
    ⟨"fingerprint", none, items.foldl (fun map item => map.insert item.itemKey item) ∅, .at 0⟩

def cacheRoot : Path :=
  components "/gate/attachment-cache"

/-- A finished file and one still wanted lie side by side. -/
def sharedFolder : FileTree where
  entries := [(["turn"], .folder), (["turn", "a.jpg"], .file), (["turn", "b.jpg"], .file),
    (["alias"], .link (.ok ["turn"]))]
  distinct := by decide
  rooted := by decide

def finishedBeside : Ledger :=
  cachedLedger [cachedItem "a" false "/gate/attachment-cache/turn/a.jpg" (.at 0),
    cachedItem "b" true "/gate/attachment-cache/turn/b.jpg" (.at 0)]

theorem file_beside_stays :
    (cleanAtStart cacheRoot (reconcileDeliveryCache 0 oneDay finishedBeside).1
      [components "/gate/attachment-cache/turn"] 0 (fun _ => some (-2 * oneDay))
      sharedFolder).2.node ["turn", "b.jpg"] = some .file ∧
    (reconcileDeliveryCache 0 oneDay (reconcileDeliveryCache 0 oneDay finishedBeside).2).1.deletePaths =
      [] := by
  obtain ⟨-, -, again, stays⟩ := start_cleaning_is_safe finishedBeside 0 oneDay
  refine ⟨stays cacheRoot _ 0 _ sharedFolder ["turn", "b.jpg"] (by decide) (by decide) ?_, ?_⟩
  · have listed : (reconcileDeliveryCache 0 oneDay finishedBeside).1.deletePaths =
        ["/gate/attachment-cache/turn/a.jpg"] := by decide
    rw [listed]
    intro path member other named
    obtain rfl := List.mem_singleton.mp member
    have place : other = ["turn", "a.jpg"] :=
      (Option.some.inj (named.symm.trans (by decide)))
    subst place
    decide
  · rw [again (by decide)]

/-- With a negative age limit a second run lets go of what the first has stamped, and a file that
two different paths name through a link is removed for the one while the other retains it. -/
theorem negative_limit_and_link :
    ((reconcileDeliveryCache 0 (-1) (cachedLedger [cachedItem "a" true "/a" .absent])).1 =
        ⟨["/a"], []⟩ ∧
      (reconcileDeliveryCache 0 (-1) (reconcileDeliveryCache 0 (-1)
        (cachedLedger [cachedItem "a" true "/a" .absent])).2).1 = ⟨[], ["/a"]⟩) ∧
    let linked := cachedLedger [cachedItem "a" false "/gate/attachment-cache/alias/b.jpg" (.at 0),
      cachedItem "b" true "/gate/attachment-cache/turn/b.jpg" (.at 0)]
    ((cachePaths linked.items).map components).Nodup ∧
    (reconcileDeliveryCache 0 oneDay linked).1.retainedPaths =
      ["/gate/attachment-cache/turn/b.jpg"] ∧
    sharedFolder.node ["turn", "b.jpg"] = some .file ∧
    (cleanAtStart cacheRoot (reconcileDeliveryCache 0 oneDay linked).1
      [components "/gate/attachment-cache/alias"] 0 (fun _ => none)
      sharedFolder).2.node ["turn", "b.jpg"] = none := by
  refine ⟨⟨by decide, by decide⟩, ?_⟩
  intro linked
  have through : components "/gate/attachment-cache/alias/b.jpg" =
      [.rootDir, .normal "gate", .normal "attachment-cache", .normal "alias", .normal "b.jpg"] := by decide
  have direct : components "/gate/attachment-cache/turn/b.jpg" =
      [.rootDir, .normal "gate", .normal "attachment-cache", .normal "turn", .normal "b.jpg"] := by decide
  have paths : cachePaths linked.items = ["/gate/attachment-cache/alias/b.jpg",
      "/gate/attachment-cache/turn/b.jpg"] := by decide
  have reconciled : (reconcileDeliveryCache 0 oneDay linked).1 =
      ⟨["/gate/attachment-cache/turn/b.jpg"], ["/gate/attachment-cache/alias/b.jpg"]⟩ := by decide
  rw [paths, reconciled]
  refine ⟨?_, rfl, by decide, ?_⟩
  · rw [List.map_cons, List.map_cons, through, direct]
    decide
  · have root : cacheRoot = [.rootDir, .normal "gate", .normal "attachment-cache"] := by decide
    have link : components "/gate/attachment-cache/alias" =
        [.rootDir, .normal "gate", .normal "attachment-cache", .normal "alias"] := by decide
    rw [link, root]
    decide

end HarborGate
