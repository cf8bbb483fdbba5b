import Mathlib.Data.List.Dedup
import HarborGate.Models
import HarborGate.Lib.FileTree

/-!
`AttachmentCacheRoot` of `gateway.rs`: the attachment cache as the tree below one folder, the paths
that lead into it, and the two clean-ups of the start.
-/

namespace HarborGate

namespace AttachmentCache

open FileTree

/-! ## The root -/

def pathOf (root : Path) (place : Place) : Path :=
  root ++ place.map .normal

/-- `AttachmentCacheRoot::relative_path`. -/
def relativePath (root candidate : Path) : Option Place :=
  if root.isPrefixOf candidate then
    let relative := candidate.drop root.length
    if relative = [] then none else relative.mapM Component.name?
  else none

theorem mapM_name? : ∀ {path : Path} {place : Place},
    path.mapM Component.name? = some place ↔ path = place.map .normal := by
  intro path
  induction path with
  | nil =>
      intro place
      cases place <;> simp
  | cons component rest ih =>
      intro place
      rw [List.mapM_cons]
      cases component with
      | normal name =>
          cases place with
          | nil => cases rest.mapM Component.name? <;> simp [Component.name?]
          | cons other others =>
              have tail := @ih others
              cases read : rest.mapM Component.name? with
              | none =>
                  have different : rest ≠ others.map .normal := by
                    intro same
                    rw [tail.mpr same] at read
                    simp at read
                  simp [Component.name?, different]
              | some found =>
                  rw [read, Option.some.injEq] at tail
                  simp [Component.name?, tail]
      | _ => cases place <;> simp [Component.name?]

/-- The safe paths are the root followed by names. -/
theorem relativePath_eq_some {root candidate : Path} {place : Place} :
    relativePath root candidate = some place ↔ place ≠ [] ∧ candidate = pathOf root place := by
  simp only [relativePath, pathOf]
  by_cases inside : root <+: candidate
  · obtain ⟨rest, rfl⟩ := inside
    have isPrefix : root.isPrefixOf (root ++ rest) = true :=
      List.isPrefixOf_iff_prefix.mpr (List.prefix_append root rest)
    rw [if_pos isPrefix, List.drop_left, List.append_cancel_left_eq]
    by_cases empty : rest = []
    · subst empty
      cases place <;> simp
    · rw [if_neg empty, mapM_name?]
      constructor
      · rintro rfl
        exact ⟨by simpa using empty, rfl⟩
      · exact fun both => both.2
  · have notPrefix : ¬root.isPrefixOf candidate = true :=
      fun holds => inside (List.isPrefixOf_iff_prefix.mp holds)
    rw [if_neg notPrefix]
    constructor
    · simp
    · rintro ⟨-, rfl⟩
      exact absurd (List.prefix_append _ _) inside

/-- A path of the caller, checked by `relative_path` first. -/
def within (root candidate : Path) (operate : Place → Except ErrorKind FileTree) :
    Except ErrorKind FileTree :=
  match relativePath root candidate with
  | none => .error .permissionDenied
  | some place => operate place

def removeFile (root : Path) (cache : FileTree) (candidate : Path) : Except ErrorKind FileTree :=
  within root candidate cache.unlink

def removeDir (root : Path) (cache : FileTree) (candidate : Path) : Except ErrorKind FileTree :=
  within root candidate cache.rmdir

/-- What goes wrong around the creation of a folder: a step before it, or opening it afterwards. -/
inductive DirectoryFault
  | clear
  | refused
  | unopened
deriving DecidableEq, Repr

/-- `open_dir_nofollow` of a safe path. -/
def opens (cache : FileTree) (place : Place) : Bool :=
  match cache.locate place with
  | .ok found => cache.isFolder found
  | .error _ => false

/-- `AttachmentCacheRoot::create_dir`: whether it succeeds, and what it leaves. -/
def createDir (root : Path) (fault : DirectoryFault) (cache : FileTree) (candidate : Path) :
    Bool × FileTree :=
  if fault = .refused then (false, cache)
  else
    match within root candidate (create .folder cache) with
    | .ok after => (fault = .clear, after)
    | .error .alreadyExists =>
        (fault = .clear && (relativePath root candidate).any (opens cache), cache)
    | .error _ => (false, cache)

def createNewFile (root : Path) (cache : FileTree) (candidate : Path) :
    Except ErrorKind FileTree :=
  within root candidate (create .file cache)

/-! ## The two clean-ups -/

/-- One removal after the other; the errors that are let pass leave the cache as it was. Ends with
the first other error, if there is one. -/
def removeAll (remove : FileTree → Path → Except ErrorKind FileTree) (passes : ErrorKind → Bool) :
    List Path → FileTree → Option ErrorKind × FileTree
  | [], cache => (none, cache)
  | path :: rest, cache =>
      match remove cache path with
      | .ok after => removeAll remove passes rest after
      | .error kind =>
          if passes kind then removeAll remove passes rest cache else (some kind, cache)

def missing (kind : ErrorKind) : Bool :=
  kind = .notFound

def missingOrFull (kind : ErrorKind) : Bool :=
  kind = .notFound || kind = .directoryNotEmpty

/-- `remove_reconciled_attachment_cache`; `directories` are the parents in the order of the set. -/
def removeReconciled (root : Path) (paths directories : List Path) (cache : FileTree) :
    Option ErrorKind × FileTree :=
  match removeAll (removeFile root) missing paths cache with
  | (none, after) => removeAll (removeDir root) missingOrFull directories after
  | failed => failed

/-- The set of the parents, in some order. -/
def ParentSet (paths directories : List Path) : Prop :=
  directories.Perm (paths.filterMap parent).dedup

/-- What the sweep has seen of a folder: the entries it would remove, whether it may remove the
folder, whether a retryable file is in it. -/
structure Scan where
  removable : List String
  canRemove : Bool
  hasRetryable : Bool

/-- The loop over a folder's entries; it breaks at the first subfolder. -/
def scan (cache : FileTree) (retained : Place → Bool) (folder : Place) : List String → Scan
  | [] => ⟨[], true, false⟩
  | name :: rest =>
      let hit := retained (folder ++ [name])
      if cache.node (folder ++ [name]) = some .folder then ⟨[], false, hit⟩
      else
        let later := scan cache retained folder rest
        ⟨name :: later.removable, later.canRemove, hit || later.hasRetryable⟩

/-- `sweep_expired_attachment_cache` for one entry of the root. -/
def sweepEntry (retained : Place → Bool) (expired : Place → Bool) (cache : FileTree) (name : String) :
    FileTree :=
  if cache.node [name] = some .folder then
    if expired [name] then
      let seen := scan cache retained [name] (cache.children [name])
      if seen.hasRetryable then cache
      else if seen.canRemove then
        (seen.removable.foldl (fun cache child => cache.erase [name, child]) cache).erase [name]
      else cache
    else cache
  else cache

/-- `modified` is the time of a folder's last change, where it can be read. -/
def isExpired (now ttl : Int) (modified : Place → Option Int) (folder : Place) : Bool :=
  (modified folder).any fun changed => decide (ttl < now - changed)

def attachmentCacheTtl : Int :=
  24 * 60 * 60 * nanosPerSecond

def sweepExpired (root : Path) (retained : List Path) (now : Int) (modified : Place → Option Int)
    (cache : FileTree) : FileTree :=
  (cache.children []).foldl
    (sweepEntry (fun place => decide (pathOf root place ∈ retained))
      (isExpired now attachmentCacheTtl modified)) cache

end AttachmentCache

end HarborGate
