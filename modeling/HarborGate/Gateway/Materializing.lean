import HarborGate.Gateway.AttachmentCache
import HarborGate.Gateway.Relay

/-!
`materialize_attachments_in` of `harborbeacon.rs`: the attachments of one turn are downloaded into a
folder of the cache, all of them or none.
-/

namespace HarborGate

namespace HarborBeacon

open FileTree AttachmentCache

/-! ## Names and types -/

/-- `safe_cache_segment`. -/
def safeCacheSegment (value : String) : String :=
  let safe := (value.toList.filter fun c => c.isAlphanum || c = '-' || c = '_').take 48
  if safe = [] then "unknown" else String.ofList safe

/-- `attachment_extension`. -/
def attachmentExtension (mimeType : String) : String :=
  match asciiLower (Text.trim mimeType) with
  | "image/jpeg" => "jpg"
  | "image/png" => "png"
  | "image/webp" => "webp"
  | "video/mp4" => "mp4"
  | "video/quicktime" => "mov"
  | _ => "bin"

def trustedMime (artifact : Json) : Option String :=
  ((artifact.index "mime_type").asStr.map Text.trim).filter trustedAttachmentMime

/-- The folder of a turn; `token` is the simple text of a new UUID, here and below. -/
def turnFolder (turnId token : String) : String :=
  "turn-" ++ safeCacheSegment turnId ++ "-" ++ token

def attachmentName (token mimeType : String) : String :=
  "attachment-" ++ token ++ "." ++ attachmentExtension mimeType

/-! ## Materializing -/

/-- How far a download comes: it is refused before its file is created, or breaks off after. -/
inductive Download
  | refused
  | brokenOff
  | complete
deriving DecidableEq, Repr

/-- What happens around one artifact. -/
structure Attempt where
  directory : DirectoryFault
  token : String
  download : Download

structure MaterializedAttachmentBatch where
  attachments : List Json
  cacheFiles : List String
  cacheDir : Option String
  failedCount : Nat

def MaterializedAttachmentBatch.empty : MaterializedAttachmentBatch :=
  ⟨[], [], none, 0⟩

def MaterializedAttachmentBatch.fail (batch : MaterializedAttachmentBatch) :
    MaterializedAttachmentBatch :=
  { batch with failedCount := batch.failedCount + 1 }

/-- Over a relay only the address of a recorded artifact is fetched. -/
def reachable (relayed : Bool) (artifact : Json) (download : Download) : Download :=
  if relayed && ((artifact.index "url").asStr.bind remoteMediaArtifactId).isNone then
    .refused
  else download

/-- A download into an exclusively created file. -/
def Download.run (download : Download) (root : Path) (cache : FileTree) (destination : Path) :
    Bool × FileTree :=
  match download, createNewFile root cache destination with
  | .refused, _ => (false, cache)
  | _, .error _ => (false, cache)
  | .brokenOff, .ok after => (false, after)
  | .complete, .ok after => (true, after)

/-- A removal whose error is at most logged. -/
def tryRemove (remove : FileTree → Path → Except ErrorKind FileTree) (cache : FileTree)
    (path : String) : FileTree :=
  match remove cache (components path) with
  | .ok after => after
  | .error _ => cache

def withPath (artifact : Json) (path : String) : Json :=
  match artifact with
  | .obj fields => .obj (JsonMap.insert fields "path" (.str path))
  | other => other

/-- The loop of `materialize_attachments_in` for one artifact; `folder` is the path that the first
trusted artifact makes up. -/
def materializeOne (relayed : Bool) (root folder : String) (artifact : Json) (attempt : Attempt)
    (batch : MaterializedAttachmentBatch) (cache : FileTree) :
    MaterializedAttachmentBatch × FileTree :=
  match trustedMime artifact with
  | none => (batch.fail, cache)
  | some mimeType =>
      let cacheDir := batch.cacheDir.getD folder
      let batch := { batch with cacheDir := some cacheDir }
      match createDir (components root) attempt.directory cache (components cacheDir) with
      | (false, cache) => (batch.fail, cache)
      | (true, cache) =>
          let destination := join cacheDir (attachmentName attempt.token mimeType)
          match (reachable relayed artifact attempt.download).run (components root) cache
            (components destination) with
          | (true, cache) =>
              ({ batch with
                cacheFiles := batch.cacheFiles ++ [destination]
                attachments := batch.attachments ++ [withPath artifact destination] }, cache)
          | (false, cache) => (batch.fail, tryRemove (removeFile (components root)) cache destination)

def materializeAll (relayed : Bool) (root folder : String) :
    List (Json × Attempt) → MaterializedAttachmentBatch → FileTree →
      MaterializedAttachmentBatch × FileTree
  | [], batch, cache => (batch, cache)
  | (artifact, attempt) :: rest, batch, cache =>
      let (batch, cache) := materializeOne relayed root folder artifact attempt batch cache
      materializeAll relayed root folder rest batch cache

/-- The files are taken back when one artifact has failed. -/
def rollBack (root : String) (batch : MaterializedAttachmentBatch) (cache : FileTree) :
    MaterializedAttachmentBatch × FileTree :=
  if 0 < batch.failedCount then
    ({ batch with cacheFiles := [], attachments := [] },
      batch.cacheFiles.foldl (tryRemove (removeFile (components root))) cache)
  else (batch, cache)

def dropEmptyFolder (root : String) (batch : MaterializedAttachmentBatch) (cache : FileTree) :
    MaterializedAttachmentBatch × FileTree :=
  match batch.cacheFiles, batch.cacheDir with
  | [], some cacheDir =>
      ({ batch with cacheDir := none }, tryRemove (removeDir (components root)) cache cacheDir)
  | _, _ => (batch, cache)

/-- `materialize_attachments_in`. -/
def materializeAttachmentsIn (relayed : Bool) (root turnId folderToken : String)
    (artifacts : List (Json × Attempt)) (cache : FileTree) :
    MaterializedAttachmentBatch × FileTree :=
  let (batch, cache) :=
    materializeAll relayed root (join root (turnFolder turnId folderToken)) artifacts .empty cache
  let (batch, cache) := rollBack root batch cache
  dropEmptyFolder root batch cache

/-! ## Plain names -/

theorem plainName_of_lead (lead : Char) (rest : List Char) {name : String}
    (shape : name.toList = lead :: rest) (notDot : lead ≠ '.') (single : '/' ∉ name.toList) :
    PlainName name where
  filled := by
    rintro rfl
    simp at shape
  single := single
  self := by
    rintro rfl
    exact notDot (List.cons.inj shape).1.symm
  above := by
    rintro rfl
    exact notDot (List.cons.inj shape).1.symm

theorem slash_safeCacheSegment (value : String) : '/' ∉ (safeCacheSegment value).toList := by
  rw [safeCacheSegment]
  split
  · decide
  · rw [String.toList_ofList]
    intro member
    have kept := (List.mem_filter.mp (List.mem_of_mem_take member)).2
    revert kept
    decide

theorem attachmentExtension_plain (mimeType : String) :
    '/' ∉ (attachmentExtension mimeType).toList ∧ '.' ∉ (attachmentExtension mimeType).toList := by
  rw [attachmentExtension]
  split <;> decide

/-- What a UUID prints holds neither a separator nor a dot. -/
def HexText (token : String) : Prop :=
  Text.allChars Text.isAsciiHexdigit token = true

instance (token : String) : Decidable (HexText token) :=
  inferInstanceAs (Decidable (_ = true))

theorem HexText.notMem {token : String} (hex : HexText token) {c : Char}
    (other : Text.isAsciiHexdigit c = false) : c ∉ token.toList := by
  intro member
  have digit := List.all_eq_true.mp hex c member
  rw [other] at digit
  simp at digit

theorem plainName_turnFolder (turnId : String) {token : String} (hex : HexText token) :
    PlainName (turnFolder turnId token) := by
  refine plainName_of_lead 't' ("urn-" ++ safeCacheSegment turnId ++ "-" ++ token).toList ?_
    (by decide) ?_
  · simp [turnFolder]
  · simp [turnFolder, slash_safeCacheSegment turnId, hex.notMem (c := '/') (by decide)]

theorem plainName_attachmentName (mimeType : String) {token : String} (hex : HexText token) :
    PlainName (attachmentName token mimeType) := by
  refine plainName_of_lead 'a' ("ttachment-" ++ token ++ "." ++
    attachmentExtension mimeType).toList ?_ (by decide) ?_
  · simp [attachmentName]
  · simp [attachmentName, (attachmentExtension_plain mimeType).1, hex.notMem (c := '/') (by decide)]

theorem attachmentName_token {token other mimeType otherType : String} (hex : HexText token)
    (same : attachmentName token mimeType = attachmentName other otherType) : token = other := by
  have chars := congrArg String.toList same
  simp only [attachmentName, String.toList_append, List.append_assoc] at chars
  have tails := List.append_cancel_left chars
  have dot : ".".toList = ['.'] := rfl
  rw [dot, List.singleton_append, List.singleton_append] at tails
  have parts := (List.append_cons_inj_of_notMem (hex.notMem (by decide))
    (attachmentExtension_plain mimeType).2).mp tails
  exact String.toList_inj.mp parts.1

/-! ## The folder of a turn -/

/-- What the loop has added to a cache: the folder `top`, once it is made, with its files. -/
structure Ongoing (start : FileTree) (top : String) (names : List String) (made : Bool)
    (cache : FileTree) : Prop where
  nodes : ∀ other, cache.node other =
    if made = true ∧ other = [top] then some .folder
    else if ∃ name ∈ names, other = [top, name] then some .file
    else start.node other
  needed : names ≠ [] → made = true

namespace Ongoing

variable {start cache : FileTree} {root : Path} {top name : String} {names : List String}
  {made : Bool}

theorem begin (start : FileTree) (top : String) : Ongoing start top [] false start where
  nodes := by simp
  needed := by simp

theorem node_top (ongoing : Ongoing start top names made cache) (unused : start.node [top] = none) :
    cache.node [top] = if made = true then some .folder else none := by
  rw [ongoing.nodes [top]]
  by_cases there : made = true
  · simp [there]
  · simp [there, unused]

theorem unused_below (unused : start.node [top] = none) : start.node [top, name] = none := by
  cases found : start.node [top, name] with
  | none => rfl
  | some kind =>
      have folder : start.node [top] = some .folder := node_lead found (by simp) (by simp) (by simp)
      rw [folder] at unused
      simp at unused

theorem node_file (ongoing : Ongoing start top names made cache) (unused : start.node [top] = none) :
    cache.node [top, name] = if name ∈ names then some .file else none := by
  rw [ongoing.nodes [top, name]]
  by_cases member : name ∈ names
  · simp [member]
  · simp [member, unused_below unused]

theorem createDir (root : Path) (ongoing : Ongoing start top names made cache) (unused : start.node [top] = none)
    (fault : DirectoryFault) :
    ∃ done, (made = true → done = true) ∧
      ((AttachmentCache.createDir root fault cache (pathOf root [top])).1 = true → done = true) ∧
      Ongoing start top names done (AttachmentCache.createDir root fault cache (pathOf root [top])).2 := by
  have named : relativePath root (pathOf root [top]) = some [top] :=
    relativePath_eq_some.mpr ⟨by simp, rfl⟩
  rw [AttachmentCache.createDir]
  by_cases refused : fault = .refused
  · rw [if_pos refused]
    exact ⟨made, id, by simp, ongoing⟩
  · rw [if_neg refused, within, named]
    dsimp only
    have top_node := ongoing.node_top unused
    by_cases there : made = true
    · have exists_already : create .folder cache [top] = .error .alreadyExists := by
        rw [if_pos there] at top_node
        simp [create, locate_of_node top_node, Except.bind, top_node]
      rw [exists_already]
      exact ⟨made, id, fun _ => there, ongoing⟩
    · rw [if_neg there] at top_node
      rw [create_open (by simp [isFolder]) top_node]
      have empty : names = [] := by
        by_contra filled
        exact there (ongoing.needed filled)
      subst empty
      refine ⟨true, fun _ => rfl, fun _ => rfl, ?_, by simp⟩
      intro other
      rw [node_put (by simp) (by simp [isFolder]) top_node, ongoing.nodes other]
      simp [there]

theorem createNewFile (root : Path) (ongoing : Ongoing start top names true cache)
    (unused : start.node [top] = none) (fresh : name ∉ names) :
    ∃ after, AttachmentCache.createNewFile root cache (pathOf root [top, name]) = .ok after ∧
      Ongoing start top (names ++ [name]) true after := by
  have named : relativePath root (pathOf root [top, name]) = some [top, name] :=
    relativePath_eq_some.mpr ⟨by simp, rfl⟩
  have folder : cache.isFolder [top] = true := by
    simp [isFolder, ongoing.node_top unused]
  have absent : cache.node [top, name] = none := by
    rw [ongoing.node_file unused, if_neg fresh]
  refine ⟨_, by rw [AttachmentCache.createNewFile, within, named]; exact create_open folder absent,
    ?_, fun _ => rfl⟩
  intro other
  rw [node_put (by simp) folder absent, ongoing.nodes other]
  by_cases here : other = [top, name]
  · simp [here]
  · by_cases above : other = [top]
    · simp [above]
    · simp only [here, above, if_false, and_false]
      congr 1
      apply propext
      constructor
      · rintro ⟨one, member, same⟩
        exact ⟨one, List.mem_append_left _ member, same⟩
      · rintro ⟨one, member, same⟩
        rcases List.mem_append.mp member with old | new
        · exact ⟨one, old, same⟩
        · rw [List.mem_singleton.mp new] at same
          exact absurd same here

/-- A file of the turn is taken away, if it is there. -/
theorem removeFile (ongoing : Ongoing start top names true cache) (unused : start.node [top] = none)
    {path : String} (located : components path = pathOf root [top, name]) :
    Ongoing start top (names.filter (· ≠ name)) true
      (tryRemove (AttachmentCache.removeFile root) cache path) := by
  have named : relativePath root (components path) = some [top, name] :=
    relativePath_eq_some.mpr ⟨by simp, located⟩
  have top_node : cache.node [top] = some .folder := by
    rw [ongoing.node_top unused, if_pos rfl]
  have led : cache.locate [top, name] = .ok [top, name] := by
    simp [locate, walk, top_node, Except.map]
  have file : cache.node [top, name] = if name ∈ names then some .file else none :=
    ongoing.node_file unused
  rw [tryRemove, AttachmentCache.removeFile, within, named]
  dsimp only
  by_cases member : name ∈ names
  · rw [if_pos member] at file
    have done : cache.unlink [top, name] = .ok (cache.erase [top, name]) := by
      simp [unlink, led, Except.bind, file]
    rw [done]
    refine ⟨?_, fun _ => rfl⟩
    intro other
    rw [node_erase (isEmptyFolder_of_node file (by simp)), ongoing.nodes other]
    by_cases here : other = [top, name]
    · simp [here, unused_below unused]
    · simp only [here, if_false]
      by_cases above : other = [top]
      · simp [above]
      · simp only [above, and_false, if_false]
        congr 1
        apply propext
        constructor
        · rintro ⟨one, inNames, rfl⟩
          have other : one ≠ name := fun same => here (by rw [same])
          exact ⟨one, List.mem_filter.mpr ⟨inNames, by simpa using other⟩, rfl⟩
        · rintro ⟨one, kept, same⟩
          exact ⟨one, (List.mem_filter.mp kept).1, same⟩
  · rw [if_neg member] at file
    have absent : cache.unlink [top, name] = .error .notFound := by
      simp [unlink, led, Except.bind, file]
    have others : names.filter (· ≠ name) = names := by
      rw [List.filter_eq_self]
      intro one inNames
      rw [decide_eq_true_eq]
      rintro rfl
      exact member inNames
    rw [absent, others]
    exact ongoing

/-- With its folder gone a turn leaves nothing behind. -/
theorem removeDir (ongoing : Ongoing start top [] made cache) (unused : start.node [top] = none)
    {path : String} (located : components path = pathOf root [top]) (other : Place) :
    (tryRemove (AttachmentCache.removeDir root) cache path).node other = start.node other := by
  have named : relativePath root (components path) = some [top] :=
    relativePath_eq_some.mpr ⟨by simp, located⟩
  have top_node := ongoing.node_top unused
  have led : cache.locate [top] = .ok [top] := by
    simp [locate, walk, Except.map]
  rw [tryRemove, AttachmentCache.removeDir, within, named]
  dsimp only
  by_cases there : made = true
  · rw [if_pos there] at top_node
    have free : cache.isEmptyFolder [top] = true := by
      rw [isEmptyFolder, List.all_eq_true]
      intro entry member
      rw [decide_eq_true_eq]
      intro inside
      have found := node_eq_some.mpr member
      have filled : entry.1 ≠ [] := (cache.rooted entry member).1
      have shape := List.dropLast_append_getLast filled
      rw [inside, List.singleton_append] at shape
      rw [← shape, ongoing.node_file unused] at found
      simp at found
    have done : cache.rmdir [top] = .ok (cache.erase [top]) := by
      simp [rmdir, led, Except.bind, top_node, free]
    rw [done]
    dsimp only
    rw [node_erase free, ongoing.nodes other]
    by_cases here : other = [top]
    · simp [here, unused]
    · simp [here]
  · rw [if_neg there] at top_node
    have absent : cache.rmdir [top] = .error .notFound := by
      simp [rmdir, led, Except.bind, top_node]
    rw [absent]
    dsimp only
    rw [ongoing.nodes other]
    simp [there]

end Ongoing

/-! ## The loop -/

theorem index_withPath {artifact : Json} {mimeType path : String}
    (trusted : trustedMime artifact = some mimeType) :
    (withPath artifact path).index "path" = .str path := by
  cases artifact with
  | obj fields => simp [withPath, Json.index, Json.get, Json.asObject, JsonMap.get_insert]
  | _ => simp [trustedMime, Json.index, Json.get, Json.asObject, Json.asStr] at trusted

theorem join_ne_empty {base name : String} (filled : name ≠ "") : join base name ≠ "" := by
  intro empty
  rw [join] at empty
  split at empty
  · exact filled (by simpa using (String.append_eq_empty_iff.mp empty).2)
  · exact filled (by simpa using (String.append_eq_empty_iff.mp empty).2)

/-- How far the loop has come: `names` are the files of the batch, and all artifacts in `done` have
one unless something has failed. -/
structure Progress (start : FileTree) (top folder : String) (done : List (Json × Attempt))
    (names : List String) (made : Bool) (batch : MaterializedAttachmentBatch) (cache : FileTree) :
    Prop where
  ongoing : Ongoing start top names made cache
  distinct : names.Nodup
  drawn : ∀ name ∈ names, ∃ artifact attempt mimeType, (artifact, attempt) ∈ done ∧
    name = attachmentName attempt.token mimeType
  files : batch.cacheFiles = names.map (join folder)
  dir : batch.cacheDir = some folder ∨ (batch.cacheDir = none ∧ names = [] ∧ made = false)
  whole : batch.failedCount = 0 → names.length = done.length ∧
    batch.attachments = List.zipWith withPath (done.map Prod.fst) batch.cacheFiles ∧
    batch.attachments.map (Json.index · "path") = batch.cacheFiles.map .str

section
variable {start cache : FileTree} {root top : String} {done : List (Json × Attempt)}
  {names : List String} {made : Bool} {batch : MaterializedAttachmentBatch}

theorem Progress.fail {folder : String} {made' : Bool} {cache' : FileTree}
    {dir : Option String} (progress : Progress start top folder done names made batch cache)
    (entry : Json × Attempt) (ongoing : Ongoing start top names made' cache')
    (kept : dir = some folder ∨ (dir = none ∧ names = [] ∧ made' = false)) :
    Progress start top folder (done ++ [entry]) names made'
      ({ batch with cacheDir := dir }).fail cache' where
  ongoing := ongoing
  distinct := progress.distinct
  drawn := by
    intro name member
    obtain ⟨artifact, attempt, mimeType, inDone, same⟩ := progress.drawn name member
    exact ⟨artifact, attempt, mimeType, List.mem_append_left _ inDone, same⟩
  files := progress.files
  dir := kept
  whole := by simp [MaterializedAttachmentBatch.fail]

/-- One artifact: its file is added, or the batch has failed. -/
theorem Progress.step (relayed : Bool) {artifact : Json} {attempt : Attempt}
    (progress : Progress start top (join root top) done names made batch cache)
    (rooted : root ≠ "") (plain : PlainName top) (unused : start.node [top] = none)
    (hex : HexText attempt.token)
    (earlier : ∀ artifact other, (artifact, other) ∈ done → HexText other.token ∧
      other.token ≠ attempt.token) :
    ∃ names' made', Progress start top (join root top) (done ++ [(artifact, attempt)]) names' made'
      (materializeOne relayed root (join root top) artifact attempt batch cache).1
      (materializeOne relayed root (join root top) artifact attempt batch cache).2 := by
  have folderAt : components (join root top) = pathOf (components root) [top] :=
    components_join rooted plain
  have used : batch.cacheDir.getD (join root top) = join root top := by
    rcases progress.dir with known | ⟨unknown, -, -⟩
    · rw [known, Option.getD_some]
    · rw [unknown, Option.getD_none]
  rw [materializeOne]
  cases trusted : trustedMime artifact with
  | none => exact ⟨names, made, progress.fail _ progress.ongoing progress.dir⟩
  | some mimeType =>
      dsimp only
      rw [used, folderAt]
      obtain ⟨there, was, opened, ongoing⟩ := progress.ongoing.createDir (components root)
        unused attempt.directory
      cases created : createDir (components root) attempt.directory cache
          (pathOf (components root) [top]) with
      | mk success cache₁ =>
          rw [created] at opened ongoing
          cases success with
          | false => exact ⟨names, there, progress.fail _ ongoing (.inl rfl)⟩
          | true =>
              obtain rfl := opened rfl
              have file : PlainName (attachmentName attempt.token mimeType) :=
                plainName_attachmentName mimeType hex
              have fileAt : components (join (join root top) (attachmentName attempt.token mimeType)) =
                  pathOf (components root) [top, attachmentName attempt.token mimeType] := by
                rw [components_join (join_ne_empty plain.filled) file, folderAt]
                simp [pathOf]
              have fresh : attachmentName attempt.token mimeType ∉ names := by
                intro member
                obtain ⟨_, other, _, inDone, same⟩ := progress.drawn _ member
                exact (earlier _ other inDone).2 (attachmentName_token hex same).symm
              obtain ⟨cache₂, exclusive, added⟩ :=
                ongoing.createNewFile (components root) unused fresh
              have others : names.filter (· ≠ attachmentName attempt.token mimeType) = names := by
                rw [List.filter_eq_self]
                intro name member
                rw [decide_eq_true_eq]
                rintro rfl
                exact fresh member
              dsimp only
              rw [fileAt]
              cases outcome : reachable relayed artifact attempt.download with
              | refused =>
                  have back := ongoing.removeFile unused fileAt
                  rw [others] at back
                  simp only [Download.run]
                  exact ⟨names, true, progress.fail _ back (.inl rfl)⟩
              | brokenOff =>
                  have back := added.removeFile unused fileAt
                  rw [List.filter_append, others] at back
                  simp only [ne_eq, not_true_eq_false, decide_false, List.filter_cons,
                    Bool.false_eq_true, if_false, List.filter_nil, List.append_nil] at back
                  simp only [Download.run, exclusive]
                  exact ⟨names, true, progress.fail _ back (.inl rfl)⟩
              | complete =>
                  simp only [Download.run, exclusive]
                  refine ⟨names ++ [attachmentName attempt.token mimeType], true, added, ?_, ?_, ?_,
                    .inl rfl, ?_⟩
                  · exact List.nodup_append.mpr ⟨progress.distinct, by simp, by
                      intro name member other last
                      rw [List.mem_singleton.mp last]
                      rintro rfl
                      exact fresh member⟩
                  · intro name member
                    rcases List.mem_append.mp member with old | new
                    · obtain ⟨one, other, type, inDone, same⟩ := progress.drawn name old
                      exact ⟨one, other, type, List.mem_append_left _ inDone, same⟩
                    · exact ⟨artifact, attempt, mimeType, by simp, List.mem_singleton.mp new⟩
                  · simp [progress.files]
                  · intro none_failed
                    obtain ⟨count, attachments, paths⟩ := progress.whole none_failed
                    have lengths : (done.map Prod.fst).length = batch.cacheFiles.length := by
                      rw [List.length_map, progress.files, List.length_map, count]
                    refine ⟨by simp [count], ?_, ?_⟩
                    · rw [attachments, List.map_append, List.map_singleton,
                        List.zipWith_append lengths]
                      rfl
                    · rw [List.map_append, List.map_append, paths, List.map_singleton,
                        index_withPath trusted]
                      rfl

/-- The draws of a turn: different UUIDs, and a folder that is not there yet. -/
structure Fresh (start : FileTree) (turnId folderToken : String) (artifacts : List (Json × Attempt)) :
    Prop where
  folder : HexText folderToken
  files : ∀ entry ∈ artifacts, HexText entry.2.token
  distinct : (artifacts.map (·.2.token)).Nodup
  unused : start.node [turnFolder turnId folderToken] = none

theorem Progress.run (relayed : Bool) (rooted : root ≠ "") (plain : PlainName top)
    (unused : start.node [top] = none) :
    ∀ (rest : List (Json × Attempt)) {done : List (Json × Attempt)} {names : List String}
      {made : Bool} {batch : MaterializedAttachmentBatch} {cache : FileTree},
    Progress start top (join root top) done names made batch cache →
    (∀ entry ∈ done ++ rest, HexText entry.2.token) → ((done ++ rest).map (·.2.token)).Nodup →
    ∃ names' made', Progress start top (join root top) (done ++ rest) names' made'
      (materializeAll relayed root (join root top) rest batch cache).1
      (materializeAll relayed root (join root top) rest batch cache).2 := by
  intro rest
  induction rest with
  | nil =>
      intro done names made batch cache progress _ _
      rw [List.append_nil]
      exact ⟨names, made, progress⟩
  | cons entry rest ih =>
      intro done names made batch cache progress hex distinct
      obtain ⟨artifact, attempt⟩ := entry
      have split : done ++ (artifact, attempt) :: rest = (done ++ [(artifact, attempt)]) ++ rest := by
        simp
      have earlier : ∀ one other, (one, other) ∈ done → HexText other.token ∧
          other.token ≠ attempt.token := by
        intro one other inDone
        refine ⟨hex (one, other) (List.mem_append_left _ inDone), ?_⟩
        rw [List.map_append, List.nodup_append] at distinct
        exact distinct.2.2 _ (List.mem_map_of_mem (f := (·.2.token)) inDone) _
          (by simp)
      obtain ⟨names', made', next⟩ := progress.step relayed rooted plain unused
        (hex (artifact, attempt) (by simp)) earlier
      rw [split] at hex distinct ⊢
      rw [materializeAll]
      exact ih next hex distinct

end

/-! ## All or nothing -/

/-- Taking back every file of the batch. -/
theorem Ongoing.removeAll {start cache : FileTree} {root : Path} {top : String}
    {names : List String} {place : String → String} (unused : start.node [top] = none)
    (located : ∀ name ∈ names, components (place name) = pathOf root [top, name]) :
    ∀ {left : List String}, Ongoing start top left true cache → ∃ rest,
      Ongoing start top rest true
        ((names.map place).foldl (tryRemove (AttachmentCache.removeFile root)) cache) ∧
      ∀ name ∈ rest, name ∈ left ∧ name ∉ names := by
  induction names generalizing cache with
  | nil => exact fun {left} ongoing => ⟨left, ongoing, by simp⟩
  | cons name names ih =>
      intro left ongoing
      have next := ongoing.removeFile unused (located name List.mem_cons_self)
      obtain ⟨rest, last, gone⟩ :=
        ih (fun other member => located other (List.mem_cons_of_mem _ member)) next
      refine ⟨rest, last, ?_⟩
      intro other member
      obtain ⟨kept, notLater⟩ := gone other member
      obtain ⟨inLeft, different⟩ := List.mem_filter.mp kept
      refine ⟨inLeft, ?_⟩
      rw [List.mem_cons]
      rintro (same | later)
      · simp [same] at different
      · exact notLater later

/-- Every artifact has its attachment, in order, with the path of a file of its own below the
folder. -/
structure Complete (root : String) (artifacts : List Json) (batch : MaterializedAttachmentBatch)
    (cache : FileTree) : Prop where
  passed : batch.failedCount = 0
  count : batch.cacheFiles.length = artifacts.length
  attachments : batch.attachments = List.zipWith withPath artifacts batch.cacheFiles
  paths : batch.attachments.map (Json.index · "path") = batch.cacheFiles.map .str
  distinct : (batch.cacheFiles.map components).Nodup
  files : ∀ path ∈ batch.cacheFiles, ∃ folder place, batch.cacheDir = some folder ∧
    parent (components path) = some (components folder) ∧
    relativePath (components root) (components path) = some place ∧ cache.node place = some .file

/-- Nothing is returned, and the cache is as it was. -/
structure Undone (start : FileTree) (batch : MaterializedAttachmentBatch) (cache : FileTree) :
    Prop where
  failed : 0 < batch.failedCount
  attachments : batch.attachments = []
  files : batch.cacheFiles = []
  folder : batch.cacheDir = none
  restored : ∀ place, cache.node place = start.node place

section
variable {start cache : FileTree} {root top : String} {artifacts : List (Json × Attempt)}
  {names : List String} {made : Bool} {batch : MaterializedAttachmentBatch}

theorem located_file (rooted : root ≠ "") (plain : PlainName top) {name : String}
    (file : PlainName name) :
    components (join (join root top) name) = pathOf (components root) [top, name] := by
  rw [components_join (join_ne_empty plain.filled) file, components_join rooted plain]
  simp [pathOf]

theorem Progress.complete
    (progress : Progress start top (join root top) artifacts names made batch cache)
    (rooted : root ≠ "") (plain : PlainName top) (unused : start.node [top] = none)
    (hex : ∀ entry ∈ artifacts, HexText entry.2.token) (passed : batch.failedCount = 0) :
    Complete root (artifacts.map Prod.fst) (dropEmptyFolder root batch cache).1
      (dropEmptyFolder root batch cache).2 := by
  obtain ⟨count, attachments, paths⟩ := progress.whole passed
  have located : ∀ name ∈ names, components (join (join root top) name) =
      pathOf (components root) [top, name] := by
    intro name member
    obtain ⟨artifact, attempt, mimeType, inAll, same⟩ := progress.drawn name member
    rw [same]
    exact located_file rooted plain (plainName_attachmentName mimeType (hex _ inAll))
  have same_length : batch.cacheFiles.length = (artifacts.map Prod.fst).length := by
    rw [progress.files, List.length_map, List.length_map, count]
  have distinct : (batch.cacheFiles.map components).Nodup := by
    have places : batch.cacheFiles.map components =
        names.map fun name => pathOf (components root) [top, name] := by
      rw [progress.files, List.map_map]
      exact List.map_congr_left located
    rw [places]
    refine progress.distinct.map ?_
    intro left right same
    have tails := List.append_cancel_left same
    simpa using tails
  by_cases empty : names = []
  · have none_listed : batch.cacheFiles = [] := by rw [progress.files, empty, List.map_nil]
    have untouched : (dropEmptyFolder root batch cache).1.failedCount = batch.failedCount ∧
        (dropEmptyFolder root batch cache).1.attachments = batch.attachments ∧
        (dropEmptyFolder root batch cache).1.cacheFiles = batch.cacheFiles := by
      rw [dropEmptyFolder, none_listed]
      cases batch.cacheDir <;> simp [none_listed]
    obtain ⟨failures, kept, files⟩ := untouched
    exact ⟨failures.trans passed, by rw [files, same_length], by rw [kept, files, attachments],
      by rw [kept, files, paths], by rw [files]; exact distinct,
      by rw [files, none_listed]; simp⟩
  · have folder : batch.cacheDir = some (join root top) := by
      rcases progress.dir with known | ⟨-, none, -⟩
      · exact known
      · exact absurd none empty
    have stays : dropEmptyFolder root batch cache = (batch, cache) := by
      rw [dropEmptyFolder]
      cases files : batch.cacheFiles with
      | nil =>
          rw [progress.files] at files
          exact absurd (List.map_eq_nil_iff.mp files) empty
      | cons path rest => rfl
    rw [stays]
    refine ⟨passed, same_length, attachments, paths, distinct, ?_⟩
    intro path member
    rw [progress.files] at member
    obtain ⟨name, inNames, rfl⟩ := List.mem_map.mp member
    refine ⟨join root top, [top, name], folder, ?_, ?_, ?_⟩
    · rw [located name inNames, components_join rooted plain]
      simp [parent, pathOf]
    · rw [located name inNames]
      exact relativePath_eq_some.mpr ⟨by simp, rfl⟩
    · rw [progress.ongoing.node_file unused, if_pos inNames]

theorem Progress.undone
    (progress : Progress start top (join root top) artifacts names made batch cache)
    (rooted : root ≠ "") (plain : PlainName top) (unused : start.node [top] = none)
    (hex : ∀ entry ∈ artifacts, HexText entry.2.token) (failed : 0 < batch.failedCount) :
    Undone start (dropEmptyFolder root (rollBack root batch cache).1 (rollBack root batch cache).2).1
      (dropEmptyFolder root (rollBack root batch cache).1 (rollBack root batch cache).2).2 := by
  have located : ∀ name ∈ names, components (join (join root top) name) =
      pathOf (components root) [top, name] := by
    intro name member
    obtain ⟨artifact, attempt, mimeType, inAll, same⟩ := progress.drawn name member
    rw [same]
    exact located_file rooted plain (plainName_attachmentName mimeType (hex _ inAll))
  have emptied : Ongoing start top [] made
      (batch.cacheFiles.foldl (tryRemove (removeFile (components root))) cache) := by
    have ongoing := progress.ongoing
    rw [progress.files]
    by_cases empty : names = []
    · rw [empty] at ongoing ⊢
      exact ongoing
    · obtain rfl := ongoing.needed empty
      obtain ⟨rest, last, gone⟩ := Ongoing.removeAll unused located ongoing
      have none_left : rest = [] :=
        List.eq_nil_iff_forall_not_mem.mpr fun name member => (gone name member).2 (gone name member).1
      rw [none_left] at last
      exact last
  rw [rollBack, if_pos failed, dropEmptyFolder]
  dsimp only
  rcases progress.dir with known | ⟨unknown, none, unmade⟩
  · rw [known]
    exact ⟨failed, rfl, rfl, rfl,
      emptied.removeDir unused (components_join rooted plain)⟩
  · rw [unknown]
    refine ⟨failed, rfl, rfl, rfl, ?_⟩
    intro place
    rw [emptied.nodes place]
    simp [unmade]

end

/-- Materialization is all or nothing. -/
theorem materialize_all_or_nothing (relayed : Bool) (root turnId folderToken : String)
    (artifacts : List (Json × Attempt)) (start : FileTree) (rooted : root ≠ "")
    (fresh : Fresh start turnId folderToken artifacts) :
    Complete root (artifacts.map Prod.fst)
        (materializeAttachmentsIn relayed root turnId folderToken artifacts start).1
        (materializeAttachmentsIn relayed root turnId folderToken artifacts start).2 ∨
      Undone start (materializeAttachmentsIn relayed root turnId folderToken artifacts start).1
        (materializeAttachmentsIn relayed root turnId folderToken artifacts start).2 := by
  have plain := plainName_turnFolder turnId fresh.folder
  have begin : Progress start (turnFolder turnId folderToken)
      (join root (turnFolder turnId folderToken)) [] [] false .empty start :=
    ⟨.begin start _, List.nodup_nil, by simp, rfl, .inr ⟨rfl, rfl, rfl⟩, fun _ => ⟨rfl, rfl, rfl⟩⟩
  obtain ⟨names, made, progress⟩ := begin.run relayed rooted plain fresh.unused
    artifacts (by simpa using fresh.files) (by simpa using fresh.distinct)
  rw [List.nil_append] at progress
  simp only [materializeAttachmentsIn]
  generalize materializeAll relayed root (join root (turnFolder turnId folderToken)) artifacts
    .empty start = loop at progress ⊢
  obtain ⟨batch, cache⟩ := loop
  by_cases failed : 0 < batch.failedCount
  · exact .inr (progress.undone rooted plain fresh.unused fresh.files failed)
  · refine .inl ?_
    have kept : rollBack root batch cache = (batch, cache) := by
      rw [rollBack, if_neg failed]
    rw [kept]
    exact progress.complete rooted plain fresh.unused fresh.files (Nat.eq_zero_of_not_pos failed)

def photo : Json :=
  .obj [("mime_type", .str "image/png"), ("url", .str "/api/cameras/recordings/artifacts/a")]

/-- Two photos of which the second breaks off. -/
theorem second_photo_breaks_off :
    let artifacts := [(photo, ⟨.clear, "0a", .complete⟩), (photo, ⟨.clear, "0b", .brokenOff⟩)]
    let start : FileTree := ⟨[], by simp, by simp⟩
    let result := materializeAttachmentsIn true "/gate/attachment-cache" "turn one" "0c" artifacts start
    result.1.failedCount = 1 ∧ result.1.cacheFiles = [] ∧
      ∀ place, result.2.node place = none := by
  intro artifacts start result
  have failures : result.1.failedCount = 1 := by with_unfolding_all decide
  have outcome := materialize_all_or_nothing true "/gate/attachment-cache" "turn one" "0c" artifacts
    start (by decide) ⟨by decide, by decide, by decide, rfl⟩
  rcases outcome with complete | undone
  · have passed : result.1.failedCount = 0 := complete.passed
    rw [failures] at passed
    simp at passed
  · exact ⟨failures, undone.files, undone.restored⟩

end HarborBeacon

end HarborGate
