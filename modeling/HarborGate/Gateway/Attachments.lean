import Mathlib.Data.List.Nodup
import HarborGate.Gateway.Notification
import HarborGate.Gateway.Split

/-!
Which artifacts of a Beacon payload become attachments: the turn path of
`native_source_bound_attachments` and the notification path of `hinted_notification_attachments`.
-/

namespace HarborGate

/-! ## The turn path -/

def artifactCandidates (payload : Json) : List Json :=
  let listed := ((((payload.get "artifacts").bind Json.asArray).or
    ((payload.pointer ["result", "artifacts"]).bind Json.asArray)).or
    ((payload.pointer ["result", "attachments"]).bind Json.asArray)).or
    ((payload.pointer ["result", "evidence"]).bind Json.asArray)
  (listed.getD []).filter Json.isObject

def artifactKind (artifact : Json) : String :=
  (((artifact.get "kind").or (artifact.get "type")).bind Json.asStr).getD ""

def artifactMimeType (artifact : Json) : String :=
  ((artifact.get "mime_type").bind Json.asStr).getD ""

def isLocated (artifact : Json) : Bool :=
  !Text.isBlank ((artifactMediaLocation artifact).getD "")

def isWeixinMedia (artifact : Json) : Bool :=
  let kind := Text.toLowercase (artifactKind artifact)
  let mimeType := Text.toLowercase (artifactMimeType artifact)
  isLocated artifact && (kind = "image" || kind = "video" || kind = "file" ||
    Text.startsWith mimeType "image/" || Text.startsWith mimeType "video/")

def isWeixinImage (artifact : Json) : Bool :=
  artifactKind artifact = "image" || Text.startsWith (artifactMimeType artifact) "image/"

/-- The images of `weixin_native_attachments`, before it adds the videos. -/
def weixinNativeImages (artifacts : List Json) (payload : Json) : List Json :=
  let media := artifacts.filter isWeixinMedia
  let images := media.filter isWeixinImage
  match nativeImageLimit payload with
  | some limit => images.take limit
  | none => if images.length = 1 ∧ media.length = 1 then images else []

def weixinNativeAttachments (artifacts : List Json) (payload : Json) : List Json :=
  if (artifacts.filter isWeixinMedia).isEmpty then []
  else weixinNativeImages artifacts payload ++ hintedNativeVideos artifacts payload

def isNativeImage (artifact : Json) : Bool :=
  artifactKind artifact = "image" && Text.startsWith (artifactMimeType artifact) "image/" &&
    isLocated artifact

def nativeSourceBoundAttachments (adapterName : String) (payload : Json) : List Json :=
  if adapterName ≠ "feishu" ∧ adapterName ≠ "weixin" ∧ adapterName ≠ "whatsapp" then []
  else
    let artifacts := artifactCandidates payload
    if adapterName = "weixin" then weixinNativeAttachments artifacts payload
    else
      let images := artifacts.filter isNativeImage
      if images.isEmpty then []
      else
        match nativeImageLimit payload with
        | some limit => images.take limit
        | none => if images.length = 1 then images else []

/-! ## The videos of the hints -/

/-- The artifact id of a hint for a native video with the file as fallback. -/
def nativeVideoId (hint : Json) : Option String :=
  if (hint.get "kind").bind Json.asStr = some "native_video" ∧
      (hint.get "fallback").bind Json.asStr = some "file" then
    Text.trimmed ((hint.get "artifact_id").bind Json.asStr)
  else none

def hintedIds (payload : Json) : List String :=
  (((payload.get "delivery_hints").bind Json.asArray).getD []).filterMap nativeVideoId

/-- The first artifact of an id, if it is a video with a location. -/
def firstVideo (artifacts : List Json) (artifactId : String) : Option Json :=
  (artifacts.find? fun artifact => hintArtifactId artifact = some artifactId).filter fun artifact =>
    hasMimeLead artifact "video/" && (artifactMediaLocation artifact).isSome

theorem hintedVideo_eq (artifacts : List Json) (hint : Json) :
    hintedVideo artifacts hint = (nativeVideoId hint).bind fun artifactId =>
      (firstVideo artifacts artifactId).map fun artifact =>
        (artifactId, markFileFallback artifact) := by
  simp only [hintedVideo, nativeVideoId, firstVideo, guard]
  by_cases asked : (hint.get "kind").bind Json.asStr = some "native_video" ∧
      (hint.get "fallback").bind Json.asStr = some "file"
  · rw [if_pos asked, if_pos asked]
    cases Text.trimmed ((hint.get "artifact_id").bind Json.asStr) with
    | none => rfl
    | some artifactId =>
        simp only [Option.bind_some, pure, bind]
        cases artifacts.find? fun artifact => hintArtifactId artifact = some artifactId with
        | none => rfl
        | some artifact =>
            by_cases fits : hasMimeLead artifact "video/" ∧ (artifactMediaLocation artifact).isSome
            · have kept : (hasMimeLead artifact "video/" &&
                  (artifactMediaLocation artifact).isSome) = true := by
                simpa using fits
              simp only [Option.bind_some, if_pos fits, Option.filter_some, kept]
              rfl
            · have refused : (hasMimeLead artifact "video/" &&
                  (artifactMediaLocation artifact).isSome) = false := by
                simpa using fits
              simp only [Option.bind_some, if_neg fits, Option.filter_some, refused]
              rfl
  · rw [if_neg asked, if_neg asked]
    rfl

theorem nodup_eraseDups {α : Type} [BEq α] [LawfulBEq α] (list : List α) :
    list.eraseDups.Nodup := by
  induction list using List.reverseRecOn with
  | nil => simp
  | append_singleton list value ih =>
      rw [List.eraseDups_append, List.cons_removeAll]
      by_cases member : value ∈ list
      · simpa [member] using ih
      · have single : (if list.contains value = false then value :: ([] : List α).removeAll list
            else ([] : List α).removeAll list).eraseDups = [value] := by
          simp [member, List.removeAll, List.eraseDups_cons]
        rw [single]
        refine List.nodup_append.mpr ⟨ih, List.nodup_singleton value, ?_⟩
        intro other old same member' equal
        obtain rfl := List.mem_singleton.mp member'
        exact member (List.mem_eraseDups.mp (equal ▸ old))

theorem trimmed_eq_some {text : Option String} {value : String}
    (found : Text.trimmed text = some value) : ∃ raw, text = some raw := by
  cases text with
  | none => simp [Text.trimmed] at found
  | some raw => exact ⟨raw, rfl⟩

theorem hinted_named {artifact : Json} {artifactId : String}
    (named : hintArtifactId artifact = some artifactId) :
    deliveryArtifactId artifact = some artifactId := by
  obtain ⟨raw, isRaw⟩ := trimmed_eq_some named
  obtain ⟨value, isValue, -⟩ := Option.bind_eq_some_iff.mp isRaw
  rw [hintArtifactId, isValue] at named
  rw [deliveryArtifactId, isValue]
  exact named

theorem markFileFallback_get (artifact : Json) {key : String} (other : "metadata" ≠ key) :
    (markFileFallback artifact).get key = artifact.get key := by
  cases artifact with
  | obj fields =>
      simp only [markFileFallback]
      split
      · simp [Json.get, Json.asObject, JsonMap.get_insert, other]
      · rfl
  | _ => rfl

theorem markFileFallback_named (artifact : Json) :
    hintArtifactId (markFileFallback artifact) = hintArtifactId artifact := by
  rw [hintArtifactId, markFileFallback_get artifact (by decide), hintArtifactId]

theorem firstVideo_facts {artifacts : List Json} {artifactId : String} {artifact : Json}
    (found : firstVideo artifacts artifactId = some artifact) :
    artifact ∈ artifacts ∧ hintArtifactId artifact = some artifactId ∧
      hasMimeLead artifact "video/" = true ∧ (artifactMediaLocation artifact).isSome = true := by
  obtain ⟨first, fits⟩ := Option.filter_eq_some_iff.mp found
  have named := List.find?_some first
  exact ⟨List.mem_of_find?_eq_some first, by simpa using named, by simpa using fits⟩

def markedVideo (artifacts : List Json) (artifactId : String) : Option Json :=
  (firstVideo artifacts artifactId).map markFileFallback

theorem markedVideo_named {artifacts : List Json} {artifactId : String} {video : Json}
    (marked : markedVideo artifacts artifactId = some video) :
    hintArtifactId video = some artifactId := by
  obtain ⟨artifact, found, rfl⟩ := Option.map_eq_some_iff.mp marked
  rw [markFileFallback_named, (firstVideo_facts found).2.1]

/-- A video is there already exactly if its id was met. -/
theorem markedVideos_any {artifacts : List Json} {artifactId : String} {video : Json}
    (marked : markedVideo artifacts artifactId = some video) (ids : List String) :
    ((ids.filterMap (markedVideo artifacts)).any fun existing =>
      hintArtifactId existing = some artifactId) = true ↔ artifactId ∈ ids := by
  simp only [List.any_eq_true, List.mem_filterMap, decide_eq_true_eq]
  constructor
  · rintro ⟨existing, ⟨other, member, chosen⟩, named⟩
    rw [markedVideo_named chosen] at named
    obtain rfl := Option.some.inj named
    exact member
  · intro member
    exact ⟨video, ⟨artifactId, member, marked⟩, markedVideo_named marked⟩

/-- Read by their ids, the videos are those ids that have one. -/
theorem markedVideos_read {artifacts : List Json} {read : Json → Option String}
    (reads : ∀ artifactId video, markedVideo artifacts artifactId = some video →
      read video = some artifactId) (ids : List String) :
    (ids.filterMap (markedVideo artifacts)).map read =
      (ids.filter fun artifactId => (markedVideo artifacts artifactId).isSome).map some := by
  induction ids with
  | nil => rfl
  | cons artifactId ids ih =>
      cases marked : markedVideo artifacts artifactId with
      | none =>
          rw [List.filterMap_cons_none marked, List.filter_cons_of_neg (by simp [marked]), ih]
      | some video =>
          rw [List.filterMap_cons_some marked, List.filter_cons_of_pos (by simp [marked]),
            List.map_cons, List.map_cons, ih, reads artifactId video marked]

/-- The loop over the hints: each id once, where it comes first, and only with a video. -/
theorem hintedNativeVideos_eq (artifacts : List Json) (payload : Json) :
    hintedNativeVideos artifacts payload =
      (hintedIds payload).eraseDups.filterMap (markedVideo artifacts) := by
  simp only [hintedNativeVideos, hintedIds]
  generalize ((payload.get "delivery_hints").bind Json.asArray).getD [] = hints
  induction hints using List.reverseRecOn with
  | nil => rfl
  | append_singleton hints hint ih =>
      rw [List.foldl_append, List.foldl_cons, List.foldl_nil, ih, hintedVideo_eq,
        List.filterMap_append, List.eraseDups_append, List.filterMap_append]
      cases asked : nativeVideoId hint with
      | none => simp [asked]
      | some artifactId =>
          rw [List.filterMap_cons_some asked, List.filterMap_nil, List.cons_removeAll]
          generalize hints.filterMap nativeVideoId = ids
          have nothing : ([] : List String).removeAll ids = [] := rfl
          rw [nothing]
          cases found : firstVideo artifacts artifactId with
          | none =>
              have unmarked : markedVideo artifacts artifactId = none := by simp [markedVideo, found]
              simp only [Option.bind_some, found, Option.map_none]
              by_cases member : artifactId ∈ ids
              · simp [member]
              · simp [member, unmarked, List.eraseDups_cons]
          | some artifact =>
              have marked : markedVideo artifacts artifactId = some (markFileFallback artifact) := by
                simp [markedVideo, found]
              have met := markedVideos_any marked ids.eraseDups
              rw [List.mem_eraseDups] at met
              simp only [Option.bind_some, found, Option.map_some]
              by_cases member : artifactId ∈ ids
              · rw [if_pos (met.mpr member), if_neg (by simpa using member)]
                simp
              · rw [if_neg (mt met.mp member), if_pos (by simpa using member)]
                simp [marked, List.eraseDups_cons]

/-! ## One plan for both paths -/

def contentArtifacts (content : Json) : List Json :=
  ((content.get "attachments").bind Json.asArray).getD []

def turnVideos (payload : Json) : List Json :=
  hintedNativeVideos (artifactCandidates payload) payload

def notificationVideos (payload : Json) : List Json :=
  hintedNativeVideos (contentArtifacts (deliveryContent payload)) (deliveryContent payload)

def isMarked (video : Json) : Bool :=
  (video.pointer ["metadata", "native_attachment_fallback"]).bind Json.asStr = some "file"

/-- The mark is put into the metadata, or into a new object where there is none. -/
def takesMark (artifact : Json) : Bool :=
  ((artifact.get "metadata").getD (.obj [])).isObject

/-- The videos a list of hints asks for: for each id once, in the order of the hints, the first
artifact with this id, if it is a video with a location; every one marked. -/
structure VideoPlan (artifacts : List Json) (ids : List String) (videos : List Json) : Prop where
  chosen : videos = (ids.eraseDups.filterMap (firstVideo artifacts)).map markFileFallback
  once : (videos.map hintArtifactId).Nodup
  marked : ∀ video ∈ videos, isMarked video = true

theorem markFileFallback_marked {artifact : Json} {artifactId : String}
    (named : hintArtifactId artifact = some artifactId) :
    isMarked (markFileFallback artifact) = takesMark artifact := by
  cases artifact with
  | obj fields =>
      simp only [markFileFallback, takesMark, Json.get, Json.asObject, Option.bind_some]
      cases metadata : (JsonMap.get fields "metadata").getD (.obj []) with
      | obj inner =>
          simp [isMarked, Json.pointer, Json.get, Json.asObject, JsonMap.get_insert, Json.asStr,
            Json.isObject]
      | _ =>
          cases present : JsonMap.get fields "metadata" with
          | none => simp [present] at metadata
          | some value =>
              obtain rfl : value = _ := by simpa [present] using metadata
              simp [isMarked, Json.pointer, Json.get, Json.asObject, present, Json.isObject]
  | _ => simp [hintArtifactId, Text.trimmed, Json.get, Json.asObject] at named

theorem firstVideo_objects (artifacts : List Json) (artifactId : String) :
    firstVideo (artifacts.filter Json.isObject) artifactId = firstVideo artifacts artifactId := by
  have object (artifact : Json) :
      decide (artifact.isObject = true ∧ decide (hintArtifactId artifact = some artifactId) = true) =
        decide (hintArtifactId artifact = some artifactId) := by
    cases artifact with
    | obj fields => simp [Json.isObject, Json.asObject]
    | _ => simp [hintArtifactId, Text.trimmed, Json.get, Json.asObject]
  simp only [firstVideo, List.find?_filter, object]

theorem markedVideo_map (artifacts : List Json) (ids : List String) :
    ids.filterMap (markedVideo artifacts) =
      (ids.filterMap (firstVideo artifacts)).map markFileFallback := by
  rw [List.map_filterMap]
  rfl

theorem turnVideos_eq {payload : Json} {artifacts : List Json}
    (listed : payload.get "artifacts" = some (.arr artifacts)) :
    turnVideos payload =
      ((hintedIds payload).eraseDups.filterMap (firstVideo artifacts)).map markFileFallback := by
  have candidates : artifactCandidates payload = artifacts.filter Json.isObject := by
    simp [artifactCandidates, listed, Json.asArray]
  have same : firstVideo (artifacts.filter Json.isObject) = firstVideo artifacts :=
    funext (firstVideo_objects artifacts)
  rw [turnVideos, hintedNativeVideos_eq, candidates, markedVideo_map, same]

theorem deliveryContent_reads {payload : Json} {artifacts : List Json}
    (listed : payload.get "artifacts" = some (.arr artifacts))
    (plain : (payload.get "content").bind Json.asObject = none) :
    contentArtifacts (deliveryContent payload) = artifacts ∧
      hintedIds (deliveryContent payload) = hintedIds payload := by
  have attachments : (deliveryContent payload).get "attachments" = some (.arr artifacts) := by
    simp only [deliveryContent, plain, listed, Option.getD_some]
    rfl
  have hints : (deliveryContent payload).get "delivery_hints" =
      some ((payload.get "delivery_hints").getD (.arr [])) := by
    simp only [deliveryContent, plain]
    rfl
  constructor
  · simp [contentArtifacts, attachments, Json.asArray]
  · rw [hintedIds, hints, hintedIds]
    cases payload.get "delivery_hints" with
    | none => rfl
    | some value => rfl

/-- Both paths choose by the hints' plan. -/
structure SameVideos (payload : Json) (artifacts : List Json) : Prop where
  same : turnVideos payload = notificationVideos payload
  plan : VideoPlan artifacts (hintedIds payload) (turnVideos payload)

theorem turn_and_notification_videos_iff {payload : Json} {artifacts : List Json}
    (listed : payload.get "artifacts" = some (.arr artifacts))
    (plain : (payload.get "content").bind Json.asObject = none) :
    SameVideos payload artifacts ↔
      ∀ artifactId ∈ hintedIds payload, ∀ artifact,
        firstVideo artifacts artifactId = some artifact → takesMark artifact = true := by
  have videos := turnVideos_eq listed
  constructor
  · intro holds artifactId asked artifact found
    have listed : markFileFallback artifact ∈ turnVideos payload := by
      rw [videos]
      refine List.mem_map_of_mem (List.mem_filterMap.mpr ⟨artifactId, ?_, found⟩)
      exact List.mem_eraseDups.mpr asked
    rw [← markFileFallback_marked (firstVideo_facts found).2.1]
    exact holds.plan.marked _ listed
  · intro room
    obtain ⟨attachments, ids⟩ := deliveryContent_reads listed plain
    refine ⟨?_, videos, ?_, ?_⟩
    · rw [notificationVideos, hintedNativeVideos_eq, attachments, ids, markedVideo_map, videos]
    · rw [videos, ← markedVideo_map, markedVideos_read fun _ _ => markedVideo_named]
      refine List.Nodup.map (fun _ _ same => Option.some.inj same) ?_
      exact (nodup_eraseDups _).filter _
    · intro video member
      rw [videos] at member
      obtain ⟨artifact, chosen, rfl⟩ := List.mem_map.mp member
      obtain ⟨artifactId, asked, found⟩ := List.mem_filterMap.mp chosen
      rw [markFileFallback_marked (firstVideo_facts found).2.1]
      exact room artifactId (List.mem_eraseDups.mp asked) artifact found

/-- A clip whose metadata is spelled out as null, and the hint that asks for it. -/
def nullMetadataArtifacts : List Json :=
  [.obj [("artifact_id", .str "clip"), ("metadata", .null), ("mime_type", .str "video/mp4"),
    ("url", .str "/api/cameras/recordings/artifacts/clip")]]

def nullMetadataPayload : Json :=
  .obj [("artifacts", .arr nullMetadataArtifacts),
    ("delivery_hints", .arr [.obj [("artifact_id", .str "clip"), ("fallback", .str "file"),
      ("kind", .str "native_video")]])]

theorem null_metadata_is_unmarked :
    nullMetadataPayload.get "artifacts" = some (.arr nullMetadataArtifacts) ∧
      (nullMetadataPayload.get "content").bind Json.asObject = none ∧
      ¬SameVideos nullMetadataPayload nullMetadataArtifacts := by
  refine ⟨rfl, rfl, ?_⟩
  intro same
  have all : (turnVideos nullMetadataPayload).all isMarked = true :=
    List.all_eq_true.mpr same.plan.marked
  exact absurd all (by decide)

theorem null_metadata_videos_iff : SameVideos nullMetadataPayload nullMetadataArtifacts ↔
    ∀ artifactId ∈ hintedIds nullMetadataPayload, ∀ artifact,
      firstVideo nullMetadataArtifacts artifactId = some artifact → takesMark artifact = true :=
  turn_and_notification_videos_iff rfl rfl

/-! ## The selection as a whole -/

theorem trimmed_not_blank {text : Option String} {value : String}
    (found : Text.trimmed text = some value) : Text.isBlank value = false := by
  obtain ⟨isTrim, visible⟩ := Option.filter_eq_some_iff.mp found
  obtain ⟨raw, -, rfl⟩ := Option.map_eq_some_iff.mp isTrim
  by_contra blank
  have empty := Text.isBlank_trim (by simpa using blank)
  simp [empty] at visible

theorem isLocated_iff {artifact : Json} :
    isLocated artifact = true ↔ (artifactMediaLocation artifact).isSome = true := by
  cases found : artifactMediaLocation artifact with
  | none => simp [isLocated, found, Text.isBlank]
  | some location =>
      have visible : Text.isBlank location = false := by
        simp only [artifactMediaLocation, Option.or_eq_some_iff] at found
        rcases found with path | ⟨-, url⟩
        · exact trimmed_not_blank path
        · exact trimmed_not_blank url
      simp [isLocated, found, visible]

theorem startsWith_toLowercase {text lead : String}
    (lower : lead.toList.flatMap Text.lowerChar = lead.toList)
    (starts : Text.startsWith text lead = true) :
    Text.startsWith (Text.toLowercase text) lead = true := by
  obtain ⟨rest, parts⟩ := List.isPrefixOf_iff_prefix.mp starts
  refine List.isPrefixOf_iff_prefix.mpr ⟨rest.flatMap Text.lowerChar, ?_⟩
  rw [Text.toLowercase, String.toList_ofList, ← parts, List.flatMap_append, lower]

theorem mimeType_of_lead {artifact : Json} {lead : String}
    (video : hasMimeLead artifact lead = true) :
    Text.startsWith (artifactMimeType artifact) lead = true := by
  simp only [hasMimeLead] at video
  cases mimeType : (artifact.get "mime_type").bind Json.asStr with
  | none => simp [mimeType] at video
  | some text => simpa [artifactMimeType, mimeType] using video

theorem firstVideo_media {artifacts : List Json} {artifactId : String} {artifact : Json}
    (found : firstVideo artifacts artifactId = some artifact) : isWeixinMedia artifact = true := by
  obtain ⟨-, -, video, located⟩ := firstVideo_facts found
  have lowered := startsWith_toLowercase (by decide) (mimeType_of_lead video)
  simp [isWeixinMedia, isLocated_iff.mpr located, lowered]

/-- Without media there are neither images nor videos, so the early return changes nothing. -/
theorem weixin_attachments (payload : Json) :
    nativeSourceBoundAttachments "weixin" payload =
      weixinNativeImages (artifactCandidates payload) payload ++ turnVideos payload := by
  have selects : nativeSourceBoundAttachments "weixin" payload =
      weixinNativeAttachments (artifactCandidates payload) payload := rfl
  rw [selects, weixinNativeAttachments]
  split
  · rename_i empty
    have media : (artifactCandidates payload).filter isWeixinMedia = [] := by simpa using empty
    have images : weixinNativeImages (artifactCandidates payload) payload = [] := by
      simp only [weixinNativeImages, media]
      cases nativeImageLimit payload with
      | none => rfl
      | some limit => exact List.take_nil
    have videos : turnVideos payload = [] := by
      rw [turnVideos, hintedNativeVideos_eq]
      refine List.filterMap_eq_nil_iff.mpr ?_
      intro artifactId _
      cases found : firstVideo (artifactCandidates payload) artifactId with
      | none => simp [markedVideo, found]
      | some artifact =>
          have isMedia := firstVideo_media found
          exact absurd isMedia (List.filter_eq_nil_iff.mp media _ (firstVideo_facts found).1)
    rw [images, videos]
    rfl
  · rfl

/-! ## Plans without a repeated id -/

def Distinct (artifacts : List Json) : Prop :=
  (artifacts.filterMap deliveryArtifactId).Nodup

/-- The attachments have distinct ids, so no message that carries them is rejected for one. -/
def Plannable (attachments : List Json) : Prop :=
  Distinct attachments ∧ ∀ outbound : OutboundMessage, outbound.attachments = attachments →
    ∃ items, splitOutboundItems outbound = .ok items

theorem plannable_iff {attachments : List Json} : Plannable attachments ↔ Distinct attachments := by
  refine ⟨And.left, fun distinct => ⟨distinct, ?_⟩⟩
  rintro outbound rfl
  cases split : splitOutboundItems outbound with
  | ok items => exact ⟨items, rfl⟩
  | error error => exact absurd distinct (splitOutboundItems_fails split).2

theorem Distinct.sublist {few many : List Json} (distinct : Distinct many)
    (sublist : few.Sublist many) : Distinct few :=
  List.Nodup.sublist (sublist.filterMap deliveryArtifactId) distinct

/-- Artifacts with the same id are one. -/
theorem Distinct.unique {artifacts : List Json} (distinct : Distinct artifacts)
    {first second : Json} {artifactId : String} (listed : first ∈ artifacts)
    (listed' : second ∈ artifacts) (named : deliveryArtifactId first = some artifactId)
    (named' : deliveryArtifactId second = some artifactId) : first = second := by
  induction artifacts with
  | nil => exact absurd listed List.not_mem_nil
  | cons artifact rest ih =>
      have later (other : Json) (member : other ∈ rest)
          (named : deliveryArtifactId other = some artifactId) :
          deliveryArtifactId artifact ≠ some artifactId := by
        intro head
        rw [Distinct, List.filterMap_cons_some head] at distinct
        exact (List.nodup_cons.mp distinct).1 (List.mem_filterMap.mpr ⟨other, member, named⟩)
      rcases List.mem_cons.mp listed with rfl | inRest
      · rcases List.mem_cons.mp listed' with rfl | inRest'
        · rfl
        · exact absurd named (later second inRest' named')
      · rcases List.mem_cons.mp listed' with rfl | inRest'
        · exact absurd named' (later first inRest named)
        · exact ih (distinct.sublist (List.sublist_cons_self artifact rest)) inRest inRest'

theorem hintedNativeVideos_ids (artifacts : List Json) (payload : Json) :
    (hintedNativeVideos artifacts payload).filterMap deliveryArtifactId =
      (hintedIds payload).eraseDups.filter fun artifactId =>
        (markedVideo artifacts artifactId).isSome := by
  rw [hintedNativeVideos_eq]
  generalize (hintedIds payload).eraseDups = ids
  have reads : (ids.filterMap (markedVideo artifacts)).map deliveryArtifactId =
      (ids.filter fun artifactId => (markedVideo artifacts artifactId).isSome).map some :=
    markedVideos_read (fun _ _ marked => hinted_named (markedVideo_named marked)) ids
  have flattened := congrArg (List.filterMap id) reads
  rw [List.filterMap_map, List.filterMap_map] at flattened
  simpa [Function.comp_def] using flattened

/-- Among the first images that the image hint asks for; without such a hint, all there is. -/
def AmongImages (payload artifact : Json) : Prop :=
  let media := (artifactCandidates payload).filter isWeixinMedia
  match nativeImageLimit payload with
  | some limit => artifact ∈ (media.filter isWeixinImage).take limit
  | none => media = [artifact]

/-- An image by its kind and a video by its MIME type, asked for as both. -/
structure PickedTwice (payload artifact : Json) : Prop where
  image : AmongImages payload artifact
  kind : artifactKind artifact = "image"
  video : hasMimeLead artifact "video/" = true
  hinted : ∃ artifactId ∈ hintedIds payload, hintArtifactId artifact = some artifactId

theorem mem_weixinNativeImages {payload artifact : Json} (image : isWeixinImage artifact = true) :
    artifact ∈ weixinNativeImages (artifactCandidates payload) payload ↔
      AmongImages payload artifact := by
  simp only [weixinNativeImages, AmongImages]
  generalize (artifactCandidates payload).filter isWeixinMedia = media
  cases nativeImageLimit payload with
  | some limit => exact Iff.rfl
  | none =>
      constructor
      · intro member
        simp only at member
        split at member
        · rename_i single
          obtain ⟨only, rfl⟩ := List.length_eq_one_iff.mp single.2
          rw [List.mem_singleton.mp (List.mem_filter.mp member).1]
        · exact absurd member List.not_mem_nil
      · rintro rfl
        simp [image]

theorem startsWith_exclusive {text : String} (video : Text.startsWith text "video/" = true) :
    Text.startsWith text "image/" = false := by
  by_contra other
  have image : Text.startsWith text "image/" = true := by simpa using other
  obtain ⟨rest, parts⟩ := List.isPrefixOf_iff_prefix.mp video
  obtain ⟨rest', parts'⟩ := List.isPrefixOf_iff_prefix.mp image
  have heads := congrArg List.head? (parts.trans parts'.symm)
  exact absurd heads (by simp)

theorem weixinNativeImages_sublist (artifacts : List Json) (payload : Json) :
    (weixinNativeImages artifacts payload).Sublist
      ((artifacts.filter isWeixinMedia).filter isWeixinImage) := by
  simp only [weixinNativeImages]
  split
  · exact List.take_sublist _ _
  · split
    · exact List.Sublist.refl _
    · exact List.nil_sublist _

theorem hintedNativeVideos_distinct (artifacts : List Json) (payload : Json) :
    Distinct (hintedNativeVideos artifacts payload) := by
  rw [Distinct, hintedNativeVideos_ids]
  exact (nodup_eraseDups _).filter _

/-- The first artifact of a hinted id carries the video of that id. -/
theorem markedVideo_of_hint {artifacts : List Json} (distinct : Distinct artifacts)
    {artifact : Json} {artifactId : String} (listed : artifact ∈ artifacts)
    (named : hintArtifactId artifact = some artifactId)
    (video : hasMimeLead artifact "video/" = true)
    (located : (artifactMediaLocation artifact).isSome = true) :
    (markedVideo artifacts artifactId).isSome = true := by
  have found : artifacts.find? (fun artifact => hintArtifactId artifact = some artifactId) =
      some artifact := by
    cases first : artifacts.find? fun artifact => hintArtifactId artifact = some artifactId with
    | none => exact absurd named (by simpa using List.find?_eq_none.mp first artifact listed)
    | some other =>
        have namedOther : hintArtifactId other = some artifactId := by
          simpa using List.find?_some first
        rw [distinct.unique listed (List.mem_of_find?_eq_some first) (hinted_named named)
          (hinted_named namedOther)]
  simp [markedVideo, firstVideo, found, video, located]

theorem weixin_distinct_iff {payload : Json} (distinct : Distinct (artifactCandidates payload)) :
    Distinct (nativeSourceBoundAttachments "weixin" payload) ↔
      ∀ artifact, ¬PickedTwice payload artifact := by
  rw [weixin_attachments, Distinct, List.filterMap_append, List.nodup_append]
  constructor
  · rintro ⟨-, -, apart⟩ artifact ⟨among, kind, video, artifactId, asked, named⟩
    have image := (mem_weixinNativeImages (by simp [isWeixinImage, kind])).mpr among
    have chosen := (weixinNativeImages_sublist _ _).subset image
    obtain ⟨media, -⟩ := List.mem_filter.mp chosen
    obtain ⟨listed, isMedia⟩ := List.mem_filter.mp media
    have located : isLocated artifact = true := by
      simp only [isWeixinMedia, Bool.and_eq_true] at isMedia
      exact isMedia.1
    refine apart artifactId ?_ artifactId ?_ rfl
    · exact List.mem_filterMap.mpr ⟨artifact, image, hinted_named named⟩
    · rw [turnVideos, hintedNativeVideos_ids]
      exact List.mem_filter.mpr ⟨List.mem_eraseDups.mpr asked,
        markedVideo_of_hint distinct listed named video (isLocated_iff.mp located)⟩
  · intro never
    have images : (weixinNativeImages (artifactCandidates payload) payload).Sublist
        (artifactCandidates payload) :=
      (weixinNativeImages_sublist _ _).trans (List.filter_sublist.trans List.filter_sublist)
    refine ⟨distinct.sublist images, hintedNativeVideos_distinct _ _, ?_⟩
    rintro artifactId pictured _ filmed rfl
    obtain ⟨artifact, image, named⟩ := List.mem_filterMap.mp pictured
    rw [turnVideos, hintedNativeVideos_ids] at filmed
    obtain ⟨asked, marked⟩ := List.mem_filter.mp filmed
    obtain ⟨first, found⟩ : ∃ first, firstVideo (artifactCandidates payload) artifactId =
        some first := by
      simpa [markedVideo, Option.isSome_iff_exists] using marked
    obtain ⟨listed, hinted, video, -⟩ := firstVideo_facts found
    obtain rfl := distinct.unique (images.subset image) listed named (hinted_named hinted)
    have isImage := (List.mem_filter.mp ((weixinNativeImages_sublist _ _).subset image)).2
    have among := (mem_weixinNativeImages isImage).mp image
    refine never artifact ⟨among, ?_, video, artifactId, List.mem_eraseDups.mp asked, hinted⟩
    -- A MIME type of a video is none of an image, so it was chosen for its kind.
    simpa [isWeixinImage, startsWith_exclusive (mimeType_of_lead video)] using isImage

theorem native_distinct {adapterName : String} {payload : Json}
    (distinct : Distinct (artifactCandidates payload)) (other : adapterName ≠ "weixin") :
    Distinct (nativeSourceBoundAttachments adapterName payload) := by
  refine distinct.sublist ?_
  simp only [nativeSourceBoundAttachments, other]
  split
  · exact List.nil_sublist _
  · simp only [if_false]
    split
    · exact List.nil_sublist _
    · split
      · exact (List.take_sublist _ _).trans List.filter_sublist
      · split
        · exact List.filter_sublist
        · exact List.nil_sublist _

/-- The images that `hinted_notification_attachments` adds to its videos. -/
def notificationImages (content : Json) : List Json :=
  let images := (contentArtifacts content).filter fun artifact =>
    hasMimeLead artifact "image/" && (artifactMediaLocation artifact).isSome
  match nativeImageLimit content with
  | some limit => images.take limit
  | none => []

theorem notificationImages_sublist (content : Json) :
    (notificationImages content).Sublist ((contentArtifacts content).filter fun artifact =>
      hasMimeLead artifact "image/" && (artifactMediaLocation artifact).isSome) := by
  simp only [notificationImages]
  split
  · exact List.take_sublist _ _
  · exact List.nil_sublist _

/-- The notification path goes by the MIME type alone. -/
theorem notification_distinct {content : Json} (distinct : Distinct (contentArtifacts content)) :
    Distinct (hintedNotificationAttachments content) := by
  have parts : hintedNotificationAttachments content =
      hintedNativeVideos (contentArtifacts content) content ++
        notificationImages content := rfl
  have images := notificationImages_sublist content
  rw [parts, Distinct, List.filterMap_append]
  refine List.nodup_append.mpr ⟨hintedNativeVideos_distinct _ _,
    distinct.sublist (images.trans List.filter_sublist), ?_⟩
  rintro artifactId filmed _ pictured rfl
  obtain ⟨artifact, image, named⟩ := List.mem_filterMap.mp pictured
  obtain ⟨listed, isImage⟩ := List.mem_filter.mp (images.subset image)
  rw [hintedNativeVideos_ids] at filmed
  obtain ⟨first, found⟩ : ∃ first, firstVideo (contentArtifacts content) artifactId =
      some first := by
    simpa [markedVideo, Option.isSome_iff_exists] using (List.mem_filter.mp filmed).2
  obtain ⟨listed', hinted, video, -⟩ := firstVideo_facts found
  obtain rfl := distinct.unique listed listed' named (hinted_named hinted)
  have lead := mimeType_of_lead (Bool.and_eq_true_iff.mp isImage).1
  simp [startsWith_exclusive (mimeType_of_lead video)] at lead

/-- A payload with distinct ids is planned without a repeated one, unless the Weixin turn path
picks an artifact twice. -/
theorem selection_plannable_iff (payload : Json) :
    ((Distinct (artifactCandidates payload) →
        ∀ adapterName, Plannable (nativeSourceBoundAttachments adapterName payload)) ∧
      (Distinct (contentArtifacts (deliveryContent payload)) →
        Plannable (hintedNotificationAttachments (deliveryContent payload)))) ↔
      (Distinct (artifactCandidates payload) → ∀ artifact, ¬PickedTwice payload artifact) := by
  simp only [plannable_iff]
  constructor
  · rintro ⟨turn, -⟩ distinct
    exact (weixin_distinct_iff distinct).mp (turn distinct "weixin")
  · intro never
    refine ⟨fun distinct adapterName => ?_, notification_distinct⟩
    by_cases weixin : adapterName = "weixin"
    · subst weixin
      exact (weixin_distinct_iff distinct).mpr (never distinct)
    · exact native_distinct distinct weixin

/-- An image by its kind, a video by its MIME type. -/
def mixedPayload : Json :=
  .obj [("artifacts", .arr [.obj [("artifact_id", .str "clip"), ("kind", .str "image"),
      ("mime_type", .str "video/mp4"), ("url", .str "/api/cameras/recordings/artifacts/clip")]]),
    ("delivery_hints", .arr [.obj [("kind", .str "native_image")],
      .obj [("artifact_id", .str "clip"), ("fallback", .str "file"),
        ("kind", .str "native_video")]])]

theorem mixedPayload_is_not_plannable : Distinct (artifactCandidates mixedPayload) ∧
    ¬Plannable (nativeSourceBoundAttachments "weixin" mixedPayload) := by
  constructor
  · exact List.nodup_singleton "clip"
  · intro plannable
    have ids : (nativeSourceBoundAttachments "weixin" mixedPayload).filterMap deliveryArtifactId =
        ["clip", "clip"] := by decide
    have distinct := plannable.1
    rw [Distinct, ids] at distinct
    exact absurd distinct (by decide)

end HarborGate
