import HarborGate.Gateway.Relay
import HarborGate.Lib.Utf8
import HarborGate.Server.Proxy

/-!
Camera artifacts on their two ways: `trusted_media_artifact_url` and `remote_media_artifact_id`
decide what can be downloaded, `authorize_camera_delivery` what is asked consent for. The first
reads a URL, the second looks for a text in it.
-/

namespace HarborGate

open Interleave

namespace HarborBeacon

open Url

/-! ## The download side -/

/-- What the source reads of a `url::Url`. The path is bytes; the crate keeps it ASCII. -/
structure ParsedUrl where
  scheme : String
  username : String
  password : Option String
  hostStr : Option String
  portOrKnownDefault : Option Nat
  path : Bytes
  query : Option String
  fragment : Option String

/-- `parse` and `join` are those of `url::Url`, `decode` is `urlencoding::decode`. -/
structure UrlCrates where
  parse : String → Option ParsedUrl
  join : ParsedUrl → String → Option ParsedUrl
  decode : Bytes → Option Bytes

def isWebScheme (scheme : String) : Bool :=
  scheme = "http" || scheme = "https"

def validBeaconBaseUrl (crates : UrlCrates) (raw : String) : Bool :=
  (crates.parse raw).any fun url =>
    isWebScheme url.scheme && url.hostStr.isSome && url.username = "" && url.password.isNone &&
      url.query.isNone && url.fragment.isNone

def ParsedUrl.pathSegments (url : ParsedUrl) : Option (List Bytes) :=
  (stripLead [0x2F] url.path).map (·.splitOn 0x2F)

def cameraDirectory : List Bytes :=
  [ascii "api", ascii "cameras", ascii "recordings", ascii "artifacts"]

def isArtifactByte (byte : UInt8) : Bool :=
  (0x30 ≤ byte && byte ≤ 0x39) || (0x41 ≤ byte && byte ≤ 0x5A) || (0x61 ≤ byte && byte ≤ 0x7A) ||
    (ascii "-_.~").contains byte

def isArtifactId (id : Bytes) : Bool :=
  id ≠ [] && id ≠ ascii "." && id ≠ ascii ".." && id.all isArtifactByte

/-- A path alone is read against the base. -/
def readArtifact (crates : UrlCrates) (base : ParsedUrl) (raw : String) : Option ParsedUrl :=
  if Text.startsWith raw "/" && !Text.startsWith raw "//" then crates.join base raw
  else crates.parse raw

def trustedMediaArtifactUrl (crates : UrlCrates) (baseUrl raw : String) : Option ParsedUrl :=
  match crates.parse baseUrl with
  | none => none
  | some base =>
      if !validBeaconBaseUrl crates baseUrl then none
      else
        match readArtifact crates base (Text.trim raw) with
        | none => none
        | some artifact =>
            if artifact.scheme ≠ base.scheme ∨ artifact.hostStr ≠ base.hostStr ∨
                artifact.portOrKnownDefault ≠ base.portOrKnownDefault ∨
                artifact.username ≠ "" ∨ artifact.password.isSome ∨
                artifact.query.any (· ≠ "media_context=chat") ∨ artifact.fragment.isSome then none
            else
              match artifact.pathSegments.bind (·.mapM crates.decode) with
              | none => none
              | some decodedSegments =>
                  if decodedSegments.length ≠ 5 ∨ decodedSegments.take 4 ≠ cameraDirectory then none
                  else if isArtifactId (decodedSegments.getD 4 []) then some artifact
                  else none

/-- What the packages document: between the origin and the query of an `http` URL stands its path,
and a path that is empty there becomes the root. -/
structure UrlCrates.Documented (crates : UrlCrates) : Prop where
  reads : ∃ set : EscapeSet, ∀ (text : String) (url : ParsedUrl),
    (crates.parse text = some url ∨
      ∃ base, Text.startsWith text "/" = true ∧ crates.join base text = some url) →
    isWebScheme url.scheme = true →
      ∃ lead rest, Proxy.utf8Bytes text = lead ++ rest ∧ (∀ byte ∈ lead, isStop byte = false) ∧
        ((rest.head?.any fun byte => slashed byte == 0x2F) = true ∧ url.path = path set rest ∨
          url.path = [0x2F])
  decodes : ∀ text, crates.decode text =
    if Proxy.utf8 (Url.decode text) then some (Url.decode text) else none

/-- Gate can download the URL as a camera recording, by itself or through the relay. -/
def Fetchable (crates : UrlCrates) (baseUrl url : String) : Prop :=
  (trustedMediaArtifactUrl crates baseUrl url).isSome = true ∨
    (remoteMediaArtifactId url).isSome = true

/-! ## The consent side -/

/-- `next` is whether the consent service was asked at all. -/
def consentProtocol (attachment : Json) : Protocol Op Ans Bool where
  allows _ op := ∀ cameras, op = .authorizeCameraAttachments cameras → attachment ∈ cameras
  possible _ _ := True
  next asked op _ := asked || match op with
    | .authorizeCameraAttachments _ => true
    | _ => false

/-- Whatever the answers, the check asks only with the attachment in the set it sends, and it does
not pass without asking. -/
def Consulted (gateway : Gateway) (outbound : OutboundMessage) (attachment : Json) : Prop :=
  Prog.Follows (consentProtocol attachment) false (authorizeCameraDelivery gateway outbound).run
    fun asked outcome => outcome = .ok () → asked = true

section Consulted

variable {attachment : Json} {gateway : Gateway} {outbound : OutboundMessage}

/-- Looking up the client asks nothing about attachments. -/
theorem outboundTaskClient_follows {asked : Bool} :
    Prog.Follows (consentProtocol attachment) asked (outboundTaskClient gateway outbound).run
      fun _ _ => True := by
  have returned {α : Type} (asked : Bool) (result : Except GatewayError α) :
      Prog.Follows (consentProtocol attachment) asked (propagate result).run fun _ _ => True :=
    Prog.Follows.pure trivial
  simp only [outboundTaskClient]
  split
  · refine Prog.Follows.liftBind ?_ ?_
    · intro cameras same
      simp at same
    intro selection _
    refine Prog.Follows.bindExcept (returned _ selection) (fun _ _ _ => trivial) ?_
    intro asked selection _
    refine Prog.Follows.bindExcept (returned _ _) (fun _ _ _ => trivial) ?_
    exact fun _ _ _ => returned _ _
  · split
    · exact Prog.Follows.pure trivial
    · split
      · exact Prog.Follows.pure trivial
      · exact Prog.Follows.pure trivial

theorem consulted_of_camera (listed : attachment ∈ outbound.attachments)
    (camera : isCameraArtifact attachment = true) : Consulted gateway outbound attachment := by
  have inside : attachment ∈ outbound.attachments.filter isCameraArtifact :=
    List.mem_filter.mpr ⟨listed, camera⟩
  simp only [Consulted, authorizeCameraDelivery]
  split
  · rename_i none
    simp [none] at inside
  · refine Prog.Follows.bindExcept outboundTaskClient_follows
      (fun _ _ _ failed => absurd failed (by simp)) ?_
    intro asked _ _
    refine Prog.Follows.liftBind ?_ ?_
    · intro cameras same
      obtain rfl := Op.authorizeCameraAttachments.inj same
      exact inside
    · intro answer _
      have marked : (consentProtocol attachment).next asked
          (.authorizeCameraAttachments (outbound.attachments.filter isCameraArtifact)) answer =
            true := Bool.or_true asked
      exact Prog.Follows.pure fun _ => marked

/-- A message with one attachment, which is no camera artifact, passes unasked. -/
theorem not_consulted_alone (other : isCameraArtifact attachment = false)
    (alone : outbound.attachments = [attachment]) : ¬Consulted gateway outbound attachment := by
  intro consulted
  have none : outbound.attachments.filter isCameraArtifact = [] := by simp [alone, other]
  simp only [Consulted, authorizeCameraDelivery, none] at consulted
  exact absurd (consulted rfl) (by decide)

end Consulted

/-! ## What both sides see -/

def cameraMarker : String :=
  "/api/cameras/recordings/artifacts/"

/-- The parsed URL names a recording at the base's own origin. -/
structure ArtifactOf (crates : UrlCrates) (base artifact : ParsedUrl) : Prop where
  origin : artifact.scheme = base.scheme ∧ artifact.hostStr = base.hostStr ∧
    artifact.portOrKnownDefault = base.portOrKnownDefault
  bare : artifact.username = "" ∧ artifact.password = none ∧ artifact.fragment = none ∧
    ∀ query, artifact.query = some query → query = "media_context=chat"
  address : ∃ segments id, artifact.pathSegments = some segments ∧
    segments.mapM crates.decode = some (cameraDirectory ++ [id]) ∧ isArtifactId id = true

/-- The text is read as a recording of the base, but it does not spell the directory out: a segment
of it is not literal. -/
structure Disguised (crates : UrlCrates) (baseUrl url : String) : Prop where
  recording : ∃ base artifact, crates.parse baseUrl = some base ∧
    validBeaconBaseUrl crates baseUrl = true ∧
    readArtifact crates base (Text.trim url) = some artifact ∧ ArtifactOf crates base artifact
  rewritten : ∃ segment ∈ (shown (Proxy.utf8Bytes (Text.trim url))).splitOn 0x2F, ¬Literal segment
  absent : Text.contains url cameraMarker = false

theorem split_directory {decoded : List Bytes} :
    (decoded.length = 5 ∧ decoded.take 4 = cameraDirectory ∧
        isArtifactId (decoded.getD 4 []) = true) ↔
      ∃ id, decoded = cameraDirectory ++ [id] ∧ isArtifactId id = true := by
  constructor
  · rintro ⟨five, directory, named⟩
    refine ⟨decoded.getD 4 [], ?_, named⟩
    have last : decoded.drop 4 = [decoded.getD 4 []] := by
      have size : (decoded.drop 4).length = 1 := by simp [five]
      obtain ⟨id, single⟩ := List.length_eq_one_iff.mp size
      have parts := List.take_append_drop 4 decoded
      rw [← parts, directory, single]
      rfl
    rw [← directory, ← last, List.take_append_drop]
  · rintro ⟨id, rfl, named⟩
    exact ⟨rfl, rfl, named⟩

theorem trusted_iff {crates : UrlCrates} {baseUrl url : String} :
    (trustedMediaArtifactUrl crates baseUrl url).isSome = true ↔
      ∃ base artifact, crates.parse baseUrl = some base ∧
        validBeaconBaseUrl crates baseUrl = true ∧
        readArtifact crates base (Text.trim url) = some artifact ∧
        ArtifactOf crates base artifact := by
  simp only [trustedMediaArtifactUrl]
  constructor
  · intro trusted
    split at trusted
    · simp at trusted
    rename_i base parsed
    split at trusted
    · simp at trusted
    rename_i valid
    split at trusted
    · simp at trusted
    rename_i artifact isRead
    split at trusted
    · simp at trusted
    rename_i same
    split at trusted
    · simp at trusted
    rename_i decoded segmented
    split at trusted
    · simp at trusted
    rename_i directory
    split at trusted
    · rename_i named
      simp only [not_or, not_not] at same directory
      obtain ⟨segments, listed, decodes⟩ := Option.bind_eq_some_iff.mp segmented
      obtain ⟨id, rfl, isId⟩ := split_directory.mp ⟨directory.1, directory.2, named⟩
      obtain ⟨scheme, host, port, username, password, query, fragment⟩ := same
      refine ⟨base, artifact, parsed, by simpa using valid, isRead, ?_⟩
      refine ⟨⟨scheme, host, port⟩, ⟨username, by simpa using password, by simpa using fragment, ?_⟩,
        segments, id, listed, decodes, isId⟩
      intro text present
      simpa [present] using query
    · simp at trusted
  · rintro ⟨base, artifact, parsed, valid, isRead, ⟨scheme, host, port⟩,
      ⟨username, password, fragment, query⟩, segments, id, listed, decodes, isId⟩
    have allowed : artifact.query.any (· ≠ "media_context=chat") = false := by
      cases present : artifact.query with
      | none => rfl
      | some text => simp [query text present]
    obtain ⟨five, directory, named⟩ := split_directory.mpr ⟨id, rfl, isId⟩
    rw [parsed]
    simp only [valid, isRead, scheme, host, port, username, password, fragment, allowed, listed,
      decodes, Option.bind_some, Option.isSome_none, Bool.not_true, Bool.false_eq_true, ne_eq,
      not_true_eq_false, or_self, if_false, five, directory, named, if_true, Option.isSome_some]

section Spelled

variable {crates : UrlCrates}

/-- Literal segments are decoded to themselves. -/
theorem decoded_literal (documented : crates.Documented) {set : EscapeSet} :
    ∀ {segments decoded : List Bytes}, (∀ segment ∈ segments, Literal segment) →
      (segments.map (escape set)).mapM crates.decode = some decoded → decoded = segments := by
  intro segments
  induction segments with
  | nil =>
      intro decoded _ decodes
      simpa using decodes.symm
  | cons segment segments ih =>
      intro decoded literal decodes
      have first : Url.decode (escape set segment) = segment := by
        rw [decode_escape, decode_of_no_octet (literal segment List.mem_cons_self).octets]
      rw [List.map_cons, List.mapM_cons, documented.decodes, first] at decodes
      obtain ⟨head, isHead, decodes⟩ := Option.bind_eq_some_iff.mp decodes
      obtain ⟨rest, isRest, decodes⟩ := Option.bind_eq_some_iff.mp decodes
      split at isHead
      · have others := ih (fun other member => literal other (List.mem_cons_of_mem _ member)) isRest
        obtain rfl := Option.some.inj isHead
        rw [← Option.some.inj decodes, others]
      · simp at isHead

theorem mapM_length {α β : Type} {f : α → Option β} : ∀ {list : List α} {out : List β},
    list.mapM f = some out → out.length = list.length := by
  intro list
  induction list with
  | nil =>
      intro out mapped
      obtain rfl : [] = out := by simpa using mapped
      rfl
  | cons value list ih =>
      intro out mapped
      rw [List.mapM_cons] at mapped
      obtain ⟨head, -, mapped⟩ := Option.bind_eq_some_iff.mp mapped
      obtain ⟨rest, isRest, mapped⟩ := Option.bind_eq_some_iff.mp mapped
      rw [← Option.some.inj mapped, List.length_cons, List.length_cons, ih isRest]

theorem shown_prefix (text : Bytes) : shown text <+: text :=
  (List.takeWhile_prefix _).trans (List.rdropWhile_prefix _ _)

theorem marker_ascii : ∀ c ∈ cameraMarker.toList, Text.isAscii c = true :=
  List.all_eq_true.mp (by decide)

theorem marker_bytes :
    Text.utf8 cameraMarker.toList = 0x2F :: [0x2F].intercalate (cameraDirectory ++ [[]]) := by
  decide

theorem contains_of_trim {url : String} (inside : cameraMarker.toList <:+: (Text.trim url).toList) :
    Text.contains url cameraMarker = true :=
  Text.contains_iff.mpr (inside.trans (Text.trim_infix url))

/-- A recording whose text has only literal segments spells the directory out. -/
theorem artifact_spelled (documented : crates.Documented) {base artifact : ParsedUrl} {url : String}
    (web : isWebScheme base.scheme = true)
    (isRead : readArtifact crates base (Text.trim url) = some artifact)
    (recording : ArtifactOf crates base artifact)
    (literal : ∀ segment ∈ (shown (Proxy.utf8Bytes (Text.trim url))).splitOn 0x2F,
      Literal segment) : Text.contains url cameraMarker = true := by
  obtain ⟨set, reads⟩ := documented.reads
  have source : crates.parse (Text.trim url) = some artifact ∨
      ∃ base, Text.startsWith (Text.trim url) "/" = true ∧
        crates.join base (Text.trim url) = some artifact := by
    simp only [readArtifact] at isRead
    split at isRead
    · rename_i relative
      exact .inr ⟨base, (Bool.and_eq_true_iff.mp relative).1, isRead⟩
    · exact .inl isRead
  obtain ⟨lead, rest, text, free, placed⟩ := reads _ _ source (by rw [recording.origin.1]; exact web)
  obtain ⟨segments, id, listed, decodes, -⟩ := recording.address
  obtain ⟨tail, stripped, rfl⟩ := Option.map_eq_some_iff.mp listed
  have isPath := stripLead_eq_some.mp stripped
  have five : (tail.splitOn 0x2F).length = 5 := by
    rw [← mapM_length decodes]
    rfl
  rcases placed with ⟨begins, isPath'⟩ | root
  · -- A backslash in front of the path is a byte of the text that no literal segment holds.
    obtain ⟨byte, rest, rfl⟩ : ∃ byte more, rest = byte :: more := by
      cases rest with
      | nil => simp at begins
      | cons byte more => exact ⟨byte, more, rfl⟩
    have either : byte = 0x2F ∨ byte = 0x5C := by
      by_cases backslash : byte = 0x5C
      · exact .inr backslash
      · exact .inl (by simpa [slashed, backslash] using begins)
    have visible : isBlank byte = false ∧ isStop byte = false := by
      rcases either with rfl | rfl
      all_goals decide
    rw [text, shown_append rest visible.1 free visible.2] at literal
    have slash : byte = 0x2F := by
      by_contra other
      obtain ⟨segment, inside, found⟩ := mem_segment
        (List.mem_append_right lead (List.mem_cons_self (a := byte) (l := shown rest))) other
      exact ((literal segment inside).bytes byte found).2.1 (either.resolve_left other)
    subst slash
    rw [List.splitOn_append_cons_self] at literal
    have literals : ∀ segment ∈ (shown rest).splitOn 0x2F, Literal segment :=
      fun segment member => literal segment (List.mem_append_right _ member)
    rw [path_literal set literals] at isPath'
    have isTail : tail = escape set (shown rest) := by
      rw [isPath, escape_cons, escapeByte_of_kept set set.keeps_slash] at isPath'
      simpa using isPath'
    rw [isTail, splitOn_escape] at decodes
    have spelled := decoded_literal documented literals decodes
    have directory : 0x2F :: shown rest = Text.utf8 cameraMarker.toList ++ id := by
      have joined : [0x2F].intercalate ((shown rest).splitOn 0x2F) = shown rest :=
        List.intercalate_splitOn 0x2F
      rw [← joined, ← spelled, marker_bytes]
      simp [cameraDirectory, List.intercalate]
    obtain ⟨more, whole⟩ := shown_prefix (Proxy.utf8Bytes (Text.trim url))
    rw [text, shown_append rest visible.1 free visible.2, directory, ← text, Proxy.utf8Bytes,
      Text.toUTF8_eq] at whole
    have stands : Text.utf8 (Text.trim url).toList =
        lead ++ (Text.utf8 cameraMarker.toList ++ (id ++ more)) := by
      rw [← whole]
      simp only [List.append_assoc]
    exact contains_of_trim (Text.infix_of_utf8 marker_ascii stands)
  · rw [isPath] at root
    obtain rfl : tail = [] := by simpa using root
    simp at five

theorem splitOnce_before {text before after : String} {separator : Char}
    (parted : Text.splitOnce text separator = some (before, after)) :
    before.toList <:+: text.toList := by
  simp only [Text.splitOnce] at parted
  split at parted
  · obtain rfl := (Prod.mk.inj (Option.some.inj parted)).1
    rw [String.toList_ofList]
    exact (List.takeWhile_prefix _).isInfix
  · simp at parted

theorem remote_spelled {url : String} (accepted : (remoteMediaArtifactId url).isSome = true) :
    Text.contains url cameraMarker = true := by
  have spelled {path id : String} (whole : path.toList <:+: url.toList)
      (stripped : Text.stripLead path cameraMarker = some id) :
      Text.contains url cameraMarker = true := by
    have leads : cameraMarker.toList <+: path.toList :=
      ⟨id.toList, (Text.stripLead_some stripped).symm⟩
    exact Text.contains_iff.mpr (leads.isInfix.trans whole)
  obtain ⟨id, isId⟩ := Option.isSome_iff_exists.mp accepted
  cases parted : Text.splitOnce url '?' with
  | none =>
      simp only [remoteMediaArtifactId, parted] at isId
      split at isId
      · simp at isId
      · exact spelled (List.infix_refl _) (Option.filter_eq_some_iff.mp isId).1
  | some parts =>
      simp only [remoteMediaArtifactId, parted] at isId
      split at isId
      · simp at isId
      · exact spelled (splitOnce_before parted) (Option.filter_eq_some_iff.mp isId).1

theorem valid_web {baseUrl : String} {base : ParsedUrl} (parsed : crates.parse baseUrl = some base)
    (valid : validBeaconBaseUrl crates baseUrl = true) : isWebScheme base.scheme = true := by
  simp only [validBeaconBaseUrl, parsed, Option.any_some, Bool.and_eq_true] at valid
  exact valid.1.1.1.1.1

theorem isCameraArtifact_named {attachment : Json} {url : String}
    (named : (attachment.index "url").asStr = some url) :
    isCameraArtifact attachment = Text.contains url cameraMarker := by
  simp only [isCameraArtifact, named, Option.any_some, cameraMarker]

/-- A message that carries nothing but one attachment with the URL. -/
def messageOf (url : String) : OutboundMessage where
  platform := "weixin"
  chatId := "chat"
  text := ""
  attachments := [.obj [("url", .str url)]]
  timestamp := ""
  metadata := []

theorem messageOf_named (url : String) :
    ((Json.obj [("url", .str url)]).index "url").asStr = some url := rfl

/-- Consent is asked for what can be fetched, unless the URL disguises where it points. -/
theorem consent_covers_fetchable_iff (documented : crates.Documented) (baseUrl url : String) :
    (Fetchable crates baseUrl url → ∀ (gateway : Gateway) (outbound : OutboundMessage)
        (attachment : Json), attachment ∈ outbound.attachments →
        (attachment.index "url").asStr = some url → Consulted gateway outbound attachment) ↔
      ¬Disguised crates baseUrl url := by
  constructor
  · intro covered disguised
    have fetchable : Fetchable crates baseUrl url := .inl (trusted_iff.mpr disguised.recording)
    have consulted := covered fetchable ⟨"", [], false, false⟩ (messageOf url) _
      List.mem_cons_self (messageOf_named url)
    refine not_consulted_alone ?_ rfl consulted
    rw [isCameraArtifact_named (messageOf_named url), disguised.absent]
  · intro undisguised fetchable gateway outbound attachment listed named
    apply consulted_of_camera listed
    have spelled : Text.contains url cameraMarker = true := by
      rcases fetchable with trusted | remote
      · obtain ⟨base, artifact, parsed, valid, isRead, recording⟩ := trusted_iff.mp trusted
        by_contra absent
        refine undisguised
          ⟨⟨base, artifact, parsed, valid, isRead, recording⟩, ?_, by simpa using absent⟩
        by_contra literal
        refine absent (artifact_spelled documented (valid_web parsed valid) isRead recording ?_)
        simpa using literal
      · exact remote_spelled remote
    rw [isCameraArtifact_named named, spelled]

end Spelled

/-! ## A disguised recording -/

def sampleBaseUrl : String :=
  "http://127.0.0.1:4174"

/-- One letter of the directory is percent-encoded. -/
def disguisedUrl : String :=
  "/api/cameras/recordings/%61rtifacts/clip"

def sampleBase : ParsedUrl where
  scheme := "http"
  username := ""
  password := none
  hostStr := some "127.0.0.1"
  portOrKnownDefault := some 4174
  path := [0x2F]
  query := none
  fragment := none

/-- The packages on these two texts. -/
def sampleCrates : UrlCrates where
  parse text := if text = sampleBaseUrl then some sampleBase else none
  join base text :=
    if text = disguisedUrl then
      some { base with path := path Proxy.standardSet (Proxy.utf8Bytes text) }
    else none
  decode text := if Proxy.utf8 (Url.decode text) then some (Url.decode text) else none

theorem sampleBaseUrl_free : ∀ byte ∈ Proxy.utf8Bytes sampleBaseUrl, isStop byte = false := by
  set_option maxRecDepth 2000 in
  decide

theorem sampleCrates_documented : sampleCrates.Documented where
  reads := by
    refine ⟨Proxy.standardSet, ?_⟩
    rintro text url (parsed | ⟨base, -, joined⟩) -
    · simp only [sampleCrates, Option.ite_none_right_eq_some] at parsed
      obtain ⟨rfl, same⟩ := parsed
      obtain rfl := Option.some.inj same
      exact ⟨Proxy.utf8Bytes sampleBaseUrl, [], by simp, sampleBaseUrl_free, .inr rfl⟩
    · simp only [sampleCrates, Option.ite_none_right_eq_some] at joined
      obtain ⟨rfl, same⟩ := joined
      obtain rfl := Option.some.inj same
      exact ⟨[], Proxy.utf8Bytes disguisedUrl, rfl, by simp, .inl ⟨by decide, rfl⟩⟩
  decodes _ := rfl

theorem disguised_clip_unasked : Fetchable sampleCrates sampleBaseUrl disguisedUrl ∧
    ∀ gateway : Gateway,
      ¬Consulted gateway (messageOf disguisedUrl) (.obj [("url", .str disguisedUrl)]) := by
  refine ⟨.inl (by decide), ?_⟩
  intro gateway
  refine not_consulted_alone ?_ rfl
  decide

theorem disguised_clip_covered :
    (Fetchable sampleCrates sampleBaseUrl disguisedUrl → ∀ (gateway : Gateway)
        (outbound : OutboundMessage) (attachment : Json), attachment ∈ outbound.attachments →
        (attachment.index "url").asStr = some disguisedUrl →
        Consulted gateway outbound attachment) ↔
      ¬Disguised sampleCrates sampleBaseUrl disguisedUrl :=
  consent_covers_fetchable_iff sampleCrates_documented sampleBaseUrl disguisedUrl

end HarborBeacon

end HarborGate
