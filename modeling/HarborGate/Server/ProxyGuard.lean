import HarborGate.Server.CameraScope

/-!
The guard of the proxy and the path that Beacon receives: the guard reads the target as it is
spelled, the client of the proxy parses it once more.
-/

namespace HarborGate

namespace Proxy

open Url

/-! ## What the guard protects -/

theorem isKnowledgePath_iff {method : Method} {path : Bytes} :
    isKnowledgePath method path = true ↔
      (method = .post ∧ path = ascii "/api/knowledge/search") ∨
      (method = .get ∧ path = ascii "/api/knowledge/conversations") ∨
      (method = .patch ∧ path = ascii "/api/knowledge/conversation-settings") ∨
      ((method = .get ∨ method = .delete) ∧ isConversationPath path = true) := by
  simp only [isKnowledgePath]
  split_ifs with search conversations settings reading
  · simp [search]
  · simp [conversations]
  · simp [settings]
  · simp [search, conversations, settings, reading]
  · simp [search, conversations, settings, reading]

theorem requires_iff {crates : Crates} {method : Method} {target : Bytes} :
    requiresHarborosPrincipal crates method target = true ↔
      isDlnaProxyPath crates (beforeQuery target) = true ∨
      (method = .post ∧ endsInPreview (beforeQuery target) = true ∧
        isDetectionControlProxyPath crates (beforeQuery target) = true) ∨
      (method = .get ∧ isDetectionObservationProxyPath (beforeQuery target) = true) ∨
      ((method = .get ∨ method = .put) ∧
        isDetectionControlProxyPath crates (beforeQuery target) = true) ∨
      isDetectionJobsPath (beforeQuery target) = true ∨
      isKnowledgePath method (beforeQuery target) = true := by
  simp only [requiresHarborosPrincipal]
  split_ifs with dlna preview observation control jobs
  · simp [dlna]
  · simp [preview]
  · simp [observation]
  · simp [control]
  · simp [jobs]
  · simp only [dlna, preview, observation, control, jobs, Bool.false_eq_true, false_or]

/-- Paths that no anonymous principal may reach. -/
def isAdministered (crates : Crates) (method : Method) (path : Bytes) : Bool :=
  isDlnaProxyPath crates path || isDetectionJobsPath path || isKnowledgePath method path

/-! ## Encoding a plain path -/

section Encoded

variable {crates : Crates} {set : EscapeSet}
  (parses : ∀ text, crates.urlPath (0x2F :: text) = some (path set (0x2F :: text)))

theorem beforeQuery_escape (set : EscapeSet) (text : Bytes) :
    beforeQuery (escape set text) = escape set text := by
  apply beforeQuery_of_free
  intro member
  have kept := (escapes_of_mem_escape set member).1
  simp [set.query] at kept

/-- A word that ends the encoded text behind a slash ends the text. -/
theorem ends_of_escape {text left words : Bytes} (free : 0x25 ∉ words)
    (same : escape set text = left ++ 0x2F :: words) :
    ∃ front, text = front ++ 0x2F :: words ∧ escape set front = left := by
  obtain ⟨front, last, shape, isLeft, isWords⟩ := escape_eq_slash set same
  have word := eq_of_escape_eq set free isWords
  subst word
  exact ⟨front, shape, isLeft⟩

theorem camera_of_escape {text encoded suffix : Bytes} (known : suffix ∈ cameraSuffixes)
    (same : escape set text = ascii "/api/cameras/" ++ encoded ++ suffix) :
    ∃ cameraId, text = ascii "/api/cameras/" ++ cameraId ++ suffix ∧
      escape set cameraId = encoded := by
  obtain ⟨words, rfl, -⟩ := suffix_words suffix known
  have free : 0x25 ∉ words := fun member =>
    (suffix_bytes _ known).2.2 (List.mem_cons_of_mem _ member)
  obtain ⟨front, rfl, isFront⟩ := ends_of_escape free same
  obtain ⟨cameraId, rfl, isId⟩ := escape_eq_append set (by decide) isFront
  exact ⟨cameraId, rfl, isId⟩

theorem observation_of_escape {text : Bytes} (free : 0x3F ∉ text)
    (observed : isDetectionObservationProxyPath (escape set text) = true) :
    isDetectionObservationProxyPath text = true := by
  obtain ⟨encoded, observed⟩ := Option.isSome_iff_exists.mp observed
  obtain ⟨suffix, member, shape, nonempty, noSlash⟩ := observationCameraId_eq_some.mp observed
  rw [beforeQuery_escape] at shape
  obtain ⟨cameraId, rfl, rfl⟩ := camera_of_escape (mem_of_observation member) shape
  apply Option.isSome_iff_exists.mpr
  refine ⟨cameraId, observationCameraId_eq_some.mpr ⟨suffix, member, beforeQuery_of_free free, ?_, ?_⟩⟩
  · rintro rfl
    exact nonempty (by simp [escape])
  · exact mt (slash_mem_escape set).mpr noSlash

theorem control_of_escape (documented : crates.Documented) {text : Bytes} (free : 0x3F ∉ text)
    (control : isDetectionControlProxyPath crates (escape set text) = true) :
    isDetectionControlProxyPath crates text = true := by
  obtain ⟨camera, control⟩ := Option.isSome_iff_exists.mp control
  obtain ⟨suffix, member, encoded, shape, decoded, valid⟩ := controlCameraId_eq_some.mp control
  rw [beforeQuery_escape] at shape
  obtain ⟨cameraId, rfl, rfl⟩ := camera_of_escape (mem_of_control member) shape
  apply Option.isSome_iff_exists.mpr
  refine ⟨camera, controlCameraId_eq_some.mpr
    ⟨suffix, member, cameraId, beforeQuery_of_free free, ?_, ?_⟩⟩
  · rw [documented.decodes] at decoded ⊢
    rwa [decode_escape] at decoded
  · exact { valid with
      encoded_ne := mt (escape_eq_nil set).mpr valid.encoded_ne
      noSlash := mt (slash_mem_escape set).mpr valid.noSlash }

theorem preview_of_escape {text : Bytes} (preview : endsInPreview (escape set text) = true) :
    endsInPreview text = true := by
  obtain ⟨left, same⟩ := List.isSuffixOf_iff_suffix.mp preview
  have shape : escape set text = left ++ 0x2F :: ascii "person-detection/preview" := same.symm
  obtain ⟨front, rfl, -⟩ := ends_of_escape (by decide) shape
  exact List.isSuffixOf_iff_suffix.mpr ⟨front, rfl⟩

theorem jobs_of_escape {text : Bytes} (jobs : isDetectionJobsPath (escape set text) = true) :
    isDetectionJobsPath text = true := by
  simp only [isDetectionJobsPath, Bool.or_eq_true, beq_iff_eq, List.isPrefixOf_iff_prefix] at jobs ⊢
  rcases jobs with whole | ⟨rest, below⟩
  · exact .inl (eq_of_escape_eq set (by decide) whole)
  · obtain ⟨tail, rfl, -⟩ := escape_eq_append set (by decide) below.symm
    exact .inr (List.prefix_append _ _)

theorem conversation_of_escape {text : Bytes}
    (conversation : isConversationPath (escape set text) = true) :
    isConversationPath text = true := by
  obtain ⟨rest, found⟩ := Option.isSome_iff_exists.mp conversation
  obtain ⟨strip, valid⟩ := Option.filter_eq_some_iff.mp found
  obtain ⟨tail, rfl, rfl⟩ := escape_eq_append set (by decide) (stripLead_eq_some.mp strip)
  simp only [decide_eq_true_eq] at valid
  have nonempty : tail ≠ [] := fun empty => valid.1 (by simp [empty, escape])
  have noSlash : 0x2F ∉ tail := mt (slash_mem_escape set).mpr valid.2
  have strips : stripLead (ascii "/api/knowledge/conversations/")
      (ascii "/api/knowledge/conversations/" ++ tail) = some tail := stripLead_eq_some.mpr rfl
  simp [isConversationPath, strips, nonempty, noSlash]

theorem knowledge_of_escape {method : Method} {text : Bytes}
    (knowledge : isKnowledgePath method (escape set text) = true) :
    isKnowledgePath method text = true := by
  rw [isKnowledgePath_iff] at knowledge ⊢
  rcases knowledge with ⟨post, same⟩ | ⟨get, same⟩ | ⟨patch, same⟩ | ⟨reading, conversation⟩
  · exact .inl ⟨post, eq_of_escape_eq set (by decide) same⟩
  · exact .inr (.inl ⟨get, eq_of_escape_eq set (by decide) same⟩)
  · exact .inr (.inr (.inl ⟨patch, eq_of_escape_eq set (by decide) same⟩))
  · exact .inr (.inr (.inr ⟨reading, conversation_of_escape conversation⟩))

include parses

theorem urlPath_of_head {text : Bytes} (slash : text.head? = some 0x2F) :
    crates.urlPath text = some (path set text) := by
  cases text with
  | nil => simp at slash
  | cons byte rest =>
      simp only [List.head?_cons, Option.some.injEq] at slash
      rw [slash]
      exact parses rest

/-- The guard reads the same DLNA path out of a plain text and out of its encoding. -/
theorem dlna_of_escape {text : Bytes} (plain : Plain text) (slash : text.head? = some 0x2F)
    (free : 0x3F ∉ text) :
    isDlnaProxyPath crates (escape set text) = isDlnaProxyPath crates text := by
  have own : crates.urlPath text = some (escape set text) := by
    rw [urlPath_of_head parses slash, path_plain set (.inl rfl) plain slash free]
  have head := escape_head set slash
  have again : crates.urlPath (escape set text) = some (escape set text) := by
    rw [urlPath_of_head parses head, path_escape set plain slash]
  simp only [isDlnaProxyPath, own, again]

theorem requires_of_escape (documented : crates.Documented) {method : Method} {text : Bytes}
    (plain : Plain text) (slash : text.head? = some 0x2F) (free : 0x3F ∉ text)
    (protects : requiresHarborosPrincipal crates method (escape set text) = true) :
    requiresHarborosPrincipal crates method text = true := by
  rw [requires_iff, beforeQuery_escape] at protects
  rw [requires_iff, beforeQuery_of_free free]
  rcases protects with dlna | ⟨post, preview, control⟩ | ⟨get, observed⟩ | ⟨steering, control⟩ |
    jobs | knowledge
  · exact .inl (dlna_of_escape parses plain slash free ▸ dlna)
  · exact .inr (.inl ⟨post, preview_of_escape preview, control_of_escape documented free control⟩)
  · exact .inr (.inr (.inl ⟨get, observation_of_escape free observed⟩))
  · exact .inr (.inr (.inr (.inl ⟨steering, control_of_escape documented free control⟩)))
  · exact .inr (.inr (.inr (.inr (.inl (jobs_of_escape jobs)))))
  · exact .inr (.inr (.inr (.inr (.inr (knowledge_of_escape knowledge)))))

theorem administered_of_escape {method : Method} {text : Bytes} (plain : Plain text)
    (slash : text.head? = some 0x2F) (free : 0x3F ∉ text)
    (administered : isAdministered crates method (escape set text) = true) :
    isAdministered crates method text = true := by
  simp only [isAdministered, Bool.or_eq_true] at administered ⊢
  rcases administered with (dlna | jobs) | knowledge
  · exact .inl (.inl (dlna_of_escape parses plain slash free ▸ dlna))
  · exact .inl (.inr (jobs_of_escape jobs))
  · exact .inr (knowledge_of_escape knowledge)

end Encoded

/-! ## Camera paths are never administered -/

theorem leads_nested {first second left right : Bytes} (same : first ++ left = second ++ right) :
    first <+: second ∨ second <+: first := by
  have one : first <+: second ++ right := same ▸ List.prefix_append _ _
  exact List.prefix_or_prefix_of_prefix one (List.prefix_append _ _)

theorem camera_lead_ne {word : Bytes} (rest tail : Bytes)
    (apart : ¬word <+: ascii "/api/cameras/" ∧ ¬ascii "/api/cameras/" <+: word) :
    ascii "/api/cameras/" ++ rest ≠ word ++ tail := by
  intro same
  rcases leads_nested same with nested | nested
  · exact apart.2 nested
  · exact apart.1 nested

theorem camera_ne_word {word : Bytes} (rest : Bytes)
    (apart : ¬word <+: ascii "/api/cameras/" ∧ ¬ascii "/api/cameras/" <+: word) :
    ascii "/api/cameras/" ++ rest ≠ word := by
  simpa using camera_lead_ne rest [] apart

theorem camera_not_dlna (rest : Bytes) : isDlna (ascii "/api/cameras/" ++ rest) = false := by
  by_contra dlna
  simp only [isDlna, Bool.not_eq_false, Bool.or_eq_true, beq_iff_eq,
    List.isPrefixOf_iff_prefix] at dlna
  rcases dlna with whole | ⟨tail, below⟩
  · exact camera_ne_word rest (by decide) whole
  · exact camera_lead_ne rest tail (by decide) below.symm

theorem camera_not_jobs (rest : Bytes) :
    isDetectionJobsPath (ascii "/api/cameras/" ++ rest) = false := by
  by_contra jobs
  simp only [isDetectionJobsPath, Bool.not_eq_false, Bool.or_eq_true, beq_iff_eq,
    List.isPrefixOf_iff_prefix] at jobs
  rcases jobs with whole | ⟨tail, below⟩
  · exact camera_ne_word rest (by decide) whole
  · exact camera_lead_ne rest tail (by decide) below.symm

theorem camera_not_knowledge (method : Method) (rest : Bytes) :
    isKnowledgePath method (ascii "/api/cameras/" ++ rest) = false := by
  by_contra knowledge
  rw [Bool.not_eq_false, isKnowledgePath_iff] at knowledge
  rcases knowledge with ⟨-, same⟩ | ⟨-, same⟩ | ⟨-, same⟩ | ⟨-, conversation⟩
  · exact camera_ne_word rest (by decide) same
  · exact camera_ne_word rest (by decide) same
  · exact camera_ne_word rest (by decide) same
  · obtain ⟨tail, found⟩ := Option.isSome_iff_exists.mp conversation
    have strip := stripLead_eq_some.mp (Option.filter_eq_some_iff.mp found).1
    exact camera_lead_ne rest tail (by decide) strip

theorem dlnaRounds_camera {crates : Crates} (documented : crates.Documented) (rounds : Nat) :
    ∀ rest, dlnaRounds crates rounds (ascii "/api/cameras/" ++ rest) = false := by
  induction rounds with
  | zero => exact fun _ => rfl
  | succ rounds ih =>
      intro rest
      simp only [dlnaRounds, camera_not_dlna, Bool.false_eq_true, if_false]
      split
      · rfl
      · rename_i decoded isDecoded
        have same := decode_eq documented isDecoded
        rw [decode_append_of_ne _ (by decide)] at same
        subst same
        split
        · rfl
        · exact ih _

theorem camera_not_administered {crates : Crates} (documented : crates.Documented)
    {method : Method} {cameraId suffix : Bytes}
    (plain : Plain (ascii "/api/cameras/" ++ cameraId ++ suffix))
    (free : 0x3F ∉ ascii "/api/cameras/" ++ cameraId ++ suffix) :
    isAdministered crates method (ascii "/api/cameras/" ++ cameraId ++ suffix) = false := by
  obtain ⟨set, parses⟩ := documented.parses
  have slash : (ascii "/api/cameras/" ++ cameraId ++ suffix).head? = some 0x2F := by rfl
  have own := urlPath_of_head parses slash
  rw [path_plain set (.inl rfl) plain slash free, List.append_assoc, escape_append,
    escape_of_kept set lead_kept] at own
  simp only [isAdministered, isDlnaProxyPath, List.append_assoc, own,
    dlnaRounds_camera documented, camera_not_jobs, camera_not_knowledge, Bool.or_self]

/-! ## Dot segments in place of a camera id -/

/-- A path all of whose segments are words of camera paths. -/
def Worded (sent : Bytes) : Prop :=
  ∀ segment ∈ sent.splitOn 0x2F, segment ∈ cameraWords

theorem Worded.kept {sent : Bytes} (worded : Worded sent) : ∀ byte ∈ sent, isKept byte = true := by
  have words := words_kept
  induction sent using segment_induction with
  | one text free =>
      apply words
      apply worded
      simp [List.splitOn_eq_singleton free]
  | more segment rest free ih =>
      rw [Worded, List.splitOn_append_cons_self_of_not_mem free] at worded
      intro byte member
      rcases List.mem_append.mp member with inSegment | member
      · exact words segment (worded segment List.mem_cons_self) byte inSegment
      rcases List.mem_cons.mp member with rfl | inRest
      · decide
      · exact ih (fun other later => worded other (List.mem_cons_of_mem _ later)) byte inRest

theorem Worded.plain {sent : Bytes} (worded : Worded sent) : Plain sent := by
  constructor
  · intro byte member
    have facts := isKept_facts (worded.kept byte member)
    exact ⟨facts.1, facts.2.1, facts.2.2.1⟩
  · intro segment member
    exact (cameraWords_plain segment (worded segment member)).1.dots
  · intro last found
    exact (isKept_facts (worded.kept last (List.mem_of_getLast? found))).2.2.2

/-- Such a path is neither at nor below a path with a segment of its own. -/
theorem Worded.ne {sent lead : Bytes} (worded : Worded sent)
    (foreign : ∃ segment ∈ lead.splitOn 0x2F, segment ∉ cameraWords) : sent ≠ lead := by
  obtain ⟨segment, member, notWord⟩ := foreign
  rintro rfl
  exact notWord (worded segment member)

theorem Worded.not_below {sent below lead rest : Bytes} (worded : Worded sent)
    (slash : below = lead ++ [0x2F])
    (foreign : ∃ segment ∈ lead.splitOn 0x2F, segment ∉ cameraWords) : sent ≠ below ++ rest := by
  obtain ⟨segment, member, notWord⟩ := foreign
  rintro rfl
  apply notWord
  apply worded
  rw [slash, List.append_assoc, List.singleton_append, List.splitOn_append_cons_self]
  exact List.mem_append_left _ member

theorem Worded.decode_self {sent : Bytes} (worded : Worded sent) : Url.decode sent = sent := by
  have words : ∀ word ∈ cameraWords, 0x25 ∉ word := by decide
  have free : 0x25 ∉ sent := by
    induction sent using segment_induction with
    | one text free =>
        apply words
        apply worded
        simp [List.splitOn_eq_singleton free]
    | more segment rest free ih =>
        rw [Worded, List.splitOn_append_cons_self_of_not_mem free] at worded
        have later := ih fun other member => worded other (List.mem_cons_of_mem _ member)
        have first := words segment (worded segment List.mem_cons_self)
        simp [first, later]
  simpa [Url.decode] using decode_append_of_ne [] free

theorem Worded.not_jobs {sent : Bytes} (worded : Worded sent) :
    isDetectionJobsPath sent = false := by
  have slash : ascii "/api/vision/detection-jobs/" =
      ascii "/api/vision/detection-jobs" ++ [0x2F] := by decide
  by_contra jobs
  simp only [isDetectionJobsPath, Bool.not_eq_false, Bool.or_eq_true, beq_iff_eq,
    List.isPrefixOf_iff_prefix] at jobs
  rcases jobs with whole | ⟨tail, below⟩
  · exact worded.ne (by decide) whole
  · exact worded.not_below slash (by decide) below.symm

theorem Worded.not_knowledge {sent : Bytes} (worded : Worded sent) (method : Method) :
    isKnowledgePath method sent = false := by
  by_contra knowledge
  rw [Bool.not_eq_false, isKnowledgePath_iff] at knowledge
  rcases knowledge with ⟨-, same⟩ | ⟨-, same⟩ | ⟨-, same⟩ | ⟨-, conversation⟩
  · exact worded.ne (by decide) same
  · exact worded.ne (by decide) same
  · exact worded.ne (by decide) same
  · obtain ⟨tail, found⟩ := Option.isSome_iff_exists.mp conversation
    have strip := stripLead_eq_some.mp (Option.filter_eq_some_iff.mp found).1
    have slash : ascii "/api/knowledge/conversations/" =
        ascii "/api/knowledge/conversations" ++ [0x2F] := by decide
    exact worded.not_below slash (by decide) strip

theorem Worded.not_dlna {crates : Crates} (documented : crates.Documented) {sent : Bytes}
    (worded : Worded sent) (slash : sent.head? = some 0x2F) :
    isDlnaProxyPath crates sent = false := by
  obtain ⟨set, parses⟩ := documented.parses
  have free : 0x3F ∉ sent := by
    intro member
    have kept := worded.kept _ member
    simp [isKept] at kept
  have own : crates.urlPath sent = some sent := by
    rw [urlPath_of_head parses slash, path_plain set (.inl rfl) worded.plain slash free,
      escape_of_kept set worded.kept]
  have below : ascii "/api/dlna/" = ascii "/api/dlna" ++ [0x2F] := by decide
  have notDlna : isDlna sent = false := by
    by_contra dlna
    simp only [isDlna, Bool.not_eq_false, Bool.or_eq_true, beq_iff_eq,
      List.isPrefixOf_iff_prefix] at dlna
    rcases dlna with whole | ⟨tail, under⟩
    · exact worded.ne (by decide) whole
    · exact worded.not_below below (by decide) under.symm
  have same : Url.decode sent = sent := worded.decode_self
  simp only [isDlnaProxyPath, own, dlnaRounds, notDlna, Bool.false_eq_true, if_false]
  split
  · rfl
  · rename_i decoded isDecoded
    rw [if_pos ((decode_eq documented isDecoded).symm.trans same)]

theorem Worded.not_administered {crates : Crates} (documented : crates.Documented)
    {method : Method} {sent : Bytes} (worded : Worded sent) (slash : sent.head? = some 0x2F) :
    isAdministered crates method sent = false := by
  simp only [isAdministered, worded.not_dlna documented slash, worded.not_jobs,
    worded.not_knowledge method, Bool.or_self]

theorem worded_of_dot {set : EscapeSet} {target encoded suffix : Bytes}
    (known : suffix ∈ cameraSuffixes)
    (shape : beforeQuery target = ascii "/api/cameras/" ++ encoded ++ suffix)
    (dot : isDot encoded = true) : Worded (path set target) := by
  have words := words_kept
  intro segment member
  rcases mem_path set member with rfl | ⟨source, inside, notDot, rfl⟩
  · decide
  · rcases mem_segments_camera known shape inside with word | part
    · rwa [escape_of_kept set (words source word)]
    · rw [(dots_decode encoded (isDot_iff.mp dot)).2, List.mem_singleton] at part
      rw [part, dot] at notDot
      simp at notDot

/-! ## Who gets through the guard -/

theorem insertTrustedHeader_ok {headers result : Headers} {name : String} {value : Bytes}
    (ok : insertTrustedHeader headers name value = .ok result) : isHeaderValue value = true := by
  simp only [insertTrustedHeader] at ok
  split at ok
  · assumption
  · simp at ok

theorem scope_is_header_value {headers upstream : Headers} {token workspace : String}
    {principal : HarborOsPrincipal} {scope : Bytes}
    (ok : beaconUpstreamHeaders headers token (some principal) workspace = .ok upstream)
    (hasScope : principal.cameraScope = some scope) : isHeaderValue scope = true := by
  simp only [beaconUpstreamHeaders] at ok
  split at ok
  · simp at ok
  simp only [principalHeaders, hasScope] at ok
  obtain ⟨_, -, ok⟩ := Result.bind_eq_ok.mp ok
  obtain ⟨_, -, ok⟩ := Result.bind_eq_ok.mp ok
  obtain ⟨_, -, ok⟩ := Result.bind_eq_ok.mp ok
  obtain ⟨_, -, ok⟩ := Result.bind_eq_ok.mp ok
  exact insertTrustedHeader_ok ok

/-- Beyond the guard there is a principal: the authenticated one, or an anonymous one without a
token, whose camera goes into a header. -/
theorem admitted {crates : Crates} {host : Host} {request : Request} {forwarded : Forwarded}
    (sent : request.serve crates host = .ok forwarded)
    (required : requiresHarborosPrincipal crates request.method forwarded.target = true) :
    ∃ principal, forwarded.principal = some principal ∧
      (authenticateHarborosRequest host request.headers = .ok principal ∨
        lanAccess crates request.method forwarded.target = .ok principal ∧
          ∀ scope, principal.cameraScope = some scope → isHeaderValue scope = true) := by
  obtain ⟨-, principal, upstream⟩ := serve_ok sent
  rw [proxyPrincipal, if_pos required] at principal
  obtain ⟨value, access, same⟩ := Result.map_eq_ok.mp principal
  rw [← same] at upstream
  refine ⟨value, same.symm, ?_⟩
  rw [authenticateProxyPrincipal] at access
  split at access
  · exact .inl access
  · exact .inr ⟨access, fun scope hasScope => scope_is_header_value upstream hasScope⟩

theorem sample_view {crates : Crates} {target camera : Bytes}
    (required : requiresHarborosPrincipal crates .get target = true)
    (control : detectionControlCameraId crates target = none)
    (observed : detectionObservationCameraId target = some camera)
    (valid : isHeaderValue camera = true) :
    proxyBeaconRequest crates sampleHost .get [] target = .ok (viewForwarded target camera) := by
  have base : trimEndSlashes (Text.trim sampleHost.harborbeaconBaseUrl) = "http://beacon" := by
    decide
  have token : Text.trim sampleHost.harborbeaconWebApiToken ≠ "" := by decide
  have access : lanAccess crates .get target = .ok (lanPrincipal "CAMERA_VIEW" camera) := by
    simp [lanAccess, control, observed]
  have principal : proxyPrincipal crates sampleHost .get [] target =
      .ok (some (lanPrincipal "CAMERA_VIEW" camera)) := by
    simp [proxyPrincipal, required, authenticateProxyPrincipal, access, Except.map]
  have upstream : beaconUpstreamHeaders [] sampleHost.harborbeaconWebApiToken
      (some (lanPrincipal "CAMERA_VIEW" camera)) sampleHost.harborWorkspaceId =
        .ok (viewForwarded target camera).headers := by
    have authorization : utf8Bytes ("Bearer " ++ Text.trim sampleHost.harborbeaconWebApiToken) =
        ascii "Bearer secret" := by decide
    have source : utf8Bytes "harbornavi-lan" = ascii "harbornavi-lan" := by decide
    have principalId : utf8Bytes "harbornavi-lan:anonymous" = ascii "harbornavi-lan:anonymous" := by
      decide
    have roles : utf8Bytes (",".intercalate ["CAMERA_VIEW"]) = ascii "CAMERA_VIEW" := by
      decide
    have workspace : utf8Bytes (Text.trim sampleHost.harborWorkspaceId) = ascii "home" := by
      decide
    have values : isHeaderValue (ascii "Bearer secret") = true ∧
        isHeaderValue (ascii "harbornavi-lan") = true ∧
        isHeaderValue (ascii "harbornavi-lan:anonymous") = true ∧
        isHeaderValue (ascii "CAMERA_VIEW") = true ∧ isHeaderValue (ascii "home") = true := by
      decide
    simp only [beaconUpstreamHeaders, authorization, values, not_true_eq_false, if_false,
      principalHeaders, lanPrincipal, source, principalId, roles, workspace, insertTrustedHeader,
      if_true, valid, bind, Except.bind]
    rfl
  have named : ("http://beacon" : String) ≠ "" := by decide
  simp only [proxyBeaconRequest, base, token, principal, if_neg named, if_false, bind, Except.bind,
    upstream]
  rfl

/-! ## The guard and the path sent -/

/-- What the guard owes to the path that Beacon receives. -/
structure GuardHolds (crates : Crates) (request : Request) (target sent : Bytes) : Prop where
  protects : requiresHarborosPrincipal crates request.method sent = true →
    requiresHarborosPrincipal crates request.method target = true
  privileged : isAdministered crates request.method sent = true →
    ∀ host headers forwarded,
      ({ request with headers := headers } : Request).serve crates host = .ok forwarded →
        ∃ principal, forwarded.principal = some principal ∧
          authenticateHarborosRequest host headers = .ok principal

/-- The path as the client spelled it, decoded once. -/
def Request.spelled (crates : Crates) (request : Request) : Bytes :=
  match request.tail with
  | none => beforeQuery (targetBase [])
  | some tail => beforeQuery (targetBase ((crates.decode tail).getD []))

/-- The spelling of the path does no harm: Beacon receives a path that is not protected, or the
guard protects the spelled path too, and not just as a camera view that is open to the LAN. -/
def Harmless (crates : Crates) (request : Request) (sent : Bytes) : Prop :=
  requiresHarborosPrincipal crates request.method sent = false ∨
    requiresHarborosPrincipal crates request.method (request.spelled crates) = true ∧
      ¬(isAdministered crates request.method sent = true ∧ request.method = .get ∧
        ∃ camera, detectionObservationCameraId (request.spelled crates) = some camera ∧
          isHeaderValue camera = true)

theorem requires_beforeQuery {crates : Crates} {method : Method} {target : Bytes} :
    requiresHarborosPrincipal crates method (beforeQuery target) =
      requiresHarborosPrincipal crates method target := by
  have again := beforeQuery_of_free (query_not_mem_beforeQuery target)
  simp only [requiresHarborosPrincipal, again]

theorem administered_requires {crates : Crates} {method : Method} {path : Bytes}
    (free : 0x3F ∉ path) (administered : isAdministered crates method path = true) :
    requiresHarborosPrincipal crates method path = true := by
  rw [requires_iff, beforeQuery_of_free free]
  simp only [isAdministered, Bool.or_eq_true] at administered
  rcases administered with (dlna | jobs) | knowledge
  · exact .inl dlna
  · exact .inr (.inr (.inr (.inr (.inl jobs))))
  · exact .inr (.inr (.inr (.inr (.inr knowledge))))

theorem target_head {crates : Crates} {request : Request} {target : Bytes}
    (accepted : request.target crates = .ok target) :
    (beforeQuery target).head? = some 0x2F := by
  have base : ∀ path, (beforeQuery (targetBase path)).head? = some 0x2F := by
    intro path
    simp only [targetBase]
    split
    · decide
    · simp [beforeQuery, ascii]
  rcases target_cases accepted with ⟨-, rfl⟩ | ⟨tail, -, control⟩ | ⟨tail, decoded, -, -, -, rfl, -⟩
  · rw [beforeQuery_target]
    exact base []
  · obtain ⟨suffix, -, cameraId, -, -, rfl⟩ := controlTarget_ok control
    rw [beforeQuery_target]
    exact base tail
  · rw [beforeQuery_target]
    exact base decoded

/-- The guard is right about a plain target: its text and the path sent differ in encoding only. -/
theorem plain_guard {crates : Crates} (documented : crates.Documented) {request : Request}
    {target sent : Bytes} (accepted : request.target crates = .ok target)
    (parsed : crates.urlPath target = some sent) (plain : Plain (beforeQuery target)) :
    GuardHolds crates request target sent := by
  obtain ⟨set, parses⟩ := documented.parses
  have slash := target_head accepted
  have free := query_not_mem_beforeQuery target
  obtain rfl := Option.some.inj (parsed.symm.trans (urlPath_plain parses plain slash))
  constructor
  · intro protects
    rw [← requires_beforeQuery]
    exact requires_of_escape parses documented plain slash free protects
  · intro administered host headers forwarded served
    have own := administered_of_escape parses plain slash free administered
    have isTarget : forwarded.target = target :=
      (Except.ok.inj ((serve_ok served).1.symm.trans accepted))
    have required : requiresHarborosPrincipal crates request.method forwarded.target = true := by
      rw [isTarget, ← requires_beforeQuery]
      exact administered_requires free own
    obtain ⟨principal, same, authenticated | ⟨access, -⟩⟩ := admitted served required
    · exact ⟨principal, same, authenticated⟩
    · exfalso
      rw [isTarget] at access
      rcases lanAccess_ok access with ⟨camera, control, -⟩ | ⟨camera, observed, -⟩
      · obtain ⟨suffix, -, encoded, shape, -⟩ := controlCameraId_eq_some.mp control
        rw [shape] at own plain free
        rw [camera_not_administered documented plain free] at own
        exact Bool.false_ne_true own
      · obtain ⟨suffix, -, shape, -⟩ := observationCameraId_eq_some.mp observed
        rw [shape] at own plain free
        rw [camera_not_administered documented plain free] at own
        exact Bool.false_ne_true own

/-- A target that is no canonical control path is read from the spelled path. -/
theorem spelled_target {crates : Crates} {request : Request} {target : Bytes}
    (accepted : request.target crates = .ok target) (notCanonical : ¬Canonical crates request) :
    beforeQuery target = request.spelled crates := by
  rcases target_cases accepted with ⟨isRoot, rfl⟩ | ⟨tail, isTail, control⟩ |
    ⟨tail, decoded, isTail, isDecoded, -, rfl, -⟩
  · rw [beforeQuery_target, Request.spelled, isRoot]
  · exact absurd ⟨tail, target, isTail, control⟩ notCanonical
  · rw [beforeQuery_target, Request.spelled, isTail]
    simp [isDecoded]

/-- An anonymous principal for control is given only for a dot segment in place of a camera id. -/
theorem control_dot {crates : Crates} (documented : crates.Documented) {request : Request}
    {target camera : Bytes} (accepted : request.target crates = .ok target)
    (notCanonical : ¬Canonical crates request)
    (control : detectionControlCameraId crates target = some camera) :
    ∃ suffix ∈ cameraSuffixes, ∃ encoded,
      beforeQuery target = ascii "/api/cameras/" ++ encoded ++ suffix ∧ isDot encoded = true := by
  obtain ⟨suffix, member, encoded, shape, isCamera, valid⟩ := controlCameraId_eq_some.mp control
  refine ⟨suffix, mem_of_control member, encoded, shape, ?_⟩
  rcases target_cases accepted with ⟨-, root⟩ | ⟨tail, isTail, canonical⟩ |
    ⟨tail, decoded, -, -, -, -, refused⟩
  · exact absurd shape (root_not_camera root)
  · exact absurd ⟨tail, target, isTail, canonical⟩ notCanonical
  · by_contra notDot
    have still := control_after_normalization documented member shape isCamera valid
      (by simpa using notDot)
    simp [still] at refused

theorem harmless_guard {crates : Crates} (documented : crates.Documented) {request : Request}
    {target sent : Bytes} (accepted : request.target crates = .ok target)
    (parsed : crates.urlPath target = some sent) (notCanonical : ¬Canonical crates request)
    (harmless : Harmless crates request sent) : GuardHolds crates request target sent := by
  obtain ⟨set, parses⟩ := documented.parses
  have spelled := spelled_target accepted notCanonical
  have slash := target_head accepted
  obtain ⟨rest, rfl⟩ := starts_of_beforeQuery slash
  obtain rfl := Option.some.inj (parsed.symm.trans (parses rest))
  have free := query_not_mem_path set (0x2F :: rest)
  constructor
  · intro protects
    rcases harmless with unprotected | ⟨required, -⟩
    · simp [unprotected] at protects
    · rwa [← requires_beforeQuery, spelled]
  · intro administered host headers forwarded served
    rcases harmless with unprotected | ⟨required, notView⟩
    · simp [administered_requires free administered] at unprotected
    have isTarget : forwarded.target = 0x2F :: rest :=
      Except.ok.inj ((serve_ok served).1.symm.trans accepted)
    have required' : requiresHarborosPrincipal crates request.method forwarded.target = true := by
      rw [isTarget, ← requires_beforeQuery, spelled]
      exact required
    obtain ⟨principal, same, authenticated | ⟨access, valid⟩⟩ := admitted served required'
    · exact ⟨principal, same, authenticated⟩
    · exfalso
      rw [isTarget] at access
      rcases lanAccess_ok access with ⟨camera, control, -⟩ | ⟨camera, observed, get, rfl⟩
      · obtain ⟨suffix, known, encoded, shape, dot⟩ :=
          control_dot documented accepted notCanonical control
        have worded : Worded (path set (0x2F :: rest)) := worded_of_dot known shape dot
        have never : isAdministered crates request.method (path set (0x2F :: rest)) = false :=
          worded.not_administered documented (path_head set rest)
        simp [never] at administered
      · apply notView
        refine ⟨administered, get, camera, ?_, valid camera rfl⟩
        rw [← spelled]
        have again := beforeQuery_of_free (query_not_mem_beforeQuery (0x2F :: rest))
        simpa only [detectionObservationCameraId, again] using observed

theorem guard_harmless {crates : Crates} {request : Request} {target sent : Bytes}
    (accepted : request.target crates = .ok target) (notCanonical : ¬Canonical crates request)
    (holds : GuardHolds crates request target sent) : Harmless crates request sent := by
  have spelled := spelled_target accepted notCanonical
  by_cases required : requiresHarborosPrincipal crates request.method sent = true
  · have own := holds.protects required
    right
    refine ⟨by rwa [← spelled, requires_beforeQuery], ?_⟩
    rintro ⟨administered, get, camera, observed, valid⟩
    have seen : detectionObservationCameraId target = some camera := by
      rw [← spelled] at observed
      have again := beforeQuery_of_free (query_not_mem_beforeQuery target)
      simpa only [detectionObservationCameraId, again] using observed
    have noControl : detectionControlCameraId crates target = none := by
      by_contra control
      obtain ⟨other, control⟩ := Option.ne_none_iff_exists'.mp control
      obtain ⟨suffix, member, encoded, shape, -⟩ := controlCameraId_eq_some.mp control
      exact control_not_observation member shape seen
    have viewed := sample_view (by rwa [get] at own) noControl seen valid
    have served : ({ request with headers := [] } : Request).serve crates sampleHost =
        .ok (viewForwarded target camera) := by
      have same : ({ request with headers := [] } : Request).target crates = .ok target := accepted
      rw [Request.serve, same]
      exact Result.mapError_eq_ok.mpr (get ▸ viewed)
    obtain ⟨principal, -, authenticated⟩ := holds.privileged administered sampleHost [] _ served
    simp [authenticateHarborosRequest] at authenticated
  · exact .inl (by simpa using required)

/-- The guard decides on the path that Beacon receives. -/
theorem guard_decides_on_path_sent {crates : Crates} (documented : crates.Documented)
    {request : Request} {target sent : Bytes} (accepted : request.target crates = .ok target)
    (parsed : crates.urlPath target = some sent) :
    GuardHolds crates request target sent ↔
      Canonical crates request ∨ Plain (request.spelled crates) ∨ Harmless crates request sent := by
  by_cases canonical : Canonical crates request
  · obtain ⟨tail, other, isTail, control⟩ := canonical
    have canonical : Canonical crates request := ⟨tail, other, isTail, control⟩
    have isTarget : other = target := by
      rcases target_cases accepted with ⟨isRoot, -⟩ | ⟨again, isAgain, control'⟩ |
        ⟨again, decoded, isAgain, -, fallback, -⟩
      · simp [isRoot] at isTail
      · obtain rfl := Option.some.inj (isTail.symm.trans isAgain)
        simpa [control] using control'
      · obtain rfl := Option.some.inj (isTail.symm.trans isAgain)
        simp [control] at fallback
    subst isTarget
    obtain ⟨suffix, member, cameraId, shape, noSlash, notDot, bytes⟩ :=
      canonical_target documented isTail control
    have plain : Plain (beforeQuery other) := by
      rw [shape, List.append_assoc]
      exact plain_camera (mem_of_control member) bytes noSlash notDot
    constructor
    · exact fun _ => .inl canonical
    · exact fun _ => plain_guard documented accepted parsed plain
  · constructor
    · exact fun holds => .inr (.inr (guard_harmless accepted canonical holds))
    · rintro (isCanonical | plain | harmless)
      · exact absurd isCanonical canonical
      · rw [← spelled_target accepted canonical] at plain
        exact plain_guard documented accepted parsed plain
      · exact harmless_guard documented accepted parsed canonical harmless

def jobsRequest : Request :=
  bareRequest .get "vision/detection%2Djobs/job%2D1" (by decide +kernel)

theorem jobs_request_guarded :
    jobsRequest.target standardCrates = .ok (ascii "/api/vision/detection-jobs/job-1") ∧
      GuardHolds standardCrates jobsRequest (ascii "/api/vision/detection-jobs/job-1")
        (ascii "/api/vision/detection-jobs/job-1") := by
  have accepted : jobsRequest.target standardCrates =
      .ok (ascii "/api/vision/detection-jobs/job-1") := by decide
  have parsed : standardCrates.urlPath (ascii "/api/vision/detection-jobs/job-1") =
      some (ascii "/api/vision/detection-jobs/job-1") := by decide
  refine ⟨accepted, (guard_decides_on_path_sent standardCrates_documented accepted parsed).mpr ?_⟩
  exact .inr (.inl (by decide))

/-- Dot segments in front of a protected path. -/
def detourRequest : Request :=
  bareRequest .post "x/%2e%2e/vision/detection-jobs" (by decide +kernel)

theorem detour_request_unguarded :
    detourRequest.target standardCrates = .ok (ascii "/api/x/../vision/detection-jobs") ∧
      standardCrates.urlPath (ascii "/api/x/../vision/detection-jobs") =
        some (ascii "/api/vision/detection-jobs") ∧
      ¬GuardHolds standardCrates detourRequest (ascii "/api/x/../vision/detection-jobs")
        (ascii "/api/vision/detection-jobs") := by
  refine ⟨by decide, by decide, ?_⟩
  intro holds
  have protects := holds.protects (by decide)
  have passes : requiresHarborosPrincipal standardCrates detourRequest.method
      (ascii "/api/x/../vision/detection-jobs") = false := by decide
  simp [passes] at protects

end Proxy

end HarborGate
