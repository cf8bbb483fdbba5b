import HarborGate.Server.CameraPath

/-!
The camera that an anonymous request is scoped to, and the camera its path addresses upstream.
-/

namespace HarborGate

namespace Proxy

open Url

/-! ## Where a target comes from -/

/-- The raw path is a control path that needs no decoding to be one. -/
def Canonical (crates : Crates) (request : Request) : Prop :=
  ∃ tail target, request.tail = some tail ∧
    detectionControlProxyTargetPath crates (0x2F :: tail) request.query = .ok (some target)

theorem canonicalControl_ok {crates : Crates} {tail target : Bytes} {query : Option String}
    (ok : canonicalControl crates (0x2F :: tail) query = .ok target) :
    ∃ suffix ∈ detectionControlSuffixes, ∃ cameraId,
      tail = ascii "cameras/" ++ cameraId ++ suffix ∧
        isSafeDetectionControlCameraId crates cameraId = true ∧
          target = beaconProxyTargetPath crates tail query := by
  simp only [canonicalControl] at ok
  split at ok
  · simp at ok
  rename_i rawTail found
  have same : rawTail = tail := by
    have strip := (Option.filter_eq_some_iff.mp found).1
    have shape := stripLead_eq_some.mp strip
    simpa using shape.symm
  subst same
  split at ok
  · simp at ok
  rename_i suffix isSuffix
  split at ok
  · simp at ok
  rename_i cameraId isId
  obtain ⟨stripped, safe⟩ := Option.filter_eq_some_iff.mp isId
  obtain ⟨cameraPath, lead, ending⟩ := Option.bind_eq_some_iff.mp stripped
  have shape := stripLead_eq_some.mp lead
  have shape' := stripEnding_eq_some.mp ending
  subst shape'
  rw [shape] at isSuffix
  have member := (controlSuffix_eq_some.mp isSuffix).1
  rw [← List.append_assoc] at shape
  refine ⟨suffix, member, cameraId, shape, safe, ?_⟩
  rw [shape]
  exact (Except.ok.inj ok).symm

theorem controlTarget_ok {crates : Crates} {tail target : Bytes} {query : Option String}
    (ok : detectionControlProxyTargetPath crates (0x2F :: tail) query = .ok (some target)) :
    ∃ suffix ∈ detectionControlSuffixes, ∃ cameraId,
      tail = ascii "cameras/" ++ cameraId ++ suffix ∧
        isSafeDetectionControlCameraId crates cameraId = true ∧
          target = beaconProxyTargetPath crates tail query := by
  simp only [detectionControlProxyTargetPath] at ok
  split at ok
  · simp at ok
  split at ok
  · obtain ⟨value, canonical, same⟩ := Result.map_eq_ok.mp ok
    obtain rfl := Option.some.inj same
    exact canonicalControl_ok canonical
  split at ok
  · simp at ok
  · simp at ok

/-- The three ways to a target. -/
theorem target_cases {crates : Crates} {request : Request} {target : Bytes}
    (ok : request.target crates = .ok target) :
    (request.tail = none ∧ target = beaconProxyTargetPath crates [] request.query) ∨
    (∃ tail, request.tail = some tail ∧
      detectionControlProxyTargetPath crates (0x2F :: tail) request.query = .ok (some target)) ∨
    (∃ tail decoded, request.tail = some tail ∧ crates.decode tail = some decoded ∧
      detectionControlProxyTargetPath crates (0x2F :: tail) request.query = .ok none ∧
      target = beaconProxyTargetPath crates decoded request.query ∧
      isDetectionControlTargetAfterUrlNormalization crates target = false) := by
  simp only [Request.target] at ok
  split at ok
  · rename_i root
    exact .inl ⟨root, (Except.ok.inj ok).symm⟩
  rename_i tail isTail
  right
  split at ok
  · simp at ok
  rename_i decoded isDecoded
  have ok' : beaconProxyTargetPathFromOriginalUri crates (request.facade.lead ++ 0x2F :: tail)
      decoded request.facade.lead request.query = .ok target := Result.mapError_eq_ok.mp ok
  have strip : stripLead request.facade.lead (request.facade.lead ++ 0x2F :: tail) =
      some (0x2F :: tail) := stripLead_eq_some.mpr rfl
  simp only [beaconProxyTargetPathFromOriginalUri, strip] at ok'
  split at ok'
  · simp at ok'
  · rename_i control
    obtain rfl := Except.ok.inj ok'
    exact .inl ⟨tail, isTail, control⟩
  · rename_i none
    split at ok'
    · simp at ok'
    · rename_i notControl
      obtain rfl := Except.ok.inj ok'
      exact .inr ⟨tail, decoded, isTail, isDecoded, none, rfl, by simpa using notControl⟩

/-! ## Who a request is forwarded for -/

theorem proxyBeaconRequest_ok {crates : Crates} {host : Host} {method : Method} {headers : Headers}
    {target : Bytes} {forwarded : Forwarded}
    (ok : proxyBeaconRequest crates host method headers target = .ok forwarded) :
    forwarded.target = target ∧
      proxyPrincipal crates host method headers target = .ok forwarded.principal ∧
        beaconUpstreamHeaders headers host.harborbeaconWebApiToken forwarded.principal
          host.harborWorkspaceId = .ok forwarded.headers := by
  simp only [proxyBeaconRequest] at ok
  split at ok
  · simp [throw, throwThe, MonadExceptOf.throw, bind, Except.bind] at ok
  split at ok
  · simp [throw, throwThe, MonadExceptOf.throw, bind, Except.bind] at ok
  obtain ⟨principal, isPrincipal, ok⟩ := Result.bind_eq_ok.mp ok
  obtain ⟨upstream, isUpstream, ok⟩ := Result.bind_eq_ok.mp ok
  obtain rfl := Result.pure_eq_ok.mp ok
  exact ⟨rfl, isPrincipal, isUpstream⟩

theorem serve_ok {crates : Crates} {host : Host} {request : Request} {forwarded : Forwarded}
    (ok : request.serve crates host = .ok forwarded) :
    request.target crates = .ok forwarded.target ∧
      proxyPrincipal crates host request.method request.headers forwarded.target =
          .ok forwarded.principal ∧
        beaconUpstreamHeaders request.headers host.harborbeaconWebApiToken forwarded.principal
          host.harborWorkspaceId = .ok forwarded.headers := by
  simp only [Request.serve] at ok
  split at ok
  · simp at ok
  rename_i target isTarget
  obtain ⟨rfl, facts⟩ := proxyBeaconRequest_ok (Result.mapError_eq_ok.mp ok)
  exact ⟨isTarget, facts⟩

theorem harboros_source {host : Host} {headers : Headers} {principal : HarborOsPrincipal}
    (ok : authenticateHarborosRequest host headers = .ok principal) :
    principal.source = "harboros" := by
  simp only [authenticateHarborosRequest] at ok
  split at ok
  · simp at ok
  split at ok
  · simp at ok
  rename_i response _
  have parsed := Result.mapError_eq_ok.mp ok
  unfold principalFromLoginResponse at parsed
  split at parsed
  · simp at parsed
  split at parsed
  · simp at parsed
  split at parsed
  · simp at parsed
  split at parsed
  · simp at parsed
  split at parsed
  · simp at parsed
  split at parsed
  · simp at parsed
  · obtain rfl := Except.ok.inj parsed
    rfl

theorem lanAccess_ok {crates : Crates} {method : Method} {target : Bytes}
    {principal : HarborOsPrincipal} (ok : lanAccess crates method target = .ok principal) :
    (∃ cameraId, detectionControlCameraId crates target = some cameraId ∧
      principal = lanPrincipal "CAMERA_CONTROL" cameraId) ∨
    (∃ cameraId, detectionObservationCameraId target = some cameraId ∧ method = .get ∧
      principal = lanPrincipal "CAMERA_VIEW" cameraId) := by
  simp only [lanAccess] at ok
  split at ok
  · rename_i cameraId found
    split at found
    · exact .inl ⟨cameraId, found, (Except.ok.inj ok).symm⟩
    · simp at found
  split at ok
  · simp at ok
  rename_i isGet
  split at ok
  · simp at ok
  · rename_i cameraId found
    exact .inr ⟨cameraId, found, by simpa using isGet, (Except.ok.inj ok).symm⟩

/-- An anonymous principal is scoped to the camera id that the target is read to have. -/
theorem anonymous_scope {crates : Crates} {host : Host} {request : Request} {forwarded : Forwarded}
    {role : String} {camera : Bytes} (sent : request.serve crates host = .ok forwarded)
    (anonymous : forwarded.principal = some (lanPrincipal role camera)) :
    detectionControlCameraId crates forwarded.target = some camera ∨
      detectionObservationCameraId forwarded.target = some camera := by
  have principal := (serve_ok sent).2.1
  rw [anonymous, proxyPrincipal] at principal
  split at principal
  · obtain ⟨value, access, same⟩ := Result.map_eq_ok.mp principal
    obtain rfl := Option.some.inj same
    rw [authenticateProxyPrincipal] at access
    split at access
    · have source := harboros_source access
      simp [lanPrincipal] at source
    · rcases lanAccess_ok access with ⟨cameraId, found, same⟩ | ⟨cameraId, found, -, same⟩
      · simp only [lanPrincipal, HarborOsPrincipal.mk.injEq, Option.some.injEq] at same
        exact .inl (by rw [found, same.2.2.2])
      · simp only [lanPrincipal, HarborOsPrincipal.mk.injEq, Option.some.injEq] at same
        exact .inr (by rw [found, same.2.2.2])
  · simp at principal

/-! ## The camera addressed -/

/-- The path sent upstream is that of the camera. -/
def Addressed (crates : Crates) (target camera : Bytes) : Prop :=
  ∃ segment, ∃ suffix ∈ cameraSuffixes, 0x2F ∉ segment ∧
    crates.urlPath target = some (ascii "/api/cameras/" ++ segment ++ suffix) ∧
      Url.decode segment = camera

/-- The camera id of an observation path is literal once the path was decoded. -/
def LiteralCamera (crates : Crates) (request : Request) : Prop :=
  ∃ tail decoded cameraId, request.tail = some tail ∧ crates.decode tail = some decoded ∧
    detectionObservationCameraId (targetBase decoded) = some cameraId ∧ Literal cameraId

section

variable {crates : Crates} {set : EscapeSet}
  (parses : ∀ text, crates.urlPath (0x2F :: text) = some (path set (0x2F :: text)))

include parses

/-- The segment that addresses the camera is a segment of the target. -/
theorem addressed_source {target camera cameraId suffix : Bytes} (known : suffix ∈ cameraSuffixes)
    (shape : beforeQuery target = ascii "/api/cameras/" ++ cameraId ++ suffix)
    (addressed : Addressed crates target camera) :
    ∃ source, Url.decode source = camera ∧ (source ∈ cameraWords ∨ isDot source = false ∧
      source ∈ (cleaned (cameraId.takeWhile (· ≠ 0x23))).splitOn 0x2F) := by
  obtain ⟨segment, ending, isEnding, noSlash, sent, decoded⟩ := addressed
  have slash : (beforeQuery target).head? = some 0x2F := by rw [shape]; rfl
  obtain ⟨rest, rfl⟩ := starts_of_beforeQuery slash
  have same := Option.some.inj ((parses rest).symm.trans sent)
  have member : segment ∈ (path set (0x2F :: rest)).splitOn 0x2F := by
    obtain ⟨words, rfl, -⟩ := suffix_words ending isEnding
    rw [same, List.append_assoc, splitOn_camera, List.splitOn_append_cons_self_of_not_mem noSlash]
    simp
  rcases mem_path set member with rfl | ⟨source, inside, notDot, rfl⟩
  · exact ⟨[], decoded, .inl (by decide)⟩
  · refine ⟨source, by rw [← decode_escape set, decoded], ?_⟩
    rcases mem_segments_camera known shape inside with word | part
    · exact .inl word
    · exact .inr ⟨notDot, part⟩

theorem observation_addressed {target camera : Bytes}
    (observed : detectionObservationCameraId target = some camera) :
    Addressed crates target camera ↔ Literal camera := by
  obtain ⟨suffix, member, shape, nonempty, noSlash⟩ := observationCameraId_eq_some.mp observed
  have known := mem_of_observation member
  constructor
  · intro addressed
    obtain ⟨source, decoded, word | ⟨notDot, part⟩⟩ := addressed_source parses known shape addressed
    · obtain ⟨literal, same⟩ := cameraWords_plain source word
      rwa [← decoded, same]
    · exact literal_of_decode part notDot decoded
  · intro literal
    refine ⟨escape set camera, suffix, known, mt (slash_mem_escape set).mp noSlash,
      urlPath_camera parses known shape literal.bytes noSlash literal.dots, ?_⟩
    rw [decode_escape, decode_of_no_octet literal.octets]

theorem control_addressed {target camera encoded suffix : Bytes}
    (known : suffix ∈ cameraSuffixes)
    (shape : beforeQuery target = ascii "/api/cameras/" ++ encoded ++ suffix)
    (bytes : ∀ byte ∈ encoded, byte ≠ 0x23 ∧ byte ≠ 0x5C ∧ isTabOrNewline byte = false)
    (noSlash : 0x2F ∉ encoded) (notDot : isDot encoded = false)
    (decoded : Url.decode encoded = camera) : Addressed crates target camera := by
  refine ⟨escape set encoded, suffix, known, mt (slash_mem_escape set).mp noSlash,
    urlPath_camera parses known shape bytes noSlash notDot, ?_⟩
  rw [decode_escape, decoded]

end

/-! ## Control paths -/

theorem not_control_of_mem {text : Bytes} (free : hasControl text = false) :
    ∀ byte ∈ text, ¬byte < 0x20 := by
  fun_induction hasControl text with
  | case1 => simp
  | case2 byte =>
      intro other member
      obtain rfl := List.mem_singleton.mp member
      simp only [Bool.or_eq_false_iff, decide_eq_false_iff_not] at free
      exact free.1
  | case3 byte next rest ih =>
      intro other member
      simp only [Bool.or_eq_false_iff, decide_eq_false_iff_not] at free
      rcases List.mem_cons.mp member with rfl | later
      · exact free.1.1.1
      · exact ih free.2 other later

theorem decode_eq {crates : Crates} (documented : crates.Documented) {text decoded : Bytes}
    (ok : crates.decode text = some decoded) : Url.decode text = decoded := by
  rw [documented.decodes] at ok
  split at ok
  · exact Option.some.inj ok
  · simp at ok

theorem ControlId.bytes {encoded camera : Bytes} (valid : ControlId encoded camera)
    (decoded : Url.decode encoded = camera) :
    ∀ byte ∈ encoded, byte ≠ 0x23 ∧ byte ≠ 0x5C ∧ isTabOrNewline byte = false := by
  intro byte member
  have kept : byte ≠ 0x25 → hexValue byte = none → byte ∈ camera :=
    fun ne notHex => decoded ▸ mem_decode ne notHex member
  refine ⟨?_, ?_, ?_⟩
  · rintro rfl
    exact valid.marks.2.2 (kept (by decide) (by decide))
  · rintro rfl
    exact valid.marks.1 (kept (by decide) (by decide))
  · by_contra tab
    simp only [isTabOrNewline, Bool.not_eq_false, Bool.or_eq_true, beq_iff_eq] at tab
    have visible := not_control_of_mem valid.control byte
    rcases tab with (rfl | rfl) | rfl
    · exact visible (kept (by decide) (by decide)) (by decide)
    · exact visible (kept (by decide) (by decide)) (by decide)
    · exact visible (kept (by decide) (by decide)) (by decide)

/-- A control path that the parser keeps is still one after it. -/
theorem control_after_normalization {crates : Crates} (documented : crates.Documented)
    {target camera encoded suffix : Bytes} (member : suffix ∈ detectionControlSuffixes)
    (shape : beforeQuery target = ascii "/api/cameras/" ++ encoded ++ suffix)
    (decoded : crates.decode encoded = some camera) (valid : ControlId encoded camera)
    (notDot : isDot encoded = false) :
    isDetectionControlTargetAfterUrlNormalization crates target = true := by
  obtain ⟨set, parses⟩ := documented.parses
  have known := mem_of_control member
  have sent := urlPath_camera parses known shape (valid.bytes (decode_eq documented decoded))
    valid.noSlash notDot
  have free : 0x3F ∉ ascii "/api/cameras/" ++ escape set encoded ++ suffix := by
    simp only [List.mem_append, not_or]
    refine ⟨⟨by decide, ?_⟩, ?_⟩
    · intro query
      have kept := (escapes_of_mem_escape set query).1
      simp [set.query] at kept
    · intro query
      have kept := (suffix_bytes suffix known).1 _ query
      simp [isKept] at kept
  have again : detectionControlCameraId crates
      (ascii "/api/cameras/" ++ escape set encoded ++ suffix) = some camera := by
    apply controlCameraId_eq_some.mpr
    refine ⟨suffix, member, escape set encoded, beforeQuery_of_free free, ?_, ?_⟩
    · rw [documented.decodes] at decoded ⊢
      rw [decode_escape]
      exact decoded
    · exact { valid with
        encoded_ne := mt (escape_eq_nil set).mp valid.encoded_ne
        noSlash := mt (slash_mem_escape set).mp valid.noSlash }
  simp only [isDetectionControlTargetAfterUrlNormalization, sent, isDetectionControlProxyPath,
    again, Option.isSome_some]

theorem dots_decode : ∀ segment ∈ dots,
    (Url.decode segment = ascii "." ∨ Url.decode segment = ascii "..") ∧
      (cleaned (segment.takeWhile (· ≠ 0x23))).splitOn 0x2F = [segment] := by
  decide

/-- A dot segment is never the camera that the path addresses. -/
theorem dot_not_addressed {crates : Crates} (documented : crates.Documented)
    {target encoded suffix : Bytes} (known : suffix ∈ cameraSuffixes)
    (shape : beforeQuery target = ascii "/api/cameras/" ++ encoded ++ suffix)
    (dot : isDot encoded = true) : ¬Addressed crates target (Url.decode encoded) := by
  intro addressed
  obtain ⟨set, parses⟩ := documented.parses
  obtain ⟨names, alone⟩ := dots_decode encoded (isDot_iff.mp dot)
  obtain ⟨source, decoded, word | ⟨notDot, part⟩⟩ := addressed_source parses known shape addressed
  · rw [(cameraWords_plain source word).2] at decoded
    have notWord : ∀ word ∈ cameraWords, word ≠ ascii "." ∧ word ≠ ascii ".." := by decide
    rcases names with one | two
    · exact (notWord source word).1 (decoded.trans one)
    · exact (notWord source word).2 (decoded.trans two)
  · rw [alone, List.mem_singleton] at part
    rw [part, dot] at notDot
    simp at notDot

/-- The id of a canonical control path is kept by the parser. -/
theorem safe_camera {crates : Crates} (documented : crates.Documented) {cameraId : Bytes}
    (safe : isSafeDetectionControlCameraId crates cameraId = true) :
    0x2F ∉ cameraId ∧ 0x5C ∉ cameraId ∧ isDot cameraId = false := by
  simp only [isSafeDetectionControlCameraId] at safe
  split at safe
  · simp at safe
  rename_i refused
  simp only [not_or] at refused
  refine ⟨refused.2.1, refused.2.2.1, ?_⟩
  split at safe
  · simp at safe
  rename_i decoded isDecoded
  by_contra dot
  have names := (dots_decode cameraId (isDot_iff.mp (by simpa using dot))).1
  rw [decode_eq documented isDecoded] at names
  have dotted : isUnsafeDetectionControlCameraId (ascii ".") = true ∧
      isUnsafeDetectionControlCameraId (ascii "..") = true := by decide
  rcases names with one | two
  · rw [one, dotted.1] at safe
    simp at safe
  · rw [two, dotted.2] at safe
    simp at safe

theorem targetBase_camera (rest : Bytes) :
    targetBase (ascii "cameras/" ++ rest) = ascii "/api/cameras/" ++ rest := by
  rfl

/-- The target of a canonical request, with the facts that keep its id. -/
theorem canonical_target {crates : Crates} (documented : crates.Documented) {request : Request}
    {tail target : Bytes} (isTail : request.tail = some tail)
    (ok : detectionControlProxyTargetPath crates (0x2F :: tail) request.query = .ok (some target)) :
    ∃ suffix ∈ detectionControlSuffixes, ∃ cameraId,
      beforeQuery target = ascii "/api/cameras/" ++ cameraId ++ suffix ∧ 0x2F ∉ cameraId ∧
        isDot cameraId = false ∧
          ∀ byte ∈ cameraId, byte ≠ 0x23 ∧ byte ≠ 0x5C ∧ isTabOrNewline byte = false := by
  obtain ⟨suffix, member, cameraId, shape, safe, rfl⟩ := controlTarget_ok ok
  obtain ⟨noSlash, noBackslash, notDot⟩ := safe_camera documented safe
  have visible := request.visible tail isTail
  have stops : ∀ byte ∈ tail, byte ≠ 0x3F ∧ byte ≠ 0x23 := by
    intro byte inside
    have free := (visible byte inside).2
    simpa [isStop] using free
  refine ⟨suffix, member, cameraId, ?_, noSlash, notDot, ?_⟩
  · have base : targetBase tail = ascii "/api/cameras/" ++ cameraId ++ suffix := by
      rw [shape, List.append_assoc, targetBase_camera, List.append_assoc]
    rw [beforeQuery_target, base]
    apply beforeQuery_of_free
    intro query
    have inTail : 0x3F ∈ tail := by
      rw [shape]
      simp only [List.mem_append] at query ⊢
      rcases query with (lead | inId) | inSuffix
      · exact absurd lead (by decide)
      · exact .inl (.inr inId)
      · exact .inr inSuffix
    exact (stops _ inTail).1 rfl
  · intro byte inside
    have inTail : byte ∈ tail := by
      rw [shape]
      simp [inside]
    refine ⟨(stops byte inTail).2, fun backslash => noBackslash (backslash ▸ inside), ?_⟩
    have blank := (visible byte inTail).1
    by_contra tab
    simp only [isTabOrNewline, Bool.not_eq_false, Bool.or_eq_true, beq_iff_eq] at tab
    rcases tab with (rfl | rfl) | rfl
    · simp [isBlank] at blank
    · simp [isBlank] at blank
    · simp [isBlank] at blank

/-- A path is not both a control path and an observation path. -/
theorem control_not_observation {target cameraId suffix other : Bytes}
    (member : suffix ∈ detectionControlSuffixes)
    (shape : beforeQuery target = ascii "/api/cameras/" ++ cameraId ++ suffix) :
    detectionObservationCameraId target ≠ some other := by
  intro observed
  obtain ⟨ending, isEnding, shape', -⟩ := observationCameraId_eq_some.mp observed
  have same := suffix_eq (mem_of_control member) (mem_of_observation isEnding)
    (shape.symm.trans shape')
  exact control_ne_observation suffix member (same.1 ▸ isEnding)

theorem canonical_addressed {crates : Crates} (documented : crates.Documented) {request : Request}
    {tail target camera : Bytes} (isTail : request.tail = some tail)
    (ok : detectionControlProxyTargetPath crates (0x2F :: tail) request.query = .ok (some target))
    (scope : detectionControlCameraId crates target = some camera ∨
      detectionObservationCameraId target = some camera) : Addressed crates target camera := by
  obtain ⟨set, parses⟩ := documented.parses
  obtain ⟨suffix, member, cameraId, shape, noSlash, notDot, bytes⟩ :=
    canonical_target documented isTail ok
  rcases scope with control | observed
  · obtain ⟨ending, isEnding, encoded, shape', decoded, -⟩ := controlCameraId_eq_some.mp control
    have same := suffix_eq (mem_of_control member) (mem_of_control isEnding)
      (shape.symm.trans shape')
    have isId : encoded = cameraId := (List.append_cancel_left same.2).symm
    subst isId
    exact control_addressed parses (mem_of_control member) shape bytes noSlash notDot
      (decode_eq documented decoded)
  · exact absurd observed (control_not_observation member shape)

theorem root_not_camera {target cameraId suffix : Bytes} {crates : Crates} {query : Option String}
    (root : target = beaconProxyTargetPath crates [] query) :
    beforeQuery target ≠ ascii "/api/cameras/" ++ cameraId ++ suffix := by
  intro shape
  rw [root, beforeQuery_target] at shape
  have lead : ascii "/api/cameras/" <+: beforeQuery (targetBase []) := by
    rw [shape, List.append_assoc]
    exact List.prefix_append _ _
  revert lead
  decide

/-- The camera in the header is the camera addressed. -/
theorem camera_scope_is_camera_addressed {crates : Crates} (documented : crates.Documented)
    {host : Host} {request : Request} {forwarded : Forwarded} {role : String} {camera : Bytes}
    (sent : request.serve crates host = .ok forwarded)
    (anonymous : forwarded.principal = some (lanPrincipal role camera)) :
    Addressed crates forwarded.target camera ↔
      Canonical crates request ∨ LiteralCamera crates request := by
  have scope := anonymous_scope sent anonymous
  obtain ⟨set, parses⟩ := documented.parses
  rcases target_cases (serve_ok sent).1 with ⟨-, root⟩ | ⟨tail, isTail, canonical⟩ |
    ⟨tail, decoded, isTail, isDecoded, fallback, isTarget, refused⟩
  · exfalso
    rcases scope with control | observed
    · obtain ⟨suffix, -, encoded, shape, -⟩ := controlCameraId_eq_some.mp control
      exact root_not_camera root shape
    · obtain ⟨suffix, -, shape, -⟩ := observationCameraId_eq_some.mp observed
      exact root_not_camera root shape
  · constructor
    · exact fun _ => .inl ⟨tail, forwarded.target, isTail, canonical⟩
    · exact fun _ => canonical_addressed documented isTail canonical scope
  · have notCanonical : ¬Canonical crates request := by
      rintro ⟨other, target, isOther, ok⟩
      obtain rfl := Option.some.inj (isTail.symm.trans isOther)
      simp [fallback] at ok
    have base : beforeQuery forwarded.target = beforeQuery (targetBase decoded) := by
      rw [isTarget, beforeQuery_target]
    have reads : detectionObservationCameraId (targetBase decoded) =
        detectionObservationCameraId forwarded.target := by
      rw [detectionObservationCameraId, detectionObservationCameraId, base]
    have literalIff : LiteralCamera crates request ↔ ∃ cameraId,
        detectionObservationCameraId forwarded.target = some cameraId ∧ Literal cameraId := by
      constructor
      · rintro ⟨other, otherDecoded, cameraId, isOther, isOtherDecoded, observed, literal⟩
        obtain rfl := Option.some.inj (isTail.symm.trans isOther)
        obtain rfl := Option.some.inj (isDecoded.symm.trans isOtherDecoded)
        exact ⟨cameraId, by rw [← reads, observed], literal⟩
      · rintro ⟨cameraId, observed, literal⟩
        exact ⟨tail, decoded, cameraId, isTail, isDecoded, by rw [reads, observed], literal⟩
    rcases scope with control | observed
    · obtain ⟨suffix, member, encoded, shape, isCamera, valid⟩ := controlCameraId_eq_some.mp control
      have dot : isDot encoded = true := by
        by_contra notDot
        have still := control_after_normalization documented member shape isCamera valid
          (by simpa using notDot)
        simp [still] at refused
      have never := dot_not_addressed documented (mem_of_control member) shape dot
      rw [decode_eq documented isCamera] at never
      constructor
      · exact fun addressed => absurd addressed never
      · rintro (canonical | literal)
        · exact absurd canonical notCanonical
        · obtain ⟨cameraId, observed, -⟩ := literalIff.mp literal
          exact absurd observed (control_not_observation member shape)
    · rw [observation_addressed parses observed, literalIff]
      constructor
      · exact fun literal => .inr ⟨camera, observed, literal⟩
      · rintro (canonical | ⟨cameraId, again, literal⟩)
        · exact absurd canonical notCanonical
        · obtain rfl := Option.some.inj (observed.symm.trans again)
          exact literal

/-- What the sample host sends for an anonymous view of a camera. -/
def viewForwarded (target camera : Bytes) : Forwarded where
  method := .get
  baseUrl := "http://beacon"
  target := target
  principal := some (lanPrincipal "CAMERA_VIEW" camera)
  headers :=
    [("authorization", ascii "Bearer secret"),
      ("x-harbor-principal-source", ascii "harbornavi-lan"),
      ("x-harbor-principal-id", ascii "harbornavi-lan:anonymous"),
      ("x-harbor-principal-roles", ascii "CAMERA_VIEW"), ("x-harbor-workspace-id", ascii "home"),
      ("x-harbor-camera-scope", camera)]

def observationRequest : Request :=
  bareRequest .get "cameras/cam%2D1/cat-detection/observation" (by decide +kernel)

theorem observation_request_addressed :
    observationRequest.serve standardCrates sampleHost =
        .ok (viewForwarded (ascii "/api/cameras/cam-1/cat-detection/observation")
          (ascii "cam-1")) ∧
      Addressed standardCrates (ascii "/api/cameras/cam-1/cat-detection/observation")
        (ascii "cam-1") := by
  have sent : observationRequest.serve standardCrates sampleHost =
      .ok (viewForwarded (ascii "/api/cameras/cam-1/cat-detection/observation")
        (ascii "cam-1")) := by
    decide
  refine ⟨sent, (camera_scope_is_camera_addressed standardCrates_documented sent rfl).mpr (.inr ?_)⟩
  exact ⟨_, ascii "cameras/cam-1/cat-detection/observation", ascii "cam-1", rfl, by decide,
    by decide, by decide⟩

/-- A camera id whose `#` the client encoded. -/
def fragmentRequest : Request :=
  bareRequest .get "cameras/a%23b/cat-detection/observation" (by decide +kernel)

theorem fragment_request_scoped_elsewhere :
    fragmentRequest.serve standardCrates sampleHost =
        .ok (viewForwarded (ascii "/api/cameras/a#b/cat-detection/observation") (ascii "a#b")) ∧
      standardCrates.urlPath (ascii "/api/cameras/a#b/cat-detection/observation") =
        some (ascii "/api/cameras/a") ∧
      ¬Addressed standardCrates (ascii "/api/cameras/a#b/cat-detection/observation")
        (ascii "a#b") := by
  refine ⟨by decide, by decide, ?_⟩
  have observed : detectionObservationCameraId
      (ascii "/api/cameras/a#b/cat-detection/observation") = some (ascii "a#b") := by
    decide
  have parses : ∀ text, standardCrates.urlPath (0x2F :: text) =
      some (path standardSet (0x2F :: text)) := fun _ => rfl
  rw [observation_addressed parses observed]
  decide

end Proxy

end HarborGate
