import HarborGate.Server.Proxy

/-!
The shape of camera paths: what the two camera ids of the proxy say about the target they are read
from, and which path the URL parser makes of it.
-/

namespace HarborGate

namespace Proxy

open Url

/-! ## The part before the query -/

theorem beforeQuery_spelled (target : Bytes) : Spelled (beforeQuery target) target := by
  by_cases query : 0x3F ∈ target
  · obtain ⟨front, rest, rfl, free⟩ := List.eq_append_cons_of_mem query
    have taken : beforeQuery (front ++ 0x3F :: rest) = front := takeWhile_ne_append rest free
    exact .inr ⟨rest, by rw [taken]⟩
  · have whole : beforeQuery target = target := takeWhile_ne_self query
    exact .inl whole.symm

theorem query_not_mem_beforeQuery (target : Bytes) : 0x3F ∉ beforeQuery target := by
  intro member
  have kept := List.mem_takeWhile_imp member
  simp at kept

theorem beforeQuery_append {text : Bytes} (query : Bytes) :
    beforeQuery (text ++ 0x3F :: query) = beforeQuery text := by
  simp only [beforeQuery]
  induction text with
  | nil => simp
  | cons byte rest ih =>
      by_cases stop : byte = 0x3F
      · simp [stop]
      · simpa [stop] using ih

theorem beforeQuery_of_free {text : Bytes} (free : 0x3F ∉ text) : beforeQuery text = text :=
  takeWhile_ne_self free

theorem beforeQuery_target (crates : Crates) (path : Bytes) (query : Option String) :
    beforeQuery (beaconProxyTargetPath crates path query) = beforeQuery (targetBase path) := by
  rw [beaconProxyTargetPath]
  split
  · exact beforeQuery_append _
  · rfl

/-! ## Suffixes -/

def cameraSuffixes : List Bytes :=
  detectionControlSuffixes ++ detectionObservationSuffixes

/-- The segments that a camera path has besides its id. -/
def cameraWords : List Bytes :=
  [[], ascii "api", ascii "cameras", ascii "cat-detection", ascii "package-detection",
    ascii "person-detection", ascii "control", ascii "event-config", ascii "preview",
    ascii "observation"]

theorem lead_kept : ∀ byte ∈ ascii "/api/cameras/", isKept byte = true :=
  List.all_eq_true.mp (by decide)

theorem words_kept : ∀ word ∈ cameraWords, ∀ byte ∈ word, isKept byte = true := by
  have kept : ∀ word ∈ cameraWords, word.all isKept = true := by decide
  intro word known
  exact List.all_eq_true.mp (kept word known)

theorem suffix_unique : ∀ first ∈ cameraSuffixes, ∀ second ∈ cameraSuffixes,
    first <:+ second → first = second := by
  decide

theorem suffix_eq {first second left right : Bytes} (one : first ∈ cameraSuffixes)
    (two : second ∈ cameraSuffixes) (same : left ++ first = right ++ second) :
    first = second ∧ left = right := by
  have equal : first = second := by
    rcases endings_nested same with nested | nested
    · exact suffix_unique first one second two nested
    · exact (suffix_unique second two first one nested).symm
  subst equal
  exact ⟨rfl, List.append_cancel_right same⟩

theorem suffix_words : ∀ suffix ∈ cameraSuffixes, ∃ words, suffix = 0x2F :: words ∧
    ∀ word ∈ words.splitOn 0x2F, word ∈ cameraWords := by
  intro suffix member
  refine ⟨suffix.tail, ?_, ?_⟩
  · revert suffix
    decide
  · revert suffix
    decide

theorem suffix_bytes : ∀ suffix ∈ cameraSuffixes, (∀ byte ∈ suffix, isKept byte = true) ∧
    suffix.getLast?.isSome = true ∧ 0x25 ∉ suffix := by
  have facts : ∀ suffix ∈ cameraSuffixes, suffix.all isKept = true ∧
      suffix.getLast?.isSome = true ∧ 0x25 ∉ suffix := by
    decide
  intro suffix known
  obtain ⟨kept, rest⟩ := facts suffix known
  exact ⟨List.all_eq_true.mp kept, rest⟩

theorem control_ne_observation : ∀ suffix ∈ detectionControlSuffixes,
    suffix ∉ detectionObservationSuffixes := by
  decide

theorem mem_of_control {suffix : Bytes} (member : suffix ∈ detectionControlSuffixes) :
    suffix ∈ cameraSuffixes :=
  List.mem_append_left _ member

theorem mem_of_observation {suffix : Bytes} (member : suffix ∈ detectionObservationSuffixes) :
    suffix ∈ cameraSuffixes :=
  List.mem_append_right _ member

/-! ## Camera ids -/

theorem observationCameraId_eq_some {target cameraId : Bytes} :
    detectionObservationCameraId target = some cameraId ↔
      ∃ suffix ∈ detectionObservationSuffixes,
        beforeQuery target = ascii "/api/cameras/" ++ cameraId ++ suffix ∧
          cameraId ≠ [] ∧ 0x2F ∉ cameraId := by
  simp only [detectionObservationCameraId, Option.bind_eq_some_iff, stripLead_eq_some,
    Option.filter_eq_some_iff, decide_eq_true_eq]
  constructor
  · rintro ⟨cameraPath, shape, found, nonempty, free⟩
    obtain ⟨suffix, member, ends⟩ := List.exists_of_findSome?_eq_some found
    rw [stripEnding_eq_some.mp ends, ← List.append_assoc] at shape
    exact ⟨suffix, member, shape, nonempty, free⟩
  · rintro ⟨suffix, member, shape, nonempty, free⟩
    refine ⟨cameraId ++ suffix, by rw [shape, List.append_assoc], ?_, nonempty, free⟩
    have strips : (stripEnding suffix (cameraId ++ suffix)).isSome = true := by
      rw [stripEnding_eq_some.mpr rfl]
      rfl
    cases found : detectionObservationSuffixes.findSome? fun other =>
        stripEnding other (cameraId ++ suffix) with
    | none =>
        have all := List.findSome?_eq_none_iff.mp found suffix member
        simp [all] at strips
    | some other =>
        obtain ⟨otherSuffix, otherMember, ends⟩ := List.exists_of_findSome?_eq_some found
        have same := suffix_eq (mem_of_observation member) (mem_of_observation otherMember)
          (stripEnding_eq_some.mp ends)
        rw [same.2]

structure ControlId (encoded cameraId : Bytes) : Prop where
  encoded_ne : encoded ≠ []
  noSlash : 0x2F ∉ encoded
  nonempty : cameraId ≠ []
  short : cameraId.length ≤ 128
  control : hasControl cameraId = false
  marks : 0x5C ∉ cameraId ∧ 0x3F ∉ cameraId ∧ 0x23 ∉ cameraId

theorem controlSuffix_eq_some {cameraPath suffix : Bytes} :
    detectionControlSuffix (ascii "cameras/" ++ cameraPath) = some suffix ↔
      suffix ∈ detectionControlSuffixes ∧ ∃ cameraId, cameraPath = cameraId ++ suffix := by
  have lead : trimLead 0x2F (ascii "cameras/" ++ cameraPath) = ascii "cameras/" ++ cameraPath := by
    rfl
  have strip : stripLead (ascii "cameras/") (ascii "cameras/" ++ cameraPath) = some cameraPath :=
    stripLead_eq_some.mpr rfl
  rw [detectionControlSuffix, lead, strip, Option.bind_some]
  constructor
  · intro found
    have strips := List.find?_some found
    obtain ⟨cameraId, ends⟩ := Option.isSome_iff_exists.mp strips
    exact ⟨List.mem_of_find?_eq_some found, cameraId, stripEnding_eq_some.mp ends⟩
  · rintro ⟨member, cameraId, rfl⟩
    cases found : detectionControlSuffixes.find? fun other =>
        (stripEnding other (cameraId ++ suffix)).isSome with
    | none =>
        have none := List.find?_eq_none.mp found suffix member
        simp [stripEnding_eq_some.mpr (rfl : cameraId ++ suffix = cameraId ++ suffix)] at none
    | some other =>
        have strips := List.find?_some found
        obtain ⟨otherId, ends⟩ := Option.isSome_iff_exists.mp strips
        have same := suffix_eq (mem_of_control member)
          (mem_of_control (List.mem_of_find?_eq_some found)) (stripEnding_eq_some.mp ends)
        rw [same.1]

theorem controlCameraId_eq_some {crates : Crates} {target cameraId : Bytes} :
    detectionControlCameraId crates target = some cameraId ↔
      ∃ suffix ∈ detectionControlSuffixes, ∃ encoded,
        beforeQuery target = ascii "/api/cameras/" ++ encoded ++ suffix ∧
          crates.decode encoded = some cameraId ∧ ControlId encoded cameraId := by
  simp only [detectionControlCameraId, Option.bind_eq_some_iff, stripLead_eq_some,
    Option.filter_eq_some_iff, decide_eq_true_eq, controlSuffix_eq_some, stripEnding_eq_some]
  constructor
  · rintro ⟨cameraPath, shape, suffix, ⟨member, -⟩, encoded, ⟨rfl, nonempty, free⟩, decoded,
      idNonempty, short, control, marks⟩
    exact ⟨suffix, member, encoded, by rw [shape, List.append_assoc], decoded, nonempty, free,
      idNonempty, short, control, marks⟩
  · rintro ⟨suffix, member, encoded, shape, decoded, valid⟩
    exact ⟨encoded ++ suffix, by rw [shape, List.append_assoc], suffix, ⟨member, encoded, rfl⟩,
      encoded, ⟨rfl, valid.encoded_ne, valid.noSlash⟩, decoded, valid.nonempty, valid.short,
      valid.control, valid.marks⟩

/-! ## The path of a camera target -/

theorem camera_lead_words : (ascii "/api/cameras").splitOn 0x2F = [[], ascii "api", ascii "cameras"] := by
  decide

theorem splitOn_camera (rest : Bytes) :
    (ascii "/api/cameras/" ++ rest).splitOn 0x2F =
      [[], ascii "api", ascii "cameras"] ++ rest.splitOn 0x2F := by
  have shape : ascii "/api/cameras/" ++ rest = ascii "/api/cameras" ++ 0x2F :: rest := by rfl
  rw [shape, List.splitOn_append_cons_self, camera_lead_words]

theorem mem_splitOn_camera {cameraId suffix segment : Bytes} (known : suffix ∈ cameraSuffixes)
    (member : segment ∈ (ascii "/api/cameras/" ++ (cameraId ++ suffix)).splitOn 0x2F) :
    segment ∈ cameraWords ∨ segment ∈ cameraId.splitOn 0x2F := by
  obtain ⟨words, rfl, inside⟩ := suffix_words suffix known
  rw [splitOn_camera, List.splitOn_append_cons_self, List.mem_append, List.mem_append] at member
  rcases member with lead | isId | word
  · left
    simp only [List.mem_cons, List.not_mem_nil, or_false] at lead
    rcases lead with rfl | rfl | rfl
    · decide
    · decide
    · decide
  · exact .inr isId
  · exact .inl (inside segment word)

theorem cameraWords_plain : ∀ word ∈ cameraWords, Literal word ∧ Url.decode word = word := by
  have facts : ∀ word ∈ cameraWords,
      hasOctet word = false ∧ isDot word = false ∧ Url.decode word = word := by
    decide
  intro word known
  obtain ⟨octets, dots, decoded⟩ := facts word known
  refine ⟨⟨fun byte member => ?_, octets, dots⟩, decoded⟩
  have kept := isKept_facts (words_kept word known byte member)
  exact ⟨kept.1, kept.2.1, kept.2.2.1⟩

/-- A camera path whose id the parser keeps is plain. -/
theorem plain_camera {cameraId suffix : Bytes} (known : suffix ∈ cameraSuffixes)
    (bytes : ∀ byte ∈ cameraId, byte ≠ 0x23 ∧ byte ≠ 0x5C ∧ isTabOrNewline byte = false)
    (noSlash : 0x2F ∉ cameraId) (notDot : isDot cameraId = false) :
    Plain (ascii "/api/cameras/" ++ (cameraId ++ suffix)) := by
  obtain ⟨suffixKept, nonempty, -⟩ := suffix_bytes suffix known
  constructor
  · intro byte member
    rcases List.mem_append.mp member with lead | member
    · have facts := isKept_facts (lead_kept byte lead)
      exact ⟨facts.1, facts.2.1, facts.2.2.1⟩
    rcases List.mem_append.mp member with isId | ending
    · exact bytes byte isId
    · have facts := isKept_facts (suffixKept byte ending)
      exact ⟨facts.1, facts.2.1, facts.2.2.1⟩
  · intro segment member
    rcases mem_splitOn_camera known member with word | isId
    · exact (cameraWords_plain segment word).1.dots
    · rw [List.splitOn_eq_singleton noSlash, List.mem_singleton] at isId
      rwa [isId]
  · intro last found
    obtain ⟨final, isFinal⟩ := Option.isSome_iff_exists.mp nonempty
    have same : (ascii "/api/cameras/" ++ (cameraId ++ suffix)).getLast? = some final := by
      simp [List.getLast?_append, isFinal]
    obtain rfl := Option.some.inj (found.symm.trans same)
    exact (isKept_facts (suffixKept last (List.mem_of_getLast? isFinal))).2.2.2

theorem starts_of_beforeQuery {target : Bytes} (slash : (beforeQuery target).head? = some 0x2F) :
    ∃ rest, target = 0x2F :: rest := by
  cases target with
  | nil => simp [beforeQuery] at slash
  | cons byte rest =>
      by_cases stop : byte = 0x3F
      · simp [beforeQuery, stop] at slash
      · simp only [beforeQuery, List.takeWhile_cons, ne_eq, stop, not_false_eq_true, decide_true,
          if_true, List.head?_cons, Option.some.injEq] at slash
        exact ⟨rest, by rw [slash]⟩

/-- What Beacon receives for a plain target is its text, encoded. -/
theorem urlPath_plain {crates : Crates} {set : EscapeSet}
    (parses : ∀ text, crates.urlPath (0x2F :: text) = some (path set (0x2F :: text)))
    {target : Bytes} (plain : Plain (beforeQuery target))
    (slash : (beforeQuery target).head? = some 0x2F) :
    crates.urlPath target = some (escape set (beforeQuery target)) := by
  have sent := path_plain set (beforeQuery_spelled target) plain slash
    (query_not_mem_beforeQuery target)
  obtain ⟨rest, rfl⟩ := starts_of_beforeQuery slash
  rw [parses, sent]

theorem urlPath_camera {crates : Crates} {set : EscapeSet}
    (parses : ∀ text, crates.urlPath (0x2F :: text) = some (path set (0x2F :: text)))
    {target cameraId suffix : Bytes} (known : suffix ∈ cameraSuffixes)
    (shape : beforeQuery target = ascii "/api/cameras/" ++ cameraId ++ suffix)
    (bytes : ∀ byte ∈ cameraId, byte ≠ 0x23 ∧ byte ≠ 0x5C ∧ isTabOrNewline byte = false)
    (noSlash : 0x2F ∉ cameraId) (notDot : isDot cameraId = false) :
    crates.urlPath target = some (ascii "/api/cameras/" ++ escape set cameraId ++ suffix) := by
  rw [List.append_assoc] at shape
  have plain : Plain (beforeQuery target) := by
    rw [shape]
    exact plain_camera known bytes noSlash notDot
  rw [urlPath_plain parses plain (by rw [shape]; rfl), shape, escape_append, escape_append,
    escape_of_kept set lead_kept, escape_of_kept set (suffix_bytes suffix known).1, List.append_assoc]

theorem cleaned_kept {text : Bytes} (kept : ∀ byte ∈ text, isKept byte = true) :
    cleaned text = text := by
  apply cleaned_plain
  intro byte member
  have facts := isKept_facts (kept byte member)
  exact ⟨facts.2.1, facts.2.2.1⟩

theorem isStop_of_ne {byte : UInt8} (query : byte ≠ 0x3F) (fragment : byte ≠ 0x23) :
    isStop byte = false := by
  simp [isStop, query, fragment]

/-- What the parser reads of a camera target whose id has a `#`. -/
theorem shown_camera_fragment {target suffix front rest : Bytes} (free : 0x23 ∉ front)
    (shape : beforeQuery target = ascii "/api/cameras/" ++ (front ++ 0x23 :: rest) ++ suffix) :
    shown target = ascii "/api/cameras/" ++ front := by
  have noQuery := query_not_mem_beforeQuery target
  have before : ∀ byte ∈ ascii "/api/cameras/" ++ front, isStop byte = false := by
    intro byte member
    apply isStop_of_ne
    · rintro rfl
      apply noQuery
      rw [shape]
      rcases List.mem_append.mp member with inLead | inFront
      · simp [inLead]
      · simp [inFront]
    · rintro rfl
      rcases List.mem_append.mp member with inLead | inFront
      · exact (isKept_facts (lead_kept _ inLead)).1 rfl
      · exact free inFront
  rcases beforeQuery_spelled target with whole | ⟨query, whole⟩
  · have split : target = (ascii "/api/cameras/" ++ front) ++ 0x23 :: (rest ++ suffix) := by
      rw [whole, shape]
      simp
    rw [split]
    exact shown_before _ before (by decide)
  · have split : target =
        (ascii "/api/cameras/" ++ front) ++ 0x23 :: (rest ++ suffix ++ 0x3F :: query) := by
      rw [whole, shape]
      simp
    rw [split]
    exact shown_before _ before (by decide)

/-- What the parser reads of a camera target whose id has no `#`. -/
theorem shown_camera {target cameraId suffix : Bytes} (known : suffix ∈ cameraSuffixes)
    (free : 0x23 ∉ cameraId)
    (shape : beforeQuery target = ascii "/api/cameras/" ++ cameraId ++ suffix) :
    shown target = ascii "/api/cameras/" ++ cameraId ++ suffix := by
  obtain ⟨suffixKept, nonempty, -⟩ := suffix_bytes suffix known
  rw [← shape]
  apply shown_spelled (beforeQuery_spelled target)
  · intro byte member
    have noQuery : byte ≠ 0x3F := fun same => query_not_mem_beforeQuery target (same ▸ member)
    apply isStop_of_ne noQuery
    rintro rfl
    rw [shape, List.mem_append, List.mem_append] at member
    rcases member with (inLead | inId) | inSuffix
    · exact (isKept_facts (lead_kept _ inLead)).1 rfl
    · exact free inId
    · exact (isKept_facts (suffixKept _ inSuffix)).1 rfl
  · intro last found
    obtain ⟨final, isFinal⟩ := Option.isSome_iff_exists.mp nonempty
    rw [shape, List.getLast?_append, isFinal, Option.some_or] at found
    obtain rfl := Option.some.inj found
    exact (isKept_facts (suffixKept _ (List.mem_of_getLast? isFinal))).2.2.2

/-- Every segment of a camera target is a known word or a part of the camera id before `#`. -/
theorem mem_segments_camera {target cameraId suffix segment : Bytes}
    (known : suffix ∈ cameraSuffixes)
    (shape : beforeQuery target = ascii "/api/cameras/" ++ cameraId ++ suffix)
    (member : segment ∈ segments target) :
    segment ∈ cameraWords ∨ segment ∈ (cleaned (cameraId.takeWhile (· ≠ 0x23))).splitOn 0x2F := by
  have inside := List.mem_of_mem_tail member
  have lead : cleaned (ascii "/api/cameras/") = ascii "/api/cameras/" := by decide
  by_cases fragment : 0x23 ∈ cameraId
  · obtain ⟨front, rest, rfl, free⟩ := List.eq_append_cons_of_mem fragment
    rw [shown_camera_fragment free shape, cleaned_append, lead, splitOn_camera,
      List.mem_append] at inside
    rw [takeWhile_ne_append rest free]
    rcases inside with word | isId
    · left
      have words : ∀ word ∈ [[], ascii "api", ascii "cameras"], word ∈ cameraWords := by decide
      exact words segment word
    · exact .inr isId
  · have suffixClean := cleaned_kept (suffix_bytes suffix known).1
    rw [shown_camera known fragment shape, cleaned_append, cleaned_append, lead, suffixClean,
      List.append_assoc] at inside
    rw [takeWhile_ne_self fragment]
    exact mem_splitOn_camera known inside

end Proxy

end HarborGate
