import HarborGate.Lib.Form
import HarborGate.Lib.Lossy
import HarborGate.Server.CameraScope

/-!
The query that Beacon receives: identities are taken out of the query of the client, and what is
left is put behind a path that the client of the proxy reads once more.
-/

namespace HarborGate

namespace Proxy

open Url

/-! ## Forms -/

def formEntries (query : Bytes) : List (String × String) :=
  (Form.entries query).map fun pair => (Text.lossy pair.1, Text.lossy pair.2)

def formBytes (pairs : List (String × String)) : List (Bytes × Bytes) :=
  pairs.map fun pair => (utf8Bytes pair.1, utf8Bytes pair.2)

/-- What `form_urlencoded` documents. -/
structure Crates.ReadsForms (crates : Crates) : Prop where
  parses : ∀ query, crates.formPairs query = formEntries (utf8Bytes query)
  serializes : ∀ pairs, utf8Bytes (crates.formText pairs) = Form.serialize (formBytes pairs)

/-- `found` is the query of `Url::parse`, when the text is an HTTP URL. -/
def ReadsQueries (found : Bytes → Option (Option Bytes)) : Prop :=
  ∀ text own, found text = some own → own = Url.query text

def queryPairs : Option Bytes → List (String × String)
  | none => []
  | some query => formEntries query

/-- The pairs of the client's query that name no identity. -/
def keptPairs (query : Option String) : List (String × String) :=
  (queryPairs (query.map utf8Bytes)).filter fun pair => !isIdentityQueryKey pair.1

theorem formEntries_serialize (pairs : List (String × String)) :
    formEntries (Form.serialize (formBytes pairs)) = pairs := by
  rw [formEntries, Form.entries_serialize, formBytes, List.map_map]
  have same : ∀ pair ∈ pairs, ((fun pair : Bytes × Bytes => (Text.lossy pair.1, Text.lossy pair.2)) ∘
      fun pair : String × String => (utf8Bytes pair.1, utf8Bytes pair.2)) pair = pair := by
    intro pair _
    exact Prod.ext (Text.lossy_toUTF8 pair.1) (Text.lossy_toUTF8 pair.2)
  rw [List.map_congr_left same, List.map_id']

/-- What is sent of the client's query. -/
theorem sanitized_cases {crates : Crates} (forms : crates.ReadsForms) (query : Option String) :
    (sanitizedBeaconQuery crates query = none ∧
      (keptPairs query = [] ∨ ∃ text ∈ query, Text.trim text = "")) ∨
    (∃ pair rest, keptPairs query = pair :: rest ∧
      sanitizedBeaconQuery crates query = some (crates.formText (pair :: rest)) ∧
      ∀ text ∈ query, Text.trim text ≠ "") := by
  cases query with
  | none => exact .inl ⟨rfl, .inl rfl⟩
  | some text =>
      by_cases blank : Text.trim text = ""
      · refine .inl ⟨?_, .inr ⟨text, rfl, blank⟩⟩
        simp only [sanitizedBeaconQuery, Option.filter_some, blank, ne_eq, not_true_eq_false,
          decide_false, Bool.false_eq_true, if_false]
      have kept : (crates.formPairs text).filter (fun pair => !isIdentityQueryKey pair.1) =
          keptPairs (some text) := by
        rw [forms.parses]
        rfl
      cases pairs : keptPairs (some text) with
      | nil =>
          left
          rw [pairs] at kept
          refine ⟨?_, .inl rfl⟩
          simp only [sanitizedBeaconQuery, Option.filter_some, blank, ne_eq, not_false_eq_true,
            decide_true, if_true, kept]
      | cons pair rest =>
          right
          rw [pairs] at kept
          refine ⟨pair, rest, rfl, ?_, by simpa using blank⟩
          simp only [sanitizedBeaconQuery, Option.filter_some, blank, ne_eq, not_false_eq_true,
            decide_true, if_true, kept, reduceCtorEq, if_false]

/-! ## Blank queries -/

theorem blank_bytes {text : String} (blank : Text.isBlank text = true) :
    ∀ byte ∈ utf8Bytes text, byte ≠ 0x25 ∧ byte ≠ 0x26 ∧ byte ≠ 0x2B ∧ byte ≠ 0x3D := by
  intro byte member
  rw [utf8Bytes, Text.toUTF8_eq] at member
  obtain ⟨c, inside, member⟩ := List.mem_flatMap.mp member
  have white := List.all_eq_true.mp blank c inside
  have apart : ∀ code : Nat, 0x25 ≤ code → code ≤ 0x3D → byte.toNat ≠ code := by
    intro code above below same
    cases plain : Text.isAscii c with
    | true =>
        rw [Text.encode_ascii plain] at member
        have value := Text.byte_toNat plain
        rw [← List.mem_singleton.mp member, same] at value
        simp only [Text.isWhitespace, Bool.or_eq_true, Bool.and_eq_true, decide_eq_true_eq,
          beq_iff_eq] at white
        omega
    | false =>
        have high := Text.encode_other plain byte member
        omega
  refine ⟨?_, ?_, ?_, ?_⟩
  all_goals
    rintro rfl
    exact apart _ (by decide) (by decide) rfl

/-- The form of a blank text has one pair, which is named by the text. -/
theorem keptPairs_blank {text : String} (blank : Text.trim text = "") (filled : text ≠ "") :
    keptPairs (some text) ≠ [] := by
  have bytes := blank_bytes (Text.isBlank_of_trim blank)
  have some : utf8Bytes text ≠ [] := by
    intro empty
    have read := Text.lossy_toUTF8 text
    rw [utf8Bytes] at empty
    rw [empty] at read
    exact filled read.symm
  have plain : (utf8Bytes text).map Form.unplus = utf8Bytes text := by
    have same : ∀ byte ∈ utf8Bytes text, Form.unplus byte = byte := fun byte member =>
      if_neg (bytes byte member).2.2.1
    rw [List.map_congr_left same, List.map_id']
  have name : (utf8Bytes text).takeWhile (· ≠ 0x3D) = utf8Bytes text :=
    takeWhile_ne_self fun member => (bytes _ member).2.2.2 rfl
  have decoded : decode (utf8Bytes text) = utf8Bytes text := by
    have whole := decode_append_of_ne [] fun member => (bytes _ member).1 rfl
    simpa [decode] using whole
  have entry : (Form.entry (utf8Bytes text)).1 = utf8Bytes text := by
    rw [Form.entry, name, Form.decodeText, plain, decoded]
  have single := Form.entries_single (fun member => (bytes _ member).2.1 rfl) some
  have named : isIdentityQueryKey text = false := by
    rw [isIdentityQueryKey, blank]
    decide
  have read : Text.lossy (utf8Bytes text) = text := Text.lossy_toUTF8 text
  simp [keptPairs, queryPairs, formEntries, single, entry, read, named]

/-! ## The target -/

/-- The path that the target is made of: a control path as it is spelled, or any other decoded. -/
def Request.assembled (crates : Crates) (request : Request) : Bytes :=
  match request.tail with
  | none => []
  | some tail =>
      let decoded := (crates.decode tail).getD []
      if (detectionControlSuffix decoded).isSome then tail else decoded

theorem controlDecoded {crates : Crates} {tail : Bytes} {query : Option String}
    {found : Option Bytes}
    (ok : detectionControlProxyTargetPath crates (0x2F :: tail) query = .ok found) :
    ∃ decoded, crates.decode tail = some decoded ∧
      (detectionControlSuffix decoded).isSome = found.isSome := by
  have stripped : (stripLead [0x2F] (0x2F :: tail)).getD (0x2F :: tail) = tail := by
    simp [stripLead]
  simp only [detectionControlProxyTargetPath, stripped] at ok
  split at ok
  · simp at ok
  rename_i decoded isDecoded
  refine ⟨decoded, isDecoded, ?_⟩
  split at ok
  · rename_i control
    obtain ⟨value, -, rfl⟩ := Result.map_eq_ok.mp ok
    simp [control]
  · rename_i other
    split at ok
    · simp at ok
    · obtain rfl := Except.ok.inj ok
      simpa using other

theorem assembled_target {crates : Crates} {request : Request} {target : Bytes}
    (accepted : request.target crates = .ok target) :
    target = beaconProxyTargetPath crates (request.assembled crates) request.query := by
  rcases target_cases accepted with ⟨isRoot, rfl⟩ | ⟨tail, isTail, control⟩ |
    ⟨tail, decoded, isTail, isDecoded, other, rfl, -⟩
  · rw [Request.assembled, isRoot]
  · obtain ⟨decoded, isDecoded, ends⟩ := controlDecoded control
    obtain ⟨-, -, -, -, -, same⟩ := controlTarget_ok control
    simp only [Request.assembled, isTail, isDecoded, Option.getD_some, ends, Option.isSome_some,
      if_true, same]
  · obtain ⟨again, isAgain, ends⟩ := controlDecoded other
    obtain rfl := Option.some.inj (isDecoded.symm.trans isAgain)
    simp only [Request.assembled, isTail, isDecoded, Option.getD_some, ends, Option.isSome_none,
      Bool.false_eq_true, if_false]

def Host.proxyBase (host : Host) : String :=
  trimEndSlashes (Text.trim host.harborbeaconBaseUrl)

theorem serve_baseUrl {crates : Crates} {host : Host} {request : Request} {forwarded : Forwarded}
    (served : request.serve crates host = .ok forwarded) :
    forwarded.baseUrl = host.proxyBase := by
  simp only [Request.serve] at served
  split at served
  · simp at served
  have sent := Result.mapError_eq_ok.mp served
  simp only [proxyBeaconRequest] at sent
  split at sent
  · simp [throw, throwThe, MonadExceptOf.throw, bind, Except.bind] at sent
  split at sent
  · simp [throw, throwThe, MonadExceptOf.throw, bind, Except.bind] at sent
  obtain ⟨principal, -, sent⟩ := Result.bind_eq_ok.mp sent
  obtain ⟨upstream, -, sent⟩ := Result.bind_eq_ok.mp sent
  obtain rfl := Result.pure_eq_ok.mp sent
  rfl

/-- The text of the URL in front of the query that the proxy adds. -/
def Request.front (crates : Crates) (host : Host) (request : Request) : Bytes :=
  utf8Bytes host.proxyBase ++ targetBase (request.assembled crates)

def addedQuery (crates : Crates) (query : Option String) : Bytes :=
  match sanitizedBeaconQuery crates query with
  | some text => 0x3F :: utf8Bytes text
  | none => []

theorem served_text {crates : Crates} {host : Host} {request : Request} {forwarded : Forwarded}
    (served : request.serve crates host = .ok forwarded) :
    utf8Bytes forwarded.baseUrl ++ forwarded.target =
      request.front crates host ++ addedQuery crates request.query := by
  rw [serve_baseUrl served, assembled_target (serve_ok served).1, beaconProxyTargetPath,
    Request.front, addedQuery, List.append_assoc]
  cases sanitizedBeaconQuery crates request.query with
  | none => rw [List.append_nil]
  | some text => rfl

/-! ## The query that is sent -/

/-- Beacon receives no identity, and the other pairs as the client sent them. -/
structure Filtered (query : Option String) (own : Option Bytes) : Prop where
  anonymous : ∀ pair ∈ queryPairs own, isIdentityQueryKey pair.1 = false
  others : (queryPairs own).filter (fun pair => !isIdentityQueryKey pair.1) = keptPairs query

/-- The text in front of the added query has neither a fragment nor a query of its own, and the
query of the client is not blank. -/
def Undisturbed (crates : Crates) (query : Option String) (front : Bytes) : Prop :=
  if 0x23 ∈ front then queryPairs (Url.query front) = keptPairs query
  else if 0x3F ∈ front then
    sanitizedBeaconQuery crates query = none ∧ queryPairs (Url.query front) = keptPairs query
  else ∀ text ∈ query, Text.trim text = "" → text = ""

theorem filtered_iff {query : Option String} {own : Option Bytes} :
    Filtered query own ↔ queryPairs own = keptPairs query := by
  constructor
  · rintro ⟨anonymous, others⟩
    rw [← others, eq_comm, List.filter_eq_self]
    intro pair member
    simp [anonymous pair member]
  · intro same
    have plain : ∀ pair ∈ queryPairs own, (!isIdentityQueryKey pair.1) = true := by
      rw [same]
      exact fun pair member => (List.mem_filter.mp member).2
    exact ⟨fun pair member => by simpa using plain pair member,
      (List.filter_eq_self.mpr plain).trans same⟩

theorem lossy_mark (text tail : Bytes) :
    Text.lossy (text ++ 0x3F :: tail) = Text.lossy text ++ "?" ++ Text.lossy tail :=
  @Text.lossy_parted '?' rfl text tail

/-- Behind a query of its own the text of the proxy reads other pairs. -/
theorem joined_pairs (own : Bytes) (pair : String × String) (rest : List (String × String)) :
    formEntries (own ++ 0x3F :: Form.serialize (formBytes (pair :: rest))) ≠ pair :: rest := by
  obtain ⟨front, last, same⟩ := Form.entries_parted own (utf8Bytes pair.1, utf8Bytes pair.2)
    (formBytes rest)
  have shape : formBytes (pair :: rest) = (utf8Bytes pair.1, utf8Bytes pair.2) :: formBytes rest :=
    rfl
  rw [formEntries, shape, same]
  intro equal
  have alone : front = [] := by
    have lengths := congrArg List.length equal
    simp only [List.length_map, List.length_append, List.length_cons, formBytes] at lengths
    exact List.length_eq_zero_iff.mp (by omega)
  rw [alone, List.nil_append, List.map_cons] at equal
  have first := (List.cons.inj equal).1
  have readName : Text.lossy (utf8Bytes pair.1) = pair.1 := Text.lossy_toUTF8 pair.1
  have readValue : Text.lossy (utf8Bytes pair.2) = pair.2 := Text.lossy_toUTF8 pair.2
  rcases Form.entry_parted last (utf8Bytes pair.1, utf8Bytes pair.2) with
    ⟨text, name⟩ | ⟨text, value⟩
  · have read := congrArg (fun pair => pair.1.length) first
    simp only [name, lossy_mark, readName, String.length_append] at read
    have mark : "?".length = 1 := rfl
    omega
  · have read := congrArg (fun pair => pair.2.length) first
    have equals : Text.lossy (utf8Bytes pair.1 ++ 0x3D :: utf8Bytes pair.2) =
        Text.lossy (utf8Bytes pair.1) ++ "=" ++ Text.lossy (utf8Bytes pair.2) :=
      @Text.lossy_parted '=' rfl _ _
    simp only [value, lossy_mark, equals, readValue, String.length_append] at read
    have mark : "?".length = 1 := rfl
    omega

theorem sent_pairs_iff {crates : Crates} (forms : crates.ReadsForms) (query : Option String)
    (front : Bytes) :
    queryPairs (Url.query (front ++ addedQuery crates query)) = keptPairs query ↔
      Undisturbed crates query front := by
  rw [Undisturbed]
  by_cases fragment : 0x23 ∈ front
  · rw [if_pos fragment, query_fragment fragment]
  rw [if_neg fragment]
  rcases sanitized_cases forms query with ⟨dropped, reason⟩ | ⟨pair, rest, kept, sent, filled⟩
  · have added : front ++ addedQuery crates query = front := by
      rw [addedQuery, dropped, List.append_nil]
    rw [added]
    by_cases mark : 0x3F ∈ front
    · simp [mark, dropped]
    rw [if_neg mark, query_none mark, queryPairs]
    constructor
    · intro none text isText blank
      obtain rfl := Option.mem_def.mp isText
      by_contra filled
      exact keptPairs_blank blank filled none.symm
    · intro empty
      rcases reason with none | ⟨text, isText, blank⟩
      · exact none.symm
      · obtain rfl := empty text isText blank
        rw [Option.mem_def.mp isText]
        decide
  · have added : addedQuery crates query = 0x3F :: Form.serialize (formBytes (pair :: rest)) := by
      rw [addedQuery, sent]
      exact congrArg (0x3F :: ·) (forms.serializes _)
    have plain := Form.serialize_plain (formBytes (pair :: rest))
    rw [added, kept]
    by_cases mark : 0x3F ∈ front
    · obtain ⟨own, joined⟩ := query_joined fragment mark plain
      rw [joined, if_pos mark, sent]
      have other := joined_pairs own pair rest
      simp [queryPairs, other]
    · rw [query_added fragment mark plain, if_neg mark, queryPairs, formEntries_serialize]
      simp only [true_iff]
      exact fun text isText blank => absurd blank (filled text isText)

/-- A query is filtered exactly when nothing in front of it makes one or hides it. -/
theorem query_filtered_iff {crates : Crates} (forms : crates.ReadsForms)
    {urlQuery : Bytes → Option (Option Bytes)} (reads : ReadsQueries urlQuery) {host : Host}
    {request : Request} {forwarded : Forwarded} {own : Option Bytes}
    (served : request.serve crates host = .ok forwarded)
    (parsed : urlQuery (utf8Bytes forwarded.baseUrl ++ forwarded.target) = some own) :
    Filtered request.query own ↔ Undisturbed crates request.query (request.front crates host) := by
  rw [reads _ _ parsed, served_text served, filtered_iff, sent_pairs_iff forms]

/-! ## Sample requests -/

/-- The gateway at work, with forms. -/
def formCrates : Crates where
  urlPath := standardCrates.urlPath
  decode := standardCrates.decode
  formPairs query := formEntries (utf8Bytes query)
  formText pairs :=
    String.ofList ((Form.serialize (formBytes pairs)).map fun byte => Char.ofNat byte.toNat)

theorem utf8_plain {bytes : Bytes} (plain : ∀ byte ∈ bytes, queryEscapes byte = false) :
    Text.utf8 (bytes.map fun byte => Char.ofNat byte.toNat) = bytes := by
  have single : ∀ byte : UInt8, queryEscapes byte = false →
      String.utf8EncodeChar (Char.ofNat byte.toNat) = [byte] := by
    have all : ∀ value : Fin 256, queryEscapes (UInt8.ofNat value.val) = false →
        String.utf8EncodeChar (Char.ofNat (UInt8.ofNat value.val).toNat) =
          [UInt8.ofNat value.val] := by
      set_option maxRecDepth 1000 in
      decide
    intro byte kept
    have fact := all ⟨byte.toNat, byte.toNat_lt⟩
    simp only [UInt8.ofNat_toNat] at fact
    exact fact kept
  induction bytes with
  | nil => rfl
  | cons byte rest ih =>
      rw [List.map_cons, Text.utf8_cons, single byte (plain byte List.mem_cons_self),
        ih fun other member => plain other (List.mem_cons_of_mem _ member), List.singleton_append]

theorem formCrates_documented : formCrates.Documented where
  parses := standardCrates_documented.parses
  decodes := standardCrates_documented.decodes

theorem formCrates_reads : formCrates.ReadsForms where
  parses _ := rfl
  serializes pairs := by
    change utf8Bytes (String.ofList _) = _
    rw [utf8Bytes, Text.toUTF8_eq, String.toList_ofList, utf8_plain (Form.serialize_plain _)]

theorem url_query_reads : ReadsQueries fun text => some (Url.query text) :=
  fun _ _ found => (Option.some.inj found).symm

def searchRequest : Request where
  facade := .harborAssistant
  method := .post
  tail := some (ascii "files/search")
  query := some "q=a&User_Id=1&limit=2"
  headers := []
  visible := by decide +kernel

def sampleForwarded (method : Method) (target : Bytes) : Forwarded where
  method := method
  baseUrl := "http://beacon"
  target := target
  principal := none
  headers := [("authorization", ascii "Bearer secret")]

theorem search_query_filtered :
    searchRequest.serve formCrates sampleHost =
        .ok (sampleForwarded .post (ascii "/api/files/search?q=a&limit=2")) ∧
      Filtered searchRequest.query (some (ascii "q=a&limit=2")) := by
  have served : searchRequest.serve formCrates sampleHost =
      .ok (sampleForwarded .post (ascii "/api/files/search?q=a&limit=2")) := by decide
  refine ⟨served, (query_filtered_iff formCrates_reads url_query_reads served ?_).mpr ?_⟩
  · decide
  · have fragment : 0x23 ∉ searchRequest.front formCrates sampleHost := by decide
    have mark : 0x3F ∉ searchRequest.front formCrates sampleHost := by decide
    have filled : Text.trim "q=a&User_Id=1&limit=2" ≠ "" := by decide
    rw [Undisturbed, if_neg fragment, if_neg mark]
    intro text same blank
    have isText : "q=a&User_Id=1&limit=2" = text := Option.some.inj same
    exact absurd (isText ▸ blank) filled

/-- A path with an encoded question mark. -/
def smuggledRequest : Request :=
  bareRequest .get "x%3Fuser_id%3D1" (by decide +kernel)

theorem path_makes_query :
    ¬∀ (crates : Crates) (_ : crates.Documented) (_ : crates.ReadsForms)
      (urlQuery : Bytes → Option (Option Bytes)) (_ : ReadsQueries urlQuery) (host : Host)
      (request : Request) (forwarded : Forwarded) (own : Option Bytes),
      request.serve crates host = .ok forwarded →
        urlQuery (utf8Bytes forwarded.baseUrl ++ forwarded.target) = some own →
          Filtered request.query own := by
  intro always
  have served : smuggledRequest.serve formCrates sampleHost =
      .ok (sampleForwarded .get (ascii "/api/x?user_id=1")) := by decide
  have filtered := always formCrates formCrates_documented formCrates_reads _ url_query_reads sampleHost
    smuggledRequest _ (some (ascii "user_id=1")) served (by decide)
  have named := filtered.anonymous ("user_id", "1") (by decide)
  have identity : isIdentityQueryKey "user_id" = true := by decide
  simp [identity] at named

end Proxy

end HarborGate
