import HarborGate.Lib.Url

/-!
The query of a URL text, and `application/x-www-form-urlencoded` on bytes: its entries are written
out and read back, with their names and values percent-decoded.
-/

namespace Url

/-! ## The query of a URL -/

/-- The bytes that are percent-encoded in the query of a special URL. -/
def queryEscapes (byte : UInt8) : Bool :=
  byte ≤ 0x20 || 0x7F ≤ byte || byte == 0x22 || byte == 0x23 || byte == 0x27 || byte == 0x3C ||
    byte == 0x3E

def escapeQuery (text : Bytes) : Bytes :=
  text.flatMap fun byte =>
    if queryEscapes byte then [0x25, hexDigit (byte.toNat / 16), hexDigit (byte.toNat % 16)]
    else [byte]

/-- What the parser reads of a URL text in front of its fragment. -/
def beforeFragment (text : Bytes) : Bytes :=
  ((trimEnd text).filter fun byte => !isTabOrNewline byte).takeWhile (· ≠ 0x23)

/-- The text behind the question mark. -/
def afterMark (text : Bytes) : Option Bytes :=
  match text.dropWhile (· ≠ 0x3F) with
  | [] => none
  | _ :: rest => some rest

def query (text : Bytes) : Option Bytes :=
  (afterMark (beforeFragment text)).map escapeQuery

def visibleBytes (text : Bytes) : Bytes :=
  text.filter fun byte => !isTabOrNewline byte

theorem beforeFragment_cut {lead : Bytes} (rest : Bytes) (free : 0x23 ∉ lead) :
    beforeFragment (lead ++ 0x23 :: rest) = visibleBytes lead := by
  have kept : ∀ byte ∈ visibleBytes lead, decide (byte ≠ 0x23) = true := by
    intro byte member
    have other : byte ≠ 0x23 := fun same => free (same ▸ (List.mem_filter.mp member).1)
    simpa using other
  rw [beforeFragment, trimEnd_append (by decide), List.filter_append,
    List.filter_cons_of_pos (by decide)]
  change (visibleBytes lead ++ 0x23 :: _).takeWhile _ = _
  rw [List.takeWhile_append_of_pos kept, List.takeWhile_cons_of_neg (by decide), List.append_nil]

theorem queryEscapes_facts {byte : UInt8} (plain : queryEscapes byte = false) :
    isBlank byte = false ∧ isTabOrNewline byte = false ∧ byte ≠ 0x23 := by
  have all : ∀ value : Fin 256, queryEscapes (UInt8.ofNat value.val) = false →
      isBlank (UInt8.ofNat value.val) = false ∧ isTabOrNewline (UInt8.ofNat value.val) = false ∧
        UInt8.ofNat value.val ≠ 0x23 := by
    set_option maxRecDepth 1000 in
    decide
  have fact := all ⟨byte.toNat, byte.toNat_lt⟩
  simp only [UInt8.ofNat_toNat] at fact
  exact fact plain

/-- A query without bytes to escape stays as it is behind its mark. -/
theorem beforeFragment_append {whole added : Bytes} (free : 0x23 ∉ whole)
    (plain : ∀ byte ∈ added, queryEscapes byte = false) :
    beforeFragment (whole ++ 0x3F :: added) = visibleBytes whole ++ 0x3F :: added := by
  have trimmed : trimEnd added = added := by
    rw [trimEnd, List.rdropWhile_eq_self_iff]
    intro filled blank
    have last := (queryEscapes_facts (plain _ (List.getLast_mem filled))).1
    rw [last] at blank
    simp at blank
  have visible : (0x3F :: added).filter (fun byte => !isTabOrNewline byte) = 0x3F :: added := by
    rw [List.filter_eq_self]
    intro byte member
    rcases List.mem_cons.mp member with rfl | later
    · decide
    · rw [(queryEscapes_facts (plain byte later)).2.1]
      rfl
  rw [beforeFragment, trimEnd_append (by decide), trimmed, List.filter_append, visible]
  refine List.takeWhile_eq_self_iff.mpr fun byte member => ?_
  have other : byte ≠ 0x23 := by
    rcases List.mem_append.mp member with old | new
    · exact fun same => free (same ▸ (List.mem_filter.mp old).1)
    · rcases List.mem_cons.mp new with rfl | later
      · decide
      · exact (queryEscapes_facts (plain byte later)).2.2
  simpa using other

theorem escapeQuery_plain {text : Bytes} (plain : ∀ byte ∈ text, queryEscapes byte = false) :
    escapeQuery text = text := by
  induction text with
  | nil => rfl
  | cons byte rest ih =>
      have first := plain byte List.mem_cons_self
      rw [escapeQuery, List.flatMap_cons, first]
      exact congrArg (byte :: ·) (ih fun other member => plain other (List.mem_cons_of_mem _ member))

theorem afterMark_eq_none {text : Bytes} (free : 0x3F ∉ text) : afterMark text = none := by
  have all : text.dropWhile (· ≠ 0x3F) = [] := by
    refine List.dropWhile_eq_nil_iff.mpr fun byte member => ?_
    have other : byte ≠ 0x3F := fun same => free (same ▸ member)
    simpa using other
  rw [afterMark, all]

theorem afterMark_append {lead : Bytes} (rest : Bytes) (free : 0x3F ∉ lead) :
    afterMark (lead ++ 0x3F :: rest) = some rest := by
  have kept : ∀ byte ∈ lead, decide (byte ≠ 0x3F) = true := by
    intro byte member
    have other : byte ≠ 0x3F := fun same => free (same ▸ member)
    simpa using other
  rw [afterMark, List.dropWhile_append_of_pos kept, List.dropWhile_cons_of_neg (by decide)]

section Query

variable {whole added : Bytes}

/-- A fragment hides what is added. -/
theorem query_fragment (hidden : 0x23 ∈ whole) : query (whole ++ added) = query whole := by
  obtain ⟨lead, rest, rfl, free⟩ := List.eq_append_cons_of_mem hidden
  rw [query, query, List.append_assoc, List.cons_append, beforeFragment_cut _ free,
    beforeFragment_cut _ free]

theorem query_none (mark : 0x3F ∉ whole) : query whole = none := by
  have free : 0x3F ∉ beforeFragment whole := by
    intro member
    have inside := (List.takeWhile_prefix _).subset member
    have trimmed := (List.mem_filter.mp inside).1
    exact mark ((List.rdropWhile_prefix _ _).subset trimmed)
  rw [query, afterMark_eq_none free, Option.map_none]

theorem query_added (fragment : 0x23 ∉ whole) (mark : 0x3F ∉ whole)
    (plain : ∀ byte ∈ added, queryEscapes byte = false) :
    query (whole ++ 0x3F :: added) = some added := by
  have free : 0x3F ∉ visibleBytes whole := fun member => mark (List.mem_filter.mp member).1
  rw [query, beforeFragment_append fragment plain, afterMark_append _ free, Option.map_some,
    escapeQuery_plain plain]

/-- A query that begins in the whole goes on in what is added. -/
theorem query_joined (fragment : 0x23 ∉ whole) (mark : 0x3F ∈ whole)
    (plain : ∀ byte ∈ added, queryEscapes byte = false) :
    ∃ own, query (whole ++ 0x3F :: added) = some (own ++ 0x3F :: added) := by
  obtain ⟨lead, rest, rfl, free⟩ := List.eq_append_cons_of_mem mark
  have before : 0x3F ∉ visibleBytes lead := fun member => free (List.mem_filter.mp member).1
  have spread : visibleBytes (lead ++ 0x3F :: rest) = visibleBytes lead ++ 0x3F :: visibleBytes rest := by
    rw [visibleBytes, List.filter_append, List.filter_cons_of_pos (by decide)]
    rfl
  refine ⟨escapeQuery (visibleBytes rest), ?_⟩
  rw [query, beforeFragment_append fragment plain, spread, List.append_assoc, List.cons_append,
    afterMark_append _ before, Option.map_some]
  have parts : escapeQuery (visibleBytes rest ++ 0x3F :: added) =
      escapeQuery (visibleBytes rest) ++ 0x3F :: escapeQuery added := by
    rw [escapeQuery, List.flatMap_append, List.flatMap_cons]
    rfl
  rw [parts, escapeQuery_plain plain]

end Query

/-- A byte that is neither a percent sign nor a digit parts what is decoded. -/
theorem decode_parted {stop : UInt8} (mark : stop ≠ 0x25) (digit : hexValue stop = none)
    (front rest : Bytes) : decode (front ++ stop :: rest) = decode front ++ stop :: decode rest := by
  have opens : ∀ first second : UInt8, octet first stop second = none ∧
      octet first second stop = none := by
    intro first second
    constructor
    · by_contra found
      obtain ⟨value, found⟩ := Option.ne_none_iff_exists'.mp found
      have hex := (octet_hex found).1
      simp [digit] at hex
    · by_contra found
      obtain ⟨value, found⟩ := Option.ne_none_iff_exists'.mp found
      have hex := (octet_hex found).2
      simp [digit] at hex
  have behind : ∀ byte : UInt8, decode (byte :: stop :: rest) = byte :: stop :: decode rest := by
    intro byte
    rw [decode_cons, decode_cons_of_ne _ mark]
    rintro high low tail shape
    obtain ⟨rfl, -⟩ := List.cons.inj shape
    exact (opens byte low).1
  fun_induction decode front with
  | case1 first high low tail byte found ih =>
      rw [List.cons_append, List.cons_append, List.cons_append, decode, found]
      exact congrArg (byte :: ·) ih
  | case2 first high low tail none ih =>
      rw [List.cons_append, List.cons_append, List.cons_append, decode, none]
      exact congrArg (first :: ·) ih
  | case3 short notLong =>
      cases short with
      | nil => exact decode_cons_of_ne _ mark
      | cons first more =>
          cases more with
          | nil => exact behind first
          | cons second others =>
              cases others with
              | nil =>
                  have one := behind second
                  rw [List.cons_append, List.cons_append, List.nil_append, decode_cons, one]
                  · rfl
                  · rintro high low tail shape
                    obtain ⟨rfl, same⟩ := List.cons.inj shape
                    obtain ⟨rfl, -⟩ := List.cons.inj same
                    exact (opens first _).2
              | cons low tail => exact absurd rfl (notLong _ _ _ _)

end Url

namespace Form

open Url (Bytes hexDigit)

/-! ## Entries -/

/-- Letters, digits and `*-._`. -/
def isUnescaped (byte : UInt8) : Bool :=
  (0x30 ≤ byte && byte ≤ 0x39) || (0x41 ≤ byte && byte ≤ 0x5A) || (0x61 ≤ byte && byte ≤ 0x7A) ||
    byte == 0x2A || byte == 0x2D || byte == 0x2E || byte == 0x5F

def encodeByte (byte : UInt8) : Bytes :=
  if byte = 0x20 then [0x2B]
  else if isUnescaped byte then [byte]
  else [0x25, hexDigit (byte.toNat / 16), hexDigit (byte.toNat % 16)]

def encode (text : Bytes) : Bytes :=
  text.flatMap encodeByte

def pairText (pair : Bytes × Bytes) : Bytes :=
  encode pair.1 ++ 0x3D :: encode pair.2

def serialize (pairs : List (Bytes × Bytes)) : Bytes :=
  [0x26].intercalate (pairs.map pairText)

def unplus (byte : UInt8) : UInt8 :=
  if byte = 0x2B then 0x20 else byte

def decodeText (text : Bytes) : Bytes :=
  Url.decode (text.map unplus)

def entry (segment : Bytes) : Bytes × Bytes :=
  (decodeText (segment.takeWhile (· ≠ 0x3D)), decodeText ((segment.dropWhile (· ≠ 0x3D)).drop 1))

def entries (text : Bytes) : List (Bytes × Bytes) :=
  ((text.splitOn 0x26).filter (· ≠ [])).map entry

/-! ## Reading back -/

theorem hexDigit_unplus {value : Nat} (small : value < 16) :
    unplus (hexDigit value) = hexDigit value := by
  have all : ∀ digit : Fin 16, unplus (hexDigit digit) = hexDigit digit := by decide
  exact all ⟨value, small⟩

theorem isUnescaped_facts {byte : UInt8} (unescaped : isUnescaped byte = true) :
    byte ≠ 0x25 ∧ byte ≠ 0x26 ∧ byte ≠ 0x2B ∧ byte ≠ 0x3D := by
  have all : ∀ value : Fin 256, isUnescaped (UInt8.ofNat value.val) = true →
      UInt8.ofNat value.val ≠ 0x25 ∧ UInt8.ofNat value.val ≠ 0x26 ∧
        UInt8.ofNat value.val ≠ 0x2B ∧ UInt8.ofNat value.val ≠ 0x3D := by
    set_option maxRecDepth 1000 in
    decide
  have fact := all ⟨byte.toNat, byte.toNat_lt⟩
  simp only [UInt8.ofNat_toNat] at fact
  exact fact unescaped

theorem decodeText_cons {byte : UInt8} (rest : Bytes) (mark : byte ≠ 0x25) :
    decodeText (byte :: rest) = unplus byte :: decodeText rest := by
  have kept : unplus byte ≠ 0x25 := by
    simp only [unplus]
    split
    · decide
    · exact mark
  rw [decodeText, List.map_cons, Url.decode_cons_of_ne _ kept]
  rfl

theorem decodeText_encode (text tail : Bytes) :
    decodeText (encode text ++ tail) = text ++ decodeText tail := by
  induction text with
  | nil => rfl
  | cons byte rest ih =>
      have shape : encode (byte :: rest) ++ tail = encodeByte byte ++ (encode rest ++ tail) := by
        simp [encode]
      rw [shape, List.cons_append, ← ih]
      by_cases space : byte = 0x20
      · subst space
        have plus : encodeByte 0x20 = [0x2B] := rfl
        rw [plus, List.singleton_append, decodeText_cons _ (by decide)]
        rfl
      by_cases unescaped : isUnescaped byte = true
      · obtain ⟨mark, -, plus, -⟩ := isUnescaped_facts unescaped
        have same : encodeByte byte = [byte] := by simp [encodeByte, space, unescaped]
        rw [same, List.singleton_append, decodeText_cons _ mark, unplus, if_neg plus]
      · have escaped : encodeByte byte =
            [0x25, hexDigit (byte.toNat / 16), hexDigit (byte.toNat % 16)] := by
          simp [encodeByte, space, unescaped]
        have bound := byte.toNat_lt
        have high := hexDigit_unplus (show byte.toNat / 16 < 16 by omega)
        have low := hexDigit_unplus (show byte.toNat % 16 < 16 by omega)
        have mark : unplus 0x25 = 0x25 := rfl
        rw [escaped, List.cons_append, List.cons_append, List.cons_append, List.nil_append,
          decodeText, List.map_cons, List.map_cons, List.map_cons, high, low, mark, Url.decode,
          Url.octet_hexDigit]
        rfl

theorem mem_encode {byte : UInt8} {text : Bytes} (member : byte ∈ encode text) :
    byte = 0x25 ∨ byte = 0x2B ∨ isUnescaped byte = true := by
  obtain ⟨source, -, inside⟩ := List.mem_flatMap.mp member
  have digits : ∀ digit : Fin 16, isUnescaped (hexDigit digit) = true := by decide
  have bound := source.toNat_lt
  simp only [encodeByte] at inside
  split at inside
  · exact Or.inr (Or.inl (List.mem_singleton.mp inside))
  · split at inside
    · rename_i unescaped
      obtain rfl := List.mem_singleton.mp inside
      exact Or.inr (Or.inr unescaped)
    · simp only [List.mem_cons, List.not_mem_nil, or_false] at inside
      rcases inside with rfl | rfl | rfl
      · exact Or.inl rfl
      · exact Or.inr (Or.inr (digits ⟨source.toNat / 16, by omega⟩))
      · exact Or.inr (Or.inr (digits ⟨source.toNat % 16, by omega⟩))

theorem encode_free (text : Bytes) : 0x26 ∉ encode text ∧ 0x3D ∉ encode text := by
  constructor
  · intro member
    rcases mem_encode member with mark | plus | unescaped
    · simp at mark
    · simp at plus
    · exact (isUnescaped_facts unescaped).2.1 rfl
  · intro member
    rcases mem_encode member with mark | plus | unescaped
    · simp at mark
    · simp at plus
    · exact (isUnescaped_facts unescaped).2.2.2 rfl

theorem pairText_free (pair : Bytes × Bytes) : 0x26 ∉ pairText pair := by
  intro member
  rcases List.mem_append.mp member with name | value
  · exact (encode_free _).1 name
  · rcases List.mem_cons.mp value with mark | value
    · simp at mark
    · exact (encode_free _).1 value

theorem entry_pairText (pair : Bytes × Bytes) : entry (pairText pair) = pair := by
  have free := (encode_free pair.1).2
  have name : (pairText pair).takeWhile (· ≠ 0x3D) = encode pair.1 :=
    Url.takeWhile_ne_append _ free
  have value : (pairText pair).dropWhile (· ≠ 0x3D) = 0x3D :: encode pair.2 := by
    have whole := @List.takeWhile_append_dropWhile _ (· ≠ 0x3D) (pairText pair)
    rw [name] at whole
    exact List.append_cancel_left whole
  have read := decodeText_encode pair.1 []
  have readValue := decodeText_encode pair.2 []
  simp only [List.append_nil, decodeText, List.map_nil, Url.decode] at read readValue
  rw [entry, name, value, List.drop_one, List.tail_cons]
  simp only [decodeText, read, readValue]

theorem entries_append (front rest : Bytes) :
    entries (front ++ 0x26 :: rest) = entries front ++ entries rest := by
  rw [entries, List.splitOn_append_cons_self, List.filter_append, List.map_append]
  rfl

theorem entries_single {segment : Bytes} (free : 0x26 ∉ segment) (filled : segment ≠ []) :
    entries segment = [entry segment] := by
  rw [entries, List.splitOn_eq_singleton free]
  simp [filled]

theorem pairText_ne_nil (pair : Bytes × Bytes) : pairText pair ≠ [] := by
  simp [pairText]

/-- Behind the first segment come the entries of the others. -/
theorem entries_lead {segment : Bytes} {pair : Bytes × Bytes} {rest : List (Bytes × Bytes)}
    (free : 0x26 ∉ segment) :
    entries (segment ++ serialize (pair :: rest)) =
      entry (segment ++ pairText pair) :: entries (serialize rest) := by
  have first : 0x26 ∉ segment ++ pairText pair := by
    intro member
    rcases List.mem_append.mp member with lead | own
    · exact free lead
    · exact pairText_free pair own
  have filled : segment ++ pairText pair ≠ [] := by simp [pairText_ne_nil]
  cases rest with
  | nil =>
      have alone : serialize [pair] = pairText pair := by simp [serialize]
      rw [alone, entries_single first filled]
      rfl
  | cons next rest =>
      have shape : segment ++ serialize (pair :: next :: rest) =
          (segment ++ pairText pair) ++ 0x26 :: serialize (next :: rest) := by
        simp [serialize, List.intercalate_cons_cons]
      rw [shape, entries_append, entries_single first filled]
      rfl

theorem entries_serialize (pairs : List (Bytes × Bytes)) : entries (serialize pairs) = pairs := by
  induction pairs with
  | nil => rfl
  | cons pair rest ih =>
      have lead := @entries_lead [] pair rest (by simp)
      rw [List.nil_append] at lead
      rw [lead, ih, List.nil_append, entry_pairText]

/-! ## Entries behind other text -/

theorem decodeText_parted (front rest : Bytes) :
    decodeText (front ++ 0x3F :: rest) = decodeText front ++ 0x3F :: decodeText rest := by
  rw [decodeText, List.map_append, List.map_cons]
  exact Url.decode_parted (by decide) (by decide) _ _

theorem decodeText_pairText (pair : Bytes × Bytes) :
    decodeText (pairText pair) = pair.1 ++ 0x3D :: pair.2 := by
  have value := decodeText_encode pair.2 []
  rw [List.append_nil] at value
  rw [pairText, decodeText_encode, decodeText_cons _ (by decide), value]
  simp [unplus, decodeText, Url.decode]

/-- Behind a question mark the first pair is read into a longer name or a longer value. -/
theorem entry_parted (front : Bytes) (pair : Bytes × Bytes) :
    (∃ text, (entry (front ++ 0x3F :: pairText pair)).1 = text ++ 0x3F :: pair.1) ∨
      ∃ text, (entry (front ++ 0x3F :: pairText pair)).2 =
        text ++ 0x3F :: (pair.1 ++ 0x3D :: pair.2) := by
  by_cases inside : 0x3D ∈ front
  · right
    obtain ⟨name, value, rfl, free⟩ := List.eq_append_cons_of_mem inside
    have kept : ∀ byte ∈ name, decide (byte ≠ 0x3D) = true := by
      intro byte member
      have other : byte ≠ 0x3D := fun same => free (same ▸ member)
      simpa using other
    refine ⟨decodeText value, ?_⟩
    rw [entry, List.append_assoc, List.dropWhile_append_of_pos kept, List.cons_append,
      List.dropWhile_cons_of_neg (by decide), List.drop_one, List.tail_cons, decodeText_parted,
      decodeText_pairText]
  · left
    have free : 0x3D ∉ front ++ 0x3F :: encode pair.1 := by
      intro member
      rcases List.mem_append.mp member with old | new
      · exact inside old
      · rcases List.mem_cons.mp new with mark | name
        · simp at mark
        · exact (encode_free _).2 name
    have shape : front ++ 0x3F :: pairText pair =
        (front ++ 0x3F :: encode pair.1) ++ 0x3D :: encode pair.2 := by simp [pairText]
    have name := decodeText_encode pair.1 []
    rw [List.append_nil] at name
    refine ⟨decodeText front, ?_⟩
    rw [entry, shape, Url.takeWhile_ne_append _ free, decodeText_parted, name]
    simp [decodeText, Url.decode]

/-- Behind other text all pairs but the first are read as they are. -/
theorem entries_parted (own : Bytes) (pair : Bytes × Bytes) (rest : List (Bytes × Bytes)) :
    ∃ front last, entries (own ++ 0x3F :: serialize (pair :: rest)) =
      front ++ entry (last ++ 0x3F :: pairText pair) :: rest := by
  have plain : ∀ last : Bytes, 0x26 ∉ last →
      entries (last ++ 0x3F :: serialize (pair :: rest)) =
        entry (last ++ 0x3F :: pairText pair) :: rest := by
    intro last free
    have marked : 0x26 ∉ last ++ [0x3F] := by simp [free]
    have lead := @entries_lead (last ++ [0x3F]) pair rest marked
    rw [entries_serialize] at lead
    simpa using lead
  by_cases inside : 0x26 ∈ own
  · obtain ⟨reversed, before, shape, free⟩ :=
      List.eq_append_cons_of_mem (List.mem_reverse.mpr inside)
    have same : own = before.reverse ++ 0x26 :: reversed.reverse := by
      rw [← List.reverse_reverse own, shape]
      simp
    have last : 0x26 ∉ reversed.reverse := by simpa using free
    refine ⟨entries before.reverse, reversed.reverse, ?_⟩
    rw [same, List.append_assoc, List.cons_append, entries_append, plain _ last]
  · exact ⟨[], own, plain own inside⟩

theorem serialize_plain (pairs : List (Bytes × Bytes)) :
    ∀ byte ∈ serialize pairs, Url.queryEscapes byte = false := by
  have facts : ∀ byte : UInt8, byte = 0x25 ∨ byte = 0x2B ∨ isUnescaped byte = true →
      Url.queryEscapes byte = false := by
    have all : ∀ value : Fin 256, isUnescaped (UInt8.ofNat value.val) = true →
        Url.queryEscapes (UInt8.ofNat value.val) = false := by
      set_option maxRecDepth 1000 in
      decide
    rintro byte (rfl | rfl | unescaped)
    · decide
    · decide
    · have fact := all ⟨byte.toNat, byte.toNat_lt⟩
      simp only [UInt8.ofNat_toNat] at fact
      exact fact unescaped
  have own : ∀ pair : Bytes × Bytes, ∀ byte ∈ pairText pair, Url.queryEscapes byte = false := by
    intro pair byte member
    rcases List.mem_append.mp member with name | value
    · exact facts byte (mem_encode name)
    · rcases List.mem_cons.mp value with rfl | value
      · decide
      · exact facts byte (mem_encode value)
  induction pairs with
  | nil => simp [serialize]
  | cons pair rest ih =>
      cases rest with
      | nil =>
          have alone : serialize [pair] = pairText pair := by simp [serialize]
          rw [alone]
          exact own pair
      | cons next rest =>
          have shape : serialize (pair :: next :: rest) =
              pairText pair ++ 0x26 :: serialize (next :: rest) := by
            simp [serialize, List.intercalate_cons_cons]
          rw [shape]
          intro byte member
          rcases List.mem_append.mp member with first | later
          · exact own pair byte first
          · rcases List.mem_cons.mp later with rfl | later
            · decide
            · exact ih byte later

end Form
