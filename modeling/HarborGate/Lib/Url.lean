import Mathlib.Data.List.DropRight
import Mathlib.Data.List.Infix

/-!
The path of a URL text, on bytes: percent-decoding and -encoding, and the path state of the URL
Standard for a special scheme. `path` takes the text that follows the origin. A text is `Plain`
when the parser keeps its segments as they are spelled.
-/

namespace Url

abbrev Bytes := List UInt8

def ascii (text : String) : Bytes :=
  text.toList.map fun c => UInt8.ofNat c.toNat

/-! ## Leads and endings -/

def stripLead (lead text : Bytes) : Option Bytes :=
  if lead.isPrefixOf text then some (text.drop lead.length) else none

def stripEnding (ending text : Bytes) : Option Bytes :=
  if ending.isSuffixOf text then some (text.take (text.length - ending.length)) else none

def trimLead (byte : UInt8) (text : Bytes) : Bytes :=
  text.dropWhile (· == byte)

theorem stripLead_eq_some {lead text rest : Bytes} :
    stripLead lead text = some rest ↔ text = lead ++ rest := by
  simp only [stripLead]
  constructor
  · intro found
    split at found
    · rename_i leads
      obtain ⟨tail, rfl⟩ := List.isPrefixOf_iff_prefix.mp leads
      simpa using found
    · simp at found
  · rintro rfl
    simp

theorem stripEnding_eq_some {ending text rest : Bytes} :
    stripEnding ending text = some rest ↔ text = rest ++ ending := by
  simp only [stripEnding]
  constructor
  · intro found
    split at found
    · rename_i ends
      obtain ⟨front, rfl⟩ := List.isSuffixOf_iff_suffix.mp ends
      simpa using found
    · simp at found
  · rintro rfl
    simp

theorem takeWhile_ne_self {stop : UInt8} {text : Bytes} (free : stop ∉ text) :
    text.takeWhile (· ≠ stop) = text := by
  apply List.takeWhile_eq_self_iff.mpr
  intro byte member
  have other : byte ≠ stop := fun same => free (same ▸ member)
  simpa using other

theorem takeWhile_ne_append {stop : UInt8} {front : Bytes} (rest : Bytes) (free : stop ∉ front) :
    (front ++ stop :: rest).takeWhile (· ≠ stop) = front := by
  have keeps : ∀ byte ∈ front, decide (byte ≠ stop) = true := by
    intro byte member
    have other : byte ≠ stop := fun same => free (same ▸ member)
    simpa using other
  rw [List.takeWhile_append_of_pos keeps]
  simp

/-- Of two endings one ends in the other. -/
theorem endings_nested {first second left right : Bytes} (same : left ++ first = right ++ second) :
    first <:+ second ∨ second <:+ first := by
  have one : first <:+ right ++ second := same ▸ List.suffix_append _ _
  have two : second <:+ right ++ second := List.suffix_append _ _
  exact List.suffix_or_suffix_of_suffix one two

/-! ## Percent-decoding -/

def hexValue (byte : UInt8) : Option Nat :=
  if 0x30 ≤ byte ∧ byte ≤ 0x39 then some (byte.toNat - 0x30)
  else if 0x41 ≤ byte ∧ byte ≤ 0x46 then some (byte.toNat - 0x37)
  else if 0x61 ≤ byte ∧ byte ≤ 0x66 then some (byte.toNat - 0x57)
  else none

/-- The byte that a percent sign and two hexadecimal digits stand for. -/
def octet (mark high low : UInt8) : Option UInt8 :=
  if mark = 0x25 then
    (hexValue high).bind fun left => (hexValue low).map fun right => UInt8.ofNat (16 * left + right)
  else none

/-- A percent sign that two hexadecimal digits do not follow stays as it is. -/
def decode : Bytes → Bytes
  | mark :: high :: low :: rest =>
      match octet mark high low with
      | some byte => byte :: decode rest
      | none => mark :: decode (high :: low :: rest)
  | short => short

def hasOctet : Bytes → Bool
  | mark :: high :: low :: rest =>
      (octet mark high low).isSome || hasOctet (high :: low :: rest)
  | _ => false

theorem octet_of_ne {mark : UInt8} (high low : UInt8) (ne : mark ≠ 0x25) :
    octet mark high low = none := by
  simp [octet, ne]

theorem octet_mark {mark high low byte : UInt8} (found : octet mark high low = some byte) :
    mark = 0x25 := by
  by_contra ne
  simp [octet_of_ne high low ne] at found

theorem octet_hex {mark high low byte : UInt8} (found : octet mark high low = some byte) :
    (hexValue high).isSome = true ∧ (hexValue low).isSome = true := by
  simp only [octet] at found
  split at found
  · obtain ⟨left, isLeft, found⟩ := Option.bind_eq_some_iff.mp found
    obtain ⟨right, isRight, -⟩ := Option.map_eq_some_iff.mp found
    simp [isLeft, isRight]
  · simp at found

theorem decode_long (mark high low : UInt8) (rest : Bytes) :
    decode (mark :: high :: low :: rest) =
      match octet mark high low with
      | some byte => byte :: decode rest
      | none => mark :: decode (high :: low :: rest) :=
  rfl

theorem hasOctet_long (mark high low : UInt8) (rest : Bytes) :
    hasOctet (mark :: high :: low :: rest) =
      ((octet mark high low).isSome || hasOctet (high :: low :: rest)) :=
  rfl

/-- The first byte stays when no octet starts there. -/
theorem decode_cons {mark : UInt8} {rest : Bytes}
    (kept : ∀ high low tail, rest = high :: low :: tail → octet mark high low = none) :
    decode (mark :: rest) = mark :: decode rest := by
  match rest with
  | [] => rfl
  | [high] => rfl
  | high :: low :: tail =>
      have none := kept high low tail rfl
      rw [decode_long, none]

theorem decode_cons_of_ne {byte : UInt8} (rest : Bytes) (ne : byte ≠ 0x25) :
    decode (byte :: rest) = byte :: decode rest := by
  apply decode_cons
  intro high low tail _
  exact octet_of_ne high low ne

theorem decode_append_of_ne {lead : Bytes} (rest : Bytes) (ne : 0x25 ∉ lead) :
    decode (lead ++ rest) = lead ++ decode rest := by
  induction lead with
  | nil => simp
  | cons byte lead ih =>
      have first : byte ≠ 0x25 := fun same => ne (by simp [same])
      rw [List.cons_append, decode_cons_of_ne _ first,
        ih fun member => ne (List.mem_cons_of_mem _ member), List.cons_append]

theorem decode_octet {high low byte : UInt8} (rest : Bytes)
    (found : octet 0x25 high low = some byte) :
    decode (0x25 :: high :: low :: rest) = byte :: decode rest := by
  rw [decode_long, found]

/-- Induction along the octets that are decoded. -/
theorem decode_induction {motive : Bytes → Prop} (empty : motive [])
    (coded : ∀ high low byte rest, octet 0x25 high low = some byte → motive rest →
      motive (0x25 :: high :: low :: rest))
    (kept : ∀ mark rest, (∀ high low tail, rest = high :: low :: tail → octet mark high low = none) →
      motive rest → motive (mark :: rest))
    (text : Bytes) : motive text := by
  fun_induction decode text with
  | case1 mark high low rest byte found ih =>
      obtain rfl := octet_mark found
      exact coded high low byte rest found ih
  | case2 mark high low rest none ih =>
      refine kept mark (high :: low :: rest) (fun first second tail same => ?_) ih
      simp only [List.cons.injEq] at same
      rw [← same.1, ← same.2.1, none]
  | case3 short notLong =>
      match short with
      | [] => exact empty
      | [first] => exact kept first [] (by simp) empty
      | [first, second] => exact kept first [second] (by simp) (kept second [] (by simp) empty)
      | mark :: high :: low :: rest => exact absurd rfl (notLong _ _ _ _)

theorem hasOctet_cons {mark : UInt8} {rest : Bytes}
    (kept : ∀ high low tail, rest = high :: low :: tail → octet mark high low = none) :
    hasOctet (mark :: rest) = hasOctet rest := by
  match rest with
  | [] => rfl
  | [high] => rfl
  | high :: low :: tail =>
      have none := kept high low tail rfl
      rw [hasOctet_long, none, Option.isSome_none, Bool.false_or]

theorem decode_of_no_octet {text : Bytes} : hasOctet text = false → decode text = text := by
  induction text using decode_induction with
  | empty => exact fun _ => rfl
  | coded high low byte rest found ih => simp [hasOctet_long, found]
  | kept mark rest free ih =>
      intro absent
      rw [decode_cons free, ih ((hasOctet_cons free).symm.trans absent)]

theorem decode_length_le (text : Bytes) : (decode text).length ≤ text.length := by
  induction text using decode_induction with
  | empty => exact Nat.le_refl _
  | coded high low byte rest found ih =>
      rw [decode_octet rest found]
      simp only [List.length_cons]
      omega
  | kept mark rest free ih =>
      rw [decode_cons free]
      simpa using ih

theorem decode_length_lt {text : Bytes} : hasOctet text = true →
    (decode text).length < text.length := by
  induction text using decode_induction with
  | empty =>
      intro present
      cases present
  | coded high low byte rest found ih =>
      intro _
      have bound := decode_length_le rest
      rw [decode_octet rest found]
      simp only [List.length_cons]
      omega
  | kept mark rest free ih =>
      intro present
      rw [decode_cons free]
      simpa using ih ((hasOctet_cons free).symm.trans present)

/-- A byte that is neither a percent sign nor a digit is never part of an octet. -/
theorem mem_decode {byte : UInt8} (ne : byte ≠ 0x25) (notHex : hexValue byte = none)
    {text : Bytes} : byte ∈ text → byte ∈ decode text := by
  induction text using decode_induction with
  | empty => exact id
  | coded high low value rest found ih =>
      intro member
      have digits := octet_hex found
      rw [decode_octet rest found]
      simp only [List.mem_cons] at member ⊢
      rcases member with rfl | rfl | rfl | later
      · exact absurd rfl ne
      · simp [notHex] at digits
      · simp [notHex] at digits
      · exact .inr (ih later)
  | kept mark rest free ih =>
      intro member
      rw [decode_cons free]
      rcases List.mem_cons.mp member with rfl | later
      · exact List.mem_cons_self
      · exact List.mem_cons_of_mem _ (ih later)

/-! ## Percent-encoding -/

/-- Bytes that every encode set of a path leaves alone: letters, digits and `%-./_`. -/
def isKept (byte : UInt8) : Bool :=
  (0x30 ≤ byte && byte ≤ 0x39) || (0x41 ≤ byte && byte ≤ 0x5A) || (0x61 ≤ byte && byte ≤ 0x7A) ||
    byte == 0x25 || byte == 0x2D || byte == 0x2E || byte == 0x2F || byte == 0x5F

/-- A C0 control or a space. -/
def isBlank (byte : UInt8) : Bool :=
  byte ≤ 0x20

structure EscapeSet where
  escapes : UInt8 → Bool
  blank : ∀ byte, isBlank byte = true → escapes byte = true
  query : escapes 0x3F = true
  fragment : escapes 0x23 = true
  kept : ∀ byte, isKept byte = true → escapes byte = false

def hexDigit (value : Nat) : UInt8 :=
  if value < 10 then UInt8.ofNat (0x30 + value) else UInt8.ofNat (0x37 + value)

def escapeByte (set : EscapeSet) (byte : UInt8) : Bytes :=
  if set.escapes byte then [0x25, hexDigit (byte.toNat / 16), hexDigit (byte.toNat % 16)]
  else [byte]

def escape (set : EscapeSet) (text : Bytes) : Bytes :=
  text.flatMap (escapeByte set)

theorem hexDigit_facts {value : Nat} (small : value < 16) :
    hexValue (hexDigit value) = some value ∧ isKept (hexDigit value) = true ∧
      hexDigit value ≠ 0x2F := by
  have all : ∀ digit : Fin 16, hexValue (hexDigit digit) = some digit.val ∧
      isKept (hexDigit digit) = true ∧ hexDigit digit ≠ 0x2F := by decide
  exact all ⟨value, small⟩

theorem octet_hexDigit (byte : UInt8) :
    octet 0x25 (hexDigit (byte.toNat / 16)) (hexDigit (byte.toNat % 16)) = some byte := by
  have bound := byte.toNat_lt
  have high := (hexDigit_facts (show byte.toNat / 16 < 16 by omega)).1
  have low := (hexDigit_facts (show byte.toNat % 16 < 16 by omega)).1
  have same : 16 * (byte.toNat / 16) + byte.toNat % 16 = byte.toNat := by omega
  simp only [octet, high, low, if_true, Option.bind_some, Option.map_some, same,
    UInt8.ofNat_toNat]

theorem isKept_of_hex {byte : UInt8} (hex : (hexValue byte).isSome = true) :
    isKept byte = true := by
  simp only [hexValue] at hex
  simp only [isKept, Bool.or_eq_true, Bool.and_eq_true, decide_eq_true_eq]
  split at hex
  · rename_i digit
    exact .inl (.inl (.inl (.inl (.inl (.inl (.inl digit))))))
  · split at hex
    · rename_i upper
      have bound : byte ≤ 0x5A := UInt8.le_trans upper.2 (by decide)
      exact .inl (.inl (.inl (.inl (.inl (.inl (.inr ⟨upper.1, bound⟩))))))
    · split at hex
      · rename_i lower
        have bound : byte ≤ 0x7A := UInt8.le_trans lower.2 (by decide)
        exact .inl (.inl (.inl (.inl (.inl (.inr ⟨lower.1, bound⟩)))))
      · simp at hex

namespace EscapeSet

variable (set : EscapeSet)

theorem keeps_mark : set.escapes 0x25 = false :=
  set.kept 0x25 (by decide)

theorem keeps_slash : set.escapes 0x2F = false :=
  set.kept 0x2F (by decide)

theorem keeps_hex {byte : UInt8} (hex : (hexValue byte).isSome = true) :
    set.escapes byte = false :=
  set.kept byte (isKept_of_hex hex)

end EscapeSet

section Escape

variable (set : EscapeSet)

theorem escapeByte_of_kept {byte : UInt8} (kept : set.escapes byte = false) :
    escapeByte set byte = [byte] :=
  if_neg (Bool.not_eq_true _ ▸ kept)

theorem escapeByte_of_escaped {byte : UInt8} (escaped : set.escapes byte = true) :
    escapeByte set byte = [0x25, hexDigit (byte.toNat / 16), hexDigit (byte.toNat % 16)] :=
  if_pos escaped

@[simp] theorem escape_nil : escape set [] = [] :=
  rfl

theorem escape_cons (byte : UInt8) (rest : Bytes) :
    escape set (byte :: rest) = escapeByte set byte ++ escape set rest :=
  List.flatMap_cons

theorem escape_append (left right : Bytes) :
    escape set (left ++ right) = escape set left ++ escape set right :=
  List.flatMap_append

theorem escape_of_kept {text : Bytes} (kept : ∀ byte ∈ text, isKept byte = true) :
    escape set text = text := by
  induction text with
  | nil => simp
  | cons byte rest ih =>
      rw [escape_cons, escapeByte_of_kept set (set.kept byte (kept byte List.mem_cons_self)),
        ih fun other member => kept other (List.mem_cons_of_mem _ member), List.singleton_append]

/-- The first two bytes of an escaped text are an octet's digits only if those of the text are. -/
theorem escape_no_octet {mark high low : UInt8} {tail rest : Bytes}
    (shape : escape set rest = high :: low :: tail)
    (none : ∀ first second more, rest = first :: second :: more → octet mark first second = none) :
    octet mark high low = Option.none := by
  by_contra found
  obtain ⟨value, found⟩ := Option.ne_none_iff_exists'.mp found
  obtain ⟨highHex, lowHex⟩ := octet_hex found
  have notMark : (hexValue 0x25).isSome = false := by decide
  match rest with
  | [] => simp at shape
  | first :: more =>
      rw [escape_cons] at shape
      cases escaped : set.escapes first with
      | true =>
          simp only [escapeByte_of_escaped set escaped, List.cons_append, List.cons.injEq] at shape
          rw [← shape.1, notMark] at highHex
          simp at highHex
      | false =>
          rw [escapeByte_of_kept set escaped, List.singleton_append, List.cons.injEq] at shape
          obtain ⟨rfl, shape⟩ := shape
          match more with
          | [] => simp at shape
          | second :: more =>
              rw [escape_cons] at shape
              cases escaped : set.escapes second with
              | true =>
                  simp only [escapeByte_of_escaped set escaped, List.cons_append,
                    List.cons.injEq] at shape
                  rw [← shape.1, notMark] at lowHex
                  simp at lowHex
              | false =>
                  rw [escapeByte_of_kept set escaped, List.singleton_append,
                    List.cons.injEq] at shape
                  obtain ⟨rfl, -⟩ := shape
                  simp [none _ _ _ rfl] at found

theorem decode_escapeByte (byte : UInt8) (rest tail : Bytes)
    (same : decode (escape set tail) = decode rest)
    (none : ∀ first second more, tail = first :: second :: more → octet byte first second = none) :
    decode (escapeByte set byte ++ escape set tail) = byte :: decode rest := by
  cases escaped : set.escapes byte with
  | true =>
      simp only [escapeByte_of_escaped set escaped, List.cons_append, List.nil_append]
      rw [decode_octet _ (octet_hexDigit byte), same]
  | false =>
      rw [escapeByte_of_kept set escaped, List.singleton_append, decode_cons, same]
      intro high low more shape
      exact escape_no_octet set shape none

theorem decode_escape (text : Bytes) : decode (escape set text) = decode text := by
  induction text using decode_induction with
  | empty => rfl
  | coded high low byte rest found ih =>
      obtain ⟨highHex, lowHex⟩ := octet_hex found
      rw [escape_cons, escape_cons, escape_cons, escapeByte_of_kept set set.keeps_mark,
        escapeByte_of_kept set (set.keeps_hex highHex),
        escapeByte_of_kept set (set.keeps_hex lowHex)]
      simp only [List.singleton_append]
      rw [decode_octet _ found, decode_octet _ found, ih]
  | kept mark rest free ih =>
      rw [escape_cons, decode_cons free]
      exact decode_escapeByte set mark rest rest ih free

/-- What the encoding puts out is left alone by it. -/
theorem escapes_of_mem_escape {byte : UInt8} {text : Bytes} (member : byte ∈ escape set text) :
    set.escapes byte = false ∧ (isKept byte = true ∨ byte ∈ text) := by
  obtain ⟨source, old, member⟩ := List.mem_flatMap.mp member
  have bound := source.toNat_lt
  cases escaped : set.escapes source with
  | true =>
      have kept : isKept byte = true := by
        simp only [escapeByte_of_escaped set escaped, List.mem_cons, List.not_mem_nil,
          or_false] at member
        rcases member with rfl | rfl | rfl
        · decide
        · exact (hexDigit_facts (by omega)).2.1
        · exact (hexDigit_facts (by omega)).2.1
      exact ⟨set.kept byte kept, .inl kept⟩
  | false =>
      rw [escapeByte_of_kept set escaped, List.mem_singleton] at member
      subst member
      exact ⟨escaped, .inr old⟩

theorem escape_escape (text : Bytes) : escape set (escape set text) = escape set text := by
  have alone : ∀ {bytes : Bytes}, (∀ byte ∈ bytes, set.escapes byte = false) →
      escape set bytes = bytes := by
    intro bytes
    induction bytes with
    | nil => simp
    | cons byte rest ih =>
        intro unescaped
        rw [escape_cons, escapeByte_of_kept set (unescaped byte List.mem_cons_self),
          ih fun other member => unescaped other (List.mem_cons_of_mem _ member),
          List.singleton_append]
  exact alone fun byte member => (escapes_of_mem_escape set member).1

theorem slash_mem_escape {text : Bytes} : 0x2F ∈ escape set text ↔ 0x2F ∈ text := by
  constructor
  · intro member
    obtain ⟨source, old, member⟩ := List.mem_flatMap.mp member
    have bound := source.toNat_lt
    cases escaped : set.escapes source with
    | true =>
        simp only [escapeByte_of_escaped set escaped, List.mem_cons, List.not_mem_nil,
          or_false] at member
        rcases member with same | same | same
        · simp at same
        · exact absurd same.symm (hexDigit_facts (by omega)).2.2
        · exact absurd same.symm (hexDigit_facts (by omega)).2.2
    | false =>
        rw [escapeByte_of_kept set escaped, List.mem_singleton] at member
        rwa [member]
  · intro member
    exact List.mem_flatMap.mpr ⟨0x2F, member, by simp [escapeByte, set.keeps_slash]⟩

theorem escape_eq_nil {text : Bytes} : escape set text = [] ↔ text = [] := by
  cases text with
  | nil => simp
  | cons byte rest =>
      rw [escape_cons]
      simp only [escapeByte]
      split
      · simp
      · simp

/-- A lead without a percent sign is in the encoded text only if it is in the text. -/
theorem escape_eq_append {lead rest : Bytes} (free : 0x25 ∉ lead) :
    ∀ {text : Bytes}, escape set text = lead ++ rest →
      ∃ tail, text = lead ++ tail ∧ escape set tail = rest := by
  induction lead with
  | nil => exact fun same => ⟨_, rfl, same⟩
  | cons first lead ih =>
      intro text same
      cases text with
      | nil => simp at same
      | cons byte text =>
          rw [escape_cons] at same
          cases escaped : set.escapes byte with
          | true =>
              simp only [escapeByte_of_escaped set escaped, List.cons_append, List.cons.injEq] at same
              exact absurd (by simp [← same.1]) free
          | false =>
              rw [escapeByte_of_kept set escaped, List.singleton_append, List.cons_append,
                List.cons.injEq] at same
              obtain ⟨rfl, same⟩ := same
              obtain ⟨tail, rfl, ends⟩ := ih (fun member => free (List.mem_cons_of_mem _ member)) same
              exact ⟨tail, rfl, ends⟩

theorem eq_of_escape_eq {text word : Bytes} (free : 0x25 ∉ word)
    (same : escape set text = word) : text = word := by
  have whole : escape set text = word ++ [] := by simpa using same
  obtain ⟨tail, rfl, ends⟩ := escape_eq_append set free whole
  simp [(escape_eq_nil set).mp ends]

/-- A slash of the encoded text is one of the text. -/
theorem escape_eq_slash {right : Bytes} : ∀ {text left : Bytes},
    escape set text = left ++ 0x2F :: right →
      ∃ first last, text = first ++ 0x2F :: last ∧ escape set first = left ∧
        escape set last = right := by
  intro text
  induction text with
  | nil =>
      intro left same
      simp at same
  | cons byte text ih =>
      intro left same
      rw [escape_cons] at same
      rcases List.append_eq_append_iff.mp same with ⟨middle, rfl, rest⟩ | ⟨middle, shape, rest⟩
      · obtain ⟨first, last, rfl, isFirst, isLast⟩ := ih rest
        exact ⟨byte :: first, last, rfl, by rw [escape_cons, isFirst], isLast⟩
      · cases middle with
        | nil =>
            have starts : escape set text = [] ++ 0x2F :: right := by simpa using rest.symm
            obtain ⟨first, last, rfl, isFirst, isLast⟩ := ih starts
            have none := (escape_eq_nil set).mp isFirst
            subst none
            exact ⟨[byte], last, rfl, by simpa [escape_cons] using shape, isLast⟩
        | cons slash middle =>
            simp only [List.cons_append, List.cons.injEq] at rest
            obtain ⟨rfl, rfl⟩ := rest
            have inside : 0x2F ∈ escape set [byte] := by simp [escape_cons, shape]
            have isSlash := (slash_mem_escape set).mp inside
            obtain rfl := List.mem_singleton.mp isSlash
            rw [escapeByte_of_kept set set.keeps_slash] at shape
            cases left with
            | nil =>
                simp only [List.nil_append, List.cons.injEq, true_and] at shape
                subst shape
                exact ⟨[], text, rfl, by simp, rfl⟩
            | cons other left => simp at shape

end Escape

/-! ## The path -/

def trimEnd (text : Bytes) : Bytes :=
  text.rdropWhile isBlank

def isStop (byte : UInt8) : Bool :=
  byte == 0x3F || byte == 0x23

def isTabOrNewline (byte : UInt8) : Bool :=
  byte == 0x09 || byte == 0x0A || byte == 0x0D

def slashed (byte : UInt8) : UInt8 :=
  if byte = 0x5C then 0x2F else byte

def cleaned (text : Bytes) : Bytes :=
  (text.filter fun byte => !isTabOrNewline byte).map slashed

def isSingleDot (segment : Bytes) : Bool :=
  [ascii ".", ascii "%2e", ascii "%2E"].contains segment

def isDoubleDot (segment : Bytes) : Bool :=
  [ascii "..", ascii ".%2e", ascii ".%2E", ascii "%2e.", ascii "%2E.", ascii "%2e%2e",
    ascii "%2e%2E", ascii "%2E%2e", ascii "%2E%2E"].contains segment

def isDot (segment : Bytes) : Bool :=
  isSingleDot segment || isDoubleDot segment

/-- The path after its segments were read one by one; a dot segment at the end leaves an empty
segment behind. -/
def resolve : List Bytes → List Bytes → List Bytes
  | done, [] => done
  | done, [last] =>
      if isDoubleDot last then done.dropLast ++ [[]]
      else if isSingleDot last then done ++ [[]]
      else done ++ [last]
  | done, segment :: next :: rest =>
      if isDoubleDot segment then resolve done.dropLast (next :: rest)
      else if isSingleDot segment then resolve done (next :: rest)
      else resolve (done ++ [segment]) (next :: rest)

def shown (text : Bytes) : Bytes :=
  (trimEnd text).takeWhile fun byte => !isStop byte

/-- The segments of a text that begins with a slash. -/
def segments (text : Bytes) : List Bytes :=
  ((cleaned (shown text)).splitOn 0x2F).tail

/-- The buffers of the Standard hold encoded bytes; no byte of a dot segment is ever encoded, so
the segments are encoded last here. -/
def path (set : EscapeSet) (text : Bytes) : Bytes :=
  [0x2F].intercalate ([] :: (resolve [] (segments text)).map (escape set))

example : resolve [] [[1], [2], ascii "..", [3]] = [[1], [3]] := by decide

example : segments (ascii "/a\\b/%2E%2e#c") = [ascii "a", ascii "b", ascii "%2E%2e"] := by decide

theorem isKept_facts {byte : UInt8} (kept : isKept byte = true) :
    byte ≠ 0x23 ∧ byte ≠ 0x5C ∧ isTabOrNewline byte = false ∧ isBlank byte = false := by
  have all : ∀ value : Fin 256, isKept (UInt8.ofNat value.val) = true →
      UInt8.ofNat value.val ≠ 0x23 ∧ UInt8.ofNat value.val ≠ 0x5C ∧
        isTabOrNewline (UInt8.ofNat value.val) = false ∧
          isBlank (UInt8.ofNat value.val) = false := by
    set_option maxRecDepth 1000 in
    decide
  have facts := all ⟨byte.toNat, byte.toNat_lt⟩
  simp only [UInt8.ofNat_toNat] at facts
  exact facts kept

/-! ## Plain texts -/

/-- The parser keeps the text as it is spelled, up to percent-encoding. -/
structure Plain (text : Bytes) : Prop where
  bytes : ∀ byte ∈ text, byte ≠ 0x23 ∧ byte ≠ 0x5C ∧ isTabOrNewline byte = false
  segments : ∀ segment ∈ text.splitOn 0x2F, isDot segment = false
  ending : ∀ last ∈ text.getLast?, isBlank last = false

section

-- The bytes of the text are tried, not every byte there is.
local instance (priority := high) everyByte (keep : UInt8 → Prop) [DecidablePred keep]
    (text : Bytes) : Decidable (∀ byte ∈ text, keep byte) :=
  List.decidableBAll keep text

local instance (priority := high) lastByte (keep : UInt8 → Prop) [DecidablePred keep]
    (last? : Option UInt8) : Decidable (∀ last ∈ last?, keep last) :=
  Option.decidableForallMem last?

instance (text : Bytes) : Decidable (Plain text) :=
  decidable_of_iff
    ((∀ byte ∈ text, byte ≠ 0x23 ∧ byte ≠ 0x5C ∧ isTabOrNewline byte = false) ∧
      (∀ segment ∈ text.splitOn 0x2F, isDot segment = false) ∧
      ∀ last ∈ text.getLast?, isBlank last = false)
    ⟨fun holds => ⟨holds.1, holds.2.1, holds.2.2⟩,
      fun plain => ⟨plain.bytes, plain.segments, plain.ending⟩⟩

end

/-- The whole is the text with or without a query. -/
def Spelled (text whole : Bytes) : Prop :=
  whole = text ∨ ∃ query, whole = text ++ 0x3F :: query

theorem splitOn_slash (rest : Bytes) :
    ((0x2F :: rest : Bytes).splitOn 0x2F) = [] :: rest.splitOn 0x2F := by
  have split := List.splitOn_append_cons_self (a := (0x2F : UInt8)) [] rest
  simpa using split

/-- Blanks are trimmed behind a byte that is not blank, never in front of it. -/
theorem trimEnd_append {stop : UInt8} (visible : isBlank stop = false) (lead rest : Bytes) :
    trimEnd (lead ++ stop :: rest) = lead ++ stop :: trimEnd rest := by
  simp only [trimEnd]
  induction rest using List.reverseRecOn with
  | nil => simp [visible]
  | append_singleton rest byte ih =>
      have shape : lead ++ stop :: (rest ++ [byte]) = (lead ++ stop :: rest) ++ [byte] := by simp
      rw [shape, List.rdropWhile_concat, List.rdropWhile_concat]
      by_cases blank : isBlank byte = true
      · rw [if_pos blank, if_pos blank, ih]
      · rw [if_neg blank, if_neg blank, shape]

theorem takeWhile_stop {lead : Bytes} {stop : UInt8} (rest : Bytes)
    (free : ∀ byte ∈ lead, isStop byte = false) (stops : isStop stop = true) :
    (lead ++ stop :: rest).takeWhile (fun byte => !isStop byte) = lead := by
  rw [List.takeWhile_append_of_pos (by simpa using free)]
  simp [stops]

theorem shown_before {lead : Bytes} {stop : UInt8} (rest : Bytes)
    (free : ∀ byte ∈ lead, isStop byte = false) (stops : isStop stop = true) :
    shown (lead ++ stop :: rest) = lead := by
  have visible : isBlank stop = false := by
    simp only [isStop, Bool.or_eq_true, beq_iff_eq] at stops
    rcases stops with rfl | rfl
    · decide
    · decide
  rw [shown, trimEnd_append visible, takeWhile_stop _ free stops]

theorem shown_whole {text : Bytes} (free : ∀ byte ∈ text, isStop byte = false)
    (ending : ∀ last ∈ text.getLast?, isBlank last = false) : shown text = text := by
  have trimmed : trimEnd text = text := by
    apply List.rdropWhile_eq_self_iff.mpr
    intro nonempty
    simp [ending _ (List.getLast?_eq_getLast_of_ne_nil nonempty)]
  rw [shown, trimmed]
  apply List.takeWhile_eq_self_iff.mpr
  simpa using free

theorem shown_spelled {text whole : Bytes} (spelled : Spelled text whole)
    (free : ∀ byte ∈ text, isStop byte = false)
    (ending : ∀ last ∈ text.getLast?, isBlank last = false) : shown whole = text := by
  rcases spelled with rfl | ⟨query, rfl⟩
  · exact shown_whole free ending
  · exact shown_before query free (by decide)

theorem cleaned_append (left right : Bytes) :
    cleaned (left ++ right) = cleaned left ++ cleaned right := by
  simp [cleaned]

theorem cleaned_plain {text : Bytes}
    (bytes : ∀ byte ∈ text, byte ≠ 0x5C ∧ isTabOrNewline byte = false) : cleaned text = text := by
  have kept : (text.filter fun byte => !isTabOrNewline byte) = text := by
    apply List.filter_eq_self.mpr
    intro byte member
    simp [(bytes byte member).2]
  have same : text.map slashed = text.map id := by
    apply List.map_congr_left
    intro byte member
    simp [slashed, (bytes byte member).1]
  rw [cleaned, kept, same, List.map_id]

theorem resolve_plain : ∀ {segments : List Bytes} (done : List Bytes),
    (∀ segment ∈ segments, isDot segment = false) → resolve done segments = done ++ segments := by
  intro segments
  induction segments with
  | nil => simp [resolve]
  | cons segment rest ih =>
      intro done plain
      have first := plain segment List.mem_cons_self
      simp only [isDot, Bool.or_eq_false_iff] at first
      cases rest with
      | nil => simp [resolve, first]
      | cons next rest =>
          simp only [resolve, first, Bool.false_eq_true, if_false]
          rw [ih _ fun other member => plain other (List.mem_cons_of_mem _ member)]
          simp

theorem escape_intercalate (set : EscapeSet) (parts : List Bytes) :
    escape set ([0x2F].intercalate parts) = [0x2F].intercalate (parts.map (escape set)) := by
  induction parts with
  | nil => simp
  | cons part rest ih =>
      cases rest with
      | nil => simp
      | cons next rest =>
          rw [List.map_cons] at ih
          rw [List.intercalate_cons_cons, List.map_cons, List.map_cons, List.intercalate_cons_cons,
            escape_append, escape_append, ih]
          simp [escape_cons, escapeByte_of_kept set set.keeps_slash]

theorem path_plain (set : EscapeSet) {text whole : Bytes} (spelled : Spelled text whole)
    (plain : Plain text) (slash : text.head? = some 0x2F) (query : 0x3F ∉ text) :
    path set whole = escape set text := by
  have free : ∀ byte ∈ text, isStop byte = false := by
    intro byte member
    have other : byte ≠ 0x3F := fun same => query (same ▸ member)
    simp [isStop, other, (plain.bytes byte member).1]
  have clean : cleaned text = text := cleaned_plain fun byte member => (plain.bytes byte member).2
  obtain ⟨rest, rfl⟩ : ∃ rest, text = 0x2F :: rest := by
    cases text with
    | nil => simp at slash
    | cons byte rest =>
        simp only [List.head?_cons, Option.some.injEq] at slash
        exact ⟨rest, by rw [slash]⟩
  have dots : ∀ segment ∈ rest.splitOn 0x2F, isDot segment = false := by
    intro segment member
    apply plain.segments
    rw [splitOn_slash]
    exact List.mem_cons_of_mem _ member
  rw [path, segments, shown_spelled spelled free plain.ending, clean, splitOn_slash, List.tail_cons,
    resolve_plain [] dots, List.nil_append]
  calc [0x2F].intercalate ([] :: (rest.splitOn 0x2F).map (escape set))
      = [0x2F].intercalate (((0x2F :: rest).splitOn 0x2F).map (escape set)) := by
        rw [splitOn_slash]; simp
    _ = escape set ([0x2F].intercalate ((0x2F :: rest).splitOn 0x2F)) := by
        rw [escape_intercalate]
    _ = escape set (0x2F :: rest) := by rw [List.intercalate_splitOn]

/-- Induction over the segments of a text. -/
theorem segment_induction {P : Bytes → Prop} (one : ∀ text, 0x2F ∉ text → P text)
    (more : ∀ segment rest, 0x2F ∉ segment → P rest → P (segment ++ 0x2F :: rest))
    (text : Bytes) : P text := by
  generalize size : text.length = length
  induction length using Nat.strongRecOn generalizing text with
  | ind length ih =>
      by_cases slash : 0x2F ∈ text
      · obtain ⟨segment, rest, rfl, free⟩ := List.eq_append_cons_of_mem slash
        apply more segment rest free
        apply ih rest.length _ rest rfl
        simp only [List.length_append, List.length_cons] at size
        omega
      · exact one text slash

theorem mem_splitOn {segment text : Bytes} (member : segment ∈ text.splitOn 0x2F) :
    segment <:+: text ∧ 0x2F ∉ segment := by
  induction text using segment_induction with
  | one text free =>
      rw [List.splitOn_eq_singleton free, List.mem_singleton] at member
      subst member
      exact ⟨List.infix_refl _, free⟩
  | more first rest free ih =>
      rw [List.splitOn_append_cons_self_of_not_mem free] at member
      rcases List.mem_cons.mp member with rfl | later
      · exact ⟨(List.prefix_append _ _).isInfix, free⟩
      · have inside : rest <:+: first ++ 0x2F :: rest :=
          ((List.suffix_cons _ _).trans (List.suffix_append _ _)).isInfix
        exact ⟨(ih later).1.trans inside, (ih later).2⟩

/-- A byte other than the slash is in a segment. -/
theorem mem_segment {byte : UInt8} {text : Bytes} (member : byte ∈ text) (ne : byte ≠ 0x2F) :
    ∃ segment ∈ text.splitOn 0x2F, byte ∈ segment := by
  induction text using segment_induction with
  | one text free =>
      rw [List.splitOn_eq_singleton free]
      exact ⟨text, List.mem_singleton.mpr rfl, member⟩
  | more segment rest free ih =>
      rw [List.splitOn_append_cons_self_of_not_mem free]
      rcases List.mem_append.mp member with inSegment | later
      · exact ⟨segment, List.mem_cons_self, inSegment⟩
      · obtain ⟨part, inside, found⟩ := ih ((List.mem_cons.mp later).resolve_left ne)
        exact ⟨part, List.mem_cons_of_mem _ inside, found⟩

theorem splitOn_escape (set : EscapeSet) (text : Bytes) :
    (escape set text).splitOn 0x2F = (text.splitOn 0x2F).map (escape set) := by
  have parts : escape set text = [0x2F].intercalate ((text.splitOn 0x2F).map (escape set)) := by
    rw [← escape_intercalate, List.intercalate_splitOn]
  rw [parts, List.splitOn_intercalate]
  · intro part member
    obtain ⟨segment, old, rfl⟩ := List.mem_map.mp member
    exact mt (slash_mem_escape set).mp (mem_splitOn old).2
  · simp

theorem resolve_mem {segment : Bytes} : ∀ {segments done : List Bytes},
    segment ∈ resolve done segments →
      segment = [] ∨ segment ∈ done ∨ segment ∈ segments ∧ isDot segment = false := by
  intro segments
  induction segments with
  | nil => exact fun member => .inr (.inl (by simpa [resolve] using member))
  | cons first rest ih =>
      intro done member
      cases rest with
      | nil =>
          simp only [resolve] at member
          split at member
          · rcases List.mem_append.mp member with old | new
            · exact .inr (.inl (List.mem_of_mem_dropLast old))
            · exact .inl (List.mem_singleton.mp new)
          split at member
          · rcases List.mem_append.mp member with old | new
            · exact .inr (.inl old)
            · exact .inl (List.mem_singleton.mp new)
          · rename_i notDouble notSingle
            rcases List.mem_append.mp member with old | new
            · exact .inr (.inl old)
            · obtain rfl := List.mem_singleton.mp new
              exact .inr (.inr ⟨List.mem_cons_self, by simp [isDot, notDouble, notSingle]⟩)
      | cons next rest =>
          simp only [resolve] at member
          split at member
          · rcases ih member with empty | old | ⟨later, notDot⟩
            · exact .inl empty
            · exact .inr (.inl (List.mem_of_mem_dropLast old))
            · exact .inr (.inr ⟨List.mem_cons_of_mem _ later, notDot⟩)
          split at member
          · rcases ih member with empty | old | ⟨later, notDot⟩
            · exact .inl empty
            · exact .inr (.inl old)
            · exact .inr (.inr ⟨List.mem_cons_of_mem _ later, notDot⟩)
          · rename_i notDouble notSingle
            rcases ih member with empty | old | ⟨later, notDot⟩
            · exact .inl empty
            · rcases List.mem_append.mp old with older | new
              · exact .inr (.inl older)
              · obtain rfl := List.mem_singleton.mp new
                exact .inr (.inr ⟨List.mem_cons_self, by simp [isDot, notDouble, notSingle]⟩)
            · exact .inr (.inr ⟨List.mem_cons_of_mem _ later, notDot⟩)

/-- Every segment of the path is empty or the encoding of a segment of the text. -/
theorem mem_path (set : EscapeSet) {segment text : Bytes}
    (member : segment ∈ (path set text).splitOn 0x2F) :
    segment = [] ∨ ∃ source ∈ segments text, isDot source = false ∧ segment = escape set source := by
  have free : ∀ part ∈ [] :: (resolve [] (segments text)).map (escape set), 0x2F ∉ part := by
    intro part inside
    rcases List.mem_cons.mp inside with rfl | inside
    · simp
    · obtain ⟨source, old, rfl⟩ := List.mem_map.mp inside
      apply mt (slash_mem_escape set).mp
      rcases resolve_mem old with rfl | old | ⟨old, -⟩
      · simp
      · simp at old
      · exact (mem_splitOn (List.mem_of_mem_tail old)).2
  rw [path, List.splitOn_intercalate _ free (by simp)] at member
  rcases List.mem_cons.mp member with rfl | inside
  · exact .inl rfl
  · obtain ⟨source, old, rfl⟩ := List.mem_map.mp inside
    rcases resolve_mem old with rfl | old | ⟨old, notDot⟩
    · exact .inl (by simp)
    · simp at old
    · exact .inr ⟨source, old, notDot, rfl⟩

theorem query_not_mem_path (set : EscapeSet) (text : Bytes) : 0x3F ∉ path set text := by
  intro member
  obtain ⟨segment, inside, found⟩ := mem_segment member (by decide)
  rcases mem_path set inside with rfl | ⟨source, -, -, rfl⟩
  · simp at found
  · have kept := (escapes_of_mem_escape set found).1
    simp [set.query] at kept

theorem resolve_ne_nil : ∀ {segments : List Bytes} (done : List Bytes), segments ≠ [] →
    resolve done segments ≠ [] := by
  intro segments
  induction segments with
  | nil => exact fun _ empty => absurd rfl empty
  | cons first rest ih =>
      intro done _
      cases rest with
      | nil =>
          simp only [resolve]
          split
          · simp
          split
          · simp
          · simp
      | cons next rest =>
          simp only [resolve]
          split
          · exact ih _ (by simp)
          split
          · exact ih _ (by simp)
          · exact ih _ (by simp)

theorem path_head (set : EscapeSet) (rest : Bytes) : (path set (0x2F :: rest)).head? = some 0x2F := by
  have trimmed : trimEnd (0x2F :: rest) = 0x2F :: trimEnd rest := trimEnd_append (by decide) [] rest
  have parts : segments (0x2F :: rest) ≠ [] := by
    have first : shown (0x2F :: rest) =
        0x2F :: (trimEnd rest).takeWhile fun byte => !isStop byte := by
      rw [shown, trimmed, List.takeWhile_cons_of_pos (by decide)]
    have clean : ∀ tail : Bytes, cleaned (0x2F :: tail) = 0x2F :: cleaned tail := by
      intro tail
      exact cleaned_append [0x2F] tail
    rw [segments, first, clean, splitOn_slash]
    simp
  have found := resolve_ne_nil [] parts
  cases shape : resolve [] (segments (0x2F :: rest)) with
  | nil => exact absurd shape found
  | cons segment more =>
      rw [path, shape, List.map_cons, List.intercalate_cons_cons]
      simp

/-! ## Normal forms -/

def dots : List Bytes :=
  [ascii ".", ascii "%2e", ascii "%2E", ascii "..", ascii ".%2e", ascii ".%2E", ascii "%2e.",
    ascii "%2E.", ascii "%2e%2e", ascii "%2e%2E", ascii "%2E%2e", ascii "%2E%2E"]

theorem isDot_iff {segment : Bytes} : isDot segment = true ↔ segment ∈ dots := by
  simp [isDot, isSingleDot, isDoubleDot, dots, or_assoc]

theorem dots_octet {byte : UInt8} {segment : Bytes} (dot : segment ∈ dots)
    (inside : [0x25, hexDigit (byte.toNat / 16), hexDigit (byte.toNat % 16)] <:+: segment) :
    byte = 0x2E := by
  have all : ∀ value : Fin 256, ∀ segment ∈ dots,
      [0x25, hexDigit (value.val / 16), hexDigit (value.val % 16)] <:+: segment → value = 0x2E := by
    set_option maxRecDepth 1000 in
    decide
  have small := byte.toNat_lt
  have same := all ⟨byte.toNat, small⟩ segment dot inside
  have value : byte.toNat = 0x2E := congrArg Fin.val same
  exact UInt8.toNat_inj.mp value

theorem eq_of_escape_eq_dot (set : EscapeSet) {text word whole : Bytes} (dot : whole ∈ dots)
    (inside : word <:+ whole) (same : escape set text = word) : text = word := by
  induction text generalizing word with
  | nil => simpa [escape_cons] using same
  | cons byte rest ih =>
      rw [escape_cons] at same
      cases escaped : set.escapes byte with
      | true =>
          simp only [escapeByte_of_escaped set escaped] at same
          have octet : [0x25, hexDigit (byte.toNat / 16), hexDigit (byte.toNat % 16)] <:+: whole :=
            (same ▸ List.prefix_append _ _).isInfix.trans inside.isInfix
          obtain rfl := dots_octet dot octet
          rw [set.kept 0x2E (by decide)] at escaped
          simp at escaped
      | false =>
          rw [escapeByte_of_kept set escaped, List.singleton_append] at same
          subst same
          have rest' := ih ((List.suffix_cons _ _).trans inside) rfl
          exact congrArg (byte :: ·) rest'

theorem isDot_escape (set : EscapeSet) {segment : Bytes} (notDot : isDot segment = false) :
    isDot (escape set segment) = false := by
  by_contra dot
  have member := isDot_iff.mp (by simpa using dot)
  have same := eq_of_escape_eq_dot set member (List.suffix_refl _) rfl
  rw [← same] at member
  simp [isDot_iff.mpr member] at notDot

theorem Plain.escape (set : EscapeSet) {text : Bytes} (plain : Plain text) :
    Plain (escape set text) := by
  have visible : ∀ byte ∈ Url.escape set text, isBlank byte = false := by
    intro byte member
    have left := (escapes_of_mem_escape set member).1
    by_contra blank
    simp [set.blank byte (by simpa using blank)] at left
  constructor
  · intro byte member
    obtain ⟨left, origin⟩ := escapes_of_mem_escape set member
    refine ⟨?_, ?_, ?_⟩
    · rintro rfl
      simp [set.fragment] at left
    · rintro rfl
      rcases origin with kept | old
      · simp [isKept] at kept
      · exact (plain.bytes _ old).2.1 rfl
    · by_contra tab
      have blank := visible byte member
      simp only [isTabOrNewline, Bool.not_eq_false, Bool.or_eq_true, beq_iff_eq] at tab
      rcases tab with (rfl | rfl) | rfl
      · simp [isBlank] at blank
      · simp [isBlank] at blank
      · simp [isBlank] at blank
  · intro segment member
    rw [splitOn_escape] at member
    obtain ⟨source, old, rfl⟩ := List.mem_map.mp member
    exact isDot_escape set (plain.segments source old)
  · intro last found
    exact visible last (List.mem_of_getLast? found)

theorem escape_head (set : EscapeSet) {text : Bytes} (slash : text.head? = some 0x2F) :
    (escape set text).head? = some 0x2F := by
  cases text with
  | nil => simp at slash
  | cons byte rest =>
      simp only [List.head?_cons, Option.some.injEq] at slash
      simp [escape_cons, slash, escapeByte_of_kept set set.keeps_slash]

/-- The path of a plain text is its own path. -/
theorem path_escape (set : EscapeSet) {text : Bytes} (plain : Plain text)
    (slash : text.head? = some 0x2F) : path set (escape set text) = escape set text := by
  have head := escape_head set slash
  have query : 0x3F ∉ escape set text := by
    intro member
    have left := (escapes_of_mem_escape set member).1
    simp [set.query] at left
  rw [path_plain set (.inl rfl) (plain.escape set) head query, escape_escape]

/-! ## Literal segments -/

/-- The segment is sent as it is spelled, and percent-decoding gives it back. -/
structure Literal (segment : Bytes) : Prop where
  bytes : ∀ byte ∈ segment, byte ≠ 0x23 ∧ byte ≠ 0x5C ∧ isTabOrNewline byte = false
  octets : hasOctet segment = false
  dots : isDot segment = false

section

local instance (priority := high) segmentByte (keep : UInt8 → Prop) [DecidablePred keep]
    (segment : Bytes) : Decidable (∀ byte ∈ segment, keep byte) :=
  List.decidableBAll keep segment

instance (segment : Bytes) : Decidable (Literal segment) :=
  decidable_of_iff
    ((∀ byte ∈ segment, byte ≠ 0x23 ∧ byte ≠ 0x5C ∧ isTabOrNewline byte = false) ∧
      hasOctet segment = false ∧ isDot segment = false)
    ⟨fun holds => ⟨holds.1, holds.2.1, holds.2.2⟩,
      fun literal => ⟨literal.bytes, literal.octets, literal.dots⟩⟩

end

theorem shown_append {lead : Bytes} {stop : UInt8} (rest : Bytes)
    (visible : isBlank stop = false) (free : ∀ byte ∈ lead, isStop byte = false)
    (goesOn : isStop stop = false) : shown (lead ++ stop :: rest) = lead ++ stop :: shown rest := by
  rw [shown, trimEnd_append visible, List.takeWhile_append_of_pos (by simpa using free),
    List.takeWhile_cons_of_pos (by simpa using goesOn)]
  rfl

/-- Between its origin and its query a text of literal segments is kept, up to percent-encoding. -/
theorem path_literal (set : EscapeSet) {rest : Bytes}
    (literal : ∀ segment ∈ (shown rest).splitOn 0x2F, Literal segment) :
    path set (0x2F :: rest) = escape set (0x2F :: shown rest) := by
  have begins : shown ([] ++ 0x2F :: rest) = [] ++ 0x2F :: shown rest :=
    shown_append rest (by decide) (by simp) (by decide)
  rw [List.nil_append, List.nil_append] at begins
  have clean : cleaned (0x2F :: shown rest) = 0x2F :: shown rest := by
    apply cleaned_plain
    intro byte member
    by_cases slash : byte = 0x2F
    · subst slash
      decide
    · obtain ⟨segment, inside, found⟩ :=
        mem_segment ((List.mem_cons.mp member).resolve_left slash) slash
      exact ((literal segment inside).bytes byte found).2
  have kept : segments (0x2F :: rest) = (shown rest).splitOn 0x2F := by
    rw [segments, begins, clean, splitOn_slash, List.tail_cons]
  rw [path, kept, resolve_plain [] fun segment member => (literal segment member).dots,
    List.nil_append]
  calc [0x2F].intercalate ([] :: ((shown rest).splitOn 0x2F).map (escape set))
      = [0x2F].intercalate (((0x2F :: shown rest).splitOn 0x2F).map (escape set)) := by
        rw [splitOn_slash]; simp
    _ = escape set ([0x2F].intercalate ((0x2F :: shown rest).splitOn 0x2F)) := by
        rw [escape_intercalate]
    _ = escape set (0x2F :: shown rest) := by rw [List.intercalate_splitOn]

/-- A part of the text decodes to the whole of it only if the text is literal: whatever the parser
cuts off, removes or splits makes the part shorter, and so does an octet. -/
theorem literal_of_decode {source text : Bytes}
    (member : source ∈ (cleaned (text.takeWhile (· ≠ 0x23))).splitOn 0x2F)
    (notDot : isDot source = false) (same : decode source = text) : Literal text := by
  obtain ⟨inside, noSlash⟩ := mem_splitOn member
  have decoded := decode_length_le source
  have part := inside.length_le
  have kept : (cleaned (text.takeWhile (· ≠ 0x23))).length ≤
      (text.takeWhile (· ≠ 0x23)).length := by
    simp only [cleaned, List.length_map]
    exact List.length_filter_le _ _
  have cut : (text.takeWhile (· ≠ 0x23)).length ≤ text.length :=
    (List.takeWhile_prefix _).length_le
  rw [same] at decoded
  have whole : text.takeWhile (· ≠ 0x23) = text :=
    (List.takeWhile_prefix _).eq_of_length (by omega)
  rw [whole] at inside kept part member
  have noTabs : ∀ byte ∈ text, isTabOrNewline byte = false := by
    have full : (text.filter fun byte => !isTabOrNewline byte).length = text.length := by
      have size : (cleaned text).length = (text.filter fun byte => !isTabOrNewline byte).length := by
        simp [cleaned]
      omega
    have all := List.length_filter_eq_length_iff.mp full
    simpa using all
  have isWhole : source = cleaned text := inside.eq_of_length (by omega)
  have mapped : cleaned text = text.map slashed := by
    rw [cleaned, List.filter_eq_self.mpr (by simpa using noTabs)]
  have noBackslash : 0x5C ∉ text := by
    intro backslash
    apply noSlash
    rw [isWhole, mapped]
    exact List.mem_map.mpr ⟨0x5C, backslash, by decide⟩
  have unchanged : source = text := by
    rw [isWhole]
    apply cleaned_plain
    intro byte old
    exact ⟨fun backslash => noBackslash (backslash ▸ old), noTabs byte old⟩
  subst unchanged
  refine ⟨?_, ?_, notDot⟩
  · intro byte old
    refine ⟨?_, fun backslash => noBackslash (backslash ▸ old), noTabs byte old⟩
    have all := List.takeWhile_eq_self_iff.mp whole byte old
    simpa using all
  · by_contra octet
    have shorter := decode_length_lt (by simpa using octet)
    rw [same] at shorter
    omega

end Url
