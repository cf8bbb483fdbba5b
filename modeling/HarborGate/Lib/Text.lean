import Mathlib.Data.List.DropRight

/-!
Text operations with the semantics of Rust's `str` methods, written over character
lists so that they evaluate on literals. Whitespace is Unicode `White_Space`.
-/

namespace Text

def isWhitespace (c : Char) : Bool :=
  let code := c.toNat
  (0x09 ≤ code && code ≤ 0x0D) || code == 0x20 || code == 0x85 || code == 0xA0 ||
    code == 0x1680 || (0x2000 ≤ code && code ≤ 0x200A) || code == 0x2028 || code == 0x2029 ||
    code == 0x202F || code == 0x205F || code == 0x3000

def trim (text : String) : String :=
  String.ofList ((text.toList.dropWhile isWhitespace).rdropWhile isWhitespace)

def isBlank (text : String) : Bool :=
  text.toList.all isWhitespace

/-- The idiom `.map(str::trim).filter(|value| !value.is_empty())`. -/
def trimmed (text : Option String) : Option String :=
  (text.map trim).filter (· ≠ "")

def containsChars (needle : List Char) : List Char → Bool
  | [] => needle.isEmpty
  | c :: rest => needle.isPrefixOf (c :: rest) || containsChars needle rest

def contains (text needle : String) : Bool :=
  containsChars needle.toList text.toList

def startsWith (text lead : String) : Bool :=
  lead.toList.isPrefixOf text.toList

/-- Lower case as far as it can produce an ASCII letter: the ASCII capitals, the Kelvin
sign and the dotted capital I. All other characters stay outside ASCII. -/
def lowerChar (c : Char) : List Char :=
  if c.isUpper then [c.toLower]
  else if c.toNat = 0x212A then ['k']
  else if c.toNat = 0x130 then ['i', Char.ofNat 0x307]
  else [c]

def toLowercase (text : String) : String :=
  String.ofList (text.toList.flatMap lowerChar)

/-- `str::to_ascii_lowercase`. -/
def toAsciiLowercase (text : String) : String :=
  String.ofList (text.toList.map Char.toLower)

def utf8Len (text : String) : Nat :=
  text.utf8ByteSize

def stripChars : List Char → List Char → Option (List Char)
  | [], text => some text
  | _ :: _, [] => none
  | lead :: leads, c :: rest => if lead = c then stripChars leads rest else none

/-- `str::strip_prefix`. -/
def stripLead (text lead : String) : Option String :=
  (stripChars lead.toList text.toList).map String.ofList

/-- `str::split_once` for one separator character. -/
def splitOnce (text : String) (separator : Char) : Option (String × String) :=
  if separator ∈ text.toList then
    some (String.ofList (text.toList.takeWhile (· ≠ separator)),
      String.ofList ((text.toList.dropWhile (· ≠ separator)).drop 1))
  else none

/-- The characters of `str::replace` for a nonempty needle; `skip` counts those that belong to the
occurrence just replaced. -/
def replaceChars (needle value : List Char) : Nat → List Char → List Char
  | _, [] => []
  | 0, c :: rest =>
      if needle.isPrefixOf (c :: rest) then
        value ++ replaceChars needle value (needle.length - 1) rest
      else c :: replaceChars needle value 0 rest
  | skip + 1, _ :: rest => replaceChars needle value skip rest

def replace (text needle value : String) : String :=
  String.ofList (replaceChars needle.toList value.toList 0 text.toList)

def isAsciiDigit (c : Char) : Bool :=
  c.isDigit

def isAsciiHexdigit (c : Char) : Bool :=
  c.isDigit || ('a' ≤ c && c ≤ 'f') || ('A' ≤ c && c ≤ 'F')

/-- `bytes().all(..)` for a test that accepts ASCII only: no byte of another character passes. -/
def allChars (test : Char → Bool) (text : String) : Bool :=
  text.toList.all test

theorem isBlank_trim {text : String} (blank : isBlank (trim text) = true) : trim text = "" := by
  simp only [trim, isBlank, String.toList_ofList, List.all_eq_true] at blank ⊢
  by_contra nonempty
  have rest : (text.toList.dropWhile isWhitespace).rdropWhile isWhitespace ≠ [] := by
    intro empty
    simp [empty] at nonempty
  exact List.rdropWhile_last_not _ _ rest (blank _ (List.getLast_mem rest))

theorem isBlank_of_trim {text : String} (empty : trim text = "") : isBlank text = true := by
  have list : (text.toList.dropWhile isWhitespace).rdropWhile isWhitespace = [] := by
    have lists := congrArg String.toList empty
    simpa [trim] using lists
  have blank := List.rdropWhile_eq_nil_iff.mp list
  cases rest : text.toList.dropWhile isWhitespace with
  | nil => simpa [isBlank] using List.dropWhile_eq_nil_iff.mp rest
  | cons c tail =>
      have kept := List.head_dropWhile_not (l := text.toList) isWhitespace (by simp [rest])
      have white := blank c (by simp [rest])
      simp [rest, white] at kept

theorem trim_trim (text : String) : trim (trim text) = trim text := by
  have front : ((text.toList.dropWhile isWhitespace).rdropWhile isWhitespace).dropWhile
      isWhitespace = (text.toList.dropWhile isWhitespace).rdropWhile isWhitespace := by
    rw [List.dropWhile_eq_self_iff]
    intro long
    have lead := List.rdropWhile_prefix isWhitespace (text.toList.dropWhile isWhitespace)
    have short := lead.length_le
    have same := List.IsPrefix.getElem lead long
    rw [same]
    have first := List.dropWhile_get_zero_not isWhitespace text.toList (by omega)
    simpa using first
  simp only [trim, String.toList_ofList]
  rw [front, List.rdropWhile_idempotent]

theorem trimmed_eq_some {text : Option String} {token : String} (some_ : trimmed text = some token) :
    trim token = token ∧ token ≠ "" := by
  simp only [trimmed, Option.filter_eq_some_iff, Option.map_eq_some_iff] at some_
  obtain ⟨⟨raw, -, rfl⟩, filled⟩ := some_
  exact ⟨trim_trim raw, by simpa using filled⟩

example : contains "delivery item request fingerprint conflict" "conflict" = true := by decide

example : trim "  NAVI x " = "NAVI x" := by decide

example : replace "Bearer abc, Bearer d" "Bearer " "-" = "-abc, -d" := by decide

/-- Two texts agree before and after the first separator. -/
theorem split_at_separator {separator : Char} {rest other : List Char} :
    ∀ {lead lead' : List Char}, separator ∉ lead → separator ∉ lead' →
      lead ++ separator :: rest = lead' ++ separator :: other → lead = lead' ∧ rest = other := by
  intro lead
  induction lead with
  | nil =>
      intro lead' _ absent same
      cases lead' with
      | nil => exact ⟨rfl, by simpa using same⟩
      | cons c lead' =>
          simp only [List.nil_append, List.cons_append, List.cons.injEq] at same
          exact absurd (by simp [same.1]) absent
  | cons c lead ih =>
      intro lead' absent absent' same
      cases lead' with
      | nil =>
          simp only [List.nil_append, List.cons_append, List.cons.injEq] at same
          exact absurd (by simp [same.1]) absent
      | cons d lead' =>
          simp only [List.cons_append, List.cons.injEq] at same
          obtain ⟨rfl, rfl⟩ := ih (fun member => absent (List.mem_cons_of_mem _ member))
            (fun member => absent' (List.mem_cons_of_mem _ member)) same.2
          exact ⟨by rw [same.1], rfl⟩

theorem colon_not_in_number (number : Nat) : ':' ∉ (toString number).toList := by
  intro member
  have digit := Nat.isDigit_of_mem_toDigits (by decide) (by decide)
    (by simpa using member : ':' ∈ Nat.toDigits 10 number)
  simp at digit

end Text
