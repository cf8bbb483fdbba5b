import HarborGate.Lib.Utf8

/-!
Decoding bytes as UTF-8, with a replacement character for every maximal part that is not: what is a
text stays one, and an ASCII character parts what is decoded.
-/

namespace Text

/-! ## One character -/

def firstChar (bytes : List UInt8) : Option Char :=
  bytes.toByteArray.utf8DecodeChar? 0

/-- The ranges of the bytes that follow a lead byte. -/
def followers (lead : UInt8) : List (UInt8 × UInt8) :=
  if 0xC2 ≤ lead ∧ lead ≤ 0xDF then [(0x80, 0xBF)]
  else if lead = 0xE0 then [(0xA0, 0xBF), (0x80, 0xBF)]
  else if lead = 0xED then [(0x80, 0x9F), (0x80, 0xBF)]
  else if 0xE1 ≤ lead ∧ lead ≤ 0xEF then [(0x80, 0xBF), (0x80, 0xBF)]
  else if lead = 0xF0 then [(0x90, 0xBF), (0x80, 0xBF), (0x80, 0xBF)]
  else if 0xF1 ≤ lead ∧ lead ≤ 0xF3 then [(0x80, 0xBF), (0x80, 0xBF), (0x80, 0xBF)]
  else if lead = 0xF4 then [(0x80, 0x8F), (0x80, 0xBF), (0x80, 0xBF)]
  else []

/-- How many of the bytes go on with a character that is not complete. -/
def followed : List (UInt8 × UInt8) → List UInt8 → Nat
  | (low, high) :: expected, byte :: rest =>
      if low ≤ byte ∧ byte ≤ high then 1 + followed expected rest else 0
  | _, _ => 0

/-- The characters of at most `fuel` bytes. -/
def lossyChars : Nat → List UInt8 → List Char
  | 0, _ => []
  | _ + 1, [] => []
  | fuel + 1, lead :: rest =>
      match firstChar (lead :: rest) with
      | some c => c :: lossyChars fuel ((lead :: rest).drop c.utf8Size)
      | none => '\uFFFD' :: lossyChars fuel (rest.drop (followed (followers lead) rest))

/-- `String::from_utf8_lossy`. -/
def lossy (bytes : List UInt8) : String :=
  String.ofList (lossyChars bytes.length bytes)

theorem firstChar_iff {bytes : List UInt8} {c : Char} :
    firstChar bytes = some c ↔ ∃ rest, bytes = String.utf8EncodeChar c ++ rest := by
  constructor
  · intro found
    obtain ⟨rest, same⟩ := ByteArray.exists_of_utf8DecodeChar?_eq_some found
    refine ⟨rest.data.toList, List.toByteArray_inj.mp ?_⟩
    have restored : rest.data.toList.toByteArray = rest := by
      apply ByteArray.ext
      rw [List.data_toByteArray, Array.toArray_toList]
    rw [same, List.toByteArray_append, restored]
  · rintro ⟨rest, rfl⟩
    rw [firstChar, List.toByteArray_append]
    exact ByteArray.utf8DecodeChar?_utf8EncodeChar_append

theorem followed_le (expected : List (UInt8 × UInt8)) (bytes : List UInt8) :
    followed expected bytes ≤ bytes.length := by
  fun_induction followed expected bytes with
  | case1 low high expected byte rest within ih => simp only [List.length_cons]; omega
  | case2 => omega
  | case3 => omega

theorem lossyChars_enough {fuel : Nat} : ∀ {bytes : List UInt8}, bytes.length ≤ fuel →
    lossyChars fuel bytes = lossyChars bytes.length bytes := by
  induction fuel using Nat.strongRecOn with
  | ind fuel ih =>
      intro bytes enough
      match fuel, bytes with
      | 0, [] => rfl
      | fuel + 1, [] => rfl
      | fuel + 1, lead :: rest =>
          simp only [List.length_cons] at enough
          simp only [List.length_cons, lossyChars]
          cases found : firstChar (lead :: rest) with
          | some c =>
              have positive := c.utf8Size_pos
              have short : ((lead :: rest).drop c.utf8Size).length ≤ rest.length := by
                simp only [List.length_drop, List.length_cons]
                omega
              simp only
              rw [ih fuel (by omega) (by omega), ih rest.length (by omega) short]
          | none =>
              have short : (rest.drop (followed (followers lead) rest)).length ≤ rest.length := by
                simp only [List.length_drop]
                omega
              simp only
              rw [ih fuel (by omega) (by omega), ih rest.length (by omega) short]

theorem lossyChars_some {bytes : List UInt8} {c : Char} (found : firstChar bytes = some c) :
    lossyChars bytes.length bytes =
      c :: lossyChars (bytes.drop c.utf8Size).length (bytes.drop c.utf8Size) := by
  cases bytes with
  | nil =>
      obtain ⟨rest, same⟩ := firstChar_iff.mp found
      exact absurd (List.append_eq_nil_iff.mp same.symm).1 (encode_ne_nil c)
  | cons lead rest =>
      have positive := c.utf8Size_pos
      have short : ((lead :: rest).drop c.utf8Size).length ≤ rest.length := by
        simp only [List.length_drop, List.length_cons]
        omega
      simp only [List.length_cons, lossyChars, found]
      rw [lossyChars_enough short]

theorem lossyChars_none {lead : UInt8} {rest : List UInt8} (none : firstChar (lead :: rest) = none) :
    lossyChars (lead :: rest).length (lead :: rest) =
      '\uFFFD' :: lossyChars (rest.drop (followed (followers lead) rest)).length
        (rest.drop (followed (followers lead) rest)) := by
  have short : (rest.drop (followed (followers lead) rest)).length ≤ rest.length := by
    simp only [List.length_drop]
    omega
  simp only [List.length_cons, lossyChars, none]
  rw [lossyChars_enough short]

/-! ## Texts -/

theorem drop_encode (c : Char) (rest : List UInt8) :
    (String.utf8EncodeChar c ++ rest).drop c.utf8Size = rest := by
  have size := String.length_utf8EncodeChar c
  rw [← size, List.drop_left]

theorem lossyChars_utf8 (text : List Char) :
    lossyChars (utf8 text).length (utf8 text) = text := by
  induction text with
  | nil => rfl
  | cons c rest ih =>
      rw [utf8_cons, lossyChars_some (firstChar_iff.mpr ⟨_, rfl⟩), drop_encode, ih]

/-- The bytes of a text are read as the text. -/
theorem lossy_toUTF8 (text : String) : lossy text.toUTF8.data.toList = text := by
  rw [toUTF8_eq, lossy, lossyChars_utf8, String.ofList_toList]

/-! ## Parts -/

theorem followers_high (lead : UInt8) : ∀ range ∈ followers lead, 0x80 ≤ range.1 := by
  simp only [followers]
  repeat' split
  all_goals simp

section Parts

variable {stop : Char} (ascii : isAscii stop = true)

include ascii

theorem followed_parted (tail : List UInt8) : ∀ (bytes : List UInt8)
    (expected : List (UInt8 × UInt8)), (∀ range ∈ expected, 0x80 ≤ range.1) →
    followed expected (bytes ++ (String.utf8EncodeChar stop ++ tail)) = followed expected bytes := by
  intro bytes
  induction bytes with
  | nil =>
      intro expected high
      rw [List.nil_append, encode_ascii ascii, List.singleton_append]
      cases expected with
      | nil => rfl
      | cons range expected =>
          have above := high range List.mem_cons_self
          have below := byte_toNat ascii
          simp only [isAscii, decide_eq_true_eq] at ascii
          have outside : ¬range.1 ≤ UInt8.ofNat stop.toNat := by
            intro within
            have bounds := UInt8.le_iff_toNat_le.mp (UInt8.le_trans above within)
            rw [below] at bounds
            exact absurd (Nat.le_trans bounds ascii) (by decide)
          rw [followed, if_neg fun both => outside both.1]
          rfl
  | cons byte bytes ih =>
      intro expected high
      cases expected with
      | nil => rfl
      | cons range expected =>
          have later := ih expected fun other member => high other (List.mem_cons_of_mem _ member)
          rw [List.cons_append, followed, followed, later]

theorem firstChar_parted {bytes tail : List UInt8} (filled : bytes ≠ [])
    (absent : firstChar bytes = none) :
    firstChar (bytes ++ (String.utf8EncodeChar stop ++ tail)) = none := by
  by_contra found
  obtain ⟨c, found⟩ := Option.ne_none_iff_exists'.mp found
  obtain ⟨rest, same⟩ := firstChar_iff.mp found
  rw [encode_ascii ascii, List.singleton_append] at same
  rcases List.append_eq_append_iff.mp same with ⟨front, longer, tailSame⟩ | ⟨front, shorter, -⟩
  · cases front with
    | nil =>
        have whole := firstChar_iff.mpr ⟨[], congrArg (· ++ []) longer.symm⟩
        simp [absent] at whole
    | cons byte front =>
        -- the character would hold the byte behind it
        obtain ⟨rfl, -⟩ := List.cons.inj tailSame
        have inside : UInt8.ofNat stop.toNat ∈ String.utf8EncodeChar c := by simp [longer]
        cases plain : isAscii c with
        | true =>
            have length := congrArg List.length longer
            have positive := List.length_pos_iff.mpr filled
            simp only [encode_ascii plain, List.length_append, List.length_cons, List.length_nil]
              at length
            omega
        | false =>
            have above := encode_other plain _ inside
            rw [byte_toNat ascii] at above
            simp only [isAscii, decide_eq_true_eq] at ascii
            omega
  · have whole := firstChar_iff.mpr ⟨front, shorter⟩
    simp [absent] at whole

theorem lossyChars_parted (bytes tail : List UInt8) :
    lossyChars (bytes ++ (String.utf8EncodeChar stop ++ tail)).length
        (bytes ++ (String.utf8EncodeChar stop ++ tail)) =
      lossyChars bytes.length bytes ++ stop :: lossyChars tail.length tail := by
  induction size : bytes.length using Nat.strongRecOn generalizing bytes with
  | ind size ih =>
      subst size
      match bytes with
      | [] =>
          rw [List.nil_append, lossyChars_some (firstChar_iff.mpr ⟨_, rfl⟩), drop_encode]
          rfl
      | lead :: rest =>
          cases found : firstChar (lead :: rest) with
          | some c =>
              obtain ⟨behind, same⟩ := firstChar_iff.mp found
              have positive := List.length_pos_iff.mpr (encode_ne_nil c)
              have shorter : behind.length < (lead :: rest).length := by
                rw [same, List.length_append]
                omega
              rw [same, List.append_assoc, lossyChars_some (firstChar_iff.mpr ⟨_, rfl⟩),
                lossyChars_some (firstChar_iff.mpr ⟨_, rfl⟩), drop_encode, drop_encode,
                ih _ shorter _ rfl]
              rfl
          | none =>
              have later : firstChar ((lead :: rest) ++ (String.utf8EncodeChar stop ++ tail)) = none :=
                firstChar_parted ascii (List.cons_ne_nil lead rest) found
              rw [List.cons_append] at later
              have count := followed_parted ascii tail rest _ (followers_high lead)
              have bound := followed_le (followers lead) rest
              have shorter : (rest.drop (followed (followers lead) rest)).length <
                  (lead :: rest).length := by
                simp only [List.length_drop, List.length_cons]
                omega
              rw [List.cons_append, lossyChars_none later, lossyChars_none found, count,
                List.drop_append_of_le_length bound, ih _ shorter _ rfl]
              rfl

/-- An ASCII character stays between what is read in front of it and behind it. -/
theorem lossy_parted (bytes tail : List UInt8) :
    lossy (bytes ++ (String.utf8EncodeChar stop ++ tail)) =
      lossy bytes ++ String.singleton stop ++ lossy tail := by
  apply String.toList_injective
  simp only [lossy, String.toList_ofList, String.toList_append, String.toList_singleton,
    lossyChars_parted ascii, List.append_assoc, List.singleton_append]

end Parts

end Text
