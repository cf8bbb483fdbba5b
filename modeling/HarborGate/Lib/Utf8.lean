import Mathlib.Data.List.Infix
import HarborGate.Lib.Text

/-!
Where an ASCII text stands inside another one, on characters and on UTF-8 bytes.
-/

namespace Text

theorem containsChars_iff {needle : List Char} : ∀ {text : List Char},
    containsChars needle text = true ↔ needle <:+: text := by
  intro text
  induction text with
  | nil => cases needle <;> simp [containsChars]
  | cons c rest ih =>
      simp only [containsChars, Bool.or_eq_true, ih, List.isPrefixOf_iff_prefix,
        List.infix_cons_iff]

theorem contains_iff {text needle : String} :
    contains text needle = true ↔ needle.toList <:+: text.toList :=
  containsChars_iff

theorem stripChars_some : ∀ {lead text rest : List Char},
    stripChars lead text = some rest → text = lead ++ rest := by
  intro lead
  induction lead with
  | nil =>
      intro text rest found
      simpa [stripChars] using found
  | cons c lead ih =>
      intro text rest found
      cases text with
      | nil => simp [stripChars] at found
      | cons d text =>
          simp only [stripChars] at found
          split at found
          · rename_i same
            rw [same, ih found, List.cons_append]
          · simp at found

theorem stripLead_some {text lead rest : String} (found : stripLead text lead = some rest) :
    text.toList = lead.toList ++ rest.toList := by
  obtain ⟨chars, stripped, rfl⟩ := Option.map_eq_some_iff.mp found
  rw [stripChars_some stripped, String.toList_ofList]

theorem trim_infix (text : String) : (trim text).toList <:+: text.toList := by
  simp only [trim, String.toList_ofList]
  have front : (text.toList.dropWhile isWhitespace).rdropWhile isWhitespace <+:
      text.toList.dropWhile isWhitespace := List.rdropWhile_prefix isWhitespace _
  exact front.isInfix.trans (List.dropWhile_suffix isWhitespace).isInfix

/-! ## UTF-8 -/

def utf8 (text : List Char) : List UInt8 :=
  text.flatMap String.utf8EncodeChar

def isAscii (c : Char) : Bool :=
  c.toNat ≤ 0x7F

theorem encode_ascii {c : Char} (ascii : isAscii c = true) :
    String.utf8EncodeChar c = [UInt8.ofNat c.toNat] := by
  simp only [isAscii, decide_eq_true_eq] at ascii
  rw [String.utf8EncodeChar]
  exact if_pos ascii

theorem byte_toNat {c : Char} (ascii : isAscii c = true) : (UInt8.ofNat c.toNat).toNat = c.toNat := by
  simp only [isAscii, decide_eq_true_eq] at ascii
  rw [UInt8.toNat_ofNat']
  omega

theorem encode_ne_nil (c : Char) : String.utf8EncodeChar c ≠ [] := by
  simp only [String.utf8EncodeChar]
  repeat' split
  all_goals simp

/-- A character beyond ASCII has no byte below 128. -/
theorem encode_other {c : Char} (other : isAscii c = false) :
    ∀ byte ∈ String.utf8EncodeChar c, 0x80 ≤ byte.toNat := by
  have high (value bound offset : Nat) (positive : 0 < bound) (small : bound + offset ≤ 256)
      (above : 0x80 ≤ offset) : 0x80 ≤ (UInt8.ofNat (value % bound + offset)).toNat := by
    have below := Nat.mod_lt value positive
    rw [UInt8.toNat_ofNat']
    omega
  simp only [isAscii, decide_eq_false_iff_not] at other
  intro byte member
  have beyond : ¬c.val.toNat ≤ 0x7F := other
  rw [String.utf8EncodeChar] at member
  simp only [if_neg beyond] at member
  split at member
  · simp only [List.mem_cons, List.not_mem_nil, or_false] at member
    rcases member with rfl | rfl
    · exact high _ _ _ (by decide) (by decide) (by decide)
    · exact high _ _ _ (by decide) (by decide) (by decide)
  · split at member
    · simp only [List.mem_cons, List.not_mem_nil, or_false] at member
      rcases member with rfl | rfl | rfl
      all_goals exact high _ _ _ (by decide) (by decide) (by decide)
    · simp only [List.mem_cons, List.not_mem_nil, or_false] at member
      rcases member with rfl | rfl | rfl | rfl
      all_goals exact high _ _ _ (by decide) (by decide) (by decide)

theorem utf8_cons (c : Char) (rest : List Char) :
    utf8 (c :: rest) = String.utf8EncodeChar c ++ utf8 rest :=
  List.flatMap_cons

theorem toUTF8_eq (text : String) : text.toUTF8.data.toList = utf8 text.toList := by
  rw [String.toUTF8_eq_toByteArray, ← String.utf8Encode_toList]
  simp [List.utf8Encode, utf8]

/-- The characters of an ASCII text can be read off the bytes that begin with it. -/
theorem prefix_of_utf8 {needle : List Char} (ascii : ∀ c ∈ needle, isAscii c = true) :
    ∀ {text : List Char} {tail : List UInt8}, utf8 text = utf8 needle ++ tail →
      needle <+: text := by
  induction needle with
  | nil => exact fun _ => List.nil_prefix
  | cons c needle ih =>
      intro text tail same
      have first := ascii c List.mem_cons_self
      rw [utf8_cons, encode_ascii first] at same
      cases text with
      | nil => simp [utf8] at same
      | cons d text =>
          rw [utf8_cons] at same
          cases plain : isAscii d with
          | true =>
              rw [encode_ascii plain] at same
              simp only [List.cons_append, List.nil_append, List.cons.injEq] at same
              have code : d.toNat = c.toNat := by
                rw [← byte_toNat plain, same.1, byte_toNat first]
              obtain rfl : d = c := Char.ext (UInt32.toNat_inj.mp code)
              have rest := ih (fun e member => ascii e (List.mem_cons_of_mem _ member)) same.2
              exact (List.prefix_cons_inj d).mpr rest
          | false =>
              obtain ⟨byte, bytes, encoded⟩ := List.exists_cons_of_ne_nil (encode_ne_nil d)
              have above := encode_other plain byte (by simp [encoded])
              rw [encoded] at same
              simp only [List.cons_append, List.nil_append, List.cons.injEq] at same
              rw [same.1, byte_toNat first] at above
              simp only [isAscii, decide_eq_true_eq] at first
              omega

/-- An ASCII text that stands in the bytes of a text stands in the text. -/
theorem infix_of_utf8 {needle : List Char} (ascii : ∀ c ∈ needle, isAscii c = true) :
    ∀ {text : List Char} {lead tail : List UInt8}, utf8 text = lead ++ (utf8 needle ++ tail) →
      needle <:+: text := by
  intro text
  induction text with
  | nil =>
      intro lead tail same
      have empty := List.append_eq_nil_iff.mp same.symm
      have none : utf8 needle ++ tail = utf8 [] := empty.2
      exact (prefix_of_utf8 ascii none.symm).isInfix
  | cons c text ih =>
      intro lead tail same
      by_cases start : lead = []
      · subst start
        exact (prefix_of_utf8 ascii same).isInfix
      have parts := same
      rw [utf8_cons] at parts
      rcases List.append_eq_append_iff.mp parts with ⟨middle, leads, rest⟩ | ⟨middle, leads, rest⟩
      · exact List.infix_cons (ih rest)
      · cases middle with
        | nil =>
            rw [List.nil_append] at rest
            exact List.infix_cons (prefix_of_utf8 ascii rest.symm).isInfix
        | cons byte middle =>
            -- The text would begin inside a character, so that character has several bytes.
            cases needle with
            | nil => exact List.nil_infix
            | cons d needle =>
                have first := ascii d List.mem_cons_self
                rw [utf8_cons, encode_ascii first] at rest
                simp only [List.cons_append, List.nil_append, List.cons.injEq] at rest
                cases plain : isAscii c with
                | true =>
                    rw [encode_ascii plain] at leads
                    cases lead with
                    | nil => exact absurd rfl start
                    | cons other lead => simp at leads
                | false =>
                    have above := encode_other plain byte (by simp [leads])
                    rw [← rest.1, byte_toNat first] at above
                    simp only [isAscii, decide_eq_true_eq] at first
                    omega

end Text
