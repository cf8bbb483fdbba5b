import HarborGate.Lib.Text

/-!
What `str::replace` makes of a text, told by the occurrences of its needle: an occurrence is a way to
write the text as something, the needle and the rest.
-/

namespace Text

section Replace

variable {needle value : List Char}

theorem replaceChars_cons (c : Char) (rest : List Char) :
    replaceChars needle value 0 (c :: rest) =
      if needle.isPrefixOf (c :: rest) then
        value ++ replaceChars needle value (needle.length - 1) rest
      else c :: replaceChars needle value 0 rest :=
  rfl

theorem replaceChars_drop (skip : Nat) (c : Char) (rest : List Char) :
    replaceChars needle value (skip + 1) (c :: rest) = replaceChars needle value skip rest :=
  rfl

theorem replaceChars_skip (skip : Nat) (text : List Char) :
    replaceChars needle value skip text = replaceChars needle value 0 (text.drop skip) := by
  induction skip generalizing text with
  | zero => rfl
  | succ skip ih =>
      cases text with
      | nil => rfl
      | cons c rest =>
          rw [replaceChars_drop, ih, List.drop_succ_cons]

theorem replaceChars_needle_append (filled : needle ≠ []) (rest : List Char) :
    replaceChars needle value 0 (needle ++ rest) = value ++ replaceChars needle value 0 rest := by
  cases needle with
  | nil => exact absurd rfl filled
  | cons lead leads =>
      have found : (lead :: leads).isPrefixOf (lead :: (leads ++ rest)) = true :=
        List.isPrefixOf_iff_prefix.mpr ⟨rest, rfl⟩
      rw [List.cons_append, replaceChars_cons, if_pos found, replaceChars_skip]
      simp

/-- Text that no occurrence begins in stays. -/
theorem replaceChars_append_left {front text : List Char}
    (quiet : ∀ before after, front ++ text = before ++ needle ++ after →
      front.length ≤ before.length) :
    replaceChars needle value 0 (front ++ text) = front ++ replaceChars needle value 0 text := by
  induction front with
  | nil => rfl
  | cons c front ih =>
      have unmatched : ¬needle.isPrefixOf (c :: (front ++ text)) = true := by
        intro found
        obtain ⟨after, split⟩ := List.isPrefixOf_iff_prefix.mp found
        have short := quiet [] after split.symm
        simp at short
      rw [List.cons_append, replaceChars_cons, if_neg unmatched, ih, List.cons_append]
      intro before after split
      have short := quiet (c :: before) after (by rw [List.cons_append, split]; rfl)
      simpa using short

theorem replaceChars_of_lacking {text : List Char} (absent : ¬needle <:+: text) :
    replaceChars needle value 0 text = text := by
  have quiet : ∀ before after, text ++ [] = before ++ needle ++ after →
      text.length ≤ before.length := fun before after split =>
    absurd ⟨before, after, by rw [← split, List.append_nil]⟩ absent
  calc replaceChars needle value 0 text
      = replaceChars needle value 0 (text ++ []) := by rw [List.append_nil]
    _ = text ++ [] := replaceChars_append_left quiet
    _ = text := List.append_nil text

/-- The leftmost occurrence. -/
theorem exists_leftmost {text : List Char} (present : needle <:+: text) :
    ∃ front rest, text = front ++ needle ++ rest ∧
      ∀ before after, text = before ++ needle ++ after → front.length ≤ before.length := by
  induction text with
  | nil =>
      have empty := List.eq_nil_of_infix_nil present
      exact ⟨[], [], by rw [empty]; rfl, fun _ _ _ => Nat.zero_le _⟩
  | cons c text ih =>
      by_cases first : needle <+: c :: text
      · obtain ⟨rest, split⟩ := first
        exact ⟨[], rest, split.symm, fun _ _ _ => Nat.zero_le _⟩
      · have later : needle <:+: text := (List.infix_cons_iff.mp present).resolve_left first
        obtain ⟨front, rest, split, least⟩ := ih later
        refine ⟨c :: front, rest, by rw [split]; rfl, fun before after other => ?_⟩
        cases before with
        | nil => exact absurd ⟨after, other.symm⟩ first
        | cons d before =>
            have tails := (List.cons.inj other).2
            simpa using least before after tails

theorem replaceChars_leftmost {front rest : List Char} (filled : needle ≠ [])
    (least : ∀ before after, front ++ needle ++ rest = before ++ needle ++ after →
      front.length ≤ before.length) :
    replaceChars needle value 0 (front ++ needle ++ rest) =
      front ++ value ++ replaceChars needle value 0 rest := by
  rw [List.append_assoc] at least ⊢
  rw [replaceChars_append_left least, replaceChars_needle_append filled, List.append_assoc]

theorem not_infix_of_leftmost {front rest : List Char} (filled : needle ≠ [])
    (least : ∀ before after, front ++ needle ++ rest = before ++ needle ++ after →
      front.length ≤ before.length) : ¬needle <:+: front := by
  rintro ⟨before, after, rfl⟩
  have bound := least before (after ++ needle ++ rest) (by simp)
  have long : 0 < needle.length := List.length_pos_of_ne_nil filled
  simp only [List.length_append] at bound
  omega

/-- Induction along the occurrences that are replaced. -/
theorem replaceChars_induction {motive : List Char → Prop} (filled : needle ≠ [])
    (absent : ∀ text, ¬needle <:+: text → motive text)
    (present : ∀ front rest, (∀ before after, front ++ needle ++ rest = before ++ needle ++ after →
      front.length ≤ before.length) → motive rest → motive (front ++ needle ++ rest))
    (text : List Char) : motive text := by
  induction size : text.length using Nat.strong_induction_on generalizing text with
  | _ length ih =>
      by_cases found : needle <:+: text
      · obtain ⟨front, rest, split, least⟩ := exists_leftmost found
        subst split
        refine present front rest least (ih rest.length ?_ rest rfl)
        have long : 0 < needle.length := List.length_pos_of_ne_nil filled
        simp only [List.length_append] at size
        omega
      · exact absent text found

/-- An occurrence that ends before `back` is one in the text before it. -/
theorem split_before {text back before after : List Char}
    (split : text ++ back = before ++ needle ++ after) (long : back.length ≤ after.length) :
    ∃ middle, after = middle ++ back ∧ text = before ++ needle ++ middle := by
  have suffix : back <:+ after :=
    List.suffix_of_suffix_length_le ⟨text, split⟩ ⟨before ++ needle, rfl⟩ long
  obtain ⟨middle, rfl⟩ := suffix
  rw [← List.append_assoc] at split
  exact ⟨middle, rfl, List.append_cancel_right split⟩

/-- An occurrence that begins behind `front` is one in the text behind it. -/
theorem split_behind {front text before after : List Char}
    (split : front ++ text = before ++ needle ++ after) (long : front.length ≤ before.length) :
    ∃ middle, before = front ++ middle ∧ text = middle ++ needle ++ after := by
  have lead : front <+: before := by
    refine List.prefix_of_prefix_length_le ⟨text, split⟩ ⟨needle ++ after, ?_⟩ long
    rw [List.append_assoc]
  obtain ⟨middle, rfl⟩ := lead
  rw [List.append_assoc, List.append_assoc] at split
  exact ⟨middle, rfl, by rw [List.append_cancel_left split, List.append_assoc]⟩

/-- Text that no occurrence reaches into stays. -/
theorem replaceChars_append_right (filled : needle ≠ []) {text back : List Char}
    (quiet : ∀ before after, text ++ back = before ++ needle ++ after →
      back.length ≤ after.length) :
    replaceChars needle value 0 (text ++ back) = replaceChars needle value 0 text ++ back := by
  induction text using replaceChars_induction filled with
  | absent text lacks =>
      rw [replaceChars_of_lacking lacks, replaceChars_of_lacking]
      rintro ⟨before, after, split⟩
      obtain ⟨middle, -, within⟩ := split_before split.symm (quiet before after split.symm)
      exact lacks ⟨before, middle, within.symm⟩
  | present front rest least ih =>
      have apart : ∀ before after, front ++ (needle ++ (rest ++ back)) = before ++ needle ++ after →
          front.length ≤ before.length := by
        intro before after split
        have split : front ++ needle ++ rest ++ back = before ++ needle ++ after := by
          rw [← split]
          simp
        obtain ⟨middle, -, within⟩ := split_before split (quiet before after split)
        exact least before middle within
      have later : ∀ before after, rest ++ back = before ++ needle ++ after →
          back.length ≤ after.length := fun before after split =>
        quiet (front ++ needle ++ before) after (by simp [split])
      rw [replaceChars_leftmost filled least, List.append_assoc, List.append_assoc,
        replaceChars_append_left apart, replaceChars_needle_append filled, ih later]
      simp

theorem replaceChars_between (filled : needle ≠ []) {front text back : List Char}
    (inside : ∀ before after, front ++ text ++ back = before ++ needle ++ after →
      front.length ≤ before.length ∧ back.length ≤ after.length) :
    replaceChars needle value 0 (front ++ text ++ back) =
      front ++ replaceChars needle value 0 text ++ back := by
  have quiet : ∀ before after, text ++ back = before ++ needle ++ after →
      back.length ≤ after.length := fun before after split =>
    (inside (front ++ before) after (by simp [split])).2
  rw [List.append_assoc] at inside ⊢
  rw [replaceChars_append_left fun before after split => (inside before after split).1,
    replaceChars_append_right filled quiet, List.append_assoc]

theorem replaceChars_needle (filled : needle ≠ []) : replaceChars needle value 0 needle = value := by
  have alone : replaceChars needle value 0 (needle ++ []) = value ++ [] :=
    replaceChars_needle_append filled []
  simpa only [List.append_nil] using alone

theorem eq_nil_of_replaceChars_eq_nil (filled : needle ≠ []) (valueFilled : value ≠ [])
    {text : List Char} (empty : replaceChars needle value 0 text = []) : text = [] := by
  by_cases present : needle <:+: text
  · obtain ⟨front, rest, split, least⟩ := exists_leftmost present
    rw [split, replaceChars_leftmost filled (split ▸ least)] at empty
    simp [valueFilled] at empty
  · rwa [replaceChars_of_lacking present] at empty

theorem replaceChars_self (filled : needle ≠ []) (text : List Char) :
    replaceChars needle needle 0 text = text := by
  induction text using replaceChars_induction filled with
  | absent text lacks => exact replaceChars_of_lacking lacks
  | present front rest least ih => rw [replaceChars_leftmost filled least, ih]

/-- Every replacement changes the length by as much. -/
theorem length_replaceChars (filled : needle ≠ []) (text : List Char) :
    ∃ count, (needle <:+: text → 0 < count) ∧
      (replaceChars needle value 0 text).length + count * needle.length =
        text.length + count * value.length := by
  induction text using replaceChars_induction filled with
  | absent text lacks =>
      exact ⟨0, fun present => absurd present lacks, by rw [replaceChars_of_lacking lacks]; simp⟩
  | present front rest least ih =>
      obtain ⟨count, -, sizes⟩ := ih
      refine ⟨count + 1, fun _ => Nat.succ_pos _, ?_⟩
      rw [replaceChars_leftmost filled least]
      simp only [List.length_append, Nat.succ_mul]
      omega

theorem eq_of_replaceChars_eq_self (filled : needle ≠ []) {text : List Char}
    (same : replaceChars needle value 0 text = text) (present : needle <:+: text) :
    needle = value := by
  obtain ⟨count, positive, sizes⟩ := @length_replaceChars needle value filled text
  rw [same] at sizes
  have length : needle.length = value.length :=
    Nat.eq_of_mul_eq_mul_left (positive present) (by omega)
  obtain ⟨front, rest, split, least⟩ := exists_leftmost present
  subst split
  rw [replaceChars_leftmost filled least, List.append_assoc, List.append_assoc] at same
  exact (List.append_inj_left (List.append_cancel_left same) length.symm).symm

/-- The last occurrence that is replaced: none lies behind it. -/
theorem exists_last (filled : needle ≠ []) {text : List Char} (present : needle <:+: text) :
    ∃ front before rest, text = front ++ needle ++ rest ∧ ¬needle <:+: rest ∧
      replaceChars needle value 0 text = before ++ value ++ rest := by
  induction text using replaceChars_induction filled with
  | absent text lacks => exact absurd present lacks
  | present front rest least ih =>
      rw [replaceChars_leftmost filled least]
      by_cases more : needle <:+: rest
      · obtain ⟨front', before, last, split, lacks, replaced⟩ := ih more
        refine ⟨front ++ needle ++ front', front ++ value ++ before, last, ?_, lacks, ?_⟩
        · rw [split]
          simp
        · rw [replaced]
          simp
      · exact ⟨front, front, rest, rfl, more, by rw [replaceChars_of_lacking more]⟩

/-- What does not hold the first character of a needle that leads its value was there before. -/
theorem prefix_of_replaceChars {lead : Char} {leads suffix front text : List Char}
    (found : front <+: replaceChars (lead :: leads) (lead :: (leads ++ suffix)) 0 text)
    (other : lead ∉ front) : front <+: text := by
  induction front generalizing text with
  | nil => exact List.nil_prefix
  | cons c front ih =>
      cases text with
      | nil => exact absurd (List.prefix_nil.mp found) (List.cons_ne_nil _ _)
      | cons d text =>
          rw [replaceChars_cons] at found
          split at found
          · have same := (List.cons_prefix_cons.mp found).1
            exact absurd (same ▸ List.mem_cons_self) other
          · obtain ⟨same, found⟩ := List.cons_prefix_cons.mp found
            exact List.cons_prefix_cons.mpr
              ⟨same, ih found fun member => other (List.mem_cons_of_mem _ member)⟩

theorem replaceChars_unmatched {c : Char} {rest : List Char} (unmatched : ¬needle <+: c :: rest) :
    replaceChars needle value 0 (c :: rest) = c :: replaceChars needle value 0 rest := by
  rw [replaceChars_cons, if_neg (fun found => unmatched (List.isPrefixOf_iff_prefix.mp found))]

theorem replaceChars_ne_unmatched {lead c : Char} {leads suffix rest after : List Char}
    (once : lead ∉ leads) (unmatched : ¬(lead :: leads) <+: c :: rest) :
    lead :: (leads ++ suffix) ++ after ≠
      c :: replaceChars (lead :: leads) (lead :: (leads ++ suffix)) 0 rest := by
  intro same
  have heads := (List.cons.inj same).1
  have tails := (List.cons.inj same).2
  have found : leads <+: replaceChars (lead :: leads) (lead :: (leads ++ suffix)) 0 rest := by
    rw [← tails]
    exact ⟨suffix ++ after, by simp⟩
  exact unmatched (List.cons_prefix_cons.mpr ⟨heads, prefix_of_replaceChars found once⟩)

/-- Text put behind a needle whose first character is not repeated in it tells where it was. -/
theorem replaceChars_injective {lead : Char} {leads suffix : List Char} (once : lead ∉ leads) :
    Function.Injective (replaceChars (lead :: leads) (lead :: (leads ++ suffix)) 0) := by
  have filled : lead :: leads ≠ [] := List.cons_ne_nil _ _
  intro left right same
  induction size : left.length using Nat.strong_induction_on generalizing left right with
  | _ length ih =>
      cases left with
      | nil =>
          cases right with
          | nil => rfl
          | cons d right =>
              by_cases found : lead :: leads <+: d :: right
              · obtain ⟨rest, split⟩ := found
                rw [← split, replaceChars_needle_append filled] at same
                cases same
              · rw [replaceChars_unmatched found] at same
                cases same
      | cons c left =>
          by_cases first : lead :: leads <+: c :: left
          · obtain ⟨rest, split⟩ := first
            rw [← split, replaceChars_needle_append filled] at same
            by_cases second : lead :: leads <+: right
            · obtain ⟨rest', split'⟩ := second
              rw [← split', replaceChars_needle_append filled] at same
              have shorter : rest.length < length := by
                rw [← size, ← split]
                simp only [List.cons_append, List.length_cons, List.length_append]
                omega
              rw [← split, ← split', ih rest.length shorter (List.append_cancel_left same) rfl]
            · cases right with
              | nil => cases same
              | cons d right =>
                  rw [replaceChars_unmatched second] at same
                  exact absurd same (replaceChars_ne_unmatched once second)
          · rw [replaceChars_unmatched first] at same
            by_cases second : lead :: leads <+: right
            · obtain ⟨rest', split'⟩ := second
              rw [← split', replaceChars_needle_append filled] at same
              exact absurd same.symm (replaceChars_ne_unmatched once first)
            · cases right with
              | nil => cases same
              | cons d right =>
                  rw [replaceChars_unmatched second] at same
                  obtain ⟨heads, tails⟩ := List.cons.inj same
                  rw [heads, ih left.length (by rw [← size]; simp) tails rfl]

end Replace

end Text
