import HarborGate.Lib.Replace
import HarborGate.Weixin.Inbox

/-!
What `redact_sensitive_text` leaves of a token when the account id is replaced before it: the account
id can take the token apart.
-/

namespace HarborGate

namespace Weixin

open Text

/-! ## The marker -/

def redactionMarker : List Char := "[REDACTED]".toList

theorem redactionMarker_ne_nil : redactionMarker ≠ [] := by decide

/-- Two markers in one text do not overlap. -/
theorem redactionMarker_apart {front rest : List Char} (back : List Char) (later : front ≠ [])
    (same : redactionMarker ++ rest = front ++ redactionMarker ++ back) :
    redactionMarker.length ≤ front.length := by
  by_contra short
  have begins : redactionMarker[0]? = some '[' := rfl
  have alone : ∀ index < redactionMarker.length, 0 < index →
      redactionMarker[index]? ≠ some '[' := by decide
  refine alone front.length (Nat.lt_of_not_le short) (List.length_pos_of_ne_nil later) ?_
  have here : (redactionMarker ++ rest)[front.length]? = redactionMarker[front.length]? :=
    List.getElem?_append_left (Nat.lt_of_not_le short)
  rw [← here, same, List.append_assoc, List.getElem?_append_right (Nat.le_refl _), Nat.sub_self]
  exact begins

section Overlap

variable {account token before after : List Char}

/-- The account id occurs nowhere but inside the token. -/
def AccountInside (account token before after : List Char) : Prop :=
  ∀ front back, before ++ token ++ after = front ++ account ++ back →
    before.length ≤ front.length ∧ after.length ≤ back.length

/-- A token that is found again must not begin in front of where it was. -/
theorem not_found_before {lead rest changed front tail last : List Char}
    (inside : AccountInside account token before after)
    (split : token = lead ++ account ++ rest) (quiet : ¬account <:+: lead)
    (short : account.length ≤ redactionMarker.length)
    (found : before ++ (lead ++ redactionMarker ++ changed) ++ after = front ++ token ++ tail)
    (hidden : before ++ redactionMarker ++ after = front ++ redactionMarker ++ last) :
    before.length ≤ front.length := by
  by_contra less
  obtain ⟨gap, rfl⟩ : front <+: before :=
    List.prefix_of_prefix_length_le ⟨redactionMarker ++ last, by rw [← List.append_assoc, ← hidden]⟩
      ⟨redactionMarker ++ after, by rw [List.append_assoc]⟩ (by omega)
  have apart : redactionMarker.length ≤ gap.length := by
    have markers : redactionMarker ++ last = gap ++ redactionMarker ++ after := by
      refine (List.append_right_inj front).mp ?_
      rw [← List.append_assoc, ← hidden]
      simp
    refine redactionMarker_apart after ?_ markers
    rintro rfl
    simp at less
  -- Both begin where the token is found: the token, and the gap with what precedes the account id.
  obtain ⟨more, shifted⟩ : lead ++ account <+: gap ++ lead := by
    have whole : lead ++ account <+: token ++ tail := ⟨rest ++ tail, by rw [split]; simp⟩
    refine List.prefix_of_prefix_length_le whole ⟨redactionMarker ++ changed ++ after, ?_⟩
      (by simp only [List.length_append]; omega)
    refine (List.append_right_inj front).mp ?_
    rw [← List.append_assoc front token, ← found]
    simp
  have earlier := inside (front ++ lead) (more ++ account ++ rest ++ after) (by
    rw [split]
    simp only [← List.append_assoc]
    rw [List.append_assoc front gap lead, ← shifted]
    simp only [List.append_assoc])
  obtain ⟨middle, rfl⟩ : gap <+: lead := by
    refine List.prefix_of_prefix_length_le ⟨lead, rfl⟩ ⟨account ++ more, ?_⟩ ?_
    · rw [← List.append_assoc, shifted]
    · have begins := earlier.1
      simp only [List.length_append] at begins
      omega
  refine quiet ⟨middle, more, (List.append_right_inj gap).mp ?_⟩
  simpa only [List.append_assoc] using shifted

/-- A token that is found again must not end behind where it was. -/
theorem not_found_behind {lead changed rest front tail first : List Char}
    (inside : AccountInside account token before after)
    (split : token = lead ++ account ++ rest) (quiet : ¬account <:+: rest)
    (short : account.length ≤ redactionMarker.length)
    (found : before ++ (changed ++ redactionMarker ++ rest) ++ after = front ++ token ++ tail)
    (hidden : before ++ redactionMarker ++ after = first ++ redactionMarker ++ tail) :
    after.length ≤ tail.length := by
  by_contra less
  obtain ⟨gap, rfl⟩ : tail <:+ after :=
    List.suffix_of_suffix_length_le ⟨first ++ redactionMarker, hidden.symm⟩
      ⟨before ++ redactionMarker, rfl⟩ (by omega)
  have markers : before ++ redactionMarker ++ gap = first ++ redactionMarker := by
    refine (List.append_left_inj tail).mp ?_
    rw [← hidden]
    simp
  have sizes := congrArg List.length markers
  simp only [List.length_append] at sizes less
  obtain ⟨step, rfl⟩ : before <+: first :=
    List.prefix_of_prefix_length_le ⟨redactionMarker ++ gap, by rw [← List.append_assoc]⟩
      ⟨redactionMarker, markers.symm⟩ (by omega)
  simp only [List.length_append] at sizes
  have apart : redactionMarker.length ≤ gap.length := by
    have steps : redactionMarker ++ gap = step ++ redactionMarker ++ [] := by
      refine (List.append_right_inj before).mp ?_
      rw [← List.append_assoc, markers]
      simp
    have moved : step ≠ [] := by
      intro empty
      rw [empty, List.length_nil] at sizes
      omega
    have far := redactionMarker_apart [] moved steps
    omega
  -- Both end where the token is found: the token, and what follows the account id with the gap.
  obtain ⟨more, shifted⟩ : account ++ rest <:+ rest ++ gap := by
    have whole : account ++ rest <:+ front ++ token := ⟨front ++ lead, by rw [split]; simp⟩
    refine List.suffix_of_suffix_length_le whole ⟨before ++ changed ++ redactionMarker, ?_⟩
      (by simp only [List.length_append]; omega)
    refine (List.append_left_inj tail).mp ?_
    rw [← found]
    simp
  have later := inside (before ++ lead ++ account ++ more) (rest ++ tail) (by
    rw [split]
    simp only [List.append_assoc]
    rw [← List.append_assoc rest gap tail, ← shifted]
    simp only [List.append_assoc])
  obtain ⟨middle, rfl⟩ : gap <:+ rest := by
    refine List.suffix_of_suffix_length_le ⟨rest, rfl⟩ ⟨more ++ account, ?_⟩ ?_
    · rw [List.append_assoc, shifted]
    · have ends := later.2
      simp only [List.length_append] at ends
      omega
  refine quiet ⟨more, middle, (List.append_left_inj gap).mp ?_⟩
  simpa only [List.append_assoc] using shifted

/-- A text of which the account id is a part only as a part of the token. -/
theorem account_in_token (inside : AccountInside account token before after)
    (present : account <:+: before ++ token ++ after) : account <:+: token := by
  obtain ⟨front, back, split⟩ := present
  have bounds := inside front back split.symm
  obtain ⟨middle, -, within⟩ := split_before split.symm bounds.2
  obtain ⟨first, -, found⟩ := split_behind within bounds.1
  exact ⟨first, middle, found.symm⟩

def TokenOnce (token before after : List Char) : Prop :=
  ∀ front back, before ++ token ++ after = front ++ token ++ back → front = before

theorem TokenOnce.bounds (once : TokenOnce token before after) :
    ∀ front back, before ++ token ++ after = front ++ token ++ back →
      before.length ≤ front.length ∧ after.length ≤ back.length := by
  intro front back split
  obtain rfl := once front back split
  rw [List.append_assoc, List.append_assoc] at split
  have tails := List.append_cancel_left (List.append_cancel_left split)
  rw [tails]
  exact ⟨Nat.le_refl _, Nat.le_refl _⟩

/-- The text without its token. -/
def marked (before after : List Char) : List Char :=
  before ++ redactionMarker ++ after

/-- The account id, then the token. -/
def redactBoth (account token text : List Char) : List Char :=
  replaceChars token redactionMarker 0 (replaceChars account redactionMarker 0 text)

theorem replace_token (filled : token ≠ []) (once : TokenOnce token before after) :
    replaceChars token redactionMarker 0 (before ++ token ++ after) = marked before after := by
  rw [replaceChars_between filled once.bounds, replaceChars_needle filled, marked]

theorem redactBoth_of_apart (tokenFilled : token ≠ [])
    (once : TokenOnce token before after) (inside : AccountInside account token before after)
    (apart : ¬account <:+: token) :
    redactBoth account token (before ++ token ++ after) = marked before after := by
  rw [redactBoth, replaceChars_of_lacking fun present => apart (account_in_token inside present),
    replace_token tokenFilled once]

/-- An account id longer than the marker makes the text shorter than it should be, once the token is
still found. -/
theorem redactBoth_shorter (accountFilled : account ≠ []) (tokenFilled : token ≠ [])
    (part : account <:+: token) (long : redactionMarker.length < account.length)
    (found : token <:+: replaceChars account redactionMarker 0 (before ++ token ++ after)) :
    (redactBoth account token (before ++ token ++ after)).length < (marked before after).length := by
  have present : account <:+: before ++ token ++ after := part.trans ⟨before, after, rfl⟩
  obtain ⟨count, positive, sizes⟩ := @length_replaceChars account redactionMarker accountFilled
    (before ++ token ++ after)
  obtain ⟨again, positive', sizes'⟩ := @length_replaceChars token redactionMarker tokenFilled
    (replaceChars account redactionMarker 0 (before ++ token ++ after))
  obtain ⟨others, rfl⟩ := Nat.exists_eq_add_of_lt (positive' found)
  have shrinks : count * redactionMarker.length < count * account.length :=
    Nat.mul_lt_mul_of_pos_left long (positive present)
  have longer : redactionMarker.length ≤ token.length := by
    have bound := part.length_le
    omega
  have keeps : others * redactionMarker.length ≤ others * token.length :=
    Nat.mul_le_mul_left others longer
  rw [← redactBoth] at sizes'
  simp only [marked, List.length_append, Nat.zero_add, Nat.succ_mul] at sizes sizes' ⊢
  omega

theorem redactBoth_split (accountFilled : account ≠ [])
    (inside : AccountInside account token before after) :
    replaceChars account redactionMarker 0 (before ++ token ++ after) =
      before ++ replaceChars account redactionMarker 0 token ++ after :=
  replaceChars_between accountFilled inside

/-- Without the token in it, the changed text shows what is left of the token. -/
theorem redactBoth_ne_of_lost (accountFilled : account ≠ [])
    (inside : AccountInside account token before after) (part : account <:+: token)
    (notToken : account ≠ token)
    (lost : ¬token <:+: replaceChars account redactionMarker 0 (before ++ token ++ after)) :
    redactBoth account token (before ++ token ++ after) ≠ marked before after := by
  intro hidden
  obtain ⟨lead, rest, split, least⟩ := exists_leftmost part
  rw [redactBoth, replaceChars_of_lacking lost, redactBoth_split accountFilled inside, marked,
    List.append_assoc, List.append_assoc] at hidden
  have bare := List.append_cancel_right (List.append_cancel_left hidden)
  rw [split, replaceChars_leftmost accountFilled (split ▸ least)] at bare
  have sizes := congrArg List.length bare
  simp only [List.length_append] at sizes
  have noRest : rest = [] := eq_nil_of_replaceChars_eq_nil accountFilled redactionMarker_ne_nil
    (List.eq_nil_of_length_eq_zero (by omega))
  have noLead : lead = [] := List.eq_nil_of_length_eq_zero (by omega)
  refine notToken ?_
  rw [split, noRest, noLead, List.nil_append, List.append_nil]

/-- The token in the changed text is where it was, so that the account id was not changed at all. -/
theorem redactBoth_ne_of_found (accountFilled : account ≠ []) (tokenFilled : token ≠ [])
    (inside : AccountInside account token before after) (part : account <:+: token)
    (notMarker : account ≠ redactionMarker) (short : account.length ≤ redactionMarker.length)
    (found : token <:+: replaceChars account redactionMarker 0 (before ++ token ++ after)) :
    redactBoth account token (before ++ token ++ after) ≠ marked before after := by
  intro hidden
  have whole := redactBoth_split accountFilled inside
  obtain ⟨lead, rest, split, least⟩ := exists_leftmost part
  have replaced : replaceChars account redactionMarker 0 token =
      lead ++ redactionMarker ++ replaceChars account redactionMarker 0 rest := by
    rw [split, replaceChars_leftmost accountFilled (split ▸ least)]
  have quiet := not_infix_of_leftmost accountFilled (split ▸ least)
  obtain ⟨_, changed, rest', split', quiet', replaced'⟩ :
      ∃ lead' changed rest', token = lead' ++ account ++ rest' ∧ ¬account <:+: rest' ∧
        replaceChars account redactionMarker 0 token = changed ++ redactionMarker ++ rest' :=
    exists_last accountFilled part
  obtain ⟨front, tail, first, firstLeast⟩ := exists_leftmost found
  have outcome : marked before after =
      front ++ redactionMarker ++ replaceChars token redactionMarker 0 tail := by
    rw [← hidden, redactBoth, first, replaceChars_leftmost tokenFilled (first ▸ firstLeast)]
  have starts := not_found_before inside split quiet short (by rw [← replaced, ← whole, first])
    outcome
  by_cases more : token <:+: tail
  · -- Two occurrences leave two markers between `before` and `after`.
    obtain ⟨front', changed', tail', splitTail, -, replacedTail⟩ :
        ∃ front' changed' tail', tail = front' ++ token ++ tail' ∧ ¬token <:+: tail' ∧
          replaceChars token redactionMarker 0 tail = changed' ++ redactionMarker ++ tail' :=
      exists_last tokenFilled more
    have foundLast : before ++ (changed ++ redactionMarker ++ rest') ++ after =
        front ++ token ++ front' ++ token ++ tail' := by
      rw [← replaced', ← whole, first, splitTail]
      simp
    have markedLast : before ++ redactionMarker ++ after =
        front ++ redactionMarker ++ changed' ++ redactionMarker ++ tail' := by
      rw [← marked, outcome, replacedTail]
      simp
    have ends := not_found_behind inside split' quiet' short foundLast markedLast
    have sizes := congrArg List.length markedLast
    have positive : 0 < redactionMarker.length := by decide
    simp only [List.length_append] at sizes
    omega
  · rw [replaceChars_of_lacking more] at outcome
    have ends := not_found_behind inside split' quiet' short (by rw [← replaced', ← whole, first])
      outcome
    have sizes := congrArg List.length outcome
    simp only [marked, List.length_append] at sizes
    rw [marked, List.append_assoc, List.append_assoc] at outcome
    obtain ⟨fronts, backs⟩ := List.append_inj outcome (by omega)
    have tails := List.append_cancel_left backs
    rw [first, ← fronts, ← tails, List.append_assoc, List.append_assoc] at whole
    have kept := List.append_cancel_right (List.append_cancel_left whole)
    exact notMarker (eq_of_replaceChars_eq_self accountFilled kept.symm part)

/-- An account id inside the token, other than it and the marker, breaks the token up. -/
theorem redactBoth_ne (accountFilled : account ≠ []) (tokenFilled : token ≠ [])
    (inside : AccountInside account token before after) (part : account <:+: token)
    (notMarker : account ≠ redactionMarker) (notToken : account ≠ token) :
    redactBoth account token (before ++ token ++ after) ≠ marked before after := by
  by_cases found : token <:+: replaceChars account redactionMarker 0 (before ++ token ++ after)
  · by_cases short : account.length ≤ redactionMarker.length
    · exact redactBoth_ne_of_found accountFilled tokenFilled inside part notMarker short found
    · intro hidden
      have less := redactBoth_shorter accountFilled tokenFilled part (Nat.lt_of_not_le short) found
      rw [hidden] at less
      exact Nat.lt_irrefl _ less
  · exact redactBoth_ne_of_lost accountFilled inside part notToken found

/-- When the order of the replacements does no harm. -/
def HarmlessAccount (account token before after : List Char) : Prop :=
  ¬account <:+: token ∨ account = redactionMarker ∨
    (account = token ∧ ¬token <:+: marked before after)

theorem redactBoth_iff (accountFilled : account ≠ []) (tokenFilled : token ≠ [])
    (once : TokenOnce token before after) (inside : AccountInside account token before after) :
    redactBoth account token (before ++ token ++ after) = marked before after ↔
      HarmlessAccount account token before after := by
  by_cases part : account <:+: token
  · by_cases same : account = redactionMarker
    · refine iff_of_true ?_ (.inr (.inl same))
      rw [redactBoth, same, replaceChars_self redactionMarker_ne_nil, replace_token tokenFilled once]
    · by_cases equal : account = token
      · have twice : redactBoth account token (before ++ token ++ after) =
            replaceChars token redactionMarker 0 (marked before after) := by
          rw [redactBoth, equal, replace_token tokenFilled once]
        rw [twice]
        constructor
        · intro hidden
          refine .inr (.inr ⟨equal, fun present => same ?_⟩)
          rw [equal]
          exact eq_of_replaceChars_eq_self tokenFilled hidden present
        · rintro (apart | marker | ⟨-, absent⟩)
          · exact absurd part apart
          · exact absurd marker same
          · exact replaceChars_of_lacking absent
      · refine iff_of_false (redactBoth_ne accountFilled tokenFilled inside part same equal) ?_
        rintro (apart | marker | ⟨other, -⟩)
        · exact apart part
        · exact same marker
        · exact equal other
  · exact iff_of_true (redactBoth_of_apart tokenFilled once inside part) (.inl part)

end Overlap

/-! ## Redacted texts -/

/-- The two secrets of an account in a text that holds the token once. -/
structure Embedded (accountId token before after : String) : Prop where
  accountTrimmed : Text.trim accountId = accountId
  accountFilled : accountId ≠ ""
  tokenTrimmed : Text.trim token = token
  tokenFilled : token ≠ ""
  once : TokenOnce token.toList before.toList after.toList
  inside : AccountInside accountId.toList token.toList before.toList after.toList

theorem not_blank_of_trimmed {secret : String} (trimmed : Text.trim secret = secret)
    (filled : secret ≠ "") : Text.isBlank secret = false := by
  cases blank : Text.isBlank secret with
  | false => rfl
  | true =>
      have empty := Text.isBlank_trim (trimmed.symm ▸ blank)
      exact absurd (trimmed.symm.trans empty) filled

theorem toList_ne_nil {text : String} (filled : text ≠ "") : text.toList ≠ [] :=
  fun empty => filled (String.toList_injective empty)

/-- What `redact_sensitive_text` does last. -/
def hideBearers (text : String) : String :=
  Text.replace text "Bearer " "Bearer [REDACTED] "

theorem hideBearers_injective : Function.Injective hideBearers := by
  intro left right same
  have lists := congrArg String.toList same
  simp only [hideBearers, Text.replace, String.toList_ofList] at lists
  have once : 'B' ∉ "earer ".toList := by decide
  have injective : Function.Injective
      (replaceChars ('B' :: "earer ".toList) ('B' :: ("earer ".toList ++ "[REDACTED] ".toList)) 0) :=
    replaceChars_injective once
  exact String.toList_injective (injective lists)

theorem replace_replace (before text after first second marker : String) :
    Text.replace (Text.replace (before ++ text ++ after) first marker) second marker =
      String.ofList (replaceChars second.toList marker.toList 0
        (replaceChars first.toList marker.toList 0
          (before.toList ++ text.toList ++ after.toList))) := by
  rw [Text.replace, Text.replace, String.toList_ofList, String.toList_append, String.toList_append]

theorem redactSensitiveText_nil (text : String) : redactSensitiveText text [] = hideBearers text :=
  rfl

theorem ofList_between (before marker after : String) :
    String.ofList (before.toList ++ marker.toList ++ after.toList) = before ++ marker ++ after := by
  rw [← String.toList_append, ← String.toList_append, String.ofList_toList]

theorem redactSensitiveText_embedded {accountId token before after : String}
    (embedded : Embedded accountId token before after) :
    redactSensitiveText (before ++ token ++ after) [accountId, token] =
      hideBearers (String.ofList (redactBoth accountId.toList token.toList
        (before.toList ++ token.toList ++ after.toList))) := by
  have account := not_blank_of_trimmed embedded.accountTrimmed embedded.accountFilled
  have token_ := not_blank_of_trimmed embedded.tokenTrimmed embedded.tokenFilled
  have both : redactSensitiveText (before ++ token ++ after) [accountId, token] =
      hideBearers (Text.replace (Text.replace (before ++ token ++ after) accountId "[REDACTED]")
        token "[REDACTED]") := by
    simp only [redactSensitiveText, List.foldl_cons, List.foldl_nil, account, token_,
      Bool.false_eq_true, if_false, embedded.accountTrimmed, embedded.tokenTrimmed, hideBearers]
  rw [both]
  exact congrArg hideBearers (replace_replace before token after accountId token "[REDACTED]")

/-- The token is hidden as it would be alone, exactly when the account id before it is harmless. -/
theorem token_is_hidden_iff {accountId token before after : String}
    (embedded : Embedded accountId token before after) :
    redactSensitiveText (before ++ token ++ after) [accountId, token] =
        redactSensitiveText (before ++ "[REDACTED]" ++ after) [] ↔
      HarmlessAccount accountId.toList token.toList before.toList after.toList := by
  have alone : redactSensitiveText (before ++ "[REDACTED]" ++ after) [] =
      hideBearers (String.ofList (marked before.toList after.toList)) := by
    rw [redactSensitiveText_nil]
    exact congrArg hideBearers (ofList_between before "[REDACTED]" after).symm
  rw [redactSensitiveText_embedded embedded, alone, hideBearers_injective.eq_iff,
    ← redactBoth_iff (toList_ne_nil embedded.accountFilled) (toList_ne_nil embedded.tokenFilled)
      embedded.once embedded.inside]
  exact ⟨fun same => String.ofList_injective same, congrArg String.ofList⟩

/-- A text that is the token. -/
theorem embedded_alone {accountId token : String} (accountTrimmed : Text.trim accountId = accountId)
    (accountFilled : accountId ≠ "") (tokenTrimmed : Text.trim token = token)
    (tokenFilled : token ≠ "") : Embedded accountId token "" "" where
  accountTrimmed := accountTrimmed
  accountFilled := accountFilled
  tokenTrimmed := tokenTrimmed
  tokenFilled := tokenFilled
  once front back split := by
    have sizes := congrArg List.length split
    simp only [List.length_append, String.toList_empty, List.length_nil] at sizes
    exact List.eq_nil_of_length_eq_zero (by omega)
  inside front back _ := ⟨Nat.zero_le _, Nat.zero_le _⟩

theorem foreign_account_is_harmless :
    redactSensitiveText ("" ++ "acd" ++ "") ["b", "acd"] =
      redactSensitiveText ("" ++ "[REDACTED]" ++ "") [] :=
  (token_is_hidden_iff (embedded_alone (by decide) (by decide) (by decide) (by decide))).mpr
    (.inl (by decide))

/-- An account id of one letter leaves the rest of the token. -/
theorem account_takes_token_apart :
    Embedded "b" "abc" "" "" ∧
      redactSensitiveText ("" ++ "abc" ++ "") ["b", "abc"] = "a[REDACTED]c" ∧
      redactSensitiveText ("" ++ "abc" ++ "") ["b", "abc"] ≠
        redactSensitiveText ("" ++ "[REDACTED]" ++ "") [] := by
  refine ⟨embedded_alone (by decide) (by decide) (by decide) (by decide), ?_, ?_⟩
  · decide
  · decide

end Weixin

end HarborGate
