import Mathlib.Data.List.Nodup
import HarborGate.Lib.Printing
import HarborGate.Models

/-!
`canonical_json` of `harborbeacon.rs`, printed the way `serde_json` prints strings, numbers and
literals, and `fingerprint` of `gateway.rs`.
-/

namespace HarborGate

/-! ## What serde_json prints -/

def backslash : Char := Char.ofNat 0x5C

def quotationMark : Char := Char.ofNat 0x22

def lowerHexDigit (value : Nat) : Char :=
  if value < 10 then Char.ofNat (0x30 + value) else Char.ofNat (0x57 + value)

/-- The escape of a character that needs one. -/
def escapeOf (code : Nat) : List Char :=
  if code = 0x22 then [backslash, quotationMark]
  else if code = 0x5C then [backslash, backslash]
  else if code = 0x08 then [backslash, 'b']
  else if code = 0x09 then [backslash, 't']
  else if code = 0x0A then [backslash, 'n']
  else if code = 0x0C then [backslash, 'f']
  else if code = 0x0D then [backslash, 'r']
  else [backslash, 'u', '0', '0', lowerHexDigit (code / 16), lowerHexDigit (code % 16)]

def needsEscape (code : Nat) : Bool :=
  code = 0x22 || code = 0x5C || code < 0x20

def escapeChar (c : Char) : List Char :=
  if needsEscape c.toNat then escapeOf c.toNat else [c]

def printString (text : String) : String :=
  String.ofList (quotationMark :: text.toList.flatMap escapeChar ++ [quotationMark])

/-- `serde_json::to_string` of a value that is neither an array nor an object. -/
def printScalar : Json → String
  | .null => "null"
  | .bool true => "true"
  | .bool false => "false"
  | .num value => toString value
  | .float text => text
  | .str text => printString text
  | .arr _ | .obj _ => ""

/-! ## canonical_json -/

def sortEntries (fields : JsonMap) : JsonMap :=
  fields.mergeSort fun left right => left.1 ≤ right.1

theorem mem_sortEntries {fields : JsonMap} {entry : String × Json} :
    entry ∈ sortEntries fields ↔ entry ∈ fields :=
  List.mem_mergeSort

def canonicalJson (payload : Json) : String :=
  match payload with
  | .obj fields =>
      "\x7b" ++ ",".intercalate ((sortEntries fields).attach.map fun entry =>
        printString entry.1.1 ++ ":" ++ canonicalJson entry.1.2) ++ "\x7d"
  | .arr items => "[" ++ ",".intercalate (items.map canonicalJson) ++ "]"
  | scalar => printScalar scalar
termination_by payload
decreasing_by
  · obtain ⟨⟨key, value⟩, member⟩ := entry
    have smaller := List.sizeOf_lt_of_mem (mem_sortEntries.mp member)
    simp only [Prod.mk.sizeOf_spec, Json.obj.sizeOf_spec] at smaller ⊢
    omega
  · rename_i member
    have smaller := List.sizeOf_lt_of_mem member
    simp only [Json.arr.sizeOf_spec]
    omega

def printEntry (entry : String × Json) : String :=
  printString entry.1 ++ ":" ++ canonicalJson entry.2

theorem canonicalJson_obj (fields : JsonMap) : canonicalJson (.obj fields) =
    "\x7b" ++ ",".intercalate ((sortEntries fields).map printEntry) ++ "\x7d" := by
  have entries : ((sortEntries fields).attach.map fun entry =>
      printString entry.1.1 ++ ":" ++ canonicalJson entry.1.2) =
      (sortEntries fields).map printEntry := by
    have each := List.attach_map_val (l := sortEntries fields) (f := printEntry)
    exact each
  rw [canonicalJson, entries]

theorem canonicalJson_arr (items : List Json) :
    canonicalJson (.arr items) = "[" ++ ",".intercalate (items.map canonicalJson) ++ "]" := by
  rw [canonicalJson]

def isScalar : Json → Bool
  | .arr _ | .obj _ => false
  | _ => true

theorem canonicalJson_scalar {value : Json} (scalar : isScalar value = true) :
    canonicalJson value = printScalar value := by
  cases value with
  | arr items => simp [isScalar] at scalar
  | obj fields => simp [isScalar] at scalar
  | _ => simp [canonicalJson]

def fingerprint (sha256 : String → String) (payload : Json) : String :=
  sha256 (canonicalJson payload)

/-! ## JSON values -/

/-- A number that is no integer shows a fraction or an exponent. -/
def isNumberChar (c : Char) : Bool :=
  c.isDigit || c = '+' || c = '-' || c = '.' || c = 'e' || c = 'E'

def isFloatText (text : String) : Bool :=
  text.toList.all isNumberChar && text.toList.any fun c => c = '.' || c = 'e' || c = 'E'

/-- A value of `serde_json`: the keys of a map differ, and a float is printed as one. -/
inductive WellFormed : Json → Prop
  | null : WellFormed .null
  | bool (value : Bool) : WellFormed (.bool value)
  | num (value : Int) : WellFormed (.num value)
  | float {text : String} (printed : isFloatText text = true) : WellFormed (.float text)
  | str (value : String) : WellFormed (.str value)
  | arr {items : List Json} (all : ∀ item ∈ items, WellFormed item) : WellFormed (.arr items)
  | obj {fields : JsonMap} (distinct : (fields.map Prod.fst).Nodup)
      (all : ∀ field ∈ fields, WellFormed field.2) : WellFormed (.obj fields)

/-- Equal up to the order of object keys, anywhere in the value. -/
inductive Reordered : Json → Json → Prop
  | refl (value : Json) : Reordered value value
  | symm {left right : Json} : Reordered left right → Reordered right left
  | trans {left middle right : Json} : Reordered left middle → Reordered middle right →
      Reordered left right
  | keys {left right : JsonMap} (order : left.Perm right) : Reordered (.obj left) (.obj right)
  | item {left right : Json} (before after : List Json) : Reordered left right →
      Reordered (.arr (before ++ left :: after)) (.arr (before ++ right :: after))
  | value {left right : Json} (before after : JsonMap) (key : String) : Reordered left right →
      Reordered (.obj (before ++ (key, left) :: after)) (.obj (before ++ (key, right) :: after))

/-! ## The order of keys does not show -/

theorem wellFormed_arr {items : List Json} :
    WellFormed (.arr items) ↔ ∀ item ∈ items, WellFormed item := by
  constructor
  · rintro (_ | _ | _ | _ | _ | all)
    exact all
  · exact .arr

theorem wellFormed_obj {fields : JsonMap} : WellFormed (.obj fields) ↔
    (fields.map Prod.fst).Nodup ∧ ∀ field ∈ fields, WellFormed field.2 := by
  constructor
  · intro formed
    cases formed with
    | obj distinct all => exact ⟨distinct, all⟩
  · exact fun formed => .obj formed.1 formed.2

theorem Reordered.wellFormed {left right : Json} (reordered : Reordered left right) :
    WellFormed left ↔ WellFormed right := by
  induction reordered with
  | refl value => exact Iff.rfl
  | symm _ ih => exact ih.symm
  | trans _ _ first second => exact first.trans second
  | keys order =>
      rw [wellFormed_obj, wellFormed_obj, (order.map Prod.fst).nodup_iff]
      exact and_congr_right fun _ => forall_congr' fun field => by rw [order.mem_iff]
  | item before after _ ih =>
      simp only [wellFormed_arr, List.mem_append, List.mem_cons, or_imp, forall_and, forall_eq, ih]
  | value before after key _ ih =>
      simp only [wellFormed_obj, List.map_append, List.map_cons, List.mem_append, List.mem_cons,
        or_imp, forall_and, forall_eq, ih]

theorem sortEntries_perm {left right : JsonMap} (order : left.Perm right)
    (distinct : (left.map Prod.fst).Nodup) : sortEntries left = sortEntries right := by
  have sorted (fields : JsonMap) : (sortEntries fields).Pairwise fun first second =>
      decide (first.1 ≤ second.1) = true := by
    apply List.pairwise_mergeSort
    · intro first second third le le'
      simp only [decide_eq_true_eq] at le le' ⊢
      exact String.le_trans le le'
    · intro first second
      simpa using String.le_total first.1 second.1
  have perm : (sortEntries left).Perm (sortEntries right) :=
    (List.mergeSort_perm _ _).trans (order.trans (List.mergeSort_perm _ _).symm)
  refine perm.eq_of_pairwise ?_ (sorted left) (sorted right)
  intro first second member member' le le'
  simp only [decide_eq_true_eq] at le le'
  refine List.inj_on_of_nodup_map distinct (mem_sortEntries.mp member) ?_
    (String.le_antisymm le le')
  exact order.mem_iff.mpr (mem_sortEntries.mp member')

/-- Entries are sorted by their keys, whatever becomes of their values. -/
theorem sortEntries_map {α : Type} {fields : JsonMap} (change : String × Json → α) :
    (sortEntries fields).map change =
      ((fields.map fun entry => (entry.1, change entry)).mergeSort fun left right =>
        left.1 ≤ right.1).map Prod.snd := by
  have commutes : (sortEntries fields).map (fun entry => (entry.1, change entry)) =
      (fields.map fun entry => (entry.1, change entry)).mergeSort fun left right =>
        left.1 ≤ right.1 := List.map_mergeSort fun _ _ _ _ => rfl
  rw [← commutes, List.map_map]
  rfl

theorem Reordered.canonical {left right : Json} (reordered : Reordered left right)
    (formed : WellFormed left) : canonicalJson left = canonicalJson right := by
  induction reordered with
  | refl value => rfl
  | symm reordered ih => exact (ih (reordered.wellFormed.mpr formed)).symm
  | trans first _ ih ih' => exact (ih formed).trans (ih' (first.wellFormed.mp formed))
  | keys order =>
      cases formed with
      | obj distinct _ => rw [canonicalJson_obj, canonicalJson_obj, sortEntries_perm order distinct]
  | item before after _ ih =>
      cases formed with
      | arr all =>
          have same := ih (all _ (by simp))
          rw [canonicalJson_arr, canonicalJson_arr]
          simp [same]
  | value before after key _ ih =>
      cases formed with
      | obj _ all =>
          have same := ih (all _ (List.mem_append_right before List.mem_cons_self))
          rw [canonicalJson_obj, canonicalJson_obj, sortEntries_map, sortEntries_map]
          simp [printEntry, same]

/-! ## Reading the scalars back -/

theorem escape_begins (code : Nat) : ∃ tail, escapeOf code = backslash :: tail := by
  simp only [escapeOf]
  repeat' split
  all_goals exact ⟨_, rfl⟩

theorem needsEscape_small {code : Nat} (escaped : needsEscape code = true) : code < 0x5D := by
  simp only [needsEscape, Bool.or_eq_true, decide_eq_true_eq] at escaped
  omega

/-- No escape begins another one. -/
theorem escape_unique {code other : Nat} (escaped : needsEscape code = true)
    (escaped' : needsEscape other = true) (begins : escapeOf code <+: escapeOf other) :
    code = other := by
  have all : ∀ code : Fin 0x5D, needsEscape code.val = true → ∀ other : Fin 0x5D,
      needsEscape other.val = true → (escapeOf code.val).isPrefixOf (escapeOf other.val) = true →
      code = other := by
    set_option maxRecDepth 1000 in
    decide
  have same := all ⟨code, needsEscape_small escaped⟩ escaped
    ⟨other, needsEscape_small escaped'⟩ escaped'
    (List.isPrefixOf_iff_prefix.mpr begins)
  exact Fin.mk.inj same

theorem escapeChar_apart (c d : Char) (rest rest' : List Char)
    (same : escapeChar c ++ rest = escapeChar d ++ rest') : c = d ∧ rest = rest' := by
  have plain {c d : Char} {rest rest' : List Char} (isPlain : needsEscape c.toNat = false)
      (escaped : needsEscape d.toNat = true) (same : c :: rest = escapeOf d.toNat ++ rest') :
      False := by
    obtain ⟨tail, begins⟩ := escape_begins d.toNat
    rw [begins, List.cons_append, List.cons.injEq] at same
    rw [same.1] at isPlain
    exact absurd isPlain (by decide)
  simp only [escapeChar] at same
  split at same
  · rename_i escaped
    split at same
    · rename_i escaped'
      have nested : escapeOf c.toNat <+: escapeOf d.toNat ∨ escapeOf d.toNat <+: escapeOf c.toNat :=
        List.prefix_or_prefix_of_prefix (List.prefix_append _ rest)
          (same ▸ List.prefix_append _ rest')
      have code : c.toNat = d.toNat := by
        rcases nested with first | second
        · exact escape_unique escaped escaped' first
        · exact (escape_unique escaped' escaped second).symm
      rw [code] at same
      exact ⟨Char.ext (UInt32.toNat_inj.mp code), List.append_cancel_left same⟩
    · rename_i isPlain
      exact (plain (by simpa using isPlain) escaped same.symm).elim
  · rename_i isPlain
    split at same
    · rename_i escaped
      exact (plain (by simpa using isPlain) escaped same).elim
    · simpa using same

theorem escapeChar_opens (c : Char) :
    ∃ head tail, escapeChar c = head :: tail ∧ head ≠ quotationMark := by
  simp only [escapeChar]
  split
  · obtain ⟨tail, begins⟩ := escape_begins c.toNat
    exact ⟨backslash, tail, begins, by decide⟩
  · rename_i isPlain
    refine ⟨c, [], rfl, ?_⟩
    rintro rfl
    exact isPlain (by decide)

theorem printString_unique {text other : String} {rest rest' : List Char}
    (same : (printString text).toList ++ rest = (printString other).toList ++ rest') :
    text = other ∧ rest = rest' := by
  simp only [printString, String.toList_ofList, List.cons_append, List.append_assoc,
    List.nil_append, List.cons.injEq, true_and] at same
  obtain ⟨texts, rests⟩ := Printing.code_unique escapeChar_apart escapeChar_opens same
  exact ⟨String.toList_injective texts, rests⟩

/-! ## Bare scalars -/

def isStructural (c : Char) : Bool :=
  c = ',' || c = ':' || c = '[' || c = ']' || c = '\x7b' || c = '\x7d' || c = quotationMark

/-- What can follow a printed value. -/
def Ends (rest : List Char) : Prop :=
  ∀ c ∈ rest.head?, isStructural c = true

theorem ends_cons {c : Char} (structural : isStructural c = true) (rest : List Char) :
    Ends (c :: rest) := by
  intro other same
  obtain rfl := Option.some.inj same
  exact structural

theorem int_text (value : Int) : (toString value).toList =
    if 0 ≤ value then Nat.toDigits 10 value.toNat else '-' :: Nat.toDigits 10 (-value).toNat := by
  rw [Int.toString_eq_repr, Int.repr_eq_if]
  split
  · simp [Nat.repr_eq_ofList_toDigits]
  · simp [Nat.repr_eq_ofList_toDigits]

theorem digit_of_mem {c : Char} {value : Nat} (member : c ∈ Nat.toDigits 10 value) :
    c.isDigit = true :=
  Nat.isDigit_of_mem_toDigits (by decide) (by decide) member

theorem digits_injective {left right : Nat}
    (same : Nat.toDigits 10 left = Nat.toDigits 10 right) : left = right := by
  rw [← Nat.ofDigitChars_ten_toDigits (n := left), same, Nat.ofDigitChars_ten_toDigits]

theorem int_chars {value : Int} {c : Char} (member : c ∈ (toString value).toList) :
    c.isDigit = true ∨ c = '-' := by
  rw [int_text] at member
  split at member
  · exact .inl (digit_of_mem member)
  · rcases List.mem_cons.mp member with dash | later
    · exact .inr dash
    · exact .inl (digit_of_mem later)

theorem int_injective {left right : Int} (same : toString left = toString right) :
    left = right := by
  have chars := congrArg String.toList same
  have apart {value other : Nat} (mixed : Nat.toDigits 10 value = '-' :: Nat.toDigits 10 other) :
      False := by
    have digit : '-'.isDigit = true :=
      digit_of_mem (mixed ▸ List.mem_cons_self : '-' ∈ Nat.toDigits 10 value)
    exact absurd digit (by decide)
  rw [int_text, int_text] at chars
  split at chars
  · split at chars
    · have equal := digits_injective chars
      omega
    · exact (apart chars).elim
  · split at chars
    · exact (apart chars.symm).elim
    · have equal := digits_injective (List.cons.inj chars).2
      omega

def isNumber : Json → Bool
  | .num _ | .float _ => true
  | _ => false

theorem number_chars {value : Json} (formed : WellFormed value) (number : isNumber value = true) :
    ∀ c ∈ (printScalar value).toList, isNumberChar c = true := by
  cases formed with
  | num value =>
      intro c member
      rcases int_chars member with digit | rfl
      · simp [isNumberChar, digit]
      · decide
  | float printed =>
      have all := (Bool.and_eq_true_iff.mp printed).1
      exact List.all_eq_true.mp all
  | _ => simp [isNumber] at number

theorem number_nonempty {value : Json} (formed : WellFormed value)
    (number : isNumber value = true) : (printScalar value).toList ≠ [] := by
  cases formed with
  | num value =>
      simp only [printScalar, int_text]
      split
      · exact Nat.toDigits_ne_nil
      · exact List.cons_ne_nil _ _
  | float printed =>
      have some_ := (Bool.and_eq_true_iff.mp printed).2
      intro empty
      simp only [printScalar] at empty
      simp [empty] at some_
  | _ => simp [isNumber] at number

theorem not_structural {c : Char} (number : isNumberChar c = true) : isStructural c = false := by
  by_contra structural
  simp only [isStructural, Bool.not_eq_false, Bool.or_eq_true, decide_eq_true_eq] at structural
  rcases structural with (((((rfl | rfl) | rfl) | rfl) | rfl) | rfl) | rfl
  all_goals exact absurd number (by decide)

theorem literal_texts : ∀ value ∈ [Json.null, .bool true, .bool false],
    (printScalar value).toList ≠ [] ∧
      (printScalar value).toList.all (fun c => !isStructural c) = true ∧
      (printScalar value).toList.any (fun c => !isNumberChar c) = true := by
  decide

theorem literal_values {value : Json} (scalar : isScalar value = true) (bare : value.asStr = none)
    (literal : isNumber value = false) : value ∈ [Json.null, .bool true, .bool false] := by
  cases value with
  | null => simp
  | bool value => cases value <;> simp
  | str text => simp [Json.asStr] at bare
  | arr items => simp [isScalar] at scalar
  | obj fields => simp [isScalar] at scalar
  | _ => simp [isNumber] at literal

/-- A scalar that is no string has no structural character. -/
theorem bare_scalar {value : Json} (formed : WellFormed value) (scalar : isScalar value = true)
    (bare : value.asStr = none) :
    (printScalar value).toList ≠ [] ∧
      ∀ c ∈ (printScalar value).toList, isStructural c = false := by
  cases number : isNumber value with
  | true =>
      refine ⟨number_nonempty formed number, fun c member => ?_⟩
      exact not_structural (number_chars formed number c member)
  | false =>
      obtain ⟨nonempty, plain, -⟩ := literal_texts value (literal_values scalar bare number)
      refine ⟨nonempty, fun c member => ?_⟩
      simpa using List.all_eq_true.mp plain c member

theorem number_injective {left right : Json} (formed : WellFormed left)
    (formed' : WellFormed right) (number : isNumber left = true) (number' : isNumber right = true)
    (same : printScalar left = printScalar right) : left = right := by
  have mixed {value : Int} {text : String} (printed : isFloatText text = true)
      (same : toString value = text) : False := by
    obtain ⟨c, member, fraction⟩ := List.any_eq_true.mp (Bool.and_eq_true_iff.mp printed).2
    rw [← same] at member
    rcases int_chars member with digit | rfl
    · simp only [Bool.or_eq_true, decide_eq_true_eq] at fraction
      rcases fraction with (rfl | rfl) | rfl
      all_goals exact absurd digit (by decide)
    · exact absurd fraction (by decide)
  cases formed with
  | num value =>
      cases formed' with
      | num other => rw [int_injective same]
      | float printed => exact (mixed printed same).elim
      | _ => simp [isNumber] at number'
  | float printed =>
      cases formed' with
      | num other => exact (mixed printed same.symm).elim
      | float printed' => exact congrArg Json.float same
      | _ => simp [isNumber] at number'
  | _ => simp [isNumber] at number

/-- The literals, with a character that no number has. -/
theorem literal_letter {value : Json} (scalar : isScalar value = true) (bare : value.asStr = none)
    (literal : isNumber value = false) :
    ∃ c ∈ (printScalar value).toList, isNumberChar c = false := by
  obtain ⟨-, -, letter⟩ := literal_texts value (literal_values scalar bare literal)
  obtain ⟨c, member, isLetter⟩ := List.any_eq_true.mp letter
  exact ⟨c, member, by simpa using isLetter⟩

theorem literal_injective {left right : Json} (scalar : isScalar left = true)
    (scalar' : isScalar right = true) (bare : left.asStr = none) (bare' : right.asStr = none)
    (literal : isNumber left = false) (literal' : isNumber right = false)
    (same : printScalar left = printScalar right) : left = right := by
  have known := literal_values scalar bare literal
  have known' := literal_values scalar' bare' literal'
  simp only [List.mem_cons, List.not_mem_nil, or_false] at known known'
  rcases known with rfl | rfl | rfl
  all_goals
    rcases known' with rfl | rfl | rfl
    all_goals first
      | rfl
      | exact absurd same (by decide)

theorem printScalar_injective {left right : Json} (formed : WellFormed left)
    (formed' : WellFormed right) (scalar : isScalar left = true) (scalar' : isScalar right = true)
    (bare : left.asStr = none) (bare' : right.asStr = none)
    (same : printScalar left = printScalar right) : left = right := by
  cases number : isNumber left with
  | true =>
      cases number' : isNumber right with
      | true => exact number_injective formed formed' number number' same
      | false =>
          obtain ⟨c, member, letter⟩ := literal_letter scalar' bare' number'
          rw [← same] at member
          simp [number_chars formed number c member] at letter
  | false =>
      cases number' : isNumber right with
      | true =>
          obtain ⟨c, member, letter⟩ := literal_letter scalar bare number
          rw [same] at member
          simp [number_chars formed' number' c member] at letter
      | false => exact literal_injective scalar scalar' bare bare' number number' same

/-! ## Reading a value back -/

theorem obj_chars (fields : JsonMap) : (canonicalJson (.obj fields)).toList =
    '\x7b' :: ([','].intercalate ((sortEntries fields).map fun entry => (printEntry entry).toList) ++
      ['\x7d']) := by
  rw [canonicalJson_obj]
  simp only [String.toList_append, String.toList_intercalate, List.map_map]
  rfl

theorem arr_chars (items : List Json) : (canonicalJson (.arr items)).toList =
    '[' :: ([','].intercalate (items.map fun item => (canonicalJson item).toList) ++ [']']) := by
  rw [canonicalJson_arr]
  simp only [String.toList_append, String.toList_intercalate, List.map_map]
  rfl

theorem str_chars (text : String) : (canonicalJson (.str text)).toList =
    (printString text).toList := by
  rw [canonicalJson_scalar rfl]
  rfl

inductive Kind
  | object
  | array
  | string
  | bare
deriving DecidableEq

def kind : Json → Kind
  | .obj _ => .object
  | .arr _ => .array
  | .str _ => .string
  | _ => .bare

def opening : Kind → Char → Prop
  | .object, c => c = '\x7b'
  | .array, c => c = '['
  | .string, c => c = quotationMark
  | .bare, c => isStructural c = false

theorem opening_unique {first second : Kind} {c : Char} (opens : opening first c)
    (opens' : opening second c) : first = second := by
  have structural {other : Kind} (isOther : opening other c) (shown : other ≠ .bare) :
      isStructural c = true := by
    cases other with
    | bare => exact absurd rfl shown
    | _ =>
        simp only [opening] at isOther
        subst isOther
        decide
  have bare (isBare : opening .bare c) : isStructural c = false := isBare
  cases first with
  | bare =>
      by_contra other
      have shown := structural opens' (Ne.symm other)
      rw [bare opens] at shown
      exact absurd shown (by decide)
  | _ =>
      cases second with
      | bare =>
          have shown := structural opens (by decide)
          rw [bare opens'] at shown
          exact absurd shown (by decide)
      | _ =>
          simp only [opening] at opens opens'
          subst opens
          first
            | rfl
            | exact absurd opens' (by decide)

/-- The first character tells what kind of value follows. -/
theorem canonicalJson_opens {value : Json} (formed : WellFormed value) :
    ∃ head tail, (canonicalJson value).toList = head :: tail ∧ opening (kind value) head := by
  cases value with
  | obj fields => exact ⟨_, _, obj_chars fields, rfl⟩
  | arr items => exact ⟨_, _, arr_chars items, rfl⟩
  | str text =>
      have chars : (canonicalJson (.str text)).toList =
          quotationMark :: (text.toList.flatMap escapeChar ++ [quotationMark]) := by
        rw [str_chars, printString, String.toList_ofList, List.cons_append]
      exact ⟨_, _, chars, rfl⟩
  | _ =>
      obtain ⟨nonempty, bare⟩ := bare_scalar formed rfl rfl
      obtain ⟨head, tail, chars⟩ := List.exists_cons_of_ne_nil nonempty
      rw [canonicalJson_scalar rfl]
      exact ⟨head, tail, chars, bare head (chars ▸ List.mem_cons_self)⟩

theorem kinds_agree {left right : Json} {rest rest' : List Char} (formed : WellFormed left)
    (formed' : WellFormed right)
    (same : (canonicalJson left).toList ++ rest = (canonicalJson right).toList ++ rest') :
    kind left = kind right := by
  obtain ⟨head, tail, chars, opens⟩ := canonicalJson_opens formed
  obtain ⟨head', tail', chars', opens'⟩ := canonicalJson_opens formed'
  rw [chars, chars', List.cons_append, List.cons_append] at same
  obtain rfl := (List.cons.inj same).1
  exact opening_unique opens opens'

theorem opening_not_close {kind : Kind} {c : Char} (opens : opening kind c) : c ≠ ']' := by
  rintro rfl
  cases kind with
  | bare => exact absurd (show isStructural ']' = false from opens) (by decide)
  | object => exact absurd (show ']' = '\x7b' from opens) (by decide)
  | array => exact absurd (show ']' = '[' from opens) (by decide)
  | string => exact absurd (show ']' = quotationMark from opens) (by decide)

theorem Reordered.items {left right : List Json} (same : List.Forall₂ Reordered left right) :
    ∀ done : List Json, Reordered (.arr (done ++ left)) (.arr (done ++ right)) := by
  induction same with
  | nil => exact fun done => .refl _
  | @cons first second left right reordered _ ih =>
      intro done
      have rest := ih (done ++ [second])
      rw [List.append_assoc, List.append_assoc] at rest
      exact (Reordered.item done left reordered).trans rest

def SameEntry (left right : String × Json) : Prop :=
  left.1 = right.1 ∧ Reordered left.2 right.2

theorem Reordered.entries {left right : JsonMap} (same : List.Forall₂ SameEntry left right) :
    ∀ done : JsonMap, Reordered (.obj (done ++ left)) (.obj (done ++ right)) := by
  induction same with
  | nil => exact fun done => .refl _
  | @cons first second left right entry _ ih =>
      intro done
      obtain ⟨key, value⟩ := first
      obtain ⟨key', value'⟩ := second
      obtain ⟨rfl, reordered⟩ := entry
      have rest := ih (done ++ [(key, value')])
      rw [List.append_assoc, List.append_assoc] at rest
      exact (Reordered.value done left key reordered).trans rest

/-- Objects are the same if their sorted entries are. -/
theorem Reordered.sorted {left right : JsonMap}
    (same : List.Forall₂ SameEntry (sortEntries left) (sortEntries right)) :
    Reordered (.obj left) (.obj right) := by
  have middle := Reordered.entries same []
  exact ((Reordered.keys (List.mergeSort_perm left _).symm).trans middle).trans
    (.keys (List.mergeSort_perm right _))

/-- Equal texts of entries come from equal keys and equal values. -/
theorem printEntry_read {left right : String × Json}
    (value : Printing.Read Ends (fun value => (canonicalJson value).toList) Reordered
      left.2 right.2) :
    Printing.Read Ends (fun entry => (printEntry entry).toList) SameEntry left right := by
  intro rest rest' ends ends' same
  simp only [printEntry, String.toList_append, List.append_assoc] at same
  obtain ⟨keys, same⟩ := printString_unique same
  have values := (List.cons.inj (show ':' :: _ = ':' :: _ from same)).2
  obtain ⟨reordered, rests⟩ := value rest rest' ends ends' values
  exact ⟨⟨keys, reordered⟩, rests⟩

theorem printEntry_opens (entry : String × Json) :
    ∃ head tail, (printEntry entry).toList = head :: tail ∧ head ≠ '\x7d' := by
  have chars : (printEntry entry).toList = quotationMark ::
      (entry.1.toList.flatMap escapeChar ++ [quotationMark] ++ ":".toList ++
        (canonicalJson entry.2).toList) := by
    simp only [printEntry, printString, String.toList_append, String.toList_ofList,
      List.cons_append]
  exact ⟨_, _, chars, by decide⟩

theorem kind_bare {value : Json} (isBare : kind value = .bare) :
    isScalar value = true ∧ value.asStr = none := by
  cases value with
  | str text => simp [kind] at isBare
  | arr items => simp [kind] at isBare
  | obj fields => simp [kind] at isBare
  | _ => exact ⟨rfl, rfl⟩

theorem bare_read {left right : Json} (formed : WellFormed left) (formed' : WellFormed right)
    (isBare : kind left = .bare) (isBare' : kind right = .bare) :
    Printing.Read Ends (fun value => (canonicalJson value).toList) Reordered left right := by
  obtain ⟨scalar, noText⟩ := kind_bare isBare
  obtain ⟨scalar', noText'⟩ := kind_bare isBare'
  intro rest rest' ends ends' same
  simp only [canonicalJson_scalar scalar, canonicalJson_scalar scalar'] at same
  have plain {value : Json} (formed : WellFormed value) (scalar : isScalar value = true)
      (noText : value.asStr = none) :
      ∀ c ∈ (printScalar value).toList, (!isStructural c) = true := by
    intro c member
    rw [(bare_scalar formed scalar noText).2 c member]
    rfl
  have stops {rest : List Char} (ends : Ends rest) :
      ∀ c ∈ rest.head?, (!isStructural c) = false := by
    intro c first
    rw [ends c first]
    rfl
  obtain ⟨texts, rests⟩ := Printing.word_unique (plain formed scalar noText)
    (plain formed' scalar' noText') (stops ends) (stops ends') same
  obtain rfl := printScalar_injective formed formed' scalar scalar' noText noText'
    (String.toList_injective texts)
  exact ⟨.refl _, rests⟩

/-- Equal texts come from equal values, whatever follows them. -/
theorem canonicalJson_read : ∀ left right : Json, WellFormed left → WellFormed right →
    Printing.Read Ends (fun value => (canonicalJson value).toList) Reordered left right := by
  intro left
  induction left using canonicalJson.induct with
  | case1 fields ih =>
      intro right formed formed' rest rest' ends ends' same
      have kinds := kinds_agree formed formed' same
      cases right with
      | obj others =>
          simp only [obj_chars, List.cons_append, List.cons.injEq, true_and, List.append_assoc,
            List.nil_append] at same
          obtain ⟨entries, rests⟩ := Printing.listing_unique (by decide)
            (ends_cons (by decide)) (ends_cons (by decide)) (fun entry _ => printEntry_opens entry)
            (fun entry member other member' => printEntry_read (ih ⟨entry, member⟩ other.2
              ((wellFormed_obj.mp formed).2 entry (mem_sortEntries.mp member))
              ((wellFormed_obj.mp formed').2 other (mem_sortEntries.mp member')))) same
          exact ⟨.sorted entries, rests⟩
      | _ => simp [kind] at kinds
  | case2 items ih =>
      intro right formed formed' rest rest' ends ends' same
      have kinds := kinds_agree formed formed' same
      cases right with
      | arr others =>
          simp only [arr_chars, List.cons_append, List.cons.injEq, true_and, List.append_assoc,
            List.nil_append] at same
          have opens (item : Json) (member : item ∈ items ∨ item ∈ others) :
              ∃ head tail, (canonicalJson item).toList = head :: tail ∧ head ≠ ']' := by
            have formedItem : WellFormed item := by
              rcases member with first | second
              · exact wellFormed_arr.mp formed item first
              · exact wellFormed_arr.mp formed' item second
            obtain ⟨head, tail, chars, opening⟩ := canonicalJson_opens formedItem
            exact ⟨head, tail, chars, opening_not_close opening⟩
          obtain ⟨entries, rests⟩ := Printing.listing_unique (by decide)
            (ends_cons (by decide)) (ends_cons (by decide)) opens
            (fun item member other member' => ih item member other
              (wellFormed_arr.mp formed item member) (wellFormed_arr.mp formed' other member')) same
          exact ⟨Reordered.items entries [], rests⟩
      | _ => simp [kind] at kinds
  | case3 scalar notObj notArr =>
      intro right formed formed' rest rest' ends ends' same
      have kinds := kinds_agree formed formed' same
      cases scalar with
      | obj fields => exact (notObj fields rfl).elim
      | arr items => exact (notArr items rfl).elim
      | str text =>
          cases right with
          | str other =>
              simp only [str_chars] at same
              obtain ⟨rfl, rests⟩ := printString_unique same
              exact ⟨.refl _, rests⟩
          | _ => simp [kind] at kinds
      | _ => exact bare_read formed formed' rfl kinds.symm rest rest' ends ends' same

theorem canonicalJson_eq_iff {left right : Json} (formed : WellFormed left)
    (formed' : WellFormed right) :
    canonicalJson left = canonicalJson right ↔ Reordered left right := by
  constructor
  · intro same
    have nothing : Ends [] := by simp [Ends]
    exact (canonicalJson_read left right formed formed' [] [] nothing nothing (by simp only [same])).1
  · exact fun reordered => reordered.canonical formed

abbrev SerdeValue := {value : Json // WellFormed value}

/-- The text is canonical, and two fingerprints agree for different requests only where the digest
of two different texts does. -/
theorem canonicalJson_is_canonical (left right : SerdeValue) :
    (canonicalJson left.1 = canonicalJson right.1 ↔ Reordered left.1 right.1) ∧
      ∀ sha256 : String → String, fingerprint sha256 left.1 = fingerprint sha256 right.1 →
        ¬Reordered left.1 right.1 →
          canonicalJson left.1 ≠ canonicalJson right.1 ∧
            sha256 (canonicalJson left.1) = sha256 (canonicalJson right.1) := by
  have canonical := canonicalJson_eq_iff left.2 right.2
  exact ⟨canonical, fun _ collision different => ⟨mt canonical.mp different, collision⟩⟩

example : printString "a\n\x22" = "\x22a\\n\\\x22\x22" := by decide

end HarborGate
