import HarborGate.Lib.Text

/-!
How a long text is cut into Weixin messages. Lines are gathered into a chunk as long as they fit; a
line that does not is cut after every `maxLength` characters.
-/

namespace HarborGate

namespace Weixin

def trimEnd (chunk : List Char) : List Char :=
  chunk.rdropWhile Text.isWhitespace

def blank (chunk : List Char) : Bool :=
  chunk.all Text.isWhitespace

/-- `str::split_inclusive` at line ends. -/
def splitInclusive : List Char → List (List Char)
  | [] => []
  | c :: rest =>
      if c = '\n' then [c] :: splitInclusive rest
      else
        match splitInclusive rest with
        | [] => [[c]]
        | line :: lines => (c :: line) :: lines

/-- The finished chunks and the one that is being filled. -/
structure Splitting where
  chunks : List (List Char)
  current : List Char

namespace Splitting

variable (maxLength : Nat)

def cut (splitting : Splitting) (c : Char) : Splitting :=
  if maxLength ≤ splitting.current.length then
    ⟨splitting.chunks ++ [trimEnd splitting.current], [c]⟩
  else ⟨splitting.chunks, splitting.current ++ [c]⟩

/-- The chunks with the current one, unless it is blank. -/
def flushed (splitting : Splitting) : List (List Char) :=
  if blank splitting.current then splitting.chunks
  else splitting.chunks ++ [trimEnd splitting.current]

def addLine (splitting : Splitting) (line : List Char) : Splitting :=
  if splitting.current.length + line.length ≤ maxLength then
    ⟨splitting.chunks, splitting.current ++ line⟩
  else line.foldl (cut maxLength) ⟨splitting.flushed, []⟩

end Splitting

def splitChars (maxLength : Nat) (content : List Char) : List (List Char) :=
  if content = [] then []
  else if content.length ≤ maxLength then [content]
  else
    let chunks := ((splitInclusive content).foldl (Splitting.addLine maxLength) ⟨[], []⟩).flushed
    if chunks = [] then [content.take maxLength] else chunks

def splitTextForWeixin (text : String) (maxLength : Nat) : List String :=
  (splitChars maxLength (Text.trim text).toList).map String.ofList

example : splitTextForWeixin " ab\ncdef " 3 = ["ab", "cde", "f"] := by decide

/-! ## Contents -/

/-- What is left of a text without its whitespace. -/
def solid (chunk : List Char) : List Char :=
  chunk.filter (!Text.isWhitespace ·)

@[simp] theorem solid_append (left right : List Char) :
    solid (left ++ right) = solid left ++ solid right :=
  List.filter_append ..

theorem solid_of_blank {chunk : List Char} (empty : blank chunk = true) : solid chunk = [] := by
  rw [solid, List.filter_eq_nil_iff]
  intro c member
  have white := List.all_eq_true.mp empty c member
  simp [white]

theorem trimEnd_split (chunk : List Char) :
    ∃ tail, blank tail = true ∧ chunk = trimEnd chunk ++ tail := by
  refine ⟨chunk.rtakeWhile Text.isWhitespace, ?_, ?_⟩
  · rw [blank, List.all_eq_true]
    exact fun c member => List.mem_rtakeWhile_imp member
  · exact (List.rdropWhile_append_rtakeWhile ..).symm

@[simp] theorem solid_trimEnd (chunk : List Char) : solid (trimEnd chunk) = solid chunk := by
  obtain ⟨tail, empty, whole⟩ := trimEnd_split chunk
  conv_rhs => rw [whole]
  rw [solid_append, solid_of_blank empty, List.append_nil]

theorem length_trimEnd_le (chunk : List Char) : (trimEnd chunk).length ≤ chunk.length :=
  (List.rdropWhile_prefix ..).length_le

theorem splitInclusive_flatten (content : List Char) : (splitInclusive content).flatten = content := by
  induction content with
  | nil => rfl
  | cons c rest ih =>
      simp only [splitInclusive]
      split
      · rw [List.flatten_cons, ih, List.singleton_append]
      · split
        · rename_i none
          rw [none, List.flatten_nil] at ih
          simp [← ih]
        · rename_i line lines some
          rw [some, List.flatten_cons] at ih
          simp [← ih]

/-! ## What the chunks hold -/

/-- What has been put into the chunks, finished or not. -/
def Splitting.content (splitting : Splitting) : List Char :=
  solid (splitting.chunks.flatten ++ splitting.current)

/-- No chunk is longer than a message may be. -/
structure Splitting.Short (maxLength : Nat) (splitting : Splitting) : Prop where
  chunks : ∀ chunk ∈ splitting.chunks, chunk.length ≤ maxLength
  current : splitting.current.length ≤ maxLength

namespace Splitting

variable {maxLength : Nat} {splitting : Splitting}

theorem cut_content (c : Char) :
    (splitting.cut maxLength c).content = splitting.content ++ solid [c] := by
  rw [cut]
  split <;> simp [content]

theorem cutAll_content (line : List Char) :
    (line.foldl (cut maxLength) splitting).content = splitting.content ++ solid line := by
  induction line generalizing splitting with
  | nil => simp [solid]
  | cons c rest ih =>
      rw [List.foldl_cons, ih, cut_content, List.append_assoc, ← solid_append]
      rfl

theorem flushed_content (splitting : Splitting) :
    solid splitting.flushed.flatten = splitting.content := by
  rw [flushed, content]
  split
  · rename_i empty
    rw [solid_append, solid_of_blank empty, List.append_nil]
  · simp

theorem addLine_content (line : List Char) :
    (splitting.addLine maxLength line).content = splitting.content ++ solid line := by
  rw [addLine]
  split
  · simp [content]
  · have start : content ⟨splitting.flushed, []⟩ = splitting.content := by
      rw [← flushed_content splitting, content, List.append_nil]
    rw [cutAll_content, start]

theorem addLines_content (lines : List (List Char)) :
    (lines.foldl (addLine maxLength) splitting).content =
      splitting.content ++ solid lines.flatten := by
  induction lines generalizing splitting with
  | nil => simp [solid]
  | cons line rest ih =>
      rw [List.foldl_cons, ih, addLine_content, List.flatten_cons, solid_append, List.append_assoc]

theorem Short.flushed (short : splitting.Short maxLength) :
    ∀ chunk ∈ splitting.flushed, chunk.length ≤ maxLength := by
  intro chunk member
  rw [Splitting.flushed] at member
  split at member
  · exact short.chunks chunk member
  · rcases List.mem_append.mp member with old | new
    · exact short.chunks chunk old
    · rw [List.mem_singleton.mp new]
      have trimmed := length_trimEnd_le splitting.current
      have current := short.current
      omega

theorem Short.cut (short : splitting.Short maxLength) (positive : 1 ≤ maxLength) (c : Char) :
    (splitting.cut maxLength c).Short maxLength := by
  rw [Splitting.cut]
  split
  · constructor
    · intro chunk member
      rcases List.mem_append.mp member with old | new
      · exact short.chunks chunk old
      · rw [List.mem_singleton.mp new]
        have trimmed := length_trimEnd_le splitting.current
        have current := short.current
        omega
    · simpa using positive
  · constructor
    · exact short.chunks
    · rw [List.length_append, List.length_singleton]
      omega

theorem Short.cutAll (short : splitting.Short maxLength) (positive : 1 ≤ maxLength)
    (line : List Char) : (line.foldl (Splitting.cut maxLength) splitting).Short maxLength := by
  induction line generalizing splitting with
  | nil => exact short
  | cons c rest ih => exact ih (short.cut positive c)

theorem Short.addLine (short : splitting.Short maxLength) (positive : 1 ≤ maxLength)
    (line : List Char) : (splitting.addLine maxLength line).Short maxLength := by
  rw [Splitting.addLine]
  split
  · rename_i fits
    constructor
    · exact short.chunks
    · rw [List.length_append]
      exact fits
  · have start : Splitting.Short maxLength ⟨splitting.flushed, []⟩ := ⟨short.flushed, by simp⟩
    exact start.cutAll positive line

theorem Short.addLines (short : splitting.Short maxLength) (positive : 1 ≤ maxLength)
    (lines : List (List Char)) :
    (lines.foldl (Splitting.addLine maxLength) splitting).Short maxLength := by
  induction lines generalizing splitting with
  | nil => exact short
  | cons line rest ih => exact ih (short.addLine positive line)

end Splitting

theorem solid_trim (text : String) : solid (Text.trim text).toList = solid text.toList := by
  have lead : blank (text.toList.takeWhile Text.isWhitespace) = true := by
    rw [blank, List.all_eq_true]
    exact fun c member => List.mem_takeWhile_imp member
  have front : solid (text.toList.dropWhile Text.isWhitespace) = solid text.toList := by
    conv_rhs => rw [← List.takeWhile_append_dropWhile (p := Text.isWhitespace) (l := text.toList)]
    rw [solid_append, solid_of_blank lead, List.nil_append]
  rw [Text.trim, String.toList_ofList, ← front]
  exact solid_trimEnd _

theorem blank_of_solid {chunk : List Char} (empty : solid chunk = []) : blank chunk = true := by
  rw [blank, List.all_eq_true]
  intro c member
  simpa using List.filter_eq_nil_iff.mp empty c member

/-- A trimmed text that is not empty is not blank either. -/
theorem blank_trim {text : String} (filled : (Text.trim text).toList ≠ []) :
    blank (Text.trim text).toList = false := by
  by_contra white
  have all : blank (Text.trim text).toList = true := by simpa using white
  have empty : Text.trim text = "" := Text.isBlank_trim all
  exact filled (by rw [empty]; rfl)

/-- The chunks of a text that has to be cut. -/
def cutChunks (maxLength : Nat) (content : List Char) : List (List Char) :=
  ((splitInclusive content).foldl (Splitting.addLine maxLength) ⟨[], []⟩).flushed

theorem solid_cutChunks (maxLength : Nat) (content : List Char) :
    solid (cutChunks maxLength content).flatten = solid content := by
  rw [cutChunks, Splitting.flushed_content, Splitting.addLines_content, splitInclusive_flatten]
  rfl

/-- No text is cut into nothing. -/
theorem splitChars_trim (text : String) {maxLength : Nat} :
    splitChars maxLength (Text.trim text).toList =
      if (Text.trim text).toList = [] then []
      else if (Text.trim text).toList.length ≤ maxLength then [(Text.trim text).toList]
      else cutChunks maxLength (Text.trim text).toList := by
  rw [splitChars]
  by_cases empty : (Text.trim text).toList = []
  · rw [if_pos empty, if_pos empty]
  · rw [if_neg empty, if_neg empty]
    have some_ : cutChunks maxLength (Text.trim text).toList ≠ [] := by
      intro none
      have kept := solid_cutChunks maxLength (Text.trim text).toList
      rw [none] at kept
      have white := blank_of_solid kept.symm
      rw [blank_trim empty] at white
      simp at white
    split
    · rfl
    · exact if_neg some_

/-- Cutting a text loses and reorders nothing but whitespace, and each chunk fits. -/
theorem split_preserves_message (text : String) (maxLength : Nat) (positive : 1 ≤ maxLength) :
    (∀ chunk ∈ splitTextForWeixin text maxLength, chunk.toList.length ≤ maxLength) ∧
      solid ((splitTextForWeixin text maxLength).flatMap String.toList) = solid text.toList := by
  have texts : (splitTextForWeixin text maxLength).flatMap String.toList =
      (splitChars maxLength (Text.trim text).toList).flatten := by
    simp [splitTextForWeixin, List.flatMap_map, List.flatMap_id']
  rw [texts, splitTextForWeixin, List.forall_mem_map, splitChars_trim, ← solid_trim text]
  simp only [String.toList_ofList]
  generalize (Text.trim text).toList = content
  by_cases empty : content = []
  · simp [empty]
  · rw [if_neg empty]
    by_cases fits : content.length ≤ maxLength
    · simp [fits]
    · rw [if_neg fits]
      have start : Splitting.Short maxLength ⟨[], []⟩ := ⟨by simp, by simp⟩
      exact ⟨(start.addLines positive _).flushed, solid_cutChunks maxLength content⟩

theorem two_lines_are_preserved :
    (∀ chunk ∈ splitTextForWeixin " ab\ncdef " 3, chunk.toList.length ≤ 3) ∧
      solid ((splitTextForWeixin " ab\ncdef " 3).flatMap String.toList) =
        solid " ab\ncdef ".toList :=
  split_preserves_message _ 3 (by decide)

/-! ## Empty messages -/

/-- The characters that the cut of a long line puts into one chunk. -/
def block (maxLength : Nat) (line : List Char) (index : Nat) : List Char :=
  (line.drop (index * maxLength)).take maxLength

/-- No block of the line but the last one is blank. -/
def Unbroken (maxLength : Nat) (line : List Char) : Prop :=
  ∀ index, (index + 1) * maxLength < line.length → blank (block maxLength line index) = false

theorem blank_trimEnd (chunk : List Char) : blank (trimEnd chunk) = blank chunk := by
  by_cases white : blank chunk = true
  · rw [white]
    refine blank_of_solid ?_
    rw [solid_trimEnd, solid_of_blank white]
  · have part : blank (trimEnd chunk) ≠ true := by
      intro trimmed
      refine white (blank_of_solid ?_)
      rw [← solid_trimEnd, solid_of_blank trimmed]
    simp only [Bool.not_eq_true] at white part
    rw [white, part]

theorem block_concat {maxLength index : Nat} {line : List Char} {c : Char}
    (whole : (index + 1) * maxLength ≤ line.length) :
    block maxLength (line ++ [c]) index = block maxLength line index := by
  have split : (index + 1) * maxLength = index * maxLength + maxLength := Nat.succ_mul ..
  rw [block, block, List.drop_append_of_le_length (by omega), List.take_append_of_le_length]
  rw [List.length_drop]
  omega

/-- How far the cut of a line has come. -/
structure Cut (maxLength : Nat) (chunks : List (List Char)) (line : List Char) (count : Nat)
    (splitting : Splitting) : Prop where
  chunks : splitting.chunks = chunks ++ (List.range count).map (trimEnd <| block maxLength line ·)
  current : splitting.current = line.drop (count * maxLength)
  short : splitting.current.length ≤ maxLength
  filled : count = 0 ∨ count * maxLength < line.length

theorem cut_line {maxLength : Nat} (positive : 1 ≤ maxLength) (chunks : List (List Char))
    (line : List Char) :
    ∃ count, Cut maxLength chunks line count
      (line.foldl (Splitting.cut maxLength) ⟨chunks, []⟩) := by
  induction line using List.reverseRecOn with
  | nil => exact ⟨0, by simp, by simp, by simp, .inl rfl⟩
  | append_singleton line c ih =>
      obtain ⟨count, cut⟩ := ih
      rw [List.foldl_append, List.foldl_cons, List.foldl_nil]
      generalize line.foldl (Splitting.cut maxLength) ⟨chunks, []⟩ = splitting at cut ⊢
      have current := cut.current
      have length : splitting.current.length = line.length - count * maxLength := by
        rw [current, List.length_drop]
      have short := cut.short
      have reached : count * maxLength ≤ line.length := by
        rcases cut.filled with rfl | below
        · simp
        · omega
      have earlier : ∀ finished, finished * maxLength ≤ line.length →
          (List.range finished).map (fun index => trimEnd (block maxLength (line ++ [c]) index)) =
            (List.range finished).map (fun index => trimEnd (block maxLength line index)) := by
        intro finished within
        refine List.map_congr_left fun index member => ?_
        have below : (index + 1) * maxLength ≤ finished * maxLength :=
          Nat.mul_le_mul_right _ (List.mem_range.mp member)
        rw [block_concat (by omega)]
      rw [Splitting.cut]
      by_cases full : maxLength ≤ splitting.current.length
      · rw [if_pos full]
        have next : (count + 1) * maxLength = count * maxLength + maxLength := Nat.succ_mul ..
        have last : block maxLength line count = splitting.current := by
          rw [block, ← current, List.take_of_length_le short]
        refine ⟨count + 1, ?_, ?_, ?_, ?_⟩
        · rw [earlier (count + 1) (by omega), List.range_succ, List.map_append, cut.chunks,
            List.append_assoc, List.map_singleton, last]
        · rw [List.drop_append_of_le_length (by omega), List.drop_of_length_le (by omega),
            List.nil_append]
        · simpa using positive
        · rw [List.length_append, List.length_singleton]
          omega
      · rw [if_neg full]
        refine ⟨count, ?_, ?_, ?_, ?_⟩
        · rw [earlier count reached, cut.chunks]
        · rw [List.drop_append_of_le_length reached, current]
        · rw [List.length_append, List.length_singleton]
          omega
        · rw [List.length_append, List.length_singleton]
          omega

/-- The cut of a line adds no blank chunk exactly if the line is unbroken. -/
theorem cut_filled_iff {maxLength : Nat} (positive : 1 ≤ maxLength) (chunks : List (List Char))
    (line : List Char) :
    (∀ chunk ∈ (line.foldl (Splitting.cut maxLength) ⟨chunks, []⟩).chunks, blank chunk = false) ↔
      (∀ chunk ∈ chunks, blank chunk = false) ∧ Unbroken maxLength line := by
  obtain ⟨count, cut⟩ := cut_line positive chunks line
  have short := cut.short
  rw [cut.current, List.length_drop] at short
  have finished : ∀ index, (index + 1) * maxLength < line.length ↔ index < count := by
    intro index
    constructor
    · intro within
      by_contra beyond
      have above : count * maxLength ≤ index * maxLength := Nat.mul_le_mul_right _ (by omega)
      have next : (index + 1) * maxLength = index * maxLength + maxLength := Nat.succ_mul ..
      omega
    · intro below
      have upTo : (index + 1) * maxLength ≤ count * maxLength := Nat.mul_le_mul_right _ below
      rcases cut.filled with rfl | filled
      · omega
      · omega
  rw [cut.chunks, List.forall_mem_append]
  refine and_congr_right fun _ => ?_
  constructor
  · intro filled index within
    have chunk := filled _ (List.mem_map_of_mem (List.mem_range.mpr ((finished index).mp within)))
    rw [blank_trimEnd] at chunk
    exact chunk
  · intro unbroken chunk member
    obtain ⟨index, below, rfl⟩ := List.mem_map.mp member
    rw [blank_trimEnd]
    exact unbroken index ((finished index).mpr (List.mem_range.mp below))

theorem Unbroken.short {maxLength : Nat} {line : List Char} (short : line.length ≤ maxLength) :
    Unbroken maxLength line := by
  intro index within
  have first : 1 * maxLength ≤ (index + 1) * maxLength := Nat.mul_le_mul_right _ (by omega)
  omega

namespace Splitting

variable {maxLength : Nat} {splitting : Splitting}

theorem flushed_filled_iff (splitting : Splitting) :
    (∀ chunk ∈ splitting.flushed, blank chunk = false) ↔
      ∀ chunk ∈ splitting.chunks, blank chunk = false := by
  rw [flushed]
  split
  · exact Iff.rfl
  · rename_i filled
    rw [List.forall_mem_append]
    have last : ∀ chunk ∈ [trimEnd splitting.current], blank chunk = false := by
      intro chunk member
      rw [List.mem_singleton.mp member, blank_trimEnd]
      simpa using filled
    exact and_iff_left last

theorem addLine_filled_iff (positive : 1 ≤ maxLength) (line : List Char) :
    (∀ chunk ∈ (splitting.addLine maxLength line).chunks, blank chunk = false) ↔
      (∀ chunk ∈ splitting.chunks, blank chunk = false) ∧ Unbroken maxLength line := by
  rw [addLine]
  split
  · rename_i fits
    exact (and_iff_left (.short (by omega))).symm
  · rw [cut_filled_iff positive, flushed_filled_iff]

theorem addLines_filled_iff (positive : 1 ≤ maxLength) (lines : List (List Char)) :
    (∀ chunk ∈ (lines.foldl (addLine maxLength) splitting).chunks, blank chunk = false) ↔
      (∀ chunk ∈ splitting.chunks, blank chunk = false) ∧ ∀ line ∈ lines, Unbroken maxLength line := by
  induction lines generalizing splitting with
  | nil => simp
  | cons line rest ih =>
      rw [List.foldl_cons, ih, addLine_filled_iff positive, List.forall_mem_cons, and_assoc]

end Splitting

theorem length_of_mem_splitInclusive {content line : List Char}
    (member : line ∈ splitInclusive content) : line.length ≤ content.length := by
  have part := (List.sublist_flatten_of_mem member).length_le
  rw [splitInclusive_flatten] at part
  exact part

/-- Every message has something to show exactly if no line of the trimmed text has a blank block
other than its last. -/
theorem chunks_are_filled_iff (text : String) (maxLength : Nat) (positive : 1 ≤ maxLength) :
    (∀ chunk ∈ splitTextForWeixin text maxLength, Text.isBlank chunk = false) ↔
      ∀ line ∈ splitInclusive (Text.trim text).toList, Unbroken maxLength line := by
  have blanks : ∀ chunk : List Char, Text.isBlank (String.ofList chunk) = blank chunk := by
    intro chunk
    rw [Text.isBlank, String.toList_ofList, blank]
  have filled := @blank_trim text
  rw [splitTextForWeixin, List.forall_mem_map, splitChars_trim]
  simp only [blanks]
  generalize (Text.trim text).toList = content at filled ⊢
  by_cases empty : content = []
  · simp [empty, splitInclusive]
  · rw [if_neg empty]
    by_cases fits : content.length ≤ maxLength
    · rw [if_pos fits]
      have lines : ∀ line ∈ splitInclusive content, Unbroken maxLength line := by
        intro line member
        have part := length_of_mem_splitInclusive member
        exact .short (by omega)
      simp only [List.mem_singleton, forall_eq, filled empty, true_iff]
      exact lines
    · rw [if_neg fits, cutChunks, Splitting.flushed_filled_iff, Splitting.addLines_filled_iff positive]
      simp

/-- A run of blanks in a long line becomes a message of its own. -/
theorem blank_run_is_sent :
    ¬∀ chunk ∈ splitTextForWeixin "ab  cd" 2, Text.isBlank chunk = false := by
  decide

theorem unbroken_lines_are_filled :
    (∀ chunk ∈ splitTextForWeixin " ab\ncdef " 3, Text.isBlank chunk = false) ↔
      ∀ line ∈ splitInclusive (Text.trim " ab\ncdef ").toList, Unbroken 3 line :=
  chunks_are_filled_iff _ 3 (by decide)

end Weixin

end HarborGate
