import Mathlib.Data.List.Forall2

/-!
Printed texts that can be taken apart again. Each rule says of two equal texts, a printed value in
front of a rest on either side, that the values and the rests agree.
-/

namespace Printing

variable {γ α : Type}

/-- A word is as long as its characters are plain, if what follows begins with another one. -/
theorem word_unique {plain : γ → Bool} {word other rest rest' : List γ}
    (isWord : ∀ c ∈ word, plain c = true) (isOther : ∀ c ∈ other, plain c = true)
    (ends : ∀ c ∈ rest.head?, plain c = false) (ends' : ∀ c ∈ rest'.head?, plain c = false)
    (same : word ++ rest = other ++ rest') : word = other ∧ rest = rest' := by
  have taken {word rest : List γ} (isWord : ∀ c ∈ word, plain c = true)
      (ends : ∀ c ∈ rest.head?, plain c = false) : (word ++ rest).takeWhile plain = word := by
    rw [List.takeWhile_append_of_pos isWord]
    cases rest with
    | nil => simp
    | cons c rest => simp [ends c rfl]
  have words : word = other := by
    rw [← taken isWord ends, same, taken isOther ends']
  subst words
  exact ⟨rfl, List.append_cancel_left same⟩

/-- A sequence of codes up to a stop that begins none of them. -/
theorem code_unique {code : α → List γ} {stop : γ}
    (apart : ∀ x y rest rest', code x ++ rest = code y ++ rest' → x = y ∧ rest = rest')
    (opens : ∀ x, ∃ head tail, code x = head :: tail ∧ head ≠ stop) :
    ∀ {xs ys : List α} {rest rest' : List γ},
      xs.flatMap code ++ stop :: rest = ys.flatMap code ++ stop :: rest' →
        xs = ys ∧ rest = rest' := by
  intro xs
  induction xs with
  | nil =>
      intro ys rest rest' same
      cases ys with
      | nil => simpa using same
      | cons y ys =>
          obtain ⟨head, tail, isCode, other⟩ := opens y
          simp only [List.flatMap_nil, List.nil_append, List.flatMap_cons, isCode, List.cons_append,
            List.cons.injEq] at same
          exact absurd same.1.symm other
  | cons x xs ih =>
      intro ys rest rest' same
      cases ys with
      | nil =>
          obtain ⟨head, tail, isCode, other⟩ := opens x
          simp only [List.flatMap_nil, List.nil_append, List.flatMap_cons, isCode, List.cons_append,
            List.cons.injEq] at same
          exact absurd same.1 other
      | cons y ys =>
          simp only [List.flatMap_cons, List.append_assoc] at same
          obtain ⟨rfl, rests⟩ := apart x y _ _ same
          obtain ⟨rfl, tails⟩ := ih rests
          exact ⟨rfl, tails⟩

/-! ## Lists with commas -/

section Listing

variable {comma close : γ} {text : α → List γ} {ends : List γ → Prop} {same : α → α → Prop}

theorem intercalate_cons (part : List γ) (parts : List (List γ)) :
    [comma].intercalate (part :: parts) = part ++ parts.flatMap (comma :: ·) := by
  induction parts generalizing part with
  | nil => simp
  | cons next parts ih =>
      rw [List.intercalate_cons_cons, ih next]
      simp

/-- Equal printed values are the same, whatever follows them. -/
def Read (ends : List γ → Prop) (text : α → List γ) (same : α → α → Prop) (x y : α) : Prop :=
  ∀ rest rest', ends rest → ends rest' → text x ++ rest = text y ++ rest' →
    same x y ∧ rest = rest'

theorem ends_items (endsComma : ∀ rest, ends (comma :: rest))
    (endsClose : ∀ rest, ends (close :: rest)) (list : List α) (rest : List γ) :
    ends (list.flatMap (fun x => comma :: text x) ++ close :: rest) := by
  cases list with
  | nil => exact endsClose rest
  | cons x list => exact endsComma _

theorem items_unique (differ : comma ≠ close) (endsComma : ∀ rest, ends (comma :: rest))
    (endsClose : ∀ rest, ends (close :: rest)) : ∀ {xs ys : List α} {rest rest' : List γ},
      (∀ x ∈ xs, ∀ y ∈ ys, Read ends text same x y) →
      xs.flatMap (fun x => comma :: text x) ++ close :: rest =
        ys.flatMap (fun y => comma :: text y) ++ close :: rest' →
      List.Forall₂ same xs ys ∧ rest = rest' := by
  intro xs
  induction xs with
  | nil =>
      intro ys rest rest' _ equal
      cases ys with
      | nil =>
          simp only [List.flatMap_nil, List.nil_append, List.cons.injEq, true_and] at equal
          exact ⟨.nil, equal⟩
      | cons y ys =>
          simp only [List.flatMap_nil, List.nil_append, List.flatMap_cons, List.cons_append,
            List.cons.injEq] at equal
          exact absurd equal.1.symm differ
  | cons x xs ih =>
      intro ys rest rest' reads equal
      cases ys with
      | nil =>
          simp only [List.flatMap_nil, List.nil_append, List.flatMap_cons, List.cons_append,
            List.cons.injEq] at equal
          exact absurd equal.1 differ
      | cons y ys =>
          simp only [List.flatMap_cons, List.cons_append, List.append_assoc, List.cons.injEq,
            true_and] at equal
          obtain ⟨first, equal⟩ := reads x List.mem_cons_self y List.mem_cons_self _ _
            (ends_items endsComma endsClose xs rest) (ends_items endsComma endsClose ys rest') equal
          obtain ⟨others, rests⟩ := ih (fun x member y member' =>
            reads x (List.mem_cons_of_mem _ member) y (List.mem_cons_of_mem _ member')) equal
          exact ⟨.cons first others, rests⟩

/-- A list up to its closing character, which begins none of its parts. -/
theorem listing_unique (differ : comma ≠ close) (endsComma : ∀ rest, ends (comma :: rest))
    (endsClose : ∀ rest, ends (close :: rest)) {xs ys : List α} {rest rest' : List γ}
    (opens : ∀ x, x ∈ xs ∨ x ∈ ys → ∃ head tail, text x = head :: tail ∧ head ≠ close)
    (reads : ∀ x ∈ xs, ∀ y ∈ ys, Read ends text same x y)
    (equal : [comma].intercalate (xs.map text) ++ close :: rest =
      [comma].intercalate (ys.map text) ++ close :: rest') :
    List.Forall₂ same xs ys ∧ rest = rest' := by
  cases xs with
  | nil =>
      cases ys with
      | nil => exact ⟨.nil, by simpa using equal⟩
      | cons y ys =>
          obtain ⟨head, tail, isText, other⟩ := opens y (.inr List.mem_cons_self)
          simp only [List.map_nil, List.intercalate_nil, List.nil_append, List.map_cons,
            intercalate_cons, isText, List.cons_append, List.cons.injEq] at equal
          exact absurd equal.1.symm other
  | cons x xs =>
      cases ys with
      | nil =>
          obtain ⟨head, tail, isText, other⟩ := opens x (.inl List.mem_cons_self)
          simp only [List.map_nil, List.intercalate_nil, List.nil_append, List.map_cons,
            intercalate_cons, isText, List.cons_append, List.cons.injEq] at equal
          exact absurd equal.1 other
      | cons y ys =>
          simp only [List.map_cons, intercalate_cons, List.append_assoc, List.flatMap_map] at equal
          obtain ⟨first, equal⟩ := reads x List.mem_cons_self y List.mem_cons_self _ _
            (ends_items endsComma endsClose xs rest) (ends_items endsComma endsClose ys rest') equal
          obtain ⟨others, rests⟩ := items_unique differ endsComma endsClose
            (fun x member y member' => reads x (List.mem_cons_of_mem _ member) y
              (List.mem_cons_of_mem _ member')) equal
          exact ⟨.cons first others, rests⟩

end Listing

end Printing
