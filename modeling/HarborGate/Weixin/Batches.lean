import HarborGate.Weixin.Messages

/-!
What a Weixin send reports about its batch. In every report the items shown as sent are the messages
that the provider has taken by then, with its ids for them; a report of success shows them all, and
one of failure names one item as the failed one.
-/

namespace HarborGate

namespace Weixin

namespace Sending

open Interleave

/-- The batch tells what was taken: as many items are sent as messages were, from the first on. -/
structure Truthful (taken : List (Option String)) (batch : DeliveryBatch) : Prop where
  bound : taken.length ≤ batch.items.length
  sent : ∀ index item, batch.items[index]? = some item →
    (item.status = .sent ↔ index < taken.length)
  ids : ∀ index item, batch.items[index]? = some item → index < taken.length →
    taken[index]? = some item.providerMessageId
  whole : batch.status = "sent" → batch.items.length = taken.length
  retry : batch.status = "pending_retry" → ∃ failed, taken.length ≤ failed ∧
    failed < batch.items.length ∧ ∀ index item, batch.items[index]? = some item →
      (item.status = .failed ↔ index = failed)

/-- A test that the first items pass and no others is passed by as many as there are of those. -/
theorem countP_of_first {α : Type} {test : α → Bool} {items : List α} {count : Nat}
    (bound : count ≤ items.length)
    (first : ∀ index item, items[index]? = some item → (test item = true ↔ index < count)) :
    items.countP test = count := by
  induction items generalizing count with
  | nil =>
      have none : count = 0 := by simpa using bound
      rw [none, List.countP_nil]
  | cons item rest ih =>
      cases count with
      | zero =>
          refine List.countP_eq_zero.mpr fun other member passes => ?_
          obtain ⟨index, found⟩ := List.getElem?_of_mem member
          have small := (first index other found).mp passes
          omega
      | succ count =>
          have head : test item = true := (first 0 item rfl).mpr (by omega)
          rw [List.countP_cons_of_pos head]
          have tail : rest.countP test = count := by
            refine ih (by simpa using bound) fun index other found => ?_
            have shifted := first (index + 1) other (by simpa using found)
            rw [shifted]
            omega
          omega

/-- The `sent_count` of a report. -/
theorem Truthful.sent_count {taken : List (Option String)} {batch : DeliveryBatch}
    (truthful : Truthful taken batch) : countStatus .sent batch.items = taken.length := by
  refine countP_of_first truthful.bound fun index item found => ?_
  rw [decide_eq_true_eq]
  exact truthful.sent index item found

/-! ## The items along a send -/

/-- The items of a batch on its way: those of the messages taken are sent, the rest is planned. -/
structure Shown (taken : List (Option String)) (items : List BatchItem) : Prop where
  bound : taken.length ≤ items.length
  sent : ∀ index item, items[index]? = some item → index < taken.length →
    item.status = .sent ∧ taken[index]? = some item.providerMessageId
  planned : ∀ index item, items[index]? = some item → taken.length ≤ index → item.status = .planned

section

variable {taken : List (Option String)} {items : List BatchItem}

theorem Shown.truthful {batchId status updatedAt : String} (shown : Shown taken items)
    (way : status = "sending" ∨ status = "sent" ∧ items.length = taken.length) :
    Truthful taken { batchId, status, items, updatedAt } where
  bound := shown.bound
  sent := by
    intro index item found
    constructor
    · intro sent
      by_contra late
      rw [shown.planned index item found (by omega)] at sent
      simp at sent
    · intro early
      exact (shown.sent index item found early).1
  ids := fun index item found early => (shown.sent index item found early).2
  whole := by
    intro ended
    rcases way with rfl | ⟨-, same⟩
    · simp at ended
    · exact same
  retry := by
    intro ended
    rcases way with rfl | ⟨rfl, -⟩ <;> simp at ended

theorem Shown.mark {id : Option String} (shown : Shown taken items)
    (room : taken.length < items.length) (filled : id.filter (!Text.isBlank ·) = id) :
    Shown (taken ++ [id]) (markSent taken.length id items) where
  bound := by
    rw [markSent, List.length_modify, List.length_append, List.length_singleton]
    omega
  sent := by
    intro index item found early
    rw [List.length_append, List.length_singleton] at early
    rw [markSent] at found
    by_cases last : taken.length = index
    · subst last
      rw [List.getElem?_modify_eq] at found
      obtain ⟨old, -, rfl⟩ := Option.map_eq_some_iff.mp found
      refine ⟨rfl, ?_⟩
      rw [List.getElem?_append_right (Nat.le_refl _), Nat.sub_self]
      simp [BatchItem.mark, filled]
    · rw [List.getElem?_modify_ne _ _ last] at found
      have old := shown.sent index item found (by omega)
      rw [List.getElem?_append_left (by omega)]
      exact old
  planned := by
    intro index item found late
    rw [List.length_append, List.length_singleton] at late
    rw [markSent, List.getElem?_modify_ne _ _ (by omega)] at found
    exact shown.planned index item found (by omega)

theorem Shown.failed {batchId updatedAt error : String} {failed : Nat} (shown : Shown taken items)
    (late : taken.length ≤ failed) (inside : failed < items.length) :
    Truthful taken
      { batchId, status := "pending_retry"
        items := markRemainingPendingRetry (failed + 1) (markFailed failed true error items)
        updatedAt } := by
  have final : ∀ index item,
      (markRemainingPendingRetry (failed + 1) (markFailed failed true error items))[index]? =
        some item →
      ∃ old, items[index]? = some old ∧
        (index < failed → item = old) ∧ (index = failed → item.status = .failed) ∧
        (failed < index → item.status = .pendingRetry ∨ item.status = old.status) := by
    intro index item found
    rw [markRemainingPendingRetry, List.getElem?_mapIdx] at found
    obtain ⟨middle, marked, rfl⟩ := Option.map_eq_some_iff.mp found
    rw [markFailed] at marked
    by_cases here : failed = index
    · subst here
      rw [List.getElem?_modify_eq] at marked
      obtain ⟨old, stood, rfl⟩ := Option.map_eq_some_iff.mp marked
      refine ⟨old, stood, fun less => by omega, fun _ => ?_, fun less => by omega⟩
      rw [if_neg (by omega)]
      rfl
    · rw [List.getElem?_modify_ne _ _ here] at marked
      refine ⟨middle, marked, fun less => ?_, fun same => absurd same.symm here, fun more => ?_⟩
      · rw [if_neg (by omega)]
      · split
        · exact Or.inl rfl
        · exact Or.inr rfl
  have length : (markRemainingPendingRetry (failed + 1)
      (markFailed failed true error items)).length = items.length := by
    rw [markRemainingPendingRetry, List.length_mapIdx, markFailed, List.length_modify]
  refine ⟨?_, ?_, ?_, by simp, fun _ => ⟨failed, late, ?_, ?_⟩⟩
  · show taken.length ≤ List.length _
    rw [length]
    exact shown.bound
  · intro index item found
    obtain ⟨old, stood, before, here, after⟩ := final index item found
    constructor
    · intro sent
      by_contra beyond
      have waiting := shown.planned index old stood (by omega)
      rcases Nat.lt_trichotomy index failed with less | same | more
      · rw [before less, waiting] at sent
        simp at sent
      · rw [here same] at sent
        simp at sent
      · rcases after more with pending | same
        · rw [pending] at sent
          simp at sent
        · rw [same, waiting] at sent
          simp at sent
    · intro early
      rw [before (by omega)]
      exact (shown.sent index old stood early).1
  · intro index item found early
    obtain ⟨old, stood, before, -, -⟩ := final index item found
    rw [before (by omega)]
    exact (shown.sent index old stood early).2
  · show failed < List.length _
    rw [length]
    exact inside
  · intro index item found
    obtain ⟨old, stood, before, here, after⟩ := final index item found
    have unfailed : old.status ≠ .failed := by
      by_cases early : index < taken.length
      · rw [(shown.sent index old stood early).1]
        simp
      · rw [shown.planned index old stood (by omega)]
        simp
    constructor
    · intro broken
      by_contra elsewhere
      rcases Nat.lt_or_gt_of_ne elsewhere with less | more
      · rw [before less] at broken
        exact unfailed broken
      · rcases after more with pending | same
        · rw [pending] at broken
          simp at broken
        · rw [same] at broken
          exact unfailed broken
    · exact here

end

/-! ## Reports along a run -/

section

variable {crates : Crates} {session : Session} {taken : List (Option String)} {α : Type}

end

end Sending

end Weixin

end HarborGate
