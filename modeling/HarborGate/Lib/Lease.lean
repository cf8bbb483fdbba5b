import Mathlib.Data.List.Basic
import Mathlib.Tactic.ByContra

/-!
Records that workers claim for a limited time. A claim is marked with a token, and a worker gives a
record back, or closes it, only while it is held under the token of the worker's own claim.
-/

namespace Lease

variable {Token : Type}

/-- A held record may be claimed again from `due` on, a closed one removed from `keep` on. -/
inductive Slot (Token : Type)
  | absent
  | free
  | held (token : Token) (due : Int)
  | closed (keep : Int)

inductive Label (Token : Type)
  | idle
  | claim (token : Token)
  | release (token : Token)

/-- What one operation at the moment `now` may do to a record. A record closed while it is held
stays at least until the claim has expired. -/
inductive Step (now : Int) : Slot Token → Label Token → Slot Token → Prop
  | stay (slot : Slot Token) : Step now slot .idle slot
  | add : Step now .absent .idle .free
  | claim (token : Token) (due : Int) : Step now .free (.claim token) (.held token due)
  | reclaim {old : Token} {expired : Int} (token : Token) (due : Int) (passed : expired ≤ now) :
      Step now (.held old expired) (.claim token) (.held token due)
  | release (token : Token) (due : Int) : Step now (.held token due) (.release token) .free
  | drop (keep : Int) : Step now .free .idle (.closed keep)
  | close {token : Token} {due : Int} (keep : Int) (covers : due ≤ keep) :
      Step now (.held token due) .idle (.closed keep)
  | remove {keep : Int} (passed : keep ≤ now) : Step now (.closed keep) .idle .absent

structure Entry (Token : Type) where
  now : Int
  label : Label Token

inductive Run : Slot Token → List (Entry Token) → Slot Token → Prop
  | nil (slot : Slot Token) : Run slot [] slot
  | cons {first middle last : Slot Token} {now : Int} {label : Label Token}
      {trace : List (Entry Token)} (step : Step now first label middle)
      (rest : Run middle trace last) : Run first (⟨now, label⟩ :: trace) last

namespace Run

theorem append {first middle last : Slot Token} {trace more : List (Entry Token)}
    (left : Run first trace middle) (right : Run middle more last) :
    Run first (trace ++ more) last := by
  induction left with
  | nil => exact right
  | cons step _ ih => exact .cons step (ih right)

theorem single {first last : Slot Token} {now : Int} {label : Label Token}
    (step : Step now first label last) : Run first [⟨now, label⟩] last :=
  .cons step (.nil last)

theorem split {first last : Slot Token} {before after : List (Entry Token)}
    (run : Run first (before ++ after) last) :
    ∃ middle, Run first before middle ∧ Run middle after last := by
  induction before generalizing first with
  | nil => exact ⟨first, .nil first, run⟩
  | cons entry before ih =>
      cases run with
      | cons step rest =>
          obtain ⟨middle, left, right⟩ := ih rest
          exact ⟨middle, .cons step left, right⟩

/-- A closed record is left alone until it may be removed. -/
theorem closed_stays {keep : Int} {trace : List (Entry Token)} {last : Slot Token}
    (run : Run (.closed keep) trace last) (early : ∀ entry ∈ trace, entry.now < keep) :
    last = .closed keep ∧ ∀ entry ∈ trace, entry.label = .idle := by
  induction trace with
  | nil =>
      cases run
      exact ⟨rfl, by simp⟩
  | cons entry trace ih =>
      have before := early entry List.mem_cons_self
      cases run with
      | cons step rest =>
          cases step with
          | stay =>
              have later := ih rest fun entry member => early entry (List.mem_cons_of_mem _ member)
              refine ⟨later.1, fun other member => ?_⟩
              rcases List.mem_cons.mp member with rfl | member
              · rfl
              · exact later.2 other member
          | remove passed =>
              have passed : keep ≤ _ := passed
              simp only at before
              omega

/-- A record leaves the hands of its claimant given back by the claimant itself, by the passing of
the lease, or closed for longer than the lease. -/
theorem held_until {token : Token} {due : Int} {trace : List (Entry Token)} {last : Slot Token}
    (run : Run (.held token due) trace last) :
    (∃ entry ∈ trace, entry.label = .release token) ∨ (∃ entry ∈ trace, due ≤ entry.now) ∨
      last = .held token due ∨ ∃ keep, last = .closed keep ∧ due ≤ keep := by
  induction trace with
  | nil =>
      cases run
      exact .inr (.inr (.inl rfl))
  | cons entry trace ih =>
      cases run with
      | cons step rest =>
          cases step with
          | stay =>
              rcases ih rest with ⟨other, member, released⟩ | ⟨other, member, passed⟩ | held
              · exact .inl ⟨other, List.mem_cons_of_mem _ member, released⟩
              · exact .inr (.inl ⟨other, List.mem_cons_of_mem _ member, passed⟩)
              · exact .inr (.inr held)
          | reclaim _ _ passed => exact .inr (.inl ⟨_, List.mem_cons_self, passed⟩)
          | release => exact .inl ⟨_, List.mem_cons_self, rfl⟩
          | close keep covers =>
              by_cases early : ∀ other ∈ trace, other.now < keep
              · exact .inr (.inr (.inr ⟨keep, (closed_stays rest early).1, covers⟩))
              · have late : ∃ other ∈ trace, keep ≤ other.now := by
                  by_contra none
                  exact early fun other member => by
                    by_contra bound
                    exact none ⟨other, member, by omega⟩
                obtain ⟨other, member, late⟩ := late
                exact .inr (.inl ⟨other, List.mem_cons_of_mem _ member, by omega⟩)

/-- Between two claims of a record the first claimant gave it back, or its lease is over at the
second. -/
theorem claims_separated {token later : Token} {due now : Int} {before after : List (Entry Token)}
    {last : Slot Token} (run : Run (.held token due) (before ++ ⟨now, .claim later⟩ :: after) last)
    (ordered : ∀ entry ∈ before, entry.now ≤ now) :
    (∃ entry ∈ before, entry.label = .release token) ∨ due ≤ now := by
  obtain ⟨middle, first, second⟩ := run.split
  rcases first.held_until with released | ⟨entry, member, passed⟩ | rfl | ⟨keep, rfl, -⟩
  · exact .inl released
  · have bound := ordered entry member
    exact .inr (by omega)
  · cases second with
    | cons step rest =>
        cases step with
        | reclaim _ _ passed => exact .inr passed
  · cases second with
    | cons step rest => cases step

/-- A record that a token does not hold is never held by it unless it is claimed with it. -/
theorem not_held {token : Token} {trace : List (Entry Token)} {first last : Slot Token}
    (run : Run first trace last) (other : ∀ due, first ≠ .held token due)
    (fresh : ∀ entry ∈ trace, entry.label ≠ .claim token) : ∀ due, last ≠ .held token due := by
  induction run with
  | nil => exact other
  | cons step rest ih =>
      refine ih ?_ fun entry member => fresh entry (List.mem_cons_of_mem _ member)
      have head := fresh _ List.mem_cons_self
      cases step with
      | stay => exact other
      | claim used | reclaim used =>
          intro due same
          obtain ⟨rfl, -⟩ := Slot.held.inj same
          exact head rfl
      | add | release | drop | close | remove => simp

/-- Once a record was claimed anew, the token of the earlier claim no longer holds it. -/
theorem superseded {token later : Token} {now : Int} {before after : List (Entry Token)}
    {first last : Slot Token} (run : Run first (before ++ ⟨now, .claim later⟩ :: after) last)
    (other : later ≠ token) (fresh : ∀ entry ∈ after, entry.label ≠ .claim token) :
    ∀ due, last ≠ .held token due := by
  obtain ⟨middle, -, rest⟩ := run.split
  cases rest with
  | cons step rest =>
      refine rest.not_held ?_ fresh
      cases step with
      | claim | reclaim =>
          intro due same
          exact other (Slot.held.inj same).1

end Run

end Lease
