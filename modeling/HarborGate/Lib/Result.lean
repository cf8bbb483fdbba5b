/-!
Inversion of `Except` computations: a computation that succeeded is taken apart one
bind at a time.
-/

namespace Result

variable {ε α β : Type}

theorem bind_eq_ok {first : Except ε α} {next : α → Except ε β} {result : β} :
    (first >>= next) = .ok result ↔ ∃ value, first = .ok value ∧ next value = .ok result := by
  cases first with
  | error reason => simp [bind, Except.bind]
  | ok value => simp [bind, Except.bind]

theorem pure_eq_ok {value result : α} :
    (pure value : Except ε α) = .ok result ↔ value = result := by
  simp [pure, Except.pure]

theorem map_eq_ok {first : Except ε α} {change : α → β} {result : β} :
    first.map change = .ok result ↔ ∃ value, first = .ok value ∧ change value = result := by
  cases first with
  | error reason => simp [Except.map]
  | ok value => simp [Except.map]

theorem mapError_eq_ok {first : Except ε α} {change : ε → β} {result : α} :
    first.mapError change = .ok result ↔ first = .ok result := by
  cases first with
  | error reason =>
      constructor
      · intro same
        cases same
      · intro same
        cases same
  | ok value =>
      constructor
      · rintro ⟨⟩
        rfl
      · rintro ⟨⟩
        rfl

/-- Every error the computation can end with is an allowed one. -/
def FailsOnly (allowed : ε → Prop) (result : Except ε α) : Prop :=
  ∀ error, result = .error error → allowed error

theorem FailsOnly.ok {allowed : ε → Prop} (value : α) :
    FailsOnly allowed (.ok value : Except ε α) := by
  intro error same
  simp at same

theorem FailsOnly.error {allowed : ε → Prop} {reason : ε} (holds : allowed reason) :
    FailsOnly allowed (.error reason : Except ε α) := by
  intro error same
  obtain rfl := Except.error.inj same
  exact holds

theorem FailsOnly.bind {allowed : ε → Prop} {first : Except ε α} {next : α → Except ε β}
    (fails : FailsOnly allowed first)
    (continues : ∀ value, first = .ok value → FailsOnly allowed (next value)) :
    FailsOnly allowed (first >>= next) := by
  cases first with
  | error reason => exact FailsOnly.error (fails reason rfl)
  | ok value => exact continues value rfl

end Result
