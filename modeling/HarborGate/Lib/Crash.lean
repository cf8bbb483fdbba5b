/-!
Scripts that take one command after another on a shared state and can be stopped between any two
of them. `Holds` is a triple with a crash condition: what is true of the commands done and the
state wherever the script is stopped, and what is true where it ends.
-/

namespace Crash

/-- A script ends with a value or a failure status, takes one command, or looks at the state. -/
inductive Script (Cmd σ α : Type)
  | done (value : α)
  | fail (status : Nat)
  | step (cmd : Cmd) (next : Script Cmd σ α)
  | look (next : σ → Script Cmd σ α)

variable {Cmd σ α β : Type}

def Script.andThen (first : Script Cmd σ α) (next : α → Script Cmd σ β) : Script Cmd σ β :=
  match first with
  | .done value => next value
  | .fail status => .fail status
  | .step cmd rest => .step cmd (rest.andThen next)
  | .look rest => .look fun state => (rest state).andThen next

instance : Monad (Script Cmd σ) where
  pure := .done
  bind := Script.andThen

def Script.command (cmd : Cmd) : Script Cmd σ Unit :=
  .step cmd (.done ())

def Script.read : Script Cmd σ σ :=
  .look .done

/-- A test that the script ends with `status` if it fails. -/
def Script.check (test : σ → Bool) (status : Nat) : Script Cmd σ Unit :=
  .look fun state => if test state then .done () else .fail status

def Script.forEach {ι : Type} (body : ι → Script Cmd σ Unit) : List ι → Script Cmd σ Unit
  | [] => .done ()
  | item :: rest => (body item).andThen fun _ => Script.forEach body rest

section

variable (exec : Cmd → σ → σ)

/-- Where the script stands after at most `limit` commands: the commands done since `trace`
began, the state, and the result if it has ended. -/
def Script.upTo (limit : Nat) (script : Script Cmd σ α) (trace : List Cmd) (state : σ) :
    Option (Except Nat α) × List Cmd × σ :=
  match script with
  | .done value => (some (.ok value), trace, state)
  | .fail status => (some (.error status), trace, state)
  | .step cmd rest =>
      match limit with
      | 0 => (none, trace, state)
      | limit + 1 => rest.upTo limit (trace ++ [cmd]) (exec cmd state)
  | .look rest => (rest state).upTo limit trace state

/-- The script run to its end. -/
def Script.run (script : Script Cmd σ α) (trace : List Cmd) (state : σ) :
    Except Nat α × List Cmd × σ :=
  match script with
  | .done value => (.ok value, trace, state)
  | .fail status => (.error status, trace, state)
  | .step cmd rest => rest.run (trace ++ [cmd]) (exec cmd state)
  | .look rest => (rest state).run trace state

def Script.Holds (during : List Cmd → σ → Prop) (post : Except Nat α → List Cmd → σ → Prop)
    (script : Script Cmd σ α) (trace : List Cmd) (state : σ) : Prop :=
  match script with
  | .done value => during trace state ∧ post (.ok value) trace state
  | .fail status => during trace state ∧ post (.error status) trace state
  | .step cmd rest =>
      during trace state ∧ rest.Holds during post (trace ++ [cmd]) (exec cmd state)
  | .look rest => (rest state).Holds during post trace state

end

namespace Script.Holds

variable {exec : Cmd → σ → σ} {during : List Cmd → σ → Prop} {trace : List Cmd} {state : σ}

theorem upTo {script : Script Cmd σ α} {post : Except Nat α → List Cmd → σ → Prop}
    (holds : script.Holds exec during post trace state) (limit : Nat) :
    during (script.upTo exec limit trace state).2.1 (script.upTo exec limit trace state).2.2 ∧
      ∀ result, (script.upTo exec limit trace state).1 = some result →
        post result (script.upTo exec limit trace state).2.1
          (script.upTo exec limit trace state).2.2 := by
  induction script generalizing limit trace state with
  | done value =>
      refine ⟨holds.1, fun result same => ?_⟩
      obtain rfl := Option.some.inj same
      exact holds.2
  | fail status =>
      refine ⟨holds.1, fun result same => ?_⟩
      obtain rfl := Option.some.inj same
      exact holds.2
  | step cmd rest ih =>
      cases limit with
      | zero => exact ⟨holds.1, fun result same => by simp [Script.upTo] at same⟩
      | succ limit => exact ih holds.2 limit
  | look rest ih => exact ih state holds limit

theorem run {script : Script Cmd σ α} {post : Except Nat α → List Cmd → σ → Prop}
    (holds : script.Holds exec during post trace state) :
    during (script.run exec trace state).2.1 (script.run exec trace state).2.2 ∧
      post (script.run exec trace state).1 (script.run exec trace state).2.1
        (script.run exec trace state).2.2 := by
  induction script generalizing trace state with
  | done value => exact holds
  | fail status => exact holds
  | step cmd rest ih => exact ih holds.2
  | look rest ih => exact ih state holds

theorem mono {script : Script Cmd σ α} {weaker : List Cmd → σ → Prop}
    {post result : Except Nat α → List Cmd → σ → Prop}
    (holds : script.Holds exec during post trace state)
    (implied : ∀ trace state, during trace state → weaker trace state)
    (ends : ∀ value trace state, during trace state → post value trace state →
      result value trace state) :
    script.Holds exec weaker result trace state := by
  induction script generalizing trace state with
  | done value => exact ⟨implied _ _ holds.1, ends _ _ _ holds.1 holds.2⟩
  | fail status => exact ⟨implied _ _ holds.1, ends _ _ _ holds.1 holds.2⟩
  | step cmd rest ih => exact ⟨implied _ _ holds.1, ih holds.2⟩
  | look rest ih => exact ih state holds

theorem bind {first : Script Cmd σ α} {next : α → Script Cmd σ β}
    (middle : Except Nat α → List Cmd → σ → Prop) {post : Except Nat β → List Cmd → σ → Prop}
    (holds : first.Holds exec during middle trace state)
    (failed : ∀ status trace state, during trace state → middle (.error status) trace state →
      post (.error status) trace state)
    (continues : ∀ value trace state, during trace state → middle (.ok value) trace state →
      (next value).Holds exec during post trace state) :
    (first >>= next).Holds exec during post trace state := by
  show (first.andThen next).Holds exec during post trace state
  induction first generalizing trace state with
  | done value => exact continues value trace state holds.1 holds.2
  | fail status => exact ⟨holds.1, failed status trace state holds.1 holds.2⟩
  | step cmd rest ih => exact ⟨holds.1, ih holds.2⟩
  | look rest ih => exact ih state holds

theorem pure {value : α} {post : Except Nat α → List Cmd → σ → Prop} (here : during trace state)
    (ends : post (.ok value) trace state) :
    (Pure.pure value : Script Cmd σ α).Holds exec during post trace state :=
  ⟨here, ends⟩

theorem command {cmd : Cmd} {post : Except Nat Unit → List Cmd → σ → Prop}
    (here : during trace state) (after : during (trace ++ [cmd]) (exec cmd state))
    (ends : post (.ok ()) (trace ++ [cmd]) (exec cmd state)) :
    (Script.command cmd).Holds exec during post trace state :=
  ⟨here, after, ends⟩

theorem commandBind {cmd : Cmd} {next : Unit → Script Cmd σ β}
    {post : Except Nat β → List Cmd → σ → Prop} (here : during trace state)
    (continues : (next ()).Holds exec during post (trace ++ [cmd]) (exec cmd state)) :
    (Script.command cmd >>= next).Holds exec during post trace state :=
  ⟨here, continues⟩

theorem readBind {next : σ → Script Cmd σ β} {post : Except Nat β → List Cmd → σ → Prop}
    (continues : (next state).Holds exec during post trace state) :
    (Script.read >>= next).Holds exec during post trace state :=
  continues

/-- A test that is known to pass. -/
theorem checkBind {test : σ → Bool} {status : Nat} {next : Unit → Script Cmd σ β}
    {post : Except Nat β → List Cmd → σ → Prop} (passes : test state = true)
    (continues : (next ()).Holds exec during post trace state) :
    (Script.check test status >>= next).Holds exec during post trace state := by
  show (Script.andThen (if test state then .done () else .fail status) next).Holds exec during post
    trace state
  rw [if_pos passes]
  exact continues

theorem check {test : σ → Bool} {status : Nat} {post : Except Nat Unit → List Cmd → σ → Prop}
    (passes : test state = true) (here : during trace state) (ends : post (.ok ()) trace state) :
    (Script.check test status).Holds exec during post trace state := by
  show (if test state then .done () else .fail status : Script Cmd σ Unit).Holds exec during post
    trace state
  rw [if_pos passes]
  exact ⟨here, ends⟩

/-- A test that is known to fail. -/
theorem checkFails {test : σ → Bool} {status : Nat} {next : Unit → Script Cmd σ β}
    {post : Except Nat β → List Cmd → σ → Prop} (fails : test state = false)
    (here : during trace state) (ends : post (.error status) trace state) :
    (Script.check test status >>= next).Holds exec during post trace state := by
  show (Script.andThen (if test state then .done () else .fail status) next).Holds exec during post
    trace state
  rw [fails]
  exact ⟨here, ends⟩

/-- The loop rule: an invariant indexed by the items done. -/
theorem forEach {ι : Type} {body : ι → Script Cmd σ Unit} {items : List ι}
    (invariant : List ι → List Cmd → σ → Prop) {post : Except Nat Unit → List Cmd → σ → Prop}
    (here : during trace state) (start : invariant [] trace state)
    (round : ∀ before item after trace state, items = before ++ item :: after →
      during trace state → invariant before trace state →
      (body item).Holds exec during (fun result trace state =>
        match result with
        | .ok _ => invariant (before ++ [item]) trace state
        | .error status => post (.error status) trace state) trace state)
    (ends : ∀ trace state, during trace state → invariant items trace state →
      post (.ok ()) trace state) :
    (Script.forEach body items).Holds exec during post trace state := by
  have general : ∀ (rest before : List ι) (trace : List Cmd) (state : σ),
      items = before ++ rest → during trace state → invariant before trace state →
      (Script.forEach body rest).Holds exec during post trace state := by
    intro rest
    induction rest with
    | nil =>
        intro before trace state split here reached
        rw [List.append_nil] at split
        subst split
        exact ⟨here, ends trace state here reached⟩
    | cons item rest ih =>
        intro before trace state split here reached
        refine bind _ (round before item rest trace state split here reached) ?_ ?_
        · exact fun status trace state _ failed => failed
        · intro _ trace state here reached
          exact ih (before ++ [item]) trace state (by simp [split]) here reached
  exact general items [] trace state rfl here start

end Script.Holds

end Crash
