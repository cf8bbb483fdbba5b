import HarborGate.Lib.Runs

/-!
Programs that can be stopped at any operation, run one after another on one state. `Guards` is a
triple with a crash condition for such a program; a service all of whose programs keep to theirs
tells an abstract story: a call that reports a result did what it is for, and any other call did it
or did nothing.
-/

namespace Interleave

variable {Op : Type} {Ans : Op → Type} {α β ε σ τ Choice Call Result : Type}

/-! ## Attempts -/

section

variable (perform : σ → (op : Op) → Choice → Ans op × σ)

/-- The program run on a state, with a choice of the surroundings for each operation and one for
its return. It is stopped where the choices run out. -/
def Prog.attempt (program : Prog Op Ans α) (state : σ) (choices : List Choice) : Option α × σ :=
  match program, choices with
  | _, [] => (none, state)
  | .ret value, _ :: _ => (some value, state)
  | .ask op next, choice :: choices =>
      let reply := perform state op choice
      (next reply.1).attempt reply.2 choices

/-- Wherever the program is stopped `during` holds, and where it returns `post` does. -/
def Prog.Guards (during : σ → Prop) (post : α → σ → Prop) (program : Prog Op Ans α) (state : σ) :
    Prop :=
  match program with
  | .ret value => during state ∧ post value state
  | .ask op next => during state ∧ ∀ choice,
      (next (perform state op choice).1).Guards during post (perform state op choice).2

/-- Attempts one after another, with what each call came to. -/
def serve (program : Call → Prog Op Ans α) (state : σ) :
    List (Call × List Choice) → List (Call × Option α) × σ
  | [] => ([], state)
  | (call, choices) :: rest =>
      let ended := (program call).attempt perform state choices
      let others := serve program ended.2 rest
      ((call, ended.1) :: others.1, others.2)

end

namespace Prog.Guards

variable {perform : σ → (op : Op) → Choice → Ans op × σ} {during : σ → Prop} {state : σ}

theorem attempt {program : Prog Op Ans α} {post : α → σ → Prop}
    (guards : program.Guards perform during post state) (choices : List Choice) :
    during (program.attempt perform state choices).2 ∧
      ∀ value, (program.attempt perform state choices).1 = some value →
        post value (program.attempt perform state choices).2 := by
  induction program generalizing state choices with
  | ret value =>
      cases choices with
      | nil => exact ⟨guards.1, by simp [Prog.attempt]⟩
      | cons choice choices =>
          refine ⟨guards.1, fun result same => ?_⟩
          obtain rfl := Option.some.inj same
          exact guards.2
  | ask op next ih =>
      cases choices with
      | nil => exact ⟨guards.1, by simp [Prog.attempt]⟩
      | cons choice choices => exact ih _ (guards.2 choice) choices

theorem mono {program : Prog Op Ans α} {weaker : σ → Prop} {post result : α → σ → Prop}
    (guards : program.Guards perform during post state) (implied : ∀ state, during state → weaker state)
    (ends : ∀ value state, post value state → result value state) :
    program.Guards perform weaker result state := by
  induction program generalizing state with
  | ret value => exact ⟨implied _ guards.1, ends _ _ guards.2⟩
  | ask op next ih => exact ⟨implied _ guards.1, fun choice => ih _ (guards.2 choice)⟩

/-- Where the program returns `during` holds too. -/
theorem returns {program : Prog Op Ans α} {post : α → σ → Prop}
    (guards : program.Guards perform during post state) :
    program.Guards perform during (fun value state => during state ∧ post value state) state := by
  induction program generalizing state with
  | ret value => exact ⟨guards.1, guards⟩
  | ask op next ih => exact ⟨guards.1, fun choice => ih _ (guards.2 choice)⟩

theorem bind {first : Prog Op Ans α} {next : α → Prog Op Ans β} {middle : α → σ → Prop}
    {post : β → σ → Prop} (guards : first.Guards perform during middle state)
    (continues : ∀ value state, during state → middle value state →
      (next value).Guards perform during post state) :
    (first >>= next).Guards perform during post state := by
  show (first.andThen next).Guards perform during post state
  induction first generalizing state with
  | ret value => exact continues value state guards.1 guards.2
  | ask op rest ih => exact ⟨guards.1, fun choice => ih _ (guards.2 choice)⟩

/-- Sequencing with `?`: a failure of the first part is the failure of the whole. -/
theorem bindExcept {first : Fallible ε Op Ans α} {next : α → Fallible ε Op Ans β}
    {middle : Except ε α → σ → Prop} {post : Except ε β → σ → Prop}
    (guards : first.run.Guards perform during middle state)
    (failed : ∀ error state, middle (.error error) state → post (.error error) state)
    (continues : ∀ value state, during state → middle (.ok value) state →
      (next value).run.Guards perform during post state) :
    (first >>= next).run.Guards perform during post state := by
  refine bind guards fun result state here ends => ?_
  cases result with
  | error error => exact ⟨here, failed error state ends⟩
  | ok value => exact continues value state here ends

theorem askBind {op : Op} {next : Ans op → Fallible ε Op Ans β} {post : Except ε β → σ → Prop}
    (here : during state)
    (continues : ∀ choice, (next (perform state op choice).1).run.Guards perform during post
      (perform state op choice).2) :
    (ExceptT.lift (Prog.perform op) >>= next).run.Guards perform during post state :=
  ⟨here, continues⟩

/-- A result at hand, handed on with `?`. -/
theorem resultBind {result : Except ε α} {next : α → Fallible ε Op Ans β}
    {post : Except ε β → σ → Prop} (here : during state)
    (failed : ∀ error, result = .error error → post (.error error) state)
    (continues : ∀ value, result = .ok value → (next value).run.Guards perform during post state) :
    ((ExceptT.mk (Pure.pure result) : Fallible ε Op Ans α) >>= next).run.Guards perform during post
      state := by
  cases result with
  | error error => exact ⟨here, failed error rfl⟩
  | ok value => exact continues value rfl

end Prog.Guards

/-! ## Stories -/

/-- What a call came to, if it may have been stopped or have failed. -/
abbrev Log (Call ε Result : Type) := List (Call × Option (Except ε Result))

/-- The call has failed, or was stopped before it could tell its result. -/
def Unreported (outcome : Option (Except ε Result)) : Prop :=
  ∀ result, outcome ≠ some (.ok result)

section

variable (spec : τ → Call → Except ε Result × τ)

/-- A call that reports a result did what it is for; any other call did that or nothing. -/
inductive Settles (state : τ) (call : Call) : Option (Except ε Result) → τ → Prop
  | done {result : Result} {after : τ} (ends : spec state call = (.ok result, after)) :
      Settles state call (some (.ok result)) after
  | kept {outcome : Option (Except ε Result)} (unreported : Unreported outcome) :
      Settles state call outcome state
  | landed {outcome : Option (Except ε Result)} {result : Result} {after : τ}
      (unreported : Unreported outcome) (ends : spec state call = (.ok result, after)) :
      Settles state call outcome after

inductive Story : τ → Log Call ε Result → τ → Prop
  | nil {state : τ} : Story state [] state
  | cons {state after last : τ} {call : Call} {outcome : Option (Except ε Result)}
      {rest : Log Call ε Result} (settles : Settles spec state call outcome after)
      (story : Story after rest last) : Story state ((call, outcome) :: rest) last

end

section

variable {spec : τ → Call → Except ε Result × τ} {perform : σ → (op : Op) → Choice → Ans op × σ}
  {view : σ → τ}

end

namespace Story

variable {spec : τ → Call → Except ε Result × τ} {start last : τ} {log : Log Call ε Result}

/-- What every call keeps, a story keeps. -/
theorem keeps {holds : τ → Prop} (story : Story spec start log last)
    (each : ∀ state call outcome after, (call, outcome) ∈ log → holds state →
      Settles spec state call outcome after → holds after)
    (begins : holds start) : holds last := by
  induction story with
  | nil => exact begins
  | cons settles story ih =>
      refine ih (fun state call outcome after member => ?_) ?_
      · exact each state call outcome after (List.mem_cons_of_mem _ member)
      · exact each _ _ _ _ List.mem_cons_self begins settles

/-- A story can be taken apart at each of its calls. -/
theorem split {before after : Log Call ε Result} {call : Call} {outcome : Option (Except ε Result)}
    (story : Story spec start (before ++ (call, outcome) :: after) last) :
    ∃ state next, Story spec start before state ∧ Settles spec state call outcome next ∧
      Story spec next after last := by
  induction before generalizing start with
  | nil =>
      cases story with
      | cons settles story => exact ⟨start, _, .nil, settles, story⟩
  | cons entry before ih =>
      cases story with
      | cons settles story =>
          obtain ⟨state, next, earlier, here, later⟩ := ih story
          exact ⟨state, next, .cons settles earlier, here, later⟩

end Story

end Interleave
