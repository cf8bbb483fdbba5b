import HarborGate.Lib.Interleave

/-!
Runs of one program taken apart along the program: what a run of a sequence is made of, and how a
program for few questions runs inside one that asks more.
-/

namespace Interleave

variable {Op : Type} {Ans : Op → Type} {α β ε : Type}

/-- What was asked and what was answered. -/
abbrev Asked (Op : Type) (Ans : Op → Type) := List (Σ op, Ans op)

namespace Prog.Run

variable {events : Asked Op Ans}

/-- A run may stop right before it returns. -/
theorem cut {program : Prog Op Ans α} {outcome : Option α} (run : program.Run events outcome) :
    program.Run events none := by
  induction run with
  | stopped program => exact .stopped program
  | returned value => exact .stopped _
  | asked answer run ih => exact .asked answer ih

theorem ret_inv {value : α} {outcome : Option α} (run : (Prog.ret value : Prog Op Ans α).Run events outcome) :
    events = [] ∧ (outcome = none ∨ outcome = some value) := by
  cases run with
  | stopped => exact ⟨rfl, Or.inl rfl⟩
  | returned => exact ⟨rfl, Or.inr rfl⟩

theorem bind_inv {first : Prog Op Ans α} {next : α → Prog Op Ans β} {outcome : Option β}
    (run : (first >>= next).Run events outcome) :
    outcome = none ∧ first.Run events none ∨
      ∃ value earlier later, first.Run earlier (some value) ∧ (next value).Run later outcome ∧
        events = earlier ++ later := by
  change (first.andThen next).Run events outcome at run
  induction first generalizing events with
  | ret value => exact Or.inr ⟨value, [], events, .returned value, run, rfl⟩
  | ask op rest ih =>
      cases run with
      | stopped => exact Or.inl ⟨rfl, .stopped _⟩
      | asked answer run =>
          rcases ih answer run with ⟨rfl, stopped⟩ | ⟨value, earlier, later, ran, goes, rfl⟩
          · exact Or.inl ⟨rfl, .asked answer stopped⟩
          · exact Or.inr ⟨value, ⟨op, answer⟩ :: earlier, later, .asked answer ran, goes, rfl⟩

/-- Sequencing with `?`: the first part stops or fails, or the second part follows it. -/
theorem bindExcept_inv {first : Fallible ε Op Ans α} {next : α → Fallible ε Op Ans β}
    {outcome : Option (Except ε β)} (run : Prog.Run (first >>= next).run events outcome) :
    outcome = none ∧ Prog.Run first.run events none ∨
      (∃ error, outcome = some (.error error) ∧ Prog.Run first.run events (some (.error error))) ∨
      ∃ value earlier later, Prog.Run first.run earlier (some (.ok value)) ∧
        Prog.Run (next value).run later outcome ∧ events = earlier ++ later := by
  rcases bind_inv run with ⟨rfl, stopped⟩ | ⟨result, earlier, later, ran, goes, rfl⟩
  · exact Or.inl ⟨rfl, stopped⟩
  · cases result with
    | error error =>
        obtain ⟨rfl, rfl | rfl⟩ := ret_inv goes
        · refine Or.inl ⟨rfl, ?_⟩
          rw [List.append_nil]
          exact ran.cut
        · refine Or.inr (Or.inl ⟨error, rfl, ?_⟩)
          rw [List.append_nil]
          exact ran
    | ok value => exact Or.inr (Or.inr ⟨value, earlier, later, ran, goes, rfl⟩)

/-- A result at hand, handed on with `?`. -/
theorem resultBind_inv {result : Except ε α} {next : α → Fallible ε Op Ans β}
    {outcome : Option (Except ε β)}
    (run : Prog.Run ((ExceptT.mk (Pure.pure result) : Fallible ε Op Ans α) >>= next).run events
      outcome) :
    (∃ error, result = .error error ∧ events = [] ∧
      (outcome = none ∨ outcome = some (.error error))) ∨
      ∃ value, result = .ok value ∧ Prog.Run (next value).run events outcome := by
  cases result with
  | error error =>
      obtain ⟨rfl, ended⟩ := ret_inv run
      exact Or.inl ⟨error, rfl, rfl, ended⟩
  | ok value => exact Or.inr ⟨value, rfl, run⟩

/-- A question whose answer the rest of the program looks at. -/
theorem askBind_inv {op : Op} {next : Ans op → Fallible ε Op Ans β}
    {outcome : Option (Except ε β)}
    (run : Prog.Run (ExceptT.lift (Prog.perform op) >>= next).run events outcome) :
    events = [] ∧ outcome = none ∨
      ∃ answer later, events = ⟨op, answer⟩ :: later ∧ Prog.Run (next answer).run later outcome := by
  cases run with
  | stopped => exact Or.inl ⟨rfl, rfl⟩
  | asked answer run => exact Or.inr ⟨answer, _, rfl, run⟩

/-- A program whose outcome, whatever it is, the rest looks at. -/
theorem liftBind_inv {first : Prog Op Ans α} {next : α → Fallible ε Op Ans β}
    {outcome : Option (Except ε β)}
    (run : Prog.Run (ExceptT.lift first >>= next).run events outcome) :
    outcome = none ∧ first.Run events none ∨
      ∃ value earlier later, first.Run earlier (some value) ∧
        Prog.Run (next value).run later outcome ∧ events = earlier ++ later := by
  rcases bindExcept_inv run with ⟨rfl, stopped⟩ | ⟨error, -, failed⟩ |
    ⟨value, earlier, later, lifted, goes, rfl⟩
  · rcases bind_inv stopped with ⟨-, cut⟩ | ⟨value, earlier, later, ran, ends, rfl⟩
    · exact Or.inl ⟨rfl, cut⟩
    · obtain ⟨rfl, -⟩ := ret_inv ends
      rw [List.append_nil]
      exact Or.inl ⟨rfl, ran.cut⟩
  · rcases bind_inv failed with ⟨mismatch, -⟩ | ⟨value, earlier, later, ran, ends, rfl⟩
    · cases mismatch
    · obtain ⟨-, mismatch | mismatch⟩ := ret_inv ends <;> cases mismatch
  · rcases bind_inv lifted with ⟨mismatch, -⟩ | ⟨result, own, rest, ran, ends, rfl⟩
    · cases mismatch
    · obtain ⟨rfl, mismatch | same⟩ := ret_inv ends
      · cases mismatch
      · obtain rfl := Except.ok.inj (Option.some.inj same)
        rw [List.append_nil]
        exact Or.inr ⟨value, own, later, ran, goes, rfl⟩

theorem asks {test : Op → Bool} {program : Prog Op Ans α} {outcome : Option α}
    (passes : program.Asks test) (run : program.Run events outcome) :
    ∀ event ∈ events, test event.1 = true := by
  induction run with
  | stopped program => simp
  | returned value => simp
  | asked answer run ih =>
      intro event member
      rcases List.mem_cons.mp member with rfl | later
      · exact passes.1
      · exact ih (passes.2 answer) event later

end Prog.Run

/-! ## Questions of programs that may fail -/

namespace Prog.Asks

variable {test : Op → Bool}

theorem askBind {op : Op} {next : Ans op → Fallible ε Op Ans β} (passes : test op = true)
    (continues : ∀ answer, Prog.Asks test (next answer).run) :
    Prog.Asks test (ExceptT.lift (Prog.perform op) >>= next).run :=
  ⟨passes, continues⟩

theorem liftBind {first : Prog Op Ans α} {next : α → Fallible ε Op Ans β}
    (asks : first.Asks test) (continues : ∀ value, Prog.Asks test (next value).run) :
    Prog.Asks test (ExceptT.lift first >>= next).run := by
  have lifted : Prog.Asks test (ExceptT.lift first : Fallible ε Op Ans α).run :=
    bind asks fun value => trivial
  exact bindExcept lifted continues

theorem resultBind {result : Except ε α} {next : α → Fallible ε Op Ans β}
    (continues : ∀ value, Prog.Asks test (next value).run) :
    Prog.Asks test ((ExceptT.mk (Pure.pure result) : Fallible ε Op Ans α) >>= next).run := by
  cases result with
  | error error => trivial
  | ok value => exact continues value

end Prog.Asks

/-! ## Loops that end at the first error -/

section Loops

variable {ι σ : Type}

/-- A `for` loop whose body may end the function with `?`. -/
def Fallible.forEach (step : σ → ι → Fallible ε Op Ans σ) (state : σ) :
    List ι → Fallible ε Op Ans σ
  | [] => pure state
  | item :: rest => do
      let next ← step state item
      forEach step next rest

theorem Prog.Asks.forEach {test : Op → Bool} {step : σ → ι → Fallible ε Op Ans σ}
    (asks : ∀ state item, Prog.Asks test (step state item).run) (state : σ) (items : List ι) :
    Prog.Asks test (Fallible.forEach step state items).run := by
  induction items generalizing state with
  | nil => trivial
  | cons item rest ih => exact Prog.Asks.bindExcept (asks state item) ih

/-- A loop whose rounds keep an invariant of phase, state and remaining items, and fail in phases of
one kind. -/
theorem Prog.Follows.forEach {Phase : Type} {protocol : Protocol Op Ans Phase}
    {step : σ → ι → Fallible ε Op Ans σ} (invariant : Phase → σ → List ι → Prop)
    (failure : Phase → ε → Prop)
    (each : ∀ phase state item rest, invariant phase state (item :: rest) →
      Prog.Follows protocol phase (step state item).run fun after result =>
        (∀ next, result = .ok next → invariant after next rest) ∧
          ∀ error, result = .error error → failure after error)
    {phase : Phase} {state : σ} {items : List ι} (before : invariant phase state items) :
    Prog.Follows protocol phase (Fallible.forEach step state items).run fun after result =>
      (∀ reached, result = .ok reached → invariant after reached []) ∧
        ∀ error, result = .error error → failure after error := by
  induction items generalizing phase state with
  | nil =>
      refine ⟨fun reached same => ?_, fun error same => ?_⟩
      · obtain rfl := Except.ok.inj same
        exact before
      · cases same
  | cons item rest ih =>
      refine Prog.Follows.bindExcept (each phase state item rest before) ?_ ?_
      · intro after error ended
        refine ⟨fun reached same => ?_, fun other same => ?_⟩
        · cases same
        · obtain rfl := Except.error.inj same
          exact ended.2 error rfl
      · intro after next ended
        exact ih (ended.1 next rfl)

/-- Rounds of a loop that all end well, with what they ask and the state they lead to. -/
inductive Rounds (step : σ → ι → Fallible ε Op Ans σ) :
    σ → List ι → Asked Op Ans → σ → Prop
  | none (state : σ) : Rounds step state [] [] state
  | more {state next last : σ} {item : ι} {rest : List ι} {own events : Asked Op Ans}
      (run : Prog.Run (step state item).run own (some (.ok next)))
      (rounds : Rounds step next rest events last) :
      Rounds step state (item :: rest) (own ++ events) last

/-- How a loop ends behind its complete rounds: with the list, or in the round of the next item. -/
inductive LoopEnd (step : σ → ι → Fallible ε Op Ans σ) (reached : σ) :
    List ι → Asked Op Ans → Option (Except ε σ) → Prop
  | complete {outcome : Option (Except ε σ)} (ended : outcome = none ∨ outcome = some (.ok reached)) :
      LoopEnd step reached [] [] outcome
  | stopped {item : ι} {rest : List ι} {events : Asked Op Ans}
      (run : Prog.Run (step reached item).run events none) :
      LoopEnd step reached (item :: rest) events none
  | failed {item : ι} {rest : List ι} {events : Asked Op Ans} {error : ε}
      (run : Prog.Run (step reached item).run events (some (.error error))) :
      LoopEnd step reached (item :: rest) events (some (.error error))

theorem forEach_inv {step : σ → ι → Fallible ε Op Ans σ} {state : σ} {items : List ι}
    {events : Asked Op Ans} {outcome : Option (Except ε σ)}
    (run : Prog.Run (Fallible.forEach step state items).run events outcome) :
    ∃ done rest own last reached, items = done ++ rest ∧ Rounds step state done own reached ∧
      LoopEnd step reached rest last outcome ∧ events = own ++ last := by
  induction items generalizing state events with
  | nil =>
      obtain ⟨rfl, ended⟩ := Prog.Run.ret_inv run
      exact ⟨[], [], [], [], state, rfl, .none state, .complete ended, rfl⟩
  | cons item rest ih =>
      rcases Prog.Run.bindExcept_inv run with ⟨rfl, stopped⟩ | ⟨error, rfl, failed⟩ |
        ⟨next, earlier, later, ran, goes, rfl⟩
      · exact ⟨[], item :: rest, [], events, state, rfl, .none state, .stopped stopped, rfl⟩
      · exact ⟨[], item :: rest, [], events, state, rfl, .none state, .failed failed, rfl⟩
      · obtain ⟨done, remaining, own, last, reached, rfl, rounds, ends, rfl⟩ := ih goes
        exact ⟨item :: done, remaining, earlier ++ own, last, reached, rfl, .more ran rounds, ends,
          by simp⟩

/-- Rounds that each do one thing to the state, seen as one block of events for each item. -/
theorem Rounds.blocks {step : σ → ι → Fallible ε Op Ans σ} {holds : ι → Asked Op Ans → Prop}
    {state reached : σ} {items : List ι} {events : Asked Op Ans}
    (each : ∀ state next item own, Prog.Run (step state item).run own (some (.ok next)) →
      holds item own)
    (rounds : Rounds step state items events reached) :
    ∃ blocks, List.Forall₂ holds items blocks ∧ events = blocks.flatten := by
  induction rounds with
  | none state => exact ⟨[], .nil, rfl⟩
  | more run rounds ih =>
      obtain ⟨blocks, all, rfl⟩ := ih
      exact ⟨_ :: blocks, .cons (each _ _ _ _ run) all, rfl⟩

/-- What every round keeps, all of them keep. -/
theorem Rounds.keeps {step : σ → ι → Fallible ε Op Ans σ}
    (invariant : List ι → Asked Op Ans → σ → Prop) {state reached : σ} {items : List ι}
    {events : Asked Op Ans} (rounds : Rounds step state items events reached)
    (each : ∀ done earlier state next item own, invariant done earlier state →
      Prog.Run (step state item).run own (some (.ok next)) →
      invariant (done ++ [item]) (earlier ++ own) next)
    (before : invariant [] [] state) : invariant items events reached := by
  have onwards : ∀ done earlier, invariant done earlier state →
      invariant (done ++ items) (earlier ++ events) reached := by
    clear before
    induction rounds with
    | none state =>
        intro done earlier before
        rw [List.append_nil, List.append_nil]
        exact before
    | more run rounds ih =>
        intro done earlier before
        have later := ih _ _ (each _ _ _ _ _ _ before run)
        simpa using later
  exact onwards [] [] before

end Loops

/-! ## What may be asked after what -/

/-- The protocol whose phase is all that was asked and answered so far, the latest first. -/
def Protocol.history (allowed : Asked Op Ans → Op → Prop) : Protocol Op Ans (Asked Op Ans) where
  allows := allowed
  possible _ _ := True
  next past op answer := ⟨op, answer⟩ :: past

theorem Protocol.history_after (allowed : Asked Op Ans → Op → Prop) (past events : Asked Op Ans) :
    (Protocol.history allowed).after past events = events.reverse ++ past := by
  induction events generalizing past with
  | nil => rfl
  | cons event rest ih =>
      rw [Protocol.after_cons, ih]
      simp [Protocol.history]

/-- A program that follows a rule about its past does so at every point of every run. -/
theorem Prog.Follows.run_allowed {allowed : Asked Op Ans → Op → Prop} {program : Prog Op Ans α}
    {post : Asked Op Ans → α → Prop} {earlier later : Asked Op Ans} {event : Σ op, Ans op}
    {outcome : Option α} (follows : program.Follows (Protocol.history allowed) [] post)
    (run : program.Run (earlier ++ event :: later) outcome) : allowed earlier.reverse event.1 := by
  have admitted := follows.run_admits run fun _ _ => trivial
  rw [Protocol.admits_append] at admitted
  have here := admitted.2.1
  rw [Protocol.history_after, List.append_nil] at here
  exact here

/-! ## How often a program asks -/

/-- No run asks more than so many questions of a kind. -/
def Prog.AtMost (test : Op → Bool) (bound : Nat) (program : Prog Op Ans α) : Prop :=
  ∀ events outcome, program.Run events outcome → events.countP (fun event => test event.1) ≤ bound

namespace Prog.AtMost

variable {test : Op → Bool} {bound more : Nat}

theorem mono {program : Prog Op Ans α} (bounded : program.AtMost test bound) (less : bound ≤ more) :
    program.AtMost test more :=
  fun events outcome run => Nat.le_trans (bounded events outcome run) less

theorem ret (value : α) : (Prog.ret value : Prog Op Ans α).AtMost test bound := by
  intro events outcome run
  obtain ⟨rfl, -⟩ := Prog.Run.ret_inv run
  exact Nat.zero_le _

theorem bind {first : Prog Op Ans α} {next : α → Prog Op Ans β} (before : first.AtMost test bound)
    (after : ∀ value, (next value).AtMost test more) : (first >>= next).AtMost test (bound + more) := by
  intro events outcome run
  rcases Prog.Run.bind_inv run with ⟨-, stopped⟩ | ⟨value, earlier, later, ran, goes, rfl⟩
  · have early := before _ _ stopped
    omega
  · have early := before _ _ ran
    have late := after value _ _ goes
    rw [List.countP_append]
    omega

theorem bindExcept {first : Fallible ε Op Ans α} {next : α → Fallible ε Op Ans β}
    (before : Prog.AtMost test bound first.run)
    (after : ∀ value, Prog.AtMost test more (next value).run) :
    Prog.AtMost test (bound + more) (first >>= next).run := by
  refine bind before fun result => ?_
  cases result with
  | error error => exact ret _
  | ok value => exact after value

/-- All the questions are in the first part. -/
theorem earlyBind {first : Fallible ε Op Ans α} {next : α → Fallible ε Op Ans β}
    (before : Prog.AtMost test bound first.run)
    (after : ∀ value, Prog.AtMost test 0 (next value).run) :
    Prog.AtMost test bound (first >>= next).run :=
  bindExcept before after

/-- All the questions are behind the first part. -/
theorem lateBind {first : Fallible ε Op Ans α} {next : α → Fallible ε Op Ans β}
    (before : Prog.AtMost test 0 first.run)
    (after : ∀ value, Prog.AtMost test bound (next value).run) :
    Prog.AtMost test bound (first >>= next).run :=
  mono (bindExcept before after) (Nat.le_of_eq (Nat.zero_add bound))

/-- One question and what follows it. -/
theorem askBind {op : Op} {next : Ans op → Fallible ε Op Ans β}
    (after : ∀ answer, Prog.AtMost test bound (next answer).run) :
    Prog.AtMost test (bound + 1) (ExceptT.lift (Prog.perform op) >>= next).run := by
  intro events outcome run
  rcases Prog.Run.askBind_inv run with ⟨rfl, -⟩ | ⟨answer, later, rfl, goes⟩
  · exact Nat.zero_le _
  · have late := after answer _ _ goes
    rw [List.countP_cons]
    split <;> omega

/-- One question of another kind and what follows it. -/
theorem otherBind {op : Op} {next : Ans op → Fallible ε Op Ans β} (other : test op = false)
    (after : ∀ answer, Prog.AtMost test bound (next answer).run) :
    Prog.AtMost test bound (ExceptT.lift (Prog.perform op) >>= next).run := by
  intro events outcome run
  rcases Prog.Run.askBind_inv run with ⟨rfl, -⟩ | ⟨answer, later, rfl, goes⟩
  · exact Nat.zero_le _
  · have late := after answer _ _ goes
    rw [List.countP_cons_of_neg (by simp [other])]
    exact late

theorem resultBind {result : Except ε α} {next : α → Fallible ε Op Ans β}
    (after : ∀ value, Prog.AtMost test bound (next value).run) :
    Prog.AtMost test bound ((ExceptT.mk (Pure.pure result) : Fallible ε Op Ans α) >>= next).run := by
  cases result with
  | error error => exact ret _
  | ok value => exact after value

end Prog.AtMost

/-! ## Programs inside programs -/

/-- The questions of one program among those of another, with the same answers. -/
structure Embedding (Op : Type) (Ans : Op → Type) (Big : Type) (BigAns : Big → Type) where
  ask : Op → Big
  told : {op : Op} → Ans op → BigAns (ask op)
  read : {op : Op} → BigAns (ask op) → Ans op
  told_read : ∀ {op : Op} (answer : BigAns (ask op)), told (read answer) = answer

namespace Embedding

variable {Big : Type} {BigAns : Big → Type} (embedding : Embedding Op Ans Big BigAns)

def event (event : Σ op, Ans op) : Σ op, BigAns op :=
  ⟨embedding.ask event.1, embedding.told event.2⟩

def run (program : Prog Op Ans α) : Prog Big BigAns α :=
  match program with
  | .ret value => .ret value
  | .ask op rest => .ask (embedding.ask op) fun answer => run (rest (embedding.read answer))

variable {embedding}

/-- An embedded program runs as it does by itself. -/
theorem run_inv {program : Prog Op Ans α} {events : Asked Big BigAns} {outcome : Option α}
    (ran : (embedding.run program).Run events outcome) :
    ∃ own, program.Run own outcome ∧ events = own.map embedding.event := by
  induction program generalizing events with
  | ret value =>
      obtain ⟨rfl, rfl | rfl⟩ := Prog.Run.ret_inv ran
      · exact ⟨[], .stopped _, rfl⟩
      · exact ⟨[], .returned value, rfl⟩
  | ask op rest ih =>
      cases ran with
      | stopped => exact ⟨[], .stopped _, rfl⟩
      | asked answer ran =>
          obtain ⟨own, goes, rfl⟩ := ih _ ran
          refine ⟨⟨op, embedding.read answer⟩ :: own, .asked _ goes, ?_⟩
          simp [event, embedding.told_read]

end Embedding

end Interleave
