import Mathlib.Data.List.Basic

/-!
Programs that ask their surroundings for answers, and any number of them running interleaved
over one shared world. A protocol assigns a ghost phase to each running program; what a
protocol allows in each phase is proved once per program, and every property of whole runs is
then an invariant of worlds and phases.
-/

namespace Interleave

/-! ## Programs -/

inductive Prog (Op : Type) (Ans : Op → Type) (α : Type)
  | ret (value : α)
  | ask (op : Op) (next : Ans op → Prog Op Ans α)

variable {Op : Type} {Ans : Op → Type} {α β Phase : Type}

def Prog.andThen (first : Prog Op Ans α) (next : α → Prog Op Ans β) : Prog Op Ans β :=
  match first with
  | .ret value => next value
  | .ask op rest => .ask op fun answer => (rest answer).andThen next

instance : Monad (Prog Op Ans) where
  pure := .ret
  bind := Prog.andThen

/-- The program that asks one question and returns its answer. -/
def Prog.perform (op : Op) : Prog Op Ans (Ans op) :=
  .ask op .ret

/-- The program run by itself, with every question answered from a state; `none` where the state
has no answer. -/
def Prog.eval {State : Type} (respond : (op : Op) → State → Option (Ans op × State))
    (program : Prog Op Ans α) (state : State) : Option (α × State) :=
  match program with
  | .ret value => some (value, state)
  | .ask op rest =>
      (respond op state).bind fun reply => (rest reply.1).eval respond reply.2

theorem Prog.eval_bind {State : Type} (respond : (op : Op) → State → Option (Ans op × State))
    (first : Prog Op Ans α) (next : α → Prog Op Ans β) (state : State) :
    (first >>= next).eval respond state =
      (first.eval respond state).bind fun result => (next result.1).eval respond result.2 := by
  induction first generalizing state with
  | ret value => rfl
  | ask op rest ih =>
      show (respond op state).bind (fun reply => ((rest reply.1).andThen next).eval respond reply.2) =
        ((respond op state).bind fun reply => (rest reply.1).eval respond reply.2).bind _
      rw [Option.bind_assoc]
      congr 1
      funext reply
      exact ih reply.1 reply.2

/-- Run by itself from `state`, the program returns, with a value and a state that satisfy
`post`. -/
def Prog.Ends {State : Type} (respond : (op : Op) → State → Option (Ans op × State))
    (program : Prog Op Ans α) (state : State) (post : α → State → Prop) : Prop :=
  ∃ value after, program.eval respond state = some (value, after) ∧ post value after

namespace Prog.Ends

variable {State : Type} {respond : (op : Op) → State → Option (Ans op × State)} {state : State}

theorem bind {first : Prog Op Ans α} {next : α → Prog Op Ans β} {middle : α → State → Prop}
    {post : β → State → Prop} (ends : first.Ends respond state middle)
    (continues : ∀ value after, middle value after → (next value).Ends respond after post) :
    (first >>= next).Ends respond state post := by
  obtain ⟨value, after, evaluated, holds⟩ := ends
  obtain ⟨result, last, rest, done⟩ := continues value after holds
  refine ⟨result, last, ?_, done⟩
  rw [Prog.eval_bind, evaluated]
  exact rest

theorem perform {op : Op} {answer : Ans op} {after : State} {post : Ans op → State → Prop}
    (answered : respond op state = some (answer, after)) (holds : post answer after) :
    (Prog.perform op : Prog Op Ans (Ans op)).Ends respond state post := by
  refine ⟨answer, after, ?_, holds⟩
  simp [Prog.perform, Prog.eval, answered]

end Prog.Ends

/-! ## Protocols -/

/-- What a program may ask in each phase, which answers it can rely on, and the phase each
answer leads to. -/
structure Protocol (Op : Type) (Ans : Op → Type) (Phase : Type) where
  allows : Phase → Op → Prop
  possible : (op : Op) → Ans op → Prop
  next : Phase → (op : Op) → Ans op → Phase

/-- Started in `phase`, the program only asks what the protocol allows, and returns in a phase
and with a value that satisfy `post`. -/
def Prog.Follows (protocol : Protocol Op Ans Phase) (phase : Phase) (program : Prog Op Ans α)
    (post : Phase → α → Prop) : Prop :=
  match program with
  | .ret value => post phase value
  | .ask op rest =>
      protocol.allows phase op ∧ ∀ answer, protocol.possible op answer →
        (rest answer).Follows protocol (protocol.next phase op answer) post

namespace Prog.Follows

variable {protocol : Protocol Op Ans Phase} {phase : Phase}

theorem mono {program : Prog Op Ans α} {post weaker : Phase → α → Prop}
    (follows : program.Follows protocol phase post)
    (implied : ∀ phase value, post phase value → weaker phase value) :
    program.Follows protocol phase weaker := by
  induction program generalizing phase with
  | ret value => exact implied phase value follows
  | ask op rest ih =>
      exact ⟨follows.1, fun answer possible => ih answer (follows.2 answer possible)⟩

/-- What one protocol allows a program, another does that allows at least as much in every state. -/
theorem transfer {State : Type} {wider : Protocol Op Ans State}
    (permits : ∀ phase op, protocol.allows phase op → ∀ state, wider.allows state op)
    (possible : ∀ op answer, wider.possible op answer → protocol.possible op answer)
    {program : Prog Op Ans α} {post : Phase → α → Prop}
    (follows : program.Follows protocol phase post) (state : State) :
    program.Follows wider state fun _ _ => True := by
  induction program generalizing phase state with
  | ret value => trivial
  | ask op rest ih =>
      refine ⟨permits phase op follows.1 state, fun answer answered => ?_⟩
      exact ih answer (follows.2 answer (possible op answer answered)) _

theorem pure {value : α} {post : Phase → α → Prop} (holds : post phase value) :
    (Pure.pure value : Prog Op Ans α).Follows protocol phase post :=
  holds

theorem bind {first : Prog Op Ans α} {next : α → Prog Op Ans β} {middle : Phase → α → Prop}
    {post : Phase → β → Prop} (follows : first.Follows protocol phase middle)
    (continues : ∀ phase value, middle phase value → (next value).Follows protocol phase post) :
    (first >>= next).Follows protocol phase post := by
  show (first.andThen next).Follows protocol phase post
  induction first generalizing phase with
  | ret value => exact continues phase value follows
  | ask op rest ih =>
      exact ⟨follows.1, fun answer possible => ih answer (follows.2 answer possible)⟩

theorem perform {op : Op} {post : Phase → Ans op → Prop} (allowed : protocol.allows phase op)
    (answered : ∀ answer, protocol.possible op answer →
      post (protocol.next phase op answer) answer) :
    (Prog.perform op).Follows protocol phase post :=
  ⟨allowed, answered⟩

theorem performBind {op : Op} {next : Ans op → Prog Op Ans β} {post : Phase → β → Prop}
    (allowed : protocol.allows phase op)
    (continues : ∀ answer, protocol.possible op answer →
      (next answer).Follows protocol (protocol.next phase op answer) post) :
    (Prog.perform op >>= next).Follows protocol phase post :=
  ⟨allowed, continues⟩

end Prog.Follows

/-! ## Runs of one program -/

/-- A run of a program by itself, whatever the answers: what it asked and was told, in order, and
what it returned, unless the run stops before. -/
inductive Prog.Run : Prog Op Ans α → List (Σ op, Ans op) → Option α → Prop
  | stopped (program : Prog Op Ans α) : Run program [] none
  | returned (value : α) : Run (.ret value) [] (some value)
  | asked {op : Op} {rest : Ans op → Prog Op Ans α} (answer : Ans op)
      {events : List (Σ op, Ans op)} {outcome : Option α} (run : Run (rest answer) events outcome) :
      Run (.ask op rest) (⟨op, answer⟩ :: events) outcome

/-- The run in which every question is answered from a state. -/
def Prog.record {State : Type} (respond : (op : Op) → State → Option (Ans op × State)) :
    Prog Op Ans α → State → List (Σ op, Ans op) × Option α
  | .ret value, _ => ([], some value)
  | .ask op rest, state =>
      match respond op state with
      | none => ([], none)
      | some (answer, after) =>
          let (events, outcome) := (rest answer).record respond after
          (⟨op, answer⟩ :: events, outcome)

theorem Prog.run_record {State : Type} (respond : (op : Op) → State → Option (Ans op × State))
    (program : Prog Op Ans α) (state : State) :
    program.Run (program.record respond state).1 (program.record respond state).2 := by
  induction program generalizing state with
  | ret value => exact .returned value
  | ask op rest ih =>
      simp only [Prog.record]
      split
      · exact .stopped _
      · rename_i answer after _
        exact .asked answer (ih answer after)

/-- Everything a recorded run is told, the state answers. -/
theorem Prog.record_answered {State : Type}
    {respond : (op : Op) → State → Option (Ans op × State)} {program : Prog Op Ans α}
    {state : State} : ∀ event ∈ (program.record respond state).1,
      ∃ before after, respond event.1 before = some (event.2, after) := by
  induction program generalizing state with
  | ret value => simp [Prog.record]
  | ask op rest ih =>
      simp only [Prog.record]
      split
      · simp
      · rename_i answer after told
        intro event member
        rcases List.mem_cons.mp member with rfl | later
        · exact ⟨state, after, told⟩
        · exact ih answer event later

def Protocol.after (protocol : Protocol Op Ans Phase) (phase : Phase)
    (events : List (Σ op, Ans op)) : Phase :=
  events.foldl (fun phase event => protocol.next phase event.1 event.2) phase

@[simp] theorem Protocol.after_cons {protocol : Protocol Op Ans Phase} {phase : Phase}
    {event : Σ op, Ans op} {events : List (Σ op, Ans op)} :
    protocol.after phase (event :: events) =
      protocol.after (protocol.next phase event.1 event.2) events :=
  rfl

theorem Protocol.after_append {protocol : Protocol Op Ans Phase} {phase : Phase}
    {earlier later : List (Σ op, Ans op)} :
    protocol.after phase (earlier ++ later) = protocol.after (protocol.after phase earlier) later := by
  simp [Protocol.after, List.foldl_append]

/-- Every question is allowed in the phase it is asked in, and every answer possible. -/
def Protocol.Admits (protocol : Protocol Op Ans Phase) (phase : Phase) :
    List (Σ op, Ans op) → Prop
  | [] => True
  | event :: rest =>
      protocol.allows phase event.1 ∧ protocol.possible event.1 event.2 ∧
        protocol.Admits (protocol.next phase event.1 event.2) rest

theorem Protocol.admits_append {protocol : Protocol Op Ans Phase}
    {earlier later : List (Σ op, Ans op)} : ∀ {phase : Phase},
    protocol.Admits phase (earlier ++ later) ↔
      protocol.Admits phase earlier ∧ protocol.Admits (protocol.after phase earlier) later := by
  induction earlier with
  | nil => simp [Protocol.Admits, Protocol.after]
  | cons event rest ih =>
      intro phase
      simp only [List.cons_append, Protocol.Admits, Protocol.after_cons, ih, and_assoc]

theorem Prog.Follows.run_admits {protocol : Protocol Op Ans Phase} {phase : Phase}
    {program : Prog Op Ans α} {post : Phase → α → Prop} {events : List (Σ op, Ans op)}
    {outcome : Option α} (follows : program.Follows protocol phase post)
    (run : program.Run events outcome)
    (possible : ∀ event ∈ events, protocol.possible event.1 event.2) :
    protocol.Admits phase events := by
  induction run generalizing phase with
  | stopped program => trivial
  | returned value => trivial
  | asked answer run ih =>
      have told := possible _ List.mem_cons_self
      exact ⟨follows.1, told, ih (follows.2 answer told)
        fun event member => possible event (List.mem_cons_of_mem _ member)⟩

/-- A run that is not cut short ends as the program promises. -/
theorem Prog.Follows.run_ends {protocol : Protocol Op Ans Phase} {phase : Phase}
    {program : Prog Op Ans α} {post : Phase → α → Prop} {events : List (Σ op, Ans op)} {value : α}
    (follows : program.Follows protocol phase post) (run : program.Run events (some value))
    (possible : ∀ event ∈ events, protocol.possible event.1 event.2) :
    post (protocol.after phase events) value := by
  generalize ended : some value = outcome at run
  induction run generalizing phase with
  | stopped program => simp at ended
  | returned result =>
      obtain rfl := Option.some.inj ended
      exact follows
  | asked answer run ih =>
      exact ih (follows.2 answer (possible _ List.mem_cons_self))
        (fun event member => possible event (List.mem_cons_of_mem _ member)) ended

/-! ## Programs that may fail -/

/-- A program with early exits, as an `async fn` returning a `Result`. -/
abbrev Fallible (ε : Type) (Op : Type) (Ans : Op → Type) (α : Type) :=
  ExceptT ε (Prog Op Ans) α

/-- Sequencing with `?` in a program run by itself. -/
theorem Prog.Ends.bindExcept {State ε : Type}
    {respond : (op : Op) → State → Option (Ans op × State)} {state : State}
    {first : Fallible ε Op Ans α} {next : α → Fallible ε Op Ans β}
    {middle : Except ε α → State → Prop} {post : Except ε β → State → Prop}
    (ends : Prog.Ends respond first.run state middle)
    (failed : ∀ error after, middle (.error error) after → post (.error error) after)
    (continues : ∀ value after, middle (.ok value) after →
      Prog.Ends respond (next value).run after post) :
    Prog.Ends respond (first >>= next).run state post := by
  refine Prog.Ends.bind ends ?_
  intro result after holds
  cases result with
  | error error => exact ⟨.error error, after, rfl, failed error after holds⟩
  | ok value => exact continues value after holds

namespace Prog.Follows

variable {protocol : Protocol Op Ans Phase} {phase : Phase} {ε : Type}

/-- Sequencing with `?`: an error is returned as it stands, in the phase it occurred in. -/
theorem bindExcept {first : Fallible ε Op Ans α} {next : α → Fallible ε Op Ans β}
    {middle : Phase → Except ε α → Prop} {post : Phase → Except ε β → Prop}
    (follows : Prog.Follows protocol phase first.run middle)
    (failed : ∀ phase error, middle phase (.error error) → post phase (.error error))
    (continues : ∀ phase value, middle phase (.ok value) →
      Prog.Follows protocol phase (next value).run post) :
    Prog.Follows protocol phase (first >>= next).run post := by
  refine bind follows ?_
  intro phase result holds
  cases result with
  | error error => exact failed phase error holds
  | ok value => exact continues phase value holds

/-- A routine without error returns inside a program with them. -/
theorem routineBind {first : Prog Op Ans α} {next : α → Fallible ε Op Ans β}
    {middle : Phase → α → Prop} {post : Phase → Except ε β → Prop}
    (follows : first.Follows protocol phase middle)
    (continues : ∀ phase value, middle phase value →
      Prog.Follows protocol phase (next value).run post) :
    Prog.Follows protocol phase (ExceptT.lift first >>= next).run post := by
  have lifted : Follows protocol phase (ExceptT.lift first : Fallible ε Op Ans α).run
      fun phase result => ∃ value, result = .ok value ∧ middle phase value :=
    bind follows fun phase value holds => ⟨value, rfl, holds⟩
  refine bindExcept lifted ?_ ?_
  · rintro _ error ⟨value, mismatch, -⟩
    simp at mismatch
  · rintro phase value ⟨_, same, holds⟩
    obtain rfl := Except.ok.inj same
    exact continues phase value holds

/-- An operation whose outcome the rest of the program looks at. -/
theorem liftBind {op : Op} {next : Ans op → Fallible ε Op Ans β} {post : Phase → Except ε β → Prop}
    (allowed : protocol.allows phase op)
    (continues : ∀ answer, protocol.possible op answer →
      Prog.Follows protocol (protocol.next phase op answer) (next answer).run post) :
    Prog.Follows protocol phase (ExceptT.lift (Prog.perform op) >>= next).run post :=
  ⟨allowed, continues⟩

/-- A result that is at hand and handed on with `?`. -/
theorem resultBind {result : Except ε α} {next : α → Fallible ε Op Ans β}
    {post : Phase → Except ε β → Prop}
    (failed : ∀ error, result = .error error → post phase (.error error))
    (continues : ∀ value, result = .ok value → Prog.Follows protocol phase (next value).run post) :
    Prog.Follows protocol phase ((ExceptT.mk (Pure.pure result) : Fallible ε Op Ans α) >>= next).run
      post := by
  cases result with
  | error error => exact failed error rfl
  | ok value => exact continues value rfl

end Prog.Follows

/-! ## Programs with one kind of question -/

/-- Every question of the program passes a test. -/
def Prog.Asks (test : Op → Bool) (program : Prog Op Ans α) : Prop :=
  match program with
  | .ret _ => True
  | .ask op rest => test op = true ∧ ∀ answer, (rest answer).Asks test

namespace Prog.Asks

variable {test : Op → Bool}

theorem pure (value : α) : (Pure.pure value : Prog Op Ans α).Asks test :=
  trivial

theorem perform {op : Op} (passes : test op = true) : (Prog.perform op : Prog Op Ans (Ans op)).Asks test :=
  ⟨passes, fun _ => trivial⟩

theorem bind {first : Prog Op Ans α} {next : α → Prog Op Ans β} (asks : first.Asks test)
    (continues : ∀ value, (next value).Asks test) : (first >>= next).Asks test := by
  show (first.andThen next).Asks test
  induction first with
  | ret value => exact continues value
  | ask op rest ih => exact ⟨asks.1, fun answer => ih answer (asks.2 answer)⟩

theorem bindExcept {ε : Type} {first : Fallible ε Op Ans α} {next : α → Fallible ε Op Ans β}
    (asks : Prog.Asks test first.run) (continues : ∀ value, Prog.Asks test (next value).run) :
    Prog.Asks test (first >>= next).run := by
  refine bind asks fun result => ?_
  cases result with
  | error error => trivial
  | ok value => exact continues value

theorem mono {wider : Op → Bool} {program : Prog Op Ans α} (asks : program.Asks test)
    (implied : ∀ op, test op = true → wider op = true) : program.Asks wider := by
  induction program with
  | ret value => trivial
  | ask op rest ih => exact ⟨implied op asks.1, fun answer => ih answer (asks.2 answer)⟩

/-- Where such questions are allowed and lead nowhere, the program stays in its phase. -/
theorem follows {protocol : Protocol Op Ans Phase} {phase : Phase} {program : Prog Op Ans α}
    (asks : program.Asks test) (allowed : ∀ op, test op = true → protocol.allows phase op)
    (stays : ∀ op, test op = true → ∀ answer, protocol.next phase op answer = phase) :
    program.Follows protocol phase fun after _ => after = phase := by
  induction program with
  | ret value => rfl
  | ask op rest ih =>
      refine ⟨allowed op asks.1, fun answer _ => ?_⟩
      rw [stays op asks.1 answer]
      exact ih answer (asks.2 answer)

end Prog.Asks

/-! ## Interleaved runs -/

/-- Calls of programs over a shared world. `choice` stands for everything the surroundings
decide at one step: clock, fresh names, failures, replies. -/
structure Machine (Op : Type) (Ans : Op → Type) where
  World : Type
  Choice : Type
  Call : Type
  Outside : Type
  Result : Type
  perform : World → (op : Op) → Choice → Option (Ans op × World)
  outside : Outside → World → World
  program : Call → Prog Op Ans Result

namespace Machine

variable (machine : Machine Op Ans)

structure Event where
  task : Nat
  op : Op
  answer : Ans op
  before : machine.World
  after : machine.World

structure System where
  world : machine.World
  tasks : List (machine.Call × Prog Op Ans machine.Result)
  trace : List machine.Event

/-- A call starts, the named task takes its next step, or something outside moves the world. A
task that is never stepped again has stopped where it stands. -/
inductive Move
  | start (call : machine.Call)
  | step (task : Nat) (choice : machine.Choice)
  | outside (event : machine.Outside)

variable {machine}

def System.boot (world : machine.World) : machine.System :=
  { world, tasks := [], trace := [] }

def System.stepTask (system : machine.System) (task : Nat) (choice : machine.Choice) :
    Option machine.System :=
  match system.tasks[task]? with
  | some (call, .ask op rest) =>
      (machine.perform system.world op choice).map fun (answer, after) =>
        { world := after
          tasks := system.tasks.set task (call, rest answer)
          trace := system.trace ++ [⟨task, op, answer, system.world, after⟩] }
  | _ => none

def System.move (system : machine.System) : machine.Move → Option machine.System
  | .start call =>
      some { system with tasks := system.tasks ++ [(call, machine.program call)] }
  | .step task choice => system.stepTask task choice
  | .outside event => some { system with world := machine.outside event system.world }

def System.play (system : machine.System) : List machine.Move → Option machine.System
  | [] => some system
  | move :: moves => (system.move move).bind (·.play moves)

/-- What a task returned, if it has ended. -/
def System.result? (system : machine.System) (task : Nat) : Option machine.Result :=
  match system.tasks[task]? with
  | some (_, .ret value) => some value
  | _ => none

theorem System.result?_eq_some {system : machine.System} {task : Nat} {value : machine.Result}
    (ended : system.result? task = some value) :
    ∃ call, system.tasks[task]? = some (call, .ret value) := by
  simp only [System.result?] at ended
  split at ended
  · rename_i call returned found
    obtain rfl := Option.some.inj ended
    exact ⟨call, found⟩
  · simp at ended

/-- Steps alone start no task. -/
theorem System.play_steps_length {moves : List machine.Move}
    (steps : ∀ move ∈ moves, ∃ task choice, move = .step task choice) :
    ∀ {system last : machine.System}, system.play moves = some last →
      last.tasks.length = system.tasks.length := by
  induction moves with
  | nil =>
      intro system last played
      obtain rfl := Option.some.inj played
      rfl
  | cons move moves ih =>
      intro system last played
      simp only [System.play, Option.bind_eq_some_iff] at played
      obtain ⟨middle, moved, played⟩ := played
      obtain ⟨task, choice, rfl⟩ := steps move List.mem_cons_self
      rw [ih (fun other member => steps other (List.mem_cons_of_mem _ member)) played]
      simp only [System.move, System.stepTask] at moved
      split at moved
      · simp only [Option.map_eq_some_iff, Prod.exists] at moved
        obtain ⟨answer, after, -, rfl⟩ := moved
        exact List.length_set
      · simp at moved

/-- A fold over the events of one task starts where its task does. -/
theorem foldl_fresh {State : Type} {next : State → machine.Event → State} {start : State}
    {trace : List machine.Event} {task : Nat} (fresh : ∀ event ∈ trace, event.task < task) :
    trace.foldl (fun state event => if event.task = task then next state event else state) start =
      start := by
  induction trace with
  | nil => rfl
  | cons event rest ih =>
      have own : event.task < task := fresh event List.mem_cons_self
      rw [List.foldl_cons, if_neg (by omega)]
      exact ih fun other member => fresh other (List.mem_cons_of_mem _ member)

/-! ## Lists of phases -/

section Phases

variable {Entry : Type} {entries : List Entry} {entry changed : Entry} {task other : Nat}

theorem listed_set (listed : (entries.set task changed)[other]? = some entry) :
    other = task ∧ entry = changed ∨ other ≠ task ∧ entries[other]? = some entry := by
  by_cases same : other = task
  · subst same
    rw [List.getElem?_set] at listed
    simp only [if_true] at listed
    split at listed
    · exact Or.inl ⟨rfl, (Option.some.inj listed).symm⟩
    · simp at listed
  · rw [List.getElem?_set_ne (Ne.symm same)] at listed
    exact Or.inr ⟨same, listed⟩

theorem listed_append (listed : (entries ++ [changed])[other]? = some entry) :
    entries[other]? = some entry ∨ other = entries.length ∧ entry = changed := by
  by_cases old : other < entries.length
  · rw [List.getElem?_append_left old] at listed
    exact Or.inl listed
  · rw [List.getElem?_append_right (by omega)] at listed
    have last : other - entries.length = 0 := by
      by_contra later
      obtain ⟨offset, offsetEq⟩ := Nat.exists_eq_succ_of_ne_zero later
      simp [offsetEq] at listed
    rw [last] at listed
    exact Or.inr ⟨by omega, by simpa using listed.symm⟩

end Phases

/-! ## Histories -/

section Histories

variable {Entry : Type} {trace earlier later : List Entry} {last event : Entry}

/-- The entry at which a history is cut is its last one, or the cut lies before the last one. -/
theorem concat_eq_split (same : trace ++ [last] = earlier ++ event :: later) :
    earlier = trace ∧ event = last ∧ later = [] ∨
      ∃ rest, later = rest ++ [last] ∧ trace = earlier ++ event :: rest := by
  rcases List.eq_nil_or_concat later with rfl | ⟨rest, final, rfl⟩
  · obtain ⟨rfl, ended⟩ := List.append_inj' same rfl
    exact Or.inl ⟨rfl, by simpa using ended.symm, rfl⟩
  · have regrouped : trace ++ [last] = (earlier ++ event :: rest) ++ [final] := by
      simpa using same
    obtain ⟨rfl, ended⟩ := List.append_inj' regrouped rfl
    exact Or.inr ⟨rest, by simpa using ended.symm, rfl⟩

/-- Every entry of a history, seen with what came before it. -/
def EachStep (holds : List Entry → Entry → Prop) (trace : List Entry) : Prop :=
  ∀ earlier event later, trace = earlier ++ event :: later → holds earlier event

theorem EachStep.nil {holds : List Entry → Entry → Prop} : EachStep holds [] := by
  intro earlier event later same
  simp at same

theorem EachStep.concat {holds : List Entry → Entry → Prop} (each : EachStep holds trace)
    (ends : holds trace last) : EachStep holds (trace ++ [last]) := by
  intro earlier event later same
  rcases concat_eq_split same with ⟨rfl, rfl, -⟩ | ⟨rest, -, split⟩
  · exact ends
  · exact each earlier event rest split

theorem eachStep_concat {holds : List Entry → Entry → Prop} :
    EachStep holds (trace ++ [last]) ↔ EachStep holds trace ∧ holds trace last := by
  constructor
  · intro each
    refine ⟨fun earlier event later same => ?_, each trace last [] rfl⟩
    exact each earlier event (later ++ [last]) (by simp [same])
  · rintro ⟨each, ends⟩
    exact each.concat ends

end Histories

/-- All ways to run through two lists at once. -/
def shuffles {α : Type} : List α → List α → List (List α)
  | [], right => [right]
  | left, [] => [left]
  | first :: left, second :: right =>
      (shuffles left (second :: right)).map (first :: ·) ++
        (shuffles (first :: left) right).map (second :: ·)

/-- A list is a shuffle of the two parts that a test splits it into. -/
theorem mem_shuffles {α : Type} (test : α → Bool) (list : List α) :
    list ∈ shuffles (list.filter test) (list.filter (!test ·)) := by
  induction list with
  | nil => simp [shuffles]
  | cons head rest ih =>
      cases side : test head with
      | true =>
          simp only [List.filter_cons, side, if_true, Bool.not_true, Bool.false_eq_true, if_false]
          cases right : rest.filter (!test ·) with
          | nil =>
              have whole : rest.filter test = rest := by
                refine List.filter_eq_self.mpr fun member listed => ?_
                have none := List.filter_eq_nil_iff.mp right member listed
                simpa using none
              simp [shuffles, whole]
          | cons second right' =>
              rw [right] at ih
              simp only [shuffles, List.mem_append, List.mem_map]
              exact Or.inl ⟨rest, ih, rfl⟩
      | false =>
          simp only [List.filter_cons, side, Bool.not_false, if_true, Bool.false_eq_true, if_false]
          cases left : rest.filter test with
          | nil =>
              have whole : rest.filter (!test ·) = rest := by
                refine List.filter_eq_self.mpr fun member listed => ?_
                have none := List.filter_eq_nil_iff.mp left member listed
                simpa using none
              simp [shuffles, whole]
          | cons first left' =>
              rw [left] at ih
              simp only [shuffles, List.mem_append, List.mem_map]
              exact Or.inr ⟨rest, ih, rfl⟩

/-! ## Phased runs -/

/-- The runs of a machine seen through a protocol for each call: only ghost phases are kept of
the programs. `permitted` restricts the moves. -/
inductive Phased (protocol : machine.Call → Protocol Op Ans Phase) (initial : machine.Call → Phase)
    (permitted : machine.Move → Prop) (origin : machine.World) :
    machine.World → List (machine.Call × Phase) → List machine.Event → Prop
  | boot : Phased protocol initial permitted origin origin [] []
  | start {world : machine.World} {phases : List (machine.Call × Phase)}
      {trace : List machine.Event} (call : machine.Call) (allowed : permitted (.start call))
      (run : Phased protocol initial permitted origin world phases trace) :
      Phased protocol initial permitted origin world (phases ++ [(call, initial call)]) trace
  | step {world after : machine.World} {phases : List (machine.Call × Phase)}
      {trace : List machine.Event} {task : Nat} {call : machine.Call} {phase : Phase} {op : Op}
      {choice : machine.Choice} {answer : Ans op}
      (run : Phased protocol initial permitted origin world phases trace)
      (holder : phases[task]? = some (call, phase))
      (allowed : (protocol call).allows phase op)
      (chosen : permitted (.step task choice))
      (performed : machine.perform world op choice = some (answer, after)) :
      Phased protocol initial permitted origin after
        (phases.set task (call, (protocol call).next phase op answer))
        (trace ++ [⟨task, op, answer, world, after⟩])
  | outside {world : machine.World} {phases : List (machine.Call × Phase)}
      {trace : List machine.Event} (event : machine.Outside)
      (allowed : permitted (.outside event))
      (run : Phased protocol initial permitted origin world phases trace) :
      Phased protocol initial permitted origin (machine.outside event world) phases trace

variable {protocol : machine.Call → Protocol Op Ans Phase} {initial : machine.Call → Phase}
  {permitted : machine.Move → Prop} {post : machine.Call → Phase → machine.Result → Prop}

/-- The invariant rule of phased runs: `keeps` is about the world and the history, `each` about
every task with its phase. A step shows it for the task that moved and for all the others. -/
theorem Phased.maintains {origin : machine.World}
    (keeps : machine.World → List machine.Event → Prop)
    (each : machine.World → List machine.Event → Nat → machine.Call → Phase → Prop)
    (boot : keeps origin [])
    (start : ∀ world phases trace call, permitted (.start call) →
      Phased protocol initial permitted origin world phases trace → keeps world trace →
      each world trace phases.length call (initial call))
    (step : ∀ world after phases trace task call phase op choice answer,
      Phased protocol initial permitted origin world phases trace →
      (∀ task call phase, phases[task]? = some (call, phase) → each world trace task call phase) →
      phases[task]? = some (call, phase) → (protocol call).allows phase op →
      permitted (.step task choice) → machine.perform world op choice = some (answer, after) →
      keeps world trace →
      keeps after (trace ++ [⟨task, op, answer, world, after⟩]) ∧
        each after (trace ++ [⟨task, op, answer, world, after⟩]) task call
          ((protocol call).next phase op answer) ∧
        ∀ other started otherPhase, other ≠ task → phases[other]? = some (started, otherPhase) →
          each world trace other started otherPhase →
          each after (trace ++ [⟨task, op, answer, world, after⟩]) other started otherPhase)
    (outside : ∀ world trace event, permitted (.outside event) → keeps world trace →
      keeps (machine.outside event world) trace ∧
        ∀ task call phase, each world trace task call phase →
          each (machine.outside event world) trace task call phase)
    {world : machine.World} {phases : List (machine.Call × Phase)} {trace : List machine.Event}
    (run : Phased protocol initial permitted origin world phases trace) :
    keeps world trace ∧
      ∀ task call phase, phases[task]? = some (call, phase) → each world trace task call phase := by
  induction run with
  | boot => exact ⟨boot, by simp⟩
  | start call allowed run ih =>
      refine ⟨ih.1, fun task started phase listed => ?_⟩
      rcases listed_append listed with old | ⟨rfl, new⟩
      · exact ih.2 task started phase old
      · simp only [Prod.mk.injEq] at new
        obtain ⟨rfl, rfl⟩ := new
        exact start _ _ _ started allowed run ih.1
  | step run holder allowed chosen performed ih =>
      obtain ⟨kept, own, others⟩ :=
        step _ _ _ _ _ _ _ _ _ _ run ih.2 holder allowed chosen performed ih.1
      refine ⟨kept, fun other started phase listed => ?_⟩
      rcases listed_set listed with ⟨rfl, new⟩ | ⟨different, old⟩
      · simp only [Prod.mk.injEq] at new
        obtain ⟨rfl, rfl⟩ := new
        exact own
      · exact others other started phase different old (ih.2 other started phase old)
  | outside event allowed run ih =>
      obtain ⟨kept, moved⟩ := outside _ _ event allowed ih.1
      exact ⟨kept, fun task call phase listed => moved task call phase (ih.2 task call phase listed)⟩

/-- The invariant rule for runs all of whose events satisfy a condition. -/
theorem Phased.maintains_while {origin : machine.World} (condition : machine.Event → Prop)
    (keeps : machine.World → List machine.Event → Prop)
    (each : machine.World → List machine.Event → Nat → machine.Call → Phase → Prop)
    (boot : keeps origin [])
    (start : ∀ world phases trace call, permitted (.start call) →
      Phased protocol initial permitted origin world phases trace → keeps world trace →
      each world trace phases.length call (initial call))
    (step : ∀ world after phases trace task call phase op choice answer,
      Phased protocol initial permitted origin world phases trace →
      (∀ task call phase, phases[task]? = some (call, phase) → each world trace task call phase) →
      phases[task]? = some (call, phase) → (protocol call).allows phase op →
      permitted (.step task choice) → machine.perform world op choice = some (answer, after) →
      condition ⟨task, op, answer, world, after⟩ → keeps world trace →
      keeps after (trace ++ [⟨task, op, answer, world, after⟩]) ∧
        each after (trace ++ [⟨task, op, answer, world, after⟩]) task call
          ((protocol call).next phase op answer) ∧
        ∀ other started otherPhase, other ≠ task → phases[other]? = some (started, otherPhase) →
          each world trace other started otherPhase →
          each after (trace ++ [⟨task, op, answer, world, after⟩]) other started otherPhase)
    (outside : ∀ world trace event, permitted (.outside event) → keeps world trace →
      keeps (machine.outside event world) trace ∧
        ∀ task call phase, each world trace task call phase →
          each (machine.outside event world) trace task call phase)
    {world : machine.World} {phases : List (machine.Call × Phase)} {trace : List machine.Event}
    (run : Phased protocol initial permitted origin world phases trace)
    (satisfied : ∀ event ∈ trace, condition event) :
    keeps world trace ∧
      ∀ task call phase, phases[task]? = some (call, phase) → each world trace task call phase := by
  have maintained := Phased.maintains
    (fun world trace => (∀ event ∈ trace, condition event) → keeps world trace)
    (fun world trace task call phase =>
      (∀ event ∈ trace, condition event) → each world trace task call phase)
    (fun _ => boot) ?start ?step ?outside run
  · exact ⟨maintained.1 satisfied,
      fun task call phase listed => maintained.2 task call phase listed satisfied⟩
  case start =>
    exact fun world phases trace call allowed run kept all =>
      start world phases trace call allowed run (kept all)
  case step =>
    intro world after phases trace task call phase op choice answer run all holder allowed chosen
      performed kept
    have split : (∀ event ∈ trace ++ [⟨task, op, answer, world, after⟩], condition event) →
        (∀ event ∈ trace, condition event) ∧ condition ⟨task, op, answer, world, after⟩ :=
      fun every => ⟨fun event member => every event (List.mem_append_left _ member),
        every _ (List.mem_append_right _ (List.mem_singleton.mpr rfl))⟩
    have moved := fun every => step world after phases trace task call phase op choice answer run
      (fun other started otherPhase listed => all other started otherPhase listed (split every).1)
      holder allowed chosen performed (split every).2 (kept (split every).1)
    exact ⟨fun every => (moved every).1, fun every => (moved every).2.1,
      fun other started otherPhase different listed old every =>
        (moved every).2.2 other started otherPhase different listed (old (split every).1)⟩
  case outside =>
    intro world trace event allowed kept
    exact ⟨fun all => (outside world trace event allowed (kept all)).1,
      fun task call phase old all =>
        (outside world trace event allowed (kept all)).2 task call phase (old all)⟩

/-- What is seen of the world goes over from each event of a history to the next. -/
def Linked {View : Type} (view : machine.World → View) : View → List machine.Event → View → Prop
  | first, [], last => first = last
  | first, event :: rest, last =>
      view event.before = first ∧ Linked view (view event.after) rest last

theorem linked_append {View : Type} {view : machine.World → View} {last : View}
    {earlier later : List machine.Event} : ∀ {first : View},
    Linked view first (earlier ++ later) last ↔
      ∃ middle, Linked view first earlier middle ∧ Linked view middle later last := by
  induction earlier with
  | nil => simp [Linked]
  | cons event rest ih =>
      intro first
      simp only [List.cons_append, Linked, ih]
      constructor
      · rintro ⟨starts, middle, left, right⟩
        exact ⟨middle, ⟨starts, left⟩, right⟩
      · rintro ⟨middle, ⟨starts, left⟩, right⟩
        exact ⟨starts, middle, left, right⟩

/-- What each event does, any stretch of a linked history does. -/
theorem Linked.between {View : Type} {view : machine.World → View}
    {relation : View → View → Prop}
    (trans : ∀ {first second third}, relation first second → relation second third →
      relation first third) {last : View} {trace : List machine.Event} :
    ∀ {first : View}, Linked view first trace last →
      (∀ event ∈ trace, relation (view event.before) (view event.after)) →
      ∀ event ∈ trace, relation first (view event.after) := by
  induction trace with
  | nil => simp
  | cons head rest ih =>
      intro first linked each event member
      obtain ⟨starts, linked⟩ := linked
      have step : relation first (view head.after) := starts ▸ each head List.mem_cons_self
      rcases List.mem_cons.mp member with rfl | later
      · exact step
      · exact trans step (ih linked (fun other listed => each other (List.mem_cons_of_mem _ listed))
          event later)

/-- Where moves from outside do not show, the history of a run is linked. -/
theorem Phased.linked {View : Type} {view : machine.World → View}
    (unseen : ∀ event world, view (machine.outside event world) = view world)
    {origin world : machine.World} {phases : List (machine.Call × Phase)}
    {trace : List machine.Event}
    (run : Phased protocol initial permitted origin world phases trace) :
    Linked view (view origin) trace (view world) := by
  induction run with
  | boot => rfl
  | start call allowed run ih => exact ih
  | step run holder allowed chosen performed ih => exact linked_append.mpr ⟨_, ih, rfl, rfl⟩
  | outside event allowed run ih => exact (unseen event _).symm ▸ ih

/-- Events belong to tasks that have started. -/
theorem Phased.trace_tasks {origin world : machine.World}
    {phases : List (machine.Call × Phase)} {trace : List machine.Event}
    (run : Phased protocol initial permitted origin world phases trace) :
    ∀ event ∈ trace, event.task < phases.length := by
  induction run with
  | boot => simp
  | start call allowed run ih =>
      intro event member
      have old := ih event member
      simp only [List.length_append, List.length_singleton]
      omega
  | step run holder allowed chosen performed ih =>
      intro event member
      rw [List.length_set]
      rcases List.mem_append.mp member with old | new
      · exact ih event old
      · rw [List.mem_singleton.mp new]
        exact (List.getElem?_eq_some_iff.mp holder).1
  | outside event allowed run ih => exact ih

/-- Every event is a step that the surroundings answered. -/
theorem Phased.performed {origin world : machine.World}
    {phases : List (machine.Call × Phase)} {trace : List machine.Event}
    (run : Phased protocol initial permitted origin world phases trace) :
    ∀ event ∈ trace, ∃ choice, permitted (.step event.task choice) ∧
      machine.perform event.before event.op choice = some (event.answer, event.after) := by
  induction run with
  | boot => simp
  | start call allowed run ih => exact ih
  | step run holder allowed chosen performed ih =>
      intro event member
      rcases List.mem_append.mp member with old | new
      · exact ih event old
      · rw [List.mem_singleton.mp new]
        exact ⟨_, chosen, performed⟩
  | outside event allowed run ih => exact ih

/-- Every task was started by a move. -/
theorem Phased.started {origin world : machine.World}
    {phases : List (machine.Call × Phase)} {trace : List machine.Event}
    (run : Phased protocol initial permitted origin world phases trace) :
    ∀ (task : Nat) (call : machine.Call) (phase : Phase), phases[task]? = some (call, phase) →
      permitted (.start call) :=
  (Phased.maintains (fun _ _ => True) (fun _ _ _ call _ => permitted (.start call)) trivial
    (fun _ _ _ _ allowed _ _ => allowed)
    (fun _ _ _ _ task call phase _ _ _ _ each holder _ _ _ _ =>
      ⟨trivial, each task call phase holder, fun _ _ _ _ _ old => old⟩)
    (fun _ _ _ _ _ => ⟨trivial, fun _ _ _ old => old⟩) run).2

/-- Each task of the system is in the phase listed for it and follows its protocol from there. -/
structure Tracks (protocol : machine.Call → Protocol Op Ans Phase)
    (post : machine.Call → Phase → machine.Result → Prop)
    (phases : List (machine.Call × Phase)) (system : machine.System) : Prop where
  length : phases.length = system.tasks.length
  follows : ∀ (task : Nat) (call : machine.Call) (program : Prog Op Ans machine.Result),
    system.tasks[task]? = some (call, program) →
      ∃ phase, phases[task]? = some (call, phase) ∧
        program.Follows (protocol call) phase (post call)

theorem Tracks.start {phases : List (machine.Call × Phase)} {system : machine.System}
    {call : machine.Call} (tracks : Tracks protocol post phases system)
    (follows : (machine.program call).Follows (protocol call) (initial call) (post call)) :
    Tracks protocol post (phases ++ [(call, initial call)])
      { system with tasks := system.tasks ++ [(call, machine.program call)] } := by
  constructor
  · simp [tracks.length]
  · intro task started program found
    rcases listed_append found with old | ⟨rfl, new⟩
    · obtain ⟨phase, listed, holds⟩ := tracks.follows task started program old
      refine ⟨phase, ?_, holds⟩
      rw [List.getElem?_append_left (List.getElem?_eq_some_iff.mp listed).1, listed]
    · simp only [Prod.mk.injEq] at new
      obtain ⟨rfl, rfl⟩ := new
      exact ⟨initial started, by simp [← tracks.length], follows⟩

theorem Tracks.step {phases : List (machine.Call × Phase)} {system : machine.System} {task : Nat}
    {call : machine.Call} {op : Op} {rest : Ans op → Prog Op Ans machine.Result}
    {phase : Phase} {answer : Ans op} {after : machine.World} {trace : List machine.Event}
    (tracks : Tracks protocol post phases system)
    (found : system.tasks[task]? = some (call, .ask op rest))
    (follows : (rest answer).Follows (protocol call) ((protocol call).next phase op answer)
      (post call)) :
    Tracks protocol post (phases.set task (call, (protocol call).next phase op answer))
      { world := after, tasks := system.tasks.set task (call, rest answer), trace := trace } := by
  have inBounds : task < system.tasks.length := by
    by_contra outOfBounds
    rw [List.getElem?_eq_none (by omega)] at found
    simp at found
  constructor
  · simp [tracks.length]
  · intro other started program listed
    rcases listed_set listed with ⟨rfl, new⟩ | ⟨different, old⟩
    · simp only [Prod.mk.injEq] at new
      obtain ⟨rfl, rfl⟩ := new
      exact ⟨_, List.getElem?_set_self (by rw [tracks.length]; exact inBounds), follows⟩
    · obtain ⟨otherPhase, present, holds⟩ := tracks.follows other started program old
      exact ⟨otherPhase, by rw [List.getElem?_set_ne (Ne.symm different), present], holds⟩

/-- What the world keeps throughout a run, strong enough to bear out the answers that the
programs rely on. -/
structure Steady (protocol : machine.Call → Protocol Op Ans Phase) (permitted : machine.Move → Prop)
    (keeps : machine.World → Prop) : Prop where
  step : ∀ world op choice answer after, keeps world →
    machine.perform world op choice = some (answer, after) →
    keeps after ∧ ∀ call, (protocol call).possible op answer
  outside : ∀ world event, permitted (.outside event) → keeps world →
    keeps (machine.outside event world)

/-- As `Steady`, as far as the operations go that the programs are allowed to ask. -/
structure Upheld (protocol : machine.Call → Protocol Op Ans Phase) (permitted : machine.Move → Prop)
    (keeps : machine.World → Prop) : Prop where
  step : ∀ world call phase op choice answer after, keeps world →
    (protocol call).allows phase op → machine.perform world op choice = some (answer, after) →
    keeps after ∧ (protocol call).possible op answer
  outside : ∀ world event, permitted (.outside event) → keeps world →
    keeps (machine.outside event world)

theorem Steady.upheld {keeps : machine.World → Prop} (steady : Steady protocol permitted keeps) :
    Upheld protocol permitted keeps where
  step world call _ op choice answer after kept _ performed :=
    have moved := steady.step world op choice answer after kept performed
    ⟨moved.1, moved.2 call⟩
  outside := steady.outside

/-- Every played system is a phased run whose tasks follow their protocols. -/
theorem play_phased {keeps : machine.World → Prop} (upheld : Upheld protocol permitted keeps)
    (follows : ∀ call, permitted (.start call) →
      (machine.program call).Follows (protocol call) (initial call) (post call))
    {origin : machine.World} (moves : List machine.Move) :
    ∀ (system last : machine.System) (phases : List (machine.Call × Phase)),
      (∀ move ∈ moves, permitted move) → keeps system.world →
      Phased protocol initial permitted origin system.world phases system.trace →
      Tracks protocol post phases system → system.play moves = some last →
      ∃ phases, Phased protocol initial permitted origin last.world phases last.trace ∧
        Tracks protocol post phases last := by
  induction moves with
  | nil =>
      intro system last phases _ _ run tracks played
      obtain rfl := Option.some.inj played
      exact ⟨phases, run, tracks⟩
  | cons move moves ih =>
      intro system last phases allowed kept run tracks played
      simp only [System.play, Option.bind_eq_some_iff] at played
      obtain ⟨middle, moved, played⟩ := played
      have permittedMove := allowed move List.mem_cons_self
      have rest := fun next member => allowed next (List.mem_cons_of_mem _ member)
      cases move with
      | start call =>
          obtain rfl := Option.some.inj moved
          exact ih { system with tasks := system.tasks ++ [(call, machine.program call)] } last _
            rest kept (.start call permittedMove run) (tracks.start (follows call permittedMove))
            played
      | step task choice =>
          simp only [System.move, System.stepTask] at moved
          split at moved
          · rename_i call op next found
            simp only [Option.map_eq_some_iff, Prod.exists] at moved
            obtain ⟨answer, after, performed, rfl⟩ := moved
            obtain ⟨phase, listed, allowedOp, continues⟩ := tracks.follows task call _ found
            obtain ⟨keptAfter, possible⟩ := upheld.step _ _ _ _ _ _ _ kept allowedOp performed
            exact ih _ last _ rest keptAfter (.step run listed allowedOp permittedMove performed)
              (tracks.step found (continues answer possible)) played
          · simp at moved
      | outside event =>
          obtain rfl := Option.some.inj moved
          exact ih { system with world := machine.outside event system.world } last _ rest
            (upheld.outside _ _ permittedMove kept) (.outside event permittedMove run)
            ⟨tracks.length, tracks.follows⟩ played

theorem play_upheld_boot {keeps : machine.World → Prop}
    (upheld : Upheld protocol permitted keeps)
    (follows : ∀ call, permitted (.start call) →
      (machine.program call).Follows (protocol call) (initial call) (post call))
    {origin : machine.World} {moves : List machine.Move} {last : machine.System}
    (allowed : ∀ move ∈ moves, permitted move) (kept : keeps origin)
    (played : (System.boot origin).play moves = some last) :
    ∃ phases, Phased protocol initial permitted origin last.world phases last.trace ∧
      Tracks protocol post phases last :=
  play_phased upheld follows moves _ last [] allowed kept .boot ⟨rfl, by simp [System.boot]⟩ played

theorem play_phased_boot {keeps : machine.World → Prop}
    (steady : Steady protocol permitted keeps)
    (follows : ∀ call, permitted (.start call) →
      (machine.program call).Follows (protocol call) (initial call) (post call))
    {origin : machine.World} {moves : List machine.Move} {last : machine.System}
    (allowed : ∀ move ∈ moves, permitted move) (kept : keeps origin)
    (played : (System.boot origin).play moves = some last) :
    ∃ phases, Phased protocol initial permitted origin last.world phases last.trace ∧
      Tracks protocol post phases last :=
  play_upheld_boot steady.upheld follows allowed kept played

end Machine

end Interleave
