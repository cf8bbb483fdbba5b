import HarborGate.Gateway.Conversations

/-!
Two inbound messages of one session at the same time. Each loads the session's metadata, waits for
Beacon and writes the whole map back; whose turn id is there afterwards depends on how the two
windows lie.
-/

namespace HarborGate

namespace Inbound

open Interleave

/-! ## Loads and writes -/

/-- A load or a successful write of the session's metadata by a task. -/
inductive Mark
  | load (task : Nat) (metadata : JsonMap)
  | write (task : Nat) (metadata : JsonMap)

namespace Mark

def task : Mark → Nat
  | .load task _ => task
  | .write task _ => task

def of (task : Nat) : (op : InboundOp) → InboundAns op → Option Mark
  | .loadMetadata _ _, .ok metadata => some (.load task metadata)
  | .setMetadata _ _ metadata, .ok _ => some (.write task metadata)
  | _, _ => none

/-- Every load reads what was written last; the run starts and ends with the given turn ids. -/
def Replays : JsonMap → List Mark → JsonMap → Prop
  | ids, [], last => ids = last
  | ids, .load _ metadata :: rest, last => messageTurnIds metadata = ids ∧ Replays ids rest last
  | _, .write _ metadata :: rest, last => Replays (messageTurnIds metadata) rest last

/-- What the task wrote is not written over by a task that had loaded before. -/
def Survives (task : Nat) : List Mark → Prop
  | [] => False
  | .load _ _ :: later => Survives task later
  | .write writer _ :: later =>
      if writer = task then ∀ other metadata, .write other metadata ∈ later →
        ∃ loaded, .load other loaded ∈ later
      else Survives task later

theorem replays_append {earlier later : List Mark} {last : JsonMap} : ∀ {ids : JsonMap},
    Replays ids (earlier ++ later) last ↔
      ∃ middle, Replays ids earlier middle ∧ Replays middle later last := by
  induction earlier with
  | nil => simp [Replays]
  | cons mark rest ih =>
      intro ids
      cases mark with
      | load task metadata =>
          simp only [List.cons_append, Replays, ih]
          constructor
          · rintro ⟨loaded, middle, left, right⟩
            exact ⟨middle, ⟨loaded, left⟩, right⟩
          · rintro ⟨middle, ⟨loaded, left⟩, right⟩
            exact ⟨loaded, middle, left, right⟩
      | write task metadata => simp only [List.cons_append, Replays, ih]

/-- The two windows of two tasks, and what they leave. -/
theorem two_windows {marks : List Mark} {ids last : JsonMap} {firstLoaded firstWritten
    secondLoaded secondWritten : JsonMap} {first second : JsonMap → JsonMap}
    (ownFirst : marks.filter (fun mark => decide (mark.task = 0)) =
      [.load 0 firstLoaded, .write 0 firstWritten])
    (ownSecond : marks.filter (fun mark => !decide (mark.task = 0)) =
      [.load 1 secondLoaded, .write 1 secondWritten])
    (firstWrites : messageTurnIds firstWritten = first (messageTurnIds firstLoaded))
    (secondWrites : messageTurnIds secondWritten = second (messageTurnIds secondLoaded))
    (replays : Replays ids marks last) :
    Survives 0 marks ∧ Survives 1 marks ∧ (last = second (first ids) ∨ last = first (second ids)) ∨
      ¬Survives 0 marks ∧ Survives 1 marks ∧ last = second ids ∨
      Survives 0 marks ∧ ¬Survives 1 marks ∧ last = first ids := by
  have shuffled := Machine.mem_shuffles (fun mark : Mark => decide (mark.task = 0)) marks
  rw [ownFirst, ownSecond] at shuffled
  simp only [Machine.shuffles, List.map_cons, List.map_nil, List.cons_append, List.nil_append,
    List.mem_cons, List.not_mem_nil, or_false] at shuffled
  rcases shuffled with rfl | rfl | rfl | rfl | rfl | rfl
  · obtain ⟨loaded, again, rfl⟩ := replays
    refine Or.inl ⟨by simp [Survives], by simp [Survives], Or.inl ?_⟩
    rw [secondWrites, again, firstWrites, loaded]
  · obtain ⟨loaded, again, rfl⟩ := replays
    refine Or.inr (Or.inl ⟨by simp [Survives], by simp [Survives], ?_⟩)
    rw [secondWrites, again]
  · obtain ⟨loaded, again, rfl⟩ := replays
    refine Or.inr (Or.inr ⟨by simp [Survives], by simp [Survives], ?_⟩)
    rw [firstWrites, loaded]
  · obtain ⟨again, loaded, rfl⟩ := replays
    refine Or.inr (Or.inl ⟨by simp [Survives], by simp [Survives], ?_⟩)
    rw [secondWrites, again]
  · obtain ⟨again, loaded, rfl⟩ := replays
    refine Or.inr (Or.inr ⟨by simp [Survives], by simp [Survives], ?_⟩)
    rw [firstWrites, loaded]
  · obtain ⟨again, loaded, rfl⟩ := replays
    refine Or.inl ⟨by simp [Survives], by simp [Survives], Or.inr ?_⟩
    rw [firstWrites, loaded, secondWrites, again]

end Mark

/-! ## The two calls -/

section Runs

variable {setup : Setup} {platform key : String}

def storedTurnIds (platform key : String) (world : InboundWorld) : JsonMap :=
  messageTurnIds ((Sessions.loadMetadata world.store platform key).toOption.getD [])

def turnRecord (trace : List (inboundMachine setup).Event) (task : Nat) : TurnRecord :=
  trace.foldl (fun record event =>
    if event.task = task then record.next event.op event.answer else record) .fresh

/-- The loads and writes of the sessions, in their order. -/
def sessionMarks (trace : List (inboundMachine setup).Event) : List Mark :=
  trace.filterMap fun event => Mark.of event.task event.op event.answer

theorem turnRecord_concat (trace : List (inboundMachine setup).Event)
    (event : (inboundMachine setup).Event) (task : Nat) :
    turnRecord (trace ++ [event]) task =
      if event.task = task then (turnRecord trace task).next event.op event.answer
      else turnRecord trace task := by
  simp [turnRecord]

theorem sessionMarks_concat (trace : List (inboundMachine setup).Event)
    (event : (inboundMachine setup).Event) :
    sessionMarks (trace ++ [event]) =
      sessionMarks trace ++ (Mark.of event.task event.op event.answer).toList := by
  simp only [sessionMarks, List.filterMap_append, List.filterMap_cons, List.filterMap_nil]
  cases Mark.of event.task event.op event.answer with
  | none => rfl
  | some mark => rfl

/-- The metadata of the session is loaded nowhere else. -/
def OnSession (platform key : String) (event : (inboundMachine setup).Event) : Prop :=
  ∀ other name, event.op = .loadMetadata other name → other = platform ∧ name = key

def TurnRecord.marks (task : Nat) (record : TurnRecord) : List Mark :=
  (record.loaded.map (Mark.load task)).toList ++ (record.wrote.map (Mark.write task)).toList

/-- What holds of a task's ghost record. -/
structure TurnTracked (platform key : String) (trace : List (inboundMachine setup).Event)
    (task : Nat) (record : TurnRecord) : Prop where
  own : record = turnRecord trace task
  marks : (sessionMarks trace).filter (fun mark => decide (mark.task = task)) = record.marks task
  session : ∀ session, record.session = some session → session = (platform, key)
  written : ∀ metadata, record.wrote = some metadata → record.Writes setup.gateway metadata

theorem mark_task {task : Nat} {op : InboundOp} {answer : InboundAns op} {mark : Mark}
    (marked : Mark.of task op answer = some mark) : mark.task = task := by
  simp only [Mark.of] at marked
  split at marked
  · obtain rfl := Option.some.inj marked
    rfl
  · obtain rfl := Option.some.inj marked
    rfl
  · simp at marked

theorem TurnTracked.other {trace : List (inboundMachine setup).Event} {task : Nat}
    {record : TurnRecord} (tracked : TurnTracked platform key trace task record)
    {event : (inboundMachine setup).Event} (other : task ≠ event.task) :
    TurnTracked platform key (trace ++ [event]) task record := by
  refine ⟨?_, ?_, tracked.session, tracked.written⟩
  · rw [turnRecord_concat, if_neg (Ne.symm other)]
    exact tracked.own
  · rw [sessionMarks_concat, List.filter_append, tracked.marks]
    have none : (Mark.of event.task event.op event.answer).toList.filter
        (fun mark => decide (mark.task = task)) = [] := by
      refine List.filter_eq_nil_iff.mpr fun mark listed => ?_
      have same := mark_task (Option.mem_toList.mp listed)
      simpa [same] using Ne.symm other
    rw [none, List.append_nil]

theorem TurnTracked.step {trace : List (inboundMachine setup).Event} {record : TurnRecord}
    {event : (inboundMachine setup).Event}
    (tracked : TurnTracked platform key trace event.task record)
    (allowed : record.allows setup.gateway event.op) (here : OnSession platform key event) :
    TurnTracked platform key (trace ++ [event]) event.task (record.next event.op event.answer) := by
  have own : record.next event.op event.answer = turnRecord (trace ++ [event]) event.task := by
    rw [turnRecord_concat, if_pos rfl, tracked.own]
  have marks : (sessionMarks (trace ++ [event])).filter
        (fun mark => decide (mark.task = event.task)) =
      record.marks event.task ++ (Mark.of event.task event.op event.answer).toList := by
    rw [sessionMarks_concat, List.filter_append, tracked.marks]
    congr 1
    refine List.filter_eq_self.mpr fun mark listed => ?_
    simp [mark_task (Option.mem_toList.mp listed)]
  obtain ⟨task, op, answer, before, after⟩ := event
  have still : record.next op answer = record → Mark.of task op answer = none →
      TurnTracked platform key (trace ++ [⟨task, op, answer, before, after⟩]) task
        (record.next op answer) := by
    intro same unmarked
    refine ⟨own, ?_, ?_, ?_⟩
    · rw [same, marks, unmarked]
      exact List.append_nil _
    · rw [same]
      exact tracked.session
    · rw [same]
      exact tracked.written
  cases op with
  | normalizeInbound adapter payload =>
      obtain rfl : record = .fresh := allowed
      cases answer with
      | error error => exact still rfl rfl
      | ok inbound =>
          refine ⟨own, marks, tracked.session, ?_⟩
          simp [TurnRecord.next, TurnRecord.fresh]
  | loadMetadata other name =>
      obtain ⟨inbound, -, rfl⟩ := allowed
      cases answer with
      | error error => exact still rfl rfl
      | ok metadata =>
          obtain ⟨rfl, rfl⟩ := here other name rfl
          refine ⟨own, marks, ?_, ?_⟩
          · intro session same
            exact (Option.some.inj same).symm
          · simp [TurnRecord.next, TurnRecord.fresh]
  | postTurn request =>
      obtain ⟨-, -, unwritten⟩ := allowed
      cases answer with
      | error error => exact still rfl rfl
      | ok response =>
          refine ⟨own, ?_, tracked.session, ?_⟩
          · rw [marks]
            exact List.append_nil _
          · intro metadata wrote
            simp [TurnRecord.next, unwritten] at wrote
  | setMetadata other name metadata =>
      obtain ⟨-, unwritten, writes⟩ := allowed
      cases answer with
      | error text => exact still rfl rfl
      | ok done =>
          refine ⟨own, ?_, tracked.session, ?_⟩
          · rw [marks]
            simp [TurnRecord.marks, TurnRecord.next, Mark.of, unwritten]
          · rintro _ ⟨⟩
            obtain ⟨inbound, loaded, rest⟩ := writes
            exact ⟨inbound, loaded, rest⟩
  | fleetBegin _ | fleetSelect _ | loadHistory _ _ | registerRoute _ _ | appendTurns _ _ _
  | deliver _ _ _ _ | utcNowIso => exact still rfl rfl

/-- What a step does to the session's turn ids shows in its mark. -/
theorem perform_replays {record : TurnRecord} {world after : InboundWorld} {choice : InboundChoice}
    {task : Nat} {op : InboundOp} {answer : InboundAns op}
    (allowed : record.allows setup.gateway op)
    (session : ∀ session, record.session = some session → session = (platform, key))
    (here : ∀ other name, op = .loadMetadata other name → other = platform ∧ name = key)
    (performed : world.perform setup.host op choice = (answer, after)) :
    Mark.Replays (storedTurnIds platform key world) (Mark.of task op answer).toList
      (storedTurnIds platform key after) := by
  cases op with
  | normalizeInbound _ _ | fleetBegin _ | fleetSelect _ | loadHistory _ _ | postTurn _
  | deliver _ _ _ _ | utcNowIso =>
      obtain ⟨-, rfl⟩ := Prod.mk.inj performed
      rfl
  | loadMetadata other name =>
      obtain ⟨rfl, rfl⟩ := here other name rfl
      obtain ⟨same, rfl⟩ := Prod.mk.inj performed
      cases answer with
      | error text => rfl
      | ok metadata =>
          refine ⟨?_, rfl⟩
          simp [storedTurnIds, same, Except.toOption]
  | setMetadata other name metadata =>
      obtain ⟨same, -, -⟩ := allowed
      obtain ⟨rfl, rfl⟩ := Prod.mk.inj (session _ same)
      simp only [InboundWorld.perform] at performed
      generalize set : Sessions.setMetadata (world.opened choice) other name metadata = result
        at performed
      obtain ⟨written, store⟩ := result
      obtain ⟨rfl, rfl⟩ := Prod.mk.inj performed
      cases written with
      | error text =>
          have unchanged := Sessions.setMetadata_error set
          subst unchanged
          rfl
      | ok done =>
          have read := Sessions.setMetadata_ok set
          show messageTurnIds metadata = storedTurnIds other name { world with store }
          simp [storedTurnIds, read, Except.toOption]
  | registerRoute routeKey route =>
      have store : after.store = world.store := by
        have registered := congrArg (fun result => result.2.store) performed
        simp only [InboundWorld.perform, InboundWorld.registerRoute] at registered
        rw [← registered]
        split
        · rfl
        · split <;> rfl
      show storedTurnIds platform key world = storedTurnIds platform key after
      rw [storedTurnIds, storedTurnIds, store]
  | appendTurns other name turns =>
      obtain ⟨rfl, rfl⟩ := Prod.mk.inj (session _ allowed)
      have read : Sessions.loadMetadata after.store other name =
          Sessions.loadMetadata world.store other name := by
        have kept := @Sessions.loadMetadata_appendTurns other name (world.opened choice) choice.stamp
          turns
        obtain ⟨-, rfl⟩ := Prod.mk.inj performed
        exact kept
      show storedTurnIds other name world = storedTurnIds other name after
      rw [storedTurnIds, storedTurnIds, read]

/-- Inbound messages only. -/
def InboundMove : (inboundMachine setup).Move → Prop
  | .start (.gatewayTurn _) => False
  | _ => True

theorem turn_steady : @Machine.Steady InboundOp InboundAns TurnRecord (inboundMachine setup)
    (fun _ => turnProtocol setup.gateway) InboundMove fun _ => True :=
  ⟨fun _ _ _ _ _ _ _ => ⟨trivial, fun _ => trivial⟩, fun _ _ _ _ => trivial⟩

theorem inbound_follows {call : InboundCall}
    (allowed : @InboundMove setup (.start call)) :
    (call.program setup.texts setup.digests setup.gateway).Follows (turnProtocol setup.gateway)
      .fresh TurnRecord.Ended := by
  cases call with
  | inbound adapterName payload => exact handleInbound_follows adapterName payload
  | gatewayTurn payload => exact allowed.elim

theorem windows_tracked {origin world : InboundWorld} {phases : List (InboundCall × TurnRecord)}
    {trace : List (inboundMachine setup).Event}
    (run : @Machine.Phased InboundOp InboundAns TurnRecord (inboundMachine setup)
      (fun _ => turnProtocol setup.gateway) (fun _ => .fresh) InboundMove origin world phases trace)
    (here : ∀ event ∈ trace, OnSession platform key event) :
    Mark.Replays (storedTurnIds platform key origin) (sessionMarks trace)
        (storedTurnIds platform key world) ∧
      ∀ task call record, phases[task]? = some (call, record) →
        TurnTracked platform key trace task record := by
  refine Machine.Phased.maintains_while (OnSession platform key)
    (fun world trace => Mark.Replays (storedTurnIds platform key origin) (sessionMarks trace)
      (storedTurnIds platform key world))
    (fun _ trace task _ record => TurnTracked platform key trace task record)
    rfl ?start ?step ?outside run here
  case start =>
    intro world phases trace call _ run _
    have earlier : ∀ event ∈ trace, event.task < phases.length := run.trace_tasks
    refine ⟨?_, ?_, by simp [TurnRecord.fresh], by simp [TurnRecord.fresh]⟩
    · exact (Machine.foldl_fresh earlier).symm
    · refine List.filter_eq_nil_iff.mpr fun mark listed => ?_
      obtain ⟨event, member, marked⟩ := List.mem_filterMap.mp listed
      have own := earlier event member
      have same := mark_task marked
      simp only [decide_eq_true_eq]
      omega
  case step =>
    intro world after phases trace task call record op choice answer run each holder allowed _
      performed here replays
    have tracked := each task call record holder
    have step := @perform_replays setup platform key record world after choice task op answer allowed tracked.session here
      (Option.some.inj performed)
    refine ⟨?_, @TurnTracked.step setup platform key trace record ⟨task, op, answer, world, after⟩
      tracked allowed here, fun other started otherRecord different _ old => old.other different⟩
    rw [sessionMarks_concat]
    exact Mark.replays_append.mpr ⟨_, replays, step⟩
  case outside => exact fun _ _ event => nomatch event

/-! ## Both turn ids -/

/-- The stored metadata has the task's message with the turn id that Beacon gave the task. -/
def EntryStored (platform key : String) (world : InboundWorld)
    (trace : List (inboundMachine setup).Event) (task : Nat) (inbound : InboundMessage) : Prop :=
  ∃ turn, (turnRecord trace task).turn = some turn ∧
    JsonMap.get (storedTurnIds platform key world) inbound.messageId = some (.str turn)

/-- The task wrote its entry and nobody wrote it over with metadata loaded before. -/
def EntryKept (trace : List (inboundMachine setup).Event) (task : Nat) (inbound : InboundMessage) :
    Prop :=
  Text.isBlank inbound.messageId = false ∧ Mark.Survives task (sessionMarks trace)

theorem get_updatedTurnIds (inbound : InboundMessage) (turn : String) (ids : JsonMap)
    (messageId : String) :
    JsonMap.get (updatedTurnIds inbound (some turn) ids) messageId =
      if Text.isBlank inbound.messageId = false ∧ inbound.messageId = messageId then
        some (.str turn)
      else JsonMap.get ids messageId := by
  simp only [updatedTurnIds]
  cases blank : Text.isBlank inbound.messageId with
  | true => simp
  | false => simp [JsonMap.get_insert]

theorem get_updatedTurnIds_other {inbound : InboundMessage} {turn : Option String} {ids : JsonMap}
    {messageId : String} (other : inbound.messageId ≠ messageId) :
    JsonMap.get (updatedTurnIds inbound turn ids) messageId = JsonMap.get ids messageId := by
  cases turn with
  | none => rfl
  | some turn =>
      rw [get_updatedTurnIds, if_neg]
      exact fun both => other both.2

theorem get_updatedTurnIds_congr {inbound : InboundMessage} {turn : Option String}
    {ids others : JsonMap} {messageId : String}
    (same : JsonMap.get ids messageId = JsonMap.get others messageId) :
    JsonMap.get (updatedTurnIds inbound turn ids) messageId =
      JsonMap.get (updatedTurnIds inbound turn others) messageId := by
  cases turn with
  | none => exact same
  | some turn => rw [get_updatedTurnIds, get_updatedTurnIds, same]

/-- What is there of a task's message at the end, by whether its write was kept. -/
theorem get_kept_iff {inbound : InboundMessage} {turn : String} {ids last : JsonMap} {kept : Prop}
    (own : kept → JsonMap.get last inbound.messageId =
      JsonMap.get (updatedTurnIds inbound (some turn) ids) inbound.messageId)
    (lost : ¬kept → JsonMap.get last inbound.messageId = JsonMap.get ids inbound.messageId) :
    JsonMap.get last inbound.messageId = some (.str turn) ↔
      Text.isBlank inbound.messageId = false ∧ kept ∨
        JsonMap.get ids inbound.messageId = some (.str turn) := by
  by_cases held : kept
  · rw [own held, get_updatedTurnIds]
    cases blank : Text.isBlank inbound.messageId with
    | true => simp
    | false => simp [held]
  · rw [lost held]
    simp [held]

/-- What the two windows leave of the two entries. -/
theorem get_windows {first second : InboundMessage} {firstTurn secondTurn : Option String}
    {ids last : JsonMap} {firstKept secondKept : Prop}
    (different : first.messageId ≠ second.messageId)
    (windows :
      firstKept ∧ secondKept ∧
          (last = updatedTurnIds second secondTurn (updatedTurnIds first firstTurn ids) ∨
            last = updatedTurnIds first firstTurn (updatedTurnIds second secondTurn ids)) ∨
        ¬firstKept ∧ secondKept ∧ last = updatedTurnIds second secondTurn ids ∨
        firstKept ∧ ¬secondKept ∧ last = updatedTurnIds first firstTurn ids) :
    (firstKept → JsonMap.get last first.messageId =
        JsonMap.get (updatedTurnIds first firstTurn ids) first.messageId) ∧
      (¬firstKept → JsonMap.get last first.messageId = JsonMap.get ids first.messageId) ∧
      (secondKept → JsonMap.get last second.messageId =
        JsonMap.get (updatedTurnIds second secondTurn ids) second.messageId) ∧
      (¬secondKept → JsonMap.get last second.messageId = JsonMap.get ids second.messageId) := by
  rcases windows with ⟨left, right, rfl | rfl⟩ | ⟨left, right, rfl⟩ | ⟨left, right, rfl⟩
  · refine ⟨fun _ => ?_, absurd left, fun _ => ?_, absurd right⟩
    · exact get_updatedTurnIds_other different.symm
    · exact get_updatedTurnIds_congr (get_updatedTurnIds_other different)
  · refine ⟨fun _ => ?_, absurd left, fun _ => ?_, absurd right⟩
    · exact get_updatedTurnIds_congr (get_updatedTurnIds_other different.symm)
    · exact get_updatedTurnIds_other different
  · refine ⟨fun kept => absurd kept left, fun _ => ?_, fun _ => rfl, absurd right⟩
    exact get_updatedTurnIds_other different.symm
  · refine ⟨fun _ => rfl, absurd left, fun kept => absurd kept right, fun _ => ?_⟩
    exact get_updatedTurnIds_other different

/-- A finished turn of the session: its message, its two marks, and what it wrote. -/
structure Finished (trace : List (inboundMachine setup).Event) (task : Nat)
    (inbound : InboundMessage) : Prop where
  ended : ∃ loaded written,
    (sessionMarks trace).filter (fun mark => decide (mark.task = task)) =
      [.load task loaded, .write task written] ∧
    messageTurnIds written =
      updatedTurnIds inbound (turnRecord trace task).turn (messageTurnIds loaded)
  asked : (turnRecord trace task).turn.isSome = usesBeacon setup.gateway inbound.platform

/-- The task has loaded its session for the message. -/
def Holds (trace : List (inboundMachine setup).Event) (task : Nat) (inbound : InboundMessage) :
    Prop :=
  (turnRecord trace task).inbound = some inbound ∧ (turnRecord trace task).session ≠ none

theorem TurnTracked.finished {trace : List (inboundMachine setup).Event} {task : Nat}
    {record : TurnRecord} {response : Json} {inbound : InboundMessage}
    (tracked : TurnTracked platform key trace task record) (ended : record.Ended (.ok response))
    (holds : Holds trace task inbound) : Finished trace task inbound := by
  obtain ⟨message, opened⟩ := holds
  rw [← tracked.own] at message opened
  have wrote : record.wrote.isSome = true := (ended response rfl).resolve_left opened
  obtain ⟨written, wrote⟩ := Option.isSome_iff_exists.mp wrote
  obtain ⟨other, loaded, same, read, asked, ids⟩ := (tracked.written written wrote).own
  obtain rfl := Option.some.inj (message.symm.trans same)
  refine ⟨⟨loaded, written, ?_, ?_⟩, ?_⟩
  · rw [tracked.marks]
    simp [TurnRecord.marks, read, wrote]
  · rw [← tracked.own]
    exact ids
  · rw [← tracked.own]
    exact asked

/-- Two finished turns of one session over one history. -/
theorem entries_stored_iff {origin world : InboundWorld}
    {trace : List (inboundMachine setup).Event} {first second : InboundMessage}
    (firstDone : Finished trace 0 first) (secondDone : Finished trace 1 second)
    (tasks : ∀ event ∈ trace, event.task < 2)
    (replays : Mark.Replays (storedTurnIds platform key origin) (sessionMarks trace)
      (storedTurnIds platform key world))
    (different : first.messageId ≠ second.messageId) :
    (EntryStored platform key world trace 0 first ∧ EntryStored platform key world trace 1 second) ↔
      (usesBeacon setup.gateway first.platform = true ∧
        usesBeacon setup.gateway second.platform = true) ∧
      (EntryKept trace 0 first ∨ EntryStored platform key origin trace 0 first) ∧
      (EntryKept trace 1 second ∨ EntryStored platform key origin trace 1 second) := by
  obtain ⟨⟨firstLoaded, firstWritten, ownFirst, firstWrites⟩, firstAsked⟩ := firstDone
  obtain ⟨⟨secondLoaded, secondWritten, ownSecond, secondWrites⟩, secondAsked⟩ := secondDone
  have others : (sessionMarks trace).filter (fun mark => !decide (mark.task = 0)) =
      (sessionMarks trace).filter (fun mark => decide (mark.task = 1)) := by
    refine List.filter_congr fun mark listed => ?_
    obtain ⟨event, member, marked⟩ := List.mem_filterMap.mp listed
    have bound := tasks event member
    have same := mark_task marked
    by_cases zero : mark.task = 0
    · simp [zero]
    · have one : mark.task = 1 := by omega
      simp [one]
  have windows := @Mark.two_windows (sessionMarks trace) (storedTurnIds platform key origin)
    (storedTurnIds platform key world) firstLoaded firstWritten secondLoaded secondWritten
    (updatedTurnIds first (turnRecord trace 0).turn)
    (updatedTurnIds second (turnRecord trace 1).turn)
    ownFirst (others.trans ownSecond) firstWrites secondWrites replays
  cases firstTurn : (turnRecord trace 0).turn with
  | none =>
      rw [firstTurn] at firstAsked
      simp [EntryStored, firstTurn, ← firstAsked]
  | some firstId =>
    cases secondTurn : (turnRecord trace 1).turn with
    | none =>
        rw [secondTurn] at secondAsked
        simp [EntryStored, secondTurn, ← secondAsked]
    | some secondId =>
        rw [firstTurn] at firstAsked windows
        rw [secondTurn] at secondAsked windows
        obtain ⟨firstOwn, firstLost, secondOwn, secondLost⟩ := get_windows different windows
        have firstKept := get_kept_iff firstOwn firstLost
        have secondKept := get_kept_iff secondOwn secondLost
        simp only [EntryStored, EntryKept, firstTurn, secondTurn, Option.some.injEq,
          exists_eq_left', ← firstAsked, ← secondAsked, Option.isSome_some, true_and, firstKept,
          secondKept]

/-- For any two inbound messages of one session, whatever else their steps do: both turn ids are
there at the end exactly where both turns went to Beacon and neither entry was written over. -/
theorem session_updates_kept_iff {firstAdapter secondAdapter : String}
    {firstPayload secondPayload firstResponse secondResponse : Json} {origin : InboundWorld}
    {moves : List (inboundMachine setup).Move} {last : (inboundMachine setup).System}
    {first second : InboundMessage}
    (played : (Machine.System.boot origin).play
      (.start (InboundCall.inbound firstAdapter firstPayload) ::
        .start (InboundCall.inbound secondAdapter secondPayload) :: moves) = some last)
    (steps : ∀ move ∈ moves, ∃ task choice, move = .step task choice)
    (here : ∀ event ∈ last.trace, OnSession platform key event)
    (firstOk : last.result? 0 = some (.ok firstResponse))
    (secondOk : last.result? 1 = some (.ok secondResponse))
    (firstHolds : Holds last.trace 0 first) (secondHolds : Holds last.trace 1 second)
    (different : first.messageId ≠ second.messageId) :
    (EntryStored platform key last.world last.trace 0 first ∧
        EntryStored platform key last.world last.trace 1 second) ↔
      (usesBeacon setup.gateway first.platform = true ∧
        usesBeacon setup.gateway second.platform = true) ∧
      (EntryKept last.trace 0 first ∨ EntryStored platform key origin last.trace 0 first) ∧
      (EntryKept last.trace 1 second ∨ EntryStored platform key origin last.trace 1 second) := by
  have allowed : ∀ move ∈ (.start (.inbound firstAdapter firstPayload) ::
      .start (.inbound secondAdapter secondPayload) :: moves : List (inboundMachine setup).Move),
      InboundMove move := by
    intro move member
    rcases List.mem_cons.mp member with rfl | member
    · trivial
    rcases List.mem_cons.mp member with rfl | member
    · trivial
    obtain ⟨task, choice, rfl⟩ := steps move member
    trivial
  obtain ⟨phases, run, tracks⟩ := Machine.play_phased_boot turn_steady
    (fun call allowed => inbound_follows allowed) allowed trivial played
  obtain ⟨replays, tracked⟩ := windows_tracked run here
  have count : phases.length = 2 := by
    rw [tracks.length, Machine.System.play_steps_length steps played]
    rfl
  have ended : ∀ {task : Nat} {response : Json} {inbound : InboundMessage},
      last.result? task = some (.ok response) → Holds last.trace task inbound →
      Finished last.trace task inbound := by
    intro task response inbound returned holds
    obtain ⟨call, found⟩ := Machine.System.result?_eq_some returned
    obtain ⟨record, listed, ends⟩ := tracks.follows task call _ found
    exact (tracked task call record listed).finished ends holds
  refine entries_stored_iff (ended firstOk firstHolds) (ended secondOk secondHolds) ?_ replays
    different
  intro event member
  rw [← count]
  exact run.trace_tasks event member

end Runs

/-! ## Two webhook messages of one chat -/

def webhookSetup : Setup where
  texts := ⟨fun _ => "", fun _ => "", fun text _ _ => text, fun _ _ => []⟩
  digests := ⟨fun _ => "", fun marker _ _ => marker⟩
  host := Inbox.sampleHost
  gateway := ⟨"gateway", [⟨"webhook", 60⟩], false, true⟩

def emptyWorld : InboundWorld :=
  ⟨Sessions.emptyStore, ∅⟩

def chatMessage (messageId : String) : Json :=
  .obj [("chat_id", .str "c"), ("message_id", .str messageId), ("platform", .str "p"),
    ("text", .str "t")]

def answeredChoice (turn : String) : InboundChoice where
  stamp := "now"
  kept := .ok ()
  begun := .ok ()
  selected := .error (.validation "no fleet")
  response := .ok (.obj [("turn", .obj [("turn_id", .str turn)])])
  delivered := .ok .null
  writable _ := true
  routesFailure := none

def chatMoves (tasks : List Nat) : List (inboundMachine webhookSetup).Move :=
  .start (InboundCall.inbound "webhook" (chatMessage "m1")) ::
    .start (InboundCall.inbound "webhook" (chatMessage "m2")) ::
    tasks.map fun task => .step task (answeredChoice (if task = 0 then "t1" else "t2"))

def messageOf (messageId : String) : InboundMessage where
  platform := "p"
  chatId := "c"
  userId := "anonymous"
  text := "t"
  messageId := messageId
  chatType := "p2p"
  routeKey := ""
  sessionId := ""
  mentions := []
  attachments := []
  metadata := []
  timestamp := "now"
  rawPayload := chatMessage messageId

def onChat (event : (inboundMachine webhookSetup).Event) : Bool :=
  match event.op with
  | .loadMetadata platform key => platform = "p" && key = "c"
  | _ => true

/-- What the two calls of a run did, and the turn ids it left. -/
structure Outcome where
  results : List (Option (Except GatewayError Json))
  inbound : List (Option InboundMessage)
  sessions : List (Option (String × String))
  onChat : Bool
  stored : List (Option Json)

def outcome (last : (inboundMachine webhookSetup).System) : Outcome where
  results := [0, 1].map last.result?
  inbound := [0, 1].map fun task => (turnRecord last.trace task).inbound
  sessions := [0, 1].map fun task => (turnRecord last.trace task).session
  onChat := last.trace.all onChat
  stored := ["m1", "m2"].map (JsonMap.get (storedTurnIds "p" "c" last.world))

def chatOutcome (stored : List (Option Json)) : Outcome where
  results := [some (.ok .null), some (.ok .null)]
  inbound := [some (messageOf "m1"), some (messageOf "m2")]
  sessions := [some ("p", "c"), some ("p", "c")]
  onChat := true
  stored := stored

theorem chatMoves_steps (tasks : List Nat) :
    ∀ move ∈ tasks.map fun task =>
        (.step task (answeredChoice (if task = 0 then "t1" else "t2")) :
          (inboundMachine webhookSetup).Move),
      ∃ task choice, move = .step task choice := by
  intro move member
  obtain ⟨task, -, rfl⟩ := List.mem_map.mp member
  exact ⟨task, _, rfl⟩

theorem onSession_of_onChat {trace : List (inboundMachine webhookSetup).Event}
    (chat : trace.all onChat = true) : ∀ event ∈ trace, OnSession "p" "c" event := by
  intro event member platform key asked
  have here := List.all_eq_true.mp chat event member
  simpa [onChat, asked] using here

/-- Both load the session before either writes. -/
def overlapping : List Nat :=
  [0, 0, 0, 1, 1, 1] ++ List.replicate 8 0 ++ List.replicate 8 1

def oneByOne : List Nat :=
  List.replicate 11 0 ++ List.replicate 11 1

/-- Both messages are answered, and the turn id of the first is gone. -/
theorem overlapping_turns_lose_an_update : ∃ last,
    (Machine.System.boot emptyWorld).play (chatMoves overlapping) = some last ∧
      (∀ event ∈ last.trace, OnSession "p" "c" event) ∧
      last.result? 0 = some (.ok .null) ∧ last.result? 1 = some (.ok .null) ∧
      Holds last.trace 0 (messageOf "m1") ∧ Holds last.trace 1 (messageOf "m2") ∧
      (messageOf "m1").messageId ≠ (messageOf "m2").messageId ∧
      ¬EntryStored "p" "c" last.world last.trace 0 (messageOf "m1") := by
  have played : ((Machine.System.boot emptyWorld).play (chatMoves overlapping)).map outcome =
      some (chatOutcome [none, some (.str "t2")]) := by rfl
  obtain ⟨last, reached, shown⟩ := Option.map_eq_some_iff.mp played
  simp only [outcome, chatOutcome, List.map_cons, List.map_nil, Outcome.mk.injEq, List.cons.injEq,
    and_true] at shown
  obtain ⟨⟨first, second⟩, ⟨firstInbound, secondInbound⟩, ⟨firstSession, secondSession⟩, chat,
    lost, -⟩ := shown
  refine ⟨last, reached, onSession_of_onChat chat, first, second, ⟨firstInbound, ?_⟩,
    ⟨secondInbound, ?_⟩, by decide, ?_⟩
  · simp [firstSession]
  · simp [secondSession]
  · rintro ⟨turn, -, stored⟩
    simp [messageOf, lost] at stored

theorem turns_one_by_one_are_kept : ∃ last,
    (Machine.System.boot emptyWorld).play (chatMoves oneByOne) = some last ∧
      (EntryStored "p" "c" last.world last.trace 0 (messageOf "m1") ∧
          EntryStored "p" "c" last.world last.trace 1 (messageOf "m2") ↔
        (usesBeacon webhookSetup.gateway "p" = true ∧ usesBeacon webhookSetup.gateway "p" = true) ∧
        (EntryKept last.trace 0 (messageOf "m1") ∨
          EntryStored "p" "c" emptyWorld last.trace 0 (messageOf "m1")) ∧
        (EntryKept last.trace 1 (messageOf "m2") ∨
          EntryStored "p" "c" emptyWorld last.trace 1 (messageOf "m2"))) := by
  have played : ((Machine.System.boot emptyWorld).play (chatMoves oneByOne)).map outcome =
      some (chatOutcome [some (.str "t1"), some (.str "t2")]) := by rfl
  obtain ⟨last, reached, shown⟩ := Option.map_eq_some_iff.mp played
  simp only [outcome, chatOutcome, List.map_cons, List.map_nil, Outcome.mk.injEq, List.cons.injEq,
    and_true] at shown
  obtain ⟨⟨first, second⟩, ⟨firstInbound, secondInbound⟩, ⟨firstSession, secondSession⟩, chat,
    -⟩ := shown
  refine ⟨last, reached, session_updates_kept_iff reached (chatMoves_steps oneByOne)
    (onSession_of_onChat chat) first second ⟨firstInbound, ?_⟩ ⟨secondInbound, ?_⟩ (by decide)⟩
  · simp [firstSession]
  · simp [secondSession]

end Inbound

end HarborGate
