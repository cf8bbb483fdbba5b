import HarborGate.Gateway.Course
import HarborGate.Gateway.Exclusive
import HarborGate.Gateway.Recovery
import HarborGate.Lib.Utf8

/-!
The receipt of a failed notification and the ledger it leaves. The receipt is judged by its message
alone, the ledger by what the last step of the call recorded; the two agree unless a step records
one thing and says another, or records nothing.
-/

namespace HarborGate

open Interleave

/-! ## Messages and blanks -/

theorem infix_of_lead {test : Char → Bool} {needle lead rest : List Char}
    (first : (needle.head?.any (!test ·)) = true) (blank : ∀ c ∈ lead, test c = true)
    (inside : needle <:+: lead ++ rest) : needle <:+: rest := by
  induction lead with
  | nil => exact inside
  | cons white lead ih =>
      rw [List.cons_append, List.infix_cons_iff] at inside
      rcases inside with start | later
      · cases needle with
        | nil => simp at first
        | cons c tail =>
            obtain rfl := (List.cons_prefix_cons.mp start).1
            simp [blank c List.mem_cons_self] at first
      · exact ih (fun c member => blank c (List.mem_cons_of_mem _ member)) later

theorem lowerChar_blank {c : Char} (blank : Text.isWhitespace c = true) : Text.lowerChar c = [c] := by
  have small : c.isUpper = false := by
    by_contra upper
    rw [Bool.not_eq_false] at upper
    unfold Char.isUpper at upper
    simp only [decide_eq_true_eq, ge_iff_le, UInt32.le_iff_toNat_le] at upper
    have least : 'A'.val.toNat = 65 := rfl
    have greatest : 'Z'.val.toNat = 90 := rfl
    have code : c.val.toNat = c.toNat := rfl
    simp only [Text.isWhitespace, Bool.or_eq_true, Bool.and_eq_true, decide_eq_true_eq,
      beq_iff_eq] at blank
    omega
  simp only [Text.isWhitespace, Bool.or_eq_true, Bool.and_eq_true, decide_eq_true_eq,
    beq_iff_eq] at blank
  rw [Text.lowerChar, if_neg (by simp [small]), if_neg (by omega), if_neg (by omega)]

theorem lower_blanks {text : List Char} (blank : ∀ c ∈ text, Text.isWhitespace c = true) :
    text.flatMap Text.lowerChar = text := by
  induction text with
  | nil => rfl
  | cons c rest ih =>
      rw [List.flatMap_cons, lowerChar_blank (blank c List.mem_cons_self),
        ih fun other member => blank other (List.mem_cons_of_mem _ member), List.singleton_append]

/-- Neither end of the word is blank. -/
def isWord (word : String) : Bool :=
  (word.toList.head?.any (!Text.isWhitespace ·)) &&
    word.toList.reverse.head?.any (!Text.isWhitespace ·)

theorem contains_trim {word : String} (whole : isWord word = true) (text : String)
    (found : Text.contains (Text.toLowercase text) word = true) :
    Text.contains (Text.toLowercase (Text.trim text)) word = true := by
  simp only [isWord, Bool.and_eq_true] at whole
  rw [Text.contains_iff] at found ⊢
  simp only [Text.toLowercase, Text.trim, String.toList_ofList] at found ⊢
  have front := @List.takeWhile_append_dropWhile _ Text.isWhitespace text.toList
  generalize led : text.toList.dropWhile Text.isWhitespace = rest at front ⊢
  have back := @List.takeWhile_append_dropWhile _ Text.isWhitespace rest.reverse
  have whites : ∀ list : List Char, ∀ c ∈ list.takeWhile Text.isWhitespace,
      Text.isWhitespace c = true := fun list c member => List.mem_takeWhile_imp member
  rw [← front, List.flatMap_append, lower_blanks (whites _)] at found
  have kept := infix_of_lead whole.1 (whites _) found
  have turned : rest = (rest.rdropWhile Text.isWhitespace) ++
      (rest.reverse.takeWhile Text.isWhitespace).reverse := by
    rw [← List.reverse_inj, List.reverse_append, List.reverse_reverse, List.rdropWhile,
      List.reverse_reverse, back]
  rw [turned, List.flatMap_append, ← List.reverse_infix, List.reverse_append] at kept
  have blanks : ∀ c ∈ ((rest.reverse.takeWhile Text.isWhitespace).reverse.flatMap
      Text.lowerChar).reverse, Text.isWhitespace c = true := by
    intro c member
    rw [lower_blanks fun c inside => whites _ c (List.mem_reverse.mp inside),
      List.reverse_reverse] at member
    exact whites _ c member
  exact List.reverse_infix.mp (infix_of_lead whole.2 blanks kept)

def finalWords : List String :=
  "context_token" :: authFailureWords ++ ["unsupported"]

theorem isFinal_iff {message : String} : IsFinal message ↔
    ∃ word ∈ finalWords, Text.contains (Text.toLowercase message) word = true := by
  simp only [IsFinal, mapDeliveryFailure, finalWords]
  split_ifs with token refused unsupported
  · simp [token]
  · simpa using Or.inr (Or.inl (List.any_eq_true.mp refused))
  · simp [unsupported]
  · have none : ∀ word ∈ authFailureWords,
        Text.contains (Text.toLowercase message) word ≠ true := by
      simpa using refused
    simp only [List.cons_append, List.mem_cons, List.mem_append, List.not_mem_nil, or_false]
    constructor
    · simp
    · rintro ⟨word, rfl | member | rfl, found⟩
      · exact absurd found token
      · exact absurd found (none word member)
      · exact absurd found unsupported

/-- A given-up item is found by the same words when its reason is trimmed. -/
theorem IsFinal.trimmed {message : String} (final : IsFinal message) (fallback : String) :
    IsFinal ((Text.trimmed (some message)).getD fallback) := by
  have words : ∀ word ∈ finalWords, isWord word = true := by decide
  have again : IsFinal (Text.trim message) := by
    obtain ⟨word, member, found⟩ := isFinal_iff.mp final
    exact isFinal_iff.mpr ⟨word, member, contains_trim (words word member) message found⟩
  have filled : Text.trim message ≠ "" := by
    intro empty
    have retried : (mapDeliveryFailure "").2 = true := by decide
    rw [empty, IsFinal, retried] at again
    exact Bool.false_ne_true again.symm
  have kept : Text.trimmed (some message) = some (Text.trim message) := by
    simp [Text.trimmed, filled]
  rw [kept, Option.getD_some]
  exact again

/-! ## What is kept between calls -/

/-- Given-up items have their reasons, items belong to plans, and stored answers are successes. -/
structure World.Orderly (world : World) : Prop where
  explained : world.ledger.Explained IsFinal
  planned : ∀ deliveryKey itemKey item, world.ledger.item? deliveryKey itemKey = some item →
    (world.ledger.planned? deliveryKey).isSome = true
  sent : ∀ (key : String) (record : DeliveryRecord), world.records[key]? = some record →
    record.responsePayload.get "ok" = some (.bool true)

/-- The plan of a call stands in the ledger. -/
def Course.Placed (course : Course) (records : Ledger) : Prop :=
  ∀ key, course.planned = some key → (records.planned? key).isSome = true

section Steps

variable {host : FleetHost} {world after : World} {op : Op} {choice : Choice} {answer : Ans op}
  {course : Course}

theorem Course.allows_reasoned {ledgerOp : LedgerOp} (allowed : course.allows op)
    (operation : op.ledgerOp choice.token = some ledgerOp) : ledgerOp.Reasoned IsFinal := by
  cases op with
  | finishDeliveryMaterialization completion | finishDeliveryItem completion =>
      obtain rfl := Option.some.inj operation
      exact allowed
  | persistDeliveryPlan _ _ _ _ | claimDeliveryMaterialization _ _ _ _ | claimDeliveryItem _
  | recordDeliveryItemUpload _ | finishDeliveryStage _ =>
      obtain rfl := Option.some.inj operation
      trivial
  | _ => simp [Op.ledgerOp] at operation

theorem planned_isSome (effect : LedgerEffect world after choice op answer) {key : String}
    (planned : (world.ledger.planned? key).isSome = true) :
    (after.ledger.planned? key).isSome = true := by
  rw [effect.planned?, Option.isSome_or, planned, Bool.true_or]

theorem Course.Placed.next (placed : course.Placed world.ledger)
    (effect : LedgerEffect world after choice op answer) :
    (course.next op answer).Placed after.ledger := by
  intro key planned
  simp only [Course.next] at planned
  cases fresh : HarborGate.planned? op answer with
  | none =>
      rw [fresh, Option.none_or] at planned
      exact planned_isSome effect (placed key planned)
  | some own =>
      rw [fresh, Option.some_or] at planned
      obtain rfl := Option.some.inj planned
      cases op with
      | persistDeliveryPlan deliveryKey fingerprint outbound items =>
          cases answer with
          | error error => simp [HarborGate.planned?] at fresh
          | ok done =>
              obtain rfl := Option.some.inj fresh
              rw [effect.planned?]
              simp [persisted?]
      | _ => simp [HarborGate.planned?] at fresh

theorem Course.Placed.stays (placed : course.Placed world.ledger)
    (effect : LedgerEffect world after choice op answer) : course.Placed after.ledger :=
  fun key planned => planned_isSome effect (placed key planned)

/-- An item is claimed only under a plan, and born with it. -/
theorem planned_step (planned : ∀ deliveryKey itemKey item,
      world.ledger.item? deliveryKey itemKey = some item →
        (world.ledger.planned? deliveryKey).isSome = true)
    (allowed : course.allows op) (placed : course.Placed world.ledger)
    (effect : LedgerEffect world after choice op answer) {deliveryKey itemKey : String}
    {item : LedgerItem} (present : after.ledger.item? deliveryKey itemKey = some item) :
    (after.ledger.planned? deliveryKey).isSome = true := by
  rcases effect.applied with same | ⟨commits, ledgerOp, operation, applied⟩
  · rw [same] at present ⊢
    exact planned _ _ _ present
  have change := LedgerStep.apply_effect ⟨choice.now, ledgerOp⟩ world.ledger deliveryKey itemKey
  rw [← applied, present] at change
  generalize before : world.ledger.item? deliveryKey itemKey = entry at change
  cases change with
  | moved move => exact planned_isSome effect (planned _ _ _ before)
  | born birth =>
      cases birth with
      | plan fingerprint outbound items first persists _ =>
          obtain rfl : ledgerOp = .persistPlan deliveryKey fingerprint outbound items := persists
          obtain rfl := Op.ledgerOp_persistPlan operation
          cases answer with
          | error error => simp [Op.commits] at commits
          | ok done =>
              rw [effect.planned?]
              simp [persisted?]
      | claim token request lease claims addressed =>
          obtain rfl : ledgerOp = .claimItem token request := claims
          obtain ⟨-, rfl⟩ := Op.ledgerOp_claimItem operation
          exact planned_isSome effect (placed _ (addressed.1 ▸ allowed))

theorem World.Orderly.step (orderly : world.Orderly) (allowed : course.allows op)
    (placed : course.Placed world.ledger)
    (performed : World.perform host world op choice = some (answer, after)) : after.Orderly := by
  have effect := World.perform_effect performed
  refine ⟨?_, fun _ _ _ => planned_step orderly.planned allowed placed effect, ?_⟩
  · rcases effect.applied with same | ⟨-, ledgerOp, operation, applied⟩
    · rw [same]
      exact orderly.explained
    · rw [applied]
      exact orderly.explained.apply (Course.allows_reasoned allowed operation)
  · intro key record found
    rcases (World.perform_evolves performed).records with same | ⟨name, saved, rfl, written⟩
    · exact orderly.sent key record (same ▸ found)
    · rw [written, Std.TreeMap.getElem?_insert] at found
      split at found
      · obtain rfl := Option.some.inj found
        exact allowed
      · exact orderly.sent key record found

theorem World.Orderly.outside (orderly : world.Orderly) (event : OutsideMove) :
    (event.apply host world).Orderly := by
  have records : (event.apply host world).records = world.records := by cases event <;> rfl
  refine ⟨?_, ?_, by rw [records]; exact orderly.sent⟩
  · cases event with
    | reconcileCache now ttl => exact orderly.explained.apply trivial
    | fleet _ | registerRoute _ _ => exact orderly.explained
  · intro deliveryKey itemKey moved present
    rw [OutsideMove.apply_planned?]
    obtain ⟨item, found, -⟩ := OutsideMove.item_before event present
    exact orderly.planned _ _ _ found

end Steps

/-! ## The last step -/

/-- The receipt says not to retry exactly if an item was given up, which is exactly if recovery
does not take the delivery up again. -/
structure TellsTruth (response : Json) (records : Ledger) (deliveryKey : String) : Prop where
  terminal : response.get "retryable" = some (.bool false) ↔
    hasTerminal records deliveryKey = true
  resumed : response.get "retryable" = some (.bool false) ↔ isResumed records deliveryKey = false

theorem tellsTruth_iff {response : Json} {records : Ledger} {deliveryKey : String}
    {retryable : Bool} (said : response.get "retryable" = some (.bool retryable)) :
    TellsTruth response records deliveryKey ↔ Concurs records deliveryKey retryable := by
  constructor
  · rintro ⟨terminal, resumed⟩
    rw [said] at terminal resumed
    cases retryable <;> simp_all [Concurs]
  · rintro ⟨terminal, resumed⟩
    constructor
    · rw [said, terminal]
      simp
    · rw [said, resumed]
      simp

/-- The message of a delivery that stops at a step which records no failure. -/
def unrecordedMessage : (op : Op) → Ans op → String
  | .persistDeliveryPlan _ _ _ _, .error error => error.text
  | .claimDeliveryMaterialization _ _ _ _, .error error => error.text
  | .claimDeliveryMaterialization _ _ _ _, .ok (.busy _) =>
      "delivery item is already being materialized"
  | .claimDeliveryMaterialization _ _ _ _, .ok _ =>
      "materialized delivery item is missing its outbound payload"
  | .finishDeliveryMaterialization _, .error error => error.text
  | .materializeAttachments _ _, _ => "materialized delivery item is missing its trusted cache path"
  | .claimDeliveryItem _, .error error => error.text
  | .claimDeliveryItem _, .ok _ => "delivery item is already being sent"
  | .finishDeliveryItem _, .error error => error.text
  | _, _ => ""

/-- When the receipt is right, by the last step of the call and the ledger it was taken in. A
given-up item is reported as it stands. A failure that is recorded as one to be retried must be
reported so unless another item was given up; the failure of a gateway without a media proxy is
reported as final. Where nothing is recorded, the message has to suit the ledger by itself. -/
def Truthful (request : NotificationRequest) (records : Ledger) : (op : Op) → Ans op → Prop
  | .claimDeliveryMaterialization _ _ _ _, .ok (.terminalFailed _) => True
  | .claimDeliveryItem _, .ok (.terminalFailed _) => True
  | .finishDeliveryMaterialization completion, .ok _ => completion.retryable = true →
      (completion.lastError = some mediaProxyMissing ↔
        otherTerminal records request.idempotencyKey completion.itemKey = true)
  | .finishDeliveryItem completion, .ok _ => completion.retryable = true →
      otherTerminal records request.idempotencyKey completion.itemKey = false
  | .utcNowIso, _ => Concurs records request.idempotencyKey
      (mapDeliveryFailure (splitMessage request)).2
  | op, answer => Concurs records request.idempotencyKey
      (mapDeliveryFailure (unrecordedMessage op answer)).2

theorem mediaProxyMissing_final : IsFinal mediaProxyMissing := by
  unfold IsFinal
  decide

section LastStep

-- The class of a message is compared, not computed.
attribute [local irreducible] mapDeliveryFailure

variable {world after : World} {op : Op} {choice : Choice} {answer : Ans op}
  {request : NotificationRequest} {message : String}

theorem LedgerEffect.silent (effect : LedgerEffect world after choice op answer)
    (silent : op.commits answer = false) : after.ledger = world.ledger := by
  rcases effect.applied with same | ⟨commits, -⟩
  · exact same
  · simp [silent] at commits

theorem Stops.concurs_iff (stops : Stops request.idempotencyKey op answer message)
    (effect : LedgerEffect world after choice op answer) (orderly : world.Orderly)
    (kept : after.Orderly) :
    Concurs after.ledger request.idempotencyKey (mapDeliveryFailure message).2 ↔
      Truthful request world.ledger op answer := by
  have known : ∀ name other, after.ledger.item? request.idempotencyKey name = some other →
      other.status ≠ .terminalFailed :=
    fun name other present => (kept.explained _ name other present).known
  cases stops with
  | unplanned error | nestedUnclaimed error | nestedUnfinished error | unclaimed error
  | unfinished error => rw [effect.silent rfl]; rfl
  | pathless materialized => rw [effect.silent rfl]; rfl
  | nestedLost item =>
      cases effect with
      | still same silent => rw [same]; rfl
      | claimMaterialization ok =>
          obtain ⟨stored, materialization, -, -, -, same, -⟩ := claimDeliveryMaterialization_ok ok
          rw [same]
          rfl
  | nestedBusy item =>
      cases effect with
      | still same silent => rw [same]; rfl
      | claimMaterialization ok =>
          obtain ⟨stored, materialization, -, -, -, same⟩ := claimDeliveryMaterialization_ok ok
          rw [same]
          rfl
  | busy item =>
      cases effect with
      | still same silent => rw [same]; rfl
      | claimItem fresh issued ok =>
          obtain ⟨-, source, -, -, same, -⟩ := claimDeliveryItem_ok ok
          rw [same]
          rfl
  | nestedTerminal item =>
      cases effect with
      | still same silent => simp [Op.commits] at silent
      | claimMaterialization ok =>
          obtain ⟨same, present, materialization, nested, failed, final⟩ :=
            claimDeliveryMaterialization_terminal ok
          obtain ⟨⟨reason, stored, closes⟩, givenUp⟩ :=
            (orderly.explained _ _ _ present).nested materialization nested failed final
          have said : (mapDeliveryFailure ((item.materialization.bind (·.lastError)).getD
              "delivery materialization previously failed terminally")).2 = false := by
            rw [nested, Option.bind_some, stored, Option.getD_some]
            exact closes
          rw [said, same]
          exact iff_of_true (concurs_of_terminal (hasTerminal_iff.mpr ⟨_, item, present, givenUp⟩))
            trivial
  | terminal addressed item =>
      cases effect with
      | still same silent => simp [Op.commits] at silent
      | claimItem fresh issued ok =>
          obtain ⟨-, source, origin, rfl, same, failed, final⟩ := claimDeliveryItem_ok ok
          have givenUp : source.isGivenUp = true := isGivenUp_iff.mpr ⟨failed, final⟩
          rcases origin with present | ⟨-, rfl⟩
          · obtain ⟨reason, stored, closes⟩ := (orderly.explained _ _ _ present).failed givenUp
            have said : (mapDeliveryFailure ((Text.trimmed source.lastError).getD
                "delivery item previously failed terminally")).2 = false := by
              rw [stored]
              exact closes.trimmed _
            rw [said, same]
            rw [addressed] at present
            exact iff_of_true
              (concurs_of_terminal (hasTerminal_iff.mpr ⟨_, source, present, givenUp⟩)) trivial
          · simp [newItem] at failed
  | nestedRecorded addressed failed same sorted =>
      rename_i completion
      cases effect with
      | still same silent => simp [Op.commits] at silent
      | finishMaterialization ok =>
          obtain ⟨item, materialization, -, -, -, -, -, sets⟩ := finishDeliveryMaterialization_ok ok
          rw [addressed] at sets
          have status : (item.finishMaterialization choice.now completion materialization).status =
              .failed := by
            simp [LedgerItem.finishMaterialization, failed]
          have planned := kept.planned _ _ _ sets.self
          rw [sets.concurs status rfl planned known ?sound, Truthful, same]
          case sound =>
            intro stops
            rcases sorted with verdict | ⟨again, -⟩
            · exact verdict.symm.trans stops
            · simp [again] at stops
          refine imp_congr_right fun again => ?_
          rw [Option.some.injEq]
          have named : (mapDeliveryFailure message).2 = false ↔ message = mediaProxyMissing := by
            rcases sorted with verdict | ⟨-, missing⟩
            · rw [← verdict, again]
              refine iff_of_false (by simp) fun missing => ?_
              rw [missing, mediaProxyMissing_final] at verdict
              simp [again] at verdict
            · rw [missing]
              exact iff_of_true mediaProxyMissing_final rfl
          rw [named]
  | recorded path addressed failed same sorted =>
      cases effect with
      | still same silent => simp [Op.commits] at silent
      | finishItem ok =>
          obtain ⟨item, fenced⟩ := finishDeliveryItem_ok ok
          have sets := fenced.sets
          rw [addressed] at sets
          have planned := kept.planned _ _ _ sets.self
          rw [sets.concurs failed rfl planned known (fun stops => sorted ▸ stops), Truthful, ← sorted]
          refine imp_congr_right fun again => ?_
          rw [again]
          simp

end LastStep

/-! ## Runs -/

section Runs

variable {digests : Digests} {host : FleetHost}
  {trace : List (gatewayMachine digests host).Event}

/-- The latest event of a task. -/
def lastEvent (trace : List (gatewayMachine digests host).Event) (task : Nat) :
    Option (gatewayMachine digests host).Event :=
  (trace.filter (·.task = task)).getLast?

theorem lastEvent_concat (event : (gatewayMachine digests host).Event) (task : Nat) :
    lastEvent (trace ++ [event]) task =
      if event.task = task then some event else lastEvent trace task := by
  simp only [lastEvent, List.filter_append]
  by_cases own : event.task = task
  · simp [own]
  · simp [own]

theorem lastEvent_mem {event : (gatewayMachine digests host).Event} {task : Nat}
    (found : lastEvent trace task = some event) : event ∈ trace :=
  List.mem_of_mem_filter (List.mem_of_getLast? found)

/-- A call's course is the plan it has made and its latest event. -/
structure CourseTraced (world : World) (trace : List (gatewayMachine digests host).Event)
    (task : Nat) (course : Course) : Prop where
  placed : course.Placed world.ledger
  last : course.last = (lastEvent trace task).map fun event => ⟨event.op, event.answer⟩

theorem World.initial_orderly (routes : Std.TreeMap String Json) (directory : Directory) :
    (World.initial routes directory).Orderly where
  explained deliveryKey itemKey item present := by simp [World.initial, Ledger.item?] at present
  planned deliveryKey itemKey item present := by simp [World.initial, Ledger.item?] at present
  sent key record found := by simp [World.initial] at found

theorem courses_traced {routes : Std.TreeMap String Json} {directory : Directory} {world : World}
    {permitted : (gatewayMachine digests host).Move → Prop} {phases : List (Call × Course)}
    (run : @Machine.Phased Op Ans Course (gatewayMachine digests host) (fun _ => courseProtocol)
      (fun _ => Course.start) permitted (World.initial routes directory) world phases trace) :
    (world.Orderly ∧ ∀ event ∈ trace, event.before.Orderly ∧ event.after.Orderly) ∧
      ∀ task call course, phases[task]? = some (call, course) →
        CourseTraced world trace task course := by
  refine Machine.Phased.maintains
    (fun (world : World) (trace : List (gatewayMachine digests host).Event) =>
      world.Orderly ∧ ∀ event ∈ trace, event.before.Orderly ∧ event.after.Orderly)
    (fun world trace task _ course => CourseTraced world trace task course)
    ?boot ?start ?step ?outside run
  case boot => exact ⟨World.initial_orderly routes directory, by simp⟩
  case start =>
    intro world phases trace call _ run _
    have earlier : ∀ event ∈ trace, event.task < phases.length := run.trace_tasks
    refine ⟨fun key planned => by simp [Course.start] at planned, ?_⟩
    have unseen : trace.filter (·.task = phases.length) = [] := by
      refine List.filter_eq_nil_iff.mpr fun event member => ?_
      have bound := earlier event member
      simp only [decide_eq_true_eq]
      omega
    simp [Course.start, lastEvent, unseen]
  case step =>
    intro world after phases trace task call course op choice answer _ each holder allowed _
      performed kept
    have effect := World.perform_effect performed
    have traced := each task call course holder
    have orderly : World.Orderly after := kept.1.step allowed traced.placed performed
    refine ⟨⟨orderly, fun event member => ?_⟩, ⟨traced.placed.next effect, ?_⟩, ?_⟩
    · rcases List.mem_append.mp member with old | new
      · exact kept.2 event old
      · rw [List.mem_singleton.mp new]
        exact ⟨kept.1, orderly⟩
    · rw [lastEvent_concat, if_pos rfl]
      rfl
    · intro other started otherCourse different _ old
      refine ⟨old.placed.stays effect, ?_⟩
      rw [lastEvent_concat, if_neg (Ne.symm different)]
      exact old.last
  case outside =>
    intro world trace event _ kept
    refine ⟨⟨kept.1.outside event, kept.2⟩, fun task call course old => ⟨?_, old.last⟩⟩
    intro key planned
    rw [OutsideMove.apply_planned?]
    exact old.placed key planned

theorem course_steady : @Machine.Steady Op Ans Course (gatewayMachine digests host)
    (fun _ => courseProtocol) (fun _ => True) fun _ => True :=
  ⟨fun _ _ _ _ _ _ _ => ⟨trivial, fun _ => trivial⟩, fun _ _ _ _ => trivial⟩

theorem FailureReport.ended {request : NotificationRequest} {course : Course} {response : Json}
    (report : FailureReport request course response) : ∃ step, course.last = some step := by
  cases report with
  | stored last _ | unsplit last _ | stopped last _ _ => exact ⟨_, last⟩

/-- What a failed notification reports, by its last step and the ledger it was taken in. -/
theorem FailureReport.tellsTruth_iff {request : NotificationRequest} {course : Course}
    {response : Json} {event : (gatewayMachine digests host).Event} {choice : Choice}
    (report : FailureReport request course response)
    (failed : response.get "ok" = some (.bool false))
    (last : course.last = some ⟨event.op, event.answer⟩)
    (performed : World.perform host event.before event.op choice = some (event.answer, event.after))
    (before : World.Orderly event.before) (after : World.Orderly event.after) :
    TellsTruth response (World.ledger event.after) request.idempotencyKey ↔
      Truthful request (World.ledger event.before) event.op event.answer := by
  obtain ⟨task, op, answer, world, world'⟩ := event
  dsimp only at last performed before after ⊢
  have effect := World.perform_effect performed
  cases report with
  | stored same replayed =>
      obtain ⟨rfl, rfl⟩ := Sigma.mk.inj (Option.some.inj (same.symm.trans last))
      obtain ⟨-, found⟩ := World.perform_loaded performed rfl
      rw [replayed, before.sent _ _ found] at failed
      simp at failed
  | unsplit same retryable =>
      obtain ⟨rfl, rfl⟩ := Sigma.mk.inj (Option.some.inj (same.symm.trans last))
      rw [HarborGate.tellsTruth_iff retryable, effect.silent rfl]
      rfl
  | stopped same stops retryable =>
      obtain ⟨rfl, rfl⟩ := Sigma.mk.inj (Option.some.inj (same.symm.trans last))
      rw [HarborGate.tellsTruth_iff retryable]
      exact stops.concurs_iff effect before after

/-- The receipt of a failed notification tells the truth about the ledger that the call leaves
exactly if its last step lets it. -/
theorem receipt_tells_truth_iff {routes : Std.TreeMap String Json} {directory : Directory}
    {moves : List (gatewayMachine digests host).Move} {last : (gatewayMachine digests host).System}
    (played : (Machine.System.boot (World.initial routes directory)).play moves = some last)
    {task : Nat} {gateway : Gateway} {payload : Json} {selection : Option Selection}
    {response : Json}
    (returned : last.tasks[task]? = some (.notify gateway payload selection, .ret (.ok response)))
    (failed : response.get "ok" = some (.bool false)) {request : NotificationRequest}
    (read : readNotification payload selection = .ok request) :
    ∃ event, lastEvent last.trace task = some event ∧
      (TellsTruth response (World.ledger event.after) request.idempotencyKey ↔
        Truthful request (World.ledger event.before) event.op event.answer) := by
  obtain ⟨phases, run, tracks⟩ := Machine.play_phased_boot course_steady
    (fun call _ => call.program_course) (fun _ _ => trivial) trivial played
  obtain ⟨⟨-, orderly⟩, traced⟩ := courses_traced run
  obtain ⟨course, listed, reports⟩ := tracks.follows task _ _ returned
  obtain ⟨own, understood, report⟩ := reports response rfl failed
  obtain rfl := Except.ok.inj (understood.symm.trans read)
  obtain ⟨step, ended⟩ := report.ended
  obtain ⟨event, found, same⟩ := Option.map_eq_some_iff.mp
    ((traced task _ course listed).last.symm.trans ended)
  have member := lastEvent_mem found
  obtain ⟨choice, -, performed⟩ := run.performed event member
  refine ⟨event, found, ?_⟩
  exact report.tellsTruth_iff failed (ended.trans (congrArg some same.symm)) performed
    (orderly event member).1 (orderly event member).2

end Runs

/-! ## A picture and the media proxy -/

def pictureAdapter : Adapter where
  name := "weixin"
  leaseSeconds := 60

def pictureGateway (taskClient : Bool) : Gateway where
  instanceId := "gate"
  adapters := [pictureAdapter]
  fleet := false
  taskClient := taskClient

def pictureNotice : Json :=
  .obj [("content", .obj [("attachments", .arr [.obj [("artifact_id", .str "pic"),
      ("mime_type", .str "image/png"), ("url", .str "/a")]]),
      ("delivery_hints", .arr [.obj [("kind", .str "native_image")]])]),
    ("delivery", .obj [("idempotency_key", .str "k"), ("mode", .str "send")]),
    ("destination", .obj [("id", .str "c"), ("platform", .str "weixin")]),
    ("notification_id", .str "n1")]

def pictureCall (taskClient : Bool) : Call :=
  .notify (pictureGateway taskClient) pictureNotice none

def pictureMoves (taskClient : Bool) (steps : Nat) :
    List (gatewayMachine plainDigests offlineHost).Move :=
  .start (pictureCall taskClient) ::
    (List.range steps).map fun step => .step 0 (smoothChoice 0 ⟨step⟩)

/-- A receipt of failure, given for a delivery that recovery takes up again. -/
structure PictureReceipt (taskClient retryable : Bool)
    (last : (gatewayMachine plainDigests offlineHost).System) (response : Json)
    (event : (gatewayMachine plainDigests offlineHost).Event) : Prop where
  returned : last.tasks[0]? = some (pictureCall taskClient, .ret (.ok response))
  failed : response.get "ok" = some (.bool false)
  said : response.get "retryable" = some (.bool retryable)
  ended : lastEvent last.trace 0 = some event
  terminal : hasTerminal (World.ledger event.after) "k" = false
  resumed : isResumed (World.ledger event.after) "k" = true

def answered : Routine Outcome → Option Json
  | .ret (.ok response) => some response
  | _ => none

theorem answered_some {program : Routine Outcome} {response : Json}
    (found : answered program = some response) : program = .ret (.ok response) := by
  cases program with
  | ask op rest => simp [answered] at found
  | ret result =>
      cases result with
      | error error => simp [answered] at found
      | ok own => rw [Option.some.inj found]

def receiptView (last : (gatewayMachine plainDigests offlineHost).System) :
    Option (Option Json × Option Json) × Option (Bool × Bool) :=
  ((last.tasks[0]?.bind fun task => answered task.2).map fun response =>
      (response.get "ok", response.get "retryable"),
    (lastEvent last.trace 0).map fun event =>
      (hasTerminal (World.ledger event.after) "k", isResumed (World.ledger event.after) "k"))

theorem picture_plays (taskClient retryable : Bool) (steps : Nat)
    (plays : ((Machine.System.boot (World.initial ∅ ∅)).play (pictureMoves taskClient steps)).map
        (fun last => (last.tasks[0]?.map Prod.fst, receiptView last)) =
      some (some (pictureCall taskClient), some (some (.bool false), some (.bool retryable)),
        some (false, true))) :
    ∃ last response event,
      (Machine.System.boot (World.initial ∅ ∅)).play (pictureMoves taskClient steps) = some last ∧
        PictureReceipt taskClient retryable last response event := by
  obtain ⟨last, played, shown⟩ := Option.map_eq_some_iff.mp plays
  obtain ⟨tasks, view⟩ := Prod.mk.inj shown
  obtain ⟨⟨call, program⟩, started, same⟩ := Option.map_eq_some_iff.mp tasks
  dsimp only at same
  subst same
  simp only [receiptView, Prod.mk.injEq, Option.map_eq_some_iff] at view
  obtain ⟨⟨response, found, failed, said⟩, event, ended, terminal, resumed⟩ := view
  rw [started, Option.bind_some] at found
  obtain rfl := answered_some found
  exact ⟨last, response, event, played, started, failed, said, ended, terminal, resumed⟩

/-- Without a media proxy the picture is reported as final and recorded as to be retried. -/
theorem unproxied_picture_misleads : ∃ last response event,
    (Machine.System.boot (World.initial ∅ ∅)).play (pictureMoves false 5) = some last ∧
      PictureReceipt false false last response event ∧
      ¬TellsTruth response (World.ledger event.after) "k" := by
  obtain ⟨last, response, event, played, receipt⟩ := picture_plays false false 5 (by rfl)
  refine ⟨last, response, event, played, receipt, fun truth => ?_⟩
  have terminal := truth.terminal.mp receipt.said
  rw [receipt.terminal] at terminal
  exact Bool.false_ne_true terminal

/-- The picture cannot be fetched: its receipt and the ledger leave it to be retried. -/
theorem unfetched_picture_is_retried : ∃ last response event request,
    (Machine.System.boot (World.initial ∅ ∅)).play (pictureMoves true 6) = some last ∧
      PictureReceipt true true last response event ∧
      readNotification pictureNotice none = .ok request ∧
      (TellsTruth response (World.ledger event.after) request.idempotencyKey ↔
        Truthful request (World.ledger event.before) event.op event.answer) ∧
      TellsTruth response (World.ledger event.after) request.idempotencyKey := by
  obtain ⟨last, response, event, played, receipt⟩ := picture_plays true true 6 (by rfl)
  obtain ⟨request, read, key⟩ : ∃ request, readNotification pictureNotice none = .ok request ∧
      request.idempotencyKey = "k" := ⟨_, rfl, rfl⟩
  obtain ⟨own, ended, judged⟩ :=
    receipt_tells_truth_iff played receipt.returned receipt.failed read
  obtain rfl := Option.some.inj (receipt.ended.symm.trans ended)
  refine ⟨last, response, event, request, played, receipt, read, judged, ?_⟩
  rw [tellsTruth_iff receipt.said, key]
  exact ⟨receipt.terminal, receipt.resumed⟩

end HarborGate
