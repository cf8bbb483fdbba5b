import Mathlib.Data.List.Chain
import HarborGate.Store.Files

/-!
Each call of the store, wherever it is stopped and whatever operation fails, is made in full or not
at all: behind the files under the root, with their backups, stand the plain session store and its
three shared maps.
-/

namespace HarborGate

namespace Files

open Interleave Sessions

/-! ## Names -/

theorem fileStem_json {stem : List Char} (filled : stem ≠ []) :
    fileStem (stem ++ ".json".toList) = stem := by
  have turned : (stem ++ ".json".toList).reverse.dropWhile (· ≠ '.') = '.' :: stem.reverse := by
    simp
  obtain ⟨last, rest, split⟩ : ∃ last rest, stem.reverse = last :: rest := by
    cases split : stem.reverse with
    | nil => exact absurd (List.reverse_eq_nil_iff.mp split) filled
    | cons last rest => exact ⟨last, rest, rfl⟩
  unfold fileStem
  rw [turned, split]
  simp only
  rw [← split, List.reverse_reverse]

theorem toList_sessionPath (platform chatId : String) :
    (sessionPath platform chatId).toList =
      ((slug platform).toList ++ "__".toList ++ (slug chatId).toList) ++ ".json".toList := by
  simp [sessionPath]

/-- No stem of a shared map has the two underscores that join the slugs of a session. -/
theorem shared_single : ∀ shared ∈ sharedFiles, ¬"__".toList <:+: fileStem shared.toList := by
  have chained : ∀ shared ∈ sharedFiles, (fileStem shared.toList).IsChain
      (fun one next => ¬(one = '_' ∧ next = '_')) := by decide
  rintro shared member ⟨before, after, parts⟩
  have twice := chained shared member
  rw [← parts] at twice
  have pair := twice.left_of_append.right_of_append
  simp at pair

theorem session_double (platform chatId : String) :
    "__".toList <:+: fileStem (sessionPath platform chatId).toList := by
  rw [toList_sessionPath, fileStem_json (by simp)]
  exact List.infix_append _ _ _

theorem session_not_shared (platform chatId : String) : sessionPath platform chatId ∉ sharedFiles :=
  fun member => shared_single _ member (session_double platform chatId)

section

variable {disk after : Disk} {name : String}

end

/-! ## Reading and replacing a file -/

/-- A program that leaves the store as it is, and returns nothing but what `reading` finds in it. -/
def Loads {α : Type} (load : FileGate α) (reading : Store → Except String α) : Prop :=
  ∀ disk : Disk, load.run.Guards Disk.perform (fun after => after.store = disk.store)
    (fun result _ => ∀ value, result = .ok value → reading disk.store = .ok value) disk

/-- A program that makes one change of the store or none, and the change where it succeeds. -/
def Writes (write : FileGate Unit) (change : Store → Except String Unit × Store) : Prop :=
  ∀ disk : Disk, ∃ written, change disk.store = (.ok (), written) ∧
    write.run.Guards Disk.perform (fun after => after.store = disk.store ∨ after.store = written)
      (fun result after => result = .ok () → after.store = written) disk

section

variable {α β : Type} {disk : Disk} {name : String}

theorem withContext_guards {text : String} {result : Except String α} {next : α → FileGate β}
    {during : Disk → Prop} {post : Except String β → Disk → Prop} (here : during disk)
    (failed : ∀ error, post (.error error) disk)
    (continues : ∀ value, result = .ok value →
      (next value).run.Guards Disk.perform during post disk) :
    (withContext text result >>= next).run.Guards Disk.perform during post disk := by
  refine Prog.Guards.resultBind here (fun error _ => failed error) fun value same => ?_
  cases result with
  | error error => simp [Except.mapError] at same
  | ok given =>
      obtain rfl := Except.ok.inj same
      exact continues given rfl

/-- What a read returns is what the file has. -/
theorem readBind {text : String} {next : Option Json → FileGate β} {during : Disk → Prop}
    {post : Except String β → Disk → Prop} (here : during disk)
    (failed : ∀ error, post (.error error) disk)
    (continues : ∀ content, disk name = some content →
      (next content).run.Guards Disk.perform during post disk) :
    (ask (.readToString name) >>= fun result => withContext text result >>= next).run.Guards
      Disk.perform during post disk := by
  refine Prog.Guards.askBind here fun choice => ?_
  cases failure : choice.failure with
  | some text =>
      simp only [Disk.perform, failure]
      exact withContext_guards here failed fun _ same => by simp at same
  | none =>
      cases there : disk name with
      | none =>
          simp only [Disk.perform, failure, there]
          exact withContext_guards here failed fun _ same => by simp at same
      | some content =>
          simp only [Disk.perform, failure, there]
          refine withContext_guards here failed fun value same => ?_
          obtain rfl := Except.ok.inj same
          exact continues content there

end

/-! ## The calls -/

/-- A program that does what `spec` says or nothing, and reports a result only where it did it. -/
def Fits (program : FileGate StoreResult) (spec : Store → Except String StoreResult × Store) : Prop :=
  ∀ disk : Disk, program.run.Guards Disk.perform
    (fun after => after.store = disk.store ∨ ∃ result, spec disk.store = (.ok result, after.store))
    (fun outcome after => ∀ result, outcome = .ok result →
      spec disk.store = (.ok result, after.store)) disk

section

variable {α : Type} {load : FileGate α} {reading : Store → Except String α}

/-- What comes after a load starts from the same store, with what was read from it. -/
theorem Loads.bind (loads : Loads load reading) {disk : Disk} {next : α → FileGate StoreResult}
    {during : Disk → Prop} {post : Except String StoreResult → Disk → Prop}
    (here : ∀ after : Disk, after.store = disk.store → during after)
    (failed : ∀ error after, post (.error error) after)
    (continues : ∀ value (after : Disk), after.store = disk.store → reading disk.store = .ok value →
      (next value).run.Guards Disk.perform during post after) :
    (load >>= next).run.Guards Disk.perform during post disk :=
  Prog.Guards.bindExcept ((loads disk).returns.mono here fun _ _ ends => ends)
    (fun error after _ => failed error after)
    fun value after _ ends => continues value after ends.1 (ends.2 value rfl)

theorem Loads.fits (loads : Loads load reading) (tell : α → StoreResult) :
    Fits (do return tell (← load)) fun store => reads store ((reading store).map tell) := by
  intro disk
  refine loads.bind (fun _ same => Or.inl same) (by simp) fun value after same read => ?_
  refine ⟨Or.inl same, fun result told => ?_⟩
  obtain rfl := Except.ok.inj told
  change reads disk.store ((reading disk.store).map tell) = _
  rw [read, same]
  rfl

/-- What comes before a return, where the spec is one change of the store. -/
theorem Writes.fits {write : FileGate Unit} {change : Store → Except String Unit × Store}
    (writes : Writes write change) (spec : Store → Except String StoreResult × Store)
    {disk after : Disk} {result : StoreResult} (same : after.store = disk.store)
    (means : spec disk.store =
      ((change disk.store).1.map fun _ => result, (change disk.store).2)) :
    (write >>= fun _ => pure result : FileGate StoreResult).run.Guards Disk.perform
      (fun after => after.store = disk.store ∨ ∃ result, spec disk.store = (.ok result, after.store))
      (fun outcome after => ∀ result, outcome = .ok result →
        spec disk.store = (.ok result, after.store)) after := by
  obtain ⟨written, changed, guards⟩ := writes after
  rw [same] at changed guards
  rw [changed] at means
  have weaker : ∀ after : Disk, after.store = disk.store ∨ after.store = written →
      after.store = disk.store ∨ ∃ result, spec disk.store = (.ok result, after.store) := by
    rintro after (kept | landed)
    · exact Or.inl kept
    · rw [landed]
      exact Or.inr ⟨result, means⟩
  refine Prog.Guards.bindExcept (guards.mono weaker fun _ _ ends => ends) (by simp) ?_
  intro _ after here landed
  refine ⟨here, fun told same => ?_⟩
  obtain rfl := Except.ok.inj same
  rw [landed rfl]
  exact means

end

end Files

end HarborGate
