import Mathlib.Logic.Function.Basic
import HarborGate.Lib.Crash
import HarborGate.Credentials.Modes

/-!
The credential files of `ensure-harborbeacon-token-env` and the transaction directory beside them.
Owners and modes are as the script sets them, so a check of a file's metadata is a check that it
is there. `chown`, `chmod` and `sync` are commands that can fail and change no contents.
-/

namespace HarborGate

namespace Credentials

open Crash

inductive Name
  | g2bSend
  | g2bAccept
  | g2bPrevious
  | b2gSend
  | b2gAccept
  | b2gPrevious
deriving DecidableEq, Repr

def credentialNames : List Name :=
  [.g2bSend, .g2bAccept, .g2bPrevious, .b2gSend, .b2gAccept, .b2gPrevious]

inductive Folder
  | stage
  | backup
  | absent
deriving DecidableEq, Repr

/-- A file of the transaction directory; `restoring` is `restore.$name`. -/
inductive File
  | state
  | stateNew
  | restoring (name : Name)
  | inside (folder : Folder) (name : Name)
deriving DecidableEq, Repr

inductive Entry
  | root
  | folder (folder : Folder)
  | file (file : File)
deriving DecidableEq, Repr

structure Journal where
  folder : Folder → Option (Name → Option String)
  restoring : Name → Option String
  state : Option String
  stateNew : Option String

/-- The service-auth directory, and the shell's `transaction_active`. -/
structure World where
  credential : Name → Option String
  journal : Option Journal
  active : Bool

inductive Cmd
  | mkdirRoot
  | mkdir (folder : Folder)
  | create (file : File)
  | write (file : File) (content : String)
  | chown
  | chmod
  | sync
  | renameState
  | publish (name : Name)
  | putBack (name : Name)
  | removeCredential (name : Name)
  | removeRestoring (name : Name)
  | delete (entry : Entry)
  | activate (active : Bool)
deriving DecidableEq, Repr

def Journal.empty : Journal where
  folder := fun _ => none
  restoring := fun _ => none
  state := none
  stateNew := none

def Journal.file (journal : Journal) : File → Option String
  | .state => journal.state
  | .stateNew => journal.stateNew
  | .restoring name => journal.restoring name
  | .inside folder name => (journal.folder folder).bind fun files => files name

def Journal.setFile (journal : Journal) (file : File) (content : Option String) : Journal :=
  match file with
  | .state => { journal with state := content }
  | .stateNew => { journal with stateNew := content }
  | .restoring name => { journal with restoring := Function.update journal.restoring name content }
  | .inside folder name => { journal with
      folder := Function.update journal.folder folder
        ((journal.folder folder).map fun files => Function.update files name content) }

def Journal.delete (journal : Journal) : Entry → Option Journal
  | .root => none
  | .folder folder => some { journal with folder := Function.update journal.folder folder none }
  | .file file => some (journal.setFile file none)

def exec (cmd : Cmd) (world : World) : World :=
  match cmd with
  | .mkdirRoot => { world with journal := some .empty }
  | .mkdir folder => { world with
      journal := world.journal.map fun journal => { journal with
        folder := Function.update journal.folder folder (some fun _ => none) } }
  | .create file => { world with journal := world.journal.map (·.setFile file (some "")) }
  | .write file content =>
      { world with journal := world.journal.map (·.setFile file (some content)) }
  | .chown | .chmod | .sync => world
  | .renameState => { world with
      journal := world.journal.map fun journal => { journal with
        state := journal.stateNew
        stateNew := none } }
  | .publish name =>
      match world.journal with
      | none => world
      | some journal => { world with
          credential := Function.update world.credential name (journal.file (.inside .stage name))
          journal := some (journal.setFile (.inside .stage name) none) }
  | .putBack name =>
      match world.journal with
      | none => world
      | some journal => { world with
          credential := Function.update world.credential name (journal.file (.restoring name))
          journal := some (journal.setFile (.restoring name) none) }
  | .removeCredential name => { world with credential := Function.update world.credential name none }
  | .removeRestoring name =>
      { world with journal := world.journal.map (·.setFile (.restoring name) none) }
  | .delete entry => { world with journal := world.journal.bind (·.delete entry) }
  | .activate active => { world with active }

theorem Journal.file_setFile_other {journal : Journal} {file other : File} {content : Option String}
    (different : other ≠ file) :
    (journal.setFile file content).file other = journal.file other := by
  cases file with
  | state | stateNew => cases other <;> simp_all [Journal.setFile, Journal.file]
  | restoring name =>
      cases other <;> simp_all [Journal.setFile, Journal.file, Function.update_of_ne]
  | inside folder name =>
      cases other with
      | state | stateNew | restoring => simp [Journal.setFile, Journal.file]
      | inside other member =>
          simp only [Journal.setFile, Journal.file]
          by_cases same : other = folder
          · subst same
            have apart : member ≠ name := fun equal => different (by rw [equal])
            cases journal.folder other <;> simp [Function.update_of_ne apart]
          · rw [Function.update_of_ne same]

/-- A file is as it was set, given that its directory is there. -/
theorem Journal.file_setFile_same {journal : Journal} {file : File} {content : Option String}
    (there : ∀ folder name, file = .inside folder name → (journal.folder folder).isSome = true) :
    (journal.setFile file content).file file = content := by
  cases file with
  | state | stateNew => rfl
  | restoring name => simp [Journal.setFile, Journal.file]
  | inside folder name =>
      obtain ⟨files, found⟩ := Option.isSome_iff_exists.mp (there folder name rfl)
      simp [Journal.setFile, Journal.file, found]

theorem Journal.file_setFile_none {journal : Journal} {file other : File}
    (missing : journal.file other = none) : (journal.setFile file none).file other = none := by
  by_cases same : other = file
  · subst same
    cases other with
    | state | stateNew => rfl
    | restoring name => simp [Journal.setFile, Journal.file]
    | inside folder name =>
        cases found : journal.folder folder <;> simp [Journal.setFile, Journal.file, found]
  · rw [Journal.file_setFile_other same, missing]

theorem Journal.folder_setFile_isSome {journal : Journal} {file : File} {content : Option String}
    (folder : Folder) :
    ((journal.setFile file content).folder folder).isSome = (journal.folder folder).isSome := by
  cases file with
  | state | stateNew | restoring => rfl
  | inside changed name =>
      by_cases same : folder = changed
      · subst same
        simp [Journal.setFile]
      · simp [Journal.setFile, Function.update_of_ne same]

theorem Journal.folder_setFile_other {journal : Journal} {file : File} {content : Option String}
    {folder : Folder} (outside : ∀ name, file ≠ .inside folder name) :
    (journal.setFile file content).folder folder = journal.folder folder := by
  cases file with
  | state | stateNew | restoring => rfl
  | inside changed name =>
      have apart : folder ≠ changed := by
        rintro rfl
        exact outside name rfl
      simp [Journal.setFile, Function.update_of_ne apart]

/-! ## What the script reads -/

/-- The one line of a file that holds exactly one. -/
def readLine (content : String) : Option String :=
  match content.toList.reverse with
  | '\n' :: rest =>
      if '\n' ∈ rest ∨ '\x00' ∈ rest then none else some (String.ofList rest.reverse)
  | _ => none

def readTokenFile (content : Option String) : Option String :=
  content.bind readLine

def loadCredentialsFrom (files : Name → Option String) : Option Tokens := do
  let g2bSend ← readTokenFile (files .g2bSend)
  let g2bAccept ← readTokenFile (files .g2bAccept)
  let g2bPrevious ← readTokenFile (files .g2bPrevious)
  let b2gSend ← readTokenFile (files .b2gSend)
  let b2gAccept ← readTokenFile (files .b2gAccept)
  let b2gPrevious ← readTokenFile (files .b2gPrevious)
  return { g2bSend, g2bAccept, g2bPrevious, b2gSend, b2gAccept, b2gPrevious }

/-- `load_credentials` followed by `validate_complete_state`. -/
def completeCredentials (files : Name → Option String) : Bool :=
  (loadCredentialsFrom files).any validateCompleteState

def existingCount (world : World) : Nat :=
  credentialNames.countP fun name => (world.credential name).isSome

def Journal.backedUp (journal : Journal) (name : Name) : Bool :=
  (journal.file (.inside .backup name)).isSome && (journal.file (.inside .absent name)).isNone

def Journal.markedAbsent (journal : Journal) (name : Name) : Bool :=
  (journal.file (.inside .absent name)).isSome && (journal.file (.inside .backup name)).isNone

def Journal.backupCount (journal : Journal) : Nat :=
  credentialNames.countP journal.backedUp

def Journal.snapshotValid (journal : Journal) : Bool :=
  (journal.folder .stage).isSome && (journal.folder .backup).isSome &&
    (journal.folder .absent).isSome && journal.state.isSome &&
    credentialNames.all (fun name => journal.backedUp name || journal.markedAbsent name) &&
    (journal.backupCount == 0 || journal.backupCount == credentialNames.length)

def validateTransactionSnapshot (world : World) : Bool :=
  world.journal.any Journal.snapshotValid

def Journal.isEmpty (journal : Journal) : Bool :=
  journal.state.isNone && journal.stateNew.isNone &&
    credentialNames.all (fun name => (journal.restoring name).isNone) &&
    [Folder.stage, .backup, .absent].all fun folder => (journal.folder folder).isNone

/-- What `rm` can take away next: a file, an empty directory. -/
def Journal.removable (journal : Journal) : Entry → Bool
  | .root => journal.isEmpty
  | .folder folder =>
      (journal.folder folder).any fun files => credentialNames.all fun name => (files name).isNone
  | .file file => (journal.file file).isSome

/-! ## The script -/

abbrev Script := Crash.Script Cmd World

def fileThere (file : File) (world : World) : Bool :=
  world.journal.any fun journal => (journal.file file).isSome

def deleteEntry (entry : Entry) : Script Unit :=
  .look fun world =>
    if world.journal.any (·.removable entry) then .command (.delete entry) else .done ()

/-- `order` lists what `rm -rf` gets to and can delete, in the order it does. -/
def removeTransaction (order : List Entry) : Script Unit := do
  .check (fun world => world.journal.isSome) 1
  .forEach deleteEntry order
  .check (fun world => world.journal.isNone) 1
  .command .sync

def writeTransactionState (state : String) : Script Unit := do
  .check (fun world => world.journal.isSome) 1
  .check (fun world => !fileThere .stateNew world) 1
  .command (.create .stateNew)
  .command (.write .stateNew (state ++ "\n"))
  .command .chown
  .command .chmod
  .check (fileThere .stateNew) 1
  .command .sync
  .command .renameState
  .check (fileThere .state) 1
  .command .sync

def secureFile (file : File) : Script Unit := do
  .command .chown
  .command .chmod
  .check (fileThere file) 1
  .command .sync

def restoreFile (journal : Journal) (name : Name) : Script Unit :=
  match journal.file (.inside .backup name) with
  | some content => do
      .look fun world =>
        if fileThere (.restoring name) world then .command (.removeRestoring name) else .done ()
      .command (.create (.restoring name))
      .command (.write (.restoring name) content)
      secureFile (.restoring name)
      .command (.putBack name)
      .check (fun world => (world.credential name).isSome) 1
      .command .sync
  | none => .command (.removeCredential name)

def restoreOldSnapshot (journal : Journal) : Script Unit := do
  .check validateTransactionSnapshot 1
  .check (fun _ => journal.backupCount != credentialNames.length ||
    completeCredentials fun name => journal.file (.inside .backup name)) 1
  .forEach (restoreFile journal) credentialNames
  .command .sync
  .check (fun world =>
    if journal.backupCount == credentialNames.length then
      existingCount world == credentialNames.length && completeCredentials world.credential
    else existingCount world == 0) 1

def recoverTransaction (order : List Entry) : Script Unit := do
  let world ← Script.read
  match world.journal with
  | none => pure ()
  | some journal =>
      match journal.state with
      | none => removeTransaction order
      | some content => do
          .check validateTransactionSnapshot 1
          match readLine content with
          | some "prepared" => do
              restoreOldSnapshot journal
              removeTransaction order
          | some "committed" => do
              .check (fun world => completeCredentials world.credential) 1
              .check validateTransactionSnapshot 1
              removeTransaction order
          | some _ => .fail 1
          | none => .fail 2

def render (set : Tokens) : Name → String
  | .g2bSend => set.g2bSend ++ "\n"
  | .g2bAccept => set.g2bAccept ++ "\n"
  | .g2bPrevious => set.g2bPrevious ++ "\n"
  | .b2gSend => set.b2gSend ++ "\n"
  | .b2gAccept => set.b2gAccept ++ "\n"
  | .b2gPrevious => set.b2gPrevious ++ "\n"

def makeFolder (folder : Folder) : Script Unit := do
  .check (fun world => world.journal.any fun journal => (journal.folder folder).isNone) 1
  .command (.mkdir folder)

def stageFile (next : Tokens) (name : Name) : Script Unit := do
  .command (.create (.inside .stage name))
  .command (.write (.inside .stage name) (render next name))

def snapshotFile (name : Name) : Script Unit := do
  secureFile (.inside .stage name)
  let world ← Script.read
  match world.credential name with
  | some content => do
      .command (.create (.inside .backup name))
      .command (.write (.inside .backup name) content)
      secureFile (.inside .backup name)
  | none => do
      .command (.create (.inside .absent name))
      secureFile (.inside .absent name)

def publishFile (name : Name) : Script Unit := do
  .check (fileThere (.inside .stage name)) 1
  .command (.publish name)
  .check (fun world => (world.credential name).isSome) 1

def buildJournal (next : Tokens) : Script Unit := do
  .check (fun world => existingCount world == 0 || existingCount world == credentialNames.length) 1
  .check (fun world => world.journal.isNone) 1
  .command .mkdirRoot
  .forEach makeFolder [.stage, .backup, .absent]
  .forEach (stageFile next) credentialNames
  .forEach snapshotFile credentialNames
  .forEach (fun _ => .command .sync) [(), (), (), ()]

def commitCredentials (next : Tokens) (order : List Entry) : Script Unit := do
  buildJournal next
  writeTransactionState "prepared"
  .check validateTransactionSnapshot 1
  .command (.activate true)
  .forEach publishFile credentialNames
  .command .sync
  .check (fun world => completeCredentials world.credential) 1
  writeTransactionState "committed"
  .check validateTransactionSnapshot 1
  .check (fun world => completeCredentials world.credential) 1
  .command (.activate false)
  removeTransaction order

/-- What `load_credentials` makes of the files found, none of them or all. -/
def loadExisting (files : Name → Option String) : Option (Option Tokens) :=
  if credentialNames.all (fun name => (files name).isNone) then some none
  else (loadCredentialsFrom files).map some

/-- The body of the script under the lock. A run that is still drawing tokens when its draws end
is one that was killed there. -/
def ensureTokenEnv (run : Run) (first second : List Entry) : Script Unit := do
  recoverTransaction first
  .check (fun world => existingCount world == 0 || existingCount world == credentialNames.length) 67
  let world ← Script.read
  if run.mode = .recover then
    .check (fun world => existingCount world == credentialNames.length) 65
    .check (fun world => completeCredentials world.credential) 67
  else
    match loadExisting world.credential with
    | none => .fail 1
    | some existing =>
        match plan run.mode run.legacy run.draws existing with
        | .ok next => commitCredentials next second
        | .error (.status status) => .fail status
        | .error .drawing => .fail 137

end Credentials

end HarborGate
