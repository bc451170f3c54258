import Keyguard.Command.Arguments
import Keyguard.Store.Call
import Keyguard.Text.Hex
import Keyguard.Text.Quoted

/-!
# Running a task of the command line

A task is run as the system on a store that is opened for it and closed behind it. The data
directory is the one that the arguments name, else that of the configuration file that they name,
else that of the default configuration.

`Invocation.run` gives what the task prints, the files that it leaves and, if it fails, why.
The store is opened before a hash is decoded or a legacy export is read, so a task that fails
there still leaves an opened store behind.
-/

namespace Keyguard

/-- Why a task fails. -/
inductive TaskFault where
  | loadingConfig (path : Path) (cause : StoreError)
  | readingExport (path : Path) (cause : StoreError)
  | invalidHash (text : String)
  | mismatch (kind : CredentialKind)
  | importFailed
  | store (cause : StoreError)
  deriving DecidableEq

/-- The name of a kind at the beginning of a sentence. -/
def CredentialKind.title : CredentialKind → String
  | .pattern => "Pattern"
  | .password => "Password"

/-- The wording of a fault. -/
def TaskFault.text : TaskFault → String
  | .loadingConfig path _ => "loading config " ++ path.text
  | .readingExport path _ => "reading " ++ path.text
  | .invalidHash text => "invalid hex hash " ++ Text.quote text
  | .mismatch kind => kind.title ++ " does not match"
  | .importFailed => "legacy settings migration failed"
  | .store cause => cause.text

/-- A task on an open store. It gives the lines that it prints. -/
abbrev TaskAction := EStateM TaskFault Store

namespace Task

/-- Makes a call as the system. -/
def ask (call : Call) : TaskAction Answer := fun s =>
  match Store.perform .system call s with
  | .ok a s => .ok a s
  | .error e s => .error (.store e) s

/-- Makes a call as the system and prints nothing. -/
def tell (call : Call) : TaskAction (List String) := do
  let _ ← ask call
  return []

/-- The text of a truth value. -/
def boolText (b : Bool) : String := if b then "true" else "false"

/-- How an answer is printed. -/
def answerText : Answer → String
  | .boolean b => boolText b
  | .size n => Digits.text (Digits.ofNat n)
  | .long i => Integer.text i.toInt
  | .text s => s.getD ""
  | .done | .outcome _ => ""

/-- Makes a call as the system and prints its answer behind a label. -/
def report (label : String) (call : Call) : TaskAction (List String) := do
  return [label ++ answerText (← ask call)]

/-- Decodes a hash. -/
def decodeHash (text : String) : TaskAction Bytes :=
  match Hex.decode? text.toList with
  | some hash => return hash
  | none => throw (.invalidHash text)

/-- Says whether a hash matched. -/
def reportMatch (kind : CredentialKind) : Answer → TaskAction (List String)
  | .boolean true => return [kind.title ++ " matches"]
  | _ => throw (.mismatch kind)

/-- The legacy settings of an export, none without one. -/
def legacySource : Option Path → TaskAction LegacySource
  | none => return .ofMap .empty
  | some p => fun s =>
    match LegacyExport.load p s.files with
    | .ok x => .ok (.ofExport x) s
    | .error e => .error (.readingExport p e) s

/-- Does a task on an open store. -/
def perform : Task → TaskAction (List String)
  | .get key user => do
    match ← ask (.getString key none user) with
    | .text (some value) => return [value]
    | _ => return []
  | .set key value user => tell (.setString key value user)
  | .setPattern hash user => do tell (.setLockPattern (← decodeHash hash) user)
  | .checkPattern hash user => do
    reportMatch .pattern (← ask (.checkPattern (← decodeHash hash) user))
  | .setPassword hash user => do tell (.setLockPassword (← decodeHash hash) user)
  | .checkPassword hash user => do
    reportMatch .password (← ask (.checkPassword (← decodeHash hash) user))
  | .status user => do
    let size ← report "pattern size: " (.getLockPatternSize user)
    let password ← report "password:     " (.havePassword user)
    let pattern ← report "pattern:      " (.havePattern user)
    let gesture ← report "gesture:      " (.haveGesture user)
    return ["user:         " ++ user.text] ++ size ++ password ++ pattern ++ gesture
  | .removeUser user => tell (.removeUser user)
  | .migrate legacy => do
    match ← ask (.systemReady (← legacySource legacy)) with
    | .outcome .failed => throw .importFailed
    | _ => return []

end Task

/-- What a run prints, and why it fails if it does. -/
structure Report where
  printed : List String
  fault : Option TaskFault
  deriving DecidableEq

namespace Invocation

/-- The configuration of a run. -/
def configure (i : Invocation) (e : Environment) (t : FileTree) : Except TaskFault Config := do
  let c ← match i.config with
    | some p => (Config.load e p t).mapError (.loadingConfig p)
    | none => .ok (Config.default e)
  return match i.dataDir with
    | some dir => { c with dataDir := dir }
    | none => c

/-- Runs a task on a file tree. -/
def run (i : Invocation) (e : Environment) (t : FileTree) : Report × FileTree :=
  match i.configure e t with
  | .error fault => (⟨[], some fault⟩, t)
  | .ok c =>
    match Store.openWith c rankByDistance t with
    | .error cause t => (⟨[], some (.store cause)⟩, t)
    | .ok s _ =>
      match i.task.perform s with
      | .ok lines s => (⟨lines, none⟩, s.close)
      | .error fault s => (⟨[], some fault⟩, s.close)

end Invocation

end Keyguard
