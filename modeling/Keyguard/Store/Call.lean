import Keyguard.Settings.Reading
import Keyguard.Store.Basic

/-!
# Calls of the store

A call names an operation, what it needs and the user it is for. `Store.perform` first asks
whether the caller may run it; a denied call changes nothing and reads nothing.

* **Settings.** Writing the pattern size moves the stored hash of the pattern to the variant of
  the new size.
* **Credentials.** A pattern's hash has the variant of the user's current pattern size, which is
  `standardPatternSize` unless the setting is an integer from 1 up to `patternSizeLimit`.
* **Removing a user** removes the credential files as far as possible, then the rows in one
  transaction, then the locks.
-/

namespace Keyguard

/-- The setting that holds the size of a user's pattern grid. -/
def patternSizeKey : String := "lock_pattern_size"

/-- The size of the standard grid. -/
def standardPatternSize : Nat := 3

/-- The sizes of grids lie below this. -/
def patternSizeLimit : Nat := 128

/-- A call of the store. -/
inductive Call where
  | setBoolean (key : String) (value : Bool) (user : UserId)
  | setLong (key : String) (value : Int64) (user : UserId)
  | setString (key : String) (value : String) (user : UserId)
  | getBoolean (key : String) (default : Bool) (user : UserId)
  | getLong (key : String) (default : Int64) (user : UserId)
  | getString (key : String) (default : Option String) (user : UserId)
  | getLockPatternSize (user : UserId)
  | setLockPattern (hash : Bytes) (user : UserId)
  | checkPattern (hash : Bytes) (user : UserId)
  | setLockPassword (hash : Bytes) (user : UserId)
  | checkPassword (hash : Bytes) (user : UserId)
  | setLockGesture (sample : Gesture) (user : UserId)
  | checkGesture (sample : Gesture) (user : UserId)
  | havePassword (user : UserId)
  | havePattern (user : UserId)
  | haveGesture (user : UserId)
  | removeUser (user : UserId)
  | systemReady (source : LegacySource)

namespace Call

/-- The operation of a call. -/
def operation : Call → Operation
  | .setBoolean .. => .setBoolean
  | .setLong .. => .setLong
  | .setString .. => .setString
  | .getBoolean .. => .getBoolean
  | .getLong .. => .getLong
  | .getString .. => .getString
  | .getLockPatternSize .. => .getLockPatternSize
  | .setLockPattern .. => .setLockPattern
  | .checkPattern .. => .checkPattern
  | .setLockPassword .. => .setLockPassword
  | .checkPassword .. => .checkPassword
  | .setLockGesture .. => .setLockGesture
  | .checkGesture .. => .checkGesture
  | .havePassword .. => .havePassword
  | .havePattern .. => .havePattern
  | .haveGesture .. => .haveGesture
  | .removeUser .. => .removeUser
  | .systemReady .. => .systemReady

/-- The user that a call is for. The import is for the system user. -/
def user : Call → UserId
  | .setBoolean _ _ u | .setLong _ _ u | .setString _ _ u | .getBoolean _ _ u | .getLong _ _ u
  | .getString _ _ u | .getLockPatternSize u | .setLockPattern _ u | .checkPattern _ u
  | .setLockPassword _ u | .checkPassword _ u | .setLockGesture _ u | .checkGesture _ u
  | .havePassword u | .havePattern u | .haveGesture u | .removeUser u => u
  | .systemReady _ => .system

end Call

/-- What a call answers. -/
inductive Answer where
  | done
  | boolean (b : Bool)
  | long (i : Int64)
  | text (s : Option String)
  | size (n : Nat)
  | outcome (o : ImportOutcome)
  deriving DecidableEq

/-- An action on an open store. Where it fails, the store is the one it left. -/
abbrev StoreAction := EStateM StoreError Store

/-! ### The pattern grid -/

namespace Database

/-- The size of a user's pattern grid. -/
def patternSize (db : Database) (user : UserId) : Nat :=
  match db.getLong patternSizeKey (-1) user with
  | .ok size =>
    if 0 < size.toInt ∧ size.toInt < patternSizeLimit then size.toInt.toNat
    else standardPatternSize
  | .error _ => standardPatternSize

/-- The variant of a user's pattern. -/
def variant (db : Database) (user : UserId) : GridVariant :=
  if db.patternSize user = standardPatternSize then .standard else .alternate

end Database

namespace Store

/-- The size of a user's pattern grid, as the database of the store has it. -/
def patternSize (s : Store) (user : UserId) : Nat := s.database.patternSize user

/-- The variant of a user's pattern, as the database of the store has it. -/
def variant (s : Store) (user : UserId) : GridVariant := s.database.variant user

/-! ### Actions -/

/-- An action on the files of the store. -/
def onFiles {α : Type} (act : FileAction α) : StoreAction α := fun s =>
  match act s.files with
  | .ok a t => .ok a { s with files := t }
  | .error fault t => .error (.io fault) { s with files := t }

/-- Changes of the settings table, in one transaction. -/
def commit (cs : List Change) : StoreAction Unit := fun s =>
  match s.database.commit cs with
  | (.ok _, db) => .ok () { s with database := db }
  | (.error e, db) => .error e { s with database := db }

/-- Does something while some locks are held. -/
def withLocks {α : Type} (locks : List Lock) (act : StoreAction α) : StoreAction α := fun s =>
  match act { s with locks := s.locks.acquireAll locks } with
  | .ok a s => .ok a { s with locks := s.locks.releaseAll locks }
  | .error e s => .error e { s with locks := s.locks.releaseAll locks }

/-- Looks at the store without changing it. -/
def reading {α : Type} (f : Store → Except StoreError α) : StoreAction α := fun s =>
  match f s with
  | .ok a => .ok a s
  | .error e => .error e s

/-- Reads from the database. -/
def asking {α : Type} (f : Database → Except DatabaseFault α) : StoreAction α :=
  reading fun s => (f s.database).mapError .database

/-- Writes the size of a user's pattern grid and moves the hash of the pattern. -/
def writePatternSize (value : SettingValue) (user : UserId) : StoreAction Unit :=
  withLocks [⟨user, .credential .pattern⟩] do
    let before ← reading fun s => .ok (s.variant user)
    commit [.write patternSizeKey user value.stored]
    let after ← reading fun s => .ok (s.variant user)
    let hashes ← reading fun s => .ok s.hashes
    onFiles (hashes.movePattern user before after)

/-- Writes a setting. -/
def writeSetting (key : String) (value : SettingValue) (user : UserId) : StoreAction Unit :=
  if key = patternSizeKey then writePatternSize value user
  else commit [.write key user value.stored]

/-- Stores a hash. -/
def setHash (kind : CredentialKind) (hash : Bytes) (user : UserId) : StoreAction Unit :=
  withLocks [⟨user, .credential kind⟩] fun s =>
    onFiles (s.hashes.set kind hash user (s.variant user)) s

/-- Compares a hash with the stored one. -/
def checkHash (kind : CredentialKind) (hash : Bytes) (user : UserId) : StoreAction Bool :=
  withLocks [⟨user, .credential kind⟩]
    (reading fun s => s.hashes.check kind hash user (s.variant user) s.files)

/-- Whether a hash is stored. -/
def haveHash (kind : CredentialKind) (user : UserId) (s : Store) : Bool :=
  s.hashes.holds kind user (s.variant user) s.files

/-- Stores a gesture. -/
def setGesture (sample : Gesture) (user : UserId) : StoreAction Unit :=
  withLocks [⟨user, .gesture⟩] fun s =>
    match s.gestures.set sample user s.files with
    | .ok () t => .ok () { s with files := t }
    | .error e t => .error e { s with files := t }

/-- Whether a gesture unlocks. -/
def checkGesture (sample : Gesture) (user : UserId) : StoreAction Bool :=
  withLocks [⟨user, .gesture⟩]
    (reading fun s => s.gestures.check s.recognizer sample user s.files)

/-- Removes the credential files of a user. -/
def removeFiles (user : UserId) : StoreAction Unit := fun s =>
  .ok () { s with files := s.gestures.remove user (s.hashes.removeAll user s.files) }

/-- Drops the locks of a user that are not held. -/
def forgetUser (user : UserId) : StoreAction Unit := fun s =>
  .ok () { s with locks := s.locks.forgetUser user }

/-- Removes all that the store keeps of a user. -/
def removeUser (user : UserId) : StoreAction Unit := do
  withLocks (Lock.allOf user) do
    removeFiles user
    commit [.deleteUser user]
  forgetUser user

/-- Imports legacy settings, unless that was done before. -/
def importLegacy (source : LegacySource) : StoreAction ImportOutcome := fun s =>
  let (outcome, db) := s.database.importLegacy source
  .ok outcome { s with database := db }

/-! ### Calls -/

/-- Does what a permitted call asks for. -/
def answer : Call → StoreAction Answer
  | .setBoolean key value user => do writeSetting key (.boolean value) user; return .done
  | .setLong key value user => do writeSetting key (.long value) user; return .done
  | .setString key value user => do writeSetting key (.text value) user; return .done
  | .getBoolean key default user =>
    asking fun db => (db.getBoolean key default user).map .boolean
  | .getLong key default user => asking fun db => (db.getLong key default user).map .long
  | .getString key default user => asking fun db => (db.getString key default user).map .text
  | .getLockPatternSize user => reading fun s => .ok (.size (s.patternSize user))
  | .setLockPattern hash user => do setHash .pattern hash user; return .done
  | .checkPattern hash user => do return .boolean (← checkHash .pattern hash user)
  | .setLockPassword hash user => do setHash .password hash user; return .done
  | .checkPassword hash user => do return .boolean (← checkHash .password hash user)
  | .setLockGesture sample user => do setGesture sample user; return .done
  | .checkGesture sample user => do return .boolean (← checkGesture sample user)
  | .havePassword user => reading fun s => .ok (.boolean (s.haveHash .password user))
  | .havePattern user => reading fun s => .ok (.boolean (s.haveHash .pattern user))
  | .haveGesture user => reading fun s => .ok (.boolean (s.gestures.holds user s.files))
  | .removeUser user => do removeUser user; return .done
  | .systemReady source => do return .outcome (← importLegacy source)

/-- Answers a call, if its caller may make it. -/
def perform (caller : Caller) (call : Call) : StoreAction Answer :=
  if caller.mayRun call.operation call.user then answer call
  else throw (.permissionDenied caller call.operation call.user)

end Store

end Keyguard
