import Keyguard.Files.Walk
import Keyguard.Json.Canonical
import Keyguard.Settings.Value
import Keyguard.Settings.Transaction

/-!
# The import of legacy settings

Older devices kept their lock settings in one list for the whole device. The import copies the
settings in `legacyKeys` to the system user, once in the life of a store: together with them it
writes the key `importedKey`, and while that key has a value there is no further import.

* The import is one transaction, so it copies everything or nothing.
* If the key cannot be read, or the source fails on a single key, nothing is imported and the
  store goes on as it was.

A source of legacy settings may be an export, a JSON object. There a text stands for itself, a
truth value for `1` or `0`, a number for its numeral, and `null` for no value. Arrays and objects
are no settings.
-/

namespace Keyguard

/-- The key that says the import is done. -/
def importedKey : String := "migrated"

/-- The keys of the legacy settings. -/
def legacyKeys : List String :=
  ["lockscreen.lockedoutpermanently",
    "lockscreen.lockoutattemptdeadline",
    "lockscreen.patterneverchosen",
    "lockscreen.password_type",
    "lockscreen.password_type_alternate",
    "lockscreen.password_salt",
    "lockscreen.disabled",
    "lockscreen.options",
    "lockscreen.biometric_weak_fallback",
    "lockscreen.biometricweakeverchosen",
    "lockscreen.power_button_instantly_locks",
    "lockscreen.passwordhistory",
    "lock_pattern_autolock",
    "lock_biometric_weak_flags",
    "lock_pattern_visible_pattern",
    "lock_pattern_tactile_feedback_enabled",
    "lock_sync_encryption_password",
    "lock_pattern_show_error_path",
    "lock_pattern_dots_visible"]

/-- A source of legacy settings: the value of each key, none if it was never set. -/
structure LegacySource where
  value? : String → Except LegacyFault (Option String)

/-- The members of an export, in canonical form. -/
abbrev LegacyExport := NameMap Json

namespace LegacyExport

/-- Reads the export in a file. -/
def ofBytes (path : Path) (content : Bytes) : Except StoreError LegacyExport :=
  match Json.ofBytes? content with
  | none => .error .serialization
  | some (.object ms) =>
    -- the object itself is one of the open levels
    match Json.canonicalMembers? (Json.greatestDepth - 1) ms with
    | none => .error .serialization
    | some ms => .ok (.ofList ms)
  | some v =>
    if (v.canonical? Json.greatestDepth).isSome then .error (.legacy (.notAnObject path))
    else .error .serialization

/-- Reads the export in the file that a path leads to. -/
def load (path : Path) (t : FileTree) : Except StoreError LegacyExport :=
  match t.readAt path with
  | .error fault => .error (.io fault)
  | .ok content => ofBytes path content

/-- The value that an export gives a key. -/
def value? (x : LegacyExport) (key : String) : Except LegacyFault (Option String) :=
  match x.get? key with
  | none => .ok none
  | some .null => .ok none
  | some (.bool b) => .ok (some (SettingValue.boolean b).stored)
  | some (.number n) => .ok (some n.text)
  | some (.string body) => .ok (Json.Quoted.decode? body)
  | some v => .error (.unsupported key v.bytes)

end LegacyExport

namespace LegacySource

/-- Settings held in memory. -/
def ofMap (m : NameMap String) : LegacySource := ⟨fun key => .ok (m.get? key)⟩

/-- The settings of an export. -/
def ofExport (x : LegacyExport) : LegacySource := ⟨x.value?⟩

/-- The pairs of those keys that have a value. -/
def collect (s : LegacySource) : List String → Except LegacyFault (List (String × String))
  | [] => .ok []
  | key :: keys =>
    match s.value? key with
    | .error e => .error e
    | .ok value =>
      match s.collect keys with
      | .error e => .error e
      | .ok rest => .ok (match value with | some v => (key, v) :: rest | none => rest)

end LegacySource

/-- What came of an import. -/
inductive ImportOutcome where
  | alreadyImported
  | imported (copied : Nat)
  | failed
  deriving DecidableEq

namespace Database

/-- The changes that import some pairs. -/
def importChanges (found : List (String × String)) : List Change :=
  found.map (fun (key, value) => .write key .system value) ++ [.write importedKey .system "true"]

/-- Imports legacy settings, unless that was done before. -/
def importLegacy (db : Database) (source : LegacySource) : ImportOutcome × Database :=
  match db.query fun t => t.read importedKey .system with
  | .error _ => (.failed, db)
  | .ok (some _) => (.alreadyImported, db)
  | .ok none =>
    match source.collect legacyKeys with
    | .error _ => (.failed, db)
    | .ok found =>
      match db.commit (importChanges found) with
      | (.error _, db) => (.failed, db)
      | (.ok _, db) => (.imported found.length, db)

end Database

end Keyguard
