import Keyguard.Access
import Keyguard.Credential.Kind
import Keyguard.Files.Tree

/-!
# Errors of the store

An error is its cause; `StoreError.text` gives the wording. The causes are a denied call, a fault
of the database, of a file or of a JSON text, a stored hash that cannot be compared, and what is
wrong with a legacy export or with a configuration.
-/

namespace Keyguard

/-- What is wrong with legacy settings. -/
inductive LegacyFault where
  | notAnObject (path : Path)
  | unsupported (key : String) (value : Bytes)
  | other (reason : String)
  deriving DecidableEq

/-- What is wrong with a configuration. -/
inductive ConfigFault where
  | unreadable (path : Path) (cause : IoFault)
  | emptyDataDir
  | scoreNotFinite
  deriving DecidableEq

/-- Why the store refuses a call. -/
inductive StoreError where
  | permissionDenied (caller : Caller) (operation : Operation) (user : UserId)
  | database (fault : DatabaseFault)
  | io (fault : IoFault)
  | serialization
  | secretUnavailable (kind : CredentialKind) (user : UserId) (cause : IoFault)
  | legacy (fault : LegacyFault)
  | config (fault : ConfigFault)
  deriving DecidableEq

/-- The wording of a fault of the database. -/
def DatabaseFault.text : DatabaseFault → String
  | .cannotOpen path => "unable to open database file: " ++ path.text
  | .notADatabase => "file is not a database"
  | .missingTable => "no such table: locksettings"
  | .notText => "value is not a text"
  | .failed code => "error code " ++ Integer.text code.toInt

/-- The wording of a fault of legacy settings. -/
def LegacyFault.text : LegacyFault → String
  | .notAnObject path => path.text ++ " is not a JSON object"
  | .unsupported key value =>
    "legacy setting " ++ key ++ " has unsupported value " ++ (Text.ofBytes? value).getD ""
  | .other reason => reason

/-- The wording of a fault of a configuration. -/
def ConfigFault.text : ConfigFault → String
  | .unreadable path cause => "Cannot read " ++ path.text ++ ": " ++ cause.text
  | .emptyDataDir => "data_dir must not be empty"
  | .scoreNotFinite => "min_gesture_prediction_score must be a finite number"

/-- The wording of an error. -/
def StoreError.text : StoreError → String
  | .permissionDenied caller operation user =>
    caller.text ++ " not authorized to " ++ operation.text ++ " for user " ++ user.text
  | .database fault => "Database error: " ++ fault.text
  | .io fault => "I/O error: " ++ fault.text
  | .serialization => "Serialization error: not the expected JSON"
  | .secretUnavailable kind user cause =>
    "Credential check unavailable: " ++ kind.text ++ " hash for user " ++ user.text ++
      " is unreadable: " ++ cause.text
  | .legacy fault => "Migration error: " ++ fault.text
  | .config fault => "Configuration error: " ++ fault.text

end Keyguard
