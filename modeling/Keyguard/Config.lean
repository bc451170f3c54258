import Keyguard.Credential.HashFiles
import Keyguard.Files.Walk
import Keyguard.Json.Record

/-!
# Configuration

A configuration names the data directory, the score above which a gesture unlocks, whether the
lock screen is disabled when the store is created, and what to do with an unreadable hash. It is
kept as a JSON record of which every field may be missing and then has its default.

The default data directory is the environment's own, if it names one; otherwise it is
`locksettings` in the directory for local data, which is `XDG_DATA_HOME` if that is absolute and
`.local/share` in the home directory if not. Where there is no home directory it is `data`.
-/

namespace Keyguard

/-- What the environment says about directories. -/
structure Environment where
  dataDir : Option String
  xdgDataHome : Option String
  home : Option String

/-- The variable of the environment that names a data directory. -/
def dataDirVariable : String := "LOCKSETTINGS_DATA_DIR"

/-- The data directory of a configuration that names none. Without a home directory there is no
directory for local data either. -/
def Environment.defaultDataDir (e : Environment) : Path :=
  match e.dataDir, e.home with
  | some d, _ => ⟨d⟩
  | none, none => ⟨"data"⟩
  | none, some home =>
    let homeData := (Path.mk home).join ".local/share"
    let base :=
      match e.xdgDataHome with
      | some x => if (Path.mk x).isAbsolute then Path.mk x else homeData
      | none => homeData
    base.join "locksettings"

namespace UnreadablePolicy

/-- How a policy is named in a configuration. -/
def text : UnreadablePolicy → String
  | .reject => "reject"
  | .assumeMatch => "assume_match"

/-- The policy that a JSON value names. -/
def ofJson? (v : Json) : Option UnreadablePolicy :=
  match v.variant? with
  | some ("reject", none) | some ("reject", some .null) => some .reject
  | some ("assume_match", none) | some ("assume_match", some .null) => some .assumeMatch
  | _ => none

end UnreadablePolicy

/-- A configuration of the store. -/
structure Config where
  dataDir : Path
  threshold : Float
  disabledByDefault : Bool
  policy : UnreadablePolicy

/-- The score above which a gesture unlocks by default. -/
def defaultThreshold : Float := 2

namespace Config

/-- The configuration with a data directory and all else by default. -/
def ofDataDir (dir : Path) : Config := ⟨dir, defaultThreshold, false, .reject⟩

/-- The default configuration. -/
def default (e : Environment) : Config := ofDataDir e.defaultDataDir

/-- The names of the fields. -/
def fieldNames : List String :=
  ["data_dir", "min_gesture_prediction_score", "lockscreen_disabled_by_default",
    "unreadable_secret_policy"]

/-- A configuration as JSON. -/
def toJson (c : Config) : Json :=
  .ofMembers (fieldNames.zip
    [.ofText c.dataDir.text, .ofDouble c.threshold, .bool c.disabledByDefault,
      .ofText c.policy.text])

/-- Reads a field, which has its default if it is missing. -/
def field? {α : Type} (read : Json → Option α) (value : α) : Option Json → Option α
  | none => some value
  | some v => read v

/-- The configuration that a JSON value is; missing fields are those of `base`. -/
def ofJson? (base : Config) (v : Json) : Option Config :=
  match v.fields? fieldNames with
  | some [dir, score, disabled, policy] => do
    return { dataDir := ← field? (fun v => v.text?.map Path.mk) base.dataDir dir
             threshold := ← field? Json.double? base.threshold score
             disabledByDefault := ← field? Json.bool? base.disabledByDefault disabled
             policy := ← field? UnreadablePolicy.ofJson? base.policy policy }
  | _ => none

/-- Refuses a configuration that cannot work. -/
def validate (c : Config) : Except StoreError Unit :=
  if c.dataDir.text = "" then .error (.config .emptyDataDir)
  else if !c.threshold.isFinite then .error (.config .scoreNotFinite)
  else .ok ()

/-- Reads and checks the configuration in the file that a path leads to. -/
def load (e : Environment) (p : Path) (t : FileTree) : Except StoreError Config :=
  match t.readAt p with
  | .error fault => .error (.config (.unreadable p fault))
  | .ok content =>
    -- the file must be a text, also where its JSON would be skipped
    if (Text.ofBytes? content).isNone then .error (.config (.unreadable p .notUtf8))
    else
      match Json.ofBytes? content >>= ofJson? (default e) with
      | none => .error .serialization
      | some c => c.validate.map fun _ => c

end Config

end Keyguard
