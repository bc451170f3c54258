import Keyguard.Settings.Table

/-!
# The settings database and its schema

The database holds the settings table and a table of schema versions; either may be missing. The
greatest version counts. A database without versions has version 0 and is one that was never set
up, and so is, as far as can be told, one whose greatest version is beyond 32 bits.

`Database.migrate` brings a database to `schemaVersion`. It creates what is missing below that
version and never removes a version.
-/

namespace Keyguard

/-- The settings database: its settings table and its schema versions, `none` for a table that
does not exist. -/
structure Database where
  settings : Option SettingsTable
  versions : Option (List Int)
  deriving DecidableEq

/-- The schema version of this library. -/
def schemaVersion : Int := 1

namespace Database

/-- A database without any table. -/
def blank : Database := ⟨none, none⟩

/-- The schema version of a database. -/
def version (db : Database) : Int :=
  match db.versions.bind List.max? with
  | none => 0
  | some v => if Int32.minValue.toInt ≤ v ∧ v ≤ Int32.maxValue.toInt then v else 0

/-- Creates the settings table and its index where they are missing. -/
def createSettings (db : Database) : Database :=
  { db with settings := some { db.settings.getD ⟨[], false⟩ with indexed := true } }

/-- Records a version, unless it is there. -/
def recordVersion (db : Database) (v : Int) : Database :=
  let vs := db.versions.getD []
  { db with versions := some (if v ∈ vs then vs else vs ++ [v]) }

/-- Brings a database to the schema version of this library. -/
def migrate (db : Database) : Database :=
  let v := db.version
  -- a later version has its tables
  let db := if v < schemaVersion then db.createSettings else db
  if v = schemaVersion then db else db.recordVersion schemaVersion

/-! ### The settings table of a database -/

/-- Reads the settings table. -/
def query {α : Type} (db : Database) (f : SettingsTable → Except DatabaseFault α) :
    Except DatabaseFault α :=
  match db.settings with
  | some t => f t
  | none => .error .missingTable

/-- The rows of the settings table, none if there is no such table. -/
def rows (db : Database) : List Row := (db.settings.map SettingsTable.rows).getD []

end Database

end Keyguard
