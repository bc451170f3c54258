import Keyguard.Settings.Schema
import Keyguard.Settings.Value

/-!
# Reading settings

A setting is read as the kind that the caller wants, with a default of that kind. The default
stands in where the setting is missing or its text is empty, and for an integer also where the
text is none.
-/

namespace Keyguard.Database

/-- The text of a setting, if it is not empty. -/
def readText (db : Database) (key : String) (user : UserId) :
    Except DatabaseFault (Option String) :=
  (db.query fun t => t.read key user).map fun value => value.filter (· ≠ "")

/-- The text of a setting, or its default. -/
def getString (db : Database) (key : String) (default : Option String) (user : UserId) :
    Except DatabaseFault (Option String) :=
  (db.readText key user).map fun value => value <|> default

/-- The truth value of a setting, or its default. -/
def getBoolean (db : Database) (key : String) (default : Bool) (user : UserId) :
    Except DatabaseFault Bool :=
  (db.readText key user).map fun value => (value.map SettingValue.readBoolean).getD default

/-- The integer of a setting, or its default. -/
def getLong (db : Database) (key : String) (default : Int64) (user : UserId) :
    Except DatabaseFault Int64 :=
  (db.readText key user).map fun value => (value.bind SettingValue.readLong?).getD default

end Keyguard.Database
