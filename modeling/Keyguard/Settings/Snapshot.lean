import Keyguard.Json.Record
import Keyguard.Settings.Schema
import Keyguard.Text.Hex

/-!
# The file of a settings database

While the settings database is closed it lies in a file. The file begins with a mark, so that it
is not taken for a JSON text, and behind the mark it is one:

* a **cell** is `null`, a text, or an array of one text, the hexadecimal digits of a blob;
* a **row** is an array of its key, the number of its user and its cell;
* the **settings table** is an array of its index flag and its rows, and `null` if it is missing;
* the **database** is an array of the settings table and the schema versions, which are `null` if
  there is no table of them.

`ofJson?_toJson` says that a database is read back from its JSON.
-/

namespace Keyguard

/-! ### Writing -/

/-- A cell as JSON. -/
def Cell.toJson : Cell → Json
  | .null => .null
  | .text s => .ofText s
  | .blob b => .array [.ofText (String.ofList (Hex.encode b))]

/-- A row as JSON. -/
def Row.toJson (r : Row) : Json :=
  .array [.ofText r.key, r.user.toJson, r.cell.toJson]

/-- A settings table as JSON. -/
def SettingsTable.toJson (t : SettingsTable) : Json :=
  .array [.bool t.indexed, .array (t.rows.map Row.toJson)]

namespace Database

/-- A database as JSON. -/
def toJson (db : Database) : Json :=
  .array [(db.settings.map SettingsTable.toJson).getD .null,
    (db.versions.map fun vs => .array (vs.map Json.ofInt)).getD .null]

/-- How the file of a database begins. -/
def mark : Bytes := Text.bytes "Keyguard settings 1\n"

/-- The content of the file of a database. -/
def bytes (db : Database) : Bytes := mark ++ db.toJson.bytes

end Database

/-! ### Reading -/

/-- The cell that a JSON value is. -/
def Cell.ofJson? : Json → Option Cell
  | .null => some .null
  | .array [v] => do return .blob (← Hex.decode? (← v.text?).toList)
  | v => v.text?.map .text

/-- The row that a JSON value is. -/
def Row.ofJson? : Json → Option Row
  | .array [key, user, cell] => do
    return { key := ← key.text?
             user := ← UserId.ofJson? user
             cell := ← Cell.ofJson? cell }
  | _ => none

/-- The settings table that a JSON value is. -/
def SettingsTable.ofJson? : Json → Option SettingsTable
  | .array [indexed, rows] => do return ⟨← rows.list? Row.ofJson?, ← indexed.bool?⟩
  | _ => none

namespace Database

/-- The schema version that a JSON value is. -/
def versionOf? (v : Json) : Option Int := v.integer? Int64.minValue.toInt Int64.maxValue.toInt

/-- A value that may be missing. -/
def optional? {α : Type} (read : Json → Option α) : Json → Option (Option α)
  | .null => some none
  | v => (read v).map some

/-- The database that a JSON value is. -/
def ofJson? : Json → Option Database
  | .array [settings, versions] => do
    return { settings := ← optional? SettingsTable.ofJson? settings
             versions := ← optional? (Json.list? versionOf?) versions }
  | _ => none

/-- The database in the content of a file, if it is one. -/
def ofBytes? (content : Bytes) : Option Database :=
  if mark.isPrefixOf content then Json.ofBytes? (content.drop mark.length) >>= ofJson? else none

end Database

/-! ### Reading undoes writing -/

theorem Cell.ofJson?_toJson (c : Cell) : Cell.ofJson? c.toJson = some c := by
  cases c with
  | null => rfl
  | text s =>
    have h := Json.text?_ofText s
    simp only [Json.ofText] at h
    simp only [Cell.toJson, Json.ofText, Cell.ofJson?, h, Option.map_some]
  | blob b =>
    simp only [Cell.toJson, Cell.ofJson?, Json.text?_ofText, bind, Option.bind_some,
      String.toList_ofList, Hex.decode?_encode, pure]

theorem Row.ofJson?_toJson (r : Row) : Row.ofJson? r.toJson = some r := by
  simp only [Row.toJson, Row.ofJson?, Json.text?_ofText, UserId.ofJson?_toJson,
    Cell.ofJson?_toJson, bind, Option.bind_some, pure]

theorem SettingsTable.ofJson?_toJson (t : SettingsTable) :
    SettingsTable.ofJson? t.toJson = some t := by
  have h := Json.list?_map (l := t.rows) fun r _ => Row.ofJson?_toJson r
  simp only [SettingsTable.toJson, SettingsTable.ofJson?, h, Json.bool?, bind, Option.bind_some,
    pure]

/-- A database is read back from its JSON if 64 bits hold its versions. -/
theorem Database.ofJson?_toJson (db : Database)
    (h : ∀ vs ∈ db.versions, ∀ v ∈ vs, Int64.minValue.toInt ≤ v ∧ v ≤ Int64.maxValue.toInt) :
    Database.ofJson? db.toJson = some db := by
  obtain ⟨settings, versions⟩ := db
  have hs : Database.optional? SettingsTable.ofJson?
      ((settings.map SettingsTable.toJson).getD .null) = some settings := by
    cases settings with
    | none => rfl
    | some t =>
      exact congrArg (Option.map some) (SettingsTable.ofJson?_toJson t)
  have hv : Database.optional? (Json.list? versionOf?)
      ((versions.map fun vs => .array (vs.map Json.ofInt)).getD .null) = some versions := by
    cases versions with
    | none => rfl
    | some vs =>
      refine congrArg (Option.map some) (Json.list?_map fun v hv => ?_)
      obtain ⟨hlow, hhigh⟩ := h vs rfl v hv
      have hmax : Int64.maxValue.toInt < UInt64.size := by decide
      exact Json.integer?_ofInt hlow hhigh ⟨hlow, Int.lt_of_le_of_lt hhigh hmax⟩
  simp only [Database.toJson, Database.ofJson?, hs, hv, bind, Option.bind_some, pure]

end Keyguard
