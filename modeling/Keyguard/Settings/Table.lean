import Keyguard.Files.Path
import Keyguard.Text.Bytes
import Keyguard.User

/-!
# The settings table

The table is a list of rows, oldest first. Every write of this library first deletes the rows of
its key and user, so a pair written by it has one row. Rows may also come from outside: then a
pair may have several, of which reads see the oldest, and a row may hold nothing, or bytes that
are not text, which no read accepts.

* `cells_write` and `cells_deleteUser` say what the two changes do to the rows of every pair.
-/

namespace Keyguard

/-- What a row holds. -/
inductive Cell where
  | null
  | text (s : String)
  | blob (b : Bytes)
  deriving DecidableEq

/-- A row of the settings table. -/
structure Row where
  key : String
  user : UserId
  cell : Cell
  deriving DecidableEq

/-- Why the database refuses an operation. A failure that the database engine reports has the
engine's result code. -/
inductive DatabaseFault where
  | cannotOpen (path : Path)
  | notADatabase
  | missingTable
  | notText
  | failed (code : Int32)
  deriving DecidableEq

/-- The settings table. Its index speeds up look-ups and changes no answer. -/
structure SettingsTable where
  rows : List Row
  indexed : Bool
  deriving DecidableEq

namespace SettingsTable

/-- Whether a row belongs to a key and a user. -/
def belongs (key : String) (user : UserId) (r : Row) : Bool := r.key == key && r.user == user

/-- What the rows of a key and a user hold, oldest first. -/
def cells (t : SettingsTable) (key : String) (user : UserId) : List Cell :=
  (t.rows.filter (belongs key user)).map Row.cell

/-- The rows of a user, oldest first. -/
def rowsOf (t : SettingsTable) (user : UserId) : List Row := t.rows.filter (·.user == user)

/-! ### Reading -/

/-- The text of a cell; nothing in it is no text, and a blob cannot be read. -/
def readCell : Cell → Except DatabaseFault (Option String)
  | .null => .ok none
  | .text s => .ok (some s)
  | .blob _ => .error .notText

/-- The text of the oldest row of a key and a user. -/
def read (t : SettingsTable) (key : String) (user : UserId) :
    Except DatabaseFault (Option String) :=
  match t.cells key user with
  | [] => .ok none
  | c :: _ => readCell c

/-- The number of rows of a key and a user. -/
def rowCount (t : SettingsTable) (key : String) (user : UserId) : Nat := (t.cells key user).length

/-- Keys and texts of a user's rows, in ascending order of the keys and oldest first within a
key. A row that holds nothing is listed with an empty text. -/
def entries (t : SettingsTable) (user : UserId) : Except DatabaseFault (List (String × String)) :=
  ((t.rowsOf user).mergeSort fun a b => a.key ≤ b.key).mapM fun r =>
    (readCell r.cell).map fun s => (r.key, s.getD "")

/-! ### Changing -/

/-- Replaces all rows of a key and a user by one. -/
def write (t : SettingsTable) (key : String) (user : UserId) (text : String) : SettingsTable :=
  { t with rows := t.rows.filter (!belongs key user ·) ++ [⟨key, user, .text text⟩] }

/-- Deletes all rows of a user. -/
def deleteUser (t : SettingsTable) (user : UserId) : SettingsTable :=
  { t with rows := t.rows.filter (·.user != user) }

/-! ### What the changes do to a pair -/

private theorem filter_belongs_filter {key key' : String} {user user' : UserId} (rows : List Row) :
    (rows.filter (!belongs key user ·)).filter (belongs key' user') =
      if key' = key ∧ user' = user then [] else rows.filter (belongs key' user') := by
  rw [List.filter_filter]
  split
  · rename_i h
    obtain ⟨rfl, rfl⟩ := h
    simp
  · rename_i h
    refine List.filter_congr fun r _ => ?_
    simp only [belongs]
    by_cases hr : r.key = key' ∧ r.user = user'
    · obtain ⟨rfl, rfl⟩ := hr
      simp only [beq_self_eq_true, Bool.and_self, Bool.true_and, Bool.not_eq_true',
        Bool.and_eq_false_iff, beq_eq_false_iff_ne]
      exact Decidable.not_and_iff_not_or_not.1 h
    · have : (r.key == key' && r.user == user') = false := by
        simpa only [Bool.and_eq_false_iff, beq_eq_false_iff_ne] using
          Decidable.not_and_iff_not_or_not.1 hr
      rw [this, Bool.false_and]

/-- After a write the pair written has one row, and every other pair has the rows it had. -/
theorem cells_write (t : SettingsTable) (key key' : String) (user user' : UserId) (s : String) :
    (t.write key user s).cells key' user' =
      if key' = key ∧ user' = user then [.text s] else t.cells key' user' := by
  simp only [write, cells, List.filter_append, filter_belongs_filter, List.filter_cons,
    List.filter_nil]
  by_cases h : key' = key ∧ user' = user
  · obtain ⟨rfl, rfl⟩ := h
    simp [belongs]
  · have : belongs key' user' ⟨key, user, .text s⟩ = false := by
      simp only [belongs, Bool.and_eq_false_iff, beq_eq_false_iff_ne]
      by_cases hk : key' = key
      · exact .inr fun e => h ⟨hk, e.symm⟩
      · exact .inl fun e => hk e.symm
    simp [h, this]

/-- After a deletion the user has no rows, and every other user has the rows it had. -/
theorem cells_deleteUser (t : SettingsTable) (key : String) (user user' : UserId) :
    (t.deleteUser user).cells key user' = if user' = user then [] else t.cells key user' := by
  simp only [deleteUser, cells, List.filter_filter]
  split
  · rename_i h
    subst h
    rw [List.filter_eq_nil_iff.2]
    · rfl
    · intro r _; simp [belongs]
  · rename_i h
    congr 1
    refine List.filter_congr fun r _ => ?_
    simp only [belongs]
    by_cases hu : r.user = user' <;> simp [hu, h]

end SettingsTable

end Keyguard
