import Keyguard.Proofs.Settings.Cells

/-!
# The rows of a user

Whatever is read of a user's settings is read from the user's own rows (`Database.rowsOf?`): the
cells of each key (`cells?_eq`) and with them every setting, the listing of the settings
(`entries_congr`), and whether there is a settings table at all. A transaction acts on the rows of
every user as a fold (`rowsOf?_commit`), in which the changes of other users do nothing
(`foldl_onRows_of_forall`).
-/

namespace Keyguard

/-- The user whose rows a change is about. -/
def Change.user : Change → UserId
  | .write _ u _ | .deleteUser u => u

/-- The rows of a user after a change, from those before it. -/
def Change.onRows (user : UserId) (rs : List Row) : Change → List Row
  | .write k u text =>
    if u = user then rs.filter (·.key != k) ++ [⟨k, user, .text text⟩] else rs
  | .deleteUser u => if u = user then [] else rs

theorem Change.onRows_of_ne {user : UserId} {c : Change} (h : c.user ≠ user) (rs : List Row) :
    c.onRows user rs = rs := by
  cases c with
  | write k u text => exact if_neg h
  | deleteUser u => exact if_neg h

/-- Changes of other users leave the rows of a user as they are. -/
theorem Change.foldl_onRows_of_forall {user : UserId} {cs : List Change}
    (others : ∀ c ∈ cs, c.user ≠ user) (rs : List Row) : cs.foldl (onRows user) rs = rs := by
  induction cs with
  | nil => rfl
  | cons c cs ih =>
    rw [List.foldl_cons, onRows_of_ne (others c List.mem_cons_self)]
    exact ih fun c hc => others c (List.mem_cons_of_mem _ hc)

namespace SettingsTable

theorem rowsOf_write (t : SettingsTable) (key text : String) (u user : UserId) :
    (t.write key u text).rowsOf user = (Change.write key u text).onRows user (t.rowsOf user) := by
  simp only [write, rowsOf, List.filter_append, List.filter_filter, Change.onRows]
  split
  · rename_i own
    subst own
    have kept : (t.rows.filter fun r => r.user == u && !belongs key u r) =
        t.rows.filter fun r => r.key != key && r.user == u := by
      refine List.filter_congr fun r _ => ?_
      cases hu : r.user == u <;> simp [belongs, hu, bne]
    rw [kept]
    simp
  · rename_i other
    have kept : (t.rows.filter fun r => r.user == user && !belongs key u r) =
        t.rows.filter (·.user == user) := by
      refine List.filter_congr fun r _ => ?_
      by_cases hu : r.user = user
      · simp [belongs, hu, Ne.symm other]
      · simp [hu]
    rw [kept]
    simp [other]

theorem rowsOf_deleteUser (t : SettingsTable) (u user : UserId) :
    (t.deleteUser u).rowsOf user = (Change.deleteUser u).onRows user (t.rowsOf user) := by
  simp only [deleteUser, rowsOf, List.filter_filter, Change.onRows]
  split
  · rename_i own
    subst own
    refine List.filter_eq_nil_iff.mpr fun r _ => ?_
    simp
  · rename_i other
    refine List.filter_congr fun r _ => ?_
    by_cases hu : r.user = user
    · simp [hu, Ne.symm other]
    · simp [hu]

theorem rowsOf_foldl_change (t : SettingsTable) (cs : List Change) (user : UserId) :
    (cs.foldl change t).rowsOf user = cs.foldl (Change.onRows user) (t.rowsOf user) := by
  induction cs generalizing t with
  | nil => rfl
  | cons c cs ih =>
    rw [List.foldl_cons, List.foldl_cons, ih]
    cases c with
    | write k u text => rw [change, rowsOf_write]
    | deleteUser u => rw [change, rowsOf_deleteUser]

theorem cells_eq (t : SettingsTable) (key : String) (user : UserId) :
    t.cells key user = ((t.rowsOf user).filter (·.key == key)).map Row.cell := by
  rw [cells, rowsOf, List.filter_filter]
  rfl

end SettingsTable

namespace Database

variable {db db' : Database} {user : UserId}

/-- The rows of a user, unless the settings table is missing. -/
def rowsOf? (db : Database) (user : UserId) : Option (List Row) := db.settings.map (·.rowsOf user)

theorem cells?_eq (db : Database) (key : String) (user : UserId) :
    db.cells? key user =
      (db.rowsOf? user).map fun rs => (rs.filter (·.key == key)).map Row.cell := by
  rw [cells?, rowsOf?, Option.map_map]
  cases db.settings with
  | none => rfl
  | some t => exact congrArg some (t.cells_eq key user)

/-- A transaction acts on the rows of every user as a fold. -/
theorem rowsOf?_commit (db : Database) (cs : List Change) (user : UserId) :
    (db.commit cs).2.rowsOf? user = (db.rowsOf? user).map (cs.foldl (Change.onRows user)) := by
  simp only [commit_snd, rowsOf?]
  cases db.settings with
  | none => rfl
  | some t => exact congrArg some (t.rowsOf_foldl_change cs user)

/-- Changes of other users leave the rows of a user as they are. -/
theorem rowsOf?_commit_of_forall {cs : List Change} (others : ∀ c ∈ cs, c.user ≠ user) :
    (db.commit cs).2.rowsOf? user = db.rowsOf? user := by
  rw [rowsOf?_commit]
  cases db.rowsOf? user with
  | none => rfl
  | some rs => exact congrArg some (Change.foldl_onRows_of_forall others rs)

/-- An import writes rows of the system user. -/
theorem user_of_mem_importChanges {found : List (String × String)} {c : Change}
    (h : c ∈ importChanges found) : c.user = .system := by
  rcases List.mem_append.mp h with h | h
  · obtain ⟨⟨k, v⟩, -, rfl⟩ := List.mem_map.mp h
    rfl
  · rw [List.mem_singleton.mp h]
    rfl

theorem rowsOf?_importLegacy_of_ne (h : user ≠ .system) (source : LegacySource) :
    (db.importLegacy source).2.rowsOf? user = db.rowsOf? user := by
  rcases db.importLegacy_cases source with ⟨o, -, unchanged⟩ | ⟨found, -, -, imported⟩
  · rw [unchanged]
  · rw [imported]
    exact rowsOf?_commit_of_forall fun c hc e => h (e.symm.trans (user_of_mem_importChanges hc))

/-! ### What depends on the rows of a user -/

theorem cells?_congr (h : db'.rowsOf? user = db.rowsOf? user) (key : String) :
    db'.cells? key user = db.cells? key user := by
  rw [cells?_eq, cells?_eq, h]

theorem settings_eq_none_iff (db : Database) (user : UserId) :
    db.settings = none ↔ db.rowsOf? user = none :=
  Option.map_eq_none_iff.symm

/-- The listing of a user's settings. -/
theorem entries_congr (h : db'.rowsOf? user = db.rowsOf? user) :
    (db'.query fun t => t.entries user) = db.query fun t => t.entries user := by
  have listed (db : Database) : (db.query fun t => t.entries user) =
      match db.rowsOf? user with
      | none => .error .missingTable
      | some rs => (rs.mergeSort fun a b => a.key ≤ b.key).mapM fun r =>
          (SettingsTable.readCell r.cell).map fun s => (r.key, s.getD "") := by
    rw [query, rowsOf?]
    cases db.settings <;> rfl
  rw [listed, listed, h]

/-- The text of a setting, empty or not. -/
theorem read_congr (h : db'.rowsOf? user = db.rowsOf? user) (key : String) :
    (db'.query fun t => t.read key user) = db.query fun t => t.read key user := by
  rw [query_read_eq, query_read_eq, cells?_congr h]

/-- Whether a transaction succeeds. -/
theorem commit_fst_congr (h : db'.rowsOf? user = db.rowsOf? user) (cs : List Change) :
    ((db'.commit cs).1.map fun _ => ()) = (db.commit cs).1.map fun _ => () := by
  simp only [commit_fst, settings_eq_none_iff _ user, h]

/-- What an import does to the rows of the system user, and what came of it. -/
theorem importLegacy_congr (h : db'.rowsOf? .system = db.rowsOf? .system)
    (source : LegacySource) :
    (db'.importLegacy source).1 = (db.importLegacy source).1 ∧
      (db'.importLegacy source).2.rowsOf? .system =
        (db.importLegacy source).2.rowsOf? .system := by
  rw [importLegacy_eq, importLegacy_eq, read_congr h]
  cases db.query fun t => t.read importedKey .system with
  | error fault => exact ⟨rfl, h⟩
  | ok value =>
    cases value with
    | some _ => exact ⟨rfl, h⟩
    | none =>
      cases source.collect legacyKeys with
      | error fault => exact ⟨rfl, h⟩
      | ok found => exact ⟨rfl, by simp only [rowsOf?_commit, h]⟩

end Database

end Keyguard
