import Keyguard.Settings.Legacy
import Keyguard.Settings.Reading
import Keyguard.Proofs.Settings.Retrying

/-!
# The settings as cells

What a setting reads as depends on the cells of its key and user only (`Database.cells?`), and
there are none if the settings table is missing. A transaction of changes succeeds exactly if
there is a table or nothing to change (`commit_of_table`, `commit_of_no_table`), and on the cells
of every pair it acts as a fold (`cells?_commit`). It touches no schema version.

An import either leaves the database alone or is such a transaction (`importLegacy_cases`). After
it a legacy key has the text of the source, or what it had if the source has none
(`cells?_importChanges`).
-/

namespace Keyguard

/-- The cells of a key and a user after a change, from those before it. -/
def Change.onCells (key : String) (user : UserId) (cs : List Cell) : Change → List Cell
  | .write k u text => if key = k ∧ user = u then [.text text] else cs
  | .deleteUser u => if user = u then [] else cs

/-- A write leaves the cells of every other pair. -/
theorem Change.onCells_write_of_ne {key k : String} {user u : UserId} (h : key ≠ k ∨ user ≠ u)
    (text : String) (cs : List Cell) : (Change.write k u text).onCells key user cs = cs :=
  if_neg fun e => h.elim (· e.1) (· e.2)

/-- A deletion leaves the cells of every other user. -/
theorem Change.onCells_deleteUser_of_ne {user u : UserId} (h : user ≠ u) (key : String)
    (cs : List Cell) : (Change.deleteUser u).onCells key user cs = cs :=
  if_neg h

/-- The settings table after a change. -/
def SettingsTable.change (t : SettingsTable) : Change → SettingsTable
  | .write key user text => t.write key user text
  | .deleteUser user => t.deleteUser user

theorem SettingsTable.cells_change (t : SettingsTable) (c : Change) (key : String)
    (user : UserId) : (t.change c).cells key user = c.onCells key user (t.cells key user) := by
  cases c with
  | write k u text => exact cells_write t k key u user text
  | deleteUser u => exact cells_deleteUser t key u user

theorem SettingsTable.cells_foldl_change (t : SettingsTable) (cs : List Change) (key : String)
    (user : UserId) : (cs.foldl change t).cells key user =
      cs.foldl (Change.onCells key user) (t.cells key user) := by
  induction cs generalizing t with
  | nil => rfl
  | cons c cs ih => rw [List.foldl_cons, List.foldl_cons, ih, cells_change]

namespace LegacySource

/-- The text that a source has for a key, if it can be read and there is one. -/
def text? (source : LegacySource) (key : String) : Option String :=
  match source.value? key with
  | .ok value => value
  | .error _ => none

/-- The text that an import gives to a key of the system user, if it gives one. -/
def given? (source : LegacySource) (key : String) : Option String :=
  if key = importedKey then some "true"
  else if key ∈ legacyKeys then source.text? key else none

/-- What was found for some keys leaves each of them with the text of the source, or with what it
had if the source has none. -/
private theorem foldl_onCells_collect {source : LegacySource} {keys : List String}
    {found : List (String × String)} (h : source.collect keys = .ok found) (key : String)
    (cs : List Cell) :
    (found.map fun (k, v) => Change.write k .system v).foldl (Change.onCells key .system) cs =
      match if key ∈ keys then source.text? key else none with
      | some v => [.text v]
      | none => cs := by
  induction keys generalizing found cs with
  | nil =>
    injection h with h
    subst h
    rfl
  | cons k ks ih =>
    rw [collect] at h
    cases hv : source.value? k with
    | error fault => simp [hv] at h
    | ok value =>
      cases hrest : source.collect ks with
      | error fault => simp [hv, hrest] at h
      | ok rest =>
        simp only [hv, hrest, Except.ok.injEq] at h
        subst h
        have text : source.text? k = value := by rw [text?, hv]
        cases value with
        | none =>
          rw [ih hrest]
          by_cases hk : key = k
          · subst hk
            simp [text]
          · simp [hk]
        | some v =>
          rw [List.map_cons, List.foldl_cons, ih hrest]
          by_cases hk : key = k
          · subst hk
            by_cases hks : key ∈ ks <;> simp [hks, text, Change.onCells]
          · simp [hk, Change.onCells]

end LegacySource

namespace Database

variable {db db' : Database} {key : String} {user : UserId}

/-- The cells of a key and a user, unless the settings table is missing. -/
def cells? (db : Database) (key : String) (user : UserId) : Option (List Cell) :=
  db.settings.map (·.cells key user)

/-- Changes of other pairs leave the cells of a pair as they are. -/
theorem foldl_onCells_of_forall {changes : List Change}
    (others : ∀ c ∈ changes, ∀ cs, c.onCells key user cs = cs) (cs : List Cell) :
    changes.foldl (Change.onCells key user) cs = cs := by
  induction changes with
  | nil => rfl
  | cons c changes ih =>
    rw [List.foldl_cons, others c List.mem_cons_self]
    exact ih fun c hc => others c (List.mem_cons_of_mem _ hc)

/-! ### Reading -/

/-- A setting is read from its first cell. -/
theorem query_read_eq (db : Database) (key : String) (user : UserId) :
    (db.query fun t => t.read key user) = match db.cells? key user with
      | none => .error .missingTable
      | some [] => .ok none
      | some (c :: _) => SettingsTable.readCell c := by
  rw [query, cells?]
  cases db.settings with
  | none => rfl
  | some t =>
    simp only [Option.map_some, SettingsTable.read]
    cases t.cells key user <;> rfl

/-- The text of a setting is that of its first cell. -/
theorem readText_eq (db : Database) (key : String) (user : UserId) :
    db.readText key user = match db.cells? key user with
      | none => .error .missingTable
      | some [] => .ok none
      | some (c :: _) => (SettingsTable.readCell c).map fun value => value.filter (· ≠ "") := by
  rw [readText, query_read_eq]
  rcases db.cells? key user with - | - | ⟨c, cs⟩ <;> rfl

theorem readText_congr (h : db'.cells? key user = db.cells? key user) :
    db'.readText key user = db.readText key user := by
  rw [readText_eq, readText_eq, h]

theorem getLong_congr (h : db'.cells? key user = db.cells? key user) (default : Int64) :
    db'.getLong key default user = db.getLong key default user := by
  rw [getLong, getLong, readText_congr h]

/-- A setting with at most one cell, which is a text, reads as that text. -/
theorem readText_of_cells {value : Option String}
    (h : db.cells? key user = some (value.map Cell.text).toList) :
    db.readText key user = .ok (value.filter (· ≠ "")) := by
  rw [readText_eq, h]
  cases value <;> rfl

/-! ### Transactions -/

/-- A transaction of changes keeps what they did if they succeed. -/
theorem commit_eq (db : Database) (cs : List Change) :
    db.commit cs = match db.applyAll cs with
      | .ok (n, db') => (.ok n, db')
      | .error fault => (.error (.database fault), db) := by
  simp only [commit, transact, result_retrying, changing]
  cases db.applyAll cs <;> rfl

/-- With a settings table changes are applied one after the other. -/
theorem applyAll_of_table {t : SettingsTable} (h : db.settings = some t)
    (cs : List Change) :
    ∃ n, db.applyAll cs = .ok (n, { db with settings := some (cs.foldl .change t) }) := by
  induction cs generalizing db t with
  | nil =>
    refine ⟨0, ?_⟩
    rw [applyAll, List.foldl_nil, ← h]
  | cons c cs ih =>
    have applied : ∃ n, db.apply c = .ok (n, { db with settings := some (t.change c) }) := by
      cases c with
      | write k u text => exact ⟨0, by simp only [apply, h]; rfl⟩
      | deleteUser u => exact ⟨(t.rowsOf u).length, by simp only [apply, h]; rfl⟩
    obtain ⟨n, hn⟩ := applied
    have there : ({ db with settings := some (t.change c) } : Database).settings =
        some (t.change c) := rfl
    obtain ⟨m, hm⟩ := ih there
    refine ⟨n + m, ?_⟩
    simp only [applyAll, hn, hm, List.foldl_cons]

/-- With a settings table every transaction of changes succeeds. -/
theorem commit_of_table {t : SettingsTable} (h : db.settings = some t) (cs : List Change) :
    ∃ n, db.commit cs = (.ok n, { db with settings := some (cs.foldl .change t) }) := by
  obtain ⟨n, hn⟩ := applyAll_of_table h cs
  exact ⟨n, by rw [commit_eq, hn]⟩

/-- Without a settings table every transaction that has a change fails. -/
theorem commit_of_no_table (h : db.settings = none) {cs : List Change} (hcs : cs ≠ []) :
    db.commit cs = (.error (.database .missingTable), db) := by
  obtain ⟨c, cs, rfl⟩ := List.exists_cons_of_ne_nil hcs
  simp only [commit_eq, applyAll, apply, h]

@[simp]
theorem commit_nil (db : Database) : db.commit [] = (.ok 0, db) := by
  rw [commit_eq, applyAll]

/-- A transaction succeeds exactly if there is a settings table or nothing to change. -/
theorem commit_fst (db : Database) (cs : List Change) :
    ((db.commit cs).1.map fun _ => ()) =
      if db.settings = none ∧ cs ≠ [] then .error (.database .missingTable) else .ok () := by
  cases h : db.settings with
  | some t =>
    obtain ⟨n, hn⟩ := commit_of_table h cs
    rw [hn, if_neg (by simp)]
    rfl
  | none =>
    by_cases hcs : cs = []
    · rw [hcs, commit_nil, if_neg (by simp)]
      rfl
    · rw [commit_of_no_table h hcs, if_pos ⟨rfl, hcs⟩]
      rfl

/-- A transaction changes the settings table and nothing else. -/
theorem commit_snd (db : Database) (cs : List Change) :
    (db.commit cs).2 = { db with settings := db.settings.map (cs.foldl .change ·) } := by
  cases h : db.settings with
  | some t =>
    obtain ⟨n, hn⟩ := commit_of_table h cs
    rw [hn]
    rfl
  | none =>
    have unchanged : db = { db with settings := none } := by rw [← h]
    by_cases hcs : cs = []
    · rw [hcs, commit_nil]
      exact unchanged
    · rw [commit_of_no_table h hcs]
      exact unchanged

/-- A transaction acts on the cells of every pair as a fold. -/
theorem cells?_commit (db : Database) (cs : List Change) (key : String) (user : UserId) :
    (db.commit cs).2.cells? key user =
      (db.cells? key user).map (cs.foldl (Change.onCells key user)) := by
  simp only [commit_snd, cells?]
  cases db.settings with
  | none => rfl
  | some t => exact congrArg some (t.cells_foldl_change cs key user)

@[simp]
theorem versions_commit (db : Database) (cs : List Change) :
    (db.commit cs).2.versions = db.versions := by
  rw [commit_snd]

theorem settings_commit_eq_none (db : Database) (cs : List Change) :
    (db.commit cs).2.settings = none ↔ db.settings = none := by
  rw [commit_snd, Option.map_eq_none_iff]

/-! ### The import -/

/-- An import happens if the settings table is there, the key that says it is done has no value and
the source can be read. -/
theorem importLegacy_eq (db : Database) (source : LegacySource) :
    db.importLegacy source = match db.query fun t => t.read importedKey .system with
      | .error _ => (.failed, db)
      | .ok (some _) => (.alreadyImported, db)
      | .ok none =>
        match source.collect legacyKeys with
        | .error _ => (.failed, db)
        | .ok found => (.imported found.length, (db.commit (importChanges found)).2) := by
  unfold importLegacy
  cases hr : db.query fun t => t.read importedKey .system with
  | error fault => rfl
  | ok value =>
    cases value with
    | some _ => rfl
    | none =>
      cases source.collect legacyKeys with
      | error fault => rfl
      | ok found =>
        cases ht : db.settings with
        | none => simp [query, ht] at hr
        | some t =>
          obtain ⟨n, hn⟩ := commit_of_table ht (importChanges found)
          simp only [hn]

/-- An import leaves the database alone, or it finds what the source has and writes it. -/
theorem importLegacy_cases (db : Database) (source : LegacySource) :
    (∃ o, (o = .failed ∨ o = .alreadyImported) ∧ db.importLegacy source = (o, db)) ∨
    ∃ found, source.collect legacyKeys = .ok found ∧ db.settings ≠ none ∧
      db.importLegacy source = (.imported found.length, (db.commit (importChanges found)).2) := by
  rw [importLegacy_eq]
  cases hr : db.query fun t => t.read importedKey .system with
  | error fault => exact .inl ⟨_, .inl rfl, rfl⟩
  | ok value =>
    cases value with
    | some _ => exact .inl ⟨_, .inr rfl, rfl⟩
    | none =>
      have table : db.settings ≠ none := by
        intro none
        simp [query, none] at hr
      cases source.collect legacyKeys with
      | error fault => exact .inl ⟨_, .inl rfl, rfl⟩
      | ok found => exact .inr ⟨found, rfl, table, rfl⟩

/-- An import touches no schema version. -/
theorem versions_importLegacy (db : Database) (source : LegacySource) :
    (db.importLegacy source).2.versions = db.versions := by
  rcases db.importLegacy_cases source with ⟨o, -, h⟩ | ⟨found, -, -, h⟩
  · rw [h]
  · rw [h, versions_commit]

theorem settings_importLegacy_eq_none (db : Database) (source : LegacySource) :
    (db.importLegacy source).2.settings = none ↔ db.settings = none := by
  rcases db.importLegacy_cases source with ⟨o, -, h⟩ | ⟨found, -, -, h⟩
  · rw [h]
  · rw [h, settings_commit_eq_none]

/-- After an import every key has the text that the import gives it, or what it had. -/
theorem cells?_importChanges {source : LegacySource} {found : List (String × String)}
    (h : source.collect legacyKeys = .ok found) (db : Database) (key : String) (user : UserId) :
    (db.commit (importChanges found)).2.cells? key user =
      (db.cells? key user).map fun cs =>
        match if user = .system then source.given? key else none with
        | some v => [.text v]
        | none => cs := by
  rw [cells?_commit]
  congr 1
  funext cs
  rw [importChanges, List.foldl_append, List.foldl_cons, List.foldl_nil]
  by_cases hu : user = .system
  · subst hu
    rw [source.foldl_onCells_collect h, LegacySource.given?, if_pos rfl]
    by_cases hk : key = importedKey <;> simp [Change.onCells, hk]
  · have others (c : Change) (hc : c ∈ found.map fun (k, v) => Change.write k .system v)
        (cs : List Cell) : c.onCells key user cs = cs := by
      obtain ⟨⟨k, v⟩, -, rfl⟩ := List.mem_map.mp hc
      exact Change.onCells_write_of_ne (.inr hu) v cs
    rw [foldl_onCells_of_forall others, if_neg hu]
    exact Change.onCells_write_of_ne (.inr hu) "true" cs

/-! ### Migration -/

/-- A database of the library's own version stays as it is. -/
theorem migrate_of_version (h : db.version = schemaVersion) : db.migrate = db := by
  simp [migrate, h]

theorem version_congr (h : db'.versions = db.versions) : db'.version = db.version := by
  rw [version, version, h]

end Database

end Keyguard
