import Keyguard.Proofs.Store.Reopening

/-!
# Migrations of the schema

A migration reads the version of a database and then runs up to four **statements**, each by itself
(`Database.statements`). A statement fails where the table that it needs does not exist.

* No statement of a migration fails, and a migration that was interrupted between two of them is
  completed by the next one (`Database.run_take_statements`).
* The only version that a migration may add is the library's own (`Database.mem_versions_migrate`),
  so the greatest one never becomes less, and neither does the version that is read
  (`Database.version_le_version_migrate`).
* **Created once.** If all versions are within 32 bits, the version that is read after a migration
  is at least the library's own. Whoever opens the database again, whatever has become of its
  settings, is told that there was one (`Layout.openDatabase_close`).
-/

namespace Keyguard

open FileTree Layout

/-! ### Statements -/

/-- A statement that changes the schema. -/
inductive SchemaStatement where
  | createSettings
  | createIndex
  | createVersions
  | insertVersion (v : Int)
  deriving DecidableEq

/-- Runs a statement. What exists is not created again, and a version that is there is not added.
An index needs its table, and so does a version. -/
def SchemaStatement.run (db : Database) : SchemaStatement → Except DatabaseFault Database
  | .createSettings => .ok { db with settings := some (db.settings.getD ⟨[], false⟩) }
  | .createIndex =>
    match db.settings with
    | some t => .ok { db with settings := some { t with indexed := true } }
    | none => .error .missingTable
  | .createVersions => .ok { db with versions := some (db.versions.getD []) }
  | .insertVersion v =>
    match db.versions with
    | some vs => .ok { db with versions := some (if v ∈ vs then vs else vs ++ [v]) }
    | none => .error .missingTable

namespace Database

variable {db db' : Database}

/-- The statements of a migration, which are decided by the version at its start. -/
def statements (db : Database) : List SchemaStatement :=
  (if db.version < schemaVersion then [.createSettings, .createIndex] else []) ++
    if db.version = schemaVersion then [] else [.createVersions, .insertVersion schemaVersion]

/-- Runs some statements one after the other. -/
def runStatements (db : Database) (ss : List SchemaStatement) : Except DatabaseFault Database :=
  ss.foldlM SchemaStatement.run db

/-! ### What a migration leaves -/

/-- What a migration leaves, table by table. -/
theorem migrate_eq (db : Database) :
    db.migrate =
      { settings :=
          if db.version < schemaVersion then
            some { db.settings.getD ⟨[], false⟩ with indexed := true }
          else db.settings
        versions :=
          if db.version = schemaVersion then db.versions
          else some (if schemaVersion ∈ db.versions.getD [] then db.versions.getD []
            else db.versions.getD [] ++ [schemaVersion]) } := by
  rw [migrate]
  by_cases below : db.version < schemaVersion
  · have other : db.version ≠ schemaVersion := Int.ne_of_lt below
    simp only [if_pos below, if_neg other]
    rfl
  · by_cases own : db.version = schemaVersion
    · simp only [if_neg below, if_pos own]
    · simp only [if_neg below, if_neg own]
      rfl

/-- A migration changes no setting. -/
theorem rows_migrate (db : Database) : db.migrate.rows = db.rows := by
  rw [migrate_eq, rows, rows]
  split
  · cases db.settings <;> rfl
  · rfl

/-! ### Versions -/

/-- The greatest version, if there is one. -/
def greatest? (db : Database) : Option Int := db.versions.bind List.max?

/-- The version that is read where the greatest one is known. -/
theorem version_eq (db : Database) :
    db.version = match db.greatest? with
      | none => 0
      | some v => if Int32.minValue.toInt ≤ v ∧ v ≤ Int32.maxValue.toInt then v else 0 := rfl

theorem greatest?_eq_some_iff {v : Int} :
    db.greatest? = some v ↔ v ∈ db.versions.getD [] ∧ ∀ w ∈ db.versions.getD [], w ≤ v := by
  rw [greatest?]
  cases db.versions with
  | none => simp
  | some vs => exact List.max?_eq_some_iff

theorem greatest?_eq_none_iff : db.greatest? = none ↔ db.versions.getD [] = [] := by
  rw [greatest?]
  cases db.versions with
  | none => simp
  | some vs => exact List.max?_eq_none_iff

/-- A table of versions without any says as little as none. -/
theorem version_of_getD (h : db'.versions.getD [] = db.versions.getD []) :
    db'.version = db.version := by
  have read (db : Database) : db.greatest? = (db.versions.getD []).max? := by
    rw [greatest?]
    cases db.versions <;> rfl
  rw [version_eq, version_eq, read, read, h]

/-- The library's own version is read only where it is there. -/
theorem mem_of_version_eq (h : db.version = schemaVersion) :
    schemaVersion ∈ db.versions.getD [] := by
  rw [version_eq] at h
  cases found : db.greatest? with
  | none =>
    rw [found] at h
    exact absurd h (by decide)
  | some v =>
    rw [found] at h
    dsimp only at h
    split at h
    · exact h ▸ (greatest?_eq_some_iff.mp found).1
    · exact absurd h (by decide)

/-- The library's own version is recorded. No other is added, and none goes away. -/
theorem versions_migrate (db : Database) :
    db.migrate.versions.getD [] =
      if schemaVersion ∈ db.versions.getD [] then db.versions.getD []
      else db.versions.getD [] ++ [schemaVersion] := by
  rw [migrate_eq]
  by_cases own : db.version = schemaVersion
  · rw [if_pos own, if_pos (mem_of_version_eq own)]
  · rw [if_neg own]
    rfl

theorem mem_versions_migrate {v : Int} :
    v ∈ db.migrate.versions.getD [] ↔ v ∈ db.versions.getD [] ∨ v = schemaVersion := by
  rw [versions_migrate]
  split
  · refine ⟨.inl, fun h => h.elim id ?_⟩
    rintro rfl
    assumption
  · rw [List.mem_append, List.mem_singleton]

/-- The greatest version becomes the library's own if it was less, and stays otherwise. -/
theorem greatest?_migrate (db : Database) :
    db.migrate.greatest? = some (max (db.greatest?.getD schemaVersion) schemaVersion) := by
  refine greatest?_eq_some_iff.mpr ?_
  simp only [mem_versions_migrate]
  cases found : db.greatest? with
  | none =>
    have none : ∀ w, w ∉ db.versions.getD [] := by
      intro w mem
      rw [greatest?_eq_none_iff.mp found] at mem
      exact absurd mem List.not_mem_nil
    refine ⟨.inr rfl, ?_⟩
    rintro w (mem | rfl)
    · exact absurd mem (none w)
    · exact Int.le_refl _
  | some v =>
    obtain ⟨mem, bound⟩ := greatest?_eq_some_iff.mp found
    rw [Option.getD_some]
    refine ⟨?_, ?_⟩
    · rcases Int.le_total v schemaVersion with le | ge
      · exact .inr (Int.max_eq_right le)
      · exact .inl ((Int.max_eq_left ge).symm ▸ mem)
    · rintro w (mem | rfl)
      · exact Int.le_trans (bound w mem) (Int.le_max_left v _)
      · exact Int.le_max_right v _

/-- Whether all versions are within 32 bits. -/
def VersionsFit (db : Database) : Prop :=
  ∀ v ∈ db.versions.getD [], Int32.minValue.toInt ≤ v ∧ v ≤ Int32.maxValue.toInt

instance (db : Database) : Decidable db.VersionsFit :=
  inferInstanceAs (Decidable (∀ v ∈ db.versions.getD [], _))

/-- A migration never lowers the version that is read. -/
theorem version_le_version_migrate (db : Database) : db.version ≤ db.migrate.version := by
  have least : Int32.minValue.toInt = -2147483648 := rfl
  have greatest : Int32.maxValue.toInt = 2147483647 := rfl
  have own : schemaVersion = 1 := rfl
  rw [version_eq, version_eq, greatest?_migrate]
  cases db.greatest? with
  | none => decide
  | some v =>
    rw [Option.getD_some, least, greatest, own]
    dsimp only
    split <;> split <;> omega

/-- After a migration the version that is read is the library's own or a later one, unless there is
one beyond 32 bits. -/
theorem schemaVersion_le_version_migrate (fit : db.VersionsFit) :
    schemaVersion ≤ db.migrate.version := by
  have least : Int32.minValue.toInt = -2147483648 := rfl
  have greatest : Int32.maxValue.toInt = 2147483647 := rfl
  have own : schemaVersion = 1 := rfl
  rw [version_eq, greatest?_migrate]
  cases found : db.greatest? with
  | none => decide
  | some v =>
    have bounds := fit v (greatest?_eq_some_iff.mp found).1
    rw [least, greatest] at bounds
    rw [Option.getD_some, least, greatest, own]
    dsimp only
    split <;> omega

/-- A migration from below the library's own version leaves the table of settings and its index. -/
theorem settings_migrate (below : db.version < schemaVersion) :
    db.migrate.settings = some { db.settings.getD ⟨[], false⟩ with indexed := true } := by
  rw [migrate_eq]
  exact if_pos below

/-- A second migration changes nothing. -/
theorem migrate_migrate (db : Database) : db.migrate.migrate = db.migrate := by
  have settings : (if db.migrate.version < schemaVersion then
      some { db.migrate.settings.getD ⟨[], false⟩ with indexed := true }
      else db.migrate.settings) = db.migrate.settings := by
    split
    · rename_i below
      rw [settings_migrate (Int.lt_of_le_of_lt (version_le_version_migrate db) below)]
      rfl
    · rfl
  have there : schemaVersion ∈ db.migrate.versions.getD [] := mem_versions_migrate.mpr (.inr rfl)
  have versions : some (db.migrate.versions.getD []) = db.migrate.versions := by
    cases table : db.migrate.versions with
    | none =>
      rw [table] at there
      exact absurd there List.not_mem_nil
    | some vs => rfl
  rw [migrate_eq db.migrate, settings, if_pos there, versions, ite_self]

/-! ### Runs of statements -/

/-- No statement of a migration fails, and together they are the migration. -/
theorem runStatements_statements (db : Database) :
    db.runStatements db.statements = .ok db.migrate := by
  rw [runStatements, statements, migrate_eq]
  by_cases below : db.version < schemaVersion
  · have other : db.version ≠ schemaVersion := Int.ne_of_lt below
    simp only [if_pos below, if_neg other]
    rfl
  · by_cases own : db.version = schemaVersion
    · simp only [if_neg below, if_pos own]
      rfl
    · simp only [if_neg below, if_neg own]
      rfl

/-- Databases with the same versions are migrated alike if their settings tables come to the same
once they are created. -/
private theorem migrate_congr (other : db.version ≠ schemaVersion)
    (versions : db'.versions.getD [] = db.versions.getD [])
    (settings : (if db.version < schemaVersion then
        some { db'.settings.getD ⟨[], false⟩ with indexed := true } else db'.settings) =
      if db.version < schemaVersion then
        some { db.settings.getD ⟨[], false⟩ with indexed := true } else db.settings) :
    db'.migrate = db.migrate := by
  rw [migrate_eq db', migrate_eq db, version_of_getD versions, settings, versions, if_neg other,
    if_neg other]

/-- A migration that was interrupted is completed by the next one. -/
theorem run_take_statements (db : Database) (n : Nat) :
    ∃ db', db.runStatements (db.statements.take n) = .ok db' ∧ db'.migrate = db.migrate := by
  have all (h : db.statements.length ≤ n) : ∃ db',
      db.runStatements (db.statements.take n) = .ok db' ∧ db'.migrate = db.migrate := by
    rw [List.take_of_length_le h]
    exact ⟨db.migrate, runStatements_statements db, migrate_migrate db⟩
  by_cases below : db.version < schemaVersion
  · have other : db.version ≠ schemaVersion := Int.ne_of_lt below
    have four : db.statements =
        [.createSettings, .createIndex, .createVersions, .insertVersion schemaVersion] := by
      rw [statements, if_pos below, if_neg other]
      rfl
    rw [four] at all ⊢
    match n with
    | 0 => exact ⟨db, rfl, rfl⟩
    | 1 | 2 | 3 =>
      refine ⟨_, rfl, migrate_congr other rfl ?_⟩
      rw [if_pos below, if_pos below]
      rfl
    | n + 4 => exact all (Nat.le_add_left _ _)
  · by_cases own : db.version = schemaVersion
    · have none : db.statements = [] := by
        rw [statements, if_neg below, if_pos own]
        rfl
      rw [none] at all
      rw [none]
      exact all (Nat.zero_le _)
    · have two : db.statements = [.createVersions, .insertVersion schemaVersion] := by
        rw [statements, if_neg below, if_neg own]
        rfl
      rw [two] at all ⊢
      match n with
      | 0 => exact ⟨db, rfl, rfl⟩
      | 1 => exact ⟨_, rfl, migrate_congr own rfl rfl⟩
      | n + 2 => exact all (Nat.le_add_left _ _)

end Database

/-! ### Opening a database again -/

-- unification must not compute what a tree has at the places of a layout
attribute [local irreducible] FileTree.at?

/-- Whether closing puts the database into its file, which nobody removed. -/
def Connection.Restores (link : Connection) : Prop :=
  link.file = .kept ∨ link.file = .overwritten ∧ link.whole = true

/-- Closing such a connection leaves the database in its file and no journal. -/
theorem Connection.Restores.at_close {link : Connection} (h : link.Restores) (l : Layout)
    (t : FileTree) (q : Place) :
    (link.close l t).at? q = if q = l.database.names then some (.database link.database)
      else if q = l.journal.names then none else t.at? q := by
  rcases h with kept | ⟨overwritten, whole⟩
  · exact link.at_close kept l t q
  · have closed : link.close l t =
        (t.erase l.journal.names).put l.database.names (.database link.database) := by
      simp [close, overwritten, whole]
    rw [closed, at_put _ database_ne_nil, at_erase _ journal_ne_nil]

namespace Layout

variable {l : Layout} {t t' : FileTree} {link : Connection} {created : Bool}

/-- Spoiling a journal changes no other place, and directories stay. -/
private theorem spoilJournal_stays (l : Layout) (t : FileTree) :
    DirectoriesStay t (l.spoilJournal t) ∧
      (l.spoilJournal t).at? l.database.names = t.at? l.database.names := by
  unfold spoilJournal
  split
  · rename_i found
    refine ⟨fun q dir => ?_, ?_⟩
    · rw [at_put t journal_ne_nil, if_neg, dir]
      rintro rfl
      exact absurd (dir.symm.trans found) (by simp)
    · rw [at_put t journal_ne_nil, if_neg journal_ne_database.symm]
  · exact ⟨fun q dir => dir, rfl⟩

/-- Whoever attached to a database can close it again, and all directories stay. -/
theorem Attaches.restores (h : l.Attaches t link t') :
    link.Restores ∧ DirectoriesStay t t' ∧ t'.at? l.database.names ≠ some .directory := by
  obtain ⟨spoiled, spot⟩ := spoilJournal_stays l t
  have stay : DirectoriesStay t t := fun q dir => dir
  cases h with
  | created missing =>
    refine ⟨.inl rfl, fun q dir => ?_, ?_⟩
    · have elsewhere : q ≠ l.database.names := by
        rintro rfl
        exact absurd (dir.symm.trans missing) (by simp)
      rw [at_put _ database_ne_nil, if_neg elsewhere, spoiled q dir]
    · rw [at_put _ database_ne_nil, if_pos rfl]
      simp
  | filled empty => exact ⟨.inl rfl, spoiled, by rw [spot, empty]; simp⟩
  | found _ _ file => exact ⟨.inl rfl, stay, by rw [file]; simp⟩
  | recovered _ file => exact ⟨.inr ⟨rfl, rfl⟩, stay, file⟩

/-- A database that lies in its file without a journal is opened by migrating it. -/
theorem Openable.openDatabase (h : l.Openable t) {db : Database}
    (database : t.at? l.database.names = some (.database db))
    (journal : t.at? l.journal.names = none) :
    l.openDatabase t =
      .ok (db.version == 0, ⟨db.migrate, db, false, .kept, .useless⟩) t := by
  unfold Layout.openDatabase
  rw [h.directory]
  dsimp only
  rw [h.attach database journal]

/-- **Created once.** A database that was opened, whatever it is by then, is found when it is closed
and opened again, and it counts as created only if its version is read as zero. A directory in the
place of the journal would be in the way. -/
theorem openDatabase_close (opened : l.openDatabase t = .ok (created, link) t')
    (clear : t'.at? l.journal.names ≠ some .directory) (db : Database) :
    ∃ link' t'', l.openDatabase ({ link with database := db }.close l t') =
      .ok (db.version == 0, link') t'' ∧ link'.database = db.migrate := by
  obtain ⟨t₁, found, made, attached, -, rfl⟩ := openDatabase_eq_ok opened
  obtain ⟨path, short, way⟩ := attaches_of_eq_ok attached
  obtain ⟨restores, stay, free⟩ := way.restores
  have restores' : Connection.Restores { found with database := db } := restores
  have closed := restores'.at_close l t'
  have stay' : DirectoriesStay t₁ (Connection.close { found with database := db } l t') := by
    intro q dir
    have dir' := stay q dir
    rw [closed, if_neg, if_neg, dir']
    · rintro rfl
      exact clear dir'
    · rintro rfl
      exact free dir'
  have openable : l.Openable (Connection.close { found with database := db } l t') :=
    ⟨createAt_again made stay', follow_of_stay stay' path, short⟩
  have database := closed l.database.names
  have journal := closed l.journal.names
  rw [if_pos rfl] at database
  rw [if_neg journal_ne_database, if_pos rfl] at journal
  exact ⟨_, _, openable.openDatabase database journal, rfl⟩

end Layout

/-- **Migrating once is enough, and never goes back.** In whatever state the schema is, no statement
of a migration fails, an interrupted migration is completed by the next one, and a second one
changes nothing. All versions and settings stay, and the version that is read is not lowered. From
below the library's own version there are the settings table and its index afterwards. If all
versions are within 32 bits, the version that is read is the library's own or a later one, and a
database that was opened, whatever becomes of its settings, does not count as created when it is
opened again. -/
theorem Database.migrates_once_and_never_back (db : Database) :
    db.runStatements db.statements = .ok db.migrate ∧
      (∀ n, ∃ db', db.runStatements (db.statements.take n) = .ok db' ∧
        db'.migrate = db.migrate) ∧
      db.migrate.migrate = db.migrate ∧
      (db.migrate.versions.getD [] =
        if schemaVersion ∈ db.versions.getD [] then db.versions.getD []
        else db.versions.getD [] ++ [schemaVersion]) ∧
      db.migrate.rows = db.rows ∧
      db.version ≤ db.migrate.version ∧
      (db.version < schemaVersion →
        ∃ table, db.migrate.settings = some table ∧ table.indexed = true) ∧
      (db.VersionsFit → schemaVersion ≤ db.migrate.version ∧
        ∀ (l : Layout) (t t' : FileTree) (created : Bool) (link : Connection),
          l.openDatabase t = .ok (created, link) t' → link.database = db.migrate →
          t'.at? l.journal.names ≠ some .directory →
          ∀ db' : Database, db'.versions = db.migrate.versions →
            ∃ link' t'', l.openDatabase ({ link with database := db' }.close l t') =
              .ok (false, link') t'') := by
  refine ⟨runStatements_statements db, run_take_statements db, migrate_migrate db,
    versions_migrate db, rows_migrate db, version_le_version_migrate db, fun below => ?_,
    fun fit => ⟨schemaVersion_le_version_migrate fit, ?_⟩⟩
  · exact ⟨_, settings_migrate below, rfl⟩
  · intro l t t' created link opened _ clear db' same
    obtain ⟨link', t'', again, -⟩ := openDatabase_close opened clear db'
    have later : schemaVersion ≤ db'.version := by
      rw [version_congr same]
      exact schemaVersion_le_version_migrate fit
    have found : (db'.version == 0) = false := by
      have own : schemaVersion = 1 := rfl
      exact beq_false_of_ne (by omega)
    exact ⟨link', t'', found ▸ again⟩

/-- A database whose only version is zero counts as created when it is first opened. It then has a
settings table, and does not count as created again. -/
theorem version_zero_is_created_once :
    let l : Layout := ⟨⟨"data"⟩⟩
    let db : Database := ⟨none, some [0]⟩
    let t := ((FileTree.empty.put ["data"] .directory).put ["data", "system"] .directory).put
      l.database.names (.database db)
    db.VersionsFit ∧ db.version < schemaVersion ∧
      ∃ link t', l.openDatabase t = .ok (true, link) t' ∧ link.database = db.migrate ∧
        t'.at? l.journal.names ≠ some .directory ∧
        (∃ table, db.migrate.settings = some table ∧ table.indexed = true) ∧
        ∃ link' t'', l.openDatabase (link.close l t') = .ok (false, link') t'' := by
  intro l db t
  obtain ⟨-, -, -, -, -, -, created, once⟩ := db.migrates_once_and_never_back
  have fit : db.VersionsFit := by decide
  have below : db.version < schemaVersion := by decide
  have directory : createAt l.systemDir t = .ok () t := by
    have checked : l.systemDir.check = .ok () := by decide +kernel
    unfold createAt
    rw [checked]
    exact ensureDirectories_of_hasDirectoryAt (.inr (by decide +kernel))
  have openable : l.Openable t := ⟨directory, by decide +kernel, by decide +kernel⟩
  have database : t.at? l.database.names = some (.database db) := by decide +kernel
  have journal : t.at? l.journal.names = none := by decide +kernel
  have opened : l.openDatabase t =
      .ok (true, ⟨db.migrate, db, false, .kept, .useless⟩) t :=
    openable.openDatabase database journal
  have clear : t.at? l.journal.names ≠ some .directory := journal ▸ nofun
  exact ⟨fit, below, _, t, opened, rfl, clear, created below,
    (once fit).2 l t t true _ opened rfl clear db.migrate rfl⟩

end Keyguard
