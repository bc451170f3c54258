import Keyguard.Proofs.Credential.HashWrites
import Keyguard.Proofs.Credential.Patterns

/-!
# Failed writes of the pattern size

Writing the size of a pattern grid first commits the setting and then moves the pattern's hash to
the variant of the new size. The two are no transaction. Where the move fails, the new size stays,
so a failed write leaves everything as it was exactly if it failed for want of a settings table
(`failed_size_write_unchanged_iff`).

The store is any store here: its settings may have any rows, and there may be anything in the
places of its files and directories.
-/

namespace Keyguard

open FileTree

/-! ### Moves that fail -/

namespace Layout

variable {l : Layout} {t t' : FileTree} {u : UserId} {v w : GridVariant}

/-- A pattern cannot be moved if its file cannot be read, and then nothing happens, or if a
directory is in the place that it is moved to, and then its file has been emptied. -/
theorem movePattern_error {policy : UnreadablePolicy} {fault : IoFault}
    (failed : (HashFiles.mk l policy).movePattern u v w t = .error fault t') :
    t.read (l.file u (.pattern v)).names = .error fault ∧ t' = t ∨
      t.at? (l.file u (.pattern w)).names = some .directory ∧ fault = .isADirectory ∧
        ∃ hash, hash ≠ [] ∧ t.read (l.file u (.pattern v)).names = .ok hash ∧
          t'.read (l.file u (.pattern v)).names = .ok [] := by
  rcases (HashFiles.mk l policy).movePattern_cases u v w t with
    ⟨done, -⟩ | ⟨fault₁, refused, unreadable⟩ |
    ⟨hash, t₁, -, full, readable, emptied, ⟨done, -⟩ | ⟨lost, directory⟩⟩
  · exact absurd (failed.symm.trans done) nofun
  · obtain ⟨rfl, rfl⟩ := EStateM.Result.error.inj (failed.symm.trans refused)
    exact .inl ⟨unreadable, rfl⟩
  · exact absurd (failed.symm.trans done) nofun
  · obtain ⟨rfl, rfl⟩ := EStateM.Result.error.inj (failed.symm.trans lost)
    exact .inr ⟨directory, rfl, hash, full, readable, emptied⟩

end Layout

/-- The call that writes a value as a setting. -/
def SettingValue.writing (value : SettingValue) (key : String) (u : UserId) : Call :=
  match value with
  | .boolean b => .setBoolean key b u
  | .long i => .setLong key i u
  | .text s => .setString key s u

namespace Store

variable {s s' : Store} {value : SettingValue} {u : UserId} {e : StoreError}

/-- Whether two states of a store have the same rows and the same in the files of a user's
pattern, and tell the system the same of that pattern. -/
structure SamePattern (u : UserId) (s s' : Store) : Prop where
  rows : s'.database.rows = s.database.rows
  files : ∀ v, s'.files.read (s.layout.file u (.pattern v)).names =
    s.files.read (s.layout.file u (.pattern v)).names
  size : (outcome (perform .system (.getLockPatternSize u)) s').1 =
    (outcome (perform .system (.getLockPatternSize u)) s).1
  check : ∀ candidate, (outcome (perform .system (.checkPattern candidate u)) s').1 =
    (outcome (perform .system (.checkPattern candidate u)) s).1

/-- The locks after the lock of a user's pattern was taken and given back. -/
private def relocked (s : Store) (u : UserId) : LockRegistry :=
  (s.locks.acquireAll [⟨u, .credential .pattern⟩]).releaseAll [⟨u, .credential .pattern⟩]

/-- Without a settings table a write of the pattern size fails and touches nothing but locks. -/
private theorem writePatternSize_of_no_table (none : s.database.settings = none) :
    outcome (writePatternSize value u) s =
      (.error (.database .missingTable), { s with locks := s.relocked u }) := by
  rw [writePatternSize, outcome_withLocks]
  simp only [outcome_bind, outcome_reading, outcome_commit,
    Database.commit_of_no_table none (List.cons_ne_nil _ _)]
  rfl

/-- With a settings table the size is written, and then the pattern is moved. -/
private theorem writePatternSize_of_table {t : SettingsTable}
    (table : s.database.settings = some t) (db : Database)
    (written : db = { s.database with
      settings := some (t.write patternSizeKey u value.stored) }) :
    outcome (writePatternSize value u) s =
      match s.hashes.movePattern u (s.variant u) (db.variant u) s.files with
      | .ok () files => (.ok (), { s with database := db, files, locks := s.relocked u })
      | .error fault files =>
        (.error (.io fault), { s with database := db, files, locks := s.relocked u }) := by
  have committed : ∃ n, s.database.commit [.write patternSizeKey u value.stored] = (.ok n, db) := by
    rw [written]
    exact Database.commit_of_table table _
  obtain ⟨n, committed⟩ := committed
  rw [writePatternSize, outcome_withLocks]
  simp only [outcome_bind, outcome_reading, outcome_commit, committed, Except.map,
    outcome.eq_1 (Store.onFiles _), Store.onFiles, Store.variant, Store.hashes, Store.layout]
  cases HashFiles.movePattern _ u (s.database.variant u) (db.variant u) s.files <;> rfl

/-- A write of the pattern size ends like a write of that setting. -/
private theorem outcome_writing (s : Store) (value : SettingValue) (u : UserId) :
    outcome (perform .system (value.writing patternSizeKey u)) s =
      ((outcome (writePatternSize value u) s).1.map fun _ => .done,
        (outcome (writePatternSize value u) s).2) := by
  have answered : answer (value.writing patternSizeKey u) =
      (do writePatternSize value u; return .done) := by
    cases value <;> rfl
  rw [perform_system, answered, outcome_bind]
  generalize outcome (writePatternSize value u) s = x
  obtain ⟨result, s₁⟩ := x
  cases result <;> rfl

/-! ### What the system is told -/

private theorem outcome_getLockPatternSize (s : Store) (u : UserId) :
    (outcome (perform .system (.getLockPatternSize u)) s).1 =
      .ok (.size (s.database.patternSize u)) := by
  rw [perform_system]
  rfl

private theorem outcome_checkPattern (s : Store) (candidate : Bytes) (u : UserId) :
    (outcome (perform .system (.checkPattern candidate u)) s).1 =
      (s.hashes.check .pattern candidate u (s.variant u) s.files).map .boolean := by
  rw [perform_system]
  exact outcome_reading_locked _ s fun _ => rfl

/-- A change of the variant shows in the rows. -/
private theorem variant_eq_of_rows {db db' : Database} (table : db.settings ≠ none)
    (table' : db'.settings ≠ none) (same : db'.rows = db.rows) (u : UserId) :
    db'.variant u = db.variant u := by
  obtain ⟨t, ht⟩ := Option.ne_none_iff_exists'.mp table
  obtain ⟨t', ht'⟩ := Option.ne_none_iff_exists'.mp table'
  have rows : t'.rows = t.rows := by
    simpa only [Database.rows, ht, ht', Option.map_some, Option.getD_some] using same
  refine Database.variant_congr ?_
  rw [Database.cells?, Database.cells?, ht, ht', Option.map_some, Option.map_some,
    SettingsTable.cells, SettingsTable.cells, rows]

/-- **Failed writes of the pattern size.** Whatever the rows and the files of a store, a write of
a user's pattern size that fails leaves the rows, the user's pattern files and all that the system
is told of the pattern as they were exactly if there is no settings table. -/
theorem failed_size_write_unchanged_iff
    (failed : outcome (perform .system (value.writing patternSizeKey u)) s = (.error e, s')) :
    SamePattern u s s' ↔ s.database.settings = none := by
  rw [outcome_writing, Prod.mk.injEq] at failed
  obtain ⟨fault, left⟩ := failed
  constructor
  · intro same
    by_cases table : s.database.settings = none
    · exact table
    · obtain ⟨t, ht⟩ := Option.ne_none_iff_exists'.mp table
      let db : Database :=
        { s.database with settings := some (t.write patternSizeKey u value.stored) }
      rw [writePatternSize_of_table ht db rfl] at fault left
      -- the variant cannot have changed, and then there was nothing to move
      have unmoved : s.hashes.movePattern u (s.variant u) (db.variant u) s.files =
          .ok () s.files := by
        have rows : db.rows = s.database.rows := by
          rw [← same.rows, ← left]
          cases s.hashes.movePattern u (s.variant u) (db.variant u) s.files <;> rfl
        have still : s.variant u = db.variant u :=
          (variant_eq_of_rows table (Option.some_ne_none _) rows u).symm
        rw [HashFiles.movePattern, if_pos still]
      rw [unmoved] at fault
      exact absurd fault (by simp [Except.map])
  · intro none
    rw [writePatternSize_of_no_table none] at left
    obtain rfl : { s with locks := s.relocked u } = s' := left
    refine ⟨rfl, fun _ => rfl, ?_, fun candidate => ?_⟩
    · rw [outcome_getLockPatternSize, outcome_getLockPatternSize]
    · rw [outcome_checkPattern, outcome_checkPattern]
      rfl

/-- A write that fails for want of a settings table leaves everything as it was. -/
theorem failed_size_write_of_lost_table :
    let s : Store := ⟨{ Connection.fresh with database := ⟨none, some [1]⟩ },
      .ofDataDir ⟨"data"⟩, rankByDistance, .empty, .empty⟩
    let act := perform .system (.setLong patternSizeKey 4 ⟨1⟩)
    (outcome act s).1 = .error (.database .missingTable) ∧
      SamePattern ⟨1⟩ s (outcome act s).2 := by
  intro s act
  have failed : outcome (perform .system ((SettingValue.long 4).writing patternSizeKey ⟨1⟩)) s =
      (.error (.database .missingTable), (outcome act s).2) := rfl
  exact ⟨rfl, (failed_size_write_unchanged_iff failed).mpr rfl⟩

/-- Where a directory is in the place of the other file, a write that fails has stored the size,
and the pattern is lost. -/
theorem failed_size_write_loses_pattern :
    let users : Place := ["data", "system", "users", "1"]
    let t : FileTree := ⟨[(users ++ ["gesture.key"], .file [0xaa]),
      (users ++ ["cm_gesture.key"], .directory), (users, .directory)]⟩
    let s : Store := ⟨{ Connection.fresh with database := ⟨some ⟨[], true⟩, some [1]⟩ },
      .ofDataDir ⟨"data"⟩, rankByDistance, t, .empty⟩
    let act := perform .system (.setLong patternSizeKey 4 ⟨1⟩)
    (outcome act s).1 = .error (.io .isADirectory) ∧
      (outcome (perform .system (.getLockPatternSize ⟨1⟩)) s).1 = .ok (.size 3) ∧
      (outcome (perform .system (.getLockPatternSize ⟨1⟩)) (outcome act s).2).1 =
        .ok (.size 4) ∧
      s.files.read (users ++ ["gesture.key"]) = .ok [0xaa] ∧
      (outcome act s).2.files.read (users ++ ["gesture.key"]) = .ok [] := by
  decide +kernel

/-- With a settings table a failed write has stored the size. The pattern's file is either
unreadable and as it was, or it was emptied, since a directory is in the place of the other. -/
theorem failed_size_write_leaves {t : SettingsTable} (table : s.database.settings = some t)
    (failed : outcome (perform .system (value.writing patternSizeKey u)) s = (.error e, s')) :
    s'.database.settings = some (t.write patternSizeKey u value.stored) ∧
      ∃ fault, e = .io fault ∧
        (s.files.read (s.layout.file u (.pattern (s.variant u))).names = .error fault ∧
            s'.files = s.files ∨
          s.files.at? (s.layout.file u (.pattern (s'.variant u))).names = some .directory ∧
            fault = .isADirectory ∧ ∃ hash, hash ≠ [] ∧
              s.files.read (s.layout.file u (.pattern (s.variant u))).names = .ok hash ∧
              s'.files.read (s.layout.file u (.pattern (s.variant u))).names = .ok []) := by
  rw [outcome_writing, Prod.mk.injEq] at failed
  obtain ⟨result, left⟩ := failed
  let db : Database :=
    { s.database with settings := some (t.write patternSizeKey u value.stored) }
  rw [writePatternSize_of_table table db rfl] at result left
  cases moved : s.hashes.movePattern u (s.variant u) (db.variant u) s.files with
  | ok _ files =>
    rw [moved] at result
    exact absurd result (by simp [Except.map])
  | error fault files =>
    rw [moved] at result left
    obtain rfl : StoreError.io fault = e := Except.error.inj result
    obtain rfl : { s with database := db, files, locks := s.relocked u } = s' := left
    exact ⟨rfl, fault, rfl, Layout.movePattern_error moved⟩

end Store

end Keyguard
