import Keyguard.Proofs.Files.Lasting
import Keyguard.Proofs.Store.Runs
import Keyguard.Proofs.Store.Twins

/-!
# Opening a store again

A store that was opened on a tree at rest is **settled** (`Store.Settled`): beside being sound, it
has its database and a journal in their places, and its directories are there, so that a second
store could be opened. Calls keep a store settled (`Settled.perform`).

* **Reopening.** Whoever closes a settled store and opens it again succeeds, and the new store is a
  twin of the old one (`Settled.reopen`). So no call can tell whether the store was closed.
* **Refused once, refused again.** A store that could not be opened on a tree at rest cannot be
  opened on the tree that the attempt left (`openWith_error_again`).

All this writes only to the places of the database, its journal and the credential files
(`Layout.Own`), and creates directories.
-/

namespace Keyguard

open FileTree Layout

-- unification must not compute what a tree has at the places of a layout
attribute [local irreducible] FileTree.at?

namespace Layout

variable {l : Layout} {t t' : FileTree} {link : Connection} {q : Place}

/-- Whether a place is one of those that a store writes to. -/
def Own (l : Layout) (q : Place) : Prop :=
  q = l.database.names ∨ q = l.journal.names ∨ l.IsFile q

/-- Whether the directories are there that a store needs, and the path of its database can be
followed. -/
structure Openable (l : Layout) (t : FileTree) : Prop where
  directory : createAt l.systemDir t = .ok () t
  path : t.follow l.database = .ok l.database.names
  short : (Path.ofPlace l.database.names).text.utf8ByteSize ≤ longestDatabasePath

theorem Openable.of_stay (h : l.Openable t) (stay : DirectoriesStay t t') : l.Openable t' :=
  ⟨createAt_again h.directory stay, follow_of_stay stay h.path, h.short⟩

/-- The ways to attach to a database: it is created where no file is, or none with anything in it,
it is in its file, or its journal stands in for the file. -/
inductive Attaches (l : Layout) (t : FileTree) : Connection → FileTree → Prop
  | created (missing : t.at? l.database.names = none) :
    Attaches l t .fresh ((l.spoilJournal t).put l.database.names (.file []))
  | filled {content : Bytes} (empty : t.at? l.database.names = some (.file content)) :
    Attaches l t .fresh (l.spoilJournal t)
  | found {db : Database} (whole : Bool) {journal : JournalState} (there : journal ≠ .gone)
    (file : t.at? l.database.names = some (.database db)) :
    Attaches l t ⟨db, db, whole, .kept, journal⟩ t
  | recovered (db : Database) (file : t.at? l.database.names ≠ some .directory) :
    Attaches l t ⟨db, .blank, true, .overwritten, .usable⟩ t

/-- Whoever attached to a database could follow its path, and did so in one of these ways. -/
theorem attaches_of_eq_ok (h : l.attach t = .ok link t') :
    t.follow l.database = .ok l.database.names ∧
      (Path.ofPlace l.database.names).text.utf8ByteSize ≤ longestDatabasePath ∧
      l.Attaches t link t' := by
  unfold attach at h
  rcases followed : t.follow l.database with fault | place
  · rw [followed] at h
    exact absurd h (by simp)
  obtain rfl := eq_names_of_follow followed
  rw [followed] at h
  dsimp only at h
  split at h
  · exact absurd h (by simp)
  · rename_i short
    refine ⟨rfl, Nat.not_lt.mp short, ?_⟩
    have ways {link' : Connection} {t₁ : FileTree}
        (same : EStateM.Result.ok link' t₁ = (.ok link t' : EStateM.Result StoreError _ _))
        (way : l.Attaches t link' t₁) : l.Attaches t link t' := by
      injection same with same same'
      exact same ▸ same' ▸ way
    -- what is found decides whether somebody attaches, and then with which connection
    cases found : t.at? l.database.names with
    | none =>
      rw [found] at h
      exact ways h (.created found)
    | some n =>
      have other (file : n ≠ .directory) (db : Database) :
          l.Attaches t ⟨db, .blank, true, .overwritten, .usable⟩ t :=
        .recovered db (by rw [found]; exact fun e => file (Option.some.inj e))
      rw [found] at h
      generalize t.at? l.journal.names = beside at h
      rcases n with (_ | ⟨byte, _ | ⟨next, bytes⟩⟩) | _ | db | whole
      · exact ways h (.filled found)
      · exact ways h (.filled found)
      all_goals
        rcases beside with _ | _ | _ | _ | _ | db'
        all_goals first
          | exact ways h (.found _ (by decide) found)
          | exact ways h (other (by simp) _)
          | exact absurd h nofun

/-- Whoever attached to a database has a journal. -/
theorem Attaches.journal_ne_gone (h : l.Attaches t link t') : link.journal ≠ .gone := by
  cases h with
  | found _ there => exact there
  | _ => exact nofun

/-- Opening a database is creating its directory, attaching to it and migrating it. -/
theorem openDatabase_eq_ok {created : Bool}
    (opened : l.openDatabase t = .ok (created, link) t') :
    ∃ t₁ found, createAt l.systemDir t = .ok () t₁ ∧ l.attach t₁ = .ok found t' ∧
      created = (found.database.version == 0) ∧
      link = { found with database := found.database.migrate } := by
  unfold openDatabase at opened
  rcases made : createAt l.systemDir t with ⟨_, t₁⟩ | ⟨fault, t₁⟩
  · rw [made] at opened
    dsimp only at opened
    rcases attached : l.attach t₁ with ⟨found, t₂⟩ | ⟨e, t₂⟩
    · rw [attached] at opened
      injection opened with same same'
      obtain ⟨flag, connection⟩ := Prod.mk.inj same
      exact ⟨t₁, found, rfl, same' ▸ attached, flag.symm, connection.symm⟩
    · rw [attached] at opened
      exact absurd opened (by simp)
  · rw [made] at opened
    exact absurd opened (by simp)

/-- A database that lies in its file without a journal is attached to as it is. -/
theorem Openable.attach (h : l.Openable t) {db : Database}
    (database : t.at? l.database.names = some (.database db))
    (journal : t.at? l.journal.names = none) :
    l.attach t = .ok ⟨db, db, false, .kept, .useless⟩ t := by
  unfold Layout.attach
  rw [h.path]
  dsimp only
  rw [if_neg (Nat.not_lt.mpr h.short), database, journal]

end Layout

/-- Adding directories writes no file. -/
theorem FileTree.AddsDirectories.writesOnly {ps : List Place} {P : Place → Prop}
    {t t' : FileTree} (h : AddsDirectories ps t t') : WritesOnly P t t' :=
  fun q => (h q).imp_right fun added => .inl added.2

/-- A journal that is there is shown. -/
theorem Connection.at_shown_journal {link : Connection} (there : link.journal ≠ .gone)
    (l : Layout) (t : FileTree) :
    ∃ x, (link.shown l t).at? l.journal.names = some (.journal x) := by
  unfold shown
  rcases state : link.journal with _ | _ | _
  · exact ⟨_, by rw [at_put _ journal_ne_nil, if_pos rfl]⟩
  · exact ⟨_, by rw [at_put _ journal_ne_nil, if_pos rfl]⟩
  · exact absurd state there

namespace Store

variable {c : Config} {r : Recognizer} {s s' : Store} {t t' : FileTree} {e : StoreError}

/-! ### Settled stores -/

/-- Whether a store is sound and has all in place that opening it again takes. -/
structure Settled (c : Config) (r : Recognizer) (s : Store) : Prop extends s.Sound c r where
  valid : c.validate = .ok ()
  openable : s.layout.Openable s.files
  database : ∃ db, s.files.at? s.layout.database.names = some (.database db)
  journal : ∃ x, s.files.at? s.layout.journal.names = some (.journal x)
  shows : s.journal ≠ .gone

/-- Calls keep a store settled. -/
theorem Settled.perform (h : s.Settled c r) (caller : Caller) (call : Call) :
    (outcome (Store.perform caller call) s).2.Settled c r := by
  have leaves := (Steady.perform caller call).leaves s
  obtain ⟨-, sound, -⟩ := Mirrors.perform caller call s h.toSound
  refine ⟨sound, h.valid, ?_, ?_, ?_, ?_⟩
  · rw [leaves.layout]
    exact h.openable.of_stay fun q => leaves.files.directory
  · obtain ⟨db, found⟩ := h.database
    rw [leaves.layout]
    exact ⟨db, leaves.files.elsewhere (fun ⟨u, f, e⟩ => file_ne_database u f e.symm) found⟩
  · obtain ⟨x, found⟩ := h.journal
    rw [leaves.layout]
    exact ⟨x, leaves.files.elsewhere (fun ⟨u, f, e⟩ => file_ne_journal u f e.symm) found⟩
  · rw [leaves.connection]
    exact h.shows

/-- Closing a settled store writes to the places of its database and journal only. -/
theorem Settled.writesOnly_close (h : s.Settled c r) :
    WritesOnly s.layout.Own s.files s.close := by
  intro q
  rw [Store.close, Connection.at_close h.file]
  by_cases database : q = s.layout.database.names
  · obtain ⟨db, found⟩ := h.database
    refine .inr (.inr ⟨.inl database, ?_⟩)
    rw [database, found]
    simp
  · rw [if_neg database]
    by_cases journal : q = s.layout.journal.names
    · obtain ⟨x, found⟩ := h.journal
      refine .inr (.inr ⟨.inr (.inl journal), ?_⟩)
      rw [journal, found]
      simp
    · rw [if_neg journal]
      exact .inl rfl

/-! ### Opening -/

/-- What a store that was opened went through. -/
private theorem openWith_eq_ok (opened : openWith c r t = .ok s t') :
    c.validate = .ok () ∧ ∃ t₁ link t₂ db,
      createAt (Layout.mk c.dataDir).systemDir t = .ok () t₁ ∧
      (Layout.mk c.dataDir).attach t₁ = .ok link t₂ ∧
      s.toConnection = { link with database := db } ∧
      s.files = s.toConnection.shown ⟨c.dataDir⟩ t₂ := by
  unfold openWith at opened
  rcases valid : c.validate with e | _
  · rw [valid] at opened
    exact absurd opened (by simp)
  rw [valid] at opened
  dsimp only at opened
  rcases ready : (Layout.mk c.dataDir).openDatabase t with ⟨⟨created, link⟩, t₂⟩ | ⟨e, t₂⟩
  · rw [ready] at opened
    obtain ⟨t₁, found, made, attached, -, rfl⟩ := openDatabase_eq_ok ready
    dsimp only at opened
    split at opened
    · exact absurd opened (by simp)
    · injection opened with same
      rw [← same]
      exact ⟨rfl, t₁, found, t₂, _, made, attached, rfl, rfl⟩
  · rw [ready] at opened
    exact absurd opened (by simp)

/-- Attaching to the database of a tree at rest and showing it writes to its own places only. -/
private theorem writesOnly_shown {l : Layout} {link : Connection} (rest : l.Resting t)
    (attached : l.Attached t link t') (link' : Connection) :
    WritesOnly l.Own t (link'.shown l t') := by
  intro q
  by_cases database : q = l.database.names
  · refine .inr (.inr ⟨.inl database, ?_⟩)
    rw [database]
    rcases rest.database with e | e | ⟨db, e, -⟩ <;> rw [e] <;> simp
  · by_cases journal : q = l.journal.names
    · refine .inr (.inr ⟨.inr (.inl journal), ?_⟩)
      rw [journal, rest.journal]
      simp
    · rw [link'.at_shown l t' database journal, attached.others q database]
      exact .inl rfl

/-- A store that was opened on a tree at rest is settled, and nothing but its own places and
directories has changed. -/
theorem settled_of_openWith (rest : (Layout.mk c.dataDir).Resting t) (direct : c.dataDir.IsDirect)
    (opened : openWith c r t = .ok s t') :
    s.Settled c r ∧ WritesOnly (Layout.mk c.dataDir).Own t s.files := by
  have sound : s.Sound c r := by
    rcases openWith_of_resting rest direct r with ⟨e, t₁, failed, -⟩ | ⟨s₁, t₁, opened₁, sound, -⟩
    · exact absurd (opened.symm.trans failed) (by simp)
    · rw [opened] at opened₁
      injection opened₁ with same
      exact same ▸ sound
  have layout : s.layout = ⟨c.dataDir⟩ := by rw [Store.layout, sound.config]
  obtain ⟨valid, t₁, link, t₂, db, made, attached, connection, files⟩ := openWith_eq_ok opened
  obtain ⟨path, short, way⟩ := attaches_of_eq_ok attached
  have after₁ : t.after (createAt (Layout.mk c.dataDir).systemDir) = t₁ := by
    rw [FileTree.after, made]
  have rest₁ : (Layout.mk c.dataDir).Resting t₁ := after₁ ▸ (rest.createAt direct).1
  have added : WritesOnly (Layout.mk c.dataDir).Own t t₁ :=
    after₁ ▸ (at_createAt t (Layout.mk c.dataDir).systemDir).writesOnly
  have shown : WritesOnly (Layout.mk c.dataDir).Own t₁ s.files := by
    rcases rest₁.attach with ⟨e, failed⟩ | ⟨link', t₂', attached', at'⟩
    · exact absurd (attached.symm.trans failed) (by simp)
    · rw [attached] at attached'
      injection attached' with link_eq tree_eq
      rw [files]
      exact writesOnly_shown rest₁ (link_eq ▸ tree_eq ▸ at') s.toConnection
  have shows : s.journal ≠ .gone := by
    rw [connection]
    exact way.journal_ne_gone
  refine ⟨⟨sound, valid, ?_, ?_, ?_, shows⟩, added.trans shown⟩
  · rw [layout]
    exact ⟨createAt_again made fun q => shown.directory,
      follow_of_stay (fun q => shown.directory) path, short⟩
  · rw [layout, files]
    exact ⟨_, Connection.at_shown_database sound.file _ _⟩
  · rw [layout, files]
    exact Connection.at_shown_journal shows _ _

/-- **Reopening.** A settled store that is closed can be opened again, and the new store is a twin
of the old one. -/
theorem Settled.reopen (h : s.Settled c r) (direct : c.dataDir.IsDirect) :
    ∃ s' t', openWith c r s.close = .ok s' t' ∧ Twin s s' ∧ s'.Settled c r := by
  obtain rfl : s.config = c := h.config
  obtain rfl : s.recognizer = r := h.recognizer
  have rest : s.layout.Resting s.close := (close_resting h.toSound).1
  have closed (q : Place) : s.close.at? q =
      if q = s.layout.database.names then some (.database s.database)
      else if q = s.layout.journal.names then none else s.files.at? q :=
    s.toConnection.at_close h.file s.layout s.files q
  have openable : s.layout.Openable s.close :=
    h.openable.of_stay fun q => h.writesOnly_close.directory
  have database : s.close.at? s.layout.database.names = some (.database s.database) := by
    rw [closed, if_pos rfl]
  let link : Connection := ⟨s.database, s.database, false, .kept, .useless⟩
  let shown := link.shown s.layout s.close
  have opened : openWith s.config s.recognizer s.close =
      .ok ⟨link, s.config, s.recognizer, shown, .empty⟩ shown := by
    have made : createAt (Layout.mk s.config.dataDir).systemDir s.close = .ok () s.close :=
      openable.directory
    have attached : (Layout.mk s.config.dataDir).attach s.close = .ok link s.close :=
      openable.attach database rest.journal
    have migrated : s.database.migrate = s.database := Database.migrate_of_version h.version
    have nothing : seed s.config (s.database.version == 0) = [] := by
      rw [h.version]
      rfl
    unfold openWith
    simp only [h.valid, openDatabase, made, attached, link, migrated, nothing,
      Database.commit_nil]
    rfl
  refine ⟨_, _, opened, ⟨rfl, rfl, rfl, fun q database journal => ?_⟩,
    (settled_of_openWith rest direct opened).1⟩
  refine (link.at_shown s.layout s.close database journal).trans ?_
  rw [closed, if_neg database, if_neg journal]

/-- **Refused again.** A store that could not be opened on a tree at rest cannot be opened on the
tree that the attempt left, and that has more directories at most. -/
theorem openWith_error_again (rest : (Layout.mk c.dataDir).Resting t)
    (direct : c.dataDir.IsDirect) (failed : openWith c r t = .error e t') :
    (∃ e' t'', openWith c r t' = .error e' t'') ∧ WritesOnly (Layout.mk c.dataDir).Own t t' := by
  unfold openWith at failed ⊢
  rcases valid : c.validate with invalid | _
  · rw [valid] at failed
    injection failed with _ same
    exact ⟨⟨invalid, t', rfl⟩, same ▸ .refl _ t⟩
  rw [valid] at failed
  simp only [openDatabase] at failed ⊢
  have added : WritesOnly (Layout.mk c.dataDir).Own t
      (t.after (createAt (Layout.mk c.dataDir).systemDir)) :=
    (at_createAt t (Layout.mk c.dataDir).systemDir).writesOnly
  have rest₁ := (rest.createAt direct).1
  rw [FileTree.after] at added rest₁
  rcases made : createAt (Layout.mk c.dataDir).systemDir t with ⟨_, t₁⟩ | ⟨fault, t₁⟩
  · simp only [made] at failed added rest₁
    rcases rest₁.attach with ⟨e₁, refused⟩ | ⟨link, t₂, attached, at'⟩
    · rw [refused] at failed
      injection failed with _ same
      rw [← same, createAt_again made fun q dir => dir]
      dsimp only
      rw [refused]
      exact ⟨⟨_, _, rfl⟩, added⟩
    · -- what opening starts with can be written
      rw [attached] at failed
      simp only [at'.database] at failed
      obtain ⟨⟨n, written⟩, -⟩ := commit_seed c rest₁.stored_cases
      generalize ((Layout.mk c.dataDir).stored t₁).migrate.commit _ = x at failed written
      obtain ⟨result, db⟩ := x
      obtain rfl : result = .ok n := written
      exact absurd failed (by simp)
  · simp only [made] at failed added
    injection failed with _ same
    obtain ⟨fault', t₂, again⟩ := createAt_error_again made
    rw [← same, again]
    exact ⟨⟨_, _, rfl⟩, added⟩

end Store

/-! ### Vacant directories -/

/-- Nothing is in the places that a store writes to below an empty data directory. -/
theorem FileTree.Vacant.at_own {t : FileTree} {dir : Path} (vacant : t.Vacant dir) {q : Place}
    (own : (Layout.mk dir).Own q) : t.at? q = none := by
  refine vacant.at_of_systemDir ?_
  rcases own with rfl | rfl | ⟨u, f, rfl⟩
  · rw [names_database]
    exact List.prefix_append _ _
  · rw [names_journal]
    exact List.prefix_append _ _
  · rw [names_file]
    exact (systemDir_prefix_userDir u).trans (List.prefix_append _ _)

end Keyguard
