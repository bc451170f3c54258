import Keyguard.Proofs.Store.Holdings
import Keyguard.Store.Session

/-!
# Trees at rest

Between two lives of a store its holdings lie in the tree (`Layout.holdings`). A tree is **at
rest** if it is tidy, has no journal, and at the place of the database nothing, an empty file or a
database of the library's own version.

Opening a store on a tree at rest gives a sound store that holds what the tree held, with the
schema and the first setting if there was no database (`Holdings.opened`), or it fails and leaves
what the tree held (`openWith_of_resting`). Closing a sound store leaves a tree at rest
(`close_resting`).
-/

namespace Keyguard

open FileTree

/-- The database that is found at a place, which is blank if there is none. -/
def Database.found : Option Node → Database
  | some (.database db) => db
  | _ => .blank

namespace Layout

variable {l : Layout} {t : FileTree}

/-- The database in a tree. -/
def stored (l : Layout) (t : FileTree) : Database := .found (t.at? l.database.names)

theorem stored_of_at {n : Option Node} (h : t.at? l.database.names = n) :
    l.stored t = .found n := by
  rw [stored, h]

/-- What a tree holds for a layout. -/
def holdings (l : Layout) (t : FileTree) : Holdings := ⟨l.stored t, l.contents t⟩

/-- Whether a store can be opened on a tree, as far as its own files decide. -/
structure Resting (l : Layout) (t : FileTree) : Prop extends l.Tidy t where
  journal : t.at? l.journal.names = none
  database : t.at? l.database.names = none ∨ t.at? l.database.names = some (.file []) ∨
    ∃ db, t.at? l.database.names = some (.database db) ∧ db.version = schemaVersion

/-- The database of a tree at rest is blank or has the library's own version. -/
theorem Resting.stored_cases (h : l.Resting t) :
    l.stored t = .blank ∨ (l.stored t).version = schemaVersion := by
  rcases h.database with e | e | ⟨db, e, version⟩
  · exact .inl (stored_of_at e)
  · exact .inl (stored_of_at e)
  · refine .inr ?_
    rw [stored_of_at e]
    exact version

/-! ### The file of the database -/

private theorem spoilJournal_of_none (h : t.at? l.journal.names = none) :
    l.spoilJournal t = t := by
  unfold spoilJournal
  rw [h]

/-- Whether a connection is one to the database that a tree holds, and a second tree is the first
with at most an empty file for the database more. -/
structure Attached (l : Layout) (t : FileTree) (link : Connection) (t' : FileTree) : Prop where
  database : link.database = l.stored t
  file : link.file = .kept
  way : t.blocked l.database.names = false
  others : ∀ q, q ≠ l.database.names → t'.at? q = t.at? q
  place : t'.at? l.database.names = t.at? l.database.names ∨
    t.at? l.database.names = none ∧ t'.at? l.database.names = some (.file [])

/-- A file that is empty or has a database can only be refused or opened. A journal matters to
files with a database only. -/
theorem attach_cases
    (file : t.at? l.journal.names = none ∧
        (t.at? l.database.names = none ∨ t.at? l.database.names = some (.file [])) ∨
      ∃ db, t.at? l.database.names = some (.database db)) :
    (∃ e, l.attach t = .error e t) ∨
      ∃ link t', l.attach t = .ok link t' ∧ l.Attached t link t' := by
  unfold attach
  cases hf : t.follow l.database with
  | error fault => exact .inl ⟨_, rfl⟩
  | ok place =>
    have way : t.blocked l.database.names = false := by
      rw [← eq_names_of_follow hf]
      exact blocked_of_follow hf
    rw [eq_names_of_follow hf]
    dsimp only
    split
    · exact .inl ⟨_, rfl⟩
    · refine .inr ?_
      rcases file with ⟨journal, none | empty⟩ | ⟨db, found⟩
      · have nonempty : l.database.names ≠ [] := database_ne_nil
        have put := at_put t nonempty (.file [])
        rw [none, spoilJournal_of_none journal]
        refine ⟨_, _, rfl, (stored_of_at none).symm, rfl, way, fun q hq => ?_, .inr ⟨none, ?_⟩⟩
        · rw [put, if_neg hq]
        · rw [put, if_pos rfl]
      · rw [empty, spoilJournal_of_none journal]
        exact ⟨_, _, rfl, (stored_of_at empty).symm, rfl, way, fun _ _ => rfl, .inl rfl⟩
      · rw [found]
        have stored := stored_of_at found
        have opened (link : Connection) (hd : link.database = db) (hk : link.file = .kept) :
            l.Attached t link t :=
          ⟨hd.trans stored.symm, hk, way, fun _ _ => rfl, .inl rfl⟩
        cases t.at? l.journal.names with
        | none => exact ⟨_, _, rfl, opened _ rfl rfl⟩
        | some n =>
          cases n with
          | journal whole =>
            cases whole with
            | none => exact ⟨_, _, rfl, opened _ rfl rfl⟩
            | some _ => exact ⟨_, _, rfl, opened _ rfl rfl⟩
          | _ => exact ⟨_, _, rfl, opened _ rfl rfl⟩

/-! ### Opening -/

end Layout

open Layout

/-- The holdings after a store with some configuration was opened on them. -/
def Holdings.opened (c : Config) (h : Holdings) : Holdings :=
  { h with database :=
      (h.database.migrate.commit (Store.seed c (h.database.version == 0))).2 }

/-- Opening changes nothing where the schema was up to date. -/
theorem Holdings.opened_of_version (c : Config) {h : Holdings}
    (version : h.database.version = schemaVersion) : h.opened c = h := by
  have nothing : Store.seed c (h.database.version == 0) = [] := by
    rw [version]
    rfl
  rw [opened, nothing, Database.migrate_of_version version, Database.commit_nil]

/-- What opening starts with can be written. -/
theorem commit_seed (c : Config) {db : Database}
    (h : db = .blank ∨ db.version = schemaVersion) :
    (∃ n, (db.migrate.commit (Store.seed c (db.version == 0))).1 = .ok n) ∧
      (db.migrate.commit (Store.seed c (db.version == 0))).2.version = schemaVersion := by
  have migrated : db.migrate.version = schemaVersion := by
    rcases h with rfl | h
    · rfl
    · rwa [Database.migrate_of_version h]
  refine ⟨?_, (Database.version_congr (Database.versions_commit _ _)).trans migrated⟩
  rcases h with rfl | h
  · have created : Database.blank.migrate.settings = some ⟨[], true⟩ := rfl
    obtain ⟨n, hn⟩ := Database.commit_of_table created (Store.seed c (Database.blank.version == 0))
    exact ⟨n, by rw [hn]⟩
  · have nothing : Store.seed c (db.version == 0) = [] := by
      rw [h]
      rfl
    exact ⟨0, by rw [nothing, Database.commit_nil]⟩

namespace Layout.Resting

variable {l : Layout} {t t' : FileTree}

/-- A tree at rest stays so when directories are added. -/
theorem createAt (h : l.Resting t) (direct : l.dataDir.IsDirect) :
    l.Resting (t.after (createAt l.systemDir)) ∧
      l.holdings (t.after (FileTree.createAt l.systemDir)) = l.holdings t := by
  have database := at_createAt_database direct t
  refine ⟨⟨h.toTidy.createAt direct, (at_createAt_journal direct t).trans h.journal, ?_⟩, ?_⟩
  · rw [database]
    exact h.database
  · rw [holdings, holdings, contents_createAt, stored, stored, database]

/-- Attaching to the database of a tree at rest fails, or it gives the database that the tree
holds, and the credential files can be reached. -/
theorem attach (h : l.Resting t) :
    (∃ e, l.attach t = .error e t) ∨
      ∃ link t', l.attach t = .ok link t' ∧ l.Attached t link t' := by
  refine attach_cases ?_
  rcases h.database with e | e | ⟨db, e, -⟩
  · exact .inl ⟨h.journal, .inl e⟩
  · exact .inl ⟨h.journal, .inr e⟩
  · exact .inr ⟨db, e⟩

end Layout.Resting

namespace Connection

variable {l : Layout} {link : Connection}

/-- An open database shows itself at its own places only. -/
theorem at_shown (link : Connection) (l : Layout) (t : FileTree) {q : Place}
    (database : q ≠ l.database.names) (journal : q ≠ l.journal.names) :
    (link.shown l t).at? q = t.at? q := by
  have withDatabase : (if link.file = .kept then
      t.put l.database.names (.database link.database) else t).at? q = t.at? q := by
    split
    · rw [at_put t database_ne_nil, if_neg database]
    · rfl
  unfold shown
  cases link.journal with
  | usable => exact (at_put _ journal_ne_nil _ q).trans ((if_neg journal).trans withDatabase)
  | useless => exact (at_put _ journal_ne_nil _ q).trans ((if_neg journal).trans withDatabase)
  | gone => exact withDatabase

/-- While nobody touched its file, an open database shows there what it is. -/
theorem at_shown_database (kept : link.file = .kept) (l : Layout) (t : FileTree) :
    (link.shown l t).at? l.database.names = some (.database link.database) := by
  have put := at_put t (database_ne_nil (l := l)) (.database link.database) l.database.names
  rw [if_pos rfl] at put
  have other (n : Node) (t : FileTree) :
      (t.put l.journal.names n).at? l.database.names = t.at? l.database.names := by
    rw [at_put t journal_ne_nil, if_neg journal_ne_database.symm]
  unfold shown
  rw [if_pos kept]
  cases link.journal with
  | usable => exact (other _ _).trans put
  | useless => exact (other _ _).trans put
  | gone => exact put

/-- A database that nobody touched is in its file once it is closed, and its journal is gone. -/
theorem at_close (kept : link.file = .kept) (l : Layout) (t : FileTree) (q : Place) :
    (link.close l t).at? q = if q = l.database.names then some (.database link.database)
      else if q = l.journal.names then none else t.at? q := by
  rw [close_of_kept kept, at_put _ database_ne_nil, at_erase _ journal_ne_nil]

/-- Closing a database that nobody touched leaves a tree at rest with that database. -/
theorem close_resting {t : FileTree} (tidy : l.Tidy t) (kept : link.file = .kept)
    (version : link.database.version = schemaVersion) :
    l.Resting (link.close l t) ∧ l.holdings (link.close l t) = ⟨link.database, l.contents t⟩ := by
  have agree (q : Place) (database : q ≠ l.database.names) (journal : q ≠ l.journal.names) :
      (link.close l t).at? q = t.at? q := by
    rw [at_close kept, if_neg database, if_neg journal]
  have database : (link.close l t).at? l.database.names = some (.database link.database) := by
    rw [at_close kept, if_pos rfl]
  have journal : (link.close l t).at? l.journal.names = none := by
    rw [at_close kept, if_neg journal_ne_database, if_pos rfl]
  refine ⟨⟨tidy.congr agree, journal, .inr (.inr ⟨_, database, version⟩)⟩, ?_⟩
  rw [Layout.holdings, stored_of_at database, contents_congr agree]
  rfl

end Connection

/-- Whoever attached to the database of a tidy tree can write credential files, and has changed
none. -/
theorem Layout.Attached.shown {l : Layout} {t t' : FileTree} {link : Connection}
    (attached : l.Attached t link t') (tidy : l.Tidy t) (link' : Connection) :
    l.Ready (link'.shown l t') ∧ l.contents (link'.shown l t') = l.contents t := by
  have agree (q : Place) (database : q ≠ l.database.names) (journal : q ≠ l.journal.names) :
      (link'.shown l t').at? q = t.at? q :=
    (link'.at_shown l t' database journal).trans (attached.others q database)
  exact ⟨Ready.congr ⟨tidy, attached.way⟩ agree, contents_congr agree⟩

namespace Store

variable {l : Layout} {t : FileTree}

/-- A store is opened on a tree at rest or refused. In both cases nothing is lost that the tree
held. -/
theorem openWith_of_resting {c : Config} (rest : (Layout.mk c.dataDir).Resting t)
    (direct : c.dataDir.IsDirect) (r : Recognizer) :
    (∃ e t', openWith c r t = .error e t' ∧ (Layout.mk c.dataDir).Resting t' ∧
        (Layout.mk c.dataDir).holdings t' = (Layout.mk c.dataDir).holdings t) ∨
      ∃ s t', openWith c r t = .ok s t' ∧ s.Sound c r ∧
        s.holdings = ((Layout.mk c.dataDir).holdings t).opened c := by
  unfold openWith
  cases c.validate with
  | error e => exact .inl ⟨e, t, rfl, rest, rfl⟩
  | ok _ =>
    generalize hl : Layout.mk c.dataDir = l at rest ⊢
    have dir : l.dataDir = c.dataDir := by rw [← hl]
    obtain ⟨rest₁, same₁⟩ := rest.createAt (dir ▸ direct)
    simp only [openDatabase]
    unfold FileTree.after at rest₁ same₁
    cases hc : FileTree.createAt l.systemDir t with
    | error fault t₁ =>
      rw [hc] at rest₁ same₁
      exact .inl ⟨_, t₁, rfl, rest₁, same₁⟩
    | ok _ t₁ =>
      rw [hc] at rest₁ same₁
      simp only at rest₁ same₁ ⊢
      rcases rest₁.attach with ⟨e, he⟩ | ⟨link, t₂, hlink, attached⟩
      · rw [he]
        exact .inl ⟨e, t₁, rfl, rest₁, same₁⟩
      · refine .inr ?_
        rw [hlink]
        simp only [attached.database]
        obtain ⟨⟨n, written⟩, version⟩ := commit_seed c rest₁.stored_cases
        have holdings := congrArg (Holdings.opened c) same₁
        generalize hx : (l.stored t₁).migrate.commit (seed c ((l.stored t₁).version == 0)) = x
          at written version
        obtain ⟨result, db⟩ := x
        obtain rfl : result = .ok n := written
        obtain ⟨ready, contents⟩ := attached.shown rest₁.toTidy { link with database := db }
        subst hl
        refine ⟨_, _, rfl, ⟨rfl, rfl, attached.file, version, ready⟩, ?_⟩
        rw [← holdings]
        simp only [Store.holdings, Holdings.opened, Layout.holdings, hx]
        exact congrArg (Holdings.mk db) contents

/-- Closing leaves a tree at rest that holds what the store held. -/
theorem close_resting {c : Config} {r : Recognizer} {s : Store} (sound : s.Sound c r) :
    (Layout.mk c.dataDir).Resting s.close ∧
      (Layout.mk c.dataDir).holdings s.close = s.holdings := by
  have layout : s.layout = ⟨c.dataDir⟩ := by rw [Store.layout, sound.config]
  rw [← layout]
  exact Connection.close_resting sound.ready.toTidy sound.file sound.version

end Store

end Keyguard
