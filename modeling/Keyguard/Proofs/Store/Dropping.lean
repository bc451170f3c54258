import Keyguard.Proofs.Store.Runs

/-!
# Losing the settings table

Another program may drop the settings table, whether the store is open or closed. From then on it
is missing, and opening the store again does not bring it back.

Dropping keeps a session sound and takes at most the settings table from its holdings
(`Session.drop_step`). So what every step of an event preserves, and losing the table does as
well, holds after every run in which the table is dropped any number of times at any point
(`Session.faceAll_preserves`).
-/

namespace Keyguard

open FileTree

-- unification must not compute what a tree has at the places of a layout
attribute [local irreducible] FileTree.at?

/-- Drops the settings table. -/
def Database.dropSettings (db : Database) : Except DatabaseFault Database :=
  db.query fun _ => .ok { db with settings := none }

/-- What happens to a store and to its database. -/
inductive Incident where
  | event (e : Event)
  | dropping

namespace Session

/-- Follows an incident. The other program gets its answer for itself. -/
def face (l : Layout) (s : Session) : Incident → Reply × Session
  | .event e => s.handle e
  | .dropping => (none, (s.beside l (Layout.edit Database.dropSettings)).2)

/-- Follows some incidents in order. -/
def faceAll (l : Layout) (s : Session) : List Incident → List Reply × Session
  | [] => ([], s)
  | i :: is =>
    let (reply, s) := s.face l i
    let (replies, s) := s.faceAll l is
    (reply :: replies, s)

/-- The incidents of a list with their replies. -/
def incidents (l : Layout) (s : Session) (is : List Incident) : List (Incident × Reply) :=
  is.zip (s.faceAll l is).1

end Session

/-- Whether an incident keeps to a data directory. -/
def Incident.KeepsTo (dir : Path) : Incident → Prop
  | .event e => e.KeepsTo dir
  | .dropping => True

/-- The holdings without the settings table. -/
def Holdings.withoutTable (h : Holdings) : Holdings :=
  { h with database := { h.database with settings := none } }

theorem Holdings.withoutTable_mk (db : Database) (files : Contents) :
    (Holdings.mk db files).withoutTable = ⟨{ db with settings := none }, files⟩ := rfl

/-- What dropping the table can do to holdings. -/
def Holdings.Dropped (h h' : Holdings) : Prop :=
  h' = h ∨ h.database.version = schemaVersion ∧ h' = h.withoutTable

/-! ### Dropping the table -/

theorem Database.dropSettings_cases (db : Database) :
    (∃ fault, db.dropSettings = .error fault) ∨
      db.settings ≠ none ∧ db.dropSettings = .ok { db with settings := none } := by
  rw [dropSettings, query]
  cases db.settings with
  | none => exact .inl ⟨_, rfl⟩
  | some t => exact .inr ⟨by simp, rfl⟩

namespace Layout

variable {l : Layout} {t t' : FileTree} {link : Connection}

/-- A tree at rest to whose database somebody attached is at rest and holds what it held. -/
private theorem Attached.resting (attached : l.Attached t link t') (rest : l.Resting t) :
    l.Resting t' ∧ l.holdings t' = l.holdings t := by
  have journal : t'.at? l.journal.names = none :=
    (attached.others _ journal_ne_database).trans rest.journal
  have agree (q : Place) (database : q ≠ l.database.names) (_ : q ≠ l.journal.names) :
      t'.at? q = t.at? q := attached.others q database
  have tidy := rest.toTidy.congr agree
  have contents : l.contents t' = l.contents t := contents_congr agree
  rcases attached.place with same | ⟨none, empty⟩
  · refine ⟨⟨tidy, journal, same ▸ rest.database⟩, ?_⟩
    rw [holdings, stored, same, contents]
    rfl
  · refine ⟨⟨tidy, journal, .inr (.inl empty)⟩, ?_⟩
    rw [holdings, holdings, stored_of_at empty, stored_of_at none, contents]
    rfl

/-- Closing a database whose table was dropped. -/
private theorem Tidy.close_dropped (tidy : l.Tidy t) (link : Connection) (kept : link.file = .kept)
    {db : Database} (version : db.version = schemaVersion) :
    l.Resting (Connection.close { link with database := { db with settings := none } } l t) ∧
      l.holdings (Connection.close { link with database := { db with settings := none } } l t) =
        ⟨{ db with settings := none }, l.contents t⟩ :=
  Connection.close_resting tidy kept version

/-- Dropping the table of a database at rest. -/
private theorem drop_resting (rest : l.Resting t) :
    (∃ e t', l.edit Database.dropSettings t = .error e t' ∧ l.Resting t' ∧
        l.holdings t' = l.holdings t) ∨
      ∃ link t', l.edit Database.dropSettings t = .ok ((), link) t' ∧
        l.Resting (link.close l t') ∧ (l.holdings t).database.version = schemaVersion ∧
        l.holdings (link.close l t') = (l.holdings t).withoutTable := by
  unfold edit
  rcases rest.attach with ⟨e, he⟩ | ⟨link, t', hlink, attached⟩
  · exact .inl ⟨e, t, by rw [he], rest, rfl⟩
  · obtain ⟨rest', same⟩ := attached.resting rest
    rw [hlink]
    rcases link.database.dropSettings_cases with ⟨fault, hd⟩ | ⟨table, hd⟩
    · exact .inl ⟨.database fault, t', by simp only [hd], rest', same⟩
    · have version : (l.stored t).version = schemaVersion := by
        rcases rest.stored_cases with blank | version
        · rw [attached.database, blank] at table
          exact absurd rfl table
        · exact version
      rw [attached.database] at hd
      have contents : l.contents t' = l.contents t := congrArg Holdings.files same
      obtain ⟨closed, held⟩ := rest'.toTidy.close_dropped link attached.file version
      refine .inr ⟨_, t', by simp only [attached.database, hd], closed, version, held.trans ?_⟩
      rw [Layout.holdings, Holdings.withoutTable_mk, contents]

end Layout

namespace Store

variable {c : Config} {r : Recognizer} {s : Store}

/-- A sound store follows whoever left another database of the library's version in its file. -/
private theorem withFiles_sound (sound : s.Sound c r) {t : FileTree} {db : Database}
    (found : t.at? s.layout.database.names = some (.database db))
    (version : db.version = schemaVersion)
    (agree : ∀ q, q ≠ s.layout.database.names → q ≠ s.layout.journal.names →
      t.at? q = s.files.at? q) :
    (s.withFiles t).Sound c r ∧ (s.withFiles t).holdings = ⟨db, s.holdings.files⟩ := by
  have file : (s.withFiles t).file = .kept := by
    simp only [withFiles, Connection.following, found, sound.file]
    rfl
  have database : (s.withFiles t).database = db := by
    simp only [withFiles, Connection.following, found, sound.file, FileState.following]
  refine ⟨⟨sound.config, sound.recognizer, file, ?_, sound.ready.congr agree⟩, ?_⟩
  · rw [database]
    exact version
  · rw [Store.holdings, database]
    exact congrArg (Holdings.mk db) (Layout.contents_congr agree)

/-- The same where the other program shares the database and shows it. -/
private theorem withFiles_shown (sound : s.Sound c r) (link : Connection)
    (kept : link.file = .kept) (version : link.database.version = schemaVersion) {t : FileTree}
    (agree : ∀ q, q ≠ s.layout.database.names → q ≠ s.layout.journal.names →
      t.at? q = s.files.at? q) :
    (s.withFiles (link.shown s.layout t)).Sound c r ∧
      (s.withFiles (link.shown s.layout t)).holdings = ⟨link.database, s.holdings.files⟩ :=
  withFiles_sound sound (Connection.at_shown_database kept s.layout t) version
    fun q database journal => (link.at_shown s.layout t database journal).trans
      (agree q database journal)

/-- What another program's dropping of the table leaves of an open store. -/
private theorem drop_opened (sound : s.Sound c r) :
    ∃ s' : Store, ((Session.opened s).beside s.layout (Layout.edit Database.dropSettings)).2 =
      .opened s' ∧ s'.Sound c r ∧ s.holdings.Dropped s'.holdings := by
  have state : (Session.opened s).databaseFile? s.layout = some .kept := by
    rw [Session.databaseFile?, if_pos rfl, sound.file]
  have found : s.shown.at? s.layout.database.names = some (.database s.database) :=
    Connection.at_shown_database sound.file s.layout s.files
  have shown (q : Place) (database : q ≠ s.layout.database.names)
      (journal : q ≠ s.layout.journal.names) : s.shown.at? q = s.files.at? q :=
    s.toConnection.at_shown s.layout s.files database journal
  have same {t : FileTree} (ht : ∀ q, t.at? q = s.shown.at? q) :
      (s.withFiles t).Sound c r ∧ s.holdings.Dropped (s.withFiles t).holdings := by
    obtain ⟨sound', held⟩ := withFiles_sound sound ((ht _).trans found) sound.version
      fun q database journal => (ht q).trans (shown q database journal)
    exact ⟨sound', .inl held⟩
  unfold Session.beside
  rw [state]
  unfold Layout.edit Session.files
  rcases Layout.attach_cases (.inr ⟨_, found⟩) with ⟨e, he⟩ | ⟨link, t, hlink, attached⟩
  · simp only [he]
    exact ⟨_, rfl, same fun _ => rfl⟩
  · have unchanged (q : Place) : t.at? q = s.shown.at? q := by
      by_cases hq : q = s.layout.database.names
      · rw [hq]
        rcases attached.place with e | ⟨none, -⟩
        · exact e
        · rw [found] at none
          exact absurd none (by simp)
      · exact attached.others q hq
    have database : link.database = s.database := by
      rw [attached.database, Layout.stored_of_at found]
      rfl
    simp only [hlink, database]
    rcases s.database.dropSettings_cases with ⟨fault, hd⟩ | ⟨-, hd⟩
    · simp only [hd]
      exact ⟨_, rfl, same unchanged⟩
    · simp only [hd, true_or, if_true, Session.withFiles]
      obtain ⟨sound', held⟩ := withFiles_shown sound
        { link with database := { s.database with settings := none } } attached.file sound.version
        fun q database journal => (unchanged q).trans (shown q database journal)
      refine ⟨_, rfl, sound', .inr ⟨sound.version, held.trans ?_⟩⟩
      rw [Store.holdings, Holdings.withoutTable_mk]

end Store

namespace Session

variable {dir : Path} {s : Session}

/-- Dropping the table keeps a session sound and takes at most the table. -/
theorem drop_step (sound : s.Sound dir) :
    (s.face ⟨dir⟩ .dropping).2.Sound dir ∧
      (s.holdings dir).Dropped ((s.face ⟨dir⟩ .dropping).2.holdings dir) := by
  cases s with
  | closed t =>
    have state : (Session.closed t).databaseFile? ⟨dir⟩ = none := rfl
    unfold face beside
    rw [state]
    rcases Layout.drop_resting sound with
      ⟨e, t', edited, rest, held⟩ | ⟨link, t', edited, rest, version, held⟩
    · simp only [files, edited]
      exact ⟨rest, .inl held⟩
    · simp only [files, edited]
      exact ⟨rest, .inr ⟨version, held⟩⟩
  | opened s =>
    obtain ⟨c, r, rfl, sound⟩ := sound
    have layout : Layout.mk c.dataDir = s.layout := by rw [Store.layout, sound.config]
    obtain ⟨s', left, sound', dropped⟩ := Store.drop_opened sound
    rw [face, layout, left, holdings_opened sound rfl, holdings_opened sound' rfl]
    exact ⟨⟨c, r, rfl, sound'⟩, dropped⟩

/-- A run keeps a session sound, and with it whatever every step and every loss of the table
preserves. -/
theorem faceAll_preserves {γ : Type} (note : γ → Incident × Reply → γ)
    (Inv : γ → Holdings → Prop)
    (step : ∀ g h e reply h', Inv g h → h.Step e reply h' → Inv (note g (.event e, reply)) h')
    (drop : ∀ g h reply h', Inv g h → h.Dropped h' → Inv (note g (.dropping, reply)) h')
    (direct : dir.IsDirect) {is : List Incident} (keeps : ∀ i ∈ is, i.KeepsTo dir) {g : γ}
    (sound : s.Sound dir) (inv : Inv g (s.holdings dir)) :
    (s.faceAll ⟨dir⟩ is).2.Sound dir ∧
      Inv ((s.incidents ⟨dir⟩ is).foldl note g) ((s.faceAll ⟨dir⟩ is).2.holdings dir) := by
  induction is generalizing s g with
  | nil => exact ⟨sound, inv⟩
  | cons i is ih =>
    have keeps' (j : Incident) (hj : j ∈ is) : j.KeepsTo dir :=
      keeps j (List.mem_cons_of_mem _ hj)
    cases i with
    | event e =>
      obtain ⟨sound', stepped⟩ := handle_step direct sound (keeps _ List.mem_cons_self)
      exact ih keeps' sound' (step _ _ _ _ _ inv stepped)
    | dropping =>
      obtain ⟨sound', dropped⟩ := drop_step sound
      exact ih keeps' sound' (drop _ _ _ _ inv dropped)

end Session

end Keyguard
