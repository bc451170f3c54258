import Keyguard.Proofs.Settings.Cells

/-!
# What an import copies

An import asks its source for every legacy key first, and only then changes the table. So a source
that fails on any of them, after however many that it answered, has the import change nothing
(`LegacySource.collect_cases`). Else the keys that have a value are copied (`Database.Copied`),
whatever rows they had, and the key that says the import is done is written with them. Nothing
else is touched, and nothing else is asked for (`Database.import_is_all_or_nothing`).
-/

namespace Keyguard

namespace LegacySource

/-- A source fails on one of some keys, or it can be asked for all and has a value for as many as
are found. -/
theorem collect_cases (source : LegacySource) (keys : List String) :
    (∃ fault, source.collect keys = .error fault ∧
      ∃ key ∈ keys, source.value? key = .error fault) ∨
    ∃ found, source.collect keys = .ok found ∧
      (∀ key ∈ keys, ∃ value, source.value? key = .ok value) ∧
      found.length = keys.countP fun key => (source.text? key).isSome := by
  induction keys with
  | nil => exact .inr ⟨[], rfl, nofun, rfl⟩
  | cons k ks ih =>
    cases asked : source.value? k with
    | error fault =>
      exact .inl ⟨fault, by simp only [collect, asked], k, List.mem_cons_self, asked⟩
    | ok value =>
      rcases ih with ⟨fault, failed, key, among, unread⟩ | ⟨found, rest, readable, count⟩
      · exact .inl ⟨fault, by simp only [collect, asked, failed], key,
          List.mem_cons_of_mem _ among, unread⟩
      · have all (key : String) (among : key ∈ k :: ks) : ∃ value, source.value? key = .ok value :=
          (List.mem_cons.mp among).elim (fun same => ⟨value, same ▸ asked⟩) (readable key)
        have text : source.text? k = value := by rw [text?, asked]
        cases value with
        | none =>
          exact .inr ⟨found, by simp only [collect, asked, rest], all, by simp [count, text]⟩
        | some v =>
          exact .inr ⟨(k, v) :: found, by simp only [collect, asked, rest], all,
            by simp [count, text]⟩

/-- Sources that agree on some keys are found to have the same for them. -/
theorem collect_congr {source source' : LegacySource} {keys : List String}
    (agree : ∀ key ∈ keys, source'.value? key = source.value? key) :
    source'.collect keys = source.collect keys := by
  induction keys with
  | nil => rfl
  | cons k ks ih =>
    rw [collect, collect, agree k List.mem_cons_self,
      ih fun key among => agree key (List.mem_cons_of_mem _ among)]

theorem text?_of_value {source : LegacySource} {key : String} {value : Option String}
    (h : source.value? key = .ok value) : source.text? key = value := by
  rw [text?, h]

end LegacySource

namespace Database

theorem importedKey_not_mem_legacyKeys : importedKey ∉ legacyKeys := by decide

/-- What an import makes of a database. -/
structure Copied (source : LegacySource) (db left : Database) (copied : Nat) : Prop where
  /-- It counts the legacy keys that have a value. -/
  count : copied = legacyKeys.countP fun key => (source.text? key).isSome
  /-- Each of them has one row with this value. -/
  written : ∀ key ∈ legacyKeys, ∀ v, source.value? key = .ok (some v) →
    left.cells? key .system = some [.text v]
  /-- So has the key that says the import is done. -/
  marked : left.cells? importedKey .system = some [.text "true"]
  /-- Every other key, and every other user, has the rows it had. -/
  others : ∀ key user, (user = .system → key ≠ importedKey ∧
      (key ∈ legacyKeys → source.value? key = .ok none)) →
    left.cells? key user = db.cells? key user
  versions : left.versions = db.versions

/-- The changes of an import copy what was found. -/
theorem copied_importChanges {db : Database} {source : LegacySource}
    {found : List (String × String)} (collected : source.collect legacyKeys = .ok found)
    (table : db.settings ≠ none) :
    Copied source db (db.commit (importChanges found)).2 found.length := by
  obtain ⟨t, table⟩ := Option.ne_none_iff_exists'.mp table
  have cells (key : String) (user : UserId) := cells?_importChanges collected db key user
  have given {key : String} {v : String} (h : source.given? key = some v) :
      (db.commit (importChanges found)).2.cells? key .system = some [.text v] := by
    rw [cells, if_pos rfl, h, cells?, table]
    rfl
  constructor
  case count =>
    rcases source.collect_cases legacyKeys with ⟨fault, failed, -⟩ | ⟨found', collected', -, count⟩
    · exact absurd (collected.symm.trans failed) (by simp)
    · rw [Except.ok.inj (collected.symm.trans collected'), count]
  case written =>
    intro key among v value
    refine given ?_
    have other : key ≠ importedKey := fun same => importedKey_not_mem_legacyKeys (same ▸ among)
    rw [LegacySource.given?, if_neg other, if_pos among, source.text?_of_value value]
  case marked => exact given (if_pos rfl)
  case others =>
    intro key user other
    have nothing : (if user = .system then source.given? key else none) = none := by
      by_cases own : user = .system
      · obtain ⟨unmarked, unset⟩ := other own
        rw [if_pos own, LegacySource.given?, if_neg unmarked]
        by_cases among : key ∈ legacyKeys
        · rw [if_pos among, source.text?_of_value (unset among)]
        · rw [if_neg among]
      · rw [if_neg own]
    rw [cells, nothing]
    cases db.cells? key user <;> rfl
  case versions => exact versions_commit db _

/-- The three ways an import can end, each with what leads to it. -/
theorem importLegacy_outcomes (db : Database) (source : LegacySource) :
    let mark := db.query fun t => t.read importedKey .system
    (∃ text, mark = .ok (some text)) ∧ db.importLegacy source = (.alreadyImported, db) ∨
    ((∃ fault, mark = .error fault) ∨
        mark = .ok none ∧ ∃ key ∈ legacyKeys, ∃ fault, source.value? key = .error fault) ∧
      db.importLegacy source = (.failed, db) ∨
    (mark = .ok none ∧ ∀ key ∈ legacyKeys, ∃ value, source.value? key = .ok value) ∧
      ∃ copied left, db.importLegacy source = (.imported copied, left) ∧
        Copied source db left copied := by
  intro mark
  have eq := db.importLegacy_eq source
  cases asked : db.query fun t => t.read importedKey .system with
  | error fault =>
    rw [asked] at eq
    exact .inr (.inl ⟨.inl ⟨fault, asked⟩, eq⟩)
  | ok value =>
    rw [asked] at eq
    cases value with
    | some text => exact .inl ⟨⟨text, asked⟩, eq⟩
    | none =>
      rcases source.collect_cases legacyKeys with
        ⟨fault, failed, key, among, unread⟩ | ⟨found, collected, readable, -⟩
      · rw [failed] at eq
        exact .inr (.inl ⟨.inr ⟨asked, key, among, fault, unread⟩, eq⟩)
      · rw [collected] at eq
        have table : db.settings ≠ none := fun none => by simp [query, none] at asked
        exact .inr (.inr ⟨⟨asked, readable⟩, _, _, eq, copied_importChanges collected table⟩)

/-- **All or nothing.** An import is refused exactly if the key that says it is done has a text,
be it empty. It fails exactly if that key cannot be read, or has none and the source fails on some
legacy key. Either way the database is what it was; in every other case the import copies what the
source has for the legacy keys, and whatever else the source has makes no difference. -/
theorem import_is_all_or_nothing (db : Database) (source : LegacySource) :
    let mark := db.query fun t => t.read importedKey .system
    let outcome := (db.importLegacy source).1
    let left := (db.importLegacy source).2
    (outcome = .alreadyImported ↔ ∃ text, mark = .ok (some text)) ∧
    (outcome = .failed ↔ (∃ fault, mark = .error fault) ∨
      mark = .ok none ∧ ∃ key ∈ legacyKeys, ∃ fault, source.value? key = .error fault) ∧
    (outcome = .alreadyImported ∨ outcome = .failed → left = db) ∧
    (∀ copied, outcome = .imported copied → Copied source db left copied) ∧
    ∀ source' : LegacySource, (∀ key ∈ legacyKeys, source'.value? key = source.value? key) →
      db.importLegacy source' = db.importLegacy source := by
  have same (source' : LegacySource)
      (agree : ∀ key ∈ legacyKeys, source'.value? key = source.value? key) :
      db.importLegacy source' = db.importLegacy source := by
    rw [importLegacy_eq, importLegacy_eq, source.collect_congr agree]
  have ways := db.importLegacy_outcomes source
  generalize db.importLegacy source = done at ways same ⊢
  generalize (db.query fun t => t.read importedKey .system) = mark at ways ⊢
  rcases ways with ⟨⟨text, rfl⟩, rfl⟩ | ⟨cause, rfl⟩ | ⟨⟨rfl, readable⟩, copied, left, rfl, all⟩
  · exact ⟨iff_of_true rfl ⟨text, rfl⟩, iff_of_false nofun nofun, fun _ => rfl, nofun, same⟩
  · have unmarked : ¬∃ text, mark = .ok (some text) := by
      rintro ⟨text, rfl⟩
      exact cause.elim nofun nofun
    exact ⟨iff_of_false nofun unmarked, iff_of_true rfl cause, fun _ => rfl, nofun, same⟩
  · have failing : ¬∃ key ∈ legacyKeys, ∃ fault, source.value? key = .error fault := by
      rintro ⟨key, among, fault, unread⟩
      obtain ⟨value, read⟩ := readable key among
      exact absurd (read.symm.trans unread) nofun
    refine ⟨iff_of_false nofun nofun, iff_of_false nofun ?_, nofun, fun n counted => ?_, same⟩
    · exact fun cause => cause.elim nofun fun h => failing h.2
    · exact ImportOutcome.imported.inj counted ▸ all

/-- A key with two rows, of which one cannot be read, is copied, and the key that says the import
is done had a row that held nothing. -/
theorem import_replaces_unreadable_rows :
    let db : Database := ⟨some ⟨[⟨importedKey, .system, .null⟩,
      ⟨"lockscreen.disabled", .system, .blob [0]⟩, ⟨"lockscreen.disabled", .system, .text "0"⟩,
      ⟨"lockscreen.disabled", ⟨1⟩, .text "0"⟩], true⟩, some [1]⟩
    let source := LegacySource.ofMap (.ofList [("lockscreen.disabled", "1"), ("color", "red")])
    (db.importLegacy source).1 = .imported 1 ∧ Copied source db (db.importLegacy source).2 1 := by
  intro db source
  obtain ⟨-, -, -, copies, -⟩ := import_is_all_or_nothing db source
  have imported : (db.importLegacy source).1 = .imported 1 := by decide +kernel
  exact ⟨imported, copies 1 imported⟩

end Database

end Keyguard
