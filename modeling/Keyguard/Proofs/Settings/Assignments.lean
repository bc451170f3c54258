import Keyguard.Proofs.Settings.Integers
import Keyguard.Proofs.Store.Runs

/-!
# Settings as assignments

Seen from outside the settings are a map from users and keys to texts. The calls that set a value
**assign** its canonical text, removing a user **erases** the user's keys, an import assigns what
it gives, and the first opening of a data directory assigns the key that disables the lock screen
if its configuration asks for it. Nothing else changes the map (`Assignments.note`).

**Canonical texts** are given without the store (`Assignments.canonical`): one digit for a truth
value, the decimal numeral of an integer, and a text as it is. The store writes these
(`SettingValue.stored_eq_canonical`), and what it reads from them as a truth value and as an
integer is again the value, or the number that the truth value is.

`Agrees` says that the settings table has one row for every pair that has a text, with that text,
and no row for any other. Every step keeps it (`Agrees.step`), so in every run from an empty data
directory the settings are read as the map has them (`settings_answer_assignments`).
-/

namespace Keyguard

/-- The text of each key of each user, if it has one. -/
abbrev Assignments := UserId → String → Option String

namespace Assignments

/-- The map without any text. -/
def empty : Assignments := fun _ _ => none

/-- Assigns a text to a key of a user. -/
def assign (m : Assignments) (u : UserId) (key text : String) : Assignments :=
  fun w k => if k = key ∧ w = u then some text else m w k

/-- Erases the keys of a user. -/
def erase (m : Assignments) (u : UserId) : Assignments := fun w k => if w = u then none else m w k

/-- Assigns what an import gives to keys of the system user. -/
def imported (m : Assignments) (source : LegacySource) : Assignments := fun w k =>
  match if w = .system then source.given? k else none with
  | some text => some text
  | none => m w k

/-- The canonical text of a value. -/
def canonical : SettingValue → String
  | .boolean b => if b then "1" else "0"
  | .long i => toString i.toInt
  | .text s => s

/-- What the first opening with a configuration assigns. -/
def first (c : Config) : Assignments :=
  if c.disabledByDefault then empty.assign .system disabledKey "1" else empty

/-- The map after a permitted call and its reply. -/
def enter (m : Assignments) : Call → Except StoreError Answer → Assignments
  | .setBoolean key b u, _ => m.assign u key (canonical (.boolean b))
  | .setLong key i u, _ => m.assign u key (canonical (.long i))
  | .setString key s u, _ => m.assign u key (canonical (.text s))
  | .removeUser u, _ => m.erase u
  | .systemReady source, .ok (.outcome (.imported _)) => m.imported source
  | _, _ => m

/-- The map after an event and its reply. There is none before the first opening. -/
def note : Option Assignments → Event × Reply → Option Assignments
  | none, (.opening c _, some (.ok _)) => some (first c)
  | some m, (.calling caller call, some reply) =>
    some (if caller.mayRun call.operation call.user then m.enter call reply else m)
  | m, _ => m

/-- The text of a key of a user, if it is not empty. -/
def text? (m : Assignments) (u : UserId) (key : String) : Option String :=
  (m u key).filter (· ≠ "")

end Assignments

namespace SettingValue

open Assignments (canonical)

/-- The store writes the canonical text of every value. -/
theorem stored_eq_canonical (v : SettingValue) : v.stored = canonical v := by
  cases v with
  | boolean b => cases b <;> rfl
  | long i => exact Integer.text_eq_toString i.toInt
  | text s => rfl

/-! ### Reading canonical texts -/

theorem readBoolean_eq (s : String) : readBoolean s = decide (s = "1" ∨ s = "true") := by
  rw [readBoolean, Bool.decide_or, beq_eq_decide, beq_eq_decide]

theorem readBoolean_canonical (b : Bool) : readBoolean (canonical (.boolean b)) = b := by
  cases b <;> rfl

theorem readLong?_canonical_boolean (b : Bool) :
    readLong? (canonical (.boolean b)) = some (if b then 1 else 0) := by
  cases b <;> rfl

theorem readLong?_canonical (i : Int64) : readLong? (canonical (.long i)) = some i := by
  rw [← stored_eq_canonical, stored, readLong?_text i.minValue_le_toInt i.toInt_le,
    Int64.ofInt_toInt]

theorem canonical_ne_empty {v : SettingValue} (typed : ∀ s, v ≠ .text s) : canonical v ≠ "" := by
  cases v with
  | boolean b => cases b <;> decide
  | long i =>
    rw [← stored_eq_canonical]
    exact Integer.text_ne_empty _
  | text s => exact absurd rfl (typed s)

end SettingValue

/-- What was set as a truth value or as an integer has a text. -/
theorem Assignments.text?_of_canonical {m : Assignments} {u : UserId} {key : String}
    {v : SettingValue} (set : m u key = some (canonical v)) (typed : ∀ s, v ≠ .text s) :
    m.text? u key = some (canonical v) := by
  rw [text?, set, Option.filter_some, if_pos]
  exact decide_eq_true (SettingValue.canonical_ne_empty typed)

/-- Whether the settings table has exactly the texts of a map. -/
def SettingsAgree (m : Assignments) (db : Database) : Prop :=
  ∀ key u, db.cells? key u = some ((m u key).map Cell.text).toList

/-- Whether holdings have the texts of a map, or nothing was opened so far. -/
def Agrees : Option Assignments → Holdings → Prop
  | none, h => h.database = .blank
  | some m, h => h.database.version = schemaVersion ∧ SettingsAgree m h.database

namespace SettingsAgree

variable {m : Assignments} {db : Database}

/-- Writing a setting assigns its text. -/
theorem write (agree : SettingsAgree m db) (key text : String) (u : UserId) :
    SettingsAgree (m.assign u key text) (db.commit [.write key u text]).2 := by
  intro k w
  rw [Database.cells?_commit, agree, Option.map_some, List.foldl_cons, List.foldl_nil,
    Change.onCells, Assignments.assign]
  split <;> rfl

/-- Setting a value assigns its canonical text. -/
theorem set (agree : SettingsAgree m db) (key : String) (v : SettingValue) (u : UserId) :
    SettingsAgree (m.assign u key (Assignments.canonical v))
      (db.commit [.write key u v.stored]).2 := by
  rw [v.stored_eq_canonical]
  exact agree.write key _ u

/-- Deleting the rows of a user erases the user's keys. -/
theorem deleteUser (agree : SettingsAgree m db) (u : UserId) :
    SettingsAgree (m.erase u) (db.commit [.deleteUser u]).2 := by
  intro k w
  rw [Database.cells?_commit, agree, Option.map_some, List.foldl_cons, List.foldl_nil,
    Change.onCells, Assignments.erase]
  split <;> rfl

/-- An import assigns what it gives if it says that it did, and else nothing. -/
theorem importLegacy (agree : SettingsAgree m db) (source : LegacySource) :
    SettingsAgree
      (m.enter (.systemReady source) (.ok (.outcome (db.importLegacy source).1)))
      (db.importLegacy source).2 := by
  rcases db.importLegacy_cases source with ⟨o, rfl | rfl, h⟩ | ⟨found, collected, -, h⟩
  · rw [h]
    exact agree
  · rw [h]
    exact agree
  · rw [h]
    intro k w
    rw [Database.cells?_importChanges collected, agree, Option.map_some, Assignments.enter,
      Assignments.imported]
    cases (if w = .system then source.given? k else none) <;> rfl

/-- What the first opening finds agrees with what it assigns. -/
theorem first (c : Config) :
    SettingsAgree (.first c) (Database.blank.migrate.commit (Store.seed c true)).2 := by
  have created : SettingsAgree .empty Database.blank.migrate := fun _ _ => rfl
  rw [Store.seed, Assignments.first, Bool.true_and]
  split
  · exact created.write disabledKey "1" .system
  · rw [Database.commit_nil]
    exact created

/-! ### Reading -/

theorem getString (agree : SettingsAgree m db) (key : String) (default : Option String)
    (u : UserId) : db.getString key default u = .ok (m.text? u key <|> default) := by
  rw [Database.getString, Database.readText_of_cells (agree key u)]
  rfl

theorem getBoolean (agree : SettingsAgree m db) (key : String) (default : Bool) (u : UserId) :
    db.getBoolean key default u =
      .ok (((m.text? u key).map fun s => decide (s = "1" ∨ s = "true")).getD default) := by
  rw [Database.getBoolean, Database.readText_of_cells (agree key u),
    funext SettingValue.readBoolean_eq]
  rfl

theorem getLong (agree : SettingsAgree m db) (key : String) (default : Int64) (u : UserId) :
    db.getLong key default u =
      .ok (((m.text? u key).bind SettingValue.readLong?).getD default) := by
  rw [Database.getLong, Database.readText_of_cells (agree key u)]
  rfl

/-- A truth value that was set is read back, whatever the default. -/
theorem getBoolean_canonical (agree : SettingsAgree m db) {key : String} {u : UserId} {b : Bool}
    (set : m u key = some (Assignments.canonical (.boolean b))) (default : Bool) :
    db.getBoolean key default u = .ok b := by
  have text := Assignments.text?_of_canonical set (by simp)
  rw [agree.getBoolean, text, Option.map_some, Option.getD_some, ← SettingValue.readBoolean_eq,
    SettingValue.readBoolean_canonical]

/-- An integer that was set is read back, whatever the default. -/
theorem getLong_canonical (agree : SettingsAgree m db) {key : String} {u : UserId} {i : Int64}
    (set : m u key = some (Assignments.canonical (.long i))) (default : Int64) :
    db.getLong key default u = .ok i := by
  have text := Assignments.text?_of_canonical set (by simp)
  rw [agree.getLong, text, Option.bind_some, SettingValue.readLong?_canonical, Option.getD_some]

/-- A pair has one row if it has a text, and else none. -/
theorem rowCount (agree : SettingsAgree m db) (key : String) (u : UserId) :
    (db.query fun t => .ok (t.rowCount key u)) = .ok (if (m u key).isSome then 1 else 0) := by
  have cells := agree key u
  rw [Database.cells?] at cells
  rw [Database.query]
  cases hs : db.settings with
  | none => simp [hs] at cells
  | some t =>
    rw [hs, Option.map_some] at cells
    have counted : t.cells key u = ((m u key).map Cell.text).toList := Option.some.inj cells
    simp only [SettingsTable.rowCount, counted]
    cases m u key <;> rfl

end SettingsAgree

/-! ### Runs -/

namespace Agrees

variable {h h' : Holdings}

/-- Once the database has the library's version there is a map that agrees with it. -/
theorem of_version {m : Option Assignments} (agrees : Agrees m h)
    (version : h.database.version = schemaVersion) :
    ∃ m', m = some m' ∧ SettingsAgree m' h.database := by
  cases m with
  | none =>
    have blank : h.database = .blank := agrees
    rw [blank] at version
    exact absurd version (by decide)
  | some m => exact ⟨m, rfl, agrees.2⟩

/-- Every permitted call does to the settings what it does to the map. -/
theorem after {m : Assignments} (agree : SettingsAgree m h.database) (c : Config)
    (r : Recognizer) (call : Call) :
    SettingsAgree (m.enter call (outcome (Holdings.answer c r call) h).1)
      (h.after call).database := by
  cases call with
  | setBoolean key b u => exact agree.set key _ u
  | setLong key i u => exact agree.set key _ u
  | setString key s u => exact agree.set key _ u
  | removeUser u => exact agree.deleteUser u
  | systemReady source => exact agree.importLegacy source
  | setLockGesture sample u =>
    rw [Holdings.after]
    cases h.files.setGesture sample u <;> exact agree
  | _ => exact agree

theorem version_after (call : Call) : (h.after call).database.version = h.database.version := by
  cases call with
  | setBoolean _ _ _ | setLong _ _ _ | setString _ _ _ | removeUser _ =>
    exact Database.version_congr (Database.versions_commit _ _)
  | systemReady source => exact Database.version_congr (Database.versions_importLegacy _ _)
  | setLockGesture sample u =>
    rw [Holdings.after]
    cases h.files.setGesture sample u <;> rfl
  | _ => rfl

/-- Every step does to the settings what noting it does to the map. -/
theorem step {m : Option Assignments} (agrees : Agrees m h) {e : Event} {reply : Reply}
    (stepped : h.Step e reply h') : Agrees (Assignments.note m (e, reply)) h' := by
  cases stepped with
  | opening c r stored =>
    cases m with
    | none =>
      have blank : h.database = .blank := agrees
      rw [Holdings.opened, blank]
      exact ⟨Database.version_congr (Database.versions_commit _ _), .first c⟩
    | some m =>
      rw [Holdings.opened_of_version c agrees.1]
      exact agrees
  | @calling c r caller call may version =>
    obtain ⟨m, rfl, agree⟩ := agrees.of_version version
    rw [Assignments.note, if_pos may]
    exact ⟨(version_after call).trans version, after agree c r call⟩
  | denied no =>
    cases m with
    | none => exact agrees
    | some m =>
      rw [Assignments.note, if_neg (by simp [no])]
      exact agrees
  | _ => cases m <;> exact agrees

end Agrees

namespace Session

/-- In every run from an empty data directory the settings are read as the calls so far have
assigned them. A setting without a text, or with an empty one, reads as the default, as does the
integer of a text that is none; any other text reads as itself, as its truth value and as its
integer. So the canonical text of a truth value or of an integer reads as that value. A pair has
one row if it has a text, and else none. -/
theorem settings_answer_assignments {dir : Path} {t : FileTree} (start : t.Vacant dir)
    {es : List Event} (keeps : ∀ e ∈ es, e.KeepsTo dir) (key : String) (u : UserId) :
    let s := ((Session.closed t).run es).2
    let m := (((Session.closed t).history es).foldl Assignments.note none).getD .empty
    s.isOpen →
      (∀ (caller : Caller) default, caller.mayRun .getString u →
        (s.handle (.calling caller (.getString key default u))).1 =
          some (.ok (.text (m.text? u key <|> default)))) ∧
      (∀ (caller : Caller) default, caller.mayRun .getBoolean u →
        (s.handle (.calling caller (.getBoolean key default u))).1 =
          some (.ok (.boolean
            (((m.text? u key).map fun text => decide (text = "1" ∨ text = "true")).getD
              default)))) ∧
      (∀ (caller : Caller) default, caller.mayRun .getLong u →
        (s.handle (.calling caller (.getLong key default u))).1 =
          some (.ok (.long (((m.text? u key).bind SettingValue.readLong?).getD default)))) ∧
      (∀ (caller : Caller) default b, caller.mayRun .getBoolean u →
        m u key = some (Assignments.canonical (.boolean b)) →
        (s.handle (.calling caller (.getBoolean key default u))).1 = some (.ok (.boolean b))) ∧
      (∀ (caller : Caller) default i, caller.mayRun .getLong u →
        m u key = some (Assignments.canonical (.long i)) →
        (s.handle (.calling caller (.getLong key default u))).1 = some (.ok (.long i))) ∧
      ((s.holdings dir).database.query fun t => .ok (t.rowCount key u)) =
        .ok (if (m u key).isSome then 1 else 0) := by
  intro s m isOpen
  obtain ⟨rest, vacant⟩ := start.resting
  obtain ⟨sound, agrees⟩ : s.Sound dir ∧
      Agrees (((Session.closed t).history es).foldl Assignments.note none) (s.holdings dir) := by
    refine run_preserves (s := .closed t) Assignments.note Agrees
      (fun g h e reply h' agrees stepped => agrees.step stepped) start.isDirect keeps rest ?_
    rw [holdings_closed, vacant]
    rfl
  have agree : SettingsAgree m (s.holdings dir).database := by
    cases hm : ((Session.closed t).history es).foldl Assignments.note none with
    | none =>
      rw [hm] at agrees
      have blank : (s.holdings dir).database = .blank := agrees
      have version := version_of_isOpen sound isOpen
      rw [blank] at version
      exact absurd version (by decide)
    | some m' =>
      have now : m = m' := congrArg (Option.getD · .empty) hm
      rw [hm] at agrees
      exact now ▸ agrees.2
  have string (caller : Caller) default :=
    handle_asking sound isOpen caller (.getString key default u)
      (fun db => (db.getString key default u).map .text) fun _ _ => rfl
  have boolean (caller : Caller) default :=
    handle_asking sound isOpen caller (.getBoolean key default u)
      (fun db => (db.getBoolean key default u).map .boolean) fun _ _ => rfl
  have long (caller : Caller) default :=
    handle_asking sound isOpen caller (.getLong key default u)
      (fun db => (db.getLong key default u).map .long) fun _ _ => rfl
  refine ⟨fun caller default may => ?_, fun caller default may => ?_, fun caller default may => ?_,
    fun caller default b may set => ?_, fun caller default i may set => ?_, agree.rowCount key u⟩
  · rw [string caller default may, agree.getString]
    rfl
  · rw [boolean caller default may, agree.getBoolean]
    rfl
  · rw [long caller default may, agree.getLong]
    rfl
  · rw [boolean caller default may, agree.getBoolean_canonical set]
    rfl
  · rw [long caller default may, agree.getLong_canonical set]
    rfl

/-- Each setting that was written is read back as its value and across, whatever the defaults, by
the user whose setting it is. -/
theorem typed_values_read_across :
    let es : List Event := [.opening (.ofDataDir ⟨"data"⟩) rankByDistance,
      .calling .system (.setBoolean "b" true ⟨2⟩), .calling .system (.setLong "i" (-50) ⟨2⟩),
      .calling .system (.setString "s" " 7" ⟨2⟩)]
    let s := ((Session.closed .empty).run es).2
    let read (call : Call) := (s.handle (.calling (.user ⟨2⟩) call)).1
    FileTree.empty.Vacant ⟨"data"⟩ ∧ (∀ e ∈ es, e.KeepsTo ⟨"data"⟩) ∧ s.isOpen ∧
      (∀ default, read (.getBoolean "b" default ⟨2⟩) = some (.ok (.boolean true))) ∧
      (∀ default, read (.getLong "b" default ⟨2⟩) = some (.ok (.long 1))) ∧
      (∀ default, read (.getLong "i" default ⟨2⟩) = some (.ok (.long (-50)))) ∧
      (∀ default, read (.getString "i" default ⟨2⟩) = some (.ok (.text (some "-50")))) ∧
      (∀ default, read (.getBoolean "i" default ⟨2⟩) = some (.ok (.boolean false))) ∧
      ∀ default, read (.getLong "s" default ⟨2⟩) = some (.ok (.long 7)) := by
  intro es s read
  have start : FileTree.empty.Vacant ⟨"data"⟩ := FileTree.vacant_empty (by decide)
  have keeps : ∀ e ∈ es, e.KeepsTo ⟨"data"⟩ := by simp [es, Event.KeepsTo, Config.ofDataDir]
  have isOpen : s.isOpen := by decide +kernel
  let m := (((Session.closed .empty).history es).foldl Assignments.note none).getD .empty
  have texts : m ⟨2⟩ "b" = some (Assignments.canonical (.boolean true)) ∧
      m ⟨2⟩ "i" = some (Assignments.canonical (.long (-50))) ∧
      m.text? ⟨2⟩ "b" = some "1" ∧ m.text? ⟨2⟩ "i" = some "-50" ∧
      m.text? ⟨2⟩ "s" = some " 7" := by decide +kernel
  obtain ⟨boolean, long, one, numeral, padded⟩ := texts
  have mayBoolean : (Caller.user ⟨2⟩).mayRun .getBoolean ⟨2⟩ = true := by decide
  have mayLong : (Caller.user ⟨2⟩).mayRun .getLong ⟨2⟩ = true := by decide
  have mayString : (Caller.user ⟨2⟩).mayRun .getString ⟨2⟩ = true := by decide
  obtain ⟨-, -, across, kept, -, -⟩ := settings_answer_assignments start keeps "b" ⟨2⟩ isOpen
  obtain ⟨asText, asTruth, -, -, asLong, -⟩ :=
    settings_answer_assignments start keeps "i" ⟨2⟩ isOpen
  obtain ⟨-, -, trimmed, -, -, -⟩ := settings_answer_assignments start keeps "s" ⟨2⟩ isOpen
  refine ⟨start, keeps, isOpen, fun default => kept _ default _ mayBoolean boolean,
    fun default => (across _ default mayLong).trans ?_,
    fun default => asLong _ default _ mayLong long,
    fun default => (asText _ default mayString).trans ?_,
    fun default => (asTruth _ default mayBoolean).trans ?_,
    fun default => (trimmed _ default mayLong).trans ?_⟩
  · rw [one]
    rfl
  · rw [numeral]
    rfl
  · rw [numeral]
    rfl
  · rw [padded]
    rfl

end Session

end Keyguard
