import Keyguard.Proofs.Files.Writing
import Keyguard.Proofs.Settings.Rows
import Keyguard.Proofs.Store.Resting

/-!
# Removing a user

Removing a user takes the user's rows and credential files away (`Store.outcome_removeUser`) and
leaves the rest of the store alone (`Store.Erased`). It goes on past a file that it cannot remove:
where a directory is in the place of a credential file, or a file in the place of the user's
directory, that stays, and the rows are gone nevertheless. If there is nothing of the kind, callers
are then told of the user what they are told of one that never was
(`Store.removeUser_erases_one_user`).

The store is any store with a settings table: its rows and files need not be of its own making.
-/

namespace Keyguard

open FileTree

-- unification must not compute what a tree has at the places of a layout
attribute [local irreducible] FileTree.at?

/-! ### Locks -/

namespace LockRegistry

variable (r : LockRegistry) (l : Lock)

theorem mem_registered_acquireAll {ls : List Lock} :
    l ∈ (r.acquireAll ls).registered ↔ l ∈ r.registered ∨ l ∈ ls := by
  induction ls generalizing r with
  | nil => simp [acquireAll]
  | cons k ks ih =>
    rw [acquireAll, List.foldl_cons, ← acquireAll, ih, mem_registered_acquire, List.mem_cons,
      or_assoc]

theorem registered_releaseAll (ls : List Lock) : (r.releaseAll ls).registered = r.registered := by
  induction ls generalizing r with
  | nil => rfl
  | cons k ks ih => exact ih (r.release k)

/-- The locks of a user are taken and given back. -/
theorem held_releaseAll_acquireAll (u : UserId) :
    ((r.acquireAll (Lock.allOf u)).releaseAll (Lock.allOf u)).held = r.held := by
  simp [acquireAll, releaseAll, acquire, release, Lock.allOf]

/-- When all locks of a user were taken and given back, forgetting the user leaves those that
someone holds, and all locks of others. -/
theorem mem_registered_forgetUser (u : UserId) :
    l ∈ (((r.acquireAll (Lock.allOf u)).releaseAll (Lock.allOf u)).forgetUser u).registered ↔
      if l.user = u then l ∈ r.held else l ∈ r.registered := by
  rw [forgetUser, held_releaseAll_acquireAll, registered_releaseAll]
  simp only [List.mem_filter, mem_registered_acquireAll, Lock.mem_allOf, decide_eq_true_eq]
  by_cases own : l.user = u <;> simp [own]

end LockRegistry

/-! ### Files -/

namespace Layout

/-- The places of a user's credential files. -/
def credentialPlaces (l : Layout) (u : UserId) : List Place :=
  [.password, .pattern .standard, .pattern .alternate, .gesture].map fun f => (l.file u f).names

variable {l : Layout} {t : FileTree} {u : UserId} {q : Place}

theorem mem_credentialPlaces : q ∈ l.credentialPlaces u ↔ ∃ f, q = (l.file u f).names := by
  rw [credentialPlaces, List.mem_map]
  constructor
  · rintro ⟨f, -, here⟩
    exact ⟨f, here.symm⟩
  · rintro ⟨f, here⟩
    refine ⟨f, ?_, here.symm⟩
    rcases f with (_ | _) | _ | _ <;> decide

/-- The files after all credential files of a user were removed. -/
def withoutCredentials (l : Layout) (u : UserId) (t : FileTree) : FileTree :=
  (l.credentialPlaces u).foldl FileTree.remove t

/-- Every credential file of the user that can be reached is gone, and every other place is as it
was. -/
theorem at_withoutCredentials (l : Layout) (u : UserId) (t : FileTree) (q : Place) :
    (l.withoutCredentials u t).at? q =
      if q ∈ l.credentialPlaces u ∧ t.blocked q = false ∧ (t.file? q).isSome then none
      else t.at? q := by
  refine at_foldl_remove (fun p hp q hq => ?_) t q
  obtain ⟨f, first⟩ := mem_credentialPlaces.mp hp
  obtain ⟨g, second⟩ := mem_credentialPlaces.mp hq
  rw [first, second]
  exact file_not_mem_ancestors_file u u f g

theorem remove_removeAll (l : Layout) (policy : UnreadablePolicy) (threshold : Float) (u : UserId)
    (t : FileTree) :
    (GestureFiles.mk l threshold).remove u ((HashFiles.mk l policy).removeAll u t) =
      l.withoutCredentials u t := by
  simp only [GestureFiles.remove, HashFiles.removeAll, GestureFiles.path, HashFiles.path,
    withoutCredentials, credentialPlaces, List.map_cons, List.map_nil, List.foldl_cons,
    List.foldl_nil, CredentialFile.ofKind]

theorem writesOnly_withoutCredentials (l : Layout) (u : UserId) (t : FileTree) :
    WritesOnly (· ∈ l.credentialPlaces u) t (l.withoutCredentials u t) :=
  writesOnly_foldl_remove (l.credentialPlaces u) t

/-- What blocks a credential file is not removed. -/
theorem blocked_withoutCredentials (v : UserId) (f : CredentialFile) :
    (l.withoutCredentials u t).blocked (l.file v f).names = t.blocked (l.file v f).names := by
  refine (l.writesOnly_withoutCredentials u t).blocked fun q above among => ?_
  obtain ⟨g, here⟩ := mem_credentialPlaces.mp among
  rw [here] at above
  exact file_not_mem_ancestors_file u v g f above

/-- Every credential file of the user that can be reached is gone. -/
theorem file?_withoutCredentials {f : CredentialFile}
    (way : t.blocked (l.file u f).names = false) :
    (l.withoutCredentials u t).file? (l.file u f).names = none := by
  rw [FileTree.file?, at_withoutCredentials]
  by_cases there : (t.file? (l.file u f).names).isSome
  · rw [if_pos ⟨mem_credentialPlaces.mpr ⟨f, rfl⟩, way, there⟩]
    rfl
  · rw [if_neg fun removed => there removed.2.2, ← FileTree.file?]
    simpa using there

/-- So it cannot be read any more. -/
theorem read_withoutCredentials_ne_ok (f : CredentialFile) (content : Bytes) :
    (l.withoutCredentials u t).read (l.file u f).names ≠ .ok content := by
  intro read
  obtain ⟨way, file⟩ := read_eq_ok_iff.mp read
  rw [blocked_withoutCredentials] at way
  rw [file?_withoutCredentials way] at file
  exact absurd file nofun

/-- Where nothing was in the way, a credential file of the user is missing. -/
theorem read_withoutCredentials_eq_notFound {f : CredentialFile}
    (way : t.blocked (l.file u f).names = false)
    (free : t.at? (l.file u f).names ≠ some .directory) :
    (l.withoutCredentials u t).read (l.file u f).names = .error .notFound := by
  refine read_eq_notFound_iff.mpr ⟨(blocked_withoutCredentials u f).trans way, ?_⟩
  refine (file?_eq_none_iff.mp (file?_withoutCredentials way)).resolve_right fun dir => ?_
  rw [at_withoutCredentials] at dir
  split at dir
  · exact absurd dir nofun
  · exact free dir

end Layout

attribute [local irreducible] Layout.withoutCredentials

/-! ### Settings -/

namespace Database

variable {db : Database} {u : UserId}

/-- A user without rows has no settings. -/
theorem readText_of_no_rows (empty : db.rowsOf? u = some []) (key : String) :
    db.readText key u = .ok none := by
  have cells : db.cells? key u = some ((none : Option String).map Cell.text).toList := by
    rw [cells?_eq, empty]
    rfl
  exact readText_of_cells cells

theorem patternSize_of_no_rows (empty : db.rowsOf? u = some []) :
    db.patternSize u = standardPatternSize := by
  rw [patternSize, getLong, readText_of_no_rows empty]
  rfl

end Database

/-! ### The store -/

namespace Store

variable {s s' : Store} {t : SettingsTable} {u : UserId}

/-- What is left of a store of which a user was removed. -/
structure Erased (u : UserId) (s s' : Store) : Prop where
  /-- The user has no rows, and every other user has the rows it had. -/
  rows : ∀ v, s'.database.rowsOf? v = if v = u then some [] else s.database.rowsOf? v
  /-- No credential file of the user is there. -/
  gone : ∀ f content, s'.files.read (s.layout.file u f).names ≠ .ok content
  /-- Every directory stays, also in the place of such a file. -/
  directories : ∀ q, s.files.at? q = some .directory → s'.files.at? q = some .directory
  /-- Every other place is what it was. -/
  elsewhere : ∀ q, (∀ f, q ≠ (s.layout.file u f).names) → s'.files.at? q = s.files.at? q
  /-- Other programs find it so as well, the database apart. -/
  shown : ∀ q, (∀ f, q ≠ (s.layout.file u f).names) → q ≠ s.layout.database.names →
    q ≠ s.layout.journal.names → s'.shown.at? q = s.shown.at? q
  /-- Nothing is there that was not. -/
  absent : ∀ q, s.files.at? q = none → s'.files.at? q = none
  versions : s'.database.versions = s.database.versions
  held : s'.locks.held = s.locks.held
  /-- The user has no locks but those that someone holds. -/
  registered : ∀ l, l ∈ s'.locks.registered ↔
    if l.user = u then l ∈ s.locks.held else l ∈ s.locks.registered
  rest : s' = { s with database := s'.database, files := s'.files, locks := s'.locks }

/-- The store after a user was removed. -/
def without (s : Store) (t : SettingsTable) (u : UserId) : Store :=
  { s with
    database := { s.database with settings := some (t.deleteUser u) }
    files := s.layout.withoutCredentials u s.files
    locks := ((s.locks.acquireAll (Lock.allOf u)).releaseAll (Lock.allOf u)).forgetUser u }

/-- With a settings table a user can be removed, whatever the files are. -/
theorem outcome_removeUser (table : s.database.settings = some t) (u : UserId) :
    outcome (perform .system (.removeUser u)) s = (.ok .done, s.without t u) := by
  obtain ⟨n, committed⟩ := Database.commit_of_table table [.deleteUser u]
  have answered : answer (.removeUser u) = (do removeUser u; return .done) := rfl
  rw [perform_system, answered, outcome_bind, removeUser, outcome_bind, outcome_withLocks,
    outcome_bind]
  simp only [outcome.eq_1 (removeFiles u), removeFiles, outcome_commit, committed, hashes, gestures,
    Layout.remove_removeAll]
  rfl

theorem erased_without (table : s.database.settings = some t) (u : UserId) :
    Erased u s (s.without t u) := by
  have spot := s.layout.at_withoutCredentials u s.files
  have files : (s.without t u).files = s.layout.withoutCredentials u s.files := rfl
  have elsewhere (q : Place) (away : ∀ f, q ≠ (s.layout.file u f).names) :
      (s.without t u).files.at? q = s.files.at? q := by
    rw [files, spot, if_neg fun removed => ?_]
    obtain ⟨f, here⟩ := Layout.mem_credentialPlaces.mp removed.1
    exact away f here
  constructor
  case rows =>
    intro v
    have rows : (s.without t u).database.rowsOf? v = some ((t.deleteUser u).rowsOf v) := rfl
    rw [rows, Database.rowsOf?, table, t.rowsOf_deleteUser, Change.onRows]
    by_cases own : u = v
    · rw [if_pos own, if_pos own.symm]
    · rw [if_neg own, if_neg fun e => own e.symm]
      rfl
  case gone =>
    rw [files]
    exact fun f content => Layout.read_withoutCredentials_ne_ok f content
  case directories =>
    rw [files]
    exact fun q dir => (s.layout.writesOnly_withoutCredentials u s.files).directory dir
  case elsewhere => exact elsewhere
  case shown =>
    intro q away database journal
    have before := s.at_shown s.layout s.files database journal
    have after := (s.without t u).at_shown s.layout (s.without t u).files database journal
    exact after.trans ((elsewhere q away).trans before.symm)
  case absent =>
    intro q none
    rw [files, spot, none, ite_self]
  case versions => rfl
  case held => exact s.locks.held_releaseAll_acquireAll u
  case registered => exact fun l => s.locks.mem_registered_forgetUser l u
  case rest => rfl

/-! ### What callers are told -/

/-- Whether a call is answered in some way, whoever makes it of those who may. -/
def Answers (s : Store) (call : Call) (a : Answer) : Prop :=
  ∀ caller : Caller, caller.mayRun call.operation call.user = true →
    (outcome (perform caller call) s).1 = .ok a

theorem answers_of_reading {call : Call} {f : Store → Except StoreError Answer} {a : Answer}
    (looks : answer call = reading f) (seen : f s = .ok a) : s.Answers call a := by
  intro caller may
  rw [perform, if_pos may, looks, outcome_reading]
  exact seen

theorem answers_of_asking {α : Type} {call : Call} (f : Database → Except DatabaseFault α)
    {g : α → Answer} {v : α} (looks : answer call = asking fun db => (f db).map g)
    (seen : f s.database = .ok v) : s.Answers call (g v) :=
  answers_of_reading looks (by simp only [seen]; rfl)

theorem answers_of_reading_locked {call : Call} {f : Store → Except StoreError Bool} {b : Bool}
    {locks : List Lock}
    (looks : answer call = (do return Answer.boolean (← withLocks locks (reading f))))
    (blind : ∀ r, f { s with locks := r } = f s) (seen : f s = .ok b) :
    s.Answers call (.boolean b) := by
  intro caller may
  rw [perform, if_pos may, looks, outcome_reading_locked locks s blind, seen]
  rfl

/-- Whether every setting of a user has its default. -/
structure SettingsUnset (u : UserId) (s : Store) : Prop where
  boolean : ∀ key default, s.Answers (.getBoolean key default u) (.boolean default)
  long : ∀ key default, s.Answers (.getLong key default u) (.long default)
  text : ∀ key default, s.Answers (.getString key default u) (.text default)
  size : s.Answers (.getLockPatternSize u) (.size standardPatternSize)

/-- Whether no credential of a user is set: every candidate matches, and no gesture does. -/
structure CredentialsUnset (u : UserId) (s : Store) : Prop where
  havePattern : s.Answers (.havePattern u) (.boolean false)
  havePassword : s.Answers (.havePassword u) (.boolean false)
  haveGesture : s.Answers (.haveGesture u) (.boolean false)
  checkPattern : ∀ candidate, s.Answers (.checkPattern candidate u) (.boolean true)
  checkPassword : ∀ candidate, s.Answers (.checkPassword candidate u) (.boolean true)
  checkGesture : s.recognizer = rankByDistance →
    ∀ sample, s.Answers (.checkGesture sample u) (.boolean false)

/-- A user without rows has the defaults. -/
theorem settingsUnset_of_no_rows (empty : s.database.rowsOf? u = some []) :
    SettingsUnset u s := by
  have text (key : String) := Database.readText_of_no_rows empty key
  constructor
  case boolean =>
    intro key default
    have value : s.database.getBoolean key default u = .ok default := by
      rw [Database.getBoolean, text]
      rfl
    exact answers_of_asking (·.getBoolean key default u) rfl value
  case long =>
    intro key default
    have value : s.database.getLong key default u = .ok default := by
      rw [Database.getLong, text]
      rfl
    exact answers_of_asking (·.getLong key default u) rfl value
  case text =>
    intro key default
    have value : s.database.getString key default u = .ok default := by
      rw [Database.getString, text]
      rfl
    exact answers_of_asking (·.getString key default u) rfl value
  case size =>
    have looks : answer (.getLockPatternSize u) =
        reading fun s => .ok (.size (s.patternSize u)) := rfl
    refine answers_of_reading looks ?_
    rw [patternSize, Database.patternSize_of_no_rows empty]

/-- A user all of whose credential files are missing has no credentials. -/
theorem credentialsUnset_of_no_files
    (missing : ∀ f, s.files.read (s.layout.file u f).names = .error .notFound) :
    CredentialsUnset u s := by
  have nothing (f : CredentialFile) :
      s.files.holdsSomething (s.layout.file u f).names = false := by
    rw [holdsSomething, missing]
  have unheld (kind : CredentialKind) : s.haveHash kind u = false := by
    rw [haveHash, HashFiles.holds, HashFiles.path, hashes, nothing]
  have matched (kind : CredentialKind) (candidate : Bytes) :
      s.hashes.check kind candidate u (s.variant u) s.files = .ok true := by
    rw [HashFiles.check, HashFiles.path, hashes, missing]
  have unlocked (ranked : s.recognizer = rankByDistance) (sample : Gesture) :
      s.gestures.check s.recognizer sample u s.files = .ok false := by
    have none : rankByDistance sample .empty = [] := by
      simp [rankByDistance, sortPredictions, GestureLibrary.empty, NameMap.empty]
    rw [GestureFiles.check, GestureFiles.path, gestures, GestureLibrary.load, missing, ranked]
    simp only [Except.map, none, unlocks]
  constructor
  case havePattern =>
    have looks : answer (.havePattern u) =
        reading fun s => .ok (.boolean (s.haveHash .pattern u)) := rfl
    exact answers_of_reading looks (by rw [unheld])
  case havePassword =>
    have looks : answer (.havePassword u) =
        reading fun s => .ok (.boolean (s.haveHash .password u)) := rfl
    exact answers_of_reading looks (by rw [unheld])
  case haveGesture =>
    have looks : answer (.haveGesture u) =
        reading fun s => .ok (.boolean (s.gestures.holds u s.files)) := rfl
    have unheld : s.gestures.holds u s.files = false := by
      rw [GestureFiles.holds, GestureFiles.path, gestures, nothing]
    exact answers_of_reading looks (by rw [unheld])
  case checkPattern =>
    exact fun candidate =>
      answers_of_reading_locked rfl (fun _ => rfl) (matched .pattern candidate)
  case checkPassword =>
    exact fun candidate =>
      answers_of_reading_locked rfl (fun _ => rfl) (matched .password candidate)
  case checkGesture =>
    exact fun ranked sample =>
      answers_of_reading_locked rfl (fun _ => rfl) (unlocked ranked sample)

/-- **One user is erased.** Whatever is in the files of a store with a settings table, the system can
remove every user. The rows and the credential files of the user are gone then, and the rows and
locks of other users and all else among the files are as they were. Every setting of the user has
its default, and if nothing was in the way of the user's files, no credential of the user is set. -/
theorem removeUser_erases_one_user (table : s.database.settings = some t) (u : UserId) :
    ∃ s', outcome (perform .system (.removeUser u)) s = (.ok .done, s') ∧ Erased u s s' ∧
      SettingsUnset u s' ∧
      ((∀ f, s.files.blocked (s.layout.file u f).names = false ∧
          s.files.at? (s.layout.file u f).names ≠ some .directory) → CredentialsUnset u s') := by
  have erased := erased_without table u
  refine ⟨s.without t u, outcome_removeUser table u, erased, ?_, fun free => ?_⟩
  · exact settingsUnset_of_no_rows ((erased.rows u).trans (if_pos rfl))
  · exact credentialsUnset_of_no_files fun f =>
      Layout.read_withoutCredentials_eq_notFound (free f).1 (free f).2

/-- A user is removed although a directory is in the place of a file. One of the user's settings
had two rows. -/
theorem removeUser_passes_directory :
    let home : Place := ["data", "system", "users", "10"]
    let t : FileTree := ⟨[(home ++ ["password.key"], .file [0xaa]),
      (home ++ ["cm_gesture.key"], .directory), (home, .directory)]⟩
    let rows : List Row := [⟨"k", ⟨10⟩, .text "a"⟩, ⟨"k", ⟨10⟩, .null⟩, ⟨"k", ⟨1⟩, .text "b"⟩]
    let s : Store := ⟨{ Connection.fresh with database := ⟨some ⟨rows, true⟩, some [1]⟩ },
      .ofDataDir ⟨"data"⟩, rankByDistance, t, .empty⟩
    ∃ s', outcome (perform .system (.removeUser ⟨10⟩)) s = (.ok .done, s') ∧
      s'.database.rowsOf? ⟨10⟩ = some [] ∧
      s'.database.rowsOf? ⟨1⟩ = some [⟨"k", ⟨1⟩, .text "b"⟩] ∧
      (∀ content, s'.files.read (home ++ ["password.key"]) ≠ .ok content) ∧
      s'.files.at? (home ++ ["cm_gesture.key"]) = some .directory := by
  intro home t rows s
  obtain ⟨s', done, erased, -⟩ := removeUser_erases_one_user (s := s) rfl ⟨10⟩
  have place : (s.layout.file ⟨10⟩ .password).names = home ++ ["password.key"] := by
    decide +kernel
  refine ⟨s', done, erased.rows ⟨10⟩, erased.rows ⟨1⟩, ?_, erased.directories _ (by decide +kernel)⟩
  exact fun content => place ▸ erased.gone .password content

end Store

end Keyguard
