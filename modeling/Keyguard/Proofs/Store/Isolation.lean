import Keyguard.Proofs.Credential.Patterns
import Keyguard.Proofs.Settings.Rows
import Keyguard.Proofs.Store.Influence

/-!
# Isolation of users

What is held **of a user** are the user's settings rows and credential files
(`Holdings.SameFor`). An action on holdings is **confined** to a user if what it gives and what it
leaves of the user is determined by what is held of the user, and all that is held of others stays
as it is (`Holdings.Confined`). Confined actions can be sequenced (`Confined.bind`), and every call
is confined to the user that it is for (`Confined.perform`). The import is for the system user.

So two runs with the same calls for a user answer these calls alike and end with the same rows and
credential files of the user, whatever the calls for others are
(`Session.users_are_isolated`).
-/

namespace Keyguard

-- unification must not compute what a tree has at the places of a layout
attribute [local irreducible] FileTree.at?

/-! ### Contents of one user -/

namespace Contents

variable {c c' : Contents} {u w : UserId}

theorem put_of_ne (h : w ≠ u) (c : Contents) (f : CredentialFile) (x : Option Bytes) :
    c.put u f x w = c w := by
  funext g
  exact if_neg fun e => h e.1

theorem put_congr (same : c' u = c u) (f : CredentialFile) (x : Option Bytes) :
    c'.put u f x u = c.put u f x u := by
  funext g
  rw [put, put, same]

theorem bytes_congr (same : c' u = c u) (f : CredentialFile) : c'.bytes u f = c.bytes u f := by
  rw [bytes, bytes, same]

theorem store_of_ne (h : w ≠ u) (c : Contents) (kind : CredentialKind) (hash : Bytes)
    (v : GridVariant) : c.store kind hash u v w = c w := by
  cases kind with
  | password => exact put_of_ne h c _ _
  | pattern => exact (put_of_ne h _ _ _).trans (put_of_ne h c _ _)

theorem store_congr (same : c' u = c u) (kind : CredentialKind) (hash : Bytes) (v : GridVariant) :
    c'.store kind hash u v u = c.store kind hash u v u := by
  cases kind with
  | password => exact put_congr same _ _
  | pattern => exact put_congr (put_congr same _ _) _ _

theorem movePattern_of_ne (h : w ≠ u) (c : Contents) (source target : GridVariant) :
    c.movePattern u source target w = c w := by
  rw [movePattern]
  split
  · rfl
  · exact store_of_ne h c .pattern _ target

theorem movePattern_congr (same : c' u = c u) (source target : GridVariant) :
    c'.movePattern u source target u = c.movePattern u source target u := by
  rw [movePattern, movePattern, bytes_congr same]
  split
  · exact same
  · exact store_congr same .pattern _ target

theorem library_congr (same : c' u = c u) : c'.library u = c.library u := by
  rw [library, library, same]

end Contents

namespace Holdings

/-- Whether two holdings have the same rows and credential files of a user. -/
structure SameFor (u : UserId) (h h' : Holdings) : Prop where
  rows : h'.database.rowsOf? u = h.database.rowsOf? u
  files : h'.files u = h.files u

namespace SameFor

variable {u : UserId} {h h' h'' : Holdings}

protected theorem refl (u : UserId) (h : Holdings) : SameFor u h h := ⟨rfl, rfl⟩

protected theorem symm (same : SameFor u h h') : SameFor u h' h :=
  ⟨same.rows.symm, same.files.symm⟩

protected theorem trans (same : SameFor u h h') (same' : SameFor u h' h'') : SameFor u h h'' :=
  ⟨same'.rows.trans same.rows, same'.files.trans same.files⟩

theorem patternSize (same : SameFor u h h') :
    h'.database.patternSize u = h.database.patternSize u := by
  rw [Database.patternSize, Database.patternSize,
    Database.getLong_congr (Database.cells?_congr same.rows patternSizeKey)]

theorem variant (same : SameFor u h h') : h'.variant u = h.variant u :=
  Database.variant_congr (Database.cells?_congr same.rows patternSizeKey)

end SameFor

/-- Whether an action gives and leaves of a user what is determined by what is held of the user,
and leaves all that is held of others. -/
structure Confined {α : Type} (u : UserId) (act : HoldingsAction α) : Prop where
  result : ∀ h h', SameFor u h h' → (outcome act h').1 = (outcome act h).1
  own : ∀ h h', SameFor u h h' → SameFor u (outcome act h).2 (outcome act h').2
  others : ∀ h w, w ≠ u → SameFor w h (outcome act h).2

namespace Confined

variable {α β : Type} {u : UserId}

protected theorem pure (a : α) : Confined u (pure a : HoldingsAction α) :=
  ⟨fun _ _ _ => rfl, fun _ _ same => same, fun h w _ => .refl w h⟩

protected theorem throw (e : StoreError) : Confined u (throw e : HoldingsAction α) :=
  ⟨fun _ _ _ => rfl, fun _ _ same => same, fun h w _ => .refl w h⟩

/-- Confined actions can be done in sequence. -/
protected theorem bind {act : HoldingsAction α} {f : α → HoldingsAction β}
    (first : Confined u act) (second : ∀ a, Confined u (f a)) : Confined u (act >>= f) := by
  have both (h h' : Holdings) (same : SameFor u h h') :
      (outcome (act >>= f) h').1 = (outcome (act >>= f) h).1 ∧
        SameFor u (outcome (act >>= f) h).2 (outcome (act >>= f) h').2 :=
    outcome_bind_alike (fun h h' same => ⟨first.result h h' same, first.own h h' same⟩)
      (fun a h h' same => ⟨(second a).result h h' same, (second a).own h h' same⟩) same
  refine ⟨fun h h' same => (both h h' same).1, fun h h' same => (both h h' same).2,
    fun h w hw => ?_⟩
  exact outcome_bind_leads (fun _ _ _ same same' => same.trans same')
    (fun h => first.others h w hw) (fun a h => (second a).others h w hw) h

/-- Looking at what is held of a user. -/
theorem reading {f : Holdings → Except StoreError α}
    (result : ∀ h h', SameFor u h h' → f h' = f h) : Confined u (reading f) := by
  have unchanged (h : Holdings) : (outcome (Holdings.reading f) h).2 = h := by
    simp only [outcome, Holdings.reading]
    cases f h <;> rfl
  refine ⟨fun h h' same => ?_, fun h h' same => ?_, fun h w _ => ?_⟩
  · simp only [outcome, Holdings.reading, result h h' same]
    cases f h <;> rfl
  · rw [unchanged, unchanged]
    exact same
  · rw [unchanged]
    exact .refl w h

/-- Reading from the rows of a user. -/
theorem asking {f : Database → Except DatabaseFault α}
    (result : ∀ db db' : Database, db'.rowsOf? u = db.rowsOf? u → f db' = f db) :
    Confined u (asking f) :=
  reading fun h h' same => by rw [result h.database h'.database same.rows]

/-- Changes of a user's rows. -/
theorem commit {cs : List Change} (own : ∀ c ∈ cs, c.user = u) : Confined u (commit cs) := by
  refine ⟨fun h h' same => ?_, fun h h' same => ?_, fun h w hw => ?_⟩
  · rw [outcome_commit, outcome_commit]
    exact Database.commit_fst_congr same.rows cs
  · rw [outcome_commit, outcome_commit]
    exact ⟨by simp only [Database.rowsOf?_commit, same.rows], same.files⟩
  · rw [outcome_commit]
    exact ⟨Database.rowsOf?_commit_of_forall fun c hc e => hw (e.symm.trans (own c hc)), rfl⟩

/-- Changes of a user's files. -/
theorem onFiles {f : Holdings → Except StoreError Contents}
    (own : ∀ h h', SameFor u h h' → (f h').map (· u) = (f h).map (· u))
    (others : ∀ h c w, f h = .ok c → w ≠ u → c w = h.files w) : Confined u (onFiles f) := by
  have both (h h' : Holdings) (same : SameFor u h h') :
      (outcome (Holdings.onFiles f) h').1 = (outcome (Holdings.onFiles f) h).1 ∧
        SameFor u (outcome (Holdings.onFiles f) h).2 (outcome (Holdings.onFiles f) h').2 := by
    have determined := own h h' same
    simp only [outcome, Holdings.onFiles]
    cases hf : f h with
    | error e =>
      cases hf' : f h' with
      | error e' =>
        rw [hf, hf'] at determined
        obtain rfl : e' = e := Except.error.inj determined
        exact ⟨rfl, same⟩
      | ok c' => simp [hf, hf', Except.map] at determined
    | ok c =>
      cases hf' : f h' with
      | error e' => simp [hf, hf', Except.map] at determined
      | ok c' =>
        rw [hf, hf'] at determined
        exact ⟨rfl, same.rows, Except.ok.inj determined⟩
  refine ⟨fun h h' same => (both h h' same).1, fun h h' same => (both h h' same).2,
    fun h w hw => ?_⟩
  simp only [outcome, Holdings.onFiles]
  cases hf : f h with
  | error e => exact .refl w h
  | ok c => exact ⟨rfl, others h c w hf hw⟩

/-! ### The parts of the calls -/

theorem getBoolean (key : String) (default : Bool) (u : UserId) :
    Confined u (Holdings.asking fun db => (db.getBoolean key default u).map Answer.boolean) :=
  asking fun db db' same => by
    rw [Database.getBoolean, Database.readText_congr (Database.cells?_congr same key)]
    rfl

theorem getLong (key : String) (default : Int64) (u : UserId) :
    Confined u (Holdings.asking fun db => (db.getLong key default u).map Answer.long) :=
  asking fun db db' same => by rw [Database.getLong_congr (Database.cells?_congr same key)]

theorem getString (key : String) (default : Option String) (u : UserId) :
    Confined u (Holdings.asking fun db => (db.getString key default u).map Answer.text) :=
  asking fun db db' same => by
    rw [Database.getString, Database.readText_congr (Database.cells?_congr same key)]
    rfl

theorem patternSize (u : UserId) :
    Confined u (Holdings.reading fun h => .ok (Answer.size (h.database.patternSize u))) :=
  reading fun h h' same => by rw [same.patternSize]

theorem writeSetting (key : String) (value : SettingValue) (u : UserId) :
    Confined u (writeSetting key value u) := by
  have variant : Confined u (Holdings.reading fun h => .ok (h.variant u)) :=
    reading fun h h' same => congrArg _ same.variant
  have written (k : String) : Confined u (Holdings.commit [.write k u value.stored]) :=
    commit fun c hc => by rw [List.mem_singleton.mp hc]; rfl
  have moved (before after : GridVariant) :
      Confined u (Holdings.onFiles fun h => .ok (h.files.movePattern u before after)) := by
    refine onFiles (fun h h' same => ?_) fun h c w hc hw => ?_
    · exact congrArg Except.ok (Contents.movePattern_congr same.files before after)
    · rw [← Except.ok.inj hc]
      exact Contents.movePattern_of_ne hw h.files before after
  rw [Holdings.writeSetting]
  split
  · exact .bind variant fun before => .bind (written _) fun _ => .bind variant fun after =>
      moved before after
  · exact written key

theorem setHash (kind : CredentialKind) (hash : Bytes) (u : UserId) :
    Confined u (setHash kind hash u) := by
  refine onFiles (fun h h' same => ?_) fun h c w hc hw => ?_
  · rw [same.variant]
    exact congrArg Except.ok (Contents.store_congr same.files kind hash _)
  · rw [← Except.ok.inj hc]
    exact Contents.store_of_ne hw h.files kind hash _

theorem checkHash (kind : CredentialKind) (hash : Bytes) (u : UserId) :
    Confined u (checkHash kind hash u) :=
  reading fun h h' same => by
    rw [same.variant, Contents.admits, Contents.admits, Contents.bytes_congr same.files]

theorem haveHash (kind : CredentialKind) (u : UserId) :
    Confined u (Holdings.reading fun h =>
      .ok (Answer.boolean (h.files.holds kind u (h.variant u)))) :=
  reading fun h h' same => by
    rw [same.variant, Contents.holds, Contents.holds, Contents.bytes_congr same.files]

theorem checkGesture (c : Config) (r : Recognizer) (sample : Gesture) (u : UserId) :
    Confined u (Holdings.reading fun h => (h.files.library u).map fun l =>
      Answer.boolean (unlocks c.threshold (r sample l))) :=
  reading fun h h' same => by rw [Contents.library_congr same.files]

theorem haveGesture (u : UserId) :
    Confined u (Holdings.reading fun h =>
      .ok (Answer.boolean (h.files.bytes u .gesture ≠ []))) :=
  reading fun h h' same => by rw [Contents.bytes_congr same.files]

theorem setGesture (sample : Gesture) (u : UserId) :
    Confined u (Holdings.onFiles fun h => h.files.setGesture sample u) := by
  refine onFiles (fun h h' same => ?_) fun h c w hc hw => ?_
  · rw [Contents.setGesture, Contents.setGesture, Contents.library_congr same.files]
    split
    · exact congrArg Except.ok same.files
    · cases h.files.library u with
      | error e => rfl
      | ok l => exact congrArg Except.ok (Contents.put_congr same.files .gesture _)
  · rw [Contents.setGesture] at hc
    split at hc
    · rw [← Except.ok.inj hc]
    · cases hl : h.files.library u with
      | error e => simp [hl, Except.map] at hc
      | ok l =>
        rw [hl] at hc
        rw [← Except.ok.inj hc]
        exact Contents.put_of_ne hw h.files .gesture _

theorem removeUser (u : UserId) : Confined u (removeUser u) := by
  have files : Confined u (Holdings.onFiles fun h => .ok (h.files.removeUser u)) := by
    refine onFiles (fun h h' _ => ?_) fun h c w hc hw => ?_
    · refine congrArg Except.ok (funext fun f => ?_)
      exact (if_pos rfl).trans (if_pos rfl).symm
    · rw [← Except.ok.inj hc]
      exact funext fun f => if_neg hw
  exact .bind files fun _ => commit fun c hc => by rw [List.mem_singleton.mp hc]; rfl

theorem importLegacy (source : LegacySource) : Confined .system (importLegacy source) :=
  ⟨fun _ _ same => congrArg Except.ok (Database.importLegacy_congr same.rows source).1,
    fun _ _ same => ⟨(Database.importLegacy_congr same.rows source).2, same.files⟩,
    fun _ _ hw => ⟨Database.rowsOf?_importLegacy_of_ne hw source, rfl⟩⟩

/-! ### Calls -/

/-- Every permitted call is confined to the user that it is for. -/
theorem answer (c : Config) (r : Recognizer) (call : Call) :
    Confined call.user (answer c r call) := by
  cases call with
  | setBoolean key value user => exact .bind (writeSetting key _ user) fun _ => .pure _
  | setLong key value user => exact .bind (writeSetting key _ user) fun _ => .pure _
  | setString key value user => exact .bind (writeSetting key _ user) fun _ => .pure _
  | getBoolean key default user => exact getBoolean key default user
  | getLong key default user => exact getLong key default user
  | getString key default user => exact getString key default user
  | getLockPatternSize user => exact patternSize user
  | setLockPattern hash user => exact .bind (setHash .pattern hash user) fun _ => .pure _
  | checkPattern hash user => exact .bind (checkHash .pattern hash user) fun _ => .pure _
  | setLockPassword hash user => exact .bind (setHash .password hash user) fun _ => .pure _
  | checkPassword hash user => exact .bind (checkHash .password hash user) fun _ => .pure _
  | setLockGesture sample user => exact .bind (setGesture sample user) fun _ => .pure _
  | checkGesture sample user => exact checkGesture c r sample user
  | havePassword user => exact haveHash .password user
  | havePattern user => exact haveHash .pattern user
  | haveGesture user => exact haveGesture user
  | removeUser user => exact .bind (removeUser user) fun _ => .pure _
  | systemReady source => exact .bind (importLegacy source) fun _ => .pure _

/-- Every call is confined to the user that it is for, whoever makes it. -/
theorem perform (c : Config) (r : Recognizer) (caller : Caller) (call : Call) :
    Confined call.user (perform c r caller call) := by
  rw [Holdings.perform]
  split
  · exact answer c r call
  · exact .throw _

end Confined

end Holdings

/-! ### Runs -/

/-- Whether an event is a call for a user. -/
def Event.isFor (u : UserId) : Event → Bool
  | .calling _ call => call.user = u
  | _ => false

/-- Some calls with their callers, as events. -/
def Event.calls (calls : List (Caller × Call)) : List Event :=
  calls.map fun (caller, call) => .calling caller call

theorem Event.filter_isFor_calls (u : UserId) (calls : List (Caller × Call)) :
    (Event.calls calls).filter (Event.isFor u) =
      Event.calls (calls.filter fun x => x.2.user = u) := by
  rw [Event.calls, List.filter_map, Event.calls]
  rfl

namespace Session

/-- Whether two sessions are the same as far as a user can tell: both are closed on one tree, or
both are open, with one configuration and recognizer, and hold the same of the user. -/
inductive AlikeFor (dir : Path) (u : UserId) : Session → Session → Prop
  | closed (t : FileTree) : AlikeFor dir u (.closed t) (.closed t)
  | opened {c : Config} {r : Recognizer} {s s' : Store} (keeps : c.dataDir = dir)
    (sound : s.Sound c r) (sound' : s'.Sound c r) (same : s.holdings.SameFor u s'.holdings) :
    AlikeFor dir u (.opened s) (.opened s')

namespace AlikeFor

variable {dir : Path} {u : UserId} {s s' : Session}

theorem sameFor (alike : AlikeFor dir u s s') : (s.holdings dir).SameFor u (s'.holdings dir) := by
  cases alike with
  | closed t => exact .refl u _
  | opened keeps sound sound' same =>
    rw [holdings_opened sound keeps, holdings_opened sound' keeps]
    exact same

/-- A call for another user is not noticed. -/
theorem unseen (alike : AlikeFor dir u s s') (caller : Caller) {call : Call}
    (other : call.user ≠ u) : AlikeFor dir u (s.handle (.calling caller call)).2 s' := by
  cases alike with
  | closed t => exact .closed t
  | @opened c r s s' keeps sound sound' same =>
    obtain ⟨-, left, holdings⟩ := Mirrors.perform caller call s sound
    have others := (Holdings.Confined.perform c r caller call).others s.holdings u other.symm
    rw [← holdings] at others
    rw [handle_opened]
    exact .opened keeps left sound' (others.symm.trans same)

/-- A call for the user is answered alike, and then again nothing can be told apart. -/
theorem seen (alike : AlikeFor dir u s s') (caller : Caller) {call : Call} (own : call.user = u) :
    (s'.handle (.calling caller call)).1 = (s.handle (.calling caller call)).1 ∧
      AlikeFor dir u (s.handle (.calling caller call)).2 (s'.handle (.calling caller call)).2 := by
  subst own
  cases alike with
  | closed t => exact ⟨rfl, .closed t⟩
  | @opened c r s s' keeps sound sound' same =>
    obtain ⟨value, left, holdings⟩ := Mirrors.perform caller call s sound
    obtain ⟨value', left', holdings'⟩ := Mirrors.perform caller call s' sound'
    have confined := Holdings.Confined.perform c r caller call
    have result := confined.result s.holdings s'.holdings same
    have own := confined.own s.holdings s'.holdings same
    rw [← value, ← value'] at result
    rw [← holdings, ← holdings'] at own
    rw [handle_opened, handle_opened]
    exact ⟨congrArg some result, .opened keeps left left' own⟩

/-- The calls for the user alone are answered as all calls together answer them. -/
theorem run_calls (alike : AlikeFor dir u s s') (calls : List (Caller × Call)) :
    (s'.run (Event.calls (calls.filter fun x => x.2.user = u))).1 =
        s.repliesTo (Event.isFor u) (Event.calls calls) ∧
      AlikeFor dir u (s.run (Event.calls calls)).2
        (s'.run (Event.calls (calls.filter fun x => x.2.user = u))).2 := by
  rw [← Event.filter_isFor_calls]
  refine run_filter (R := AlikeFor dir u) (fun e he left s s' alike => ?_)
    (fun e he kept s s' alike => ?_) alike
  · obtain ⟨⟨caller, call⟩, -, rfl⟩ := List.mem_map.mp he
    exact alike.unseen caller (of_decide_eq_false left)
  · obtain ⟨⟨caller, call⟩, -, rfl⟩ := List.mem_map.mp he
    exact alike.seen caller (of_decide_eq_true kept)

end AlikeFor

/-- **Users are isolated.** Two runs open a store on an empty data directory with the same
configuration and have the same calls for a user, in the same order, whoever makes them. Then
both answer these calls alike, and both end with the same settings of the user, in reading order,
and with the same content of each of the user's credential files. The calls for other users may
be any, in any places between. -/
theorem users_are_isolated {dir : Path} {t : FileTree} (start : t.Vacant dir) {c : Config}
    (r : Recognizer) (keeps : c.dataDir = dir) (u : UserId) {calls calls' : List (Caller × Call)}
    (same : (calls.filter fun x => x.2.user = u) = calls'.filter fun x => x.2.user = u) :
    let es := .opening c r :: Event.calls calls
    let es' := .opening c r :: Event.calls calls'
    let s := ((Session.closed t).run es).2
    let s' := ((Session.closed t).run es').2
    (Session.closed t).repliesTo (Event.isFor u) es =
        (Session.closed t).repliesTo (Event.isFor u) es' ∧
      ((s.holdings dir).database.query fun table => table.entries u) =
        ((s'.holdings dir).database.query fun table => table.entries u) ∧
      ∀ f, s.files.file? ((Layout.mk dir).file u f).names =
        s'.files.file? ((Layout.mk dir).file u f).names := by
  intro es es' s s'
  obtain ⟨rest, -⟩ := start.resting
  let s₀ := ((Session.closed t).handle (.opening c r)).2
  have sound : s₀.Sound dir := (handle_step (s := .closed t) (e := .opening c r)
    start.isDirect rest keeps).1
  have alike : AlikeFor dir u s₀ s₀ := by
    cases hs : s₀ with
    | closed t => exact .closed t
    | opened store =>
      rw [hs] at sound
      obtain ⟨c, r, hdir, sound⟩ := sound
      exact .opened hdir sound sound (.refl u _)
  -- both runs are compared with the one that has the calls for the user alone
  obtain ⟨replies, final⟩ := alike.run_calls calls
  obtain ⟨replies', final'⟩ := alike.run_calls calls'
  rw [same] at replies final
  have held : (s'.holdings dir).SameFor u (s.holdings dir) :=
    final'.sameFor.trans final.sameFor.symm
  refine ⟨?_, Database.entries_congr held.rows, fun f => congrFun held.files f⟩
  rw [repliesTo_cons, repliesTo_cons]
  exact replies.symm.trans replies'

/-- A user's password stays when the system user, whose directory has those of all others in it, is
removed. -/
theorem password_survives_removal_of_other :
    let run (calls : List (Caller × Call)) : List Event :=
      .opening (.ofDataDir ⟨"data"⟩) rankByDistance :: Event.calls calls
    let setting : Caller × Call := (.system, .setLockPassword [0xaa] ⟨5⟩)
    let checking : Caller × Call := (.system, .checkPassword [0xbb] ⟨5⟩)
    FileTree.empty.Vacant ⟨"data"⟩ ∧
      (Session.closed .empty).repliesTo (Event.isFor ⟨5⟩)
          (run [setting, (.system, .removeUser .system), checking]) =
        [some (.ok .done), some (.ok (.boolean false))] := by
  intro run setting checking
  have start : FileTree.empty.Vacant ⟨"data"⟩ := FileTree.vacant_empty (by decide)
  have same : ([setting, (.system, .removeUser .system), checking].filter
      fun x => x.2.user = ⟨5⟩) = [setting, checking].filter fun x => x.2.user = ⟨5⟩ := rfl
  obtain ⟨replies, -⟩ := users_are_isolated start rankByDistance
    (rfl : (Config.ofDataDir ⟨"data"⟩).dataDir = ⟨"data"⟩) ⟨5⟩ same
  refine ⟨start, replies.trans ?_⟩
  decide +kernel

end Session

end Keyguard
