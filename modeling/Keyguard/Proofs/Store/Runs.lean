import Keyguard.Proofs.Store.Resting

/-!
# Runs of a session

A session on one data directory is **sound** if its store is, or, while that is closed, if the
tree is at rest. Its holdings are those of the tree that any other program sees
(`Session.holdings`).

`Holdings.Step` lists what an event can answer and what it does to the holdings, and
`Session.handle_step` says that every event of a sound session is such a step and leaves the
session sound. So whatever every step preserves holds after every run (`Session.run_preserves`);
there the invariant may speak of what was noted of the events and their replies so far. Runs start
from an empty data directory (`FileTree.Vacant.sound`).
-/

namespace Keyguard

open FileTree

-- unification must not compute what a tree has at the places of a layout
attribute [local irreducible] FileTree.at?

/-! ### Empty data directories -/

/-- Whether nothing is below a path that can be followed or that leads straight to its place. -/
structure FileTree.Vacant (t : FileTree) (dir : Path) : Prop where
  reached : t.follow dir = .ok dir.names ∨ dir.IsDirect
  nothing : ∀ q, dir.names <+: q → q ≠ dir.names → t.at? q = none

namespace FileTree.Vacant

variable {t : FileTree} {dir : Path}

theorem isDirect (h : t.Vacant dir) : dir.IsDirect :=
  h.reached.elim (fun reached => isDirect_of_follow reached h.nothing) id

/-- Nothing is in the system directory. -/
theorem at_of_systemDir (h : t.Vacant dir) {q : Place}
    (below : (Layout.mk dir).systemDir.names <+: q) : t.at? q = none := by
  have names : (Layout.mk dir).systemDir.names = dir.names ++ ["system"] :=
    Layout.names_systemDir _
  rw [names] at below
  refine h.nothing q ((List.prefix_append _ _).trans below) ?_
  rintro rfl
  have lengths := below.length_le
  rw [List.length_append, List.length_singleton] at lengths
  omega

/-- An empty data directory is at rest, without a database and without credentials. -/
theorem resting (h : t.Vacant dir) :
    (Layout.mk dir).Resting t ∧ (Layout.mk dir).holdings t = ⟨.blank, fun _ _ => none⟩ := by
  have file (u : UserId) (f : CredentialFile) :
      t.at? ((Layout.mk dir).file u f).names = none := by
    rw [Layout.names_file]
    exact h.at_of_systemDir ((Layout.systemDir_prefix_userDir u).trans (List.prefix_append _ _))
  have database : t.at? (Layout.mk dir).database.names = none := by
    rw [Layout.names_database]
    exact h.at_of_systemDir (List.prefix_append _ _)
  have journal : t.at? (Layout.mk dir).journal.names = none := by
    rw [Layout.names_journal]
    exact h.at_of_systemDir (List.prefix_append _ _)
  have users : t.at? (Layout.mk dir).usersDir.names = none := by
    rw [Layout.names_usersDir]
    exact h.at_of_systemDir (List.prefix_append _ _)
  have user (u : UserId) : t.at? ((Layout.mk dir).userDir u).names = none :=
    h.at_of_systemDir (Layout.systemDir_prefix_userDir u)
  refine ⟨⟨⟨?_, fun u => ?_, fun u f => .inl (file u f)⟩, journal, .inl database⟩, ?_⟩
  · rw [FileTree.file?, users]
    rfl
  · rw [FileTree.file?, user]
    rfl
  · rw [Layout.holdings, Layout.stored_of_at database]
    congr 1
    funext u f
    rw [Layout.contents, FileTree.file?, file]
    rfl

end FileTree.Vacant

/-- Without any file every direct path leads to an empty data directory. -/
theorem FileTree.vacant_empty {dir : Path} (direct : dir.IsDirect) :
    FileTree.empty.Vacant dir := by
  refine ⟨.inr direct, fun q below hne => ?_⟩
  have nonempty : q ≠ [] := by
    rintro rfl
    exact hne (List.prefix_nil.mp below).symm
  rw [FileTree.at?, if_neg nonempty]
  rfl

/-! ### Steps -/

/-- Whether an event keeps to a data directory. -/
def Event.KeepsTo (dir : Path) : Event → Prop
  | .opening c _ => c.dataDir = dir
  | _ => True

/-- What an event can answer and do to holdings. -/
inductive Holdings.Step (h : Holdings) : Event → Reply → Holdings → Prop
  | refused (c : Config) (r : Recognizer) (e : StoreError) :
    h.Step (.opening c r) (some (.error e)) h
  | opening (c : Config) (r : Recognizer)
    (stored : h.database = .blank ∨ h.database.version = schemaVersion) :
    h.Step (.opening c r) (some (.ok .done)) (h.opened c)
  | closing : h.Step .closing (some (.ok .done)) h
  | unanswered (caller : Caller) (call : Call) : h.Step (.calling caller call) none h
  | denied {caller : Caller} {call : Call} (no : caller.mayRun call.operation call.user = false) :
    h.Step (.calling caller call)
      (some (.error (.permissionDenied caller call.operation call.user))) h
  | calling (c : Config) (r : Recognizer) {caller : Caller} {call : Call}
    (may : caller.mayRun call.operation call.user = true)
    (version : h.database.version = schemaVersion) :
    h.Step (.calling caller call) (some (outcome (Holdings.answer c r call) h).1) (h.after call)

namespace Session

variable {dir : Path} {s : Session}

/-- Whether a session is sound for a data directory. -/
def Sound (dir : Path) : Session → Prop
  | .closed t => (Layout.mk dir).Resting t
  | .opened s => ∃ c r, c.dataDir = dir ∧ s.Sound c r

/-- What a session holds, as any other program sees it. -/
def holdings (dir : Path) (s : Session) : Holdings := (Layout.mk dir).holdings s.files

/-- Whether a session has its store open. -/
def isOpen : Session → Bool
  | .closed _ => false
  | .opened _ => true

theorem holdings_closed (t : FileTree) :
    (Session.closed t).holdings dir = (Layout.mk dir).holdings t := rfl

/-- An open session shows what its store holds. -/
theorem holdings_opened {c : Config} {r : Recognizer} {s : Store} (sound : s.Sound c r)
    (hdir : c.dataDir = dir) : (Session.opened s).holdings dir = s.holdings := by
  have layout : s.layout = ⟨dir⟩ := by rw [Store.layout, sound.config, hdir]
  rw [holdings, files, Store.shown, ← layout, Layout.holdings, Store.holdings,
    Layout.stored_of_at (Connection.at_shown_database sound.file s.layout s.files)]
  congr 1
  exact Layout.contents_congr fun q database journal =>
    s.toConnection.at_shown s.layout s.files database journal

/-- Closing keeps a session sound and loses nothing. -/
theorem close_resting (sound : s.Sound dir) :
    (Layout.mk dir).Resting s.close ∧ (Layout.mk dir).holdings s.close = s.holdings dir := by
  cases s with
  | closed t => exact ⟨sound, rfl⟩
  | opened s =>
    obtain ⟨c, r, rfl, sound⟩ := sound
    rw [holdings_opened sound rfl]
    exact Store.close_resting sound

/-- An open session answers a call by what its store does. -/
theorem handle_opened (s : Store) (caller : Caller) (call : Call) :
    (Session.opened s).handle (.calling caller call) =
      (some (outcome (Store.perform caller call) s).1,
        .opened (outcome (Store.perform caller call) s).2) := by
  simp only [handle, outcome]
  cases Store.perform caller call s <;> rfl

/-- Every event of a sound session is a step of its holdings and leaves it sound. -/
theorem handle_step (direct : dir.IsDirect) (sound : s.Sound dir) {e : Event}
    (keeps : e.KeepsTo dir) :
    (s.handle e).2.Sound dir ∧
      (s.holdings dir).Step e (s.handle e).1 ((s.handle e).2.holdings dir) := by
  obtain ⟨rest, holdings⟩ := close_resting sound
  cases e with
  | closing =>
    refine ⟨rest, ?_⟩
    rw [← holdings]
    exact .closing
  | opening c r =>
    obtain rfl : c.dataDir = dir := keeps
    rw [← holdings]
    rcases Store.openWith_of_resting rest direct r with
      ⟨e, t, opened, rest', same⟩ | ⟨s', t, opened, sound', same⟩
    · simp only [handle, opened, holdings_closed, same]
      exact ⟨rest', .refused c r e⟩
    · simp only [handle, opened, holdings_opened sound' rfl, same]
      exact ⟨⟨c, r, rfl, sound'⟩, .opening c r rest.stored_cases⟩
  | calling caller call =>
    cases s with
    | closed t => exact ⟨sound, .unanswered caller call⟩
    | opened s =>
      obtain ⟨c, r, rfl, sound⟩ := sound
      obtain ⟨value, sound', same⟩ := Mirrors.perform caller call s sound
      rw [handle_opened, holdings_opened sound rfl, holdings_opened sound' rfl, value, same]
      refine ⟨⟨c, r, rfl, sound'⟩, ?_⟩
      rw [Holdings.perform]
      cases may : caller.mayRun call.operation call.user with
      | false => exact .denied may
      | true =>
        rw [if_pos rfl, Holdings.answer_snd]
        exact .calling c r may sound.version

/-! ### Runs -/

/-- The events of a list with their replies. -/
def history (s : Session) (es : List Event) : List (Event × Reply) := es.zip (s.run es).1

/-- A run keeps a session sound, and with it whatever every step preserves. -/
theorem run_preserves {γ : Type} (note : γ → Event × Reply → γ) (Inv : γ → Holdings → Prop)
    (step : ∀ g h e reply h', Inv g h → h.Step e reply h' → Inv (note g (e, reply)) h')
    (direct : dir.IsDirect) {es : List Event} (keeps : ∀ e ∈ es, e.KeepsTo dir) {g : γ}
    (sound : s.Sound dir) (inv : Inv g (s.holdings dir)) :
    (s.run es).2.Sound dir ∧
      Inv ((s.history es).foldl note g) ((s.run es).2.holdings dir) := by
  induction es generalizing s g with
  | nil => exact ⟨sound, inv⟩
  | cons e es ih =>
    obtain ⟨sound', stepped⟩ := handle_step direct sound (keeps e List.mem_cons_self)
    exact ih (fun e he => keeps e (List.mem_cons_of_mem _ he)) sound'
      (step _ _ _ _ _ inv stepped)

/-- The same for what every step preserves of all events and replies so far. -/
theorem run_preserves_history (Inv : List (Event × Reply) → Holdings → Prop)
    (step : ∀ notes h e reply h', Inv notes h → h.Step e reply h' →
      Inv (notes ++ [(e, reply)]) h')
    (direct : dir.IsDirect) {es : List Event} (keeps : ∀ e ∈ es, e.KeepsTo dir)
    (sound : s.Sound dir) (inv : Inv [] (s.holdings dir)) :
    (s.run es).2.Sound dir ∧ Inv (s.history es) ((s.run es).2.holdings dir) := by
  have collected (notes : List (Event × Reply)) :
      notes.foldl (fun notes x => notes ++ [x]) [] = notes := by simp [← List.flatMap_def]
  have preserved := run_preserves (fun notes x => notes ++ [x]) Inv step direct keeps sound inv
  rwa [collected] at preserved

/-- The database of an open session has the library's own version. -/
theorem version_of_isOpen (sound : s.Sound dir) (isOpen : s.isOpen) :
    (s.holdings dir).database.version = schemaVersion := by
  cases s with
  | closed t => simp [Session.isOpen] at isOpen
  | opened s =>
    obtain ⟨c, r, hdir, sound⟩ := sound
    rw [holdings_opened sound hdir]
    exact sound.version

/-- The credential files that an open session shows can be read. -/
theorem ready_of_isOpen (sound : s.Sound dir) (isOpen : s.isOpen) :
    (Layout.mk dir).Ready s.files := by
  cases s with
  | closed t => simp [Session.isOpen] at isOpen
  | opened s =>
    obtain ⟨c, r, rfl, sound⟩ := sound
    have layout : s.layout = ⟨c.dataDir⟩ := by rw [Store.layout, sound.config]
    rw [← layout]
    exact sound.ready.congr fun q database journal =>
      s.toConnection.at_shown s.layout s.files database journal

/-- An open session answers a permitted call by its holdings. -/
theorem handle_calling (sound : s.Sound dir) (isOpen : s.isOpen) {caller : Caller} {call : Call}
    (may : caller.mayRun call.operation call.user = true) :
    ∃ c r, (s.handle (.calling caller call)).1 =
      some (outcome (Holdings.answer c r call) (s.holdings dir)).1 := by
  cases s with
  | closed t => simp [Session.isOpen] at isOpen
  | opened s =>
    obtain ⟨c, r, rfl, sound⟩ := sound
    obtain ⟨value, -⟩ := Mirrors.perform caller call s sound
    rw [Holdings.perform, if_pos may] at value
    exact ⟨c, r, by rw [handle_opened, holdings_opened sound rfl, value]⟩

/-- An open session answers a permitted call that asks the database what the database answers. -/
theorem handle_asking (sound : s.Sound dir) (isOpen : s.isOpen) (caller : Caller) (call : Call)
    (f : Database → Except DatabaseFault Answer)
    (asks : ∀ c r, Holdings.answer c r call = Holdings.asking f)
    (may : caller.mayRun call.operation call.user = true) :
    (s.handle (.calling caller call)).1 =
      some ((f (s.holdings dir).database).mapError .database) := by
  obtain ⟨c, r, answered⟩ := handle_calling sound isOpen may
  rw [answered, asks, Holdings.outcome_asking_fst]

/-- A permitted call leaves what it leaves of the holdings. -/
theorem holdings_calling (sound : s.Sound dir) (isOpen : s.isOpen)
    {caller : Caller} {call : Call} (may : caller.mayRun call.operation call.user = true) :
    (s.handle (.calling caller call)).2.holdings dir = (s.holdings dir).after call := by
  cases s with
  | closed t => simp [Session.isOpen] at isOpen
  | opened s =>
    obtain ⟨c, r, rfl, sound⟩ := sound
    obtain ⟨-, sound', same⟩ := Mirrors.perform caller call s sound
    rw [Holdings.perform, if_pos may, Holdings.answer_snd] at same
    rw [handle_opened, holdings_opened sound rfl, holdings_opened sound' rfl, same]

end Session

end Keyguard
