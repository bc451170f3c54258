import Keyguard.Proofs.Credential.Patterns
import Keyguard.Proofs.Settings.Assignments

/-!
# The ledger of hashes

A **ledger** has, for every user and kind of credential, the hash that was last set since the user
was last removed. `Records` says that the files have what the ledger has: the password in its
file, and the pattern at one variant, which is the one in force unless the settings table is lost.

Every permitted call keeps the records when it is entered into the ledger (`Records.after`), and
so does opening (`Records.opened`). So in every run from an empty data directory a check by the
system is answered from the ledger, and so is the question whether a hash is set
(`check_answers_ledger`).

Which variant is in force is decided by the text that the calls so far have assigned to the size
of the user's pattern grid (`Assignments.gridSize`): the standard one exactly if that gives the
standard size.
-/

namespace Keyguard

/-- The hash that was last set, for each kind of credential and each user. -/
abbrev Ledger := CredentialKind → UserId → Option Bytes

namespace Ledger

/-- The ledger without entries. -/
def empty : Ledger := fun _ _ => none

/-- The ledger after a hash was set. -/
def set (g : Ledger) (kind : CredentialKind) (u : UserId) (hash : Bytes) : Ledger :=
  fun k w => if k = kind ∧ w = u then some hash else g k w

/-- The ledger after a user was removed. -/
def remove (g : Ledger) (u : UserId) : Ledger := fun k w => if w = u then none else g k w

/-- Enters a permitted call. -/
def enter (g : Ledger) : Call → Ledger
  | .setLockPattern hash u => g.set .pattern u hash
  | .setLockPassword hash u => g.set .password u hash
  | .removeUser u => g.remove u
  | _ => g

/-- Enters an event, if it is a permitted call of an open store. -/
def note (g : Ledger) : Event × Reply → Ledger
  | (.calling caller call, some _) =>
    if caller.mayRun call.operation call.user then g.enter call else g
  | _ => g

end Ledger

/-! ### Records -/

/-- Whether the credential files have what the ledger has. -/
structure Records (g : Ledger) (h : Holdings) : Prop where
  password : ∀ u, h.files.bytes u .password = (g .password u).getD []
  pattern : ∀ u, ∃ v, (¬h.database.Lost → v = h.variant u) ∧
    h.files.PatternAt u v ((g .pattern u).getD [])

namespace Records

variable {g : Ledger} {h : Holdings} {db : Database}

/-- While the settings table is not lost, a pattern is at the variant in force. -/
theorem patternAt (rec : Records g h) (kept : ¬h.database.Lost) (u : UserId) :
    h.files.PatternAt u (h.variant u) ((g .pattern u).getD []) := by
  obtain ⟨v, force, at_⟩ := rec.pattern u
  exact force kept ▸ at_

/-- Records hold on when the database changes and the variants in force do not. -/
theorem withDatabase (rec : Records g h) (lost : h.database.Lost → db.Lost)
    (same : ∀ u, db.variant u = h.database.variant u) : Records g { h with database := db } where
  password := rec.password
  pattern u := by
    obtain ⟨v, force, at_⟩ := rec.pattern u
    refine ⟨v, fun kept => ?_, at_⟩
    rw [force fun e => kept (lost e)]
    exact (same u).symm

/-- Opening a store keeps the records. -/
theorem opened (rec : Records g h) (c : Config)
    (stored : h.database = .blank ∨ h.database.version = schemaVersion) :
    Records g (h.opened c) := by
  rcases stored with blank | version
  · refine rec.withDatabase (fun lost => ?_) fun u => ?_
    · rw [blank] at lost
      exact absurd lost.2 (by decide)
    · have empty : Database.blank.migrate.variant u = .standard :=
        Database.variant_of_no_cells rfl
      have foreign : patternSizeKey ≠ disabledKey := by decide
      have before : Database.blank.variant u = .standard := Database.variant_of_no_table rfl
      rw [blank, before, ← empty, Store.seed]
      split
      · exact Database.variant_write (.inl foreign)
      · rw [Database.commit_nil]
  · rw [Holdings.opened_of_version c version]
    exact rec

/-- Without a settings table no setting is written. -/
private theorem written_of_no_table (h : Holdings) (none : h.database.settings = none)
    (key : String) (value : SettingValue) (user : UserId) : h.written key value user = h := by
  have unchanged : (h.database.commit [.write key user value.stored]).2 = h.database := by
    rw [Database.commit_of_no_table none (by simp)]
  simp only [Holdings.written, unchanged, Holdings.variant, Contents.movePattern, true_or,
    if_true, ite_self]

/-- Writing a setting keeps the records. -/
theorem written (rec : Records g h) (key : String) (value : SettingValue) (user : UserId) :
    Records g (h.written key value user) := by
  by_cases table : h.database.settings = none
  · rw [written_of_no_table h table]
    exact rec
  by_cases hk : key = patternSizeKey
  · rw [Holdings.written, if_pos hk]
    refine ⟨fun w => (Contents.bytes_movePattern (.inr rfl)).trans (rec.password w), fun w => ?_⟩
    have at_ := rec.patternAt (fun lost => table lost.1) w
    by_cases hw : w = user
    · subst hw
      exact ⟨_, fun _ => rfl, at_.movePattern _⟩
    · exact ⟨h.variant w, fun _ => (Database.variant_write (.inr hw)).symm,
        at_.congr fun v => Contents.bytes_movePattern (.inl hw)⟩
  · rw [Holdings.written, if_neg hk]
    have other : patternSizeKey ≠ key := Ne.symm hk
    exact rec.withDatabase Database.lost_commit.mpr fun w => Database.variant_write (.inl other)

/-- Storing a hash and entering it keeps the records. -/
theorem store (rec : Records g h) (kind : CredentialKind) (hash : Bytes) (u : UserId) :
    Records (g.set kind u hash) { h with files := h.files.store kind hash u (h.variant u) } := by
  cases kind with
  | password =>
    refine ⟨fun w => ?_, fun w => ?_⟩
    · rw [Contents.bytes_store_password, Ledger.set]
      by_cases hw : w = u
      · simp [hw]
      · simp [hw, rec.password w]
    · obtain ⟨v, force, at_⟩ := rec.pattern w
      refine ⟨v, force, ?_⟩
      have same : g.set .password u hash .pattern w = g .pattern w := if_neg (by simp)
      rw [same]
      refine at_.congr fun v => ?_
      rw [Contents.bytes_store_password, if_neg (by simp)]
  | pattern =>
    refine ⟨fun w => ?_, fun w => ?_⟩
    · have same : g.set .pattern u hash .password w = g .password w := if_neg (by simp)
      rw [same]
      exact (Contents.bytes_store_pattern (.inr rfl)).trans (rec.password w)
    · by_cases hw : w = u
      · subst hw
        have entered : g.set .pattern w hash .pattern w = some hash := if_pos ⟨rfl, rfl⟩
        rw [entered]
        exact ⟨_, fun _ => rfl, Contents.patternAt_store h.files w _ hash⟩
      · obtain ⟨v, force, at_⟩ := rec.pattern w
        have same : g.set .pattern u hash .pattern w = g .pattern w := if_neg fun e => hw e.2
        rw [same]
        exact ⟨v, force, at_.congr fun v => Contents.bytes_store_pattern (.inl hw)⟩

/-- Removing a user and the user's entries keeps the records. -/
theorem removeUser (rec : Records g h) (u : UserId) :
    Records (g.remove u)
      ⟨(h.database.commit [.deleteUser u]).2, h.files.removeUser u⟩ := by
  refine ⟨fun w => ?_, fun w => ?_⟩
  · rw [Contents.bytes_removeUser, Ledger.remove]
    split
    · rfl
    · exact rec.password w
  · by_cases hw : w = u
    · have removed (f : CredentialFile) : (h.files.removeUser u).bytes w f = [] :=
        (Contents.bytes_removeUser f).trans (if_pos hw)
      have entry : g.remove u .pattern w = none := if_pos hw
      rw [entry]
      exact ⟨_, fun _ => rfl, removed _, removed _⟩
    · obtain ⟨v, force, at_⟩ := rec.pattern w
      have entry : g.remove u .pattern w = g .pattern w := if_neg hw
      rw [entry]
      refine ⟨v, fun kept => ?_,
        at_.congr fun v => (Contents.bytes_removeUser _).trans (if_neg hw)⟩
      rw [force fun lost => kept (Database.lost_commit.mpr lost)]
      exact (Database.variant_deleteUser hw).symm

/-- Setting a gesture keeps the records. -/
theorem setGesture (rec : Records g h) {sample : Gesture} {u : UserId} {c : Contents}
    (set : h.files.setGesture sample u = .ok c) : Records g { h with files := c } := by
  refine ⟨fun w => ?_, fun w => ?_⟩
  · exact (Contents.bytes_setGesture set (by simp)).trans (rec.password w)
  · obtain ⟨v, force, at_⟩ := rec.pattern w
    exact ⟨v, force, at_.congr fun v => Contents.bytes_setGesture set (by simp)⟩

/-- Every permitted call keeps the records once it is entered. -/
theorem after (rec : Records g h) (call : Call) : Records (g.enter call) (h.after call) := by
  cases call with
  | setBoolean key value user => exact rec.written key _ user
  | setLong key value user => exact rec.written key _ user
  | setString key value user => exact rec.written key _ user
  | setLockPattern hash user => exact rec.store .pattern hash user
  | setLockPassword hash user => exact rec.store .password hash user
  | setLockGesture sample user =>
    rw [Holdings.after]
    cases set : h.files.setGesture sample user with
    | ok c => exact rec.setGesture set
    | error e => exact rec
  | removeUser user => exact rec.removeUser user
  | systemReady source =>
    exact rec.withDatabase Database.lost_importLegacy.mpr fun u =>
      Database.variant_importLegacy source
  | _ => exact rec

/-- Every step keeps the records once it is noted. -/
theorem step (rec : Records g h) {e : Event} {reply : Reply} {h' : Holdings}
    (stepped : h.Step e reply h') : Records (g.note (e, reply)) h' := by
  cases stepped with
  | opening c r stored => exact rec.opened c stored
  | calling c r may version =>
    rw [Ledger.note, if_pos may]
    exact rec.after _
  | denied no =>
    rw [Ledger.note, if_neg (by simp [no])]
    exact rec
  | _ => exact rec

/-- Nothing is recorded where there is neither a ledger nor a credential. -/
theorem initial : Records .empty ⟨.blank, fun _ _ => none⟩ :=
  ⟨fun _ => rfl, fun _ => ⟨.standard, fun _ => rfl, rfl, rfl⟩⟩

/-- While the settings table is not lost, the hash in force is the one in the ledger. -/
theorem bytes_inForce (rec : Records g h) (kept : ¬h.database.Lost) (kind : CredentialKind)
    (u : UserId) : h.files.bytes u (.ofKind kind (h.variant u)) = (g kind u).getD [] := by
  cases kind with
  | pattern => exact (rec.patternAt kept u).1
  | password => exact rec.password u

end Records

/-- No event loses the settings table. -/
theorem Holdings.Step.lost {h h' : Holdings} {e : Event} {reply : Reply}
    (stepped : h.Step e reply h') (kept : ¬h.database.Lost) : ¬h'.database.Lost := by
  cases stepped with
  | opening c r stored =>
    rcases stored with blank | version
    · rw [Holdings.opened, Database.lost_commit, blank]
      exact fun lost => Option.some_ne_none _ lost.1
    · rwa [Holdings.opened_of_version c version]
  | @calling c r caller call may version =>
    cases call with
    | setLockGesture sample user =>
      rw [Holdings.after]
      cases h.files.setGesture sample user <;> exact kept
    | systemReady source => exact fun lost => kept (Database.lost_importLegacy.mp lost)
    | setBoolean _ _ _ | setLong _ _ _ | setString _ _ _ | removeUser _ =>
      exact fun lost => kept (Database.lost_commit.mp lost)
    | _ => exact kept
  | _ => exact kept

/-! ### The size of the pattern grid -/

/-- The size of a user's pattern grid: the integer that was assigned to its key if it is positive
and less than 128, and else 3. -/
def Assignments.gridSize (m : Assignments) (u : UserId) : Nat :=
  match (m.text? u "lock_pattern_size").bind SettingValue.readLong? with
  | some size => if 0 < size.toInt ∧ size.toInt < 128 then size.toInt.toNat else 3
  | none => 3

/-- The size of a user's grid is the one that was assigned. -/
theorem SettingsAgree.patternSize {m : Assignments} {db : Database} (agree : SettingsAgree m db)
    (u : UserId) : db.patternSize u = m.gridSize u := by
  have read := agree.getLong "lock_pattern_size" (-1) u
  rw [Database.patternSize, patternSizeKey, read, Assignments.gridSize]
  cases (m.text? u "lock_pattern_size").bind SettingValue.readLong? <;> rfl

theorem Agrees.patternSize {m : Option Assignments} {h : Holdings} (agrees : Agrees m h)
    (u : UserId) : h.database.patternSize u = (m.getD .empty).gridSize u := by
  cases m with
  | none =>
    have blank : h.database = .blank := agrees
    rw [blank]
    rfl
  | some m => exact agrees.2.patternSize u

theorem Database.variant_eq_standard_iff {db : Database} {u : UserId} :
    db.variant u = .standard ↔ db.patternSize u = 3 := by
  rw [variant]
  by_cases size : db.patternSize u = standardPatternSize
  · exact iff_of_true (if_pos size) size
  · exact iff_of_false (by rw [if_neg size]; exact GridVariant.noConfusion) size

/-! ### Answers -/

namespace CredentialKind

/-- The call that compares a candidate with a user's hash. -/
def checking (kind : CredentialKind) (candidate : Bytes) (u : UserId) : Call :=
  match kind with
  | .pattern => .checkPattern candidate u
  | .password => .checkPassword candidate u

/-- The call that asks whether a user has a hash. -/
def having (kind : CredentialKind) (u : UserId) : Call :=
  match kind with
  | .pattern => .havePattern u
  | .password => .havePassword u

end CredentialKind

namespace Records

variable {g : Ledger} {h : Holdings}

/-- A check is answered from the ledger. -/
theorem answer_checking (rec : Records g h) (kept : ¬h.database.Lost) (c : Config)
    (r : Recognizer) (kind : CredentialKind) (candidate : Bytes) (u : UserId) :
    (outcome (Holdings.answer c r (kind.checking candidate u)) h).1 = .ok (.boolean (decide
      (g kind u = none ∨ g kind u = some [] ∨ g kind u = some candidate))) := by
  have answered : (outcome (Holdings.answer c r (kind.checking candidate u)) h).1 =
      .ok (.boolean (h.files.admits kind candidate u (h.variant u))) := by
    cases kind <;> rfl
  rw [answered, Contents.admits, rec.bytes_inForce kept]
  cases g kind u with
  | none => simp
  | some hash =>
    simp only [Option.getD_some, Bool.beq_eq_decide_eq, reduceCtorEq, false_or,
      Option.some.injEq, Bool.decide_or]

/-- Whether a hash is set is answered from the ledger. -/
theorem answer_having (rec : Records g h) (kept : ¬h.database.Lost) (c : Config)
    (r : Recognizer) (kind : CredentialKind) (u : UserId) :
    (outcome (Holdings.answer c r (kind.having u)) h).1 =
      .ok (.boolean (decide (g kind u ≠ none ∧ g kind u ≠ some []))) := by
  have answered : (outcome (Holdings.answer c r (kind.having u)) h).1 =
      .ok (.boolean (h.files.holds kind u (h.variant u))) := by
    cases kind <;> rfl
  rw [answered, Contents.holds, rec.bytes_inForce kept]
  cases g kind u <;> simp

end Records

namespace Session

/-- In every run from an empty data directory the system's checks are answered from the ledger,
for every user and for patterns as for passwords: a candidate matches if no hash is set, if the
hash is empty, or if it is the hash. Whether a hash is set is answered from the ledger as well, and
the size of the pattern grid from the text that was assigned to it. The variant in force is the
standard one exactly if that size is 3, and in the file of the variant that is not in force there
is never a hash. -/
theorem check_answers_ledger {dir : Path} {t : FileTree} (start : t.Vacant dir)
    {es : List Event} (keeps : ∀ e ∈ es, e.KeepsTo dir) (u : UserId) :
    let s := ((Session.closed t).run es).2
    let g := ((Session.closed t).history es).foldl Ledger.note .empty
    let m := (((Session.closed t).history es).foldl Assignments.note none).getD .empty
    (s.isOpen → ∀ kind : CredentialKind,
      (∀ candidate, (s.handle (.calling .system (kind.checking candidate u))).1 =
        some (.ok (.boolean (decide
          (g kind u = none ∨ g kind u = some [] ∨ g kind u = some candidate))))) ∧
      ∀ caller : Caller, caller.mayRun (kind.having u).operation (kind.having u).user →
        (s.handle (.calling caller (kind.having u))).1 =
          some (.ok (.boolean (decide (g kind u ≠ none ∧ g kind u ≠ some []))))) ∧
    (s.isOpen → ∀ caller : Caller, caller.mayRun .getLockPatternSize u →
      (s.handle (.calling caller (.getLockPatternSize u))).1 = some (.ok (.size (m.gridSize u)))) ∧
    ((s.holdings dir).variant u = .standard ↔ m.gridSize u = 3) ∧
    ∀ v, v ≠ (s.holdings dir).variant u →
      s.files.file? ((Layout.mk dir).file u (.pattern v)).names = none ∨
        s.files.file? ((Layout.mk dir).file u (.pattern v)).names = some [] := by
  intro s g m
  obtain ⟨rest, vacant⟩ := start.resting
  -- the invariant of the run: the records are right and the settings table is there
  obtain ⟨sound, rec, kept⟩ : s.Sound dir ∧ Records g (s.holdings dir) ∧
      ¬(s.holdings dir).database.Lost := by
    refine run_preserves (s := .closed t) Ledger.note (fun g h => Records g h ∧ ¬h.database.Lost)
      (fun g h e reply h' inv stepped => ⟨inv.1.step stepped, stepped.lost inv.2⟩)
      start.isDirect keeps rest ?_
    rw [holdings_closed, vacant]
    exact ⟨.initial, fun lost => absurd lost.2 (by decide)⟩
  have size : (s.holdings dir).database.patternSize u = m.gridSize u := by
    refine Agrees.patternSize (run_preserves (s := .closed t) Assignments.note Agrees
      (fun m h e reply h' agrees stepped => agrees.step stepped) start.isDirect keeps rest ?_).2 u
    rw [holdings_closed, vacant]
    rfl
  refine ⟨fun isOpen kind => ⟨fun candidate => ?_, fun caller may => ?_⟩,
    fun isOpen caller may => ?_, size ▸ Database.variant_eq_standard_iff, fun v hv => ?_⟩
  · obtain ⟨c, r, answered⟩ := handle_calling sound isOpen
      (Caller.mayRun_system (kind.checking candidate u).operation (kind.checking candidate u).user)
    rw [answered, rec.answer_checking kept]
  · obtain ⟨c, r, answered⟩ := handle_calling sound isOpen may
    rw [answered, rec.answer_having kept]
  · have may : caller.mayRun (Call.getLockPatternSize u).operation
      (Call.getLockPatternSize u).user = true := may
    obtain ⟨c, r, answered⟩ := handle_calling sound isOpen may
    rw [answered, ← size]
    rfl
  · have file : (s.files.file? ((Layout.mk dir).file u (.pattern v)).names).getD [] = [] := by
      rw [Contents.eq_other_of_ne hv]
      exact (rec.patternAt kept u).2
    cases hf : s.files.file? ((Layout.mk dir).file u (.pattern v)).names with
    | none => exact .inl rfl
    | some content =>
      rw [hf] at file
      exact .inr (congrArg some file)

/-- After the size of the grid was changed the pattern is in the other file, and it refuses
another candidate there. -/
theorem resized_grid_keeps_pattern :
    let es : List Event := [.opening (.ofDataDir ⟨"data"⟩) rankByDistance,
      .calling .system (.setLockPattern [0xaa] ⟨2⟩),
      .calling .system (.setString "lock_pattern_size" " 4" ⟨2⟩)]
    let s := ((Session.closed .empty).run es).2
    FileTree.empty.Vacant ⟨"data"⟩ ∧ (∀ e ∈ es, e.KeepsTo ⟨"data"⟩) ∧ s.isOpen ∧
      (s.handle (.calling .system (.checkPattern [0xaa] ⟨2⟩))).1 = some (.ok (.boolean true)) ∧
      (s.handle (.calling .system (.checkPattern [0xbb] ⟨2⟩))).1 = some (.ok (.boolean false)) ∧
      (s.handle (.calling (.user ⟨2⟩) (.getLockPatternSize ⟨2⟩))).1 = some (.ok (.size 4)) ∧
      (s.holdings ⟨"data"⟩).variant ⟨2⟩ ≠ .standard := by
  intro es s
  have start : FileTree.empty.Vacant ⟨"data"⟩ := FileTree.vacant_empty (by decide)
  have keeps : ∀ e ∈ es, e.KeepsTo ⟨"data"⟩ := by simp [es, Event.KeepsTo, Config.ofDataDir]
  have isOpen : s.isOpen := by decide +kernel
  have entered : ((Session.closed .empty).history es).foldl Ledger.note .empty .pattern ⟨2⟩ =
      some [0xaa] := by decide +kernel
  have assigned : ((((Session.closed .empty).history es).foldl Assignments.note none).getD
      .empty).gridSize ⟨2⟩ = 4 := by decide +kernel
  obtain ⟨answers, sizes, standard, -⟩ := check_answers_ledger start keeps ⟨2⟩
  have checked := (answers isOpen .pattern).1
  have sized := sizes isOpen (.user ⟨2⟩) (by decide)
  rw [entered] at checked
  rw [assigned] at sized standard
  exact ⟨start, keeps, isOpen, checked [0xaa], checked [0xbb], sized,
    fun same => absurd (standard.mp same) (by decide)⟩

end Session

end Keyguard
