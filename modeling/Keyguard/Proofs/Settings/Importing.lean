import Keyguard.Proofs.Settings.Assignments

/-!
# When settings are imported

The key that says the import is done is a setting of the system user like any other, so the
assignments know whether it has a value (`Assignments.marked`). While it has, an import is refused
and changes nothing; else it takes place, unless the source fails
(`SettingsAgree.importLegacy_eq`).

A call takes the value away exactly by removing the system user. So an import **stands** until the
system user is removed (`importStands`), and a run has at most one import more than such removals
(`Session.imports_follow_removals`). A store whose system user was removed imports again
(`Session.import_repeats_after_removal`).
-/

namespace Keyguard

-- unification must not compute what a tree has at the places of a layout
attribute [local irreducible] FileTree.at?

/-- Whether the key that says the import is done has a text. -/
def Assignments.marked (m : Option Assignments) : Bool :=
  ((m.getD .empty) .system importedKey).isSome

/-- Whether a reply says that something was imported. -/
def isImport : Event × Reply → Bool
  | (.calling _ (.systemReady _), some (.ok (.outcome (.imported _)))) => true
  | _ => false

/-- Whether an event removed the system user. -/
def removesSystemUser : Event × Reply → Bool
  | (.calling caller (.removeUser u), some _) =>
    decide (u = .system) && caller.mayRun .removeUser .system
  | _ => false

/-- Whether there was an import after which the system user was not removed. -/
def importStands (notes : List (Event × Reply)) : Bool :=
  notes.foldl (fun stands x => isImport x || stands && !removesSystemUser x) false

namespace SettingsAgree

variable {m : Assignments} {db : Database}

theorem read (agree : SettingsAgree m db) (key : String) (u : UserId) :
    (db.query fun t => t.read key u) = .ok (m u key) := by
  rw [Database.query_read_eq, agree key u]
  cases m u key <;> rfl

/-- An import is refused while the key has a text, and else it takes place if the source can be
read. -/
theorem importLegacy_eq (agree : SettingsAgree m db) (source : LegacySource) :
    db.importLegacy source =
      if (m .system importedKey).isSome then (.alreadyImported, db)
      else match source.collect legacyKeys with
        | .error _ => (.failed, db)
        | .ok found =>
          (.imported found.length, (db.commit (Database.importChanges found)).2) := by
  rw [Database.importLegacy_eq, agree.read]
  cases m .system importedKey <;> rfl

end SettingsAgree

theorem Holdings.outcome_systemReady_fst (c : Config) (r : Recognizer) (source : LegacySource)
    (h : Holdings) : (outcome (answer c r (.systemReady source)) h).1 =
      .ok (.outcome (h.database.importLegacy source).1) := rfl

/-! ### One step -/

theorem Assignments.marked_assign {m : Assignments} (marked : Assignments.marked (some m))
    (u : UserId) (key text : String) : Assignments.marked (some (m.assign u key text)) := by
  rw [Assignments.marked, Option.getD_some, Assignments.assign]
  split
  · rfl
  · exact marked

theorem Assignments.marked_erase {m : Assignments} (marked : Assignments.marked (some m))
    {u : UserId} (h : u ≠ .system) : Assignments.marked (some (m.erase u)) := by
  rw [Assignments.marked, Option.getD_some, Assignments.erase, if_neg h.symm]
  exact marked

/-- What a noted event does to the key: an import needs it to have no text and gives it one, and
only the removal of the system user takes its text away. -/
structure KeepsMark (m m' : Option Assignments) (x : Event × Reply) : Prop where
  unmarked : isImport x → Assignments.marked m = false
  marks : isImport x → Assignments.marked m'
  kept : Assignments.marked m → removesSystemUser x = false → Assignments.marked m'

namespace KeepsMark

variable {m m' : Option Assignments} {x : Event × Reply}

/-- What is no import, and leaves the key its text if it has one. -/
theorem of_kept (noImport : isImport x = false)
    (kept : Assignments.marked m → removesSystemUser x = false → Assignments.marked m') :
    KeepsMark m m' x :=
  ⟨fun h => absurd h (by simp [noImport]), fun h => absurd h (by simp [noImport]), kept⟩

/-- A permitted call does what it answers. -/
theorem calling {m : Assignments} {h : Holdings} (agree : SettingsAgree m h.database) (c : Config)
    (r : Recognizer) (caller : Caller) (call : Call)
    (may : caller.mayRun call.operation call.user = true) :
    KeepsMark (some m) (some (m.enter call (outcome (Holdings.answer c r call) h).1))
      (.calling caller call, some (outcome (Holdings.answer c r call) h).1) := by
  cases call with
  | setBoolean _ _ _ | setLong _ _ _ | setString _ _ _ =>
    exact of_kept rfl fun marked _ => Assignments.marked_assign marked _ _ _
  | removeUser u =>
    refine of_kept rfl fun marked unremoved => Assignments.marked_erase marked ?_
    rintro rfl
    have denied : caller.mayRun .removeUser .system = false := by
      simpa [removesSystemUser] using unremoved
    exact Bool.false_ne_true (denied.symm.trans may)
  | systemReady source =>
    rw [Holdings.outcome_systemReady_fst, agree.importLegacy_eq]
    cases marked : (m .system importedKey).isSome with
    | true => exact of_kept rfl fun marked _ => marked
    | false =>
      rw [if_neg (by simp)]
      cases source.collect legacyKeys with
      | error e => exact of_kept rfl fun marked _ => marked
      | ok found => exact ⟨fun _ => marked, fun _ => rfl, fun _ _ => rfl⟩
  | _ => exact of_kept rfl fun marked _ => marked

/-- Every step keeps the mark in this way. -/
theorem step {h h' : Holdings} (agrees : Agrees m h) {e : Event} {reply : Reply}
    (stepped : h.Step e reply h') : KeepsMark m (Assignments.note m (e, reply)) (e, reply) := by
  cases stepped with
  | opening c r stored =>
    refine of_kept rfl fun marked _ => ?_
    cases m with
    | none => exact absurd marked (by decide)
    | some m => exact marked
  | @denied caller call no =>
    have denied : isImport (.calling caller call,
        some (.error (.permissionDenied caller call.operation call.user))) = false := by
      cases call <;> rfl
    refine of_kept denied fun marked _ => ?_
    cases m with
    | none => exact marked
    | some m =>
      rw [Assignments.note, if_neg (by simp [no])]
      exact marked
  | unanswered caller call =>
    have unanswered : isImport (.calling caller call, none) = false := by
      cases call <;> rfl
    refine of_kept unanswered fun marked _ => ?_
    cases m <;> exact marked
  | @calling c r caller call may version =>
    obtain ⟨m, rfl, agree⟩ := agrees.of_version version
    rw [Assignments.note, if_pos may]
    exact calling agree c r caller call may
  | refused _ _ _ | closing =>
    refine of_kept rfl fun marked _ => ?_
    cases m <;> exact marked

end KeepsMark

/-! ### Runs -/

/-- What a run keeps: while an import stands the key has a text, and there are at most as many
imports as removals of the system user, or one more while the key has a text. -/
structure ImportsBounded (notes : List (Event × Reply)) : Prop where
  stands : importStands notes → Assignments.marked (notes.foldl Assignments.note none)
  count : notes.countP isImport ≤ notes.countP removesSystemUser +
    (Assignments.marked (notes.foldl Assignments.note none)).toNat

theorem ImportsBounded.append {notes : List (Event × Reply)} (bounded : ImportsBounded notes)
    {x : Event × Reply} (keeps : KeepsMark (notes.foldl Assignments.note none)
      (Assignments.note (notes.foldl Assignments.note none) x) x) :
    ImportsBounded (notes ++ [x]) := by
  obtain ⟨stands, count⟩ := bounded
  obtain ⟨unmarked, marks, kept⟩ := keeps
  have foldEnd {α : Type} (f : α → Event × Reply → α) (a : α) :
      (notes ++ [x]).foldl f a = f (notes.foldl f a) x := by
    rw [List.foldl_append, List.foldl_cons, List.foldl_nil]
  have countEnd (p : Event × Reply → Bool) :
      (notes ++ [x]).countP p = notes.countP p + if p x then 1 else 0 := by
    rw [List.countP_append, List.countP_singleton]
  rw [importStands] at stands
  refine ⟨fun h => ?_, ?_⟩
  · rw [importStands, foldEnd, Bool.or_eq_true, Bool.and_eq_true] at h
    rw [foldEnd]
    rcases h with imports | ⟨stood, unremoved⟩
    · exact marks imports
    · exact kept (stands stood) (by simpa using unremoved)
  · rw [countEnd, countEnd, foldEnd]
    cases imports : isImport x with
    | true =>
      -- an import needs the key to have no text
      rw [unmarked imports, Bool.toNat_false] at count
      rw [marks imports, Bool.toNat_true, if_pos rfl]
      omega
    | false =>
      cases removes : removesSystemUser x with
      | true =>
        have atMost := Bool.toNat_le (Assignments.marked (notes.foldl Assignments.note none))
        rw [if_neg Bool.false_ne_true, if_pos rfl]
        omega
      | false =>
        rw [if_neg Bool.false_ne_true]
        cases marked : Assignments.marked (notes.foldl Assignments.note none) with
        | true =>
          rw [kept marked removes]
          rwa [marked] at count
        | false =>
          rw [marked, Bool.toNat_false] at count
          exact Nat.le_add_right_of_le count

namespace Session

/-- A permitted call for an import is answered by whether the key has a text. -/
theorem handle_systemReady {s : Session} {dir : Path} (sound : s.Sound dir) (isOpen : s.isOpen)
    {m : Assignments} (agree : SettingsAgree m (s.holdings dir).database) {caller : Caller}
    (source : LegacySource) (may : caller.mayRun .systemReady .system) :
    let answered := s.handle (.calling caller (.systemReady source))
    if Assignments.marked (some m) then
      answered.1 = some (.ok (.outcome .alreadyImported)) ∧
        (answered.2.holdings dir).database = (s.holdings dir).database
    else
      answered.1 = some (.ok (.outcome (match source.collect legacyKeys with
        | .error _ => .failed
        | .ok found => .imported found.length))) := by
  intro answered
  have may : caller.mayRun (Call.systemReady source).operation (Call.systemReady source).user =
    true := may
  obtain ⟨c, r, reply⟩ := handle_calling sound isOpen may
  have left : (answered.2.holdings dir).database =
      ((s.holdings dir).database.importLegacy source).2 :=
    congrArg Holdings.database (holdings_calling sound isOpen may)
  rw [Holdings.outcome_systemReady_fst, agree.importLegacy_eq] at reply
  rw [agree.importLegacy_eq] at left
  rw [Assignments.marked, Option.getD_some]
  cases marked : (m .system importedKey).isSome with
  | true =>
    rw [marked, if_pos rfl] at reply left
    exact ⟨reply, left⟩
  | false =>
    rw [marked, if_neg Bool.false_ne_true] at reply
    rw [if_neg Bool.false_ne_true]
    cases collected : source.collect legacyKeys <;> rw [collected] at reply <;> exact reply

/-- **Imports follow removals.** A run has at most one import more than permitted removals of the
system user. While an import stands, the key that says it is done has a text. While the key has
one, a permitted call for an import is answered that it was done before and leaves the database as
it is; else it imports what the source has, unless the source fails. -/
theorem imports_follow_removals {dir : Path} {t : FileTree} (start : t.Vacant dir)
    {es : List Event} (keeps : ∀ e ∈ es, e.KeepsTo dir) :
    let s := ((Session.closed t).run es).2
    let notes := (Session.closed t).history es
    let m := notes.foldl Assignments.note none
    notes.countP isImport ≤ notes.countP removesSystemUser + 1 ∧
      (importStands notes → Assignments.marked m) ∧
      (s.isOpen → ∀ (caller : Caller) (source : LegacySource),
        caller.mayRun .systemReady .system →
        let answered := s.handle (.calling caller (.systemReady source))
        if Assignments.marked m then
          answered.1 = some (.ok (.outcome .alreadyImported)) ∧
            (answered.2.holdings dir).database = (s.holdings dir).database
        else
          answered.1 = some (.ok (.outcome (match source.collect legacyKeys with
            | .error _ => .failed
            | .ok found => .imported found.length)))) := by
  intro s notes m
  obtain ⟨rest, vacant⟩ := start.resting
  obtain ⟨sound, agrees, bounded⟩ : s.Sound dir ∧ Agrees m (s.holdings dir) ∧
      ImportsBounded notes := by
    refine run_preserves_history (s := .closed t)
      (fun notes h => Agrees (notes.foldl Assignments.note none) h ∧ ImportsBounded notes)
      (fun notes h e reply h' inv stepped => ?_) start.isDirect keeps rest ?_
    · refine ⟨?_, inv.2.append (.step inv.1 stepped)⟩
      rw [List.foldl_append, List.foldl_cons, List.foldl_nil]
      exact inv.1.step stepped
    · rw [holdings_closed, vacant]
      exact ⟨rfl, ⟨fun stands => absurd stands (by simp [importStands]), Nat.zero_le _⟩⟩
  refine ⟨Nat.le_trans bounded.count (Nat.add_le_add_left (Bool.toNat_le _) _), bounded.stands, ?_⟩
  intro isOpen caller source may answered
  obtain ⟨m', hm, agree⟩ := agrees.of_version (version_of_isOpen sound isOpen)
  rw [hm]
  exact handle_systemReady sound isOpen agree source may

/-- A store that imported and was opened again does not import a second time. -/
theorem import_stands_after_reopening :
    let c : Config := .ofDataDir ⟨"data"⟩
    let importing : Event := .calling .system (.systemReady (.ofMap .empty))
    let es : List Event := [.opening c rankByDistance, importing, .closing,
      .opening { c with disabledByDefault := true } rankByDistance]
    let s := ((Session.closed .empty).run es).2
    FileTree.empty.Vacant ⟨"data"⟩ ∧ (∀ e ∈ es, e.KeepsTo ⟨"data"⟩) ∧
      importStands ((Session.closed .empty).history es) ∧ s.isOpen ∧
      (s.handle importing).1 = some (.ok (.outcome .alreadyImported)) := by
  intro c importing es s
  have start : FileTree.empty.Vacant ⟨"data"⟩ := FileTree.vacant_empty (by decide)
  have keeps : ∀ e ∈ es, e.KeepsTo ⟨"data"⟩ := by
    simp [es, c, importing, Event.KeepsTo, Config.ofDataDir]
  have replies : ((Session.closed .empty).run es).1 = [some (.ok .done),
      some (.ok (.outcome (.imported 0))), some (.ok .done), some (.ok .done)] := by
    decide +kernel
  have stands : importStands ((Session.closed .empty).history es) := by
    rw [history, replies]
    rfl
  have isOpen : s.isOpen := by decide +kernel
  obtain ⟨-, marks, answers⟩ := imports_follow_removals start keeps
  have answered := answers isOpen .system (.ofMap .empty) rfl
  rw [if_pos (marks stands)] at answered
  exact ⟨start, keeps, stands, isOpen, answered.1⟩

/-- A store whose system user was removed after an import imports again. -/
theorem import_repeats_after_removal :
    let importing : Event := .calling .system (.systemReady (.ofMap .empty))
    ((Session.closed .empty).run [.opening (.ofDataDir ⟨"data"⟩) rankByDistance, importing,
        .calling .system (.removeUser .system), importing]).1 =
      [some (.ok .done), some (.ok (.outcome (.imported 0))), some (.ok .done),
        some (.ok (.outcome (.imported 0)))] := by
  decide +kernel

end Session

end Keyguard
