import Keyguard.Proofs.Credential.Ledger
import Keyguard.Proofs.Store.Dropping

/-!
# Patterns after the settings table was lost

Without a settings table every pattern is looked for at the standard variant. A pattern that was
stored at the other variant before the table was lost stays where it is, and the file that is
looked at is empty, so every candidate matches. No other loss opens a lock:
`check_pattern_after_loss` says exactly which candidates match in runs in which the table may be
dropped at any point.
-/

namespace Keyguard

-- unification must not compute what a tree has at the places of a layout
attribute [local irreducible] FileTree.at?

namespace Ledger

/-- Enters an incident: a hash that was set with success, and a permitted removal of a user,
whether it succeeded or not. -/
def noteIncident (g : Ledger) : Incident × Reply → Ledger
  | (.event (.calling _ (.setLockPattern hash u)), some (.ok _)) => g.set .pattern u hash
  | (.event (.calling _ (.setLockPassword hash u)), some (.ok _)) => g.set .password u hash
  | (.event (.calling caller (.removeUser u)), some _) =>
    if caller.mayRun .removeUser u then g.remove u else g
  | _ => g

/-- Setting a hash succeeds whenever it is permitted, so both ways to keep a ledger agree. -/
theorem noteIncident_event {g : Ledger} {h h' : Holdings} {e : Event} {reply : Reply}
    (stepped : h.Step e reply h') : g.noteIncident (.event e, reply) = g.note (e, reply) := by
  cases stepped with
  | @calling c r caller call may version =>
    rw [note, if_pos may]
    cases call with
    | setLockPattern hash u => rfl
    | setLockPassword hash u => rfl
    | removeUser u => exact if_pos may
    | _ => rfl
  | @denied caller call no =>
    rw [note, if_neg (by simp [no])]
    cases call with
    | removeUser u =>
      have no : caller.mayRun .removeUser u = false := no
      exact if_neg (by simp [no])
    | _ => rfl
  | @unanswered caller call => cases call <;> rfl
  | _ => rfl

end Ledger

namespace Records

variable {g : Ledger} {h h' : Holdings}

/-- Losing the settings table leaves every hash in its file. -/
theorem dropped (rec : Records g h) (lost : h.Dropped h') : Records g h' := by
  rcases lost with rfl | ⟨version, rfl⟩
  · exact rec
  · refine ⟨rec.password, fun u => ?_⟩
    obtain ⟨v, -, at_⟩ := rec.pattern u
    exact ⟨v, fun kept => absurd ⟨rfl, version⟩ kept, at_⟩

/-- A candidate matches a pattern if it is the pattern, or if the settings table is lost and the
pattern is at the variant that is no longer in force. -/
theorem admits_pattern_iff (rec : Records g h) {u : UserId} {hash : Bytes}
    (set : g .pattern u = some hash) (nonempty : hash ≠ []) (candidate : Bytes) :
    h.files.admits .pattern candidate u (h.variant u) = true ↔ candidate = hash ∨
      h.database.settings = none ∧ h.files u (.pattern .alternate) = some hash := by
  obtain ⟨v, force, at_⟩ := rec.pattern u
  rw [set, Option.getD_some] at at_
  rw [Contents.admits_iff, CredentialFile.ofKind, ← Contents.bytes_eq_iff nonempty]
  by_cases table : h.database.settings = none
  · rw [Holdings.variant, Database.variant_of_no_table table]
    cases v with
    | standard =>
      have elsewhere : h.files.bytes u (.pattern .alternate) = [] := at_.2
      rw [at_.1, elsewhere]
      simp [nonempty, nonempty.symm, eq_comm]
    | alternate =>
      have here : h.files.bytes u (.pattern .standard) = [] := at_.2
      rw [at_.1, here]
      simp [table]
  · have here : v = h.variant u := force fun lost => table lost.1
    rw [← here, at_.1]
    simp [nonempty, table, eq_comm]

end Records

namespace Session

/-- **What a lost table opens.** In every run from an empty data directory in which the settings
table may be dropped at any point, a user with a pattern, set by the last successful call since
the last removal of the user, is let in by this pattern and by no other candidate, unless the
table is missing and the pattern is in the file of the variant that is not the standard one. Then
every candidate is let in. -/
theorem check_pattern_after_loss {dir : Path} {t : FileTree} (start : t.Vacant dir)
    {is : List Incident} (keeps : ∀ i ∈ is, i.KeepsTo dir) (u : UserId) (candidate : Bytes) :
    let s := ((Session.closed t).faceAll ⟨dir⟩ is).2
    let g := ((Session.closed t).incidents ⟨dir⟩ is).foldl Ledger.noteIncident .empty
    s.isOpen → ∀ hash, g .pattern u = some hash → hash ≠ [] →
      ∃ b, (s.handle (.calling .system (.checkPattern candidate u))).1 =
          some (.ok (.boolean b)) ∧
        (b = true ↔ candidate = hash ∨ (s.holdings dir).database.settings = none ∧
          s.files.file? ((Layout.mk dir).file u (.pattern .alternate)).names = some hash) := by
  intro s g isOpen hash set nonempty
  obtain ⟨rest, vacant⟩ := start.resting
  obtain ⟨sound, rec⟩ : s.Sound dir ∧ Records g (s.holdings dir) := by
    refine faceAll_preserves (s := .closed t) Ledger.noteIncident Records
      (fun g h e reply h' rec stepped => ?_) (fun g h reply h' rec lost => rec.dropped lost)
      start.isDirect keeps rest ?_
    · rw [Ledger.noteIncident_event stepped]
      exact rec.step stepped
    · rw [holdings_closed, vacant]
      exact .initial
  have may : Caller.system.mayRun (Call.checkPattern candidate u).operation
      (Call.checkPattern candidate u).user = true := Caller.mayRun_system _ _
  obtain ⟨c, r, answered⟩ := handle_calling sound isOpen may
  exact ⟨_, answered, rec.admits_pattern_iff set nonempty candidate⟩

/-- A pattern at the standard variant refuses another candidate after the loss. -/
theorem check_refuses_after_loss :
    let is : List Incident := [.event (.opening (.ofDataDir ⟨"data"⟩) rankByDistance),
      .event (.calling .system (.setLockPattern [0xaa] ⟨2⟩)), .dropping]
    let s := ((Session.closed .empty).faceAll ⟨⟨"data"⟩⟩ is).2
    FileTree.empty.Vacant ⟨"data"⟩ ∧ (∀ i ∈ is, i.KeepsTo ⟨"data"⟩) ∧ s.isOpen ∧
      (s.holdings ⟨"data"⟩).database.settings = none ∧
      (s.handle (.calling .system (.checkPattern [0xbb] ⟨2⟩))).1 = some (.ok (.boolean false)) := by
  intro is s
  have start : FileTree.empty.Vacant ⟨"data"⟩ := FileTree.vacant_empty (by decide)
  have keeps : ∀ i ∈ is, i.KeepsTo ⟨"data"⟩ := by
    simp [is, Incident.KeepsTo, Event.KeepsTo, Config.ofDataDir]
  have isOpen : s.isOpen := by decide +kernel
  have lost : (s.holdings ⟨"data"⟩).database.settings = none := by decide +kernel
  have entered : ((Session.closed .empty).incidents ⟨⟨"data"⟩⟩ is).foldl Ledger.noteIncident
      .empty .pattern ⟨2⟩ = some [0xaa] := by decide +kernel
  have elsewhere : s.files.file? ((Layout.mk ⟨"data"⟩).file ⟨2⟩ (.pattern .alternate)).names ≠
      some [0xaa] := by decide +kernel
  obtain ⟨b, checked, admitted⟩ := check_pattern_after_loss start keeps ⟨2⟩ [0xbb] isOpen [0xaa]
    entered (by simp)
  have refused : b = false := by
    rw [Bool.eq_false_iff, ne_eq, admitted]
    exact fun e => e.elim (by decide) fun lost => elsewhere lost.2
  exact ⟨start, keeps, isOpen, lost, refused ▸ checked⟩

/-- With a pattern on another grid every candidate is let in after the loss. -/
theorem check_admits_wrong_pattern_after_loss :
    let is : List Incident := [.event (.opening (.ofDataDir ⟨"data"⟩) rankByDistance),
      .event (.calling .system (.setString patternSizeKey "4" ⟨2⟩)),
      .event (.calling .system (.setLockPattern [0xaa] ⟨2⟩)), .dropping]
    let s := ((Session.closed .empty).faceAll ⟨⟨"data"⟩⟩ is).2
    (s.handle (.calling .system (.checkPattern [0xbb] ⟨2⟩))).1 = some (.ok (.boolean true)) := by
  decide +kernel

end Session

end Keyguard
