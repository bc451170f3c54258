import Keyguard.Proofs.Gesture.Rereading
import Keyguard.Proofs.Store.Runs

/-!
# The samples behind a gesture file

The **samples** of a user are those that were set as the lock gesture since the user was last
removed, the latest first and without the empty ones (`Samples.note`). While all of them are
finite the file of the user holds the latest. A sample with a coordinate that is infinite or no
number stays in the file, since from then on the file cannot be read any more and so no sample can
take its place (`standing`).

Every call keeps this (`Samples.after`). So in every run from an empty data directory the samples
decide whether the file of a user can be loaded, and with it whether gestures are checked and set
or refused with an error (`Session.gesture_file_holds_samples`).
-/

namespace Keyguard

-- unification must not compute what a tree has at the places of a layout
attribute [local irreducible] FileTree.at?

/-! ### What stands in a file -/

/-- Of the samples that were set, the one that stands in the file: the latest, but none that was set
after one that is not finite. -/
def standing : List Gesture → Option Gesture
  | [] => none
  | g :: before => if (standing before).all Gesture.isFinite then some g else standing before

theorem standing_eq_none_iff {samples : List Gesture} : standing samples = none ↔ samples = [] := by
  induction samples with
  | nil => simp [standing]
  | cons g before ih =>
    rw [standing]
    cases kept : standing before with
    | none => simp
    | some g' => split <;> simp

/-- All samples are finite exactly if the one in the file is. -/
theorem all_isFinite_standing (samples : List Gesture) :
    (standing samples).all Gesture.isFinite = samples.all Gesture.isFinite := by
  induction samples with
  | nil => rfl
  | cons g before ih =>
    rw [standing, List.all_cons]
    cases finite : (standing before).all Gesture.isFinite with
    | true =>
      rw [← ih, finite, if_pos rfl, Bool.and_true]
      rfl
    | false => rw [← ih, finite, if_neg Bool.false_ne_true, Bool.and_false, finite]

theorem standing_eq_head? {samples : List Gesture} (h : samples.all Gesture.isFinite) :
    standing samples = samples.head? := by
  cases samples with
  | nil => rfl
  | cons g before =>
    rw [List.all_cons, Bool.and_eq_true] at h
    rw [standing, if_pos ((all_isFinite_standing before).trans h.2)]
    rfl

/-- The samples of each user that were set as the lock gesture, the latest first. -/
abbrev Samples := UserId → List Gesture

namespace Samples

/-- No samples. -/
def empty : Samples := fun _ => []

/-- Enters a permitted call. -/
def enter (m : Samples) : Call → Samples
  | .setLockGesture sample u =>
    fun w => if w = u ∧ !sample.isEmpty then sample :: m w else m w
  | .removeUser u => fun w => if w = u then [] else m w
  | _ => m

/-- Enters an event, if it is a permitted call of an open store. -/
def note (m : Samples) : Event × Reply → Samples
  | (.calling caller call, some _) =>
    if caller.mayRun call.operation call.user then m.enter call else m
  | _ => m

end Samples

/-! ### What the file of a user is -/

namespace GestureLibrary

/-- The library that a file loads as, by the sample that stands in it. -/
def loaded (kept : Option Gesture) : GestureLibrary :=
  ((kept.bind Gesture.reread?).map ofLockGesture).getD .empty

/-- A lock gesture takes the place of whatever a file loads as. -/
theorem setLockGesture_loaded (kept : Option Gesture) (g : Gesture) :
    (loaded kept).setLockGesture g = ofLockGesture g := by
  rw [loaded]
  cases kept.bind Gesture.reread? with
  | none => rfl
  | some g' => exact setLockGesture_setLockGesture .empty g' g

theorem ofLockGesture_injective {g g' : Gesture} (h : ofLockGesture g = ofLockGesture g') :
    g = g' := by
  have entries : [(lockGestureName, [g])] = [(lockGestureName, [g'])] :=
    congrArg (fun l => l.entries.entries) h
  simpa using entries

/-- A file loads as the sample that stands in it exactly if that is read as it was. -/
theorem loaded_eq_iff {g : Gesture} (finite : g.isFinite) :
    loaded (some g) = ofLockGesture g ↔ g.reread? = some g := by
  obtain ⟨g', hg⟩ := Option.isSome_iff_exists.mp (g.isSome_reread?.trans finite)
  have library : loaded (some g) = ofLockGesture g' := by
    rw [loaded, Option.bind_some, hg]
    rfl
  rw [library, hg, Option.some.injEq]
  exact ⟨ofLockGesture_injective, congrArg ofLockGesture⟩

end GestureLibrary

namespace Contents

variable {c : Contents} {u : UserId} {kept : Option Gesture}

/-- A file that holds a sample loads as a library if the sample is finite. -/
theorem library_of_kept
    (file : c u .gesture = kept.map fun g => (GestureLibrary.ofLockGesture g).bytes) :
    c.library u =
      if kept.all Gesture.isFinite then .ok (.loaded kept) else .error .serialization := by
  rw [library, file]
  cases kept with
  | none => rfl
  | some g =>
    have reread : GestureLibrary.ofBytes? (GestureLibrary.ofLockGesture g).bytes =
        g.reread?.map GestureLibrary.ofLockGesture := by
      rw [GestureLibrary.ofBytes?_bytes, GestureLibrary.reread?_ofLockGesture]
    have finite : (some g).all Gesture.isFinite = g.reread?.isSome := g.isSome_reread?.symm
    have library : GestureLibrary.loaded (some g) =
        (g.reread?.map GestureLibrary.ofLockGesture).getD .empty := rfl
    rw [finite, library, Option.map_some]
    simp only [reread]
    cases g.reread? <;> rfl

/-- Storing a sample: an empty one is left out, and any other takes the place of the sample in the
file if that is finite, and is refused if it is not. -/
theorem setGesture_of_kept
    (file : c u .gesture = kept.map fun g => (GestureLibrary.ofLockGesture g).bytes)
    (sample : Gesture) :
    c.setGesture sample u =
      if sample.isEmpty then .ok c
      else if kept.all Gesture.isFinite then
        .ok (c.put u .gesture (some (GestureLibrary.ofLockGesture sample).bytes))
      else .error .serialization := by
  rw [setGesture, library_of_kept file]
  split
  · rfl
  split
  · rw [Except.map, GestureLibrary.setLockGesture_loaded]
  · rfl

/-- Work on hashes leaves the gesture files. -/
theorem store_gesture (c : Contents) (kind : CredentialKind) (hash : Bytes) (u w : UserId)
    (v : GridVariant) : c.store kind hash u v w .gesture = c w .gesture := by
  cases kind <;> simp [store, put]

theorem movePattern_gesture (c : Contents) (u w : UserId) (source target : GridVariant) :
    c.movePattern u source target w .gesture = c w .gesture := by
  rw [movePattern]
  split
  · rfl
  · exact store_gesture c .pattern _ u w target

end Contents

/-- Whether every gesture file holds the sample that stands among those of its user. -/
def Samples.Held (m : Samples) (h : Holdings) : Prop :=
  ∀ u, h.files u .gesture = (standing (m u)).map fun g => (GestureLibrary.ofLockGesture g).bytes

namespace Samples.Held

variable {m : Samples} {h h' : Holdings}

theorem setGesture (held : m.Held h) (sample : Gesture) (u : UserId) :
    (m.enter (.setLockGesture sample u)).Held (h.after (.setLockGesture sample u)) := by
  intro w
  rw [Holdings.after, Contents.setGesture_of_kept (held u)]
  by_cases empty : sample.isEmpty
  · have entered : m.enter (.setLockGesture sample u) w = m w := if_neg (by simp [empty])
    rw [if_pos empty, entered]
    exact held w
  rw [if_neg empty]
  by_cases own : w = u
  · subst own
    have entered : m.enter (.setLockGesture sample w) w = sample :: m w :=
      if_pos ⟨rfl, by simpa using empty⟩
    rw [entered, standing]
    cases (standing (m w)).all Gesture.isFinite with
    | true => exact Contents.put_self _ _ _ _
    | false => exact held w
  · have entered : m.enter (.setLockGesture sample u) w = m w := if_neg fun e => own e.1
    rw [entered]
    cases (standing (m u)).all Gesture.isFinite with
    | true => exact (if_neg fun e => own e.1).trans (held w)
    | false => exact held w

/-- Every permitted call keeps the samples that stand in the files. -/
theorem after (held : m.Held h) (call : Call) : (m.enter call).Held (h.after call) := by
  have written (key : String) (value : SettingValue) (u : UserId) :
      m.Held (h.written key value u) := by
    intro w
    rw [Holdings.written]
    simp only
    split
    · exact (Contents.movePattern_gesture _ _ _ _ _).trans (held w)
    · exact held w
  cases call with
  | setBoolean key value u => exact written key _ u
  | setLong key value u => exact written key _ u
  | setString key value u => exact written key _ u
  | setLockPattern hash u =>
    exact fun w => (h.files.store_gesture .pattern hash u w (h.variant u)).trans (held w)
  | setLockPassword hash u =>
    exact fun w => (h.files.store_gesture .password hash u w (h.variant u)).trans (held w)
  | setLockGesture sample u => exact held.setGesture sample u
  | removeUser u =>
    intro w
    by_cases own : w = u
    · have entered : m.enter (.removeUser u) w = [] := if_pos own
      rw [entered]
      exact if_pos own
    · have entered : m.enter (.removeUser u) w = m w := if_neg own
      rw [entered]
      exact (if_neg own).trans (held w)
  | _ => exact held

/-- Every step keeps the samples that stand in the files. -/
theorem step (held : m.Held h) {e : Event} {reply : Reply} (stepped : h.Step e reply h') :
    (m.note (e, reply)).Held h' := by
  cases stepped with
  | opening c r stored => exact held
  | @calling c r caller call may version =>
    rw [note, if_pos may]
    exact held.after call
  | @denied caller call no =>
    rw [note, if_neg (by simp [no])]
    exact held
  | _ => exact held

end Samples.Held

/-! ### Runs -/

namespace Session

/-- **The samples decide what a gesture file is.** In every run from an empty data directory the
gesture file of a user holds the sample that stands among those that were set since the user was
last removed, and is missing if there are none. While the store is open the file loads exactly if
all coordinates of all samples are finite, and then as the latest sample reread, which is that
sample exactly if each of its coordinates is read as it was. Gestures are checked, and samples with
points set, exactly if all coordinates are finite; else both are refused with an error. -/
theorem gesture_file_holds_samples {dir : Path} {t : FileTree} (start : t.Vacant dir)
    {es : List Event} (keeps : ∀ e ∈ es, e.KeepsTo dir) (u : UserId) :
    let s := ((Session.closed t).run es).2
    let samples := ((Session.closed t).history es).foldl Samples.note .empty u
    let file := (Layout.mk dir).file u .gesture
    (s.files.file? file.names =
        (standing samples).map fun g => (GestureLibrary.ofLockGesture g).bytes) ∧
      (s.files.file? file.names = none ↔ samples = []) ∧
      (s.isOpen →
        (GestureLibrary.load file s.files =
          if samples.all Gesture.isFinite then .ok (.loaded samples.head?)
          else .error .serialization) ∧
        (∀ g ∈ samples.head?, GestureLibrary.load file s.files = .ok (.ofLockGesture g) ↔
          samples.all Gesture.isFinite ∧
            ∀ p ∈ g.points, rereadCoordinate p.x = some p.x ∧ rereadCoordinate p.y = some p.y) ∧
        ∀ sample : Gesture,
          (∃ b, (s.handle (.calling .system (.checkGesture sample u))).1 =
            some (if samples.all Gesture.isFinite then .ok (.boolean b)
              else .error .serialization)) ∧
          (s.handle (.calling .system (.setLockGesture sample u))).1 =
            some (if sample.isEmpty || samples.all Gesture.isFinite then .ok .done
              else .error .serialization)) := by
  intro s samples file
  obtain ⟨rest, vacant⟩ := start.resting
  obtain ⟨sound, held⟩ : s.Sound dir ∧
      (((Session.closed t).history es).foldl Samples.note .empty).Held (s.holdings dir) := by
    refine run_preserves (s := .closed t) Samples.note Samples.Held
      (fun m h e reply h' held stepped => held.step stepped) start.isDirect keeps rest ?_
    rw [holdings_closed, vacant]
    exact fun u => rfl
  have content : (s.holdings dir).files u .gesture =
      (standing samples).map fun g => (GestureLibrary.ofLockGesture g).bytes := held u
  refine ⟨content, ?_, fun isOpen => ?_⟩
  · rw [← standing_eq_none_iff]
    exact (iff_of_eq (congrArg (· = none) content)).trans Option.map_eq_none_iff
  have library : (s.holdings dir).files.library u =
      if samples.all Gesture.isFinite then .ok (.loaded samples.head?)
      else .error .serialization := by
    rw [Contents.library_of_kept content, all_isFinite_standing]
    split
    · rename_i finite
      rw [standing_eq_head? finite]
    · rfl
  have load : GestureLibrary.load file s.files = (s.holdings dir).files.library u :=
    (ready_of_isOpen sound isOpen).load u
  refine ⟨load.trans library, fun g latest => ?_, fun sample => ⟨?_, ?_⟩⟩
  · rw [load, library, ← Gesture.reread?_eq_some_self_iff]
    cases finite : samples.all Gesture.isFinite with
    | true =>
      have finite : g.isFinite := List.all_eq_true.mp finite g (List.mem_of_mem_head? latest)
      have latest : samples.head? = some g := latest
      rw [latest, if_pos rfl, Except.ok.injEq, GestureLibrary.loaded_eq_iff finite]
      exact ⟨fun h => ⟨rfl, h⟩, fun h => h.2⟩
    | false =>
      rw [if_neg Bool.false_ne_true]
      exact ⟨nofun, fun h => absurd h.1 Bool.false_ne_true⟩
  · obtain ⟨c, r, answered⟩ := handle_calling sound isOpen
      (Caller.mayRun_system (Call.checkGesture sample u).operation
        (Call.checkGesture sample u).user)
    rw [Holdings.answer, Holdings.outcome_reading_fst, library] at answered
    rw [answered]
    cases samples.all Gesture.isFinite with
    | true => exact ⟨_, rfl⟩
    | false => exact ⟨true, rfl⟩
  · obtain ⟨c, r, answered⟩ := handle_calling sound isOpen
      (Caller.mayRun_system (Call.setLockGesture sample u).operation
        (Call.setLockGesture sample u).user)
    rw [Holdings.answer, Holdings.outcome_onFiles_fst, Contents.setGesture_of_kept content,
      all_isFinite_standing] at answered
    rw [answered]
    cases sample.isEmpty <;> cases samples.all Gesture.isFinite <;> rfl

/-- A sample with finite coordinates that was just set is loaded as it was set, and gestures are
checked against it. -/
theorem finite_sample_is_loaded :
    let g : Gesture := ⟨[⟨[⟨0.1, -2.5e20, 7⟩]⟩]⟩
    let es : List Event := [.opening (.ofDataDir ⟨"data"⟩) rankByDistance,
      .calling .system (.setLockGesture g ⟨1⟩)]
    let s := ((Session.closed .empty).run es).2
    FileTree.empty.Vacant ⟨"data"⟩ ∧ (∀ e ∈ es, e.KeepsTo ⟨"data"⟩) ∧ s.isOpen ∧
      GestureLibrary.load ((Layout.mk ⟨"data"⟩).file ⟨1⟩ .gesture) s.files =
        .ok (.ofLockGesture g) ∧
      ∃ b, (s.handle (.calling .system (.checkGesture g ⟨1⟩))).1 = some (.ok (.boolean b)) := by
  intro g es s
  have start : FileTree.empty.Vacant ⟨"data"⟩ := FileTree.vacant_empty (by decide)
  have keeps : ∀ e ∈ es, e.KeepsTo ⟨"data"⟩ := by simp [es, Event.KeepsTo, Config.ofDataDir]
  have isOpen : s.isOpen := by decide +kernel
  have replies : ((Session.closed .empty).run es).1 = [some (.ok .done), some (.ok .done)] := by
    decide +kernel
  have entered : ((Session.closed .empty).history es).foldl Samples.note .empty ⟨1⟩ = [g] := by
    rw [history, replies]
    rfl
  have coordinates : ∀ p ∈ g.points,
      rereadCoordinate p.x = some p.x ∧ rereadCoordinate p.y = some p.y := by decide +kernel
  have finite : [g].all Gesture.isFinite := by decide +kernel
  obtain ⟨-, -, opened⟩ := gesture_file_holds_samples start keeps ⟨1⟩
  obtain ⟨-, loads, answers⟩ := opened isOpen
  rw [entered] at loads answers
  obtain ⟨⟨b, checked⟩, -⟩ := answers g
  rw [if_pos finite] at checked
  have latest : g ∈ [g].head? := by simp
  have loaded := (loads g latest).mpr ⟨finite, coordinates⟩
  exact ⟨start, keeps, isOpen, loaded, b, checked⟩

/-- A sample with an infinite coordinate is set, and from then on no gesture is checked or set. -/
theorem infinite_sample_blocks_gesture :
    let g : Gesture := ⟨[⟨[⟨Float32.ofBits 0x7f800000, 0, 0⟩]⟩]⟩
    let sample : Gesture := ⟨[⟨[⟨1, 1, 0⟩]⟩]⟩
    ((Session.closed .empty).run [.opening (.ofDataDir ⟨"data"⟩) rankByDistance,
        .calling .system (.setLockGesture g ⟨1⟩), .calling .system (.checkGesture sample ⟨1⟩),
        .calling .system (.setLockGesture sample ⟨1⟩)]).1 =
      [some (.ok .done), some (.ok .done), some (.error .serialization),
        some (.error .serialization)] := by
  decide +kernel

end Session

end Keyguard
