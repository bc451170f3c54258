import Keyguard.Credential.GestureFiles
import Keyguard.Proofs.Files.Contents

/-!
# Credentials in a ready tree

In a ready tree no action on credential files fails for a reason of the files, and each does to
their contents what it is meant to do: `Contents.store`, `Contents.movePattern` and
`Contents.removeUser` say it without a tree. The answers are functions of the contents as well
(`Contents.admits`, `Contents.holds`, `Contents.library`).
-/

namespace Keyguard

open FileTree

namespace Contents

/-- What a credential file holds, nothing if it is missing. -/
def bytes (c : Contents) (u : UserId) (f : CredentialFile) : Bytes := (c u f).getD []

/-- The contents after a hash was stored. -/
def store (c : Contents) (kind : CredentialKind) (hash : Bytes) (u : UserId)
    (v : GridVariant) : Contents :=
  match kind with
  | .pattern => (c.put u (.pattern v.other) (some [])).put u (.pattern v) (some hash)
  | .password => c.put u .password (some hash)

/-- Whether a candidate matches what is stored. -/
def admits (c : Contents) (kind : CredentialKind) (candidate : Bytes) (u : UserId)
    (v : GridVariant) : Bool :=
  c.bytes u (.ofKind kind v) = [] || c.bytes u (.ofKind kind v) == candidate

theorem admits_iff {c : Contents} {kind : CredentialKind} {candidate : Bytes} {u : UserId}
    {v : GridVariant} : c.admits kind candidate u v = true ↔
      c.bytes u (.ofKind kind v) = [] ∨ c.bytes u (.ofKind kind v) = candidate := by
  rw [admits, Bool.or_eq_true, decide_eq_true_iff, beq_iff_eq]

/-- A file that is there holds what it holds. -/
theorem bytes_eq_iff {c : Contents} {u : UserId} {f : CredentialFile} {content : Bytes}
    (nonempty : content ≠ []) : c.bytes u f = content ↔ c u f = some content := by
  rw [bytes]
  cases c u f with
  | none => simpa using nonempty.symm
  | some x => simp

/-- Whether a hash is stored. -/
def holds (c : Contents) (kind : CredentialKind) (u : UserId) (v : GridVariant) : Bool :=
  c.bytes u (.ofKind kind v) ≠ []

/-- The contents after a pattern's hash was moved, if there is one. -/
def movePattern (c : Contents) (u : UserId) (source target : GridVariant) : Contents :=
  if source = target ∨ c.bytes u (.pattern source) = [] then c
  else c.store .pattern (c.bytes u (.pattern source)) u target

/-- The contents after a user was removed. -/
def removeUser (c : Contents) (u : UserId) : Contents := fun v f => if v = u then none else c v f

/-- The gesture library of a user. -/
def library (c : Contents) (u : UserId) : Except StoreError GestureLibrary :=
  match c u .gesture with
  | none => .ok .empty
  | some content =>
    match GestureLibrary.ofBytes? content with
    | some l => .ok l
    | none => .error .serialization

/-- The contents after a sample was stored as a user's gesture. -/
def setGesture (c : Contents) (sample : Gesture) (u : UserId) : Except StoreError Contents :=
  if sample.isEmpty then .ok c
  else (c.library u).map fun l => c.put u .gesture (some (l.setLockGesture sample).bytes)

end Contents

namespace Layout.Ready

variable {l : Layout} {t : FileTree}

/-! ### Hashes -/

/-- A hash can be stored. -/
theorem set (h : l.Ready t) (policy : UnreadablePolicy) (kind : CredentialKind) (hash : Bytes)
    (u : UserId) (v : GridVariant) :
    ∃ t', (HashFiles.mk l policy).set kind hash u v t = .ok () t' ∧ l.Ready t' ∧
      l.contents t' = (l.contents t).store kind hash u v := by
  cases kind with
  | password =>
    obtain ⟨t', written, ready, contents⟩ := h.writeFile u .password hash
    refine ⟨t', ?_, ready, contents⟩
    simp only [HashFiles.set, HashFiles.path, CredentialFile.ofKind, reduceCtorEq, if_false,
      written]
  | pattern =>
    obtain ⟨t₁, written₁, ready₁, contents₁⟩ := h.writeFile u (.pattern v.other) []
    obtain ⟨t₂, written₂, ready₂, contents₂⟩ := ready₁.writeFile u (.pattern v) hash
    refine ⟨t₂, ?_, ready₂, by rw [contents₂, contents₁]; rfl⟩
    simp only [HashFiles.set, HashFiles.path, CredentialFile.ofKind, if_true, bind, EStateM.bind,
      written₁, written₂]

/-- A candidate is compared with what is stored, whatever the policy. -/
theorem check (h : l.Ready t) (policy : UnreadablePolicy) (kind : CredentialKind)
    (candidate : Bytes) (u : UserId) (v : GridVariant) :
    (HashFiles.mk l policy).check kind candidate u v t =
      .ok ((l.contents t).admits kind candidate u v) := by
  have read := h.read u (.ofKind kind v)
  rw [HashFiles.check, HashFiles.path, read, Contents.admits, Contents.bytes]
  cases l.contents t u (.ofKind kind v) with
  | none => simp
  | some content => rfl

theorem holds (h : l.Ready t) (policy : UnreadablePolicy) (kind : CredentialKind) (u : UserId)
    (v : GridVariant) :
    (HashFiles.mk l policy).holds kind u v t = (l.contents t).holds kind u v :=
  h.holdsSomething u (.ofKind kind v)

/-- A pattern's hash can be moved. -/
theorem movePattern (h : l.Ready t) (policy : UnreadablePolicy) (u : UserId)
    (source target : GridVariant) :
    ∃ t', (HashFiles.mk l policy).movePattern u source target t = .ok () t' ∧ l.Ready t' ∧
      l.contents t' = (l.contents t).movePattern u source target := by
  simp only [HashFiles.movePattern, Contents.movePattern]
  by_cases same : source = target
  · exact ⟨t, by rw [if_pos same], h, by rw [if_pos (.inl same)]⟩
  · have read := h.read u (.pattern source)
    have bytes : (l.contents t).bytes u (.pattern source) =
        (l.contents t u (.pattern source)).getD [] := rfl
    rw [if_neg same, HashFiles.path, CredentialFile.ofKind, read, bytes]
    cases l.contents t u (.pattern source) with
    | none => exact ⟨t, rfl, h, by simp⟩
    | some hash =>
      cases hash with
      | nil => exact ⟨t, rfl, h, by simp⟩
      | cons b bs =>
        obtain ⟨t', moved, ready, contents⟩ := h.set policy .pattern (b :: bs) u target
        exact ⟨t', moved, ready, by rw [contents]; simp [same]⟩

/-- All files of a user can be removed. -/
theorem removeUser (h : l.Ready t) (policy : UnreadablePolicy) (threshold : Float)
    (u : UserId) :
    l.Ready ((GestureFiles.mk l threshold).remove u ((HashFiles.mk l policy).removeAll u t)) ∧
      l.contents ((GestureFiles.mk l threshold).remove u ((HashFiles.mk l policy).removeAll u t))
        = (l.contents t).removeUser u := by
  obtain ⟨ready₁, contents₁⟩ := h.remove u .password
  obtain ⟨ready₂, contents₂⟩ := ready₁.remove u (.pattern .standard)
  obtain ⟨ready₃, contents₃⟩ := ready₂.remove u (.pattern .alternate)
  obtain ⟨ready₄, contents₄⟩ := ready₃.remove u .gesture
  simp only [GestureFiles.remove, HashFiles.removeAll, HashFiles.path, GestureFiles.path,
    CredentialFile.ofKind, List.foldl_cons, List.foldl_nil]
  refine ⟨ready₄, ?_⟩
  rw [contents₄, contents₃, contents₂, contents₁]
  funext v f
  by_cases hv : v = u
  · subst hv
    cases f with
    | pattern w => cases w <;> simp [Contents.put, Contents.removeUser]
    | password => simp [Contents.put, Contents.removeUser]
    | gesture => simp [Contents.put, Contents.removeUser]
  · simp [Contents.put, Contents.removeUser, hv]

/-! ### Gestures -/

/-- In a ready tree the library of a user is loaded, unless its file is no library. -/
theorem load (h : l.Ready t) (u : UserId) :
    GestureLibrary.load (l.file u .gesture) t = (l.contents t).library u := by
  rw [GestureLibrary.load, h.read, Contents.library]
  cases l.contents t u .gesture <;> rfl

/-- Storing a gesture fails only if what is stored is no library. -/
theorem setGesture (h : l.Ready t) (threshold : Float) (sample : Gesture) (u : UserId) :
    match (l.contents t).setGesture sample u with
    | .error e => (GestureFiles.mk l threshold).set sample u t = .error e t
    | .ok c => ∃ t', (GestureFiles.mk l threshold).set sample u t = .ok () t' ∧ l.Ready t' ∧
        l.contents t' = c := by
  unfold GestureFiles.set Contents.setGesture GestureFiles.path
  by_cases empty : sample.isEmpty
  · simp only [empty, if_true]
    exact ⟨t, rfl, h, rfl⟩
  · simp only [empty, if_false, h.load, Bool.false_eq_true]
    cases (l.contents t).library u with
    | error e => rfl
    | ok lib =>
      obtain ⟨t', written, ready, contents⟩ :=
        h.writeFile u .gesture (lib.setLockGesture sample).bytes
      refine ⟨t', ?_, ready, contents⟩
      simp only [GestureLibrary.save, written]

theorem checkGesture (h : l.Ready t) (threshold : Float) (recognizer : Recognizer)
    (sample : Gesture) (u : UserId) :
    (GestureFiles.mk l threshold).check recognizer sample u t =
      ((l.contents t).library u).map fun lib => unlocks threshold (recognizer sample lib) := by
  rw [GestureFiles.check, GestureFiles.path, h.load]

theorem holdsGesture (h : l.Ready t) (threshold : Float) (u : UserId) :
    (GestureFiles.mk l threshold).holds u t = decide ((l.contents t).bytes u .gesture ≠ []) :=
  h.holdsSomething u .gesture

end Layout.Ready

end Keyguard
