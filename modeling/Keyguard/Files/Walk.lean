import Keyguard.Files.Tree

/-!
# Following a path

A path is followed through a file tree part by part, and whatever part comes next, the place
reached so far must be a directory. So `a/../b` needs a directory `a`, and so does `a/`. What the
last part leads to may be missing.

* `FileTree.follow` gives the place that a path leads to in a tree. If there is one, it is
  `Path.names` (`eq_names_of_follow`); the tree decides only whether it can be reached.
* `FileTree.readAt` reads the file that a path leads to.
* `FileTree.createAt` creates the directory that a path leads to, and those missing on the way. It
  goes back along the path to a directory that is there or can be created and from there forward
  again. A directory that was created before a fault stays, and whether it fails or not, nothing
  in the tree changes but places that the path leads through (`at_createAt`).
-/

namespace Keyguard

/-- The greatest number of bytes in a name. -/
def longestName : Nat := 255

/-- The greatest number of bytes in a path. -/
def longestPath : Nat := 4095

/-- Refuses a text that is no path, whatever the tree. -/
def Path.check (p : Path) : Except IoFault Unit :=
  if '\x00' ∈ p.text.toList then .error .nulInName
  else if p.text = "" then .error .notFound
  else if longestPath < p.text.utf8ByteSize then .error .nameTooLong
  else .ok ()

namespace FileTree

/-! ### The place of a path -/

/-- Follows one part of a path from a place, which must be a directory. -/
def step (t : FileTree) (place : Place) (segment : List Char) : Except IoFault Place :=
  match t.at? place with
  | none => .error .notFound
  | some .directory =>
    if longestName < (String.ofList segment).utf8ByteSize then .error .nameTooLong
    else .ok (Path.step place segment)
  | some _ => .error .notADirectory

/-- Follows some parts of a path from a place. -/
def walk (t : FileTree) (place : Place) (segments : List (List Char)) : Except IoFault Place :=
  segments.foldlM t.step place

/-- The place that a path leads to. -/
def follow (t : FileTree) (p : Path) : Except IoFault Place := do
  p.check
  t.walk p.start (Path.segments p.text.toList)

/-- Reads the file that a path leads to. -/
def readAt (t : FileTree) (p : Path) : Except IoFault Bytes := do
  t.read (← t.follow p)

/-! ### Creating directories -/

/-- Creates a directory where some parts of a path lead to. -/
def makeDirectoryAt (t : FileTree) (start : Place) (segments : List (List Char)) :
    Except IoFault FileTree := do
  let place ← t.walk start segments
  match t.at? place with
  | some _ => .error .alreadyExists
  | none => .ok (t.put place .directory)

/-- Whether some parts of a path lead to a directory. -/
def hasDirectoryAt (t : FileTree) (start : Place) (segments : List (List Char)) : Bool :=
  match t.walk start segments with
  | .ok place => t.at? place = some .directory
  | .error _ => false

/-- Creates a directory where some parts of a path lead to, unless one is there. -/
def ensureDirectory (start : Place) (segments : List (List Char)) : FileAction Unit := fun t =>
  match t.makeDirectoryAt start segments with
  | .ok t' => .ok () t'
  | .error .alreadyExists =>
    if t.hasDirectoryAt start segments then .ok () t else .error .alreadyExists t
  | .error fault => .error fault t

/-- Creates a directory and those missing on the way. The parts of the path come last first. -/
def ensureDirectories (start : Place) : List (List Char) → FileAction Unit
  | [] => pure ()
  | last :: before => fun t =>
    match ensureDirectory start (last :: before).reverse t with
    | .error .notFound t =>
      match ensureDirectories start before t with
      | .ok () t => ensureDirectory start (last :: before).reverse t
      | .error fault t => .error fault t
    | r => r

/-- Creates the directory that a path leads to, and those missing on the way. -/
def createAt (p : Path) : FileAction Unit := fun t =>
  match p.check with
  | .error fault => .error fault t
  | .ok () =>
    -- empty parts and dots lead nowhere and have no directory of their own
    let segments := (Path.segments p.text.toList).filter fun s => s ≠ [] ∧ s ≠ ['.']
    ensureDirectories p.start segments.reverse t

/-! ### The place does not depend on the tree -/

theorem eq_step_of_step {t : FileTree} {place q : Place} {segment : List Char}
    (h : t.step place segment = .ok q) : q = Path.step place segment := by
  unfold step at h
  split at h
  · simp at h
  · split at h
    · simp at h
    · injection h with h; exact h.symm
  · simp at h

/-- A walk takes one step and walks on. -/
theorem walk_cons_eq_ok {t : FileTree} {place q : Place} {s : List Char}
    {ss : List (List Char)} :
    t.walk place (s :: ss) = .ok q ↔ ∃ next, t.step place s = .ok next ∧ t.walk next ss = .ok q := by
  rw [walk, List.foldlM_cons]
  cases t.step place s with
  | error fault => simp [bind, Except.bind]
  | ok next => simp [bind, Except.bind, walk]

/-- A path is followed by walking along its parts, if it is a path at all. -/
theorem follow_eq_ok {t : FileTree} {p : Path} {q : Place} :
    t.follow p = .ok q ↔
      p.check = .ok () ∧ t.walk p.start (Path.segments p.text.toList) = .ok q := by
  unfold follow
  cases p.check with
  | error fault => simp [bind, Except.bind]
  | ok _ => simp [bind, Except.bind]

private theorem eq_foldl_of_walk {t : FileTree} {place q : Place} {segments : List (List Char)}
    (h : t.walk place segments = .ok q) : q = segments.foldl Path.step place := by
  induction segments generalizing place with
  | nil => injection h with h; exact h.symm
  | cons s ss ih =>
    obtain ⟨next, hs, hw⟩ := walk_cons_eq_ok.1 h
    rw [List.foldl_cons, ← eq_step_of_step hs]
    exact ih hw

/-- A path that can be followed leads to the place of its names. -/
theorem eq_names_of_follow {t : FileTree} {p : Path} {q : Place} (h : t.follow p = .ok q) :
    q = p.names :=
  eq_foldl_of_walk (follow_eq_ok.1 h).2

/-! ### Creating directories adds directories only -/

/-- The tree after an action, whether it fails or not. -/
def after {α : Type} (t : FileTree) (act : FileAction α) : FileTree :=
  match act t with
  | .ok _ t' => t'
  | .error _ t' => t'

/-- Whether a tree is another one with more directories, all of them at some places. -/
def AddsDirectories (ps : List Place) (t t' : FileTree) : Prop :=
  ∀ q, t'.at? q = t.at? q ∨ q ∈ ps ∧ t.at? q = none ∧ t'.at? q = some .directory

namespace AddsDirectories

variable {ps : List Place}

protected theorem refl (ps : List Place) (t : FileTree) : AddsDirectories ps t t :=
  fun _ => .inl rfl

protected theorem trans {t₁ t₂ t₃ : FileTree} (h : AddsDirectories ps t₁ t₂)
    (h' : AddsDirectories ps t₂ t₃) : AddsDirectories ps t₁ t₃ := by
  intro q
  rcases h q with e | ⟨hq, e, d⟩ <;> rcases h' q with e' | ⟨hq', e', d'⟩
  · exact .inl (e'.trans e)
  · exact .inr ⟨hq', e.symm.trans e', d'⟩
  · exact .inr ⟨hq, e, e'.trans d⟩
  · exact .inr ⟨hq, e, d'⟩

theorem mono {ps' : List Place} {t t' : FileTree} (h : AddsDirectories ps t t') (hs : ps ⊆ ps') :
    AddsDirectories ps' t t' :=
  fun q => (h q).imp_right fun ⟨hq, e⟩ => ⟨hs hq, e⟩

end AddsDirectories

private theorem addsDirectories_makeDirectoryAt {t t' : FileTree} {start : Place}
    {segments : List (List Char)} (h : t.makeDirectoryAt start segments = .ok t') :
    AddsDirectories (Path.trailFrom start segments) t t' := by
  unfold makeDirectoryAt at h
  cases hw : t.walk start segments with
  | error fault => rw [hw] at h; injection h
  | ok place =>
    rw [hw] at h
    change (match t.at? place with
      | some _ => Except.error IoFault.alreadyExists
      | none => Except.ok (t.put place .directory)) = Except.ok t' at h
    cases hp : t.at? place with
    | some n => simp [hp] at h
    | none =>
      simp only [hp, Except.ok.injEq] at h
      subst h
      have hne : place ≠ [] := by rintro rfl; simp [at?] at hp
      have last : place ∈ Path.trailFrom start segments :=
        Path.mem_trailFrom.mpr ⟨segments, List.prefix_rfl, eq_foldl_of_walk hw⟩
      intro q
      rw [at_put t hne]
      by_cases hq : q = place
      · subst hq; exact .inr ⟨last, hp, by simp⟩
      · exact .inl (by simp [hq])

private theorem addsDirectories_ensureDirectory (t : FileTree) (start : Place)
    (segments : List (List Char)) :
    AddsDirectories (Path.trailFrom start segments) t
      (t.after (ensureDirectory start segments)) := by
  cases h : t.makeDirectoryAt start segments with
  | ok t' =>
    simp only [after, ensureDirectory, h]
    exact addsDirectories_makeDirectoryAt h
  | error fault =>
    have unchanged : t.after (ensureDirectory start segments) = t := by
      simp only [after, ensureDirectory, h]
      cases fault with
      | alreadyExists => cases t.hasDirectoryAt start segments <;> rfl
      | _ => rfl
    rw [unchanged]
    exact .refl _ t

private theorem addsDirectories_ensureDirectories (start : Place) (segments : List (List Char))
    (t : FileTree) :
    AddsDirectories (Path.trailFrom start segments.reverse) t
      (t.after (ensureDirectories start segments)) := by
  induction segments generalizing t with
  | nil => exact .refl _ t
  | cons last before ih =>
    have first := addsDirectories_ensureDirectory t start (last :: before).reverse
    have shorter : Path.trailFrom start before.reverse ⊆
        Path.trailFrom start (last :: before).reverse := by
      rw [List.reverse_cons]
      exact Path.trailFrom_subset_append _ _ _
    simp only [after] at first
    simp only [after, ensureDirectories]
    cases hr : ensureDirectory start (last :: before).reverse t with
    | ok u t' => simpa only [hr] using first
    | error fault t' =>
      simp only [hr] at first
      cases fault with
      | notFound =>
        have rest := (ih t').mono shorter
        simp only [after] at rest
        cases hb : ensureDirectories start before t' with
        | ok u t'' =>
          simp only [hb] at rest ⊢
          exact first.trans
            (rest.trans (addsDirectories_ensureDirectory t'' start (last :: before).reverse))
        | error fault t'' => simpa only [hb] using first.trans (by simpa only [hb] using rest)
      | _ => exact first

/-- Creating a directory by its path puts directories at places that the path leads through and
where nothing was, and changes nothing else, whether it fails or not. -/
theorem at_createAt (t : FileTree) (p : Path) :
    AddsDirectories p.trail t (t.after (createAt p)) := by
  unfold after createAt
  cases p.check with
  | error fault => exact .refl _ t
  | ok _ =>
    have added := addsDirectories_ensureDirectories p.start
      ((Path.segments p.text.toList).filter fun s => s ≠ [] ∧ s ≠ ['.']).reverse t
    rw [List.reverse_reverse] at added
    exact added.mono (Path.trailFrom_filter_subset _ _)

end FileTree

end Keyguard
