import Keyguard.Credential.HashFiles
import Keyguard.Proofs.Files.Trail

/-!
# Writing files

Writing a file changes its place and puts directories where nothing was; all else stays
(`FileTree.WritesOnly`). The relation can be chained (`WritesOnly.trans`), and no directory is lost
along it (`WritesOnly.directory`), since a file never takes the place of one.

* A file that is **written** is at its place (`at_writeFile`). Nothing changes if that fails, and
  it fails exactly if a file is on the way or a directory at the place (`writeFile_cases`).
* **Staging.** A file is written beside its place first, under a name that nothing has yet, and
  then renamed or, if that fails, taken away again (`FileTree.replaceBy`). So the file beside it is
  never left behind, and the files are those that a single step would leave (`replaceBy_cases`).
-/

namespace Keyguard.FileTree

variable {t t' t'' : FileTree} {p q : Place} {content : Bytes}

/-! ### What a change of files leaves alone -/

/-- Whether a tree is another one with more directories, but for files at some places. -/
def WritesOnly (at' : Place → Prop) (t t' : FileTree) : Prop :=
  ∀ q, t'.at? q = t.at? q ∨ (t.at? q = none ∧ t'.at? q = some .directory) ∨
    (at' q ∧ t.at? q ≠ some .directory)

namespace WritesOnly

variable {P Q : Place → Prop}

protected theorem refl (P : Place → Prop) (t : FileTree) : WritesOnly P t t := fun _ => .inl rfl

protected theorem trans (h : WritesOnly P t t') (h' : WritesOnly P t' t'') :
    WritesOnly P t t'' := by
  intro q
  rcases h q with e | ⟨none, new⟩ | written
  · rw [← e]
    exact h' q
  · rcases h' q with e | ⟨none', -⟩ | ⟨-, file⟩
    · exact .inr (.inl ⟨none, e.trans new⟩)
    · exact absurd (none'.symm.trans new) (by simp)
    · exact absurd new file
  · exact .inr (.inr written)

theorem mono (h : WritesOnly P t t') (sub : ∀ q, P q → Q q) : WritesOnly Q t t' :=
  fun q => (h q).imp_right (.imp_right fun written => ⟨sub q written.1, written.2⟩)

/-- Directories stay. -/
theorem directory (h : WritesOnly P t t') (dir : t.at? q = some .directory) :
    t'.at? q = some .directory := by
  rcases h q with e | ⟨none, -⟩ | ⟨-, file⟩
  · rw [e, dir]
  · exact absurd (none.symm.trans dir) (by simp)
  · exact absurd dir file

/-- Whatever is elsewhere stays. -/
theorem elsewhere (h : WritesOnly P t t') (away : ¬P q) {n : Node} (found : t.at? q = some n) :
    t'.at? q = some n := by
  rcases h q with e | ⟨none, -⟩ | ⟨here, -⟩
  · rw [e, found]
  · exact absurd (none.symm.trans found) (by simp)
  · exact absurd here away

/-- Files elsewhere stay and there are no new ones. -/
theorem file? (h : WritesOnly P t t') (away : ¬P q) : t'.file? q = t.file? q := by
  rcases h q with e | ⟨none, new⟩ | ⟨here, -⟩
  · rw [FileTree.file?, FileTree.file?, e]
  · simp [FileTree.file?, none, new, Node.content?]
  · exact absurd here away

/-- What blocks a place is above it, so files written elsewhere block nothing new. -/
theorem blocked (h : WritesOnly P t t') (away : ∀ q ∈ ancestors p, ¬P q) :
    t'.blocked p = t.blocked p := by
  rw [FileTree.blocked, FileTree.blocked, Bool.eq_iff_iff, List.any_eq_true, List.any_eq_true]
  exact exists_congr fun q => and_congr_right fun above => by rw [h.file? (away q above)]

end WritesOnly

/-! ### Writing -/

theorem writeFile_eq (f : Path) (content : Bytes) (t : FileTree) :
    writeFile f content t = match t.replace f.names content with
      | .ok t' => .ok () t'
      | .error fault => .error fault t := rfl

/-- A file is written unless a file is on the way or a directory in its place. Then nothing
changes. -/
theorem writeFile_cases {f : Path} (hf : f.names ≠ []) (content : Bytes) (t : FileTree) :
    (∃ t', writeFile f content t = .ok () t' ∧ t.replace f.names content = .ok t' ∧
        t.blocked f.names = false ∧ t.at? f.names ≠ some .directory) ∨
      ∃ fault, writeFile f content t = .error fault t ∧
        (t.blocked f.names = true ∨ t.at? f.names = some .directory) := by
  rw [writeFile_eq]
  by_cases free : t.blocked f.names = false ∧ t.at? f.names ≠ some .directory
  · obtain ⟨t', done⟩ := (replace_eq_ok_iff hf).mpr free
    refine .inl ⟨t', ?_, done, free⟩
    rw [done]
  · refine .inr ?_
    rcases done : t.replace f.names content with fault | t'
    · refine ⟨fault, rfl, ?_⟩
      rcases blocked : t.blocked f.names with _ | _
      · exact .inr (Classical.not_not.mp fun spot => free ⟨blocked, spot⟩)
      · exact .inl rfl
    · exact absurd ((replace_eq_ok_iff hf).mp ⟨t', done⟩) free

/-- Replacing a file writes only there. -/
theorem writesOnly_replace (hp : p ≠ []) (done : t.replace p content = .ok t') :
    WritesOnly (· = p) t t' := by
  have free := (replace_eq_ok_iff hp).mp ⟨t', done⟩
  intro q
  rw [at_replace hp done]
  by_cases here : q = p
  · subst here
    exact .inr (.inr ⟨rfl, free.2⟩)
  · rw [if_neg here]
    by_cases new : q ∈ ancestors p ∧ t.at? q = none
    · rw [if_pos new]
      exact .inr (.inl ⟨new.2, rfl⟩)
    · rw [if_neg new]
      exact .inl rfl

/-- Why a file cannot be replaced. -/
theorem replace_error {fault : IoFault} (failed : t.replace p content = .error fault) :
    fault = if t.blocked p.dropLast then .notADirectory
      else if (t.file? p.dropLast).isSome then .alreadyExists else .isADirectory := by
  unfold replace createDirectory at failed
  by_cases way : t.blocked p.dropLast
  · rw [if_pos way] at failed
    rw [if_pos way]
    exact (Except.error.inj failed).symm
  · rw [if_neg way] at failed
    rw [if_neg way]
    by_cases file : (t.file? p.dropLast).isSome
    · rw [if_pos file] at failed
      rw [if_pos file]
      exact (Except.error.inj failed).symm
    · rw [if_neg file] at failed
      rw [if_neg file]
      simp only [bind, Except.bind] at failed
      split at failed
      · exact (Except.error.inj failed).symm
      · exact absurd failed (by simp)

/-- Removing a file writes only there. -/
theorem writesOnly_remove (t : FileTree) (p : Place) : WritesOnly (· = p) t (t.remove p) := by
  intro q
  rw [at_remove]
  by_cases removed : q = p ∧ t.blocked p = false ∧ (t.file? p).isSome
  · obtain ⟨rfl, -, file⟩ := removed
    refine .inr (.inr ⟨rfl, fun dir => ?_⟩)
    rw [file?_eq_none_iff.mpr (.inr dir)] at file
    exact absurd file (by simp)
  · rw [if_neg removed]
    exact .inl rfl

/-- Removing some files writes only there. -/
theorem writesOnly_foldl_remove (ps : List Place) (t : FileTree) :
    WritesOnly (· ∈ ps) t (ps.foldl remove t) := by
  induction ps generalizing t with
  | nil => exact .refl _ t
  | cons p ps ih =>
    have first : WritesOnly (· ∈ p :: ps) t (t.remove p) :=
      (writesOnly_remove t p).mono fun q here => List.mem_cons.mpr (.inl here)
    exact first.trans ((ih (t.remove p)).mono fun q among => List.mem_cons_of_mem p among)

/-- Some files are removed, of which none is on the way to another: each that can be reached is
gone, and every other place is as it was. -/
theorem at_foldl_remove {ps : List Place} (apart : ∀ p ∈ ps, ∀ q ∈ ps, p ∉ ancestors q)
    (t : FileTree) (q : Place) :
    (ps.foldl remove t).at? q =
      if q ∈ ps ∧ t.blocked q = false ∧ (t.file? q).isSome then none else t.at? q := by
  induction ps generalizing t with
  | nil => simp
  | cons p ps ih =>
    have way (among : q ∈ p :: ps) : (t.remove p).blocked q = t.blocked q :=
      (writesOnly_remove t p).blocked fun r above here =>
        apart p List.mem_cons_self q among (here ▸ above)
    have spot := at_remove t p q
    rw [List.foldl_cons, ih fun a ha b hb => apart a (List.mem_cons_of_mem _ ha) b
      (List.mem_cons_of_mem _ hb)]
    by_cases removed : q = p ∧ t.blocked p = false ∧ (t.file? p).isSome
    · rw [spot, if_pos removed, ite_self]
      obtain ⟨rfl, reached⟩ := removed
      rw [if_pos ⟨List.mem_cons_self, reached⟩]
    · rw [if_neg removed] at spot
      have file : (t.remove p).file? q = t.file? q := by rw [FileTree.file?, FileTree.file?, spot]
      have gone : q ∈ ps ∧ (t.remove p).blocked q = false ∧ (t.file? q).isSome ↔
          q ∈ p :: ps ∧ t.blocked q = false ∧ (t.file? q).isSome := by
        constructor
        · rintro ⟨among, reached⟩
          have among := List.mem_cons_of_mem p among
          exact ⟨among, way among ▸ reached⟩
        · rintro ⟨among, reached⟩
          rcases List.mem_cons.mp among with rfl | rest
          · exact absurd ⟨rfl, reached⟩ removed
          · exact ⟨rest, (way among).symm ▸ reached⟩
      simp only [spot, file, gone]

/-! ### Staging -/

/-- Replaces the file at a place by way of one of some name beside it. -/
def replaceBy (name : String) (p : Place) (content : Bytes) : FileAction Unit := fun t =>
  match t.createDirectory p.dropLast with
  | .error fault => .error fault t
  | .ok t =>
    let beside := p.dropLast ++ [name]
    let t := t.put beside (.file content)
    match t.at? p with
    | some .directory => .error .isADirectory (t.erase beside)
    | _ => .ok () ((t.erase beside).put p (.file content))

/-- Taking away what was put where nothing was leaves no trace. -/
private theorem erase_put_of_none (hp : p ≠ []) (none : t.at? p = none) (n : Node) :
    (t.put p n).erase p = t := by
  have absent : ∀ e ∈ t.nodes, e.1 ≠ p := by
    rw [at?, if_neg hp] at none
    intro e he same
    have found := List.lookup_eq_none_iff.mp none e he
    simp [same] at found
  have kept : t.nodes.filter (·.1 ≠ p) = t.nodes :=
    List.filter_eq_self.mpr fun e he => decide_eq_true (absent e he)
  rw [put, kept, erase, List.filter_cons_of_neg (by simp), kept]

/-- **Staging leaves no trace.** A file is replaced by way of a file of a fresh name as it is in
one step; if that fails, at most directories are new. -/
theorem replaceBy_cases (hp : p ≠ []) {name : String} (hne : p.dropLast ++ [name] ≠ p)
    (fresh : t.at? (p.dropLast ++ [name]) = none) (content : Bytes) :
    (∃ t', t.replace p content = .ok t' ∧ replaceBy name p content t = .ok () t') ∨
      ∃ fault t', t.replace p content = .error fault ∧
        replaceBy name p content t = .error fault t' ∧ AddsDirectories (ancestors p) t t' := by
  have beside : p.dropLast ++ [name] ≠ [] := by simp
  rcases made : t.createDirectory p.dropLast with fault | t₁
  · refine .inr ⟨fault, t, ?_, ?_, .refl _ t⟩
    · simp [replace, made, bind, Except.bind]
    · rw [replaceBy, made]
  have added := at_createDirectory_dropLast hp made
  have clear : t₁.at? (p.dropLast ++ [name]) = none := by
    have away : p.dropLast ++ [name] ∉ ancestors p := by
      intro above
      obtain ⟨n, rest, e⟩ := mem_ancestors.mp above
      have lengths := congrArg List.length e
      simp only [List.length_append, List.length_dropLast, List.length_cons,
        List.length_nil] at lengths
      omega
    rw [added, if_neg fun h => away h.1, fresh]
  have undone := erase_put_of_none beside clear (.file content)
  have spot : (t₁.put (p.dropLast ++ [name]) (.file content)).at? p = t₁.at? p := by
    rw [at_put t₁ beside, if_neg hne.symm]
  have adds : AddsDirectories (ancestors p) t t₁ := by
    intro q
    rw [added]
    by_cases new : q ∈ ancestors p ∧ t.at? q = none
    · rw [if_pos new]
      exact .inr ⟨new.1, new.2, rfl⟩
    · rw [if_neg new]
      exact .inl rfl
  by_cases dir : t₁.at? p = some .directory
  · refine .inr ⟨.isADirectory, t₁, ?_, ?_, adds⟩
    · simp [replace, made, bind, Except.bind, dir]
    · simp only [replaceBy, made, spot, dir, undone]
  · refine .inl ⟨t₁.put p (.file content), ?_, ?_⟩
    · simp only [replace, made, bind, Except.bind]
    · simp only [replaceBy, made, spot, undone]

end Keyguard.FileTree
