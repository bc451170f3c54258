import Keyguard.Files.Tree

/-!
# Reading and replacing files

What stands in the way of a file is decided by the places above it (`mem_ancestors`): a place is
blocked exactly when a file stands at one of them (`blocked_eq_false_iff`).

* **Reading** a place that is not blocked sees the node there (`read_of_open`).
* **Replacing** succeeds exactly where nothing blocks the place and no directory is there
  (`replace_eq_ok_iff`). Then the place has the new content, the directories on the way exist, and
  every other place is as it was (`at_replace`).
* **Removing** takes the file away where it can be reached and changes no other place
  (`at_remove`).
-/

namespace Keyguard.FileTree

variable {t t' : FileTree} {p q : Place} {content : Bytes}

/-! ### The places above a place -/

/-- The places above a place are those that more names lead from to it. -/
theorem mem_ancestors : q ∈ ancestors p ↔ ∃ name rest, p = q ++ name :: rest := by
  induction p generalizing q with
  | nil => simp [ancestors]
  | cons n p ih =>
    simp only [ancestors, List.mem_cons, List.mem_map]
    constructor
    · rintro (rfl | ⟨q', hq', rfl⟩)
      · exact ⟨n, p, rfl⟩
      · obtain ⟨name, rest, rfl⟩ := ih.mp hq'
        exact ⟨name, rest, rfl⟩
    · rintro ⟨name, rest, h⟩
      cases q with
      | nil => exact .inl rfl
      | cons m q' =>
        injection h with hm hp
        subst hm
        exact .inr ⟨q', ih.mpr ⟨name, rest, hp⟩, rfl⟩

theorem not_mem_ancestors_self (p : Place) : p ∉ ancestors p := by
  intro h
  obtain ⟨name, rest, e⟩ := mem_ancestors.mp h
  have := congrArg List.length e
  rw [List.length_append, List.length_cons] at this
  omega

/-- Above a place in a directory are the directory and what is above it. -/
theorem ancestors_append_singleton (p : Place) (name : String) :
    ancestors (p ++ [name]) = ancestors p ++ [p] := by
  induction p with
  | nil => rfl
  | cons n p ih => simp [ancestors, ih]

/-- A place is open when no file stands above it. -/
theorem blocked_eq_false_iff : t.blocked p = false ↔ ∀ q ∈ ancestors p, t.file? q = none := by
  simp [blocked]

/-! ### Reading -/

/-- A place without a file has nothing or a directory. -/
theorem file?_eq_none_iff :
    t.file? p = none ↔ t.at? p = none ∨ t.at? p = some .directory := by
  cases h : t.at? p with
  | none => simp [file?, h]
  | some n => cases n <;> simp [file?, h, Node.content?]

/-- Reading an open place sees the file there, and the absence of one. -/
theorem read_of_open (way : t.blocked p = false) (spot : t.at? p ≠ some .directory) :
    t.read p = match t.file? p with
      | some content => .ok content
      | none => .error .notFound := by
  rw [read, way]
  cases h : t.at? p with
  | none => simp [file?, h]
  | some n =>
    cases n with
    | directory => exact absurd h spot
    | _ => simp [file?, h, Node.content?]

/-- What is read at a place is the file there, and nothing blocks the place. -/
theorem read_eq_ok_iff :
    t.read p = .ok content ↔ t.blocked p = false ∧ t.file? p = some content := by
  cases hb : t.blocked p with
  | true => simp [read, hb]
  | false =>
    cases h : t.at? p with
    | none => simp [read, hb, h, file?]
    | some n => cases hn : n.content? <;> simp [read, hb, h, hn, file?]

/-- Reading finds nothing where nothing is and nothing blocks the place. -/
theorem read_eq_notFound_iff :
    t.read p = .error .notFound ↔ t.blocked p = false ∧ t.at? p = none := by
  cases hb : t.blocked p with
  | true => simp [read, hb]
  | false =>
    cases h : t.at? p with
    | none => simp [read, hb, h]
    | some n => cases hn : n.content? <;> simp [read, hb, h, hn]

/-! ### Replacing -/

/-- The directory of a place can be created exactly when the place is open. -/
theorem createDirectory_dropLast (hp : p ≠ []) :
    (∃ t', t.createDirectory p.dropLast = .ok t') ↔ t.blocked p = false := by
  obtain ⟨dir, name, rfl⟩ : ∃ dir name, p = dir ++ [name] :=
    ⟨_, _, (List.dropLast_concat_getLast hp).symm⟩
  rw [List.dropLast_concat, blocked_eq_false_iff, ancestors_append_singleton]
  simp only [List.mem_append, List.mem_singleton, createDirectory]
  cases hb : t.blocked dir with
  | true =>
    simp only [if_true, reduceCtorEq, exists_false, false_iff]
    intro h
    have open' : t.blocked dir = false := blocked_eq_false_iff.mpr fun q hq => h q (.inl hq)
    exact absurd (hb.symm.trans open') (by simp)
  | false =>
    have above := blocked_eq_false_iff.mp hb
    cases hf : t.file? dir with
    | some content =>
      simp only [Bool.false_eq_true, if_false, Option.isSome_some, if_true, reduceCtorEq,
        exists_false, false_iff]
      intro h
      exact absurd (hf.symm.trans (h dir (.inr rfl))) (by simp)
    | none =>
      simp only [Bool.false_eq_true, if_false, Option.isSome_none, Except.ok.injEq,
        exists_eq', true_iff]
      rintro q (hq | rfl)
      · exact above q hq
      · exact hf

/-- Creating the directory of a place leaves the place itself as it was. -/
theorem at_createDirectory_dropLast (hp : p ≠ [])
    (h : t.createDirectory p.dropLast = .ok t') (q : Place) :
    t'.at? q = if q ∈ ancestors p ∧ t.at? q = none then some .directory else t.at? q := by
  obtain ⟨dir, name, rfl⟩ : ∃ dir name, p = dir ++ [name] :=
    ⟨_, _, (List.dropLast_concat_getLast hp).symm⟩
  rw [List.dropLast_concat] at h
  rw [at_createDirectory h, ancestors_append_singleton]

/-- A file can be replaced exactly where no file is above the place and no directory at it. -/
theorem replace_eq_ok_iff (hp : p ≠ []) :
    (∃ t', t.replace p content = .ok t') ↔
      t.blocked p = false ∧ t.at? p ≠ some .directory := by
  rw [← createDirectory_dropLast hp]
  cases hc : t.createDirectory p.dropLast with
  | error fault => simp [replace, hc, bind, Except.bind]
  | ok t₁ =>
    have spot : t₁.at? p = t.at? p := by
      rw [at_createDirectory_dropLast hp hc, if_neg fun h => not_mem_ancestors_self p h.1]
    simp only [replace, hc, bind, Except.bind, spot, Except.ok.injEq, exists_eq', true_and]
    cases h : t.at? p with
    | none => simp
    | some n => cases n <;> simp

/-- After a file was replaced its place has the new content, the directories on the way exist,
and every other place is as it was. -/
theorem at_replace (hp : p ≠ []) (h : t.replace p content = .ok t') (q : Place) :
    t'.at? q = if q = p then some (.file content)
      else if q ∈ ancestors p ∧ t.at? q = none then some .directory else t.at? q := by
  cases hc : t.createDirectory p.dropLast with
  | error fault => simp [replace, hc, bind, Except.bind] at h
  | ok t₁ =>
    simp only [replace, hc, bind, Except.bind] at h
    split at h
    · simp at h
    · injection h with h
      rw [← h, at_put _ hp, at_createDirectory_dropLast hp hc]

/-- An open place where a directory is refuses a file. -/
theorem replace_of_directory (hp : p ≠ []) (way : t.blocked p = false)
    (spot : t.at? p = some .directory) : t.replace p content = .error .isADirectory := by
  obtain ⟨t₁, hc⟩ := (createDirectory_dropLast hp).mpr way
  have spot₁ : t₁.at? p = some .directory := by
    rw [at_createDirectory_dropLast hp hc, if_neg fun h => not_mem_ancestors_self p h.1, spot]
  simp [replace, hc, bind, Except.bind, spot₁]

/-! ### Removing -/

/-- Removing a file changes its place only, and only where a file is that can be reached. -/
theorem at_remove (t : FileTree) (p q : Place) :
    (t.remove p).at? q =
      if q = p ∧ t.blocked p = false ∧ (t.file? p).isSome then none else t.at? q := by
  rw [remove]
  by_cases hb : t.blocked p = true
  · simp [hb]
  · cases hf : t.file? p with
    | none => simp
    | some content =>
      have hp : p ≠ [] := by
        rintro rfl
        simp [file?, at?, Node.content?] at hf
      simp [hb, at_erase t hp]

end Keyguard.FileTree
