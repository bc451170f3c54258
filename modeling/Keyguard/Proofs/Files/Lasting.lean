import Keyguard.Proofs.Files.Trail

/-!
# What lasts in a tree

A path that could be followed can be followed as long as no directory goes away
(`FileTree.follow_of_stay`), whatever becomes of the files.

* A directory that was **created** is found again: creating it once more succeeds and changes
  nothing (`createAt_again`).
* A directory that **could not be created** cannot be created a second time either, in the tree
  that the first attempt left (`createAt_error_again`). That attempt may have created directories on
  the way, but the last of them stands before the same obstacle.
* A file that could be **read** by a path is read again if it stays (`readAt_of_stay`).
-/

namespace Keyguard.FileTree

variable {t t' t'' : FileTree} {start place q : Place} {segments before : List (List Char)}
  {last : List Char} {p : Path} {fault : IoFault}

/-- Whether all directories of a tree are directories of another one. -/
def DirectoriesStay (t t' : FileTree) : Prop :=
  ∀ q, t.at? q = some .directory → t'.at? q = some .directory

/-! ### Following a path again -/

theorem step_of_stay (stay : DirectoriesStay t t') (h : t.step place last = .ok q) :
    t'.step place last = .ok q := by
  have dir := at_of_step h
  rw [step, dir] at h
  rw [step, stay place dir]
  exact h

theorem walk_of_stay (stay : DirectoriesStay t t') (h : t.walk start segments = .ok q) :
    t'.walk start segments = .ok q := by
  induction segments generalizing start with
  | nil => exact h
  | cons s ss ih =>
    obtain ⟨next, stepped, walked⟩ := walk_cons_eq_ok.mp h
    exact walk_cons_eq_ok.mpr ⟨next, step_of_stay stay stepped, ih walked⟩

theorem follow_of_stay (stay : DirectoriesStay t t') (h : t.follow p = .ok q) :
    t'.follow p = .ok q :=
  follow_eq_ok.mpr ((follow_eq_ok.mp h).imp_right (walk_of_stay stay))

/-- A file that could be read is read as long as it stays. -/
theorem readAt_of_stay (stay : ∀ q n, t.at? q = some n → t'.at? q = some n) {content : Bytes}
    (h : t.readAt p = .ok content) : t'.readAt p = .ok content := by
  unfold readAt at h ⊢
  rcases followed : t.follow p with fault | place
  · rw [followed] at h
    exact absurd h (by simp [bind, Except.bind])
  · rw [followed] at h
    obtain ⟨-, found⟩ := read_eq_ok_iff.mp h
    have again := follow_of_stay (fun q dir => stay q _ dir) followed
    rw [again]
    refine read_eq_ok_iff.mpr ⟨blocked_of_follow again, ?_⟩
    obtain ⟨n, spot, content⟩ := Option.bind_eq_some_iff.mp found
    rw [file?, stay place n spot]
    exact content

/-! ### Directories that are there -/

/-- Some parts of a path lead to a directory if they do in a tree whose directories stay. -/
theorem hasDirectoryAt_of_stay (stay : DirectoriesStay t t')
    (h : t.hasDirectoryAt start segments) : t'.hasDirectoryAt start segments := by
  unfold hasDirectoryAt at h ⊢
  rcases walked : t.walk start segments with fault | place
  · rw [walked] at h
    exact absurd h (by simp)
  · rw [walked] at h
    rw [walk_of_stay stay walked]
    exact decide_eq_true (stay place (of_decide_eq_true h))

/-- Where some parts of a path lead to is a directory if a further part can be followed. -/
theorem hasDirectoryAt_of_walk (h : t.walk start (segments ++ [last]) = .ok q) :
    t.hasDirectoryAt start segments := by
  rw [walk, List.foldlM_append, ← walk] at h
  unfold hasDirectoryAt
  rcases walked : t.walk start segments with fault | place
  · rw [walked] at h
    exact absurd h (by simp [bind, Except.bind])
  · rw [walked] at h
    have next : t.walk place [last] = .ok q := h
    obtain ⟨_, stepped, _⟩ := walk_cons_eq_ok.mp next
    exact decide_eq_true (at_of_step stepped)

/-- A directory that is there need not be created. -/
theorem ensureDirectory_of_hasDirectoryAt (h : t.hasDirectoryAt start segments) :
    ensureDirectory start segments t = .ok () t := by
  have found := h
  unfold hasDirectoryAt at found
  rcases walked : t.walk start segments with fault | place
  · rw [walked] at found
    exact absurd found (by simp)
  · rw [walked] at found
    have dir : t.at? place = some .directory := of_decide_eq_true found
    have there : t.makeDirectoryAt start segments = .error .alreadyExists := by
      simp only [makeDirectoryAt, walked, bind, Except.bind, dir]
    simp only [ensureDirectory, there, h, if_true]

/-- A directory can be created only where the parts of the path can be followed to, and is there
afterwards. -/
theorem ensureDirectory_eq_ok (h : ensureDirectory start segments t = .ok () t') :
    (∃ place, t.walk start segments = .ok place) ∧ t'.hasDirectoryAt start segments := by
  unfold ensureDirectory makeDirectoryAt at h
  rcases walked : t.walk start segments with fault | place
  · -- where nothing can be followed to there is no directory either
    have none : t.hasDirectoryAt start segments = false := by
      unfold hasDirectoryAt
      rw [walked]
    rw [walked, none] at h
    rcases fault <;> exact absurd h (by simp [bind, Except.bind])
  refine ⟨⟨place, rfl⟩, ?_⟩
  rw [walked] at h
  simp only [bind, Except.bind] at h
  rcases spot : t.at? place with _ | n
  · rw [spot] at h
    injection h with _ h
    have nonempty : place ≠ [] := by
      rintro rfl
      simp [at?] at spot
    have stay : DirectoriesStay t t' := by
      rw [← h]
      intro q dir
      have away : q ≠ place := by
        rintro rfl
        exact absurd (dir.symm.trans spot) (by simp)
      rw [at_put t nonempty, if_neg away, dir]
    unfold hasDirectoryAt
    rw [walk_of_stay stay walked, ← h]
    exact decide_eq_true (by rw [at_put t nonempty, if_pos rfl])
  · rw [spot] at h
    dsimp only at h
    split at h
    · injection h with _ h
      rw [← h]
      assumption
    · exact absurd h (by simp)

/-! ### Creating directories again -/

theorem ensureDirectories_cons (start : Place) (last : List Char) (before : List (List Char))
    (t : FileTree) :
    ensureDirectories start (last :: before) t =
      match ensureDirectory start (last :: before).reverse t with
      | .error .notFound t =>
        match ensureDirectories start before t with
        | .ok () t => ensureDirectory start (last :: before).reverse t
        | .error fault t => .error fault t
      | r => r := rfl

/-- Once a directory was created, it is there. The parts of the path come last first. -/
theorem ensureDirectories_eq_ok (h : ensureDirectories start segments t = .ok () t') :
    segments = [] ∧ t' = t ∨ t'.hasDirectoryAt start segments.reverse := by
  rcases segments with _ | ⟨last, before⟩
  · injection h with _ h
    exact .inl ⟨rfl, h.symm⟩
  · refine .inr ?_
    rw [ensureDirectories_cons] at h
    rcases first : ensureDirectory start (last :: before).reverse t with ⟨_, t₁⟩ | ⟨fault, t₁⟩
    · rw [first] at h
      injection h with _ h
      exact h ▸ (ensureDirectory_eq_ok first).2
    · rw [first] at h
      rcases fault
      case notFound =>
        dsimp only at h
        rcases rest : ensureDirectories start before t₁ with ⟨_, t₂⟩ | ⟨fault, t₂⟩
        · rw [rest] at h
          exact (ensureDirectory_eq_ok h).2
        · rw [rest] at h
          exact absurd h (by simp)
      all_goals exact absurd h (by simp)

/-- Directories that are there need not be created. -/
theorem ensureDirectories_of_hasDirectoryAt
    (h : segments = [] ∨ t.hasDirectoryAt start segments.reverse) :
    ensureDirectories start segments t = .ok () t := by
  rcases segments with _ | ⟨last, before⟩
  · rfl
  · have there := ensureDirectory_of_hasDirectoryAt (h.resolve_left (List.cons_ne_nil last before))
    rw [ensureDirectories_cons, there]

/-- **Creating a directory again** succeeds and changes nothing, as long as no directory goes
away. -/
theorem createAt_again (done : createAt p t = .ok () t') (stay : DirectoriesStay t' t'') :
    createAt p t'' = .ok () t'' := by
  unfold createAt at done ⊢
  rcases checked : p.check with fault | _
  · rw [checked] at done
    exact absurd done (by simp)
  · rw [checked] at done
    refine ensureDirectories_of_hasDirectoryAt ?_
    rcases ensureDirectories_eq_ok done with ⟨none, -⟩ | there
    · exact .inl none
    · exact .inr (hasDirectoryAt_of_stay stay there)

/-- A single directory that cannot be created leaves everything as it is. -/
theorem ensureDirectory_error (h : ensureDirectory start segments t = .error fault t') :
    t' = t := by
  unfold ensureDirectory at h
  rcases made : t.makeDirectoryAt start segments with fault₁ | t₁ <;> rw [made] at h
  · rcases fault₁
    case alreadyExists =>
      dsimp only at h
      split at h
      · exact absurd h (by simp)
      · injection h with _ h
        exact h.symm
    all_goals
      injection h with _ h
      exact h.symm
  · exact absurd h (by simp)

/-- Where directories cannot be created, they cannot be created in the tree that is left. -/
theorem ensureDirectories_error_again
    (failed : ensureDirectories start segments t = .error fault t') :
    ∃ fault' t'', ensureDirectories start segments t' = .error fault' t'' := by
  induction segments generalizing t t' fault with
  | nil => exact absurd failed nofun
  | cons last before ih =>
    -- the second attempt fails at the last directory, and once more after those before it
    have again {fault' : IoFault}
        (whole : ensureDirectory start (last :: before).reverse t' = .error fault' t')
        (rest : (∃ fault'' t'', ensureDirectories start before t' = .error fault'' t'') ∨
          ensureDirectories start before t' = .ok () t') :
        ∃ fault'' t'', ensureDirectories start (last :: before) t' = .error fault'' t'' := by
      rw [ensureDirectories_cons, whole]
      rcases fault'
      case notFound =>
        dsimp only
        rcases rest with ⟨fault'', t'', rest⟩ | rest
        · exact ⟨fault'', t'', by rw [rest]⟩
        · exact ⟨.notFound, t', by rw [rest]; exact whole⟩
      all_goals exact ⟨_, t', rfl⟩
    rw [ensureDirectories_cons] at failed
    rcases first : ensureDirectory start (last :: before).reverse t with ⟨_, t₁⟩ | ⟨fault₁, t₁⟩
    · rw [first] at failed
      exact absurd failed (by simp)
    obtain rfl := ensureDirectory_error first
    rw [first] at failed
    rcases fault₁
    case notFound =>
      dsimp only at failed
      rcases rest : ensureDirectories start before t₁ with ⟨_, t₂⟩ | ⟨fault₂, t₂⟩
      · rw [rest] at failed
        obtain rfl := ensureDirectory_error failed
        refine again failed (.inr (ensureDirectories_of_hasDirectoryAt ?_))
        exact (ensureDirectories_eq_ok rest).imp And.left id
      · rw [rest] at failed
        obtain ⟨rfl, rfl⟩ : fault₂ = fault ∧ t₂ = t' := by
          injection failed with h h'
          exact ⟨h, h'⟩
        obtain ⟨fault', t'', stuck⟩ := ih rest
        rcases whole : ensureDirectory start (last :: before).reverse t₂ with
          ⟨_, t₃⟩ | ⟨fault₃, t₃⟩
        · -- whoever follows the whole path finds the directories before the last
          obtain ⟨place, walked⟩ := (ensureDirectory_eq_ok whole).1
          rw [List.reverse_cons] at walked
          have there : ensureDirectories start before t₂ = .ok () t₂ :=
            ensureDirectories_of_hasDirectoryAt (.inr (hasDirectoryAt_of_walk walked))
          exact absurd (stuck.symm.trans there) (by simp)
        · obtain rfl := ensureDirectory_error whole
          exact again whole (.inl ⟨fault', t'', stuck⟩)
    all_goals
      injection failed with h h'
      subst h'
      rw [ensureDirectories_cons, first]
      exact ⟨_, t₁, rfl⟩

/-- **A directory that could not be created** cannot be created in the tree that is left. -/
theorem createAt_error_again (failed : createAt p t = .error fault t') :
    ∃ fault' t'', createAt p t' = .error fault' t'' := by
  unfold createAt at failed ⊢
  rcases checked : p.check with fault₁ | _
  · exact ⟨fault₁, t', rfl⟩
  · rw [checked] at failed
    exact ensureDirectories_error_again failed

end Keyguard.FileTree
