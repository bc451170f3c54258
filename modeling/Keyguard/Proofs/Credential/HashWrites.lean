import Keyguard.Proofs.Files.Places
import Keyguard.Proofs.Files.Writing

/-!
# Writes of hashes

Storing a pattern's hash takes two writes: the file of the other variant is emptied, then the hash
goes into its own. In whatever tree this is done, it can end in three ways only
(`HashFiles.set_cases`): both files are written, nothing is done, or the other file is emptied and
a directory in the place of the target keeps the hash out.

* **Storing** is all or nothing for the target, never leaves a second hash of a pattern, and
  reaches no file but these two (`HashFiles.set_is_exclusive_and_confined`).
* **Moving** a pattern stores its only copy under the other variant, so the third way of storing
  loses it. Nothing else does (`HashFiles.move_keeps_hash_iff`).
-/

namespace Keyguard

open FileTree

/-! ### Places of credential files -/

namespace Layout

variable {l : Layout} {t t' : FileTree} {content : Bytes}

/-- The files of a user are all in one directory, so what blocks one blocks all. -/
theorem blocked_file_eq (l : Layout) (t : FileTree) (u : UserId) (f g : CredentialFile) :
    t.blocked (l.file u f).names = t.blocked (l.file u g).names := by
  rw [blocked, blocked, names_file, names_file, ancestors_append_singleton,
    ancestors_append_singleton]

/-- Replacing a credential file leaves the places of all others as they were. -/
theorem at_file_of_replace {u v : UserId} {f g : CredentialFile} (differ : v ≠ u ∨ g ≠ f)
    (done : t.replace (l.file u f).names content = .ok t') :
    t'.at? (l.file v g).names = t.at? (l.file v g).names := by
  have elsewhere : (l.file v g).names ≠ (l.file u f).names := by
    intro same
    obtain ⟨users, files⟩ := file_injective same
    exact differ.elim (· users) (· files)
  rw [at_replace (file_ne_nil u f) done, if_neg elsewhere,
    if_neg fun new => file_not_mem_ancestors_file v u g f new.1]

end Layout

namespace HashFiles

variable {h : HashFiles} {kind : CredentialKind} {hash : Bytes} {u : UserId} {v w : GridVariant}
  {t t' : FileTree}

open Layout

/-! ### Storing -/

/-- Whether a hash can be stored: no file is on the way, and no directory in the place of a file
that is written. -/
def Writable (h : HashFiles) (kind : CredentialKind) (u : UserId) (v : GridVariant)
    (t : FileTree) : Prop :=
  t.blocked (h.path kind u v).names = false ∧ t.at? (h.path kind u v).names ≠ some .directory ∧
    (kind = .pattern → t.at? (h.path .pattern u v.other).names ≠ some .directory)

/-- Whether a place is that of a file that is written when a hash is stored. -/
def IsTarget (h : HashFiles) (kind : CredentialKind) (u : UserId) (v : GridVariant)
    (q : Place) : Prop :=
  q = (h.path kind u v).names ∨ kind = .pattern ∧ q = (h.path .pattern u v.other).names

/-- A file that is written is not on the way to a credential file. -/
theorem not_isTarget_of_mem_ancestors {f : CredentialFile} {x : UserId} {q : Place}
    (above : q ∈ ancestors (h.layout.file x f).names) : ¬h.IsTarget kind u v q := by
  rintro (rfl | ⟨-, rfl⟩) <;> exact file_not_mem_ancestors_file u x _ f above

theorem path_ne_nil (h : HashFiles) (kind : CredentialKind) (u : UserId) (v : GridVariant) :
    (h.path kind u v).names ≠ [] := file_ne_nil u _

theorem set_password (h : HashFiles) (hash : Bytes) (u : UserId) (v : GridVariant) :
    h.set .password hash u v = writeFile (h.path .password u v) hash := by
  funext t
  simp only [set, reduceCtorEq, if_false]

theorem set_pattern (h : HashFiles) (hash : Bytes) (u : UserId) (v : GridVariant)
    (t : FileTree) :
    h.set .pattern hash u v t = match writeFile (h.path .pattern u v.other) [] t with
      | .ok _ t₁ => writeFile (h.path .pattern u v) hash t₁
      | .error fault t₁ => .error fault t₁ := by
  simp only [set, if_true, bind, EStateM.bind]
  rcases writeFile (h.path .pattern u v.other) [] t with ⟨_, t₁⟩ | ⟨fault, t₁⟩ <;> rfl

/-- The other variant's file is another one. -/
private theorem pattern_ne_other (v : GridVariant) :
    CredentialFile.pattern v ≠ .pattern v.other := by
  rcases v with _ | _ <;> simp [GridVariant.other]

/-- Emptying the file of the other variant leaves the place of the target as it was. -/
private theorem of_emptied {t₁ : FileTree}
    (emptied : t.replace (h.path .pattern u v.other).names [] = .ok t₁) :
    t₁.blocked (h.path .pattern u v).names = t.blocked (h.path .pattern u v).names ∧
      t₁.at? (h.path .pattern u v).names = t.at? (h.path .pattern u v).names ∧
      t₁.at? (h.path .pattern u v.other).names = some (.file []) ∧
      WritesOnly (h.IsTarget .pattern u v) t t₁ := by
  have hne := h.path_ne_nil .pattern u v.other
  have only : WritesOnly (h.IsTarget .pattern u v) t t₁ :=
    (writesOnly_replace hne emptied).mono fun q here => .inr ⟨rfl, here⟩
  refine ⟨only.blocked fun q => not_isTarget_of_mem_ancestors,
    at_file_of_replace (.inr (pattern_ne_other v)) emptied, ?_, only⟩
  rw [at_replace hne emptied, if_pos rfl]

/-- **The ways of storing a hash.** Either all files are written, or the first one cannot be and
nothing is done, or the file of the other variant is emptied and the hash is kept out by a
directory. -/
theorem set_cases (h : HashFiles) (kind : CredentialKind) (hash : Bytes) (u : UserId)
    (v : GridVariant) (t : FileTree) :
    (∃ t', h.set kind hash u v t = .ok () t' ∧ h.Writable kind u v t ∧
        t'.at? (h.path kind u v).names = some (.file hash) ∧
        (kind = .pattern → t'.at? (h.path .pattern u v.other).names = some (.file [])) ∧
        WritesOnly (h.IsTarget kind u v) t t') ∨
      (∃ fault, h.set kind hash u v t = .error fault t ∧ ¬h.Writable kind u v t ∧
        (kind = .pattern → t.blocked (h.path .pattern u v.other).names = true ∨
          t.at? (h.path .pattern u v.other).names = some .directory)) ∨
      ∃ t', kind = .pattern ∧ h.set kind hash u v t = .error .isADirectory t' ∧
        t.at? (h.path kind u v).names = some .directory ∧
        t'.at? (h.path kind u v).names = some .directory ∧
        t'.at? (h.path .pattern u v.other).names = some (.file []) ∧
        WritesOnly (h.IsTarget kind u v) t t' := by
  have hne := h.path_ne_nil kind u v
  rcases kind with _ | _
  · have same : t.blocked (h.path .pattern u v.other).names =
        t.blocked (h.path .pattern u v).names := blocked_file_eq h.layout t u _ _
    rw [set_pattern]
    rcases writeFile_cases (h.path_ne_nil .pattern u v.other) [] t with
      ⟨t₁, written, emptied, way, free⟩ | ⟨fault, refused, cause⟩
    · rw [written]
      obtain ⟨way₁, spot₁, other₁, only₁⟩ := of_emptied emptied
      rcases writeFile_cases hne hash t₁ with
        ⟨t₂, written₂, stored, way₂, free₂⟩ | ⟨fault, -, cause⟩
      · refine .inl ⟨t₂, written₂, ⟨way₁ ▸ way₂, spot₁ ▸ free₂, fun _ => free⟩, ?_,
          fun _ => ?_, ?_⟩
        · rw [at_replace hne stored, if_pos rfl]
        · exact (at_file_of_replace (.inr (pattern_ne_other v).symm) stored).trans other₁
        · exact only₁.trans ((writesOnly_replace hne stored).mono fun q here => .inl here)
      · have clear : t₁.blocked (h.path .pattern u v).names = false := by rw [way₁, ← same, way]
        have dir : t₁.at? (h.path .pattern u v).names = some .directory :=
          cause.resolve_left (by simp [clear])
        dsimp only
        rw [writeFile_eq, replace_of_directory hne clear dir]
        exact .inr (.inr ⟨t₁, rfl, rfl, spot₁ ▸ dir, dir, other₁, only₁⟩)
    · refine .inr (.inl ⟨fault, by rw [refused], fun writable => ?_, fun _ => cause⟩)
      rcases cause with blocked | dir
      · rw [same, writable.1] at blocked
        exact absurd blocked (by simp)
      · exact writable.2.2 rfl dir
  · rw [set_password]
    rcases writeFile_cases hne hash t with
      ⟨t', written, stored, way, free⟩ | ⟨fault, refused, cause⟩
    · refine .inl ⟨t', written, ⟨way, free, nofun⟩, ?_, nofun, ?_⟩
      · rw [at_replace hne stored, if_pos rfl]
      · exact (writesOnly_replace hne stored).mono fun q here => .inl here
    · refine .inr (.inl ⟨fault, refused, fun writable => ?_, nofun⟩)
      rcases cause with blocked | dir
      · exact absurd (blocked.symm.trans writable.1) (by simp)
      · exact writable.2.1 dir

/-- Storing a hash writes no other file, however it ends. -/
theorem writesOnly_set (h : HashFiles) (kind : CredentialKind) (hash : Bytes) (u : UserId)
    (v : GridVariant) (t : FileTree) :
    WritesOnly (h.IsTarget kind u v) t (t.after (h.set kind hash u v)) := by
  rcases h.set_cases kind hash u v t with
    ⟨t', done, -, -, -, only⟩ | ⟨fault, done, -, -⟩ | ⟨t', -, done, -, -, -, only⟩
  · rw [after, done]
    exact only
  · rw [after, done]
    exact .refl _ t
  · rw [after, done]
    exact only

/-! ### Storing by way of staged files -/

/-- Stores a hash, writing each file by way of one of some name beside it. -/
def setBy (h : HashFiles) (name : String) (kind : CredentialKind) (hash : Bytes) (u : UserId)
    (v : GridVariant) : FileAction Unit := do
  if kind = .pattern then
    replaceBy name (h.path .pattern u v.other).names []
  replaceBy name (h.path kind u v).names hash

/-- Whether a name is new in the directory of a user's files and that of none of them. -/
def Fresh (h : HashFiles) (u : UserId) (name : String) (t : FileTree) : Prop :=
  (∀ f : CredentialFile, name ≠ f.name) ∧ t.at? ((h.layout.userDir u).names ++ [name]) = none

/-- Writing a file by way of one of a fresh name gives what a single step gives. -/
private theorem writeFile_replaceBy {name : String} (fresh : h.Fresh u name t)
    (kind : CredentialKind) (v : GridVariant) (content : Bytes) :
    (∃ t', writeFile (h.path kind u v) content t = .ok () t' ∧
        replaceBy name (h.path kind u v).names content t = .ok () t' ∧ h.Fresh u name t') ∨
      ∃ fault t', writeFile (h.path kind u v) content t = .error fault t ∧
        replaceBy name (h.path kind u v).names content t = .error fault t' ∧
        ∀ q, t'.file? q = t.file? q := by
  have dir : (h.path kind u v).names.dropLast = (h.layout.userDir u).names := by
    rw [path, names_file, List.dropLast_concat]
  have hne : (h.layout.userDir u).names ++ [name] ≠ (h.path kind u v).names := by
    rw [path, names_file]
    intro same
    exact fresh.1 _ (by simpa using same)
  rw [writeFile_eq]
  rcases replaceBy_cases (h.path_ne_nil kind u v) (dir.symm ▸ hne) (dir.symm ▸ fresh.2) content
    with ⟨t', done, staged⟩ | ⟨fault, t', refused, staged, added⟩
  · refine .inl ⟨t', by rw [done], staged, fresh.1, ?_⟩
    have above : (h.layout.userDir u).names ++ [name] ∉ ancestors (h.path kind u v).names := by
      intro above
      obtain ⟨n, rest, e⟩ := mem_ancestors.mp above
      have lengths := congrArg List.length e
      rw [path, names_file] at lengths
      simp only [List.length_append, List.length_cons, List.length_nil] at lengths
      omega
    rw [at_replace (h.path_ne_nil kind u v) done, if_neg hne, if_neg fun new => above new.1]
    exact fresh.2
  · exact .inr ⟨fault, t', by rw [refused], staged, added.file?⟩

/-- **Staged files leave no trace.** Storing a hash by way of files of a fresh name gives the same
result and leaves the same files as storing it step by step. -/
theorem setBy_cases {name : String} (fresh : h.Fresh u name t) (kind : CredentialKind)
    (hash : Bytes) (v : GridVariant) :
    (∃ t', h.set kind hash u v t = .ok () t' ∧ h.setBy name kind hash u v t = .ok () t') ∨
      ∃ fault t₁ t₂, h.set kind hash u v t = .error fault t₁ ∧
        h.setBy name kind hash u v t = .error fault t₂ ∧ ∀ q, t₂.file? q = t₁.file? q := by
  rcases kind with _ | _
  · have staged : h.setBy name .pattern hash u v t =
        match replaceBy name (h.path .pattern u v.other).names [] t with
        | .ok _ t₁ => replaceBy name (h.path .pattern u v).names hash t₁
        | .error fault t₁ => .error fault t₁ := by
      simp only [setBy, if_true, bind, EStateM.bind]
      rcases replaceBy name (h.path .pattern u v.other).names [] t with ⟨_, t₁⟩ | ⟨fault, t₁⟩ <;>
        rfl
    rw [set_pattern, staged]
    rcases writeFile_replaceBy fresh .pattern v.other [] with
      ⟨t₁, written, staged₁, fresh₁⟩ | ⟨fault, t₁, refused, staged₁, same⟩
    · rw [written, staged₁]
      rcases writeFile_replaceBy fresh₁ .pattern v hash with
        ⟨t₂, written₂, staged₂, -⟩ | ⟨fault, t₂, refused, staged₂, same⟩
      · exact .inl ⟨t₂, written₂, staged₂⟩
      · exact .inr ⟨fault, t₁, t₂, refused, staged₂, same⟩
    · rw [refused, staged₁]
      exact .inr ⟨fault, t, t₁, rfl, rfl, same⟩
  · have staged : h.setBy name .password hash u v =
        replaceBy name (h.path .password u v).names hash := by
      funext t
      simp only [setBy, reduceCtorEq, if_false]
    rw [set_password, staged]
    rcases writeFile_replaceBy fresh .password v hash with
      ⟨t', written, staged', -⟩ | ⟨fault, t', refused, staged', same⟩
    · exact .inl ⟨t', written, staged'⟩
    · exact .inr ⟨fault, t, t', refused, staged', same⟩

/-! ### What storing does -/

/-- Whether at most one of a user's two pattern files has a hash. -/
def OnePattern (h : HashFiles) (u : UserId) (t : FileTree) : Prop :=
  ∃ v, (t.file? (h.path .pattern u v).names).getD [] = []

/-- A file that is empty or was left alone leaves at most one hash of a pattern. -/
private theorem OnePattern.congr (one : h.OnePattern u t)
    (same : ∀ v, t'.file? (h.path .pattern u v).names = t.file? (h.path .pattern u v).names) :
    h.OnePattern u t' := by
  obtain ⟨v, empty⟩ := one
  exact ⟨v, by rw [same, empty]⟩

/-- **Storing a hash is exclusive and confined**, in every tree. It succeeds exactly if all its
files can be written; then the target holds the hash, and the file of a pattern's other variant is
empty. If it fails, the target is as it was, and the other file as it was or, for a pattern, empty.
In both cases all other files are as they were, no new one is there, no directory is gone, and two
hashes of a pattern are there only if they were before. The same is left if the files are written
by way of others of a fresh name. -/
theorem set_is_exclusive_and_confined (h : HashFiles) (kind : CredentialKind) (hash : Bytes)
    (u : UserId) (v : GridVariant) (t : FileTree) :
    let target := (h.path kind u v).names
    let other := (h.path .pattern u v.other).names
    let after := t.after (h.set kind hash u v)
    (match h.set kind hash u v t with
      | .ok _ t' => h.Writable kind u v t ∧ t'.at? target = some (.file hash) ∧
          (kind = .pattern → t'.at? other = some (.file []))
      | .error _ t' => ¬h.Writable kind u v t ∧ t'.at? target = t.at? target ∧
          (t'.at? other = t.at? other ∨ kind = .pattern ∧ t'.at? other = some (.file []))) ∧
      (∀ q, q ≠ target → (kind = .pattern → q ≠ other) → after.file? q = t.file? q) ∧
      (∀ q, t.at? q = some .directory → after.at? q = some .directory) ∧
      (h.OnePattern u t → h.OnePattern u after) ∧
      ∀ name, h.Fresh u name t →
        match h.set kind hash u v t, h.setBy name kind hash u v t with
        | .ok _ t₁, .ok _ t₂ => t₂ = t₁
        | .error fault t₁, .error fault' t₂ => fault' = fault ∧ ∀ q, t₂.file? q = t₁.file? q
        | _, _ => False := by
  intro target other after
  have only : WritesOnly (h.IsTarget kind u v) t after := h.writesOnly_set kind hash u v t
  have frame (q : Place) (apart : q ≠ target) (apart' : kind = .pattern → q ≠ other) :
      after.file? q = t.file? q :=
    only.file? fun here => here.elim apart fun e => apart' e.1 e.2
  refine ⟨?_, frame, fun q => only.directory, fun one => ?_, fun name fresh => ?_⟩
  · rcases h.set_cases kind hash u v t with
      ⟨t', done, writable, stored, emptied, -⟩ | ⟨fault, done, unwritable, -⟩ |
      ⟨t', pattern, done, dir, dir', emptied, -⟩
    · rw [done]
      exact ⟨writable, stored, emptied⟩
    · rw [done]
      exact ⟨unwritable, rfl, .inl rfl⟩
    · rw [done]
      exact ⟨fun writable => writable.2.1 dir, dir'.trans dir.symm, .inr ⟨pattern, emptied⟩⟩
  · -- a pattern's other file is left empty or nothing is done at all
    have emptied_one (empty : after.at? other = some (.file [])) : h.OnePattern u after :=
      ⟨v.other, by rw [file?, empty]; rfl⟩
    rcases kind with _ | _
    · rcases h.set_cases .pattern hash u v t with
        ⟨t', done, -, -, emptied, -⟩ | ⟨fault, done, -, -⟩ | ⟨t', -, done, -, -, emptied, -⟩
      · refine emptied_one ?_
        rw [show after = t' by simp only [after, FileTree.after, done]]
        exact emptied rfl
      · rw [show after = t by simp only [after, FileTree.after, done]]
        exact one
      · refine emptied_one ?_
        rw [show after = t' by simp only [after, FileTree.after, done]]
        exact emptied
    · refine one.congr fun w => frame _ (fun same => ?_) fun same => absurd same (by simp)
      exact absurd (file_injective same).2 (by simp [CredentialFile.ofKind])
  · rcases setBy_cases fresh kind hash v with
      ⟨t', done, staged⟩ | ⟨fault, t₁, t₂, refused, staged, same⟩
    · rw [done, staged]
    · rw [refused, staged]
      exact ⟨rfl, same⟩

/-- A hash that a directory keeps out leaves the other variant's file empty, and the password. -/
theorem failed_set_empties_other_pattern :
    let dir : Place := ["data", "system", "users", "1"]
    let t : FileTree := ⟨[(dir ++ ["gesture.key"], .directory),
      (dir ++ ["cm_gesture.key"], .file [0xbb]), (dir ++ ["password.key"], .file [0xcc]),
      (dir, .directory)]⟩
    let h : HashFiles := ⟨⟨⟨"data"⟩⟩, .reject⟩
    let after := t.after (h.set .pattern [0xaa] ⟨1⟩ .standard)
    after.at? (dir ++ ["gesture.key"]) = some .directory ∧
      after.file? (dir ++ ["cm_gesture.key"]) = some [] ∧
      after.file? (dir ++ ["password.key"]) = some [0xcc] := by
  intro dir t h after
  obtain ⟨-, frame, directory, -⟩ :=
    h.set_is_exclusive_and_confined .pattern [0xaa] ⟨1⟩ .standard t
  have password := frame (dir ++ ["password.key"]) (by decide +kernel) fun _ => by decide +kernel
  exact ⟨directory _ (by decide +kernel), by decide +kernel,
    password.trans (by decide +kernel)⟩

/-! ### Moving -/

/-- **The ways of moving a pattern.** Either there is nothing to move, or the file cannot be read,
or its hash goes into the other file and leaves its own empty, or it is lost, since a directory
keeps it out of the other file. -/
theorem movePattern_cases (h : HashFiles) (u : UserId) (v w : GridVariant) (t : FileTree) :
    (h.movePattern u v w t = .ok () t ∧
        (v = w ∨ t.read (h.path .pattern u v).names = .error .notFound ∨
          t.read (h.path .pattern u v).names = .ok [])) ∨
      (∃ fault, h.movePattern u v w t = .error fault t ∧
        t.read (h.path .pattern u v).names = .error fault) ∨
      ∃ hash t', v ≠ w ∧ hash ≠ [] ∧ t.read (h.path .pattern u v).names = .ok hash ∧
        t'.read (h.path .pattern u v).names = .ok [] ∧
        (h.movePattern u v w t = .ok () t' ∧
            t.at? (h.path .pattern u w).names ≠ some .directory ∧
            t'.at? (h.path .pattern u w).names = some (.file hash) ∨
          h.movePattern u v w t = .error .isADirectory t' ∧
            t.at? (h.path .pattern u w).names = some .directory) := by
  unfold movePattern
  by_cases same : v = w
  · exact .inl ⟨if_pos same, .inl same⟩
  rw [if_neg same]
  rcases readable : t.read (h.path .pattern u v).names with fault | hash
  · rcases fault
    case notFound => exact .inl ⟨rfl, .inr (.inl rfl)⟩
    all_goals exact .inr (.inl ⟨_, rfl, rfl⟩)
  rcases hash with _ | ⟨b, bs⟩
  · exact .inl ⟨rfl, .inr (.inr rfl)⟩
  obtain ⟨way, found⟩ := read_eq_ok_iff.mp readable
  obtain rfl : w = v.other := by
    rcases v with _ | _ <;> rcases w with _ | _ <;> first | rfl | exact absurd rfl same
  have back : v.other.other = v := by rcases v with _ | _ <;> rfl
  have emptied {t' : FileTree} (only : WritesOnly (h.IsTarget .pattern u v.other) t t')
      (empty : t'.at? (h.path .pattern u v.other.other).names = some (.file [])) :
      t'.read (h.path .pattern u v).names = .ok [] := by
    rw [back] at empty
    refine read_eq_ok_iff.mpr ⟨?_, by rw [file?, empty]; rfl⟩
    exact (only.blocked fun q above => not_isTarget_of_mem_ancestors above).trans way
  refine .inr (.inr ?_)
  rcases h.set_cases .pattern (b :: bs) u v.other t with
    ⟨t', done, writable, stored, empty, only⟩ | ⟨fault, -, -, first⟩ |
    ⟨t', -, done, dir, -, empty, only⟩
  · exact ⟨b :: bs, t', same, List.cons_ne_nil b bs, rfl, emptied only (empty rfl),
      .inl ⟨done, writable.2.1, stored⟩⟩
  · -- a file that could be read can be emptied, so that the first write succeeds
    rw [back] at first
    rcases first rfl with blocked | dir
    · exact absurd (way.symm.trans blocked) (by simp)
    · rw [file?_eq_none_iff.mpr (.inr dir)] at found
      exact absurd found (by simp)
  · exact ⟨b :: bs, t', same, List.cons_ne_nil b bs, rfl, emptied only empty, .inr ⟨done, dir⟩⟩

/-- Whether moving a user's pattern keeps its hash. A move that succeeds takes the hash to the
other file and leaves its own empty, one that fails leaves both files as they were, and nothing
happens to any file where there is nothing to move. -/
def MoveKeepsHash (h : HashFiles) (u : UserId) (v w : GridVariant) (t : FileTree) : Prop :=
  let source := (h.path .pattern u v).names
  (match h.movePattern u v w t with
    | .ok _ t' => v ≠ w → ∀ hash, hash ≠ [] → t.file? source = some hash →
        t'.file? (h.path .pattern u w).names = some hash ∧ t'.file? source = some []
    | .error _ t' => ∀ x,
        t'.at? (h.path .pattern u x).names = t.at? (h.path .pattern u x).names) ∧
    (v = w ∨ (t.file? source).getD [] = [] →
      ∀ q, (t.after (h.movePattern u v w)).file? q = t.file? q)

/-- **Moves that lose a pattern**, in every tree. Moving a pattern keeps its hash unless a hash is
in its file and a directory in the place of the other. -/
theorem move_keeps_hash_iff (h : HashFiles) (u : UserId) (v w : GridVariant) (t : FileTree) :
    h.MoveKeepsHash u v w t ↔
      ¬(v ≠ w ∧ (∃ hash, hash ≠ [] ∧ t.read (h.path .pattern u v).names = .ok hash) ∧
        t.at? (h.path .pattern u w).names = some .directory) := by
  rcases h.movePattern_cases u v w t with
    ⟨done, nothing⟩ | ⟨fault, failed, unreadable⟩ |
    ⟨hash, t', differ, full, readable, empty, ⟨done, free, stored⟩ | ⟨failed, dir⟩⟩
  · -- there was nothing to move
    refine iff_of_true ?_ ?_
    · rw [MoveKeepsHash, FileTree.after, done]
      refine ⟨fun differ hash full found => ?_, fun _ q => rfl⟩
      rcases nothing with same | absent | empty
      · exact absurd same differ
      · rw [file?, (read_eq_notFound_iff.mp absent).2] at found
        exact absurd found (by simp)
      · rw [(read_eq_ok_iff.mp empty).2] at found
        exact absurd (Option.some.inj found).symm full
    · rintro ⟨differ, ⟨hash, full, readable⟩, -⟩
      rcases nothing with same | absent | empty
      · exact differ same
      · exact absurd (absent.symm.trans readable) (by simp)
      · exact full (Except.ok.inj (readable.symm.trans empty))
  · -- the file could not be read, and nothing was done
    refine iff_of_true ?_ ?_
    · rw [MoveKeepsHash, FileTree.after, failed]
      exact ⟨fun _ => rfl, fun _ _ => rfl⟩
    · rintro ⟨-, ⟨hash, -, readable⟩, -⟩
      exact absurd (unreadable.symm.trans readable) (by simp)
  · refine iff_of_true ?_ fun lost => free lost.2.2
    have found := (read_eq_ok_iff.mp readable).2
    rw [MoveKeepsHash, FileTree.after, done]
    refine ⟨fun _ hash' _ found' => ⟨?_, (read_eq_ok_iff.mp empty).2⟩, fun nothing => ?_⟩
    · rw [← found', found, file?, stored]
      rfl
    · rw [found] at nothing
      exact absurd nothing (not_or.mpr ⟨differ, full⟩)
  · -- the hash is gone from its own file, and not in the other
    refine iff_of_false ?_ (not_not_intro ⟨differ, ⟨hash, full, readable⟩, dir⟩)
    rw [MoveKeepsHash, failed]
    rintro ⟨unchanged, -⟩
    have kept : t'.file? (h.path .pattern u v).names = t.file? (h.path .pattern u v).names := by
      rw [file?, file?, unchanged]
    rw [(read_eq_ok_iff.mp empty).2, (read_eq_ok_iff.mp readable).2] at kept
    exact full (Option.some.inj kept).symm

/-- A pattern is moved into a directory of its own that is not there yet. -/
theorem moved_pattern_is_kept :
    let source : Place := ["data", "system", "users", "1", "gesture.key"]
    let t : FileTree := ⟨[(source, .file [0xaa])]⟩
    HashFiles.MoveKeepsHash ⟨⟨⟨"data"⟩⟩, .reject⟩ ⟨1⟩ .standard .alternate t :=
  (move_keeps_hash_iff ..).mpr fun lost => absurd lost.2.2 (by decide +kernel)

/-- A directory in the place of the other file loses the pattern. -/
theorem move_onto_directory_loses_pattern :
    let users : Place := ["data", "system", "users", "1"]
    let t : FileTree := ⟨[(users ++ ["gesture.key"], .file [0xaa]),
      (users ++ ["cm_gesture.key"], .directory), (users, .directory)]⟩
    let h : HashFiles := ⟨⟨⟨"data"⟩⟩, .reject⟩
    (∃ t', h.movePattern ⟨1⟩ .standard .alternate t = .error .isADirectory t' ∧
      t.file? (users ++ ["gesture.key"]) = some [0xaa] ∧
      t'.file? (users ++ ["gesture.key"]) = some []) ∧
      ¬h.MoveKeepsHash ⟨1⟩ .standard .alternate t := by
  intro users t h
  have place : (h.path .pattern ⟨1⟩ .standard).names = users ++ ["gesture.key"] := by
    decide +kernel
  have readable : t.read (users ++ ["gesture.key"]) = .ok [0xaa] :=
    read_eq_ok_iff.mpr ⟨by decide +kernel, by decide +kernel⟩
  have dir : t.at? (h.path .pattern ⟨1⟩ .alternate).names = some .directory := by decide +kernel
  rcases h.movePattern_cases ⟨1⟩ .standard .alternate t with
    ⟨-, nothing⟩ | ⟨fault, -, unreadable⟩ |
    ⟨hash, t', -, -, -, empty, ⟨-, free, -⟩ | ⟨failed, -⟩⟩
  · rw [place, readable] at nothing
    exact absurd nothing (by simp)
  · rw [place, readable] at unreadable
    exact absurd unreadable (by simp)
  · exact absurd dir free
  · rw [place] at empty
    refine ⟨⟨t', failed, by decide +kernel, (read_eq_ok_iff.mp empty).2⟩, fun keeps => ?_⟩
    rw [MoveKeepsHash, failed] at keeps
    have kept := keeps.1 .standard
    rw [place] at kept
    have file : t'.file? (users ++ ["gesture.key"]) = t.file? (users ++ ["gesture.key"]) := by
      rw [file?, file?, kept]
    rw [(read_eq_ok_iff.mp empty).2, (read_eq_ok_iff.mp readable).2] at file
    exact absurd file (by decide)

end HashFiles

end Keyguard
