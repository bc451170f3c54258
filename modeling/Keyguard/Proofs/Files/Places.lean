import Keyguard.Files.Layout
import Keyguard.Proofs.Files.Replacing

/-!
# The places of a layout

Every path of a layout adds plain names to the data directory, so its place is that of the data
directory and a few names more (`names_systemDir` to `names_file`). Two credential files share a
place only if they are the same file of the same user (`file_injective`), and none of them lies
at, or on the way to, a place that the layout uses for something else. What lies above a
credential file is the system directory with all above it, the directory of the users' directories
and the user's own (`mem_ancestors_file`).
-/

namespace Keyguard

/-! ### The directory name of a user -/

theorem Digit.toChar_ne_punctuation (d : Digit) : d.toChar ≠ '/' ∧ d.toChar ≠ '.' := by
  revert d; decide

theorem Digit.toChar_injective {d e : Digit} (h : d.toChar = e.toChar) : d = e := by
  have same := congrArg Digit.ofChar? h
  rwa [ofChar?_toChar, ofChar?_toChar, Option.some_inj] at same

/-- A user's number is the name of a single directory. -/
theorem UserId.isPlain_text (u : UserId) : Path.IsPlain u.text := by
  have digits : ∀ c ∈ u.text.toList, c ≠ '/' ∧ c ≠ '.' := by
    intro c hc
    rw [UserId.text, Digits.text, String.toList_ofList, List.mem_map] at hc
    obtain ⟨d, -, rfl⟩ := hc
    exact d.toChar_ne_punctuation
  have nonempty : u.text.toList ≠ [] := by
    rw [UserId.text, Digits.text, String.toList_ofList, Ne, List.map_eq_nil_iff]
    exact Digits.ofNat_ne_nil _
  refine ⟨?_, fun h => (digits _ h).1 rfl, ?_, ?_⟩ <;> intro e
  · exact nonempty (by rw [e]; rfl)
  · exact (digits '.' (by rw [e]; decide)).2 rfl
  · exact (digits '.' (by rw [e]; decide)).2 rfl

/-- Two users with one directory name are the same user. -/
theorem UserId.text_injective {u v : UserId} (h : u.text = v.text) : u = v := by
  have rows : (Digits.ofNat u.number.toNat).map Digit.toChar =
      (Digits.ofNat v.number.toNat).map Digit.toChar := String.ofList_injective h
  have numbers : u.number.toNat = v.number.toNat :=
    Digits.ofNat_injective ((List.map_inj_right fun _ _ => Digit.toChar_injective).mp rows)
  cases u; cases v
  exact congrArg UserId.mk (UInt32.toNat_inj.mp numbers)

/-! ### The names of credential files -/

namespace CredentialFile

theorem isPlain_name (f : CredentialFile) : Path.IsPlain f.name := by
  rcases f with (_ | _) | _ | _ <;> simp [Path.IsPlain, name]

theorem name_injective {f g : CredentialFile} (h : f.name = g.name) : f = g := by
  rcases f with (_ | _) | _ | _ <;> rcases g with (_ | _) | _ | _ <;>
    first | rfl | exact absurd h (by decide)

/-- No credential file has a name that the layout uses for something else. -/
theorem name_ne_reserved (f : CredentialFile) :
    f.name ≠ "locksettings.db" ∧ f.name ≠ "locksettings.db-wal" ∧ f.name ≠ "users" := by
  rcases f with (_ | _) | _ | _ <;> decide

end CredentialFile

/-! ### Places -/

namespace Layout

open FileTree

variable (l : Layout)

theorem names_systemDir : l.systemDir.names = l.dataDir.names ++ ["system"] :=
  Path.names_join _ (by simp [Path.IsPlain])

theorem names_database : l.database.names = l.systemDir.names ++ ["locksettings.db"] :=
  Path.names_join _ (by simp [Path.IsPlain])

theorem names_journal : l.journal.names = l.systemDir.names ++ ["locksettings.db-wal"] :=
  Path.names_join _ (by simp [Path.IsPlain])

theorem names_usersDir : l.usersDir.names = l.systemDir.names ++ ["users"] :=
  Path.names_join _ (by simp [Path.IsPlain])

theorem names_userDir_system : (l.userDir .system).names = l.systemDir.names := by
  rw [userDir, if_pos rfl]

theorem names_userDir {u : UserId} (h : u ≠ .system) :
    (l.userDir u).names = l.usersDir.names ++ [u.text] := by
  rw [userDir, if_neg h, Path.names_join _ u.isPlain_text]

theorem names_file (u : UserId) (f : CredentialFile) :
    (l.file u f).names = (l.userDir u).names ++ [f.name] :=
  Path.names_join _ f.isPlain_name

/-- The number of names in a place below the data directory. -/
private theorem length_userDir (u : UserId) :
    (l.userDir u).names.length =
      l.dataDir.names.length + if u = .system then 1 else 3 := by
  by_cases h : u = .system
  · subst h
    simp [names_userDir_system, names_systemDir]
  · simp [names_userDir l h, names_usersDir, names_systemDir, h]

variable {l}

theorem userDir_injective {u v : UserId} (h : (l.userDir u).names = (l.userDir v).names) :
    u = v := by
  have lengths := congrArg List.length h
  rw [length_userDir, length_userDir] at lengths
  by_cases hu : u = .system <;> by_cases hv : v = .system
  · rw [hu, hv]
  · simp [hu, hv] at lengths
  · simp [hu, hv] at lengths
  · rw [names_userDir l hu, names_userDir l hv, List.append_cancel_left_eq,
      List.cons.injEq] at h
    exact UserId.text_injective h.1

/-- A credential file shares its place with no other. -/
theorem file_injective {u v : UserId} {f g : CredentialFile}
    (h : (l.file u f).names = (l.file v g).names) : u = v ∧ f = g := by
  rw [names_file, names_file] at h
  obtain ⟨dirs, names⟩ := List.append_inj' h rfl
  exact ⟨userDir_injective dirs, CredentialFile.name_injective (by simpa using names)⟩

/-- A place that ends in a reserved name is that of no credential file. -/
private theorem file_ne_append {u : UserId} {f : CredentialFile} {p : Place} {name : String}
    (h : f.name ≠ name) : (l.file u f).names ≠ p ++ [name] := by
  rw [names_file]
  intro e
  exact h (by simpa using (List.append_inj' e rfl).2)

theorem file_ne_database (u : UserId) (f : CredentialFile) :
    (l.file u f).names ≠ l.database.names := by
  rw [names_database]
  exact file_ne_append f.name_ne_reserved.1

theorem file_ne_journal (u : UserId) (f : CredentialFile) :
    (l.file u f).names ≠ l.journal.names := by
  rw [names_journal]
  exact file_ne_append f.name_ne_reserved.2.1

theorem file_ne_usersDir (u : UserId) (f : CredentialFile) :
    (l.file u f).names ≠ l.usersDir.names := by
  rw [names_usersDir]
  exact file_ne_append f.name_ne_reserved.2.2

theorem file_ne_userDir (u v : UserId) (f : CredentialFile) :
    (l.file u f).names ≠ (l.userDir v).names := by
  intro e
  have lengths := congrArg List.length e
  rw [names_file, List.length_append, length_userDir, length_userDir,
    List.length_singleton] at lengths
  split at lengths <;> split at lengths <;> omega

/-- A credential file lies too deep to be above the database. -/
theorem file_not_mem_ancestors_database (u : UserId) (f : CredentialFile) :
    (l.file u f).names ∉ ancestors l.database.names := by
  intro h
  obtain ⟨name, rest, e⟩ := mem_ancestors.mp h
  have lengths := congrArg List.length e
  rw [names_file, names_database, names_systemDir] at lengths
  simp only [List.length_append, List.length_cons, List.length_nil, length_userDir] at lengths
  split at lengths <;> omega

theorem ancestors_database :
    ancestors l.database.names = ancestors l.systemDir.names ++ [l.systemDir.names] := by
  rw [names_database, ancestors_append_singleton]

/-- Above a credential file is what is above the database, and the directory of the users'
directories and the user's own. -/
theorem mem_ancestors_file {u : UserId} {f : CredentialFile} {q : Place}
    (h : q ∈ ancestors (l.file u f).names) :
    q ∈ ancestors l.database.names ∨ q = l.usersDir.names ∨ q = (l.userDir u).names := by
  rw [names_file, ancestors_append_singleton, List.mem_append, List.mem_singleton] at h
  rcases h with h | h
  · by_cases hu : u = .system
    · subst hu
      rw [names_userDir_system] at h
      rw [ancestors_database]
      exact .inl (List.mem_append_left _ h)
    · rw [names_userDir l hu, ancestors_append_singleton, names_usersDir,
        ancestors_append_singleton, ← ancestors_database, List.mem_append,
        List.mem_singleton, ← names_usersDir] at h
      exact h.imp_right .inl
  · exact .inr (.inr h)

/-- No credential file is on the way to another. -/
theorem file_not_mem_ancestors_file (u v : UserId) (f g : CredentialFile) :
    (l.file u f).names ∉ ancestors (l.file v g).names := by
  intro h
  rcases mem_ancestors_file h with h | h | h
  · exact file_not_mem_ancestors_database u f h
  · exact file_ne_usersDir u f h
  · exact file_ne_userDir u v f h

theorem file_ne_nil (u : UserId) (f : CredentialFile) : (l.file u f).names ≠ [] := by
  rw [names_file]
  exact List.append_ne_nil_of_right_ne_nil _ (List.cons_ne_nil _ _)

theorem database_ne_nil : l.database.names ≠ [] := by
  rw [names_database]
  exact List.append_ne_nil_of_right_ne_nil _ (List.cons_ne_nil _ _)

theorem journal_ne_nil : l.journal.names ≠ [] := by
  rw [names_journal]
  exact List.append_ne_nil_of_right_ne_nil _ (List.cons_ne_nil _ _)

theorem journal_ne_database : l.journal.names ≠ l.database.names := by
  rw [names_journal, names_database]
  intro e
  exact absurd (List.append_inj' e rfl).2 (by decide)

/-- The database and its journal lie in the system directory, so neither is a directory of the
layout. -/
theorem userDir_ne_database (u : UserId) :
    (l.userDir u).names ≠ l.database.names ∧ (l.userDir u).names ≠ l.journal.names := by
  have lengths : (l.userDir u).names.length ≠ l.dataDir.names.length + 2 := by
    rw [length_userDir]
    split <;> omega
  constructor <;> intro e <;> refine lengths ?_ <;> rw [e]
  · simp [names_database, names_systemDir]
  · simp [names_journal, names_systemDir]

theorem usersDir_ne_database :
    l.usersDir.names ≠ l.database.names ∧ l.usersDir.names ≠ l.journal.names := by
  rw [names_usersDir, names_database, names_journal]
  exact ⟨fun e => absurd (List.append_inj' e rfl).2 (by decide),
    fun e => absurd (List.append_inj' e rfl).2 (by decide)⟩

/-- What is above the database is neither the database nor its journal. -/
theorem ne_of_mem_ancestors_database {q : Place} (h : q ∈ ancestors l.database.names) :
    q ≠ l.database.names ∧ q ≠ l.journal.names := by
  constructor <;> rintro rfl
  · exact not_mem_ancestors_self _ h
  · obtain ⟨name, rest, e⟩ := mem_ancestors.mp h
    have lengths := congrArg List.length e
    rw [names_database, names_journal] at lengths
    simp at lengths

end Layout

end Keyguard
