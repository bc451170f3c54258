import Keyguard.Credential.HashFiles
import Keyguard.Proofs.Files.Places
import Keyguard.Proofs.Files.Trail

/-!
# The contents of the credential files

All that the store keeps in credential files is the content of each (`Layout.contents`). A tree is
**tidy** for a layout if no file is in the place of one of its directories and nothing but a plain
file in the place of a credential file, and it is **ready** if nothing blocks the way to the system
directory either.

The store addresses credential files by their places. Where the path of a user's directory leads
to it, reading a file there by its path gives the same (`readAt_file`).

In a ready tree every credential file can be read (`Ready.read`), written (`Ready.replace`) and
removed (`Ready.remove`), and the change is seen at that file and at no other. Changes at the
places of the database and its journal leave the credential files alone (`Tidy.congr`,
`Ready.congr`), and so does creating the system directory (`Tidy.createAt`).
-/

namespace Keyguard

open FileTree

/-- The content of each credential file of each user, none where there is no file. -/
abbrev Contents := UserId → CredentialFile → Option Bytes

namespace Contents

variable (c : Contents) (u v : UserId) (f g : CredentialFile) (x : Option Bytes)

/-- The contents after one file was written or, with no content, removed. -/
def put : Contents := fun v g => if v = u ∧ g = f then x else c v g

@[simp]
theorem put_self : c.put u f x u f = x := if_pos ⟨rfl, rfl⟩

end Contents

namespace Layout

variable {l : Layout} {t t' : FileTree}

/-- The contents of the credential files in a tree. -/
def contents (l : Layout) (t : FileTree) : Contents := fun u f => t.file? (l.file u f).names

/-- Whether the places of a layout hold what belongs there. -/
structure Tidy (l : Layout) (t : FileTree) : Prop where
  users : t.file? l.usersDir.names = none
  user : ∀ u, t.file? (l.userDir u).names = none
  spot : ∀ u f, t.at? (l.file u f).names = none ∨
    ∃ content, t.at? (l.file u f).names = some (.file content)

/-- Whether credential files can be written in a tree. -/
structure Ready (l : Layout) (t : FileTree) : Prop extends l.Tidy t where
  rooted : t.blocked l.database.names = false

theorem Tidy.spot_ne_directory (h : l.Tidy t) (u : UserId) (f : CredentialFile) :
    t.at? (l.file u f).names ≠ some .directory := by
  rcases h.spot u f with e | ⟨content, e⟩ <;> simp [e]

/-- Nothing blocks a credential file in a ready tree. -/
theorem Ready.blocked_file (h : l.Ready t) (u : UserId) (f : CredentialFile) :
    t.blocked (l.file u f).names = false := by
  rw [blocked_eq_false_iff]
  intro q hq
  rcases mem_ancestors_file hq with hq | rfl | rfl
  · exact blocked_eq_false_iff.mp h.rooted q hq
  · exact h.users
  · exact h.user u

/-! ### Reading -/

/-- **A credential file is read by its path as at its place**, if the path of its directory leads
there. -/
theorem readAt_file {u : UserId} {place : Place} (f : CredentialFile)
    (valid : (l.file u f).check = .ok ()) (followed : t.follow (l.userDir u) = .ok place)
    (isDir : t.at? place = some .directory) :
    t.readAt (l.file u f) = t.read (l.file u f).names := by
  have short : f.name.utf8ByteSize ≤ longestName := by
    rcases f with (_ | _) | _ | _ <;> decide
  exact readAt_join f.isPlain_name short valid followed isDir

/-- In a ready tree a credential file is read or found to be missing. -/
theorem Ready.read (h : l.Ready t) (u : UserId) (f : CredentialFile) :
    t.read (l.file u f).names = match l.contents t u f with
      | some content => .ok content
      | none => .error .notFound :=
  read_of_open (h.blocked_file u f) (h.spot_ne_directory u f)

/-- In a ready tree a credential file holds something if its content is not empty. -/
theorem Ready.holdsSomething (h : l.Ready t) (u : UserId) (f : CredentialFile) :
    t.holdsSomething (l.file u f).names = decide ((l.contents t u f).getD [] ≠ []) := by
  rw [FileTree.holdsSomething, h.read]
  cases l.contents t u f with
  | none => simp
  | some content => simp

/-! ### Writing and removing -/

/-- A change that is seen at one credential file, and elsewhere at most as new directories, keeps
a tree ready and changes the content of that file only. -/
private theorem Ready.change (h : l.Ready t) {u : UserId} {f : CredentialFile}
    {x : Option Bytes}
    (self : t'.at? (l.file u f).names = x.map .file)
    (files : ∀ q, q ≠ (l.file u f).names → t'.file? q = t.file? q)
    (spots : ∀ v g, (l.file v g).names ≠ (l.file u f).names →
      t'.at? (l.file v g).names = t.at? (l.file v g).names) :
    l.Ready t' ∧ l.contents t' = (l.contents t).put u f x := by
  have users : t'.file? l.usersDir.names = none :=
    (files _ (file_ne_usersDir u f).symm).trans h.users
  have user (v : UserId) : t'.file? (l.userDir v).names = none :=
    (files _ (file_ne_userDir u v f).symm).trans (h.user v)
  have spot (v : UserId) (g : CredentialFile) : t'.at? (l.file v g).names = none ∨
      ∃ content, t'.at? (l.file v g).names = some (.file content) := by
    by_cases e : (l.file v g).names = (l.file u f).names
    · rw [e, self]
      cases x with
      | none => exact .inl rfl
      | some content => exact .inr ⟨content, rfl⟩
    · rw [spots v g e]
      exact h.spot v g
  have rooted : t'.blocked l.database.names = false := by
    rw [blocked_eq_false_iff]
    intro q hq
    rw [files q fun e => file_not_mem_ancestors_database u f (e ▸ hq)]
    exact blocked_eq_false_iff.mp h.rooted q hq
  refine ⟨⟨⟨users, user, spot⟩, rooted⟩, ?_⟩
  funext v g
  by_cases e : v = u ∧ g = f
  · obtain ⟨rfl, rfl⟩ := e
    rw [Contents.put_self, contents, file?, self]
    cases x <;> rfl
  · have hne : (l.file v g).names ≠ (l.file u f).names := fun e' => e (file_injective e')
    rw [Contents.put, if_neg e, contents, contents, files _ hne]

/-- In a ready tree every credential file can be replaced. -/
theorem Ready.replace (h : l.Ready t) (u : UserId) (f : CredentialFile) (content : Bytes) :
    ∃ t', t.replace (l.file u f).names content = .ok t' ∧
      l.Ready t' ∧ l.contents t' = (l.contents t).put u f (some content) := by
  have hne : (l.file u f).names ≠ [] := file_ne_nil u f
  obtain ⟨t', ht'⟩ : ∃ t', t.replace (l.file u f).names content = .ok t' :=
    (replace_eq_ok_iff hne).mpr ⟨h.blocked_file u f, h.spot_ne_directory u f⟩
  refine ⟨t', ht', h.change ?_ ?_ ?_⟩
  · rw [at_replace hne ht', if_pos rfl]
    rfl
  · intro q hq
    rw [file?, file?, at_replace hne ht', if_neg hq]
    split
    · rename_i new
      simp [new.2, Node.content?]
    · rfl
  · intro v g hq
    rw [at_replace hne ht', if_neg hq, if_neg fun new => file_not_mem_ancestors_file v u g f new.1]

/-- The same for the action that writes a file. -/
theorem Ready.writeFile (h : l.Ready t) (u : UserId) (f : CredentialFile) (content : Bytes) :
    ∃ t', FileTree.writeFile (l.file u f) content t = .ok () t' ∧
      l.Ready t' ∧ l.contents t' = (l.contents t).put u f (some content) := by
  obtain ⟨t', ht', ready⟩ := h.replace u f content
  exact ⟨t', by rw [FileTree.writeFile, ht'], ready⟩

/-- In a ready tree every credential file can be removed. -/
theorem Ready.remove (h : l.Ready t) (u : UserId) (f : CredentialFile) :
    l.Ready (t.remove (l.file u f).names) ∧
      l.contents (t.remove (l.file u f).names) = (l.contents t).put u f none := by
  have others (q : Place) (hq : q ≠ (l.file u f).names) :
      (t.remove (l.file u f).names).at? q = t.at? q := by
    rw [at_remove, if_neg fun e => hq e.1]
  refine h.change (x := none) ?_ (fun q hq => ?_) fun v g hq => others _ hq
  · rw [at_remove]
    rcases h.spot u f with e | ⟨content, e⟩
    · simp [e]
    · simp [h.blocked_file u f, file?, e, Node.content?]
  · rw [file?, file?, others q hq]

/-! ### Changes elsewhere -/

/-- What happens at the places of the database and its journal leaves a tree tidy. -/
theorem Tidy.congr (h : l.Tidy t)
    (agree : ∀ q, q ≠ l.database.names → q ≠ l.journal.names → t'.at? q = t.at? q) :
    l.Tidy t' where
  users := by
    rw [file?, agree _ usersDir_ne_database.1 usersDir_ne_database.2]
    exact h.users
  user u := by
    rw [file?, agree _ (userDir_ne_database u).1 (userDir_ne_database u).2]
    exact h.user u
  spot u f := by
    rw [agree _ (file_ne_database u f) (file_ne_journal u f)]
    exact h.spot u f

/-- What happens at the places of the database and its journal leaves the way there clear. -/
theorem blocked_database_congr
    (agree : ∀ q, q ≠ l.database.names → q ≠ l.journal.names → t'.at? q = t.at? q) :
    t'.blocked l.database.names = t.blocked l.database.names := by
  rw [blocked, blocked, Bool.eq_iff_iff, List.any_eq_true, List.any_eq_true]
  refine exists_congr fun q => and_congr_right fun hq => ?_
  obtain ⟨hd, hj⟩ := ne_of_mem_ancestors_database hq
  rw [file?, file?, agree q hd hj]

theorem Ready.congr (h : l.Ready t)
    (agree : ∀ q, q ≠ l.database.names → q ≠ l.journal.names → t'.at? q = t.at? q) :
    l.Ready t' :=
  ⟨h.toTidy.congr agree, (blocked_database_congr agree).trans h.rooted⟩

/-- What happens at the places of the database and its journal changes no credential file. -/
theorem contents_congr
    (agree : ∀ q, q ≠ l.database.names → q ≠ l.journal.names → t'.at? q = t.at? q) :
    l.contents t' = l.contents t := by
  funext u f
  rw [contents, contents, file?, file?, agree _ (file_ne_database u f) (file_ne_journal u f)]

/-! ### Creating the system directory -/

/-- All places of a layout but the system directory are unchanged by its creation. -/
private theorem at_createAt_systemDir (direct : l.dataDir.IsDirect) (t : FileTree) {q : Place}
    (below : l.systemDir.names <+: q) (hne : q ≠ l.systemDir.names) :
    (t.after (createAt l.systemDir)).at? q = t.at? q := by
  have above : l.dataDir.names <+: l.systemDir.names := by
    rw [names_systemDir]
    exact List.prefix_append _ _
  refine at_createAt_join direct (by simp [Path.IsPlain]) (above.trans below) ?_ ?_
  · rintro rfl
    have lengths := below.length_le
    rw [names_systemDir, List.length_append, List.length_singleton] at lengths
    omega
  · rw [← names_systemDir]
    exact hne

theorem systemDir_prefix_userDir (u : UserId) : l.systemDir.names <+: (l.userDir u).names := by
  by_cases hu : u = .system
  · simp only [hu, names_userDir_system, List.prefix_rfl]
  · rw [names_userDir l hu, names_usersDir, List.append_assoc]
    exact List.prefix_append _ _

theorem at_createAt_file (direct : l.dataDir.IsDirect) (t : FileTree) (u : UserId)
    (f : CredentialFile) :
    (t.after (createAt l.systemDir)).at? (l.file u f).names = t.at? (l.file u f).names := by
  refine at_createAt_systemDir direct t ?_ ?_
  · rw [names_file]
    exact (systemDir_prefix_userDir u).trans (List.prefix_append _ _)
  · rw [← names_userDir_system]
    exact file_ne_userDir u .system f

theorem at_createAt_database (direct : l.dataDir.IsDirect) (t : FileTree) :
    (t.after (createAt l.systemDir)).at? l.database.names = t.at? l.database.names := by
  refine at_createAt_systemDir direct t ?_ ?_
  · rw [names_database]
    exact List.prefix_append _ _
  · rw [← names_userDir_system]
    exact (userDir_ne_database .system).1.symm

theorem at_createAt_journal (direct : l.dataDir.IsDirect) (t : FileTree) :
    (t.after (createAt l.systemDir)).at? l.journal.names = t.at? l.journal.names := by
  refine at_createAt_systemDir direct t ?_ ?_
  · rw [names_journal]
    exact List.prefix_append _ _
  · rw [← names_userDir_system]
    exact (userDir_ne_database .system).2.symm

/-- Creating the system directory leaves a tree tidy, whether it fails or not. -/
theorem Tidy.createAt (h : l.Tidy t) (direct : l.dataDir.IsDirect) :
    l.Tidy (t.after (createAt l.systemDir)) where
  users := by rw [(at_createAt t l.systemDir).file?, h.users]
  user u := by rw [(at_createAt t l.systemDir).file?, h.user u]
  spot u f := by
    rw [at_createAt_file direct]
    exact h.spot u f

/-- Creating the system directory changes no credential file. -/
theorem contents_createAt (t : FileTree) :
    l.contents (t.after (createAt l.systemDir)) = l.contents t := by
  funext u f
  exact (at_createAt t l.systemDir).file? _

end Layout

end Keyguard
