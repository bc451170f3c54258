import Keyguard.Association
import Keyguard.Files.Path
import Keyguard.Settings.Snapshot

/-!
# File trees

A tree holds a node at each of some places: a file, a directory, a settings database or the
journal of one, which both count as files. The operations are those of a file system, with its
ways to fail.

* **Reading** fails where nothing is, where a directory is, and where a file stands in the place
  of a directory on the way.
* **Creating directories** creates those that are missing, and fails where a file stands in the
  place of the directory (it exists) or of one on the way (it is no directory).
* **Replacing a file** creates its directory, puts the new content beside it and renames it over
  the old file, so the file has the old content or the new one, and a failure changes nothing. It
  fails where its directory cannot be created and where a directory is.
* **Removing a file** does nothing where no file is.

`at_put`, `at_erase` and `at_createDirectory` say what the changes do to every place.
-/

namespace Keyguard

/-- Why a file cannot be reached, read or written. -/
inductive IoFault where
  | notFound
  | alreadyExists
  | notADirectory
  | isADirectory
  | nameTooLong
  | nulInName
  | notUtf8
  deriving DecidableEq

/-- How a fault is named in messages. -/
def IoFault.text : IoFault → String
  | .notFound => "No such file or directory (os error 2)"
  | .alreadyExists => "File exists (os error 17)"
  | .notADirectory => "Not a directory (os error 20)"
  | .isADirectory => "Is a directory (os error 21)"
  | .nameTooLong => "File name too long (os error 36)"
  | .nulInName => "file name contained an unexpected NUL byte"
  | .notUtf8 => "stream did not contain valid UTF-8"

/-- What is at a place of a file tree. A journal is that of a database which is open or was left
open, and has the database with it if it holds all of it and not only some changes. -/
inductive Node where
  | file (content : Bytes)
  | directory
  | database (db : Database)
  | journal (whole : Option Database)
  deriving DecidableEq

namespace Node

/-- The content of a node that is a file. -/
def content? : Node → Option Bytes
  | .file content => some content
  | .directory => none
  | .database db => some db.bytes
  | .journal whole => some ((whole.map Database.bytes).getD [])

/-- The node of a file with some content, which is a database if the content is that of one. -/
def ofContent (content : Bytes) : Node :=
  match Database.ofBytes? content with
  | some db => .database db
  | none => .file content

end Node

/-- A tree of files. -/
structure FileTree where
  nodes : List (Place × Node)
  deriving DecidableEq

/-- An action on the files. Where it fails, the tree is the one it left. -/
abbrev FileAction := EStateM IoFault FileTree

namespace FileTree

/-- The tree without any node. -/
def empty : FileTree := ⟨[]⟩

/-- What is at a place. The top is a directory. -/
def at? (t : FileTree) (p : Place) : Option Node :=
  if p = [] then some .directory else t.nodes.lookup p

/-- Puts a node at a place. -/
def put (t : FileTree) (p : Place) (n : Node) : FileTree :=
  ⟨(p, n) :: t.nodes.filter (·.1 ≠ p)⟩

/-- Takes the node away from a place. -/
def erase (t : FileTree) (p : Place) : FileTree := ⟨t.nodes.filter (·.1 ≠ p)⟩

/-! ### Files -/

/-- The content of the file at a place. -/
def file? (t : FileTree) (p : Place) : Option Bytes := (t.at? p).bind Node.content?

/-- The places on the way to a place, from the top down. -/
def ancestors : Place → List Place
  | [] => []
  | n :: p => [] :: (ancestors p).map (n :: ·)

/-- Whether a file stands in the place of a directory on the way to a place. -/
def blocked (t : FileTree) (p : Place) : Bool :=
  (ancestors p).any fun q => (t.file? q).isSome

/-- Reads the file at a place. -/
def read (t : FileTree) (p : Place) : Except IoFault Bytes :=
  if t.blocked p then .error .notADirectory
  else
    match t.at? p with
    | none => .error .notFound
    | some n =>
      match n.content? with
      | some content => .ok content
      | none => .error .isADirectory

/-- Whether what is at a place can be reached and has a size that is not zero. A directory has a
size of its own, whatever it holds. -/
def holdsSomething (t : FileTree) (p : Place) : Bool :=
  match t.read p with
  | .ok content => content ≠ []
  | .error .isADirectory => true
  | .error _ => false

/-- Puts a directory where nothing is. -/
def makeDirectory (t : FileTree) (p : Place) : FileTree :=
  match t.at? p with
  | some _ => t
  | none => t.put p .directory

/-- Puts a directory at every place of a list where nothing is. -/
def makeDirectories (t : FileTree) (ps : List Place) : FileTree := ps.foldl makeDirectory t

/-- Creates the directory at a place and those on the way to it, where they are missing. -/
def createDirectory (t : FileTree) (p : Place) : Except IoFault FileTree :=
  if t.blocked p then .error .notADirectory
  else if (t.file? p).isSome then .error .alreadyExists
  else .ok (t.makeDirectories (ancestors p ++ [p]))

/-- Replaces the file at a place, creating its directory. -/
def replace (t : FileTree) (p : Place) (content : Bytes) : Except IoFault FileTree := do
  let t ← t.createDirectory p.dropLast
  -- renaming replaces a file and no directory
  match t.at? p with
  | some .directory => .error .isADirectory
  | _ => .ok (t.put p (.file content))

/-- Removes the file at a place, if one is there and can be reached. -/
def remove (t : FileTree) (p : Place) : FileTree :=
  if t.blocked p ∨ (t.file? p).isNone then t else t.erase p

/-! ### What the changes do to a place -/

theorem at_put (t : FileTree) {p : Place} (hp : p ≠ []) (n : Node) (q : Place) :
    (t.put p n).at? q = if q = p then some n else t.at? q := by
  simp only [at?, put, lookup_cons_eq, lookup_filter_ne]
  by_cases hq : q = p
  · subst hq; simp [hp]
  · simp [hq]

theorem at_erase (t : FileTree) {p : Place} (hp : p ≠ []) (q : Place) :
    (t.erase p).at? q = if q = p then none else t.at? q := by
  simp only [at?, erase, lookup_filter_ne]
  by_cases hq : q = p
  · subst hq; simp [hp]
  · simp [hq]

/-- A change away from the top is seen at its place only. -/
private theorem at_makeDirectories (t : FileTree) (ps : List Place) (q : Place) :
    (t.makeDirectories ps).at? q =
      if q ∈ ps ∧ t.at? q = none then some .directory else t.at? q := by
  induction ps generalizing t with
  | nil => simp [makeDirectories]
  | cons p ps ih =>
    rw [makeDirectories, List.foldl_cons, ← makeDirectories, ih, makeDirectory]
    cases hp : t.at? p with
    | some n =>
      simp only [List.mem_cons]
      by_cases hq : q = p
      · subst hq; simp [hp]
      · simp [hq]
    | none =>
      have hne : p ≠ [] := by rintro rfl; simp [at?] at hp
      simp only [at_put _ hne, List.mem_cons]
      by_cases hq : q = p
      · subst hq; simp [hp]
      · simp [hq]

/-- Creating a directory puts a directory there and on the way, where nothing was. -/
theorem at_createDirectory {t t' : FileTree} {p : Place} (h : t.createDirectory p = .ok t')
    (q : Place) : t'.at? q =
      if q ∈ ancestors p ++ [p] ∧ t.at? q = none then some .directory else t.at? q := by
  unfold createDirectory at h
  split at h
  · simp at h
  · split at h
    · simp at h
    · injection h with h
      rw [← h, at_makeDirectories]

end FileTree

end Keyguard
