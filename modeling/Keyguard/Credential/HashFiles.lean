import Keyguard.Error
import Keyguard.Files.Layout

/-!
# Files of credential hashes

The hash of a pattern or password is the content of a file. A missing or empty file means that
the credential is not set, and then every candidate matches it.

* **Setting** a pattern's hash first empties the file of the other variant, so that never two
  hashes of a pattern are kept. A fault in between leaves the pattern cleared.
* **Checking** compares the candidate with the file byte by byte. If the file is there and cannot
  be read, the policy decides: the check fails, or the candidate counts as a match.
* **Moving** a pattern's hash to the other variant does nothing if there is no hash.

An action that fails keeps what it did before the fault, so the actions on files carry the tree
along with the error.

Credential files are addressed by the **places** that their paths name, and their paths are not
followed again. A store has created the directory that they lie in, so its path was followed
before (`FileTree.createAt`), and texts that are no path and ways through missing directories are
refused there.
-/

namespace Keyguard

/-- What a check does with a hash that is there but cannot be read. -/
inductive UnreadablePolicy where
  | reject
  | assumeMatch
  deriving DecidableEq

namespace FileTree

/-- Replaces the file at the place of a path. -/
def writeFile (p : Path) (content : Bytes) : FileAction Unit := fun t =>
  match t.replace p.names content with
  | .ok t' => .ok () t'
  | .error e => .error e t

end FileTree

/-- The files of hashes below a layout. -/
structure HashFiles where
  layout : Layout
  policy : UnreadablePolicy

namespace HashFiles

/-- The path of a hash. -/
def path (h : HashFiles) (kind : CredentialKind) (user : UserId) (v : GridVariant) : Path :=
  h.layout.file user (.ofKind kind v)

/-- Stores a hash; an empty one clears the credential. -/
def set (h : HashFiles) (kind : CredentialKind) (hash : Bytes) (user : UserId) (v : GridVariant) :
    FileAction Unit := do
  -- the other variant comes first, so that a fault in between leaves no second hash
  if kind = .pattern then
    FileTree.writeFile (h.path .pattern user v.other) []
  FileTree.writeFile (h.path kind user v) hash

/-- Compares a candidate with the stored hash. -/
def check (h : HashFiles) (kind : CredentialKind) (candidate : Bytes) (user : UserId)
    (v : GridVariant) (t : FileTree) : Except StoreError Bool :=
  match t.read (h.path kind user v).names with
  | .ok hash => .ok (hash = [] || hash == candidate)
  | .error .notFound => .ok true
  | .error fault =>
    match h.policy with
    | .assumeMatch => .ok true
    | .reject => .error (.secretUnavailable kind user fault)

/-- Whether there is something that is not empty in the place of a hash. -/
def holds (h : HashFiles) (kind : CredentialKind) (user : UserId) (v : GridVariant)
    (t : FileTree) : Bool :=
  t.holdsSomething (h.path kind user v).names

/-- Moves the hash of a user's pattern from one variant to the other. -/
def movePattern (h : HashFiles) (user : UserId) (source target : GridVariant) :
    FileAction Unit := fun t =>
  if source = target then .ok () t
  else
    match t.read (h.path .pattern user source).names with
    | .error .notFound => .ok () t
    | .error fault => .error fault t
    | .ok [] => .ok () t
    | .ok hash => h.set .pattern hash user target t

/-- Removes all hash files of a user, as far as that is possible. -/
def removeAll (h : HashFiles) (user : UserId) (t : FileTree) : FileTree :=
  [h.path .password user .standard, h.path .pattern user .standard,
    h.path .pattern user .alternate].foldl (fun t p => t.remove p.names) t

end HashFiles

end Keyguard
