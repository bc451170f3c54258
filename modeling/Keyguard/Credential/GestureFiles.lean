import Keyguard.Credential.HashFiles
import Keyguard.Gesture.Ranking

/-!
# Files of lock gestures

The lock gesture of a user is kept in a library file of the user's own, and a missing or empty
file is the empty library. Setting the gesture reads the library, replaces its lock gesture and
writes it back, so other names in the file stay; a file that cannot be read as a library is not
touched. A sample without points is not set at all. Libraries are addressed by the places of their
paths, as hashes are.
-/

namespace Keyguard

/-- The files of lock gestures below a layout. A sample unlocks above the threshold. -/
structure GestureFiles where
  layout : Layout
  threshold : Float

namespace GestureLibrary

/-- Reads the library in the file at a path. -/
def load (p : Path) (t : FileTree) : Except StoreError GestureLibrary :=
  match t.read p.names with
  | .error .notFound => .ok empty
  | .error fault => .error (.io fault)
  | .ok content =>
    match ofBytes? content with
    | some l => .ok l
    | none => .error .serialization

/-- Writes the library into the file at a path. -/
def save (l : GestureLibrary) (p : Path) : FileAction Unit := FileTree.writeFile p l.bytes

end GestureLibrary

namespace GestureFiles

/-- The path of a user's library. -/
def path (g : GestureFiles) (user : UserId) : Path := g.layout.file user .gesture

/-- Stores a sample as the lock gesture of a user. -/
def set (g : GestureFiles) (sample : Gesture) (user : UserId) :
    EStateM StoreError FileTree Unit := fun t =>
  if sample.isEmpty then .ok () t
  else
    match GestureLibrary.load (g.path user) t with
    | .error e => .error e t
    | .ok l =>
      match (l.setLockGesture sample).save (g.path user) t with
      | .ok () t' => .ok () t'
      | .error fault t' => .error (.io fault) t'

/-- Whether a sample unlocks. -/
def check (g : GestureFiles) (recognizer : Recognizer) (sample : Gesture) (user : UserId)
    (t : FileTree) : Except StoreError Bool :=
  (GestureLibrary.load (g.path user) t).map fun l => unlocks g.threshold (recognizer sample l)

/-- Whether there is something that is not empty in the place of a user's library. -/
def holds (g : GestureFiles) (user : UserId) (t : FileTree) : Bool :=
  t.holdsSomething (g.path user).names

/-- Removes the library of a user, as far as that is possible. -/
def remove (g : GestureFiles) (user : UserId) (t : FileTree) : FileTree :=
  t.remove (g.path user).names

end GestureFiles

end Keyguard
