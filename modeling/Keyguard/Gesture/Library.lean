import Keyguard.Gesture.Sample

/-!
# Libraries of gestures

A library keeps templates under names, in the order in which they were added to their name. The
lock gesture of a user is kept under `lockGestureName`.

As JSON a library is a record whose only field `entries` maps each name to the list of its
templates, in ascending order of the names. An empty file is the empty library.
-/

namespace Keyguard

/-- The name under which the lock gesture is kept. -/
def lockGestureName : String := "lock_gesture"

/-- Gesture templates by name. -/
structure GestureLibrary where
  entries : NameMap (List Gesture)
  deriving BEq

namespace GestureLibrary

/-- The library without templates. -/
def empty : GestureLibrary := ⟨.empty⟩

/-- The templates of a name. -/
def templates? (l : GestureLibrary) (name : String) : Option (List Gesture) := l.entries.get? name

/-- Adds a template behind those of its name. -/
def add (l : GestureLibrary) (name : String) (g : Gesture) : GestureLibrary :=
  ⟨l.entries.insert name ((l.templates? name).getD [] ++ [g])⟩

/-- Drops all templates of a name. -/
def erase (l : GestureLibrary) (name : String) : GestureLibrary := ⟨l.entries.erase name⟩

/-- Keeps one template as the lock gesture, in place of all there were. -/
def setLockGesture (l : GestureLibrary) (g : Gesture) : GestureLibrary :=
  (l.erase lockGestureName).add lockGestureName g

/-- A list of templates as JSON. -/
def templatesJson (gs : List Gesture) : Json := .array (gs.map Gesture.toJson)

/-- A library as JSON. -/
def toJson (l : GestureLibrary) : Json :=
  .ofMembers [("entries", .ofMap (l.entries.map templatesJson))]

/-- The library that a JSON value is. -/
def ofJson? (v : Json) : Option GestureLibrary :=
  match v.fields? ["entries"] with
  | some [some es] => do return ⟨← es.map? (Json.list? Gesture.ofJson?)⟩
  | _ => none

/-- The content of a library's file. -/
def bytes (l : GestureLibrary) : Bytes := l.toJson.bytes

/-- The library that the content of a file is. -/
def ofBytes? (content : Bytes) : Option GestureLibrary :=
  if content = [] then some empty else Json.ofBytes? content >>= ofJson?

end GestureLibrary

end Keyguard
