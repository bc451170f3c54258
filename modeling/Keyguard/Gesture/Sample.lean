import Keyguard.Json.Record

/-!
# Gestures

A gesture is what was drawn on the lock screen: strokes, each a row of points in drawing order
with the time of each point in milliseconds. Coordinates are single precision.

As JSON a point is the record `x`, `y`, `timestamp`, a stroke the record `points` and a gesture
the record `strokes`.
-/

namespace Keyguard

/-- A point of a stroke. -/
structure GesturePoint where
  x : Float32
  y : Float32
  timestamp : Int64
  deriving BEq

/-- A stroke, drawn without lifting the finger. -/
structure GestureStroke where
  points : List GesturePoint
  deriving BEq

/-- A gesture. -/
structure Gesture where
  strokes : List GestureStroke
  deriving BEq

namespace GesturePoint

/-- A point as JSON. -/
def toJson (p : GesturePoint) : Json :=
  .ofMembers [("x", .ofSingle p.x), ("y", .ofSingle p.y),
    ("timestamp", .ofInt p.timestamp.toInt)]

/-- The point that a JSON value is. -/
def ofJson? (v : Json) : Option GesturePoint :=
  match v.fields? ["x", "y", "timestamp"] with
  | some [some x, some y, some t] => do return ⟨← x.single?, ← y.single?, ← t.int64?⟩
  | _ => none

end GesturePoint

namespace GestureStroke

/-- A stroke as JSON. -/
def toJson (s : GestureStroke) : Json :=
  .ofMembers [("points", .array (s.points.map GesturePoint.toJson))]

/-- The stroke that a JSON value is. -/
def ofJson? (v : Json) : Option GestureStroke :=
  match v.fields? ["points"] with
  | some [some ps] => do return ⟨← ps.list? GesturePoint.ofJson?⟩
  | _ => none

end GestureStroke

namespace Gesture

/-- All points of a gesture in drawing order. -/
def points (g : Gesture) : List GesturePoint := g.strokes.flatMap GestureStroke.points

/-- Whether a gesture has no point at all. -/
def isEmpty (g : Gesture) : Bool := g.strokes.all fun s => s.points.isEmpty

/-- A gesture as JSON. -/
def toJson (g : Gesture) : Json :=
  .ofMembers [("strokes", .array (g.strokes.map GestureStroke.toJson))]

/-- The gesture that a JSON value is. -/
def ofJson? (v : Json) : Option Gesture :=
  match v.fields? ["strokes"] with
  | some [some ss] => do return ⟨← ss.list? GestureStroke.ofJson?⟩
  | _ => none

end Gesture

end Keyguard
