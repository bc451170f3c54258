import Keyguard.Gesture.Library

/-!
# Ranking gestures

A recognizer ranks the names of a library by how well their templates match a sample, best
first. A sample unlocks when the first name is the lock gesture's and its score is above a
threshold.

`rankByDistance` is the recognizer of this library. It scores each template in these steps:

* **No match.** The score is 0 if sample or template has no points, or if they differ in the
  number of strokes.
* **Distance.** The points are paired in order. Coordinates are subtracted in single precision;
  the distances of the pairs are summed in order and divided by their number, in double.
* **Score.** With `missing` points that have no partner, it is `10 / (1 + distance + missing)`.

The score of a name is the greatest of its templates' scores, and at least 0. Names are put in
descending order of their scores, where scores are compared by `scoreKey`, and names of one score
keep the ascending order of the names.
-/

namespace Keyguard

/-- What a recognizer gives a name. -/
structure Prediction where
  name : String
  score : Float

/-- A recognizer: ranks the names of a library against a sample, best first. -/
abbrev Recognizer := Gesture → GestureLibrary → List Prediction

/-- The score of a sample that equals a template. -/
def exactScore : Float := 10

/-- The distance of two points. -/
def GesturePoint.distance (p q : GesturePoint) : Float :=
  let dx := doubleOfSingle (p.x - q.x)
  let dy := doubleOfSingle (p.y - q.y)
  (dx * dx + dy * dy).sqrt

namespace Gesture

/-- How well a sample matches a template. -/
def score (sample template : Gesture) : Float :=
  let a := sample.points
  let b := template.points
  if a = [] ∨ b = [] ∨ sample.strokes.length ≠ template.strokes.length then 0
  else
    let distances := List.zipWith GesturePoint.distance a b
    let distance := distances.foldl (· + ·) 0 / Float.ofNat distances.length
    let missing := Float.ofNat ((a.length - b.length) + (b.length - a.length))
    exactScore / (1 + distance + missing)

/-- The greatest score of some templates, at least 0. A score that is no number counts as 0. -/
def bestScore (sample : Gesture) (templates : List Gesture) : Float :=
  (templates.map sample.score).foldl (fun best s => if best < s then s else best) 0

end Gesture

/-- The place of a score in the total order of the floating-point patterns: negative patterns
come below positive ones, and the further below the greater their magnitude. -/
def scoreKey (score : Float) : Int :=
  let bits : Int := score.toBits.toNat
  if bits ≤ Int64.maxValue.toInt then bits else Int64.maxValue.toInt - bits

/-- Puts the better predictions first and keeps the order of equal ones. -/
def sortPredictions (ps : List Prediction) : List Prediction :=
  ps.mergeSort fun a b => scoreKey b.score ≤ scoreKey a.score

/-- Ranks the names of a library by the distances of the points. -/
def rankByDistance : Recognizer := fun sample library =>
  sortPredictions (library.entries.entries.map fun e => ⟨e.1, sample.bestScore e.2⟩)

/-- Whether a ranking unlocks: the lock gesture is first, with a score above the threshold. -/
def unlocks (threshold : Float) : List Prediction → Bool
  | [] => false
  | top :: _ => threshold < top.score && top.name == lockGestureName

end Keyguard
