import Keyguard.Gesture.Library
import Keyguard.Proofs.Json.Numbers
import Keyguard.Proofs.Json.Reading
import Keyguard.Proofs.Json.Records

/-!
# Gestures that are written and read again

The file of a library is always JSON that can be read, and everything in it but the coordinates is
read as it was. So what a library is after it was written and read again is decided by what
becomes of each coordinate (`GestureLibrary.ofBytes?_bytes`): where all are read as they were, the
library is (`GestureLibrary.reread?_eq_some`). A coordinate can be read if it is finite, and only
then, since one that is infinite or no number is written as `null` (`isSome_rereadCoordinate`). So
a gesture can be read exactly if all of its coordinates are finite (`Gesture.isSome_reread?`).
-/

namespace Keyguard

/-! ### Coordinates -/

/-- What a coordinate is after it was written and read again, if it can be read. -/
def rereadCoordinate (x : Float32) : Option Float32 := (Json.ofSingle x).single?

/-- A coordinate can be read again exactly if it is finite. -/
theorem isSome_rereadCoordinate (x : Float32) : (rereadCoordinate x).isSome = x.isFinite := by
  rw [← isSome_read_single, rereadCoordinate, Json.ofSingle]
  refine Eq.trans ?_ (Json.FloatSpelling.isSome_ofBits? .single x.toBits.toNat)
  cases spelled : Json.FloatSpelling.single.ofBits? x.toBits.toNat with
  | none => rfl
  | some n => exact Option.isSome_map.trans (Json.FloatSpelling.isSome_value? spelled)

/-! ### Lists of what may fail -/

theorem isSome_mapM {α β : Type} (f : α → Option β) (l : List α) :
    (l.mapM f).isSome = l.all fun a => (f a).isSome := by
  induction l with
  | nil => rfl
  | cons a l ih =>
    rw [List.mapM_cons, List.all_cons, ← ih]
    cases f a with
    | none => rfl
    | some b => cases l.mapM f <;> rfl

theorem mapM_eq_some_self_iff {α : Type} {f : α → Option α} {l : List α} :
    l.mapM f = some l ↔ ∀ a ∈ l, f a = some a := by
  refine ⟨fun h => ?_, fun h => ?_⟩
  · induction l with
    | nil => simp
    | cons a l ih =>
      rw [List.mapM_cons] at h
      cases ha : f a with
      | none => simp [ha] at h
      | some b =>
        cases hl : l.mapM f with
        | none => simp [ha, hl] at h
        | some bs =>
          simp only [ha, hl, Option.bind_eq_bind, Option.bind_some, Option.pure_def,
            Option.some.injEq, List.cons.injEq] at h
          obtain ⟨rfl, rfl⟩ := h
          exact List.forall_mem_cons.mpr ⟨ha, ih hl⟩
  · have mapped := mapM_eq_some_map (g := id) h
    rwa [List.map_id] at mapped

/-! ### Points, strokes and gestures -/

namespace GesturePoint

/-- Whether both coordinates of a point are finite. -/
def isFinite (p : GesturePoint) : Bool := p.x.isFinite && p.y.isFinite

/-- A point after it was written and read again. -/
def reread? (p : GesturePoint) : Option GesturePoint := do
  return ⟨← rereadCoordinate p.x, ← rereadCoordinate p.y, p.timestamp⟩

theorem spelled_toJson (p : GesturePoint) : p.toJson.Spelled :=
  Json.spelled_ofMembers (by
    simp only [List.forall_mem_cons]
    exact ⟨Json.spelled_ofSingle p.x, Json.spelled_ofSingle p.y,
      Json.spelled_ofInt p.timestamp.toInt, by simp⟩)

theorem ofJson?_toJson (p : GesturePoint) : ofJson? p.toJson = p.reread? := by
  have fields : p.toJson.fields? ["x", "y", "timestamp"] =
      some [some (.ofSingle p.x), some (.ofSingle p.y), some (.ofInt p.timestamp.toInt)] :=
    Json.fields?_ofMembers [("x", .ofSingle p.x), ("y", .ofSingle p.y),
      ("timestamp", .ofInt p.timestamp.toInt)] (by simp)
  have time : (Json.ofInt p.timestamp.toInt).int64? = some p.timestamp := by
    have low := p.timestamp.minValue_le_toInt
    have high := p.timestamp.toInt_le
    have size : Int64.maxValue.toInt < UInt64.size := by decide
    rw [Json.int64?, Json.integer?_ofInt low high ⟨low, Int.lt_of_le_of_lt high size⟩,
      Option.map_some, Int64.ofInt_toInt]
  rw [ofJson?, fields]
  simp only [time]
  rfl

theorem isSome_reread? (p : GesturePoint) : p.reread?.isSome = p.isFinite := by
  rw [isFinite, ← isSome_rereadCoordinate, ← isSome_rereadCoordinate, reread?]
  cases rereadCoordinate p.x <;> cases rereadCoordinate p.y <;> rfl

theorem reread?_eq_some_self_iff {p : GesturePoint} :
    p.reread? = some p ↔ rereadCoordinate p.x = some p.x ∧ rereadCoordinate p.y = some p.y := by
  obtain ⟨x, y, time⟩ := p
  rw [reread?]
  cases rereadCoordinate x <;> cases rereadCoordinate y <;> simp

end GesturePoint

namespace GestureStroke

/-- A stroke after it was written and read again. -/
def reread? (s : GestureStroke) : Option GestureStroke :=
  (s.points.mapM GesturePoint.reread?).map GestureStroke.mk

theorem spelled_toJson (s : GestureStroke) : s.toJson.Spelled :=
  Json.spelled_ofMembers (by
    simp only [List.forall_mem_cons]
    exact ⟨Json.spelled_list fun p _ => p.spelled_toJson, by simp⟩)

theorem ofJson?_toJson (s : GestureStroke) : ofJson? s.toJson = s.reread? := by
  have fields : s.toJson.fields? ["points"] =
      some [some (.array (s.points.map GesturePoint.toJson))] :=
    Json.fields?_ofMembers [("points", .array (s.points.map GesturePoint.toJson))] (by simp)
  have points : (Json.array (s.points.map GesturePoint.toJson)).list? GesturePoint.ofJson? =
      s.points.mapM GesturePoint.reread? := by
    rw [Json.list?_array_map, funext GesturePoint.ofJson?_toJson]
  rw [ofJson?, fields]
  simp only [points, reread?]
  cases s.points.mapM GesturePoint.reread? <;> rfl

theorem isSome_reread? (s : GestureStroke) :
    s.reread?.isSome = s.points.all GesturePoint.isFinite := by
  rw [reread?, Option.isSome_map, isSome_mapM, funext GesturePoint.isSome_reread?]

theorem reread?_eq_some_self_iff {s : GestureStroke} :
    s.reread? = some s ↔ ∀ p ∈ s.points, p.reread? = some p := by
  obtain ⟨points⟩ := s
  rw [reread?, ← mapM_eq_some_self_iff]
  simp

end GestureStroke

namespace Gesture

/-- A gesture after it was written and read again. -/
def reread? (g : Gesture) : Option Gesture :=
  (g.strokes.mapM GestureStroke.reread?).map Gesture.mk

theorem spelled_toJson (g : Gesture) : g.toJson.Spelled :=
  Json.spelled_ofMembers (by
    simp only [List.forall_mem_cons]
    exact ⟨Json.spelled_list fun s _ => s.spelled_toJson, by simp⟩)

theorem ofJson?_toJson (g : Gesture) : ofJson? g.toJson = g.reread? := by
  have fields : g.toJson.fields? ["strokes"] =
      some [some (.array (g.strokes.map GestureStroke.toJson))] :=
    Json.fields?_ofMembers [("strokes", .array (g.strokes.map GestureStroke.toJson))] (by simp)
  have strokes : (Json.array (g.strokes.map GestureStroke.toJson)).list? GestureStroke.ofJson? =
      g.strokes.mapM GestureStroke.reread? := by
    rw [Json.list?_array_map, funext GestureStroke.ofJson?_toJson]
  rw [ofJson?, fields]
  simp only [strokes, reread?]
  cases g.strokes.mapM GestureStroke.reread? <;> rfl

/-- Whether all coordinates of a gesture are finite. -/
def isFinite (g : Gesture) : Bool := g.points.all GesturePoint.isFinite

/-- A gesture can be read again exactly if all of its coordinates are finite. -/
theorem isSome_reread? (g : Gesture) : g.reread?.isSome = g.isFinite := by
  rw [reread?, Option.isSome_map, isSome_mapM, funext GestureStroke.isSome_reread?, isFinite,
    points, List.all_flatMap]

/-- A gesture is read as it was exactly if all of its coordinates are. -/
theorem reread?_eq_some_self_iff {g : Gesture} : g.reread? = some g ↔
    ∀ p ∈ g.points, rereadCoordinate p.x = some p.x ∧ rereadCoordinate p.y = some p.y := by
  have strokes : g.reread? = some g ↔ ∀ s ∈ g.strokes, s.reread? = some s := by
    obtain ⟨strokes⟩ := g
    rw [reread?, ← mapM_eq_some_self_iff]
    simp
  simp only [strokes, GestureStroke.reread?_eq_some_self_iff,
    GesturePoint.reread?_eq_some_self_iff, points, List.mem_flatMap]
  constructor
  · rintro h p ⟨s, hs, hp⟩
    exact h s hs p hp
  · intro h s hs p hp
    exact h p ⟨s, hs, hp⟩

end Gesture

/-! ### Libraries -/

namespace GestureLibrary

/-- A library after it was written and read again. -/
def reread? (l : GestureLibrary) : Option GestureLibrary :=
  (l.entries.mapM? fun gs => gs.mapM Gesture.reread?).map GestureLibrary.mk

theorem spelled_toJson (l : GestureLibrary) : l.toJson.Spelled := by
  refine Json.spelled_ofMembers ?_
  simp only [List.forall_mem_cons]
  refine ⟨Json.spelled_ofMembers fun m hm => ?_, by simp⟩
  obtain ⟨⟨name, gs⟩, -, rfl⟩ := List.mem_map.mp hm
  exact Json.spelled_list fun g _ => g.spelled_toJson

theorem ofJson?_toJson (l : GestureLibrary) : ofJson? l.toJson = l.reread? := by
  have fields : l.toJson.fields? ["entries"] =
      some [some (.ofMap (l.entries.map templatesJson))] :=
    Json.fields?_ofMembers [("entries", .ofMap (l.entries.map templatesJson))] (by simp)
  have templates (gs : List Gesture) :
      (templatesJson gs).list? Gesture.ofJson? = gs.mapM Gesture.reread? := by
    rw [templatesJson, Json.list?_array_map, funext Gesture.ofJson?_toJson]
  have entries : (Json.ofMap (l.entries.map templatesJson)).map? (Json.list? Gesture.ofJson?) =
      l.entries.mapM? fun gs => gs.mapM Gesture.reread? := by
    rw [Json.map?_ofMap, funext templates]
  rw [ofJson?, fields]
  simp only [entries, reread?]
  cases l.entries.mapM? fun gs => gs.mapM Gesture.reread? <;> rfl

/-- **A library is read back** from its file as far as its coordinates are. -/
theorem ofBytes?_bytes (l : GestureLibrary) : ofBytes? l.bytes = l.reread? := by
  have nonempty : l.bytes ≠ [] := by
    rw [bytes, Json.bytes, toJson, Json.ofMembers]
    simp [Json.tokens, Json.Token.bytes]
  rw [ofBytes?, if_neg nonempty, bytes, Json.ofBytes?_bytes l.spelled_toJson]
  exact l.ofJson?_toJson

/-- A library whose gestures are read as they were is read as it was. -/
theorem reread?_eq_some {l : GestureLibrary}
    (h : ∀ e ∈ l.entries.entries, ∀ g ∈ e.2, g.reread? = some g) : l.reread? = some l := by
  rw [reread?, NameMap.mapM?_eq_some fun e he => mapM_eq_some_self_iff.mpr (h e he)]
  rfl

/-- The lock gesture is the only template of its name, and every other name has the templates it
had. -/
theorem templates?_setLockGesture (l : GestureLibrary) (g : Gesture) (name : String) :
    (l.setLockGesture g).templates? name =
      if name = lockGestureName then some [g] else l.templates? name := by
  simp only [setLockGesture, add, erase, templates?, NameMap.get?_insert, NameMap.get?_erase]
  split <;> simp

/-- Two libraries with the same templates of every name are equal. -/
theorem ext_templates? {l l' : GestureLibrary} (h : ∀ name, l.templates? name = l'.templates? name) :
    l = l' :=
  congrArg GestureLibrary.mk (NameMap.ext_get? h)

/-- A lock gesture takes the place of the one before. -/
theorem setLockGesture_setLockGesture (l : GestureLibrary) (g g' : Gesture) :
    (l.setLockGesture g).setLockGesture g' = l.setLockGesture g' := by
  refine ext_templates? fun name => ?_
  simp only [templates?_setLockGesture]
  split <;> rfl

/-- The library whose only template is the lock gesture. -/
def ofLockGesture (g : Gesture) : GestureLibrary := empty.setLockGesture g

theorem reread?_ofLockGesture (g : Gesture) :
    (ofLockGesture g).reread? = g.reread?.map ofLockGesture := by
  have entries : (ofLockGesture g).entries.entries = [(lockGestureName, [g])] := rfl
  rw [reread?, NameMap.mapM?, entries]
  cases h : g.reread? <;> simp [h]
  rfl

end GestureLibrary

end Keyguard
