import Keyguard.Credential.GestureFiles
import Keyguard.Proofs.Files.Writing
import Keyguard.Proofs.Gesture.Rereading

/-!
# Libraries that are saved and loaded

What was saved is loaded again, whatever the names, templates, strokes and times are: the library
that is loaded is the one that was saved, reread (`GestureLibrary.load_saved`). So all depends on
the coordinates. A library with one that is not finite is never loaded again
(`GestureLibrary.isSome_reread?`), and one with finite coordinates is loaded as it was if the
number codec gives those coordinates back (`GestureLibrary.save_then_load`).

The content that is loaded need not have been saved: it may have any white space, order of keys,
unknown and repeated names. It decides the library, and from then on the library stays.

Setting a lock gesture loads a library and saves it with one entry replaced, so that it is loaded
again with this entry and all others. It fails only where loading fails, since a file that can be
read can be written, and then nothing is touched
(`GestureFiles.set_replaces_one_entry_or_nothing`).
-/

namespace Keyguard

open FileTree

namespace GestureLibrary

variable {l l' : GestureLibrary} {p : Path} {t t' : FileTree}

/-- All coordinates in the templates of a library. -/
def coordinates (l : GestureLibrary) : List Float32 :=
  l.entries.entries.flatMap fun e => e.2.flatMap fun g => g.points.flatMap fun q => [q.x, q.y]

/-- Whether all coordinates of a library are finite. -/
def isFinite (l : GestureLibrary) : Bool := l.coordinates.all Float32.isFinite

/-- Whether the number codec gives back the coordinates of a library: what is read for the text of
a finite one is the coordinate itself. -/
def ReadsBack (l : GestureLibrary) : Prop :=
  ∀ x ∈ l.coordinates, x.isFinite → rereadCoordinate x = some x

/-- Whatever holds of all coordinates of a library holds of those of each point. -/
private theorem forall_mem_coordinates {P : Float32 → Prop} :
    (∀ x ∈ l.coordinates, P x) ↔
      ∀ e ∈ l.entries.entries, ∀ g ∈ e.2, ∀ q ∈ g.points, P q.x ∧ P q.y := by
  simp only [coordinates, List.forall_mem_flatMap, List.forall_mem_cons, List.not_mem_nil,
    false_implies, implies_true, and_true]

/-- A library can be read again exactly if its coordinates are finite. -/
theorem isSome_reread? (l : GestureLibrary) : l.reread?.isSome = l.isFinite := by
  have entry (e : String × List Gesture) :
      ((e.2.mapM Gesture.reread?).map (e.1, ·)).isSome = e.2.all Gesture.isFinite := by
    rw [Option.isSome_map, isSome_mapM, funext Gesture.isSome_reread?]
  have gesture (g : Gesture) :
      (g.points.flatMap fun q => [q.x, q.y]).all Float32.isFinite = g.isFinite := by
    simp only [List.all_flatMap, List.all_cons, List.all_nil, Bool.and_true]
    rfl
  rw [reread?, Option.isSome_map, NameMap.mapM?, Option.isSome_map, isSome_mapM, funext entry,
    isFinite, coordinates, List.all_flatMap]
  simp only [List.all_flatMap, gesture]

/-- A library with finite coordinates that the codec gives back is read as it was. -/
theorem reread?_of_readsBack (finite : l.isFinite) (codec : l.ReadsBack) :
    l.reread? = some l := by
  have back : ∀ x ∈ l.coordinates, rereadCoordinate x = some x := fun x hx =>
    codec x hx (List.all_eq_true.mp finite x hx)
  exact reread?_eq_some fun e he g hg =>
    Gesture.reread?_eq_some_self_iff.mpr (forall_mem_coordinates.mp back e he g hg)

/-- A library whose content was put at a path is loaded as it is. -/
theorem load_put (finite : l.isFinite) (codec : l.ReadsBack) (top : p.names ≠ [])
    (way : t.blocked p.names = false) : load p (t.put p.names (.file l.bytes)) = .ok l := by
  have way' : (t.put p.names (.file l.bytes)).blocked p.names = false := by
    rw [blocked_eq_false_iff] at way ⊢
    intro q above
    have other : q ≠ p.names := fun same => not_mem_ancestors_self _ (same ▸ above)
    rw [file?, at_put _ top, if_neg other]
    exact way q above
  have content : (t.put p.names (.file l.bytes)).read p.names = .ok l.bytes := by
    refine read_eq_ok_iff.mpr ⟨way', ?_⟩
    rw [file?, at_put _ top, if_pos rfl]
    rfl
  simp only [load, content, ofBytes?_bytes, reread?_of_readsBack finite codec]

/-- Where the library at a path can be loaded, one can be saved. -/
theorem free_of_load (loaded : load p t = .ok l') :
    t.blocked p.names = false ∧ t.at? p.names ≠ some .directory := by
  unfold load at loaded
  rcases readable : t.read p.names with fault | content
  · rcases fault
    case notFound =>
      obtain ⟨way, absent⟩ := read_eq_notFound_iff.mp readable
      exact ⟨way, by simp [absent]⟩
    all_goals
      rw [readable] at loaded
      exact absurd loaded (by simp)
  · obtain ⟨way, found⟩ := read_eq_ok_iff.mp readable
    refine ⟨way, fun dir => ?_⟩
    rw [file?_eq_none_iff.mpr (.inr dir)] at found
    exact absurd found (by simp)

/-- A library is saved unless a file is on the way or a directory in the place of its file. Then
every other place is as it was, but for directories on the way. -/
theorem save_cases (l : GestureLibrary) (p : Path) (t : FileTree) :
    (∃ t', l.save p t = .ok () t' ∧ t'.read p.names = .ok l.bytes ∧
        ∀ q, t'.at? q = if q = p.names then some (.file l.bytes)
          else if q ∈ ancestors p.names ∧ t.at? q = none then some .directory else t.at? q) ∨
      ∃ fault, l.save p t = .error fault t ∧
        (t.blocked p.names = true ∨ t.at? p.names = some .directory) := by
  by_cases top : p.names = []
  · refine .inr ⟨.isADirectory, ?_, .inr (by rw [top]; rfl)⟩
    rw [save, writeFile_eq, top]
    rfl
  · rcases writeFile_cases top l.bytes t with ⟨t', written, replaced, way, -⟩ | failed
    · have spots := at_replace top replaced
      refine .inl ⟨t', written, read_eq_ok_iff.mpr ⟨?_, ?_⟩, spots⟩
      · have only := writesOnly_replace top replaced
        rw [only.blocked fun q above => ?_, way]
        rintro rfl
        exact not_mem_ancestors_self _ above
      · rw [file?, spots, if_pos rfl]
        rfl
    · exact .inr failed

/-- **What was saved is loaded, reread.** -/
theorem load_saved (saved : l.save p t = .ok () t') :
    load p t' = match l.reread? with
      | some l' => .ok l'
      | none => .error .serialization := by
  rcases l.save_cases p t with ⟨t₁, done, content, -⟩ | ⟨fault, failed, -⟩
  · obtain rfl : t₁ = t' := by
      rw [done] at saved
      injection saved
    have read := l.ofBytes?_bytes
    rcases reread : l.reread? with _ | l'
    · rw [reread] at read
      simp only [load, content, read]
    · rw [reread] at read
      simp only [load, content, read]
  · rw [failed] at saved
    exact absurd saved (by simp)

/-- **Saving and loading are inverse** on libraries of finite coordinates, as far as the number
codec gives these back. A library is saved unless its file cannot be written, and then it is
loaded as it was. Two libraries never have the same content. A library that any content gave is
saved in place of that content and loaded again. -/
theorem save_then_load (finite : l.isFinite) (codec : l.ReadsBack) (p : Path) :
    (∀ t, match l.save p t with
      | .ok _ t' => load p t' = .ok l
      | .error _ t' => t' = t ∧ (t.blocked p.names ∨ t.at? p.names = some .directory)) ∧
      (∀ l' : GestureLibrary, l'.isFinite → l'.ReadsBack → l' ≠ l → l'.bytes ≠ l.bytes) ∧
      ∀ t, load p t = .ok l → ∃ t', l.save p t = .ok () t' ∧ load p t' = .ok l := by
  have same : l.reread? = some l := reread?_of_readsBack finite codec
  have back {t t' : FileTree} (saved : l.save p t = .ok () t') : load p t' = .ok l := by
    rw [load_saved saved, same]
  refine ⟨fun t => ?_, fun l' finite' codec' differ bytes => ?_, fun t loaded => ?_⟩
  · rcases l.save_cases p t with ⟨t', done, -⟩ | ⟨fault, failed, cause⟩
    · rw [done]
      exact back done
    · rw [failed]
      exact ⟨rfl, cause⟩
  · have read := congrArg ofBytes? bytes
    rw [ofBytes?_bytes, ofBytes?_bytes, same, reread?_of_readsBack finite' codec'] at read
    exact differ (Option.some.inj read)
  · obtain ⟨way, free⟩ := free_of_load loaded
    rcases l.save_cases p t with ⟨t', done, -⟩ | ⟨fault, -, blocked | dir⟩
    · exact ⟨t', done, back done⟩
    · exact absurd (way.symm.trans blocked) (by simp)
    · exact absurd dir free

/-- A library with odd names, empty lists and extreme coordinates and times is saved and loaded. -/
theorem odd_library_is_loaded :
    let g : Gesture := ⟨[⟨[⟨0.1, -2.5e20, Int64.minValue⟩, ⟨16777216, -0.0, Int64.maxValue⟩]⟩, ⟨[]⟩]⟩
    let l : GestureLibrary :=
      ⟨.ofList [("", []), ("\"\\\u0001\n", [g, ⟨[]⟩]), ("ключ 🔑", [g])]⟩
    ∃ t', l.save ⟨"data/library"⟩ .empty = .ok () t' ∧ load ⟨"data/library"⟩ t' = .ok l := by
  intro g l
  have finite : l.isFinite := by decide +kernel
  have codec : l.ReadsBack := by
    unfold ReadsBack
    decide +kernel
  have saved := (save_then_load finite codec ⟨"data/library"⟩).1 .empty
  rcases l.save_cases ⟨"data/library"⟩ .empty with ⟨t', done, -⟩ | ⟨fault, -, blocked | dir⟩
  · rw [done] at saved
    exact ⟨t', done, saved⟩
  · exact absurd blocked (by decide +kernel)
  · exact absurd dir (by decide +kernel)

end GestureLibrary

/-! ### Setting a lock gesture -/

theorem Gesture.isEmpty_iff (g : Gesture) : g.isEmpty = true ↔ g.points = [] := by
  simp [isEmpty, points]

namespace GestureFiles

/-- **One entry is replaced, or nothing is touched.** Whatever is in the tree, a sample without
points is not set, and this is no error. Any other is set exactly if the library in the user's file
can be loaded; else the result is the error of loading and the tree is what it was. When it is set,
the file holds the library that was loaded, but with the sample as the only template of its name.
That library is loaded again, reread: it is loaded as it is if its coordinates are finite and the
number codec gives them back, and not at all if one is not finite. Every other place is as it was,
except that the directories on the way to the file exist. -/
theorem set_replaces_one_entry_or_nothing (g : GestureFiles) (sample : Gesture) (u : UserId)
    (t : FileTree) :
    (sample.points = [] → g.set sample u t = .ok () t) ∧
    (sample.points ≠ [] → ∀ e, GestureLibrary.load (g.path u) t = .error e →
      g.set sample u t = .error e t) ∧
    (sample.points ≠ [] → ∀ l, GestureLibrary.load (g.path u) t = .ok l →
      ∃ (l' : GestureLibrary) (t' : FileTree), g.set sample u t = .ok () t' ∧
        (∀ name, l'.templates? name =
          if name = lockGestureName then some [sample] else l.templates? name) ∧
        t'.read (g.path u).names = .ok l'.bytes ∧
        (∀ again, l'.reread? = some again →
          GestureLibrary.load (g.path u) t' = .ok again) ∧
        (l'.isFinite → l'.ReadsBack → GestureLibrary.load (g.path u) t' = .ok l') ∧
        (l'.isFinite = false → GestureLibrary.load (g.path u) t' = .error .serialization) ∧
        ∀ q, t'.at? q = if q = (g.path u).names then some (.file l'.bytes)
          else if q ∈ ancestors (g.path u).names ∧ t.at? q = none then some .directory
          else t.at? q) := by
  have full (points : sample.points ≠ []) : ¬sample.isEmpty = true := fun empty =>
    points (sample.isEmpty_iff.mp empty)
  refine ⟨fun pointless => ?_, fun points e failed => ?_, fun points l loaded => ?_⟩
  · rw [set, if_pos (sample.isEmpty_iff.mpr pointless)]
  · simp only [set, if_neg (full points), failed]
  · obtain ⟨way, free⟩ := GestureLibrary.free_of_load loaded
    rcases (l.setLockGesture sample).save_cases (g.path u) t with
      ⟨t', done, content, spots⟩ | ⟨fault, -, blocked | dir⟩
    · have back := GestureLibrary.load_saved done
      refine ⟨l.setLockGesture sample, t', ?_, l.templates?_setLockGesture sample, content,
        fun again reread => ?_, fun finite codec => ?_, fun infinite => ?_, spots⟩
      · simp only [set, if_neg (full points), loaded, done]
      · rw [back, reread]
      · rw [back, GestureLibrary.reread?_of_readsBack finite codec]
      · rw [← GestureLibrary.isSome_reread?, Option.isSome_eq_false_iff,
          Option.isNone_iff_eq_none] at infinite
        rw [back, infinite]
    · exact absurd (way.symm.trans blocked) Bool.false_ne_true
    · exact absurd dir free

/-- A sample takes the place of two templates, the templates of another name stay, and the file is
loaded again with both. -/
theorem set_keeps_other_entries :
    let g : GestureFiles := ⟨⟨⟨"data"⟩⟩, 2⟩
    let old : Gesture := ⟨[⟨[⟨1, -0.0, 3⟩]⟩]⟩
    let l : GestureLibrary := ⟨.ofList [("color", [old, ⟨[]⟩]), (lockGestureName, [old, old])]⟩
    let sample : Gesture := ⟨[⟨[⟨0.1, 2.5e20, 7⟩]⟩]⟩
    let t := FileTree.empty.put (g.path ⟨1⟩).names (.file l.bytes)
    ∃ (l' : GestureLibrary) (t' : FileTree), g.set sample ⟨1⟩ t = .ok () t' ∧
      t'.read (g.path ⟨1⟩).names = .ok l'.bytes ∧
      GestureLibrary.load (g.path ⟨1⟩) t' = .ok l' ∧
      l'.templates? "color" = some [old, ⟨[]⟩] ∧ l'.templates? lockGestureName = some [sample] := by
  intro g old l sample t
  have loaded : GestureLibrary.load (g.path ⟨1⟩) t = .ok l := by
    have codec : l.ReadsBack := by
      unfold GestureLibrary.ReadsBack
      decide +kernel
    exact GestureLibrary.load_put (by decide +kernel) codec (by decide +kernel) (by decide +kernel)
  have points : sample.points ≠ [] := List.cons_ne_nil (⟨0.1, 2.5e20, 7⟩ : GesturePoint) []
  have color : l.templates? "color" = some [old, ⟨[]⟩] := by
    simp [l, GestureLibrary.templates?, NameMap.ofList, NameMap.get?_insert, lockGestureName]
  obtain ⟨l', t', set, templates, content, -, back, -, -⟩ :=
    (g.set_replaces_one_entry_or_nothing sample ⟨1⟩ t).2.2 points l loaded
  obtain rfl : l.setLockGesture sample = l' := GestureLibrary.ext_templates? fun name => by
    rw [templates, l.templates?_setLockGesture]
  have codec : (l.setLockGesture sample).ReadsBack := by
    unfold GestureLibrary.ReadsBack
    decide +kernel
  refine ⟨l.setLockGesture sample, t', set, content, back (by decide +kernel) codec, ?_, ?_⟩
  · rw [templates, if_neg (by decide), color]
  · rw [templates, if_pos rfl]

end GestureFiles

end Keyguard
