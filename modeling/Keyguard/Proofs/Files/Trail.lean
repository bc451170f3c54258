import Keyguard.Files.Walk
import Keyguard.Proofs.Files.Replacing

/-!
# Where a path leads through

Following a path succeeds only if every place that it goes on from is a directory, so nothing
blocks the place that it leads to (`blocked_of_follow`). Where the path of a directory leads there,
reading a file of that directory by its path is reading it at its place (`readAt_join`).

A path is **direct** if it does not go into the directory that it names and out again, as
`a/b/..` does with `a`. Whoever creates the directory of a direct path puts nothing below it, and
whoever creates a directory in it creates that directory and nothing else there
(`at_createAt_join`). The path of a directory that exists and is empty is direct
(`isDirect_of_follow`).
-/

namespace Keyguard

open FileTree

namespace Path

/-- Whether a path leads through no place below the one that it leads to. -/
def IsDirect (p : Path) : Prop := ∀ q ∈ p.trail, p.names <+: q → q = p.names

instance (p : Path) : Decidable p.IsDirect :=
  inferInstanceAs (Decidable (∀ q ∈ p.trail, p.names <+: q → q = p.names))

theorem names_eq_foldl (p : Path) : p.names = (segments p.text.toList).foldl step p.start := rfl

/-- The trail of a path with one more part ends where the longer path leads to. -/
private theorem trailFrom_append_singleton (place : Place) (ss : List (List Char))
    (s : List Char) {q : Place} (h : q ∈ trailFrom place (ss ++ [s])) :
    q ∈ trailFrom place ss ∨ q = (ss ++ [s]).foldl step place := by
  obtain ⟨before, hb, rfl⟩ := mem_trailFrom.mp h
  rcases List.prefix_concat_iff.mp hb with rfl | hb
  · exact .inr rfl
  · exact .inl (mem_trailFrom.mpr ⟨before, hb, rfl⟩)

/-- The parts of a joined path are those of the directory's path, without an empty one at its end,
and the name. -/
theorem segments_join (dir : Path) {name : String} (h : IsPlain name) :
    ∃ ss, segments (dir.join name).text.toList = ss ++ [name.toList] ∧
      (segments dir.text.toList = ss ∨ segments dir.text.toList = ss ++ [[]]) := by
  have last (cs : List Char) :
      segments (cs ++ '/' :: name.toList) = segments cs ++ [name.toList] := by
    rw [segments_append_slash, segments_of_not_mem h.2.1]
  simp only [join]
  split
  · rename_i hd
    rw [String.toList_append]
    rcases hd with hd | hd
    · refine ⟨[], by rw [hd, List.nil_append, segments_of_not_mem h.2.1]; rfl, .inr ?_⟩
      rw [hd]
      rfl
    · obtain ⟨cs, hcs⟩ := List.getLast?_eq_some_iff.mp hd
      refine ⟨segments cs, by rw [hcs, List.append_assoc, List.singleton_append, last], .inr ?_⟩
      rw [hcs, segments_append_slash]
      rfl
  · refine ⟨segments dir.text.toList, ?_, .inl rfl⟩
    rw [String.toList_append, String.toList_append, List.append_assoc]
    exact last _

/-- A joined path leads through places of the directory's path and ends in the directory. -/
theorem mem_trail_join {dir : Path} {name : String} (h : IsPlain name) {q : Place}
    (hq : q ∈ (dir.join name).trail) : q ∈ dir.trail ∨ q = dir.names ++ [name] := by
  obtain ⟨ss, hss, hdir⟩ := segments_join dir h
  have sub (place : Place) : trailFrom place ss ⊆ trailFrom place (segments dir.text.toList) := by
    rcases hdir with hdir | hdir <;> rw [hdir]
    · exact fun q hq => hq
    · exact trailFrom_subset_append _ _ _
  rw [trail, hss] at hq
  rcases trailFrom_append_singleton _ _ _ hq with hq | hq
  · rw [start_join dir h] at hq
    exact .inl (sub _ hq)
  · rw [← names_join dir h, names_eq_foldl, hss]
    exact .inr hq

end Path

namespace FileTree

variable {t t' : FileTree}

/-! ### Following a path -/

/-- A place that a path goes on from is a directory. -/
theorem at_of_step {place q : Place} {segment : List Char}
    (h : t.step place segment = .ok q) : t.at? place = some .directory := by
  unfold step at h
  split at h
  · simp at h
  · assumption
  · simp at h

private theorem blocked_append_singleton {p : Place} {name : String}
    (way : t.blocked p = false) (dir : t.at? p = some .directory) :
    t.blocked (p ++ [name]) = false := by
  rw [blocked_eq_false_iff, ancestors_append_singleton]
  intro q hq
  rcases List.mem_append.mp hq with hq | hq
  · exact blocked_eq_false_iff.mp way q hq
  · rw [List.mem_singleton.mp hq]
    exact file?_eq_none_iff.mpr (.inr dir)

private theorem blocked_dropLast {p : Place} (way : t.blocked p = false) :
    t.blocked p.dropLast = false := by
  rcases List.eq_nil_or_concat p with rfl | ⟨dir, name, rfl⟩
  · exact way
  · rw [List.concat_eq_append] at way ⊢
    rw [List.dropLast_concat]
    rw [blocked_eq_false_iff, ancestors_append_singleton] at way
    exact blocked_eq_false_iff.mpr fun q hq => way q (List.mem_append_left _ hq)

/-- One step along a path keeps the way clear of files. -/
private theorem blocked_of_step {place q : Place} {segment : List Char}
    (h : t.step place segment = .ok q) (way : t.blocked place = false) :
    t.blocked q = false := by
  have dir := at_of_step h
  rw [eq_step_of_step h, Path.step]
  split
  · exact way
  · split
    · rw [Path.parent]
      split
      · exact way
      · split
        · exact blocked_append_singleton way dir
        · exact blocked_dropLast way
    · exact blocked_append_singleton way dir

private theorem blocked_of_walk {place q : Place} {segments : List (List Char)}
    (h : t.walk place segments = .ok q) (way : t.blocked place = false) :
    t.blocked q = false := by
  induction segments generalizing place with
  | nil => injection h with h; exact h ▸ way
  | cons s ss ih =>
    obtain ⟨next, hs, hw⟩ := walk_cons_eq_ok.mp h
    exact ih hw (blocked_of_step hs way)

/-- Nothing blocks a place that a path could be followed to. -/
theorem blocked_of_follow {p : Path} {q : Place} (h : t.follow p = .ok q) :
    t.blocked q = false := by
  have start : t.blocked p.start = false := by
    rw [Path.start]
    split <;> simp [blocked, ancestors, file?, at?, Node.content?]
  exact blocked_of_walk (follow_eq_ok.mp h).2 start

theorem walk_append_singleton {place q : Place} {ss : List (List Char)} {s : List Char} :
    t.walk place (ss ++ [s]) = .ok q ↔
      ∃ next, t.walk place ss = .ok next ∧ t.step next s = .ok q := by
  rw [walk, List.foldlM_append, ← walk]
  cases t.walk place ss with
  | error fault => simp [bind, Except.bind]
  | ok next => cases hs : t.step next s <;> simp [bind, Except.bind, pure, Except.pure, hs]

/-- Where a path leads to a directory, the path of a name in it leads one step further. -/
theorem follow_join {dir : Path} {name : String} {place : Place} (plain : Path.IsPlain name)
    (short : name.utf8ByteSize ≤ longestName) (valid : (dir.join name).check = .ok ())
    (followed : t.follow dir = .ok place) (isDir : t.at? place = some .directory) :
    t.follow (dir.join name) = .ok (place ++ [name]) := by
  obtain ⟨ss, hss, hdir⟩ := Path.segments_join dir plain
  have walked : t.walk dir.start ss = .ok place := by
    have whole := (follow_eq_ok.mp followed).2
    rcases hdir with hdir | hdir <;> rw [hdir] at whole
    · exact whole
    · -- an empty part at the end stays where it is
      obtain ⟨next, before, stays⟩ := walk_append_singleton.mp whole
      have same : place = next := (eq_step_of_step stays).trans (if_pos (.inl rfl))
      exact same ▸ before
  have last : t.step place name.toList = .ok (place ++ [name]) := by
    rw [step, isDir]
    dsimp only
    rw [String.ofList_toList, if_neg (Nat.not_lt_of_le short), Path.step_plain plain]
  refine follow_eq_ok.mpr ⟨valid, ?_⟩
  rw [Path.start_join dir plain, hss]
  exact walk_append_singleton.mpr ⟨place, walked, last⟩

/-- **A file of a directory is read by its path as at its place**, if the path of the directory
leads there. -/
theorem readAt_join {dir : Path} {name : String} {place : Place} (plain : Path.IsPlain name)
    (short : name.utf8ByteSize ≤ longestName) (valid : (dir.join name).check = .ok ())
    (followed : t.follow dir = .ok place) (isDir : t.at? place = some .directory) :
    t.readAt (dir.join name) = t.read (dir.join name).names := by
  rw [readAt, follow_join plain short valid followed isDir, Path.names_join dir plain,
    eq_names_of_follow followed]
  rfl

/-- A path that can be followed leads through existing places, except for its last one. -/
private theorem at_of_walk {place q : Place} {segments : List (List Char)}
    (h : t.walk place segments = .ok q) {r : Place} (hr : r ∈ Path.trailFrom place segments) :
    r = q ∨ t.at? r = some .directory := by
  induction segments generalizing place with
  | nil =>
    injection h with h
    exact .inl ((by simpa [Path.trailFrom] using hr : r = place).trans h)
  | cons s ss ih =>
    obtain ⟨next, hs, hw⟩ := walk_cons_eq_ok.mp h
    rcases List.mem_cons.mp hr with rfl | hr
    · exact .inr (at_of_step hs)
    · rw [← eq_step_of_step hs] at hr
      exact ih hw hr

/-- The path of a directory with nothing below it is direct. -/
theorem isDirect_of_follow {p : Path} (h : t.follow p = .ok p.names)
    (vacant : ∀ q, p.names <+: q → q ≠ p.names → t.at? q = none) : p.IsDirect := by
  intro q hq below
  rcases at_of_walk (follow_eq_ok.mp h).2 hq with e | dir
  · exact e
  · by_cases hne : q = p.names
    · exact hne
    · rw [vacant q below hne] at dir
      exact absurd dir (by simp)

/-! ### Creating a directory in a directory -/

theorem AddsDirectories.file? {ps : List Place} (h : AddsDirectories ps t t') (q : Place) :
    t'.file? q = t.file? q := by
  rcases h q with e | ⟨-, e, e'⟩
  · rw [FileTree.file?, FileTree.file?, e]
  · simp [FileTree.file?, e, e', Node.content?]

/-- Creating a directory in the directory of a direct path changes nothing else below it. -/
theorem at_createAt_join {dir : Path} (direct : dir.IsDirect) {name : String}
    (plain : Path.IsPlain name) {q : Place} (below : dir.names <+: q) (hne : q ≠ dir.names)
    (hother : q ≠ dir.names ++ [name]) :
    (t.after (createAt (dir.join name))).at? q = t.at? q := by
  rcases at_createAt t (dir.join name) q with e | ⟨hq, -⟩
  · exact e
  · rcases Path.mem_trail_join plain hq with hq | hq
    · exact absurd (direct q hq below) hne
    · exact absurd hq hother

end FileTree

end Keyguard
