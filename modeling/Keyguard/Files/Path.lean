/-!
# Paths

A path is a text in which names are separated by slashes. Joining keeps the text as it is and
adds a slash only where one is needed, so `/a//b` stays as it was typed.

`Path.names` gives the place that a path leads to in a file tree: the names on the way, without
empty ones and `.`, and with `..` going back one step. A place starts at the working directory,
or, if the path starts with a slash, at the root, which is the name `/` there. `names_join` says
that joining a plain name adds that name.
-/

namespace Keyguard

/-- A path as it is typed. -/
structure Path where
  text : String
  deriving DecidableEq

/-- A place in a file tree: the names that lead to it from the working directory, the first of
which may be that of the root. -/
abbrev Place := List String

namespace Path

/-- The path of a name in a directory. -/
def join (dir : Path) (name : String) : Path :=
  ⟨if dir.text.toList = [] ∨ dir.text.toList.getLast? = some '/' then dir.text ++ name
    else dir.text ++ "/" ++ name⟩

/-- Whether a path starts at the root. -/
def isAbsolute (p : Path) : Bool := p.text.toList.head? == some '/'

/-- The parts of a text between slashes. -/
def segments : List Char → List (List Char)
  | [] => [[]]
  | c :: cs =>
    if c = '/' then [] :: segments cs
    else
      match segments cs with
      | s :: ss => (c :: s) :: ss
      | [] => [[c]]

/-- Goes back one step from a place; the root is its own parent. -/
def parent (place : Place) : Place :=
  if place = ["/"] then place
  else if place = [] ∨ place.getLast? = some ".." then place ++ [".."]
  else place.dropLast

/-- Follows one part of a path from a place. -/
def step (place : Place) (segment : List Char) : Place :=
  if segment = [] ∨ segment = ['.'] then place
  else if segment = ['.', '.'] then parent place
  else place ++ [String.ofList segment]

/-- Where a path starts. -/
def start (p : Path) : Place := if p.isAbsolute then ["/"] else []

/-- The place that a path leads to. -/
def names (p : Path) : Place := (segments p.text.toList).foldl step p.start

/-- The places that some parts of a path lead through, from a place on. -/
def trailFrom (place : Place) : List (List Char) → List Place
  | [] => [place]
  | s :: ss => place :: trailFrom (step place s) ss

/-- The places that a path leads through, from its start to its end. -/
def trail (p : Path) : List Place := trailFrom p.start (segments p.text.toList)

/-- The shortest path of a place. -/
def ofPlace : Place → Path
  | [] => ⟨"."⟩
  | "/" :: names => ⟨"/" ++ String.intercalate "/" names⟩
  | names => ⟨String.intercalate "/" names⟩

/-! ### The places on the way -/

/-- A path leads through the places that its first parts lead to. -/
theorem mem_trailFrom {place q : Place} {ss : List (List Char)} :
    q ∈ trailFrom place ss ↔ ∃ before, before <+: ss ∧ q = before.foldl step place := by
  induction ss generalizing place with
  | nil => simp [trailFrom]
  | cons s ss ih =>
    simp only [trailFrom, List.mem_cons, ih]
    constructor
    · rintro (rfl | ⟨before, h, rfl⟩)
      · exact ⟨[], List.nil_prefix, rfl⟩
      · exact ⟨s :: before, List.cons_prefix_cons.2 ⟨rfl, h⟩, rfl⟩
    · rintro ⟨before, h, rfl⟩
      cases before with
      | nil => exact .inl rfl
      | cons s' before =>
        obtain ⟨rfl, rest⟩ := List.cons_prefix_cons.1 h
        exact .inr ⟨before, rest, rfl⟩

theorem trailFrom_subset_append (place : Place) (ss ss' : List (List Char)) :
    trailFrom place ss ⊆ trailFrom place (ss ++ ss') := by
  intro q hq
  obtain ⟨before, h, rfl⟩ := mem_trailFrom.1 hq
  exact mem_trailFrom.2 ⟨before, h.trans (List.prefix_append _ _), rfl⟩

/-- Empty parts and dots lead nowhere. -/
theorem trailFrom_filter_subset (place : Place) (ss : List (List Char)) :
    trailFrom place (ss.filter fun s => s ≠ [] ∧ s ≠ ['.']) ⊆ trailFrom place ss := by
  induction ss generalizing place with
  | nil => exact fun q hq => hq
  | cons s ss ih =>
    rw [List.filter_cons]
    split
    · exact List.cons_subset_cons _ (ih _)
    · rename_i h
      have stays : step place s = place := by
        rw [step, if_pos]
        simpa [Decidable.or_iff_not_not_and_not] using h
      exact fun q hq => List.mem_cons_of_mem _ (by rw [stays]; exact ih place hq)

/-! ### Joining a name -/

/-- A name of a single file: not empty, without slashes, neither `.` nor `..`. -/
def IsPlain (name : String) : Prop :=
  name ≠ "" ∧ '/' ∉ name.toList ∧ name ≠ "." ∧ name ≠ ".."

theorem segments_ne_nil (cs : List Char) : segments cs ≠ [] := by
  cases cs with
  | nil => simp [segments]
  | cons c cs =>
    rw [segments]
    split
    · simp
    · split <;> simp

theorem segments_append_slash (cs ds : List Char) :
    segments (cs ++ '/' :: ds) = segments cs ++ segments ds := by
  induction cs with
  | nil => simp [segments]
  | cons c cs ih =>
    simp only [List.cons_append, segments]
    split
    · simp [ih]
    · rw [ih]
      rcases h : segments cs with _ | ⟨s, ss⟩
      · exact absurd h (segments_ne_nil cs)
      · simp

theorem segments_of_not_mem {cs : List Char} (h : '/' ∉ cs) : segments cs = [cs] := by
  induction cs with
  | nil => rfl
  | cons c cs ih =>
    simp only [List.mem_cons, not_or] at h
    simp [segments, Ne.symm h.1, ih h.2]

theorem step_plain {name : String} (h : IsPlain name) (place : Place) :
    step place name.toList = place ++ [name] := by
  have hne {s : String} (hs : name ≠ s) : name.toList ≠ s.toList := fun e =>
    hs (by rw [← String.ofList_toList (s := name), e, String.ofList_toList])
  have hempty : name.toList ≠ [] := hne h.1
  have hdot : name.toList ≠ ['.'] := hne h.2.2.1
  have hdots : name.toList ≠ ['.', '.'] := hne h.2.2.2
  simp [step, hempty, hdot, hdots, -String.toList_eq_nil_iff]

/-- A plain name joined to a path leaves the start as it is. -/
theorem start_join (dir : Path) {name : String} (h : IsPlain name) :
    (dir.join name).start = dir.start := by
  have hslash : name.toList.head? ≠ some '/' := fun e => h.2.1 (List.mem_of_head? e)
  have key : (dir.join name).text.toList.head? = some '/' ↔ dir.text.toList.head? = some '/' := by
    simp only [join]
    split <;> rename_i hd
    · rcases hd with hd | hd
      · rw [String.toList_append, hd, List.nil_append]
        exact iff_of_false hslash (by simp)
      · obtain ⟨c, cs, hcs⟩ := List.exists_cons_of_ne_nil (l := dir.text.toList)
          (by rintro e; simp [e] at hd)
        rw [String.toList_append, hcs]; simp
    · obtain ⟨c, cs, hcs⟩ := List.exists_cons_of_ne_nil (l := dir.text.toList)
        fun e => hd (.inl e)
      rw [String.toList_append, String.toList_append, hcs]; simp
  simp only [start, isAbsolute, beq_iff_eq, key]

/-- A plain name joined to a path adds that name to the place. -/
theorem names_join (dir : Path) {name : String} (h : IsPlain name) :
    (dir.join name).names = dir.names ++ [name] := by
  have last (top : Place) (cs : List Char) :
      (segments (cs ++ '/' :: name.toList)).foldl step top =
        (segments cs).foldl step top ++ [name] := by
    rw [segments_append_slash, List.foldl_append, segments_of_not_mem h.2.1, List.foldl_cons,
      List.foldl_nil, step_plain h]
  simp only [names, start_join dir h]
  generalize dir.start = top
  simp only [join]
  split
  · rename_i hd
    rw [String.toList_append]
    rcases hd with hd | hd
    · rw [hd, List.nil_append, segments_of_not_mem h.2.1, List.foldl_cons, step_plain h]
      simp [segments, step]
    · obtain ⟨cs, hcs⟩ := List.getLast?_eq_some_iff.1 hd
      rw [hcs, List.append_assoc, List.singleton_append, last, segments_append_slash]
      simp [segments, List.foldl_append, step]
  · rw [String.toList_append, String.toList_append, List.append_assoc]
    exact last _ _

end Path

end Keyguard
