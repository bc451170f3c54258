import Keyguard.Proofs.Files.Places
import Keyguard.Proofs.Files.Writing

/-!
# Paths that never collide

Two paths **coincide** if they are the same as they are typed, part by part, or if they lead to one
place (`Path.Coincides`); in the same two ways a path may be **above** another one
(`Path.IsAbove`). Among paths that plain names lead to from one directory the two ways agree,
however the path of the directory is typed (`Path.IsBelow.parts_eq_iff`,
`Path.IsBelow.parts_mem_ancestors_iff`). All paths of a layout are such.

So no credential file coincides with another one, or with the database and the files that the
database keeps beside it under its own name with something appended, and none of these is above
another. What is written to or removed from a credential file is neither seen in the place of any
other of them nor in the way to it (`Layout.credential_paths_never_collide`).
-/

namespace Keyguard

open FileTree

namespace FileTree

/-- A place in a directory is above another one there exactly if its names lead on to it. -/
theorem append_mem_ancestors_iff {dir p q : Place} :
    dir ++ p ∈ ancestors (dir ++ q) ↔ p ∈ ancestors q := by
  simp only [mem_ancestors, List.append_assoc, List.append_cancel_left_eq]

end FileTree

/-! ### Paths as they are typed -/

namespace Path

/-- The names among the parts of a path, which are all but the empty ones and the dots. -/
def namesIn (segments : List (List Char)) : List String :=
  (segments.filter fun s => s ≠ [] ∧ s ≠ ['.']).map String.ofList

theorem namesIn_append (ss ss' : List (List Char)) :
    namesIn (ss ++ ss') = namesIn ss ++ namesIn ss' := by
  rw [namesIn, List.filter_append, List.map_append]
  rfl

theorem namesIn_of_isPlain {name : String} (h : IsPlain name) :
    namesIn [name.toList] = [name] := by
  have named : name.toList ≠ [] ∧ name.toList ≠ ['.'] :=
    ⟨fun e => h.1 (String.toList_injective e), fun e => h.2.2.1 (String.toList_injective e)⟩
  have kept : [name.toList].filter (fun s => s ≠ [] ∧ s ≠ ['.']) = [name.toList] :=
    List.filter_eq_self.mpr fun s hs => decide_eq_true (List.mem_singleton.mp hs ▸ named)
  rw [namesIn, kept, List.map_singleton, String.ofList_toList]

/-- The parts of a path as it is typed, the root first if it starts there. -/
def parts (p : Path) : List String := p.start ++ namesIn (segments p.text.toList)

/-- A plain name joined to a path is one more part. -/
theorem parts_join (dir : Path) {name : String} (h : IsPlain name) :
    (dir.join name).parts = dir.parts ++ [name] := by
  have last (cs : List Char) :
      namesIn (segments (cs ++ '/' :: name.toList)) = namesIn (segments cs) ++ [name] := by
    rw [segments_append_slash, segments_of_not_mem h.2.1, namesIn_append, namesIn_of_isPlain h]
  have joined : namesIn (segments (dir.join name).text.toList) =
      namesIn (segments dir.text.toList) ++ [name] := by
    rw [join]
    split
    · rename_i shut
      rw [String.toList_append]
      rcases shut with empty | slash
      · rw [empty, List.nil_append, segments_of_not_mem h.2.1, namesIn_of_isPlain h]
        rfl
      · obtain ⟨cs, typed⟩ := List.getLast?_eq_some_iff.mp slash
        rw [typed, List.append_assoc, List.singleton_append, last, segments_append_slash,
          namesIn_append]
        simp [segments, namesIn]
    · rw [String.toList_append, String.toList_append, List.append_assoc]
      exact last _
  rw [parts, parts, start_join dir h, joined, List.append_assoc]

/-- Whether two paths are one, as they are typed or by the place that they lead to. -/
def Coincides (p q : Path) : Prop := p.parts = q.parts ∨ p.names = q.names

/-- Whether a path is that of a directory on the way along another one, as they are typed or by the
places that they lead to. -/
def IsAbove (p q : Path) : Prop := p.parts ∈ ancestors q.parts ∨ p.names ∈ ancestors q.names

/-! ### Paths below a directory -/

/-- The paths that plain names lead to from a directory. -/
inductive IsBelow (dir : Path) : Path → Prop
  | self : IsBelow dir dir
  | join {p : Path} {name : String} (h : IsBelow dir p) (plain : IsPlain name) :
    IsBelow dir (p.join name)

namespace IsBelow

variable {dir p q : Path}

/-- What is typed behind the directory is what leads on from its place. -/
theorem exists_eq_append (h : IsBelow dir p) :
    ∃ rest, p.parts = dir.parts ++ rest ∧ p.names = dir.names ++ rest := by
  induction h with
  | self => exact ⟨[], (List.append_nil _).symm, (List.append_nil _).symm⟩
  | @join p name _ plain ih =>
    obtain ⟨rest, typed, place⟩ := ih
    refine ⟨rest ++ [name], ?_, ?_⟩
    · rw [parts_join p plain, typed, List.append_assoc]
    · rw [names_join p plain, place, List.append_assoc]

theorem parts_eq_iff (hp : IsBelow dir p) (hq : IsBelow dir q) :
    p.parts = q.parts ↔ p.names = q.names := by
  obtain ⟨rest, typed, place⟩ := hp.exists_eq_append
  obtain ⟨rest', typed', place'⟩ := hq.exists_eq_append
  rw [typed, typed', place, place', List.append_cancel_left_eq, List.append_cancel_left_eq]

theorem parts_mem_ancestors_iff (hp : IsBelow dir p) (hq : IsBelow dir q) :
    p.parts ∈ ancestors q.parts ↔ p.names ∈ ancestors q.names := by
  obtain ⟨rest, typed, place⟩ := hp.exists_eq_append
  obtain ⟨rest', typed', place'⟩ := hq.exists_eq_append
  rw [typed, typed', place, place', append_mem_ancestors_iff, append_mem_ancestors_iff]

theorem coincides_iff (hp : IsBelow dir p) (hq : IsBelow dir q) :
    p.Coincides q ↔ p.names = q.names := by
  rw [Coincides, hp.parts_eq_iff hq, or_self]

theorem isAbove_iff (hp : IsBelow dir p) (hq : IsBelow dir q) :
    p.IsAbove q ↔ p.names ∈ ancestors q.names := by
  rw [IsAbove, hp.parts_mem_ancestors_iff hq, or_self]

end IsBelow

end Path

/-! ### Writing and removing -/

namespace FileTree

variable {t t' : FileTree} {p : Path} {q : Place}

/-- Whether a tree is what is left of another one after a file was written, or could not be, or
was removed. -/
def IsLeftBy (p : Path) (t t' : FileTree) : Prop :=
  (∃ content, t' = t.after (writeFile p content)) ∨ t' = t.remove p.names

/-- Whether a place is the same in two trees: the same is in it, can be read from it and stands in
the way to it. -/
structure SameAt (q : Place) (t t' : FileTree) : Prop where
  spot : t'.at? q = t.at? q
  way : t'.blocked q = t.blocked q
  read : t'.read q = t.read q

theorem SameAt.of_spot (spot : t'.at? q = t.at? q) (way : t'.blocked q = t.blocked q) :
    SameAt q t t' :=
  ⟨spot, way, by rw [FileTree.read, FileTree.read, spot, way]⟩

/-- A change at one place is not seen at another, unless one is above the other. -/
theorem sameAt_of_isLeftBy (top : p.names ≠ []) (left : IsLeftBy p t t') (apart : p.names ≠ q)
    (below : p.names ∉ ancestors q) (above : q ∉ ancestors p.names) : SameAt q t t' := by
  have clear : ∀ r ∈ ancestors q, r ≠ p.names := fun r way here => below (here ▸ way)
  rcases left with ⟨content, rfl⟩ | rfl
  · rcases writeFile_cases top content t with ⟨t', written, done, -⟩ | ⟨fault, failed, -⟩
    · rw [after, written]
      refine .of_spot ?_ ((writesOnly_replace top done).blocked clear)
      rw [at_replace top done, if_neg apart.symm, if_neg fun new => above new.1]
    · rw [after, failed]
      exact .of_spot rfl rfl
  · refine .of_spot ?_ ((writesOnly_remove t p.names).blocked clear)
    rw [at_remove, if_neg fun here => apart here.1.symm]

end FileTree

/-! ### The paths of a layout -/

namespace Layout

variable {l : Layout} {u v : UserId} {f g : CredentialFile} {suffix : String}

/-- The path of the database with something appended to its name. -/
def besideDatabase (l : Layout) (suffix : String) : Path := ⟨l.database.text ++ suffix⟩

theorem isBelow_file (l : Layout) (u : UserId) (f : CredentialFile) :
    l.dataDir.IsBelow (l.file u f) := by
  have system : l.dataDir.IsBelow l.systemDir := .join .self (by simp [Path.IsPlain])
  have users : l.dataDir.IsBelow l.usersDir := .join system (by simp [Path.IsPlain])
  refine .join ?_ f.isPlain_name
  rw [userDir]
  split
  · exact system
  · exact .join users u.isPlain_text

/-- The database and the files beside it have names of their own in the system directory. -/
private theorem besideDatabase_eq_join (l : Layout) (suffix : String) :
    l.besideDatabase suffix = l.systemDir.join ("locksettings.db" ++ suffix) := by
  rw [besideDatabase, database, Path.join, Path.join]
  split <;> simp only [String.append_assoc]

private theorem isPlain_besideDatabase (h : '/' ∉ suffix.toList) :
    Path.IsPlain ("locksettings.db" ++ suffix) := by
  have first : ("locksettings.db" ++ suffix).toList.head? = some 'l' := by
    rw [String.toList_append]
    rfl
  refine ⟨?_, ?_, ?_, ?_⟩
  · exact fun e => absurd (e ▸ first) (by decide)
  · rw [String.toList_append, List.mem_append]
    exact fun mem => mem.elim (by decide) h
  · exact fun e => absurd (e ▸ first) (by decide)
  · exact fun e => absurd (e ▸ first) (by decide)

theorem isBelow_besideDatabase (h : '/' ∉ suffix.toList) :
    l.dataDir.IsBelow (l.besideDatabase suffix) := by
  rw [besideDatabase_eq_join]
  exact .join (.join .self (by simp [Path.IsPlain])) (isPlain_besideDatabase h)

theorem names_besideDatabase (h : '/' ∉ suffix.toList) :
    (l.besideDatabase suffix).names = l.systemDir.names ++ ["locksettings.db" ++ suffix] := by
  rw [besideDatabase_eq_join, Path.names_join _ (isPlain_besideDatabase h)]

/-- No other name in the system directory begins like that of the database. -/
private theorem name_ne_besideDatabase (suffix : String) :
    f.name ≠ "locksettings.db" ++ suffix ∧ "users" ≠ "locksettings.db" ++ suffix := by
  have begins : ("locksettings.db" ++ suffix).toList.take 5 = "locks".toList := by
    rw [String.toList_append]
    rfl
  constructor
  · intro e
    rw [← e] at begins
    rcases f with (_ | _) | _ | _ <;> exact absurd begins (by decide)
  · exact fun e => absurd (e ▸ begins) (by decide)

theorem file_ne_besideDatabase (h : '/' ∉ suffix.toList) :
    (l.file u f).names ≠ (l.besideDatabase suffix).names := by
  rw [names_file, names_besideDatabase h]
  intro same
  obtain ⟨-, names⟩ := List.append_inj' same rfl
  exact (name_ne_besideDatabase suffix).1 (List.cons.inj names).1

theorem ancestors_besideDatabase (h : '/' ∉ suffix.toList) :
    ancestors (l.besideDatabase suffix).names = ancestors l.database.names := by
  rw [names_besideDatabase h, ancestors_append_singleton, ancestors_database]

theorem besideDatabase_not_mem_ancestors_file (h : '/' ∉ suffix.toList) :
    (l.besideDatabase suffix).names ∉ ancestors (l.file u f).names := by
  intro above
  rcases mem_ancestors_file above with database | users | own
  · rw [← ancestors_besideDatabase h] at database
    exact not_mem_ancestors_self _ database
  · rw [names_besideDatabase h, names_usersDir, List.append_cancel_left_eq] at users
    exact (name_ne_besideDatabase (f := f) suffix).2 (List.cons.inj users).1.symm
  · rw [names_besideDatabase h] at own
    by_cases hu : u = .system
    · subst hu
      rw [names_userDir_system] at own
      exact absurd (congrArg List.length own) (by simp)
    · rw [names_userDir l hu, names_usersDir, List.append_assoc, List.append_cancel_left_eq] at own
      exact absurd (congrArg List.length own) (by simp)

/-- **Credential paths never collide.** However the data directory is typed, a credential file
coincides with no other one and is above none, and neither is it with the database or a file beside
it, such as those with `-wal` and `-shm` appended. Whatever is written to or removed from it, the
places of all the others stay the same. -/
theorem credential_paths_never_collide (l : Layout) (u : UserId) (f : CredentialFile) :
    (∀ v g, (l.file u f).Coincides (l.file v g) → u = v ∧ f = g) ∧
      (∀ v g, ¬(l.file u f).IsAbove (l.file v g)) ∧
      (∀ suffix : String, '/' ∉ suffix.toList →
        ¬(l.file u f).Coincides (l.besideDatabase suffix) ∧
        ¬(l.file u f).IsAbove (l.besideDatabase suffix) ∧
        ¬(l.besideDatabase suffix).IsAbove (l.file u f)) ∧
      ∀ t t' : FileTree, IsLeftBy (l.file u f) t t' →
        (∀ v g, v ≠ u ∨ g ≠ f → SameAt (l.file v g).names t t') ∧
        ∀ suffix : String, '/' ∉ suffix.toList → SameAt (l.besideDatabase suffix).names t t' := by
  have file (v : UserId) (g : CredentialFile) := isBelow_file l v g
  refine ⟨fun v g same => ?_, fun v g above => ?_, fun suffix h => ⟨?_, ?_, ?_⟩, fun t t' left =>
    ⟨fun v g differ => ?_, fun suffix h => ?_⟩⟩
  · exact file_injective (((file u f).coincides_iff (file v g)).mp same)
  · exact file_not_mem_ancestors_file u v f g (((file u f).isAbove_iff (file v g)).mp above)
  · rw [(file u f).coincides_iff (isBelow_besideDatabase h)]
    exact file_ne_besideDatabase h
  · rw [(file u f).isAbove_iff (isBelow_besideDatabase h), ancestors_besideDatabase h]
    exact file_not_mem_ancestors_database u f
  · rw [(isBelow_besideDatabase h).isAbove_iff (file u f)]
    exact besideDatabase_not_mem_ancestors_file h
  · refine sameAt_of_isLeftBy (file_ne_nil u f) left (fun same => ?_)
      (file_not_mem_ancestors_file u v f g) (file_not_mem_ancestors_file v u g f)
    obtain ⟨users, files⟩ := file_injective same
    exact differ.elim (· users.symm) (· files.symm)
  · refine sameAt_of_isLeftBy (file_ne_nil u f) left (file_ne_besideDatabase h) ?_
      (besideDatabase_not_mem_ancestors_file h)
    rw [ancestors_besideDatabase h]
    exact file_not_mem_ancestors_database u f

/-- Below a directory that is typed in a roundabout way, the system user's gesture is kept apart
from the database's log and from the gesture of the user `1`, and writing it blocks neither. -/
theorem system_gesture_is_kept_apart :
    let l : Layout := ⟨⟨"./users//../system/"⟩⟩
    let t := FileTree.empty.put (l.besideDatabase "-wal").names (.journal none)
    let t' := t.after (writeFile (l.file .system .gesture) [1])
    ¬(l.file .system .gesture).Coincides (l.file ⟨1⟩ .gesture) ∧
      ¬(l.file .system .gesture).Coincides (l.besideDatabase "-wal") ∧
      ¬(l.besideDatabase "-wal").IsAbove (l.file .system .gesture) ∧
      t'.at? (l.file .system .gesture).names = some (.file [1]) ∧
      t'.at? (l.besideDatabase "-wal").names = some (.journal none) ∧
      t'.blocked (l.file ⟨1⟩ .gesture).names = false := by
  intro l t t'
  obtain ⟨alone, -, database, stays⟩ := credential_paths_never_collide l .system .gesture
  have left : IsLeftBy (l.file .system .gesture) t t' := .inl ⟨[1], rfl⟩
  have wal : '/' ∉ "-wal".toList := by decide
  obtain ⟨apart, -, above⟩ := database "-wal" wal
  obtain ⟨files, log⟩ := stays t t' left
  refine ⟨fun same => ?_, apart, above, by decide +kernel, ?_, ?_⟩
  · exact absurd (alone ⟨1⟩ .gesture same).1 (by decide)
  · exact (log "-wal" wal).spot.trans (by decide +kernel)
  · exact (files ⟨1⟩ .gesture (.inl (by decide))).way.trans (by decide +kernel)

end Layout

end Keyguard
