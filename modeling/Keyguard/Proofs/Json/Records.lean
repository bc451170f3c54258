import Keyguard.Json.Record

/-!
# Reading typed values that were written

What a reader makes of a list, a record or a map that was written is what it makes of the parts.
Lists are read item by item (`list?_array_map`), and the fields of a record are looked up among its
members (`fields?_of_members?`), so records whose names are the fields in order give each field its
value (`fields?_ofMembers`). A map in canonical form is read entry by entry (`map?_ofMap`), since
inserting ascending names one after the other keeps their order
(`NameMap.entries_ofList_of_sorted`).
-/

namespace Keyguard

/-- A list of successes. -/
theorem mapM_eq_some_map {α β : Type} {f : α → Option β} {g : α → β} {l : List α}
    (h : ∀ a ∈ l, f a = some (g a)) : l.mapM f = some (l.map g) := by
  induction l with
  | nil => rfl
  | cons a l ih =>
    rw [List.forall_mem_cons] at h
    rw [List.mapM_cons, h.1, ih h.2]
    rfl

/-! ### Maps -/

namespace NameMap

variable {α β : Type}

theorem ext_entries {m n : NameMap α} (h : m.entries = n.entries) : m = n := by
  obtain ⟨l, sorted⟩ := m
  obtain ⟨l', sorted'⟩ := n
  obtain rfl : l = l' := h
  rfl

/-- A name above all others goes to the end. -/
theorem insertEntry_of_lt {name : String} {value : α} {l : List (String × α)}
    (above : ∀ e ∈ l, e.1 < name) : insertEntry name value l = l ++ [(name, value)] := by
  induction l with
  | nil => rfl
  | cons e l ih =>
    obtain ⟨n, v⟩ := e
    rw [List.forall_mem_cons] at above
    have below : n < name := above.1
    have unequal : name ≠ n := fun h => String.lt_irrefl n (by rwa [h] at below)
    rw [insertEntry, if_neg fun h => String.lt_irrefl n (String.lt_trans below h),
      if_neg unequal, ih above.2]
    rfl

/-- A list in ascending order of its names is the map that it makes. -/
theorem entries_ofList_of_sorted {l : List (String × α)}
    (sorted : l.Pairwise fun a b => a.1 < b.1) : (ofList l).entries = l := by
  have inserted (l : List (String × α)) (m : NameMap α)
      (sorted : (m.entries ++ l).Pairwise fun a b => a.1 < b.1) :
      (l.foldl (fun m e => m.insert e.1 e.2) m).entries = m.entries ++ l := by
    induction l generalizing m with
    | nil => exact (List.append_nil _).symm
    | cons e l ih =>
      obtain ⟨name, value⟩ := e
      have above : ∀ e ∈ m.entries, e.1 < name := fun e he =>
        (List.pairwise_append.mp sorted).2.2 e he _ List.mem_cons_self
      have last : (m.insert name value).entries = m.entries ++ [(name, value)] :=
        insertEntry_of_lt above
      have shifted : (m.insert name value).entries ++ l = m.entries ++ (name, value) :: l := by
        rw [last, List.append_assoc]
        rfl
      rw [List.foldl_cons, ih _ (shifted ▸ sorted), shifted]
  exact inserted l empty sorted

/-- Applies a function that may fail to every value. -/
def mapM? (f : α → Option β) (m : NameMap α) : Option (NameMap β) :=
  (m.entries.mapM fun e => (f e.2).map (e.1, ·)).map ofList

/-- A function that gives back every value gives back the map. -/
theorem mapM?_eq_some {f : α → Option α} {m : NameMap α} (h : ∀ e ∈ m.entries, f e.2 = some e.2) :
    m.mapM? f = some m := by
  have entries : (m.entries.mapM fun e => (f e.2).map (e.1, ·)) = some (m.entries.map id) :=
    mapM_eq_some_map fun e he => by rw [h e he]; rfl
  rw [mapM?, entries, List.map_id, Option.map_some]
  exact congrArg some (ext_entries (entries_ofList_of_sorted m.sorted))

end NameMap

namespace Json

variable {α β : Type}

/-- A list is read item by item. -/
theorem list?_array_map (read : Json → Option β) (write : α → Json) (l : List α) :
    (Json.array (l.map write)).list? read = l.mapM fun a => read (write a) := by
  rw [list?, List.mapM_map]
  rfl

/-- The members of an object that was written. -/
theorem members?_ofMembers (ms : List (String × Json)) : (ofMembers ms).members? = some ms := by
  have decoded : ms.mapM (fun m => (Quoted.decode? (Quoted.encode m.1)).map (·, m.2)) =
      some (ms.map id) :=
    mapM_eq_some_map fun m _ => by rw [Quoted.decode?_encode]; rfl
  rw [ofMembers, members?, List.mapM_map]
  rwa [List.map_id] at decoded

/-- Under distinct names each value is found by its name. -/
theorem map_lookup_of_nodup {ms : List (String × α)} (distinct : (ms.map Prod.fst).Nodup) :
    (ms.map Prod.fst).map (fun name => ms.lookup name) = ms.map fun m => some m.2 := by
  induction ms with
  | nil => rfl
  | cons m ms ih =>
    obtain ⟨name, v⟩ := m
    rw [List.map_cons, List.nodup_cons] at distinct
    have others : (ms.map Prod.fst).map (fun n => ((name, v) :: ms).lookup n) =
        (ms.map Prod.fst).map fun n => ms.lookup n := by
      refine List.map_congr_left fun n hn => ?_
      rw [lookup_cons_eq, if_neg fun same : n = name => distinct.1 (same ▸ hn)]
    rw [List.map_cons, List.map_cons, List.map_cons, others, lookup_cons_eq, if_pos rfl,
      ih distinct.2]

/-- The fields of a record are looked up among its members, if none comes twice. -/
theorem fields?_of_members? {v : Json} {ms : List (String × Json)} {names : List String}
    (members : v.members? = some ms) (once : ∀ name ∈ names, ms.countP (·.1 = name) ≤ 1) :
    v.fields? names = some (names.map fun name => ms.lookup name) := by
  have found : v.fields? names =
      v.members?.bind fun ms =>
        if names.all fun name => ms.countP (·.1 = name) ≤ 1 then
          some (names.map fun name => ms.lookup name)
        else none := by
    cases v with
    | array => exact absurd members (by simp [members?])
    | _ => rfl
  rw [found, members, Option.bind_some, if_pos]
  exact List.all_eq_true.mpr fun name mem => decide_eq_true (once name mem)

/-- A record gives each of its fields the value that was written for it. -/
theorem fields?_ofMembers (ms : List (String × Json)) (distinct : (ms.map Prod.fst).Nodup) :
    (ofMembers ms).fields? (ms.map Prod.fst) = some (ms.map fun m => some m.2) := by
  have once : ∀ name ∈ ms.map Prod.fst, ms.countP (·.1 = name) ≤ 1 := by
    intro name _
    have count : ms.countP (·.1 = name) = (ms.map Prod.fst).count name := by
      rw [List.count, List.countP_map]
      rfl
    rw [count]
    exact List.nodup_iff_count.mp distinct name
  rw [fields?_of_members? (members?_ofMembers ms) once, map_lookup_of_nodup distinct]

/-- A map is read entry by entry. -/
theorem map?_ofMap (read : Json → Option β) (write : α → Json) (m : NameMap α) :
    (ofMap (m.map write)).map? read = m.mapM? fun a => read (write a) := by
  have members : (ofMap (m.map write)).members? = some (m.map write).entries :=
    members?_ofMembers _
  have values : (m.map write).entries.mapM (fun e => (read e.2).map (e.1, ·)) =
      m.entries.mapM fun e => (read (write e.2)).map (e.1, ·) := List.mapM_map
  rw [map?, members, Option.bind_eq_bind, Option.bind_some, values, NameMap.mapM?]
  cases m.entries.mapM fun e => (read (write e.2)).map (e.1, ·) <;> rfl

end Json

end Keyguard
