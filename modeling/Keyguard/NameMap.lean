import Keyguard.Association

/-!
# Maps from names

A `NameMap` holds one value for each of some names, in ascending order of the names. The order
is by code points, which is also the order of the names' UTF-8 bytes. Since the order is fixed,
two maps with the same values are equal (`NameMap.ext_get?`).

* `get?_insert` and `get?_erase` say what the two changes do to every name.
* `ofList` inserts from left to right, so of two values for one name the later one stays
  (`get?_ofList`).
-/

namespace Keyguard

/-- A map from names, listed in ascending order. -/
structure NameMap (α : Type) where
  entries : List (String × α)
  sorted : entries.Pairwise fun a b => a.1 < b.1

namespace NameMap

variable {α : Type}

/-- The map without names. -/
def empty : NameMap α := ⟨[], .nil⟩

instance : EmptyCollection (NameMap α) := ⟨empty⟩

/-- The value of a name. -/
def get? (m : NameMap α) (name : String) : Option α := m.entries.lookup name

/-- Puts a value into its place in an ascending list. -/
def insertEntry (name : String) (value : α) : List (String × α) → List (String × α)
  | [] => [(name, value)]
  | (n, v) :: rest =>
    if name < n then (name, value) :: (n, v) :: rest
    else if name = n then (name, value) :: rest
    else (n, v) :: insertEntry name value rest

theorem mem_insertEntry {name : String} {value : α} {l : List (String × α)} {e : String × α}
    (h : e ∈ insertEntry name value l) : e = (name, value) ∨ e ∈ l := by
  induction l with
  | nil => simpa [insertEntry] using h
  | cons x l ih =>
    obtain ⟨n, v⟩ := x
    simp only [insertEntry] at h
    split at h
    · simpa using h
    · split at h
      · simp only [List.mem_cons] at h ⊢
        exact h.imp id Or.inr
      · simp only [List.mem_cons] at h ⊢
        rcases h with h | h
        · exact .inr (.inl h)
        · exact (ih h).imp id Or.inr

theorem sorted_insertEntry {name : String} {value : α} {l : List (String × α)}
    (h : l.Pairwise fun a b => a.1 < b.1) :
    (insertEntry name value l).Pairwise fun a b => a.1 < b.1 := by
  induction l with
  | nil => simp [insertEntry]
  | cons x l ih =>
    obtain ⟨n, v⟩ := x
    rw [List.pairwise_cons] at h
    simp only [insertEntry]
    split
    · rename_i hlt
      refine .cons (fun e he => ?_) (.cons h.1 h.2)
      rcases List.mem_cons.1 he with rfl | he
      · exact hlt
      · exact String.lt_trans hlt (h.1 e he)
    · split
      · rename_i heq
        exact .cons (fun e he => heq ▸ h.1 e he) h.2
      · rename_i hle hne
        refine .cons (fun e he => ?_) (ih h.2)
        rcases mem_insertEntry he with rfl | he
        · exact String.not_le.1 fun hge => hne (String.le_antisymm hge (String.not_lt.1 hle))
        · exact h.1 e he

/-- Gives a name a value, in place of any it had. -/
def insert (m : NameMap α) (name : String) (value : α) : NameMap α :=
  ⟨insertEntry name value m.entries, sorted_insertEntry m.sorted⟩

/-- Takes a name out of the map. -/
def erase (m : NameMap α) (name : String) : NameMap α :=
  ⟨m.entries.filter (·.1 ≠ name), m.sorted.filter _⟩

/-- The map of a list of values, of which the last for a name stays. -/
def ofList (l : List (String × α)) : NameMap α := l.foldl (fun m e => m.insert e.1 e.2) empty

/-- Applies a function to every value. -/
def map {β : Type} (f : α → β) (m : NameMap α) : NameMap β :=
  ⟨m.entries.map fun e => (e.1, f e.2), m.sorted.map _ fun _ _ h => h⟩

instance [BEq α] : BEq (NameMap α) := ⟨fun m n => m.entries == n.entries⟩

/-! ### What a name stands for -/

theorem get?_insert (m : NameMap α) (name other : String) (value : α) :
    (m.insert name value).get? other = if other = name then some value else m.get? other := by
  obtain ⟨l, hl⟩ := m
  simp only [get?, insert]
  clear hl
  induction l with
  | nil => rw [insertEntry, lookup_cons_eq]
  | cons x l ih =>
    obtain ⟨n, v⟩ := x
    rw [insertEntry]
    split
    · rw [lookup_cons_eq]
    · split
      · rename_i heq
        subst heq
        simp only [lookup_cons_eq]
        split <;> rfl
      · rename_i hne
        simp only [lookup_cons_eq, ih]
        by_cases h : other = name
        · subst h
          simp [hne]
        · simp [h]

theorem get?_erase (m : NameMap α) (name other : String) :
    (m.erase name).get? other = if other = name then none else m.get? other :=
  lookup_filter_ne other name m.entries

/-- Of two values for one name in a list the later one stays. -/
theorem get?_ofList (l : List (String × α)) (name : String) :
    (ofList l).get? name = l.reverse.lookup name := by
  have inserted (l : List (String × α)) (m : NameMap α) :
      (l.foldl (fun m e => m.insert e.1 e.2) m).get? name =
        (l.reverse.lookup name <|> m.get? name) := by
    induction l generalizing m with
    | nil => rfl
    | cons e l ih =>
      obtain ⟨n, v⟩ := e
      rw [List.foldl_cons, ih, get?_insert, List.reverse_cons, List.lookup_append, lookup_cons_eq]
      cases l.reverse.lookup name <;> by_cases same : name = n <;> simp [same]
  rw [ofList, inserted]
  cases l.reverse.lookup name <;> rfl

/-- The value of a name is the one that is listed with it. -/
theorem get?_eq_some_iff {m : NameMap α} {name : String} {value : α} :
    m.get? name = some value ↔ (name, value) ∈ m.entries := by
  obtain ⟨l, hl⟩ := m
  simp only [get?]
  induction l with
  | nil => simp
  | cons x l ih =>
    obtain ⟨n, v⟩ := x
    rw [List.pairwise_cons] at hl
    rw [lookup_cons_eq, List.mem_cons, Prod.mk.injEq]
    by_cases same : name = n
    · subst same
      have later : (name, value) ∉ l := fun mem => String.lt_irrefl name (hl.1 _ mem)
      simp only [if_true, Option.some.injEq, true_and, later, or_false, eq_comm]
    · simp only [same, if_false, ih hl.2, false_and, false_or]

/-! ### Equality -/

/-- Two maps that give every name the same value are equal. -/
theorem ext_get? {m n : NameMap α} (h : ∀ name, m.get? name = n.get? name) : m = n := by
  obtain ⟨l, hl⟩ := m
  obtain ⟨k, hk⟩ := n
  simp only [get?] at h
  suffices l = k by subst this; rfl
  have none_below {name : String} {l : List (String × α)} (hl : ∀ e ∈ l, name < e.1) :
      l.lookup name = none := by
    induction l with
    | nil => rfl
    | cons x l ih =>
      have hx : name ≠ x.1 := fun e => String.lt_irrefl x.1 (e ▸ hl x (by simp))
      rw [show x = (x.1, x.2) from rfl, lookup_cons_eq, if_neg hx,
        ih fun e he => hl e (List.mem_cons_of_mem _ he)]
  induction l generalizing k with
  | nil =>
    cases k with
    | nil => rfl
    | cons y k =>
      have hy := h y.1
      rw [show y = (y.1, y.2) from rfl, lookup_cons_eq, if_pos rfl] at hy
      simp at hy
  | cons x l ih =>
    obtain ⟨a, v⟩ := x
    cases k with
    | nil => simpa [lookup_cons_eq] using h a
    | cons y k =>
      obtain ⟨b, w⟩ := y
      rw [List.pairwise_cons] at hl hk
      have hab : a = b := by
        have ha := h a
        have hb := h b
        simp only [lookup_cons_eq, if_true] at ha hb
        apply Classical.byContradiction
        intro hne
        rw [if_neg hne] at ha
        rw [if_neg (Ne.symm hne)] at hb
        rcases Decidable.em (a < b) with hlt | hle
        · rw [none_below fun e he => String.lt_trans hlt (hk.1 e he)] at ha
          simp at ha
        · have hlt : b < a :=
            String.not_le.1 fun hge => hne (String.le_antisymm hge (String.not_lt.1 hle))
          rw [none_below fun e he => String.lt_trans hlt (hl.1 e he)] at hb
          simp at hb
      subst hab
      have hv := h a
      simp only [lookup_cons_eq, if_true, Option.some.injEq] at hv
      subst hv
      congr 1
      refine ih hl.2 k hk.2 fun name => ?_
      have hn := h name
      simp only [lookup_cons_eq] at hn
      by_cases he : name = a
      · subst he
        rw [none_below hl.1, none_below hk.1]
      · simpa [he] using hn

end NameMap

end Keyguard
