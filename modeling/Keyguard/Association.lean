/-!
# Looking up in a list of pairs

`List.lookup` takes the first pair of a key. The lemmas say what it gives after a pair is added in
front, after the pairs of a key are dropped and after the pairs of some keys are kept.
-/

namespace Keyguard

variable {κ α : Type} [BEq κ] [LawfulBEq κ] [DecidableEq κ]

theorem lookup_cons_eq (k k' : κ) (v : α) (l : List (κ × α)) :
    ((k', v) :: l).lookup k = if k = k' then some v else l.lookup k := by
  rw [List.lookup_cons]
  by_cases h : k = k'
  · simp [h]
  · rw [if_neg h, beq_eq_false_iff_ne.2 h]

theorem lookup_filter_ne (k k' : κ) (l : List (κ × α)) :
    (l.filter (·.1 ≠ k')).lookup k = if k = k' then none else l.lookup k := by
  induction l with
  | nil => simp
  | cons e l ih =>
    obtain ⟨n, v⟩ := e
    rw [List.filter_cons]
    by_cases hn : n = k'
    · subst hn
      simp only [ne_eq, not_true_eq_false, decide_false, Bool.false_eq_true, if_false, ih,
        lookup_cons_eq]
      split <;> simp_all
    · simp only [ne_eq, hn, not_false_eq_true, decide_true, if_true, lookup_cons_eq, ih]
      by_cases h : k = k'
      · subst h; simp [Ne.symm hn]
      · simp [h]

/-- Pairs of other keys do not matter for looking up a key. -/
theorem lookup_filter_of_pos {p : κ → Bool} {k : κ} (kept : p k = true) (l : List (κ × α)) :
    (l.filter fun e => p e.1).lookup k = l.lookup k := by
  induction l with
  | nil => rfl
  | cons e l ih =>
    obtain ⟨k', v⟩ := e
    rw [List.filter_cons, lookup_cons_eq]
    by_cases same : k = k'
    · rw [if_pos same, if_pos (same ▸ kept), lookup_cons_eq, if_pos same]
    · rw [if_neg same, ← ih]
      split
      · rw [lookup_cons_eq, if_neg same]
      · rfl

end Keyguard
