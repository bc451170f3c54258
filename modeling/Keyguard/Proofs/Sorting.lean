/-!
# Stable sorting

Merge sort is stable: elements that may stand in either order keep the order that they had. Said of
elements that are all alike, they are found in the sorted list as they were in the list
(`filter_mergeSort`); said of two elements, a relation that the list respects is respected by the
sorted list wherever the order leaves it open (`pairwise_mergeSort_stable`).
-/

namespace Keyguard

variable {α : Type} {le : α → α → Bool}

/-- Elements that may stand in any order keep theirs. -/
theorem filter_mergeSort (trans : ∀ a b c, le a b → le b c → le a c)
    (total : ∀ a b, le a b || le b a) {p : α → Bool} (alike : ∀ a b, p a → p b → le a b)
    (l : List α) : (l.mergeSort le).filter p = l.filter p := by
  have sorted : (l.filter p).Pairwise fun a b => le a b = true :=
    List.pairwise_iff_forall_sublist.mpr fun {a b} within =>
      have of_mem {x : α} (h : x ∈ [a, b]) : p x = true :=
        (List.mem_filter.mp (within.mem h)).2
      alike a b (of_mem (by simp)) (of_mem (by simp))
  have kept : (l.filter p).Sublist (l.mergeSort le) :=
    List.sublist_mergeSort trans total sorted List.filter_sublist
  have among : (l.filter p).Sublist ((l.mergeSort le).filter p) := by
    simpa only [List.filter_filter, Bool.and_self] using kept.filter p
  exact (among.eq_of_length ((List.mergeSort_perm l le).filter p).length_eq.symm).symm

/-- Where the order leaves it open which of two comes first, it is the one that came first. -/
theorem pairwise_mergeSort_stable (trans : ∀ a b c, le a b → le b c → le a c)
    (total : ∀ a b, le a b || le b a) {R : α → α → Prop} {l : List α} (respected : l.Pairwise R) :
    (l.mergeSort le).Pairwise fun a b => le a b ∧ (le b a → R a b) := by
  have sorted := List.pairwise_mergeSort trans total l
  rw [List.pairwise_iff_forall_sublist] at sorted respected ⊢
  intro a b first
  refine ⟨sorted first, fun back => respected ?_⟩
  have forth := sorted first
  have alike (x y : α) (hx : (le a x && le x a) = true) (hy : (le a y && le y a) = true) :
      le x y = true := by
    rw [Bool.and_eq_true] at hx hy
    exact trans x a y hx.2 hy.1
  have itself : le a a = true := by simpa using total a a
  have both : [a, b].Sublist ((l.mergeSort le).filter fun x => le a x && le x a) := by
    have := first.filter fun x => le a x && le x a
    simpa [itself, forth, back] using this
  rw [filter_mergeSort trans total alike] at both
  exact both.trans List.filter_sublist

end Keyguard
