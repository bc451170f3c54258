import Keyguard.Credential.GestureFiles
import Keyguard.Proofs.Decimal.Order
import Keyguard.Proofs.Gesture.RoundTrip
import Keyguard.Proofs.Sorting
import Keyguard.Proofs.Text.ByteOrder

/-!
# Which samples unlock

The ranking of a sample is determined by the scores of the names: each name of the library is
listed once, and of two names the one with the better score comes first, or the lesser one where
the scores are the same (`Prediction.Precedes`). So which name comes first can be said without the
ranking: it is the one that no other precedes (`head?_eq_some_iff_of_ranked`).

The score of a name is the greatest of its templates' scores (`Gesture.isBest_iff`). It is
found by comparing the scores as numbers, yet the greatest is meant in the order of `scoreKey`; the
two agree since the search starts at 0, and above 0 they are the same order.

Together this says when a sample unlocks in terms of the library alone
(`GestureFiles.unlocks_iff_lock_gesture_is_best`).
-/

namespace Keyguard

/-! ### The greatest score -/

/-- Whether a score is the greatest of some scores in the order of their places. It is at least 0,
and scores that are no number do not count. -/
def IsBest (scores : List Float) (best : Float) : Prop :=
  best ∈ 0 :: scores.filter (!·.isNaN) ∧
    ∀ s ∈ 0 :: scores.filter (!·.isNaN), scoreKey s ≤ scoreKey best

/-- From a number that is not negative, the search for the greatest score ends with one that is
as great as this number and all that were searched. -/
theorem foldl_best {best : Float} (number : best.isNaN = false) (positive : 0 ≤ scoreKey best)
    (scores : List Float) :
    scores.foldl (fun best s => if best < s then s else best) best ∈
        best :: scores.filter (!·.isNaN) ∧
      ∀ s ∈ best :: scores.filter (!·.isNaN), scoreKey s ≤
        scoreKey (scores.foldl (fun best s => if best < s then s else best) best) := by
  induction scores generalizing best with
  | nil => simp
  | cons s scores ih =>
    rw [List.foldl_cons]
    by_cases less : best < s
    · -- a greater score is a number, and its place is further up
      have number' : s.isNaN = false := isNaN_of_lt less
      have above : scoreKey best < scoreKey s := ((lt_iff_scoreKey number number').mp less).1
      obtain ⟨found, greatest⟩ := ih number' (by omega)
      rw [if_pos less, List.filter_cons_of_pos (by rw [number']; rfl)]
      refine ⟨List.mem_cons_of_mem _ found, ?_⟩
      rw [List.forall_mem_cons]
      refine ⟨?_, greatest⟩
      have := greatest s List.mem_cons_self
      omega
    · obtain ⟨found, greatest⟩ := ih number positive
      have start := greatest best List.mem_cons_self
      rw [if_neg less]
      by_cases nan : s.isNaN = true
      · rw [List.filter_cons_of_neg (by rw [nan]; decide)]
        exact ⟨found, greatest⟩
      · have number' : s.isNaN = false := by rwa [Bool.not_eq_true] at nan
        have below : scoreKey s ≤ scoreKey best := by
          have := mt (lt_iff_scoreKey number number').mpr less
          omega
        rw [List.filter_cons_of_pos (by rw [number']; rfl)]
        rw [List.forall_mem_cons] at greatest
        refine ⟨?_, ?_⟩
        · exact List.mem_cons.mpr ((List.mem_cons.mp found).imp id (List.mem_cons_of_mem _))
        · rw [List.forall_mem_cons, List.forall_mem_cons]
          exact ⟨start, by omega, greatest.2⟩

/-- The score of some templates is the greatest of their scores, and at least 0. There is only one
such score, since different doubles have different places. -/
theorem Gesture.isBest_iff (sample : Gesture) (templates : List Gesture) (best : Float) :
    IsBest (templates.map sample.score) best ↔ best = sample.bestScore templates := by
  have found : IsBest (templates.map sample.score) (sample.bestScore templates) :=
    foldl_best (by decide +kernel) (by decide +kernel) _
  constructor
  · rintro ⟨mem, greatest⟩
    exact scoreKey_injective (Int.le_antisymm (found.2 best mem) (greatest _ found.1))
  · rintro rfl
    exact found

/-! ### The order of the predictions -/

/-- Whether a prediction is ranked in front of another: its score is better, or its name is the
lesser one of the same score. -/
def Prediction.Precedes (p q : Prediction) : Prop :=
  scoreKey q.score < scoreKey p.score ∨
    scoreKey q.score = scoreKey p.score ∧ Text.bytes p.name < Text.bytes q.name

theorem Prediction.Precedes.asymm {p q : Prediction} (h : p.Precedes q) : ¬q.Precedes p := by
  intro back
  rcases h with better | ⟨same, lesser⟩ <;> rcases back with better' | ⟨same', lesser'⟩
  · omega
  · omega
  · omega
  · exact List.lt_asymm lesser lesser'

/-- The first of a ranking is the one that no other precedes. -/
theorem head?_eq_some_iff_of_ranked {ranking : List Prediction} {p : Prediction}
    (ranked : ranking.Pairwise Prediction.Precedes) :
    ranking.head? = some p ↔ p ∈ ranking ∧ ∀ q ∈ ranking, ¬q.Precedes p := by
  cases ranked with
  | nil => simp
  | @cons top rest first ranked =>
    rw [List.head?_cons, Option.some.injEq]
    constructor
    · rintro rfl
      refine ⟨List.mem_cons_self, ?_⟩
      intro q hq back
      rcases List.mem_cons.mp hq with rfl | later
      · exact back.asymm back
      · exact (first q later).asymm back
    · rintro ⟨mem, unpreceded⟩
      rcases List.mem_cons.mp mem with rfl | later
      · rfl
      · exact absurd (first p later) (unpreceded top List.mem_cons_self)

/-- Sorting a list of predictions by their scores ranks them, if their names are ascending. -/
theorem pairwise_sortPredictions {ps : List Prediction}
    (ascending : ps.Pairwise (·.name < ·.name)) :
    (sortPredictions ps).Pairwise Prediction.Precedes := by
  refine (pairwise_mergeSort_stable (fun p q r => ?_) (fun p q => ?_) ascending).imp ?_
  · simp only [decide_eq_true_eq]
    omega
  · simp only [Bool.or_eq_true, decide_eq_true_eq]
    omega
  · intro p q
    simp only [decide_eq_true_eq, Prediction.Precedes, Text.bytes_lt_bytes_iff]
    rintro ⟨le, lesser⟩
    by_cases better : scoreKey q.score < scoreKey p.score
    · exact .inl better
    · exact .inr ⟨by omega, lesser (by omega)⟩

variable {sample : Gesture} {l : GestureLibrary}

/-- The ranking lists the names of the library with their scores. -/
theorem mem_rankByDistance {p : Prediction} :
    p ∈ rankByDistance sample l ↔
      ∃ templates, l.templates? p.name = some templates ∧ p.score = sample.bestScore templates := by
  obtain ⟨name, score⟩ := p
  simp only [rankByDistance, sortPredictions, List.mem_mergeSort, List.mem_map, Prod.exists,
    Prediction.mk.injEq, GestureLibrary.templates?, NameMap.get?_eq_some_iff]
  constructor
  · rintro ⟨_, templates, mem, rfl, rfl⟩
    exact ⟨templates, mem, rfl⟩
  · rintro ⟨templates, mem, rfl⟩
    exact ⟨name, templates, mem, rfl, rfl⟩

theorem pairwise_rankByDistance : (rankByDistance sample l).Pairwise Prediction.Precedes :=
  pairwise_sortPredictions (List.pairwise_map.mpr l.entries.sorted)

/-- No name is ranked twice. -/
theorem nodup_rankByDistance : ((rankByDistance sample l).map Prediction.name).Nodup := by
  have names : l.entries.entries.Pairwise fun e e' => e.1 ≠ e'.1 :=
    l.entries.sorted.imp fun less => String.ne_of_lt less
  refine (((List.mergeSort_perm _ _).map Prediction.name).nodup_iff).mpr ?_
  rw [List.map_map]
  exact List.pairwise_map.mpr names

/-! ### Unlocking -/

/-- A ranking unlocks if its first name is the lock gesture's and the score is above the
threshold. -/
theorem unlocks_iff {threshold : Float} {ranking : List Prediction} :
    unlocks threshold ranking = true ↔
      ∃ score, ranking.head? = some ⟨lockGestureName, score⟩ ∧ threshold < score := by
  cases ranking with
  | nil => simp [unlocks]
  | cons top rest =>
    obtain ⟨name, score⟩ := top
    simp only [unlocks, Bool.and_eq_true, decide_eq_true_eq, beq_iff_eq, List.head?_cons,
      Option.some.injEq, Prediction.mk.injEq]
    constructor
    · rintro ⟨above, rfl⟩
      exact ⟨score, ⟨rfl, rfl⟩, above⟩
    · rintro ⟨_, ⟨rfl, rfl⟩, above⟩
      exact ⟨above, rfl⟩

/-- A sample unlocks if no name precedes the lock gesture, by the scores of the names alone. -/
theorem unlocks_rankByDistance_iff {threshold : Float} :
    unlocks threshold (rankByDistance sample l) = true ↔
      ∃ templates, l.templates? lockGestureName = some templates ∧
        threshold < sample.bestScore templates ∧
        ∀ name others, l.templates? name = some others →
          scoreKey (sample.bestScore others) ≤ scoreKey (sample.bestScore templates) ∧
          (Text.bytes name < Text.bytes lockGestureName →
            scoreKey (sample.bestScore others) ≠ scoreKey (sample.bestScore templates)) := by
  simp only [unlocks_iff, head?_eq_some_iff_of_ranked pairwise_rankByDistance, mem_rankByDistance]
  constructor
  · rintro ⟨_, ⟨⟨templates, found, rfl⟩, unpreceded⟩, above⟩
    refine ⟨templates, found, above, ?_⟩
    intro name others listed
    obtain ⟨worse, differ⟩ := not_or.mp (unpreceded ⟨name, _⟩ ⟨others, listed, rfl⟩)
    exact ⟨Int.not_lt.mp worse, fun lesser same => differ ⟨same.symm, lesser⟩⟩
  · rintro ⟨templates, found, above, best⟩
    refine ⟨_, ⟨⟨templates, found, rfl⟩, ?_⟩, above⟩
    rintro ⟨name, _⟩ ⟨others, listed, rfl⟩ (better | ⟨same, lesser⟩)
    · exact Int.not_lt.mpr (best name others listed).1 better
    · exact (best name others listed).2 lesser same.symm

/-- **The ranking decides the unlock.** The score of a name is the greatest of its templates'
scores, at least 0. Each name of the library is ranked once, with its score; scores do not increase
along the ranking, and names of the same score are in ascending order of their bytes. So a sample
unlocks a file that is loaded as this library exactly if the lock gesture is in it, its score is
above the threshold, no name has a better score and no lesser name the same. Without a lock gesture
no sample unlocks. -/
theorem GestureFiles.unlocks_iff_lock_gesture_is_best (sample : Gesture) (l : GestureLibrary) :
    (∀ templates best, IsBest (templates.map sample.score) best ↔
      best = sample.bestScore templates) ∧
    (∀ p, p ∈ rankByDistance sample l ↔ ∃ templates,
      l.templates? p.name = some templates ∧ p.score = sample.bestScore templates) ∧
    ((rankByDistance sample l).map Prediction.name).Nodup ∧
    (rankByDistance sample l).Pairwise (fun p q => scoreKey q.score < scoreKey p.score ∨
      scoreKey q.score = scoreKey p.score ∧ Text.bytes p.name < Text.bytes q.name) ∧
    ∀ (g : GestureFiles) (u : UserId) (t : FileTree), GestureLibrary.load (g.path u) t = .ok l →
      ∃ unlocked, g.check rankByDistance sample u t = .ok unlocked ∧
        (unlocked = true ↔ ∃ templates, l.templates? lockGestureName = some templates ∧
          g.threshold < sample.bestScore templates ∧
          ∀ name others, l.templates? name = some others →
            scoreKey (sample.bestScore others) ≤ scoreKey (sample.bestScore templates) ∧
            (Text.bytes name < Text.bytes lockGestureName →
              scoreKey (sample.bestScore others) ≠ scoreKey (sample.bestScore templates))) ∧
        (l.templates? lockGestureName = none → unlocked = false) := by
  refine ⟨sample.isBest_iff, fun _ => mem_rankByDistance, nodup_rankByDistance,
    pairwise_rankByDistance, ?_⟩
  intro g u t loaded
  refine ⟨_, by rw [check, loaded]; rfl, unlocks_rankByDistance_iff, ?_⟩
  intro absent
  rw [← Bool.not_eq_true, unlocks_rankByDistance_iff]
  rintro ⟨templates, found, -⟩
  exact absurd (absent.symm.trans found) (by simp)

/-- The lock gesture shares the best score with a name that comes after it, beside a name without
templates that comes before it, and unlocks. -/
theorem GestureFiles.tie_unlocks_lesser_name :
    let g : GestureFiles := ⟨⟨⟨"data"⟩⟩, 2⟩
    let sample : Gesture := ⟨[⟨[⟨1, -0.0, 3⟩, ⟨4, 4, 5⟩]⟩]⟩
    let other : Gesture := ⟨[⟨[⟨7, 8, 0⟩]⟩]⟩
    let l : GestureLibrary :=
      ⟨.ofList [("a", []), (lockGestureName, [other, sample]), ("zigzag", [sample])]⟩
    let t := FileTree.empty.put (g.path ⟨1⟩).names (.file l.bytes)
    GestureLibrary.load (g.path ⟨1⟩) t = .ok l ∧
      g.check rankByDistance sample ⟨1⟩ t = .ok true := by
  intro g sample other l t
  have codec : l.ReadsBack := by
    unfold GestureLibrary.ReadsBack
    decide +kernel
  have loaded : GestureLibrary.load (g.path ⟨1⟩) t = .ok l :=
    GestureLibrary.load_put (by decide +kernel) codec (by decide +kernel) (by decide +kernel)
  obtain ⟨unlocked, checked, decision, -⟩ :=
    (GestureFiles.unlocks_iff_lock_gesture_is_best sample l).2.2.2.2 g ⟨1⟩ t loaded
  refine ⟨loaded, ?_⟩
  rw [checked, decision.mpr]
  refine ⟨[other, sample], ?_, ?_, ?_⟩
  · simp [l, GestureLibrary.templates?, NameMap.ofList, NameMap.get?_insert, lockGestureName]
  · decide +kernel
  · intro name others listed
    have best : ∀ e ∈ l.entries.entries,
        scoreKey (sample.bestScore e.2) ≤ scoreKey (sample.bestScore [other, sample]) ∧
          (Text.bytes e.1 < Text.bytes lockGestureName →
            scoreKey (sample.bestScore e.2) ≠ scoreKey (sample.bestScore [other, sample])) := by
      decide +kernel
    rw [GestureLibrary.templates?, NameMap.get?_eq_some_iff] at listed
    exact best (name, others) listed

end Keyguard
