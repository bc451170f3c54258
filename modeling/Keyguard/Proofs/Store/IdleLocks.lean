import Mathlib.Data.Set.Card
import Keyguard.Store.LockRegistry

/-!
# Idle locks

A program of nested steps goes through the registry of locks in small events (`LockStep.traceAll`):
a lock is taken or given back, a user is forgotten, a step ends. Where a user is forgotten, the
trace notes the locks of the steps around. Running the program plays its trace
(`LockStep.runAll_eq_play`), so the points of a run are the beginnings of its trace.

* What the trace notes there is what the registry has as held (`LockStep.marked_traceAll`), since
  every step gives back what it took.
* A lock that is held is registered, so no lock is dropped inside a step that holds it
  (`LockStep.hold_keeps_locks`). A step that takes all locks of a user keeps each of them
  (`LockStep.hold_allOf_keeps_user`).
* So a lock is registered exactly while it is **kept** (`LockEvent.Kept`): it was taken, and since
  it was last taken its user was forgotten only under steps that hold it
  (`LockEvent.mem_registered_play`).
-/

namespace Keyguard

/-- What happens to the registry. The end of a step does nothing to it. -/
inductive LockEvent where
  | take (l : Lock)
  | giveBack (l : Lock)
  | forget (user : UserId) (under : List Lock)
  | stepEnd

namespace LockStep

mutual

/-- The events of a step that is taken under some locks. -/
def trace (under : List Lock) : LockStep → List LockEvent
  | .hold locks inner =>
    locks.map .take ++ (traceAll (locks ++ under) inner ++ (locks.map .giveBack ++ [.stepEnd]))
  | .forget user => [.forget user under, .stepEnd]

/-- The events of some steps that are taken under some locks. -/
def traceAll (under : List Lock) : List LockStep → List LockEvent
  | [] => []
  | s :: ss => trace under s ++ traceAll under ss

end

end LockStep

/-! ### Playing a trace -/

namespace LockRegistry

variable (r : LockRegistry)

/-- The registry after an event. -/
def after : LockEvent → LockRegistry
  | .take l => r.acquire l
  | .giveBack l => r.release l
  | .forget user _ => r.forgetUser user
  | .stepEnd => r

/-- The registry after some events. -/
def play (es : List LockEvent) : LockRegistry := es.foldl after r

/-- The sizes of the registry where steps end. -/
def sizesAtEnds : LockRegistry → List LockEvent → List Nat
  | _, [] => []
  | r, .stepEnd :: es => r.size :: r.sizesAtEnds es
  | r, e :: es => (r.after e).sizesAtEnds es

@[simp]
theorem play_append (es es' : List LockEvent) : r.play (es ++ es') = (r.play es).play es' :=
  List.foldl_append

theorem play_take (locks : List Lock) : r.play (locks.map .take) = r.acquireAll locks :=
  List.foldl_map

theorem play_giveBack (locks : List Lock) : r.play (locks.map .giveBack) = r.releaseAll locks :=
  List.foldl_map

theorem sizesAtEnds_append (es es' : List LockEvent) :
    r.sizesAtEnds (es ++ es') = r.sizesAtEnds es ++ (r.play es).sizesAtEnds es' := by
  induction es generalizing r with
  | nil => rfl
  | cons e es ih => cases e <;> simp [sizesAtEnds, ih] <;> rfl

theorem sizesAtEnds_map {f : Lock → LockEvent} (silent : ∀ l, f l ≠ .stepEnd)
    (locks : List Lock) : r.sizesAtEnds (locks.map f) = [] := by
  induction locks generalizing r with
  | nil => rfl
  | cons l locks ih =>
    rw [List.map_cons, sizesAtEnds, ih]
    exact silent l

end LockRegistry

namespace LockStep

open LockRegistry

mutual

/-- A step plays its trace, and reports the size of the registry where a step ends. -/
theorem run_eq_play : ∀ (s : LockStep) (r : LockRegistry) (under : List Lock),
    s.run r = (r.play (s.trace under), r.sizesAtEnds (s.trace under))
  | .hold locks inner, r, under => by
    simp only [run, runAll_eq_play inner _ (locks ++ under), trace, play_append, play_take,
      play_giveBack, sizesAtEnds_append, sizesAtEnds_map, ne_eq, reduceCtorEq, not_false_eq_true,
      implies_true, List.nil_append]
    rfl
  | .forget user, r, under => rfl

theorem runAll_eq_play : ∀ (ss : List LockStep) (r : LockRegistry) (under : List Lock),
    runAll r ss = (r.play (traceAll under ss), r.sizesAtEnds (traceAll under ss))
  | [], r, under => rfl
  | s :: ss, r, under => by
    simp only [runAll, run_eq_play s r under, runAll_eq_play ss _ under, traceAll, play_append,
      sizesAtEnds_append]

end

end LockStep

/-! ### What is noted where a user is forgotten -/

namespace LockRegistry

variable (r : LockRegistry)

/-- Whether the locks that an event notes are those that are held. -/
def MarkedAt : LockEvent → Prop
  | .forget _ under => under.Perm r.held
  | _ => True

/-- Whether every event of a trace notes the locks that are held when it happens. -/
def Marked : LockRegistry → List LockEvent → Prop
  | _, [] => True
  | r, e :: es => r.MarkedAt e ∧ (r.after e).Marked es

theorem marked_append (es es' : List LockEvent) :
    r.Marked (es ++ es') ↔ r.Marked es ∧ (r.play es).Marked es' := by
  induction es generalizing r with
  | nil => simp [Marked, play]
  | cons e es ih =>
    rw [List.cons_append, Marked, Marked, ih, and_assoc]
    rfl

theorem marked_map (f : Lock → LockEvent) (unmarked : ∀ r l, MarkedAt r (f l))
    (locks : List Lock) : r.Marked (locks.map f) := by
  induction locks generalizing r with
  | nil => trivial
  | cons l locks ih => exact ⟨unmarked r l, ih _⟩

theorem held_acquireAll (locks : List Lock) :
    (r.acquireAll locks).held.Perm (locks ++ r.held) := by
  induction locks generalizing r with
  | nil => exact .refl _
  | cons l locks ih => exact (ih (r.acquire l)).trans List.perm_middle

/-- What was taken on top of other locks is given back, and the others stay held. -/
theorem held_releaseAll {locks others : List Lock} (h : r.held.Perm (locks ++ others)) :
    (r.releaseAll locks).held.Perm others := by
  induction locks generalizing r with
  | nil => exact h
  | cons l locks ih =>
    refine ih (r.release l) ?_
    have first := h.erase l
    rwa [List.cons_append, List.erase_cons_head] at first

end LockRegistry

namespace LockStep

open LockRegistry

mutual

/-- The trace of a step that is taken under the locks that are held notes what is held, and in the
end the same locks are held as before. -/
theorem marked_trace : ∀ (s : LockStep) (r : LockRegistry) (under : List Lock),
    r.held.Perm under → r.Marked (s.trace under) ∧ (r.play (s.trace under)).held.Perm under
  | .hold locks inner, r, under, held => by
    have taken : (r.acquireAll locks).held.Perm (locks ++ under) :=
      (r.held_acquireAll locks).trans (held.append_left locks)
    obtain ⟨noted, kept⟩ := marked_traceAll inner _ _ taken
    have returned := held_releaseAll _ kept
    rw [← play_giveBack] at returned
    simp only [trace, marked_append, play_append, play_take]
    exact ⟨⟨marked_map r .take (fun _ _ => trivial) locks, noted,
      marked_map _ .giveBack (fun _ _ => trivial) locks, trivial, trivial⟩, returned⟩
  | .forget user, r, under, held => ⟨⟨held.symm, trivial, trivial⟩, held⟩

theorem marked_traceAll : ∀ (ss : List LockStep) (r : LockRegistry) (under : List Lock),
    r.held.Perm under → r.Marked (traceAll under ss) ∧ (r.play (traceAll under ss)).held.Perm under
  | [], r, under, held => ⟨trivial, held⟩
  | s :: ss, r, under, held => by
    obtain ⟨first, kept⟩ := marked_trace s r under held
    obtain ⟨rest, left⟩ := marked_traceAll ss _ under kept
    rw [traceAll, marked_append, play_append]
    exact ⟨⟨first, rest⟩, left⟩

end

end LockStep

/-! ### Locks that a step holds -/

namespace LockRegistry

/-- If all locks that are held are registered, they are so after any events. -/
theorem registered_of_held_play {r : LockRegistry} (known : ∀ l ∈ r.held, l ∈ r.registered)
    (es : List LockEvent) : ∀ l ∈ (r.play es).held, l ∈ (r.play es).registered := by
  induction es generalizing r with
  | nil => exact known
  | cons e es ih =>
    refine ih fun l held => ?_
    cases e with
    | take k =>
      refine mem_registered_acquire.mpr ?_
      rcases List.mem_cons.mp held with rfl | before
      · exact .inr rfl
      · exact .inl (known l before)
    | giveBack k => exact known l (List.mem_of_mem_erase held)
    | forget user under => exact List.mem_filter.mpr ⟨known l held, decide_eq_true (.inr held)⟩
    | stepEnd => exact known l held

end LockRegistry

namespace LockStep

open LockRegistry

mutual

/-- Where a user is forgotten inside a step, the locks around the step are noted. -/
theorem subset_of_mem_trace {user : UserId} {noted : List Lock} :
    ∀ (s : LockStep) (under : List Lock), .forget user noted ∈ s.trace under → under ⊆ noted
  | .hold locks inner, under, h => by
    have inside : .forget user noted ∈ traceAll (locks ++ under) inner := by
      simpa [trace] using h
    exact List.Subset.trans (List.subset_append_right locks under)
      (subset_of_mem_traceAll inner _ inside)
  | .forget user', under, h => by
    obtain ⟨-, rfl⟩ : user = user' ∧ noted = under := by simpa [trace] using h
    exact List.Subset.refl _

theorem subset_of_mem_traceAll {user : UserId} {noted : List Lock} :
    ∀ (ss : List LockStep) (under : List Lock),
      .forget user noted ∈ traceAll under ss → under ⊆ noted
  | [], under, h => absurd h List.not_mem_nil
  | s :: ss, under, h => by
    rcases List.mem_append.mp h with first | rest
    · exact subset_of_mem_trace s under first
    · exact subset_of_mem_traceAll ss under rest

end

variable {r : LockRegistry} {under locks noted : List Lock} {inner : List LockStep}
  {past : List LockEvent} {user : UserId} {l : Lock}

/-- **No lock is dropped inside a step that holds it**, whoever is forgotten there. -/
theorem hold_keeps_locks (held : r.held.Perm under) (known : ∀ l ∈ r.held, l ∈ r.registered)
    (passes : past ++ [.forget user noted] <+: (hold locks inner).trace under) (own : l ∈ locks) :
    l ∈ (r.play (past ++ [.forget user noted])).registered := by
  obtain ⟨rest, whole⟩ := passes
  have marked := (marked_trace (hold locks inner) r under held).1
  rw [← whole, marked_append, marked_append] at marked
  have around : noted.Perm (r.play past).held := marked.1.2.1
  have inside : .forget user noted ∈ traceAll (locks ++ under) inner := by
    have mem : .forget user noted ∈ (hold locks inner).trace under := by simp [← whole]
    simpa [trace] using mem
  have holds : l ∈ (r.play past).held :=
    around.subset (subset_of_mem_traceAll inner _ inside (List.mem_append_left under own))
  rw [play_append]
  exact List.mem_filter.mpr
    ⟨registered_of_held_play known past l holds, decide_eq_true (.inr holds)⟩

/-- A step that takes the locks of a whole user keeps every lock of that user, whoever is forgotten
inside it. -/
theorem hold_allOf_keeps_user {u : UserId} (held : r.held.Perm under)
    (known : ∀ l ∈ r.held, l ∈ r.registered)
    (passes : past ++ [.forget user noted] <+: (hold (Lock.allOf u) inner).trace under)
    (own : l.user = u) : l ∈ (r.play (past ++ [.forget user noted])).registered :=
  hold_keeps_locks held known passes (Lock.mem_allOf.mpr own)

end LockStep

/-! ### Locks that are kept -/

namespace LockEvent

/-- Whether a lock is kept after some events: it was taken, and since it was last taken its user
was forgotten only under steps that hold it. -/
def Kept (l : Lock) (past : List LockEvent) : Prop :=
  ∃ before since, past = before ++ .take l :: since ∧ .take l ∉ since ∧
    ∀ under, .forget l.user under ∈ since → l ∈ under

variable {l : Lock} {past : List LockEvent}

theorem not_kept_nil : ¬Kept l [] := by
  rintro ⟨before, since, nothing, -⟩
  simp at nothing

theorem kept_take : Kept l (past ++ [.take l]) :=
  ⟨past, [], rfl, List.not_mem_nil, nofun⟩

/-- An event that does not take a lock leaves it kept, unless the lock's user is forgotten while
the lock is not held. -/
theorem kept_concat_of_ne {e : LockEvent} (other : e ≠ .take l) :
    Kept l (past ++ [e]) ↔ Kept l past ∧ ∀ under, e = .forget l.user under → l ∈ under := by
  constructor
  · rintro ⟨before, since, whole, last, held⟩
    rcases List.eq_nil_or_concat' since with rfl | ⟨since, e', rfl⟩
    · exact absurd (List.append_inj_right' whole rfl) (by simpa using other)
    · rw [← List.cons_append, ← List.append_assoc] at whole
      obtain ⟨rfl, same⟩ := List.append_inj' whole rfl
      obtain rfl : e = e' := List.singleton_inj.mp same
      refine ⟨⟨before, since, rfl, fun h => last (List.mem_append_left _ h), fun under h => ?_⟩,
        fun under same => held under ?_⟩
      · exact held under (List.mem_append_left _ h)
      · rw [same]
        exact List.mem_append_right _ List.mem_cons_self
  · rintro ⟨⟨before, since, rfl, last, held⟩, spared⟩
    refine ⟨before, since ++ [e], by simp, ?_, fun under h => ?_⟩
    · rw [List.mem_append, List.mem_singleton]
      exact fun h => h.elim last fun same => other same.symm
    · rcases List.mem_append.mp h with h | h
      · exact held under h
      · exact spared under (List.mem_singleton.mp h).symm

open LockRegistry

theorem nodup_after {r : LockRegistry} (distinct : r.registered.Nodup) (e : LockEvent) :
    (r.after e).registered.Nodup := by
  cases e with
  | take l =>
    rw [LockRegistry.after, acquire]
    split
    · exact distinct
    · rename_i new
      exact List.Nodup.append distinct (List.nodup_singleton l)
        (List.disjoint_singleton.mpr new)
  | giveBack l => exact distinct
  | forget user under => exact distinct.filter _
  | stepEnd => exact distinct

theorem nodup_play (past : List LockEvent) : (empty.play past).registered.Nodup := by
  induction past using List.reverseRecOn with
  | nil => exact List.nodup_nil
  | append_singleton past e ih =>
    rw [play_append]
    exact nodup_after ih e

/-- **Registered and kept** are the same after a trace that notes what is held. The induction is
on the events, the last one first. -/
theorem mem_registered_play (noted : empty.Marked past) :
    l ∈ (empty.play past).registered ↔ Kept l past := by
  induction past using List.reverseRecOn with
  | nil => exact iff_of_false List.not_mem_nil not_kept_nil
  | append_singleton past e ih =>
    obtain ⟨before, now, -⟩ := (marked_append _ _ _).mp noted
    specialize ih before
    rw [play_append]
    cases e with
    | take k =>
      refine mem_registered_acquire.trans ?_
      by_cases same : l = k
      · subst same
        exact iff_of_true (.inr rfl) kept_take
      · rw [kept_concat_of_ne (by simpa using Ne.symm same), ih]
        simp [same]
    | giveBack k =>
      rw [kept_concat_of_ne (by simp), ← ih]
      simp [play, LockRegistry.after, release]
    | forget user under =>
      have held : l ∈ under ↔ l ∈ (empty.play past).held := now.mem_iff
      rw [kept_concat_of_ne (by simp), ← ih]
      simp only [play, List.foldl_cons, List.foldl_nil, LockRegistry.after, forgetUser,
        List.mem_filter, decide_eq_true_eq, forget.injEq] at held ⊢
      rw [← held]
      refine and_congr_right fun _ => ⟨?_, fun spared => ?_⟩
      · rintro (foreign | inside) _ ⟨rfl, rfl⟩
        · exact absurd rfl foreign
        · exact inside
      · by_cases own : l.user = user
        · exact .inr (spared under ⟨own.symm, rfl⟩)
        · exact .inl own
    | stepEnd =>
      rw [kept_concat_of_ne (by simp), ← ih]
      simp [play, LockRegistry.after]

end LockEvent

/-! ### Dropping idle locks -/

namespace LockStep

open LockRegistry LockEvent

/-- **Exactly the idle locks are dropped.** A program of nested steps plays its trace. At every
point of it the registered locks are those that were taken and whose user was since then forgotten
only under steps that hold them, and the size of the registry is their number. So to forget a user
drops no lock that an enclosing step holds and no lock of another user, and if no enclosing step
holds a lock of the user, none of them stays. It does not matter whether a step takes a lock that
a step around it holds. -/
theorem registry_drops_exactly_idle_locks (program : List LockStep) :
    let trace := traceAll [] program
    runAll .empty program = (play .empty trace, sizesAtEnds .empty trace) ∧
    ∀ past, past <+: trace →
      let r := play .empty past
      (∀ l, l ∈ r.registered ↔ Kept l past) ∧
      r.size = {l | Kept l past}.ncard ∧
      ∀ u under, past ++ [.forget u under] <+: trace →
        let left := play .empty (past ++ [.forget u under])
        (∀ l ∈ r.registered, l.user ≠ u ∨ l ∈ under → l ∈ left.registered) ∧
        ((∀ l ∈ under, l.user ≠ u) → ∀ l ∈ left.registered, l.user ≠ u) := by
  intro trace
  have noted : Marked .empty trace := (marked_traceAll program .empty [] (.refl _)).1
  have kept {past : List LockEvent} (passed : past <+: trace) (l : Lock) :
      l ∈ (play .empty past).registered ↔ Kept l past := by
    obtain ⟨rest, whole⟩ := passed
    rw [← whole, marked_append] at noted
    exact mem_registered_play noted.1
  refine ⟨runAll_eq_play program _ _, fun past passed => ⟨kept passed, ?size, ?forgotten⟩⟩
  case size =>
    have same : {l | Kept l past} = ((play .empty past).registered.toFinset : Set Lock) := by
      ext l
      simp [kept passed l]
    rw [same, Set.ncard_coe_finset, List.toFinset_card_of_nodup (nodup_play past), size]
  case forgotten =>
    intro u under passes
    have spared (l : Lock) := (kept passes l).trans (kept_concat_of_ne (by simp))
    refine ⟨fun l registered safe => ?_, fun idle l stays own => ?_⟩
    · refine (spared l).mpr ⟨(kept passed l).mp registered, ?_⟩
      rintro _ ⟨⟩
      exact safe.resolve_left fun foreign => foreign rfl
    · have inside := ((spared l).mp stays).2 under (by rw [own])
      exact idle l inside own

/-- A user is forgotten under the lock of the gesture: it stays, and the lock of the pattern, which
was given back before, is dropped. -/
theorem forgetting_drops_idle_pattern :
    let u : UserId := ⟨1⟩
    let pattern : Lock := ⟨u, .credential .pattern⟩
    let gesture : Lock := ⟨u, .gesture⟩
    let past : List LockEvent := [.take pattern, .giveBack pattern, .stepEnd, .take gesture]
    past ++ [.forget u [gesture]] <+:
        traceAll [] [.hold [pattern] [], .hold [gesture] [.forget u]] ∧
      gesture ∈ (play .empty (past ++ [.forget u [gesture]])).registered ∧
      {l | Kept l (past ++ [.forget u [gesture]])}.ncard = 1 := by
  intro u pattern gesture past
  obtain ⟨-, points⟩ := registry_drops_exactly_idle_locks
    [.hold [pattern] [], .hold [gesture] [.forget u]]
  have passes : past ++ [.forget u [gesture]] <+:
      traceAll [] [.hold [pattern] [], .hold [gesture] [.forget u]] :=
    ⟨[.stepEnd, .giveBack gesture, .stepEnd], rfl⟩
  obtain ⟨-, -, forgotten⟩ := points past ((List.prefix_append _ _).trans passes)
  obtain ⟨-, size, -⟩ := points _ passes
  have registered : gesture ∈ (play .empty past).registered := by decide
  exact ⟨passes, (forgotten u [gesture] passes).1 gesture registered (.inr List.mem_cons_self),
    size.symm⟩

end LockStep

end Keyguard
