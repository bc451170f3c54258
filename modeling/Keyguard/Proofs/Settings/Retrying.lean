import Keyguard.Settings.Transaction

/-!
# Runs and reruns

An action is run again while it finds the database busy. So its **last run** is the first that
does not find it busy, or the last one that is allowed; how often it was run and what came of it
are the number and the result of that run (`Database.retrying_cases`, `Database.retrying_eq`).

The waits before the reruns never get shorter (`wait_le_wait_succ`), and they are bounded one by
one and in all (`Database.waited_retrying_le`): a busy database delays a call by at most five
seconds.

A transaction is described by what each of its runs would make of the database that it started
with. The database engine works in another way: every change is made **in place**, in the database
that the change before left, and a run that fails is rolled back. Both come to the same
(`Database.retryInPlace_rollingBack`), since a run that was rolled back leaves nothing to the next.
Neither does a run that only looks at the database (`Database.retryInPlace_looking`).
-/

namespace Keyguard

/-! ### Waits -/

theorem wait_le_greatestWait (k : Nat) (random : UInt64) : wait k random ≤ greatestWait :=
  Nat.min_le_right _ _

/-- A wait is at least as long as the one before, whatever random numbers are drawn. -/
theorem wait_le_wait_succ (k : Nat) (random random' : UInt64) :
    wait k random ≤ wait (k + 1) random' := by
  rcases Nat.lt_or_ge k 6 with few | many
  · have doubled : baseWait <<< Nat.min (k + 1) 6 = 2 * baseWait <<< Nat.min k 6 := by
      have now : Nat.min k 6 = k := Nat.min_eq_left (Nat.le_of_lt few)
      have next : Nat.min (k + 1) 6 = k + 1 := Nat.min_eq_left few
      rw [now, next, Nat.shiftLeft_succ]
    have added : random.toNat % (baseWait <<< Nat.min k 6 / 4 + 1) ≤ baseWait <<< Nat.min k 6 / 4 :=
      Nat.le_of_lt_succ (Nat.mod_lt _ (Nat.succ_pos _))
    rw [wait, wait, doubled]
    refine Nat.le_min.mpr ⟨Nat.le_trans (Nat.min_le_left _ _) ?_, Nat.min_le_right _ _⟩
    omega
  · -- from the sixth doubling on the wait is the greatest
    have last : Nat.min (k + 1) 6 = 6 := Nat.min_eq_right (Nat.le_succ_of_le many)
    refine Nat.le_trans (wait_le_greatestWait k random) (Nat.le_min.mpr ⟨?_, Nat.le_refl _⟩)
    rw [last]
    exact Nat.le_add_right_of_le (by decide)

theorem waits_le (random : Nat → UInt64) (n : Nat) : waits random n ≤ n * greatestWait := by
  induction n with
  | zero => exact Nat.zero_le _
  | succ n ih =>
    rw [waits, Nat.succ_mul]
    exact Nat.add_le_add ih (wait_le_greatestWait _ _)

namespace Database

variable {α : Type}

/-! ### The last run -/

/-- Whether a run found the database busy. -/
def FoundBusy (r : Except StoreError α) : Prop := ∃ e, r = .error e ∧ e.isBusy

theorem not_foundBusy_ok (a : α) : ¬FoundBusy (.ok a : Except StoreError α) := nofun

theorem foundBusy_error {e : StoreError} :
    FoundBusy (.error e : Except StoreError α) ↔ e.isBusy = true :=
  ⟨fun ⟨_, same, busy⟩ => Except.error.inj same ▸ busy, fun busy => ⟨e, rfl, busy⟩⟩

/-- One more run takes place if this one finds the database busy. -/
theorem retryFrom_succ (run : Nat → Except StoreError α) (left k : Nat) :
    FoundBusy (run k) ∧ retryFrom run (left + 1) k = retryFrom run left (k + 1) ∨
      ¬FoundBusy (run k) ∧ retryFrom run (left + 1) k = ⟨k + 1, run k⟩ := by
  rw [retryFrom]
  rcases run k with e | a
  · rw [foundBusy_error]
    cases busy : e.isBusy with
    | true => exact .inl ⟨rfl, by simp [busy]⟩
    | false => exact .inr ⟨by simp, by simp [busy]⟩
  · exact .inr ⟨not_foundBusy_ok a, rfl⟩

/-- All runs but the last find the database busy, and the last one only if no more are allowed. -/
private theorem retryFrom_cases (run : Nat → Except StoreError α) (left k : Nat) :
    ∃ n ≤ left, (∀ i < n, FoundBusy (run (k + i))) ∧
      (n = left ∨ ¬FoundBusy (run (k + n))) ∧ retryFrom run left k = ⟨k + n + 1, run (k + n)⟩ := by
  induction left generalizing k with
  | zero => exact ⟨0, Nat.le_refl 0, nofun, .inl rfl, rfl⟩
  | succ left ih =>
    rcases retryFrom_succ run left k with ⟨busy, again⟩ | ⟨calm, ended⟩
    · obtain ⟨n, bound, before, last, result⟩ := ih (k + 1)
      have shift (i : Nat) : k + 1 + i = k + (i + 1) := by omega
      refine ⟨n + 1, Nat.succ_le_succ bound, fun i below => ?_, ?_, ?_⟩
      · cases i with
        | zero => exact busy
        | succ i => exact shift i ▸ before i (Nat.lt_of_succ_lt_succ below)
      · exact last.imp (congrArg (· + 1)) fun calm => shift n ▸ calm
      · rw [again, result, shift n]
    · exact ⟨0, Nat.zero_le _, nofun, .inr calm, ended⟩

/-- **The last run.** An action ends, and its result is that of its last run: all runs before that
found the database busy, and if it did so as well, no more were allowed. -/
theorem retrying_cases (run : Nat → Except StoreError α) :
    ∃ n ≤ greatestRetries, (∀ k < n, FoundBusy (run k)) ∧
      (n = greatestRetries ∨ ¬FoundBusy (run n)) ∧ retrying run = ⟨n + 1, run n⟩ := by
  simpa only [retrying, Nat.zero_add] using retryFrom_cases run greatestRetries 0

/-- There is only one run that can be the last. -/
theorem retrying_eq {run : Nat → Except StoreError α} {n : Nat} (bound : n ≤ greatestRetries)
    (before : ∀ k < n, FoundBusy (run k)) (last : n = greatestRetries ∨ ¬FoundBusy (run n)) :
    retrying run = ⟨n + 1, run n⟩ := by
  obtain ⟨m, bound', before', last', result⟩ := retrying_cases run
  suffices m = n by rw [result, this]
  rcases Nat.lt_trichotomy m n with less | same | more
  · rcases last' with most | calm
    · omega
    · exact absurd (before m less) calm
  · exact same
  · rcases last with most | calm
    · omega
    · exact absurd (before' n more) calm

/-- An action that comes to the same in every run comes to that. -/
theorem result_retrying (r : Except StoreError α) : (retrying fun _ => r).result = r := by
  obtain ⟨n, -, -, -, result⟩ := retrying_cases fun _ => r
  rw [result]

/-- **A busy database delays an action for a bounded time.** -/
theorem waited_retrying_le (run : Nat → Except StoreError α) (random : Nat → UInt64) :
    (retrying run).waited random ≤ greatestRetries * greatestWait := by
  obtain ⟨n, bound, -, -, result⟩ := retrying_cases run
  calc (retrying run).waited random = waits random n := by rw [result]; rfl
    _ ≤ n * greatestWait := waits_le random n
    _ ≤ greatestRetries * greatestWait := Nat.mul_le_mul_right _ bound

/-! ### Runs in place -/

/-- Runs an action in place, again while the database is busy, at most `left` times after the
first. Every run finds the database as the run before left it. -/
def retryInPlace (run : Nat → EStateM StoreError Database α) : Nat → Nat → Database →
    Ran α × Database
  | 0, k, db =>
    match run k db with
    | .ok a db => (⟨k + 1, .ok a⟩, db)
    | .error e db => (⟨k + 1, .error e⟩, db)
  | left + 1, k, db =>
    match run k db with
    | .ok a db => (⟨k + 1, .ok a⟩, db)
    | .error e db =>
      if e.isBusy then retryInPlace run left (k + 1) db else (⟨k + 1, .error e⟩, db)

/-- Brings back the database that an action started with, if the action fails. -/
def rollingBack (act : EStateM StoreError Database α) : EStateM StoreError Database α := fun db =>
  match act db with
  | .ok a db' => .ok a db'
  | .error e _ => .error e db

/-- Looks at the database. -/
def looking (look : Database → Except StoreError α) : EStateM StoreError Database α := fun db =>
  match look db with
  | .ok a => .ok a db
  | .error e => .error e db

/-- What an action in place gives and leaves, if it succeeds. -/
def attempt (act : EStateM StoreError Database α) (db : Database) :
    Except StoreError (α × Database) :=
  match act db with
  | .ok a db' => .ok (a, db')
  | .error e _ => .error e

theorem attempt_bind {β : Type} (act : EStateM StoreError Database α)
    (next : α → EStateM StoreError Database β) (db : Database) :
    attempt (act >>= next) db =
      (attempt act db).bind fun (a, db') => attempt (next a) db' := by
  simp only [attempt, bind, EStateM.bind]
  cases act db <;> rfl

/-- The result of a transaction and the database that it leaves, by what its runs made of the
database. -/
private def keep (db : Database) (ran : Ran (α × Database)) : Ran α × Database :=
  match ran.result with
  | .ok (a, db') => (⟨ran.runs, .ok a⟩, db')
  | .error e => (⟨ran.runs, .error e⟩, db)

private theorem retryInPlace_rollingBack_from (act : Nat → EStateM StoreError Database α)
    (left k : Nat) (db : Database) :
    retryInPlace (fun k => rollingBack (act k)) left k db =
      keep db (retryFrom (fun k => attempt (act k) db) left k) := by
  induction left generalizing k with
  | zero =>
    rw [retryInPlace, retryFrom, rollingBack, attempt]
    cases act k db <;> rfl
  | succ left ih =>
    rw [retryInPlace, retryFrom, rollingBack, attempt]
    cases act k db with
    | ok a db' => rfl
    | error e db' =>
      -- the next run starts with the database that this one started with
      simp only [ih]
      split <;> rfl

/-- **Rolled back runs leave nothing.** A transaction whose runs work in place and are rolled back
when they fail does what a transaction does that keeps only its last run. -/
theorem retryInPlace_rollingBack (act : Nat → EStateM StoreError Database α) (db : Database) :
    retryInPlace (fun k => rollingBack (act k)) greatestRetries 0 db =
      db.transact fun k => attempt (act k) :=
  retryInPlace_rollingBack_from act greatestRetries 0 db

private theorem retryInPlace_looking_from (look : Nat → Database → Except StoreError α)
    (left k : Nat) (db : Database) :
    retryInPlace (fun k => looking (look k)) left k db =
      (retryFrom (fun k => look k db) left k, db) := by
  induction left generalizing k with
  | zero =>
    rw [retryInPlace, retryFrom, looking]
    cases look k db <;> rfl
  | succ left ih =>
    rw [retryInPlace, retryFrom, looking]
    cases look k db with
    | ok a => rfl
    | error e =>
      simp only [ih]
      split <;> rfl

/-- **Looking changes nothing**, however often it is done. -/
theorem retryInPlace_looking (look : Nat → Database → Except StoreError α) (db : Database) :
    retryInPlace (fun k => looking (look k)) greatestRetries 0 db =
      (retrying fun k => look k db, db) :=
  retryInPlace_looking_from look greatestRetries 0 db

end Database

end Keyguard
