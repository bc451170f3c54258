import Keyguard.Proofs.Settings.Cells

/-!
# Transactions in trouble

The runs of an action may be in **trouble** (`Trouble`): a number of them fails with a result code
of the database engine, and the run after those may be aborted. Trouble comes at the end of a run,
when its changes are made. Then the last run is known in advance (`Trouble.retrying_eq`), and it is
the same for a transaction and for an action that only looks at the database.

Whatever the trouble, a transaction takes effect once, if it succeeds, or not at all
(`Database.transact_once_or_not_at_all`). This is so although every run makes its changes in place
(`Database.makeAll`), and they have to be rolled back if it fails.
-/

namespace Keyguard

/-! ### Changes in place -/

namespace Database

/-- Makes a change. -/
def make (c : Change) : EStateM StoreError Database Nat := fun db =>
  match db.apply c with
  | .ok (n, db') => .ok n db'
  | .error fault => .error (.database fault) db

/-- Makes changes, each in the database that the one before left, and counts the rows that they
delete for users. -/
def makeAll : List Change → EStateM StoreError Database Nat
  | [] => pure 0
  | c :: cs => do
    let n ← make c
    let m ← makeAll cs
    return n + m

theorem attempt_make (c : Change) (db : Database) :
    attempt (make c) db = (db.apply c).mapError .database := by
  rw [attempt, make]
  rcases db.apply c <;> rfl

theorem changing_cons (c : Change) (cs : List Change) (db : Database) :
    changing (c :: cs) db = ((db.apply c).mapError .database).bind fun (n, db') =>
      (changing cs db').map fun (m, db'') => (n + m, db'') := by
  rw [changing, applyAll]
  rcases db.apply c with fault | ⟨n, db'⟩
  · rfl
  · change _ = Except.map _ (changing cs db')
    rw [changing]
    dsimp only [bind, Except.bind]
    cases db'.applyAll cs <;> rfl

/-- Changes that are made in place come to what their transaction keeps. -/
theorem attempt_makeAll (cs : List Change) (db : Database) :
    attempt (makeAll cs) db = changing cs db := by
  induction cs generalizing db with
  | nil => rfl
  | cons c cs ih =>
    rw [makeAll, attempt_bind, attempt_make, changing_cons]
    rcases (db.apply c).mapError StoreError.database with e | ⟨n, db'⟩
    · rfl
    · simp only [Except.bind, attempt_bind, ih]
      cases changing cs db' <;> rfl

end Database

/-! ### Trouble -/

/-- What goes wrong in the runs of an action. -/
structure Trouble where
  /-- How many runs fail, from the first on. -/
  fails : Nat
  /-- The result code that they fail with. -/
  code : Int32
  /-- The error that aborts the run after them, if one does. -/
  abort : Option StoreError
  /-- A run that is aborted does not find the database busy. -/
  calm : ∀ e ∈ abort, e.isBusy = false

namespace Trouble

/-- The error of the runs that fail. -/
def failure (x : Trouble) : StoreError := .database (.failed x.code)

/-- How a run ends. -/
def ending (x : Trouble) (k : Nat) : Except StoreError Unit :=
  if k < x.fails then .error x.failure
  else match x.abort with
    | some e => .error e
    | none => .ok ()

/-- A run that makes some changes before it ends. -/
def changing (x : Trouble) (cs : List Change) (k : Nat) (db : Database) :
    Except StoreError (Nat × Database) := do
  let done ← Database.changing cs db
  x.ending k
  return done

/-- A run that makes some changes in place before it ends. -/
def making (x : Trouble) (cs : List Change) (k : Nat) : EStateM StoreError Database Nat := do
  let n ← Database.makeAll cs
  match x.ending k with
  | .error e => throw e
  | .ok () => return n

/-- A run that looks at the database before it ends. -/
def reading {α : Type} (x : Trouble) (look : Database → α) (k : Nat) (db : Database) :
    Except StoreError α := do
  x.ending k
  return look db

theorem attempt_making (x : Trouble) (cs : List Change) (k : Nat) (db : Database) :
    Database.attempt (x.making cs k) db = x.changing cs k db := by
  rw [making, Database.attempt_bind, Database.attempt_makeAll, changing]
  congr 1
  funext (n, db')
  cases x.ending k <;> rfl

variable (x : Trouble)

/-- Changes that can be made fail by trouble only. -/
theorem changing_eq {cs : List Change} {db : Database} {done : Nat × Database}
    (applied : db.applyAll cs = .ok done) (k : Nat) :
    x.changing cs k db = (x.ending k).map fun _ => done := by
  rw [changing, Database.changing, applied]
  cases x.ending k <;> rfl

/-- A look at the database fails by trouble only. -/
theorem reading_eq {α : Type} (look : Database → α) (k : Nat) (db : Database) :
    x.reading look k db = (x.ending k).map fun _ => look db := by
  rw [reading]
  cases x.ending k <;> rfl

/-- The run that is the last. -/
def last : Nat := if x.failure.isBusy then min x.fails greatestRetries else 0

theorem failure_isBusy :
    x.failure.isBusy = true ↔ x.code &&& 0xff = 5 ∨ x.code &&& 0xff = 6 := by
  simp [failure, StoreError.isBusy, DatabaseFault.isBusy]

theorem ending_of_lt {k : Nat} (h : k < x.fails) : x.ending k = .error x.failure := if_pos h

theorem ending_of_ge {k : Nat} (h : x.fails ≤ k) :
    x.ending k = match x.abort with
      | some e => .error e
      | none => .ok () :=
  if_neg (Nat.not_lt_of_ge h)

theorem ending_eq_ok {k : Nat} : x.ending k = .ok () ↔ x.fails ≤ k ∧ x.abort = none := by
  rcases Nat.lt_or_ge k x.fails with before | after
  · rw [x.ending_of_lt before]
    exact iff_of_false nofun fun h => Nat.not_lt_of_ge h.1 before
  · rw [x.ending_of_ge after]
    cases x.abort <;> simp [after]

/-- Whether an action comes through its trouble: no run is aborted, and there are as few failures
as are run again. -/
def Passes : Prop := x.abort = none ∧ x.fails ≤ if x.failure.isBusy then greatestRetries else 0

instance : Decidable x.Passes := inferInstanceAs (Decidable (_ ∧ _))

/-- The last run succeeds exactly if the action comes through its trouble. -/
theorem ending_last_eq_ok : x.ending x.last = .ok () ↔ x.Passes := by
  rw [ending_eq_ok, Passes, last, and_comm]
  refine and_congr_right fun _ => ?_
  split <;> omega

theorem ending_eq_error {k : Nat} {e : StoreError} :
    x.ending k = .error e ↔ some e = if k < x.fails then some x.failure else x.abort := by
  rcases Nat.lt_or_ge k x.fails with before | after
  · rw [x.ending_of_lt before, if_pos before, Except.error.injEq, Option.some.injEq, eq_comm]
  · rw [x.ending_of_ge after, if_neg (Nat.not_lt_of_ge after)]
    cases x.abort with
    | none => exact iff_of_false nofun nofun
    | some a => rw [Except.error.injEq, Option.some.injEq, eq_comm]

/-- After the runs that fail, none finds the database busy. -/
theorem not_foundBusy_ending {k : Nat} (h : x.fails ≤ k) : ¬Database.FoundBusy (x.ending k) := by
  rw [x.ending_of_ge h]
  cases aborted : x.abort with
  | none => exact Database.not_foundBusy_ok ()
  | some e =>
    rw [Database.foundBusy_error, x.calm e aborted]
    exact Bool.false_ne_true

/-- **The last run.** An action that comes to the same in every run, trouble apart, is run until
the failures are over, until a failure is not for a busy database, or until no run is allowed any
more. -/
theorem retrying_eq {α : Type} {run : Nat → Except StoreError α} {a : α}
    (same : ∀ k, run k = (x.ending k).map fun _ => a) :
    Database.retrying run = ⟨x.last + 1, (x.ending x.last).map fun _ => a⟩ := by
  have busy_iff (k : Nat) :
      Database.FoundBusy (run k) ↔ Database.FoundBusy (x.ending k) := by
    rw [same]
    cases x.ending k with
    | error e => exact Database.foundBusy_error.trans Database.foundBusy_error.symm
    | ok _ => exact iff_of_false (Database.not_foundBusy_ok a) (Database.not_foundBusy_ok ())
  have failing {k : Nat} (h : k < x.fails) :
      Database.FoundBusy (run k) ↔ x.failure.isBusy = true := by
    rw [busy_iff, x.ending_of_lt h, Database.foundBusy_error]
  have past {k : Nat} (h : x.fails ≤ k) : ¬Database.FoundBusy (run k) := fun found =>
    x.not_foundBusy_ending h ((busy_iff k).mp found)
  rw [← same, last]
  cases busy : x.failure.isBusy with
  | false =>
    refine Database.retrying_eq (Nat.zero_le _) nofun (.inr fun found => ?_)
    rcases Nat.eq_zero_or_pos x.fails with none | some
    · exact past (Nat.le_of_eq none) found
    · exact Bool.false_ne_true (busy.symm.trans ((failing some).mp found))
  | true =>
    rw [if_pos rfl]
    refine Database.retrying_eq (Nat.min_le_right _ _) (fun k below => ?_) ?_
    · exact (failing (Nat.lt_min.mp below).1).mpr busy
    · rcases Nat.le_total x.fails greatestRetries with few | many
      · exact .inr (past (Nat.le_of_eq (Nat.min_eq_left few).symm))
      · exact .inl (Nat.min_eq_right many)

end Trouble

/-! ### Once or not at all -/

namespace Database

variable {db : Database} {t : SettingsTable}

/-- What its last run does is what a transaction in trouble does. -/
theorem transact_trouble (x : Trouble) {cs : List Change} {n : Nat} {db' : Database}
    (applied : db.applyAll cs = .ok (n, db')) :
    db.transact (x.changing cs) =
      (⟨x.last + 1, (x.ending x.last).map fun _ => n⟩,
        match x.ending x.last with
        | .ok _ => db'
        | .error _ => db) := by
  simp only [transact, x.retrying_eq (x.changing_eq applied)]
  cases x.ending x.last <;> rfl

/-- **Once or not at all.** Let the first runs of a transaction fail when their changes are made,
all with one result code, and let the run after those succeed or be aborted. A busy or locked
database (5 or 6 in the low byte of the code) has the transaction run again, five times at most;
any other failure ends it. If the last run succeeds, the changes are made once, in order; if not,
its error is the result and the database is what it was. The same comes of making the changes in
place and rolling them back. An action that looks at the database is run as often, has the same
errors and leaves the database alone. -/
theorem transact_once_or_not_at_all (table : db.settings = some t) (cs : List Change)
    (x : Trouble) :
    let busy := x.code &&& 0xff = 5 ∨ x.code &&& 0xff = 6
    let ran := (db.transact (x.changing cs)).1
    let left := (db.transact (x.changing cs)).2
    (busy → ran.runs = min x.fails 5 + 1 ∧
      ((∃ n, ran.result = .ok n) ↔ x.fails ≤ 5 ∧ x.abort = none)) ∧
    (¬busy → ran.runs = 1 ∧ ((∃ n, ran.result = .ok n) ↔ x.fails = 0 ∧ x.abort = none)) ∧
    (∀ n, ran.result = .ok n →
      db.applyAll cs = .ok (n, left) ∧ left = { db with settings := some (cs.foldl .change t) }) ∧
    (∀ e, ran.result = .error e →
      left = db ∧
        some e = if ran.runs ≤ x.fails then some (.database (.failed x.code)) else x.abort) ∧
    retryInPlace (fun k => rollingBack (x.making cs k)) greatestRetries 0 db = (ran, left) ∧
    ∀ (α : Type) (look : Database → α),
      retryInPlace (fun k => looking (x.reading look k)) greatestRetries 0 db =
        (⟨ran.runs, ran.result.map fun _ => look db⟩, db) := by
  obtain ⟨n, applied⟩ := applyAll_of_table table cs
  have whole := transact_trouble x applied
  intro busy ran left
  have runs : ran.runs = x.last + 1 := congrArg (·.1.runs) whole
  have result : ran.result = (x.ending x.last).map fun _ => n := congrArg (·.1.result) whole
  have succeeds : (∃ n, ran.result = .ok n) ↔ x.fails ≤ x.last ∧ x.abort = none := by
    rw [← x.ending_eq_ok, result]
    cases x.ending x.last <;> simp [Except.map]
  refine ⟨fun h => ?busy, fun h => ?other, fun m ok => ?once, fun e failed => ?not_at_all,
    ?in_place, fun α look => ?looks⟩
  case busy =>
    have last : x.last = min x.fails 5 := if_pos (x.failure_isBusy.mpr h)
    rw [runs, succeeds, last]
    exact ⟨rfl, and_congr_left fun _ => by omega⟩
  case other =>
    have last : x.last = 0 := if_neg fun isBusy => h (x.failure_isBusy.mp isBusy)
    rw [runs, succeeds, last]
    exact ⟨rfl, and_congr_left fun _ => Nat.le_zero⟩
  case once =>
    cases ended : x.ending x.last with
    | error e => exact absurd (result.symm.trans ok) (by rw [ended]; exact nofun)
    | ok =>
      have kept : left = { db with settings := some (cs.foldl .change t) } := by
        simp only [left, whole, ended]
      rw [result, ended] at ok
      cases ok
      exact ⟨kept ▸ applied, kept⟩
  case not_at_all =>
    cases ended : x.ending x.last with
    | ok => exact absurd (result.symm.trans failed) (by rw [ended]; exact nofun)
    | error e' =>
      have kept : left = db := by simp only [left, whole, ended]
      rw [result, ended] at failed
      cases failed
      exact ⟨kept, runs ▸ x.ending_eq_error.mp ended⟩
  case in_place =>
    have same : (fun k => attempt (x.making cs k)) = x.changing cs :=
      funext fun k => funext fun db => x.attempt_making cs k db
    rw [retryInPlace_rollingBack, same]
  case looks =>
    rw [retryInPlace_looking, x.retrying_eq fun k => x.reading_eq look k db, runs, result]
    cases x.ending x.last <;> rfl

/-- A write and a deletion take effect in the third run, the first two having found the database
busy. The pair that is written had two rows, of which one held nothing. -/
theorem transact_once_in_third_run :
    let t : SettingsTable :=
      ⟨[⟨"k", ⟨1⟩, .null⟩, ⟨"k", ⟨1⟩, .text "a"⟩, ⟨"k", ⟨2⟩, .text "b"⟩], true⟩
    let db : Database := ⟨some t, some [1]⟩
    let x : Trouble := ⟨2, 261, none, nofun⟩
    let cs : List Change := [.write "k" ⟨1⟩ "c", .deleteUser ⟨2⟩]
    let done := db.transact (x.changing cs)
    done.1.runs = 3 ∧ done.1.result = .ok 1 ∧
      done.2 = ⟨some ⟨[⟨"k", ⟨1⟩, .text "c"⟩], true⟩, some [1]⟩ := by
  intro t db x cs done
  have table : db.settings = some t := rfl
  obtain ⟨busy, -, once, -⟩ := transact_once_or_not_at_all table cs x
  obtain ⟨runs, succeeds⟩ := busy (.inl (by decide))
  obtain ⟨n, ok⟩ := succeeds.mpr ⟨by decide, rfl⟩
  obtain ⟨counted, left⟩ := once n ok
  have one : n = 1 := congrArg Prod.fst (Except.ok.inj counted).symm
  exact ⟨runs, ok.trans (congrArg Except.ok one), left⟩

end Database

end Keyguard
