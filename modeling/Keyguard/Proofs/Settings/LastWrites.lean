import Keyguard.Proofs.Settings.Rows
import Keyguard.Proofs.Settings.Transactions
import Keyguard.Proofs.Sorting
import Keyguard.Proofs.Text.ByteOrder

/-!
# The last write counts

The settings table has no rule that a pair of a key and a user has one row: there may be several,
or ones that cannot be read. It is the writers who bring a pair down to one row, by deleting first.

An operation on the table sets one value, deletes the rows of a user, or is a transaction of such
changes, which may be aborted (`TableOperation`). What matters of a sequence of operations are the
changes that were committed, its **history**: the table that is left is the one at the start with
the history made in it (`Database.settings_runAll`). So the rows of a pair are decided by the last
change in the history that concerns the pair, or they are what they were
(`Database.last_change_decides`).

Which operations are committed is known in advance: all but the transactions that do not come
through their trouble (`TableOperation.Commits`). So the history has the changes of all others, in
the order of the operations (`Database.history_runAll`).
-/

namespace Keyguard

/-! ### Operations and their history -/

/-- An operation that changes the settings table. -/
inductive TableOperation where
  | set (key : String) (value : SettingValue) (user : UserId)
  | deleteUser (user : UserId)
  | transaction (changes : List Change) (trouble : Trouble)

namespace TableOperation

/-- The changes that an operation makes. A value is written as its canonical text. -/
def changes : TableOperation → List Change
  | .set key value user => [.write key user value.stored]
  | .deleteUser user => [.deleteUser user]
  | .transaction cs _ => cs

/-- Whether an operation is committed: it is no transaction, or one that comes through its
trouble. -/
def Commits : TableOperation → Prop
  | .set .. | .deleteUser _ => True
  | .transaction _ x => x.Passes

instance : DecidablePred Commits
  | .set .. | .deleteUser _ => isTrue trivial
  | .transaction _ x => inferInstanceAs (Decidable x.Passes)

/-- Runs an operation, which gives the number of rows that it deleted for users. -/
def run (db : Database) : TableOperation → Except StoreError Nat × Database
  | .set key value user => db.commit [.write key user value.stored]
  | .deleteUser user => db.commit [.deleteUser user]
  | .transaction cs x =>
    let (ran, left) := db.transact (x.changing cs)
    (ran.result, left)

end TableOperation

namespace Database

/-- Runs operations one after the other. Gives the database that they leave, and the changes of
those operations that were committed. -/
def runAll (db : Database) : List TableOperation → Database × List Change
  | [] => (db, [])
  | op :: ops =>
    let (result, db') := op.run db
    let (left, later) := db'.runAll ops
    (left, (match result with | .ok _ => op.changes | .error _ => []) ++ later)

end Database

/-- Whether a change is about a key and a user. A deletion is about all keys of its user. -/
def Change.Concerns (key : String) (user : UserId) : Change → Prop
  | .write k u _ => k = key ∧ u = user
  | .deleteUser u => u = user

theorem Change.onCells_of_not_concerns {key : String} {user : UserId} {c : Change}
    (other : ¬c.Concerns key user) (cells : List Cell) : c.onCells key user cells = cells := by
  cases c with
  | write k u text => exact if_neg fun same => other ⟨same.1.symm, same.2.symm⟩
  | deleteUser u => exact if_neg fun same => other same.symm

/-- The last change that concerns a pair decides its cells. -/
theorem Change.foldl_onCells_of_last {key : String} {user : UserId} {c : Change}
    {before after : List Change} (last : ∀ c' ∈ after, ¬c'.Concerns key user)
    (cells : List Cell) :
    (before ++ c :: after).foldl (onCells key user) cells =
      c.onCells key user (before.foldl (onCells key user) cells) := by
  rw [List.foldl_append, List.foldl_cons]
  exact Database.foldl_onCells_of_forall (fun c' hc => onCells_of_not_concerns (last c' hc)) _

/-! ### The table that is left -/

namespace Database

variable {db : Database} {t : SettingsTable}

/-- An operation is committed and its changes are made, or the database is what it was. -/
theorem run_cases (table : db.settings = some t) (op : TableOperation) :
    (op.Commits ∧
      ∃ n, op.run db = (.ok n, { db with settings := some (op.changes.foldl .change t) })) ∨
      ¬op.Commits ∧ ∃ e, op.run db = (.error e, db) := by
  cases op with
  | set key value user => exact .inl ⟨trivial, commit_of_table table _⟩
  | deleteUser user => exact .inl ⟨trivial, commit_of_table table _⟩
  | transaction cs x =>
    obtain ⟨n, applied⟩ := applyAll_of_table table cs
    have whole := transact_trouble x applied
    cases ended : x.ending x.last with
    | ok =>
      refine .inl ⟨x.ending_last_eq_ok.mp ended, n, ?_⟩
      simp only [TableOperation.run, whole, ended]
      rfl
    | error e =>
      refine .inr ⟨fun passes => ?_, e, ?_⟩
      · have done := x.ending_last_eq_ok.mpr passes
        exact absurd (ended.symm.trans done) nofun
      · simp only [TableOperation.run, whole, ended]
        rfl

/-- The operations that are committed succeed, and no others do. -/
theorem run_eq_ok_iff (table : db.settings = some t) (op : TableOperation) :
    (∃ n, (op.run db).1 = .ok n) ↔ op.Commits := by
  rcases run_cases table op with ⟨commits, n, done⟩ | ⟨fails, e, failed⟩
  · exact iff_of_true ⟨n, congrArg Prod.fst done⟩ commits
  · exact iff_of_false (by simp [failed]) fails

/-- The history consists of the changes of the operations that are committed. -/
theorem history_runAll (table : db.settings = some t) (ops : List TableOperation) :
    (db.runAll ops).2 = (ops.filter (·.Commits)).flatMap (·.changes) := by
  induction ops generalizing db t with
  | nil => rfl
  | cons op ops ih =>
    rcases run_cases table op with ⟨commits, n, done⟩ | ⟨fails, e, failed⟩
    · simp only [runAll, done]
      rw [ih rfl, List.filter_cons_of_pos (by simpa using commits), List.flatMap_cons]
    · simp only [runAll, failed, List.nil_append]
      rw [ih table, List.filter_cons_of_neg (by simpa using fails)]

/-- The history of some operations, made in the table at the start, leads to the table that they
leave. An operation that failed is in neither. -/
theorem settings_runAll (table : db.settings = some t) (ops : List TableOperation) :
    (db.runAll ops).1.settings = some ((db.runAll ops).2.foldl .change t) := by
  induction ops generalizing db t with
  | nil => exact table
  | cons op ops ih =>
    rcases run_cases table op with ⟨-, n, done⟩ | ⟨-, e, failed⟩
    · simp only [runAll, done, List.foldl_append]
      exact ih rfl
    · simp only [runAll, failed, List.nil_append]
      exact ih table

end Database

/-! ### Listing the settings of a user -/

/-- The text that a cell is listed with, unless it cannot be read. -/
def Cell.listed : Cell → String
  | .text s => s
  | .null | .blob _ => ""

namespace SettingsTable

variable {t : SettingsTable} {user : UserId}

/-- Rows that can all be read are listed with their texts. -/
private theorem mapM_readCell {rs : List Row} (readable : ∀ r ∈ rs, ∀ b, r.cell ≠ .blob b) :
    (rs.mapM fun r => (readCell r.cell).map fun s => (r.key, s.getD "")) =
      .ok (rs.map fun r => (r.key, r.cell.listed)) := by
  induction rs with
  | nil => rfl
  | cons r rs ih =>
    rw [List.forall_mem_cons] at readable
    have first : ((readCell r.cell).map fun s => (r.key, s.getD "")) =
        .ok (r.key, r.cell.listed) := by
      cases content : r.cell with
      | blob b => exact absurd content (readable.1 b)
      | _ => rfl
    rw [List.mapM_cons, first, ih readable.2]
    rfl

/-- The settings of a user are listed in the order of their keys, and under each key the rows that
it has, oldest first. -/
theorem entries_eq (readable : ∀ r ∈ t.rows, r.user = user → ∀ b, r.cell ≠ .blob b) :
    ∃ listed, t.entries user = .ok listed ∧
      listed.Pairwise (fun e e' => Text.bytes e.1 ≤ Text.bytes e'.1) ∧
      ∀ key, (listed.filter (·.1 == key)).map Prod.snd = (t.cells key user).map Cell.listed := by
  have trans (a b c : Row) (hab : decide (a.key ≤ b.key) = true)
      (hbc : decide (b.key ≤ c.key) = true) : decide (a.key ≤ c.key) = true := by
    rw [decide_eq_true_eq] at hab hbc ⊢
    exact String.le_trans hab hbc
  have total (a b : Row) : (decide (a.key ≤ b.key) || decide (b.key ≤ a.key)) = true := by
    rw [Bool.or_eq_true, decide_eq_true_eq, decide_eq_true_eq]
    exact String.le_total a.key b.key
  refine ⟨_, mapM_readCell ?_, ?_, ?_⟩
  · intro r hr
    obtain ⟨mem, own⟩ := List.mem_filter.mp (List.mem_mergeSort.mp hr)
    exact readable r mem (beq_iff_eq.mp own)
  · refine List.pairwise_map.mpr ((List.pairwise_mergeSort trans total _).imp ?_)
    intro a b ascending
    rw [decide_eq_true_eq] at ascending
    exact fun below => String.not_lt.mpr ascending (Text.bytes_lt_bytes_iff.mp below)
  · intro key
    have alike (a b : Row) (ha : (a.key == key) = true) (hb : (b.key == key) = true) :
        decide (a.key ≤ b.key) = true := by
      have same : a.key = b.key := (beq_iff_eq.mp ha).trans (beq_iff_eq.mp hb).symm
      exact decide_eq_true (same ▸ String.le_refl a.key)
    have stable := filter_mergeSort trans total alike (t.rowsOf user)
    rw [List.filter_map, List.map_map, cells_eq, List.map_map, ← stable]
    rfl

end SettingsTable

/-! ### The last write counts -/

namespace Database

variable {db : Database} {t : SettingsTable}

/-- Deleting the rows of a user gives their number. -/
theorem run_deleteUser (table : db.settings = some t) (user : UserId) :
    ((TableOperation.deleteUser user).run db).1 = .ok (t.rows.countP (·.user == user)) := by
  rw [TableOperation.run, commit_eq, List.countP_eq_length_filter]
  simp only [applyAll, apply, table, Nat.add_zero]
  rfl

/-- **The last write counts**, whatever rows there were. After any operations, committed or aborted,
a pair whose last change in the history is a write has one row, which reads as the text that was
written. After a deletion of its user it has none. A pair that the history does not concern has the
rows it had, of which the oldest is read. A deletion gives the number of rows that the user had, and
unless one of them cannot be read, the listing has exactly the rows of the user: in the order of the
bytes of their keys, and oldest first within a key. -/
theorem last_change_decides (table : db.settings = some t) (ops : List TableOperation) :
    let left := (db.runAll ops).1
    let history := (db.runAll ops).2
    (∀ key user,
      (∀ before text after, history = before ++ .write key user text :: after →
        (∀ c ∈ after, ¬c.Concerns key user) →
          (left.query fun t => .ok (t.rowCount key user)) = .ok 1 ∧
            (left.query fun t => t.read key user) = .ok (some text)) ∧
      (∀ before after, history = before ++ .deleteUser user :: after →
        (∀ c ∈ after, ¬c.Concerns key user) →
          (left.query fun t => .ok (t.rowCount key user)) = .ok 0 ∧
            (left.query fun t => t.read key user) = .ok none) ∧
      ((∀ c ∈ history, ¬c.Concerns key user) →
        (left.query fun t => .ok (t.rowCount key user)) = .ok (t.rowCount key user) ∧
          (left.query fun t => t.read key user) = match t.cells key user with
            | [] => .ok none
            | oldest :: _ => SettingsTable.readCell oldest)) ∧
    (∀ user, ((TableOperation.deleteUser user).run left).1 =
      .ok (left.rows.countP (·.user == user))) ∧
    ∀ user, (∀ r ∈ left.rows, r.user = user → ∀ b, r.cell ≠ .blob b) →
      ∃ listed, (left.query fun t => t.entries user) = .ok listed ∧
        listed.Pairwise (fun e e' => Text.bytes e.1 ≤ Text.bytes e'.1) ∧
        ∀ key, (listed.filter (·.1 == key)).map Prod.snd =
          (left.rows.filter (SettingsTable.belongs key user)).map (·.cell.listed) := by
  intro left history
  have made : left.settings = some (history.foldl .change t) := settings_runAll table ops
  have rows : left.rows = (history.foldl .change t).rows := by rw [Database.rows, made]; rfl
  have count (key : String) (user : UserId) :
      (left.query fun t => .ok (t.rowCount key user)) =
        .ok (history.foldl (Change.onCells key user) (t.cells key user)).length := by
    rw [query, made, ← SettingsTable.cells_foldl_change]
    rfl
  have read (key : String) (user : UserId) : (left.query fun t => t.read key user) =
      match history.foldl (Change.onCells key user) (t.cells key user) with
      | [] => .ok none
      | oldest :: _ => SettingsTable.readCell oldest := by
    rw [query, made, ← SettingsTable.cells_foldl_change]
    rfl
  refine ⟨fun key user => ⟨?written, ?deleted, ?kept⟩, ?count, ?entries⟩
  case written =>
    intro before text after split last
    rw [count, read, split, Change.foldl_onCells_of_last last, Change.onCells, if_pos ⟨rfl, rfl⟩]
    exact ⟨rfl, rfl⟩
  case deleted =>
    intro before after split last
    rw [count, read, split, Change.foldl_onCells_of_last last, Change.onCells, if_pos rfl]
    exact ⟨rfl, rfl⟩
  case kept =>
    -- no change touched the cells of the pair
    intro others
    rw [count, read,
      foldl_onCells_of_forall fun c hc => Change.onCells_of_not_concerns (others c hc)]
    exact ⟨rfl, rfl⟩
  case count =>
    intro user
    rw [run_deleteUser made, rows]
  case entries =>
    intro user readable
    rw [rows] at readable ⊢
    obtain ⟨listed, answer, ascending, texts⟩ := SettingsTable.entries_eq readable
    refine ⟨listed, by rw [query, made]; exact answer, ascending, ?_⟩
    intro key
    rw [texts, SettingsTable.cells, List.map_map]
    rfl

/-- A value is set over two rows of which one cannot be read, and a transaction that deletes it is
aborted. Another user is deleted, and a row that holds nothing stays. -/
theorem aborted_deletion_leaves_last_value :
    let t : SettingsTable := ⟨[⟨"k", ⟨1⟩, .blob [0]⟩, ⟨"k", ⟨1⟩, .text "a"⟩, ⟨"n", ⟨1⟩, .null⟩,
      ⟨"k", ⟨2⟩, .text "b"⟩], true⟩
    let db : Database := ⟨some t, some [1]⟩
    let aborted : Trouble := ⟨0, 0, some .serialization, by simp [StoreError.isBusy]⟩
    let ops : List TableOperation := [.set "k" (.long 7) ⟨1⟩,
      .transaction [.write "n" ⟨1⟩ "x", .deleteUser ⟨1⟩] aborted, .deleteUser ⟨2⟩]
    let left := (db.runAll ops).1
    (left.query fun t => t.read "k" ⟨1⟩) = .ok (some "7") ∧
      (left.query fun t => .ok (t.rowCount "k" ⟨2⟩)) = .ok 0 ∧
      (left.query fun t => .ok (t.rowCount "n" ⟨1⟩)) = .ok 1 ∧
      ((TableOperation.deleteUser ⟨1⟩).run left).1 = .ok 2 := by
  intro t db aborted ops left
  have table : db.settings = some t := rfl
  obtain ⟨pairs, count, -⟩ := last_change_decides table ops
  have history : (db.runAll ops).2 = [.write "k" ⟨1⟩ "7", .deleteUser ⟨2⟩] := by decide +kernel
  have set := (pairs "k" ⟨1⟩).1 [] "7" [.deleteUser ⟨2⟩] history (by simp [Change.Concerns])
  have deleted := (pairs "k" ⟨2⟩).2.1 [.write "k" ⟨1⟩ "7"] [] history nofun
  have kept := (pairs "n" ⟨1⟩).2.2 (by rw [history]; simp [Change.Concerns])
  have two : left.rows.countP (·.user == ⟨1⟩) = 2 := by decide +kernel
  exact ⟨set.2, deleted.1, kept.1, two ▸ count ⟨1⟩⟩

end Database

end Keyguard
