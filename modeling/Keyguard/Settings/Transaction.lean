import Keyguard.Error

/-!
# Transactions

A transaction applies its changes together or not at all: when it fails, the database stays what
it was. While the database is busy or locked, the whole transaction is run again, at most
`greatestRetries` times; any other failure ends it at once. Reads are run again in the same way.
Before each of these runs there is a wait, which doubles with every run up to `greatestWait`.

* `Database.retrying` counts the runs of an action and gives the result of the last.
* `Database.transact` runs a transaction and `Database.commit` one that consists of changes.
-/

namespace Keyguard

/-- How often an action is run again while the database is busy. -/
def greatestRetries : Nat := 5

/-- The wait from which the waits are doubled, in milliseconds. -/
def baseWait : Nat := 50

/-- The greatest wait before an action is run again, in milliseconds. -/
def greatestWait : Nat := 1000

/-- The wait before an action is run again for the `k`-th time, in milliseconds. It is doubled up to
six times, and up to a quarter is added at random. -/
def wait (k : Nat) (random : UInt64) : Nat :=
  let base := baseWait <<< Nat.min k 6
  Nat.min (base + random.toNat % (base / 4 + 1)) greatestWait

/-- How long an action waits in all before the first `n` times that it is run again, by the random
numbers that are drawn. -/
def waits (random : Nat → UInt64) : Nat → Nat
  | 0 => 0
  | n + 1 => waits random n + wait (n + 1) (random n)

/-- Whether a failure means that the database is busy (5) or locked (6). The low byte of a result
code tells the kind of failure. -/
def DatabaseFault.isBusy : DatabaseFault → Bool
  | .failed code => code &&& 0xff == 5 || code &&& 0xff == 6
  | _ => false

/-- Whether an error means that the database is busy or locked. -/
def StoreError.isBusy : StoreError → Bool
  | .database fault => fault.isBusy
  | _ => false

/-- How often an action was run, and the result of its last run. -/
structure Ran (α : Type) where
  runs : Nat
  result : Except StoreError α

/-- How long an action waited in all. -/
def Ran.waited {α : Type} (ran : Ran α) (random : Nat → UInt64) : Nat :=
  waits random (ran.runs - 1)

/-- A change of the settings table. -/
inductive Change where
  | write (key : String) (user : UserId) (text : String)
  | deleteUser (user : UserId)
  deriving DecidableEq

namespace Database

/-- Runs an action that knows how many runs came before it, at most `left` times after the
first. -/
def retryFrom {α : Type} (run : Nat → Except StoreError α) : Nat → Nat → Ran α
  | 0, k => ⟨k + 1, run k⟩
  | left + 1, k =>
    match run k with
    | .ok a => ⟨k + 1, .ok a⟩
    | .error e => if e.isBusy then retryFrom run left (k + 1) else ⟨k + 1, .error e⟩

/-- Runs an action again while the database is busy. -/
def retrying {α : Type} (run : Nat → Except StoreError α) : Ran α :=
  retryFrom run greatestRetries 0

/-- Runs a transaction and keeps what its last run did, if that run succeeded. -/
def transact {α : Type} (db : Database) (body : Nat → Database → Except StoreError (α × Database)) :
    Ran α × Database :=
  let ran := retrying fun k => body k db
  match ran.result with
  | .ok (a, db') => (⟨ran.runs, .ok a⟩, db')
  | .error e => (⟨ran.runs, .error e⟩, db)

/-- Applies a change and counts the rows that it deletes for a user. -/
def apply (db : Database) (c : Change) : Except DatabaseFault (Nat × Database) :=
  match db.settings with
  | none => .error .missingTable
  | some t =>
    match c with
    | .write key user text => .ok (0, { db with settings := some (t.write key user text) })
    | .deleteUser user =>
      .ok ((t.rowsOf user).length, { db with settings := some (t.deleteUser user) })

/-- Applies changes in order and counts the rows that they delete for users. -/
def applyAll (db : Database) : List Change → Except DatabaseFault (Nat × Database)
  | [] => .ok (0, db)
  | c :: cs =>
    match db.apply c with
    | .error e => .error e
    | .ok (n, db) =>
      match db.applyAll cs with
      | .error e => .error e
      | .ok (m, db) => .ok (n + m, db)

/-- A transaction of some changes. -/
def changing (cs : List Change) (db : Database) : Except StoreError (Nat × Database) :=
  (db.applyAll cs).mapError .database

/-- Applies changes in one transaction. -/
def commit (db : Database) (cs : List Change) : Except StoreError Nat × Database :=
  let (ran, db) := db.transact fun _ => changing cs
  (ran.result, db)

end Database

end Keyguard
