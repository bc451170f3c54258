import Keyguard.Files.Walk
import Keyguard.Settings.Transaction
import Keyguard.Store.Connection

/-!
# The file of the database

The settings database of a layout is a file, and more than one program may open it.

* `Layout.attach` opens the file as it is; a missing one is created empty, which is a database
  without tables. A file that is neither empty nor a database can be opened only by a journal
  beside it that holds a whole database. A directory cannot be opened, nor a path that leads
  nowhere.
* `Layout.openDatabase` also creates the directory of the file, brings the schema up to date and
  tells whether there was none.
* `Layout.edit` changes the rows of the database as it is, around all rules of the store.
-/

namespace Keyguard

/-- The greatest number of bytes in the path of a database. -/
def longestDatabasePath : Nat := 504

namespace Layout

/-- Makes the journal beside the file of the database useless, if there is one. -/
def spoilJournal (l : Layout) (t : FileTree) : FileTree :=
  match t.at? l.journal.names with
  | some (.journal _) => t.put l.journal.names (.journal none)
  | _ => t

/-- Opens the file of the database as it is. -/
def attach (l : Layout) : EStateM StoreError FileTree Connection := fun t =>
  let unopened : StoreError := .database (.cannotOpen l.database)
  match t.follow l.database with
  | .error _ => .error unopened t
  | .ok place =>
    -- the name of the journal has to fit as well
    if longestDatabasePath < (Path.ofPlace place).text.utf8ByteSize then .error unopened t
    else
      match t.at? place, t.at? l.journal.names with
      | none, _ => .ok .fresh ((l.spoilJournal t).put place (.file []))
      -- a file of one byte counts as empty
      | some (.file []), _ | some (.file [_]), _ => .ok .fresh (l.spoilJournal t)
      | some (.database db), some (.journal (some _)) => .ok ⟨db, db, true, .kept, .usable⟩ t
      | some (.database db), _ => .ok ⟨db, db, false, .kept, .useless⟩ t
      | some .directory, _ => .error unopened t
      | some _, some (.journal (some db)) => .ok ⟨db, .blank, true, .overwritten, .usable⟩ t
      | some _, some (.journal none) => .error (.database .notADatabase) (t.erase l.journal.names)
      | some _, _ => .error (.database .notADatabase) t

/-- Opens the database, creating what is missing. The truth value tells whether the schema was. -/
def openDatabase (l : Layout) : EStateM StoreError FileTree (Bool × Connection) := fun t =>
  match FileTree.createAt l.systemDir t with
  | .error fault t => .error (.io fault) t
  | .ok () t =>
    match l.attach t with
    | .error e t => .error e t
    | .ok c t => .ok (c.database.version == 0, { c with database := c.database.migrate }) t

/-- Opens the database and changes it as it is. -/
def edit (change : Database → Except DatabaseFault Database) (l : Layout) :
    EStateM StoreError FileTree (Unit × Connection) := fun t =>
  match l.attach t with
  | .error e t => .error e t
  | .ok c t =>
    match change c.database with
    | .error fault => .error (.database fault) t
    | .ok db => .ok ((), { c with database := db }) t

end Layout

end Keyguard
