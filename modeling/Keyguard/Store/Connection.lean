import Keyguard.Files.Layout
import Keyguard.Files.Tree

/-!
# Open databases

While the database of a layout is open, its changes go to a journal beside its file. Closing
writes them into the file and takes the journal away. Others can reach both meanwhile and share
the database, as long as its file stays as it is.

* Where the file was **removed**, the connection goes on with the database, and closing leaves the
  journal behind. Whoever opens the database anew puts an end to that journal. Then the connection
  falls back to what its own file has without it.
* Where the file was **overwritten**, a journal that holds all of the database stands in for it,
  and closing writes the database over the file. A connection that created the database has such a
  journal. A journal of changes serves its own connection only, and if there are no changes in it,
  the connection finds no tables any more.

`Connection.shown` gives the files as others see them, `Connection.close` those that closing
leaves, and `Connection.following` the connection after others left some files.
-/

namespace Keyguard

/-- What became of the file of an open database. A file of one byte counts as empty. -/
inductive FileState where
  | kept
  | overwritten
  | emptied
  | gone
  deriving DecidableEq

/-- What others find of the journal of an open database: one that they can open the database by,
one that they cannot, or none. -/
inductive JournalState where
  | usable
  | useless
  | gone
  deriving DecidableEq

/-- The state of a file after others worked on the files, by what is at its place. -/
def FileState.following (s : FileState) (found : Option Node) : FileState :=
  match s, found with
  -- what comes to the place of a removed file is another file
  | .gone, _ => .gone
  | _, some (.database _) => .kept
  | _, some (.file []) | _, some (.file [_]) => .emptied
  | _, some (.file _) => .overwritten
  | _, _ => .gone

/-- The state of a journal after others worked on the files, by what is at its place. -/
def JournalState.following (s : JournalState) (found : Option Node) : JournalState :=
  match s, found with
  | .gone, _ => .gone
  | .usable, some (.journal (some _)) => .usable
  | _, some (.journal _) => .useless
  | _, _ => .gone

/-- An open database. -/
structure Connection where
  database : Database
  /-- The database that its file has without the journal. -/
  origin : Database
  /-- Whether the journal holds all of the database, not only changes. -/
  whole : Bool
  file : FileState
  journal : JournalState
  deriving DecidableEq

namespace Connection

/-- The connection to a database that it creates. -/
def fresh : Connection := ⟨.blank, .blank, true, .kept, .usable⟩

/-- The files as others see them while the database is open. -/
def shown (c : Connection) (l : Layout) (t : FileTree) : FileTree :=
  let t := if c.file = .kept then t.put l.database.names (.database c.database) else t
  match c.journal with
  | .usable => t.put l.journal.names (.journal (some c.database))
  | .useless => t.put l.journal.names (.journal none)
  | .gone => t

/-- The files after the database is closed. -/
def close (c : Connection) (l : Layout) (t : FileTree) : FileTree :=
  if c.file = .gone then c.shown l t
  else
    let t := t.erase l.journal.names
    if c.file = .kept ∨ c.whole then t.put l.database.names (.database c.database)
    else if c.database = .blank then t
    -- changes in a foreign file are no database
    else t.put l.database.names (.file (0 :: c.database.bytes))

/-- Closing a database whose file nobody touched puts it into the file. -/
theorem close_of_kept {c : Connection} (h : c.file = .kept) (l : Layout) (t : FileTree) :
    c.close l t = (t.erase l.journal.names).put l.database.names (.database c.database) := by
  simp [close, h]

/-- The connection after others left some files. -/
def following (c : Connection) (l : Layout) (t : FileTree) : Connection :=
  let file := c.file.following (t.at? l.database.names)
  let journal := c.journal.following (t.at? l.journal.names)
  let database :=
    match file, t.at? l.database.names, t.at? l.journal.names with
    | .kept, some (.database db), _ => db
    -- another file in the place of its own, and the journal went when it was opened
    | .gone, some _, none => if c.journal = .gone then c.database else c.origin
    | .gone, _, _ => c.database
    | _, _, some (.journal (some db)) => db
    -- without changes there is nothing to read but the file
    | _, _, _ => if c.file = .kept ∧ c.database = c.origin then .blank else c.database
  let origin := if file = .overwritten ∨ file = .emptied then .blank else c.origin
  { c with database, origin, file, journal }

end Connection

end Keyguard
