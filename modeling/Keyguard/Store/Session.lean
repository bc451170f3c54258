import Keyguard.Store.Call

/-!
# Sessions

A session follows a store through its life: it is opened, called and closed, again and again, on
one file tree. While the store is closed, the tree is all there is.

* `Session.handle` follows one event and gives its answer. **Opening** closes an open store first,
  and a store that cannot be opened stays closed. A **call** of a closed store has no answer.
* `Session.beside` lets another program work on the database, whether the store is open or not,
  and `Session.withFiles` takes the files that another program left.
* `Session.run` follows the events of a list and gives their answers in order.
-/

namespace Keyguard

/-- A store that is closed or open. -/
inductive Session where
  | closed (files : FileTree)
  | opened (store : Store)

/-- What happens to a store. -/
inductive Event where
  | opening (config : Config) (recognizer : Recognizer)
  | closing
  | calling (caller : Caller) (call : Call)

/-- What an event answers, if the store can answer. -/
abbrev Reply := Option (Except StoreError Answer)

namespace Session

/-- The files as any other program sees them. -/
def files : Session → FileTree
  | .closed t => t
  | .opened s => s.shown

/-- The files that closing leaves. -/
def close : Session → FileTree
  | .closed t => t
  | .opened s => s.close

/-- The session after another program left some files. -/
def withFiles (t : FileTree) : Session → Session
  | .closed _ => .closed t
  | .opened s => .opened (s.withFiles t)

/-- What became of the file of a layout's database, if the store has it open. -/
def databaseFile? (l : Layout) : Session → Option FileState
  | .closed _ => none
  | .opened s => if s.layout = l then some s.file else none

/-- Another program opens the database of a layout, does something and closes it. -/
def beside {α : Type} (l : Layout)
    (act : Layout → EStateM StoreError FileTree (α × Connection)) (s : Session) :
    Except StoreError (α × Connection) × Session :=
  match s.databaseFile? l with
  | some .emptied =>
    -- the store keeps its file busy until the database is in it again
    (.error (.database (.failed 5)), s.withFiles (l.spoilJournal s.files))
  | state =>
    match act l s.files with
    | .error e t => (.error e, s.withFiles t)
    | .ok (a, c) t =>
      -- as long as the store has the same file open, the journal stays
      let shared := state = some .kept ∨ state = some .overwritten
      (.ok (a, c), s.withFiles (if shared then c.shown l t else c.close l t))

/-- Follows an event. -/
def handle (s : Session) : Event → Reply × Session
  | .opening config recognizer =>
    match Store.openWith config recognizer s.close with
    | .ok store _ => (some (.ok .done), .opened store)
    | .error e t => (some (.error e), .closed t)
  | .closing => (some (.ok .done), .closed s.close)
  | .calling caller call =>
    match s with
    | .closed t => (none, .closed t)
    | .opened store =>
      match Store.perform caller call store with
      | .ok a store => (some (.ok a), .opened store)
      | .error e store => (some (.error e), .opened store)

/-- Follows some events in order. -/
def run (s : Session) : List Event → List Reply × Session
  | [] => ([], s)
  | e :: es =>
    let (reply, s) := s.handle e
    let (replies, s) := s.run es
    (reply :: replies, s)

end Session

end Keyguard
