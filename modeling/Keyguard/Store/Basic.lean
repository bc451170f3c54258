import Keyguard.Config
import Keyguard.Credential.GestureFiles
import Keyguard.Settings.Legacy
import Keyguard.Store.DatabaseFile
import Keyguard.Store.LockRegistry

/-!
# The open store

A store is opened on a file tree with a configuration. It keeps a connection to the settings
database while it is open.

* **Opening** creates the directory of the database and the database where they are missing and
  brings its schema up to date. A store whose schema was just created gets the setting that
  disables the lock screen, if the configuration asks for it.
* `Store.shown` gives the files as any other program sees them and `Store.close` those that
  closing leaves. Where nobody touched the file of the database, both have the database in it.
-/

namespace Keyguard

/-- The setting that disables the lock screen. -/
def disabledKey : String := "lockscreen.disabled"

/-- An open store. -/
structure Store extends Connection where
  config : Config
  recognizer : Recognizer
  files : FileTree
  locks : LockRegistry

namespace Store

/-- The layout of the store's files. -/
def layout (s : Store) : Layout := ⟨s.config.dataDir⟩

/-- The hash files of the store. -/
def hashes (s : Store) : HashFiles := ⟨s.layout, s.config.policy⟩

/-- The gesture files of the store. -/
def gestures (s : Store) : GestureFiles := ⟨s.layout, s.config.threshold⟩

/-- The changes that a store whose schema was just created starts with. -/
def seed (c : Config) (created : Bool) : List Change :=
  if created && c.disabledByDefault then [.write disabledKey .system "1"] else []

/-- Opens the store on a file tree. -/
def openWith (c : Config) (recognizer : Recognizer) : EStateM StoreError FileTree Store := fun t =>
  match c.validate with
  | .error e => .error e t
  | .ok () =>
    let l : Layout := ⟨c.dataDir⟩
    match l.openDatabase t with
    | .error e t => .error e t
    | .ok (created, link) t =>
      match link.database.commit (seed c created) with
      | (.error e, db) => .error e ({ link with database := db }.close l t)
      | (.ok _, db) =>
        let link := { link with database := db }
        let t := link.shown l t
        .ok ⟨link, c, recognizer, t, .empty⟩ t

/-- The files as any other program sees them. -/
def shown (s : Store) : FileTree := s.toConnection.shown s.layout s.files

/-- The files that closing the store leaves. -/
def close (s : Store) : FileTree := s.toConnection.close s.layout s.files

/-- The store after another program left some files. -/
def withFiles (s : Store) (t : FileTree) : Store :=
  { s with toConnection := s.toConnection.following s.layout t, files := t }

end Store

end Keyguard
