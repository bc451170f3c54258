import Keyguard.Credential.Kind
import Keyguard.Files.Path
import Keyguard.User

/-!
# Where the files lie

All files of the store lie in the directory `system` of the data directory. The settings
database with its journal and the credential files of the system user lie in it directly; every
other user has a directory of its own below `system/users`, named by the user's number.
-/

namespace Keyguard

/-- The layout of the files below a data directory. -/
structure Layout where
  dataDir : Path
  deriving DecidableEq

namespace Layout

/-- The directory that all users share. -/
def systemDir (l : Layout) : Path := l.dataDir.join "system"

/-- The file of the settings database. -/
def database (l : Layout) : Path := l.systemDir.join "locksettings.db"

/-- The journal of the settings database. -/
def journal (l : Layout) : Path := l.systemDir.join "locksettings.db-wal"

/-- The directory of the users' directories. -/
def usersDir (l : Layout) : Path := l.systemDir.join "users"

/-- The directory of a user's credential files. -/
def userDir (l : Layout) (u : UserId) : Path :=
  if u = .system then l.systemDir else l.usersDir.join u.text

/-- A credential file of a user. -/
def file (l : Layout) (u : UserId) (f : CredentialFile) : Path := (l.userDir u).join f.name

end Layout

end Keyguard
