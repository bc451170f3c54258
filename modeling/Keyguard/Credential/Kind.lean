/-!
# Kinds of credentials

A user may have a lock pattern, a password and a lock gesture. Patterns and passwords are kept as
hashes. A pattern's hash has one of two places, since patterns drawn on the standard grid and on
any other grid are kept apart.
-/

namespace Keyguard

/-- A credential that is kept as a hash. -/
inductive CredentialKind where
  | pattern
  | password
  deriving DecidableEq

/-- How a kind is named in messages. -/
def CredentialKind.text : CredentialKind → String
  | .pattern => "pattern"
  | .password => "password"

/-- Whether a pattern is drawn on the grid of the standard size. -/
inductive GridVariant where
  | standard
  | alternate
  deriving DecidableEq

/-- The other variant. -/
def GridVariant.other : GridVariant → GridVariant
  | .standard => .alternate
  | .alternate => .standard

/-- A file of a user's credentials. -/
inductive CredentialFile where
  | pattern (v : GridVariant)
  | password
  | gesture
  deriving DecidableEq

namespace CredentialFile

/-- The file of a hash. Only patterns depend on the variant. -/
def ofKind : CredentialKind → GridVariant → CredentialFile
  | .pattern, v => .pattern v
  | .password, _ => .password

/-- The name of a credential file in its directory. -/
def name : CredentialFile → String
  | .pattern .standard => "gesture.key"
  | .pattern .alternate => "cm_gesture.key"
  | .password => "password.key"
  | .gesture => "lock_gesture.key"

end CredentialFile

end Keyguard
