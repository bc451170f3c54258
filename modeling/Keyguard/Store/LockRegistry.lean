import Keyguard.Credential.Kind
import Keyguard.User

/-!
# The registry of locks

Work on a credential file is done under the lock of its user and slot; all variants of a hash
share a slot. A lock is registered when it is first taken and stays registered when it is given
back. Forgetting a user drops the user's locks that nobody holds.

`LockStep` is a piece of work under locks, with the work that is done while they are held inside
it, and `LockStep.run` follows it and lists the size of the registry after each step that ends.
-/

namespace Keyguard

/-- What a lock guards. -/
inductive LockSlot where
  | credential (kind : CredentialKind)
  | gesture
  deriving DecidableEq

/-- The lock of a user's slot. -/
structure Lock where
  user : UserId
  slot : LockSlot
  deriving DecidableEq

/-- The locks of a user, in the order in which they are taken together. -/
def Lock.allOf (user : UserId) : List Lock :=
  [⟨user, .credential .password⟩, ⟨user, .credential .pattern⟩, ⟨user, .gesture⟩]

/-- The locks of a user are all there are of that user. -/
theorem Lock.mem_allOf {l : Lock} {u : UserId} : l ∈ Lock.allOf u ↔ l.user = u := by
  obtain ⟨v, (_ | _) | _⟩ := l <;> simp [Lock.allOf]

/-- The registered locks, each once, and the locks that are held. -/
structure LockRegistry where
  registered : List Lock
  held : List Lock
  deriving DecidableEq

namespace LockRegistry

/-- The registry without locks. -/
def empty : LockRegistry := ⟨[], []⟩

/-- Takes a lock, registering it if it is new. -/
def acquire (r : LockRegistry) (l : Lock) : LockRegistry :=
  ⟨if l ∈ r.registered then r.registered else r.registered ++ [l], l :: r.held⟩

/-- Gives a lock back. -/
def release (r : LockRegistry) (l : Lock) : LockRegistry := { r with held := r.held.erase l }

/-- Takes some locks in order. -/
def acquireAll (r : LockRegistry) (ls : List Lock) : LockRegistry := ls.foldl acquire r

/-- Gives some locks back. -/
def releaseAll (r : LockRegistry) (ls : List Lock) : LockRegistry := ls.foldl release r

/-- Drops the locks of a user that are not held. -/
def forgetUser (r : LockRegistry) (user : UserId) : LockRegistry :=
  { r with registered := r.registered.filter fun l => l.user ≠ user ∨ l ∈ r.held }

/-- How many locks are registered. -/
def size (r : LockRegistry) : Nat := r.registered.length

theorem mem_registered_acquire {r : LockRegistry} {k l : Lock} :
    l ∈ (r.acquire k).registered ↔ l ∈ r.registered ∨ l = k := by
  rw [acquire]
  split
  · rename_i known
    exact ⟨.inl, fun h => h.elim id fun same => same ▸ known⟩
  · simp

end LockRegistry

/-- A piece of work under locks. -/
inductive LockStep where
  | hold (locks : List Lock) (inner : List LockStep)
  | forget (user : UserId)

namespace LockStep

mutual

/-- Follows a step. The list holds the size of the registry after each step inside it and after
the step itself. -/
def run (r : LockRegistry) : LockStep → LockRegistry × List Nat
  | .hold locks inner =>
    let (r, sizes) := runAll (r.acquireAll locks) inner
    let r := r.releaseAll locks
    (r, sizes ++ [r.size])
  | .forget user =>
    let r := r.forgetUser user
    (r, [r.size])

/-- Follows some steps in order. -/
def runAll (r : LockRegistry) : List LockStep → LockRegistry × List Nat
  | [] => (r, [])
  | s :: ss =>
    let (r, sizes) := run r s
    let (r, more) := runAll r ss
    (r, sizes ++ more)

end

end LockStep

end Keyguard
