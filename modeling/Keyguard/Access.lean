import Keyguard.User

/-!
# Who may do what

Every operation of the store belongs to an access class, and the class decides who may run it.

* The system may run every operation for every user.
* An ordinary caller may run plain reads for itself, and nothing else: neither a write, nor a
  comparison with a stored secret, nor a read for another user.

`Caller.mayRun` is that rule; `mayRun_user_iff` states its second half.
-/

namespace Keyguard

/-- The access class of an operation. -/
inductive AccessClass where
  | write
  | secretRead
  | read
  deriving DecidableEq

/-- An operation of the store. -/
inductive Operation where
  | setBoolean
  | setLong
  | setString
  | getBoolean
  | getLong
  | getString
  | getLockPatternSize
  | setLockPattern
  | checkPattern
  | setLockPassword
  | checkPassword
  | setLockGesture
  | checkGesture
  | havePassword
  | havePattern
  | haveGesture
  | removeUser
  | systemReady
  deriving DecidableEq

namespace Operation

/-- The class that an operation is checked against. -/
def accessClass : Operation → AccessClass
  | .setBoolean | .setLong | .setString | .setLockPattern | .setLockPassword | .setLockGesture
  | .removeUser | .systemReady => .write
  | .checkPattern | .checkPassword | .checkGesture => .secretRead
  | .getBoolean | .getLong | .getString | .getLockPatternSize | .havePassword | .havePattern
  | .haveGesture => .read

/-- How an operation is named in messages. -/
def text : Operation → String
  | .setBoolean => "setBoolean"
  | .setLong => "setLong"
  | .setString => "setString"
  | .getBoolean => "getBoolean"
  | .getLong => "getLong"
  | .getString => "getString"
  | .getLockPatternSize => "getLockPatternSize"
  | .setLockPattern => "setLockPattern"
  | .checkPattern => "checkPattern"
  | .setLockPassword => "setLockPassword"
  | .checkPassword => "checkPassword"
  | .setLockGesture => "setLockGesture"
  | .checkGesture => "checkGesture"
  | .havePassword => "havePassword"
  | .havePattern => "havePattern"
  | .haveGesture => "haveGesture"
  | .removeUser => "removeUser"
  | .systemReady => "systemReady"

end Operation

/-- Whether a caller may run an operation for a user. -/
def Caller.mayRun (c : Caller) (op : Operation) (target : UserId) : Bool :=
  match c, op.accessClass with
  | .system, _ => true
  | .user id, .read => id == target
  | .user _, _ => false

theorem Caller.mayRun_system (op : Operation) (target : UserId) :
    Caller.system.mayRun op target = true := by
  cases op <;> rfl

/-- An ordinary caller may run exactly the plain reads for itself. -/
theorem Caller.mayRun_user_iff {id target : UserId} {op : Operation} :
    (Caller.user id).mayRun op target = true ↔ op.accessClass = .read ∧ id = target := by
  cases h : op.accessClass <;> simp [Caller.mayRun, h]

end Keyguard
