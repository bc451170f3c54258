import Keyguard.Text.Integer
import Keyguard.Json.Record

/-!
# Users and callers

A device has users, numbered by 32 bits; number 0 is the system user. A call comes from the
trusted system or from an ordinary caller that runs as some user, and the transport that carries
the call vouches for which.

As JSON a caller is the variant `System`, or the variant `User` with the user's number.
-/

namespace Keyguard

/-- A user of the device. -/
structure UserId where
  number : UInt32
  deriving DecidableEq

namespace UserId

/-- The first user, whose credential files lie in the shared system directory. -/
def system : UserId := ⟨0⟩

/-- The decimal digits of a user's number. -/
def digits (u : UserId) : List Digit := Digits.ofNat u.number.toNat

/-- The decimal form of a user's number. -/
def text (u : UserId) : String := Digits.text u.digits

/-- The user with a number, if 32 bits hold it. -/
def ofInt? (i : Int) : Option UserId :=
  if 0 ≤ i ∧ i < UInt32.size then some ⟨UInt32.ofNat i.toNat⟩ else none

/-- A user's number as JSON. -/
def toJson (u : UserId) : Json := .ofInt u.number.toNat

/-- The user whose number a JSON value is. -/
def ofJson? (v : Json) : Option UserId := v.integer? 0 (UInt32.size - 1) >>= ofInt?

/-- A user's number is read back. -/
theorem ofJson?_toJson (u : UserId) : ofJson? u.toJson = some u := by
  have h := u.number.toNat_lt
  have hmin : Int64.minValue.toInt = -9223372036854775808 := rfl
  have h32 : UInt32.size = 4294967296 := rfl
  have h64 : UInt64.size = 18446744073709551616 := rfl
  have hi : u.toJson.integer? 0 (UInt32.size - 1) = some (u.number.toNat : Int) :=
    Json.integer?_ofInt (by omega) (by omega) (by omega)
  rw [ofJson?, hi, Option.bind_eq_bind, Option.bind_some, ofInt?, if_pos (by omega)]
  simp

end UserId

/-- Who makes a call. -/
inductive Caller where
  | system
  | user (id : UserId)
  deriving DecidableEq

namespace Caller

/-- How a caller is named in messages. -/
def text : Caller → String
  | .system => "system"
  | .user id => "user " ++ id.text

/-- A caller as JSON. -/
def toJson : Caller → Json
  | .system => .ofText "System"
  | .user id => .ofMembers [("User", id.toJson)]

/-- The caller that a JSON value names. -/
def ofJson? (v : Json) : Option Caller :=
  match v.variant? with
  | some ("System", none) => some .system
  | some ("System", some .null) => some .system
  | some ("User", some content) => (UserId.ofJson? content).map .user
  | _ => none

/-- A caller is read back. -/
theorem ofJson?_toJson (c : Caller) : ofJson? c.toJson = some c := by
  cases c with
  | system => rfl
  | user id =>
    have named : (toJson (.user id)).variant? = some ("User", some id.toJson) := rfl
    simp only [ofJson?, named, UserId.ofJson?_toJson, Option.map_some]

end Caller

end Keyguard
