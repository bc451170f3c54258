import Keyguard.Json.Record

/-!
# The canonical form of a value

Where a value is kept as a whole, only its meaning stays: every number and text must have one,
of two members with one name the last counts, members stand in ascending order of their names,
and numbers and texts are spelled the way this library writes them. `Json.canonical?` gives that
form. It refuses a value with more arrays and objects inside each other than it is allowed.
-/

namespace Keyguard.Json

mutual

/-- The canonical form of a value with at most `depth` arrays and objects inside each other. -/
def canonical? (depth : Nat) : Json → Option Json
  | .null => some .null
  | .bool b => some (.bool b)
  | .number n => do return .number (← (← n.value?).numeral?)
  | .string body => (Quoted.decode? body).map ofText
  | .array vs =>
    match depth with
    | 0 => none
    | depth + 1 => (canonicalItems? depth vs).map .array
  | .object ms =>
    match depth with
    | 0 => none
    | depth + 1 => (canonicalMembers? depth ms).map fun ms => ofMap (.ofList ms)

/-- The canonical forms of the items of an array. -/
def canonicalItems? (depth : Nat) : List Json → Option (List Json)
  | [] => some []
  | v :: vs => do
    let v ← canonical? depth v
    let vs ← canonicalItems? depth vs
    return v :: vs

/-- The names and the canonical forms of the members of an object. -/
def canonicalMembers? (depth : Nat) : List (Bytes × Json) → Option (List (String × Json))
  | [] => some []
  | (body, v) :: ms => do
    let name ← Quoted.decode? body
    let v ← canonical? depth v
    let ms ← canonicalMembers? depth ms
    return (name, v) :: ms

end

/-- How many arrays and objects may be open at once in a value that is kept as a whole. -/
def greatestDepth : Nat := 127

end Keyguard.Json
