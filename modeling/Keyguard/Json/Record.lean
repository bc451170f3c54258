import Keyguard.Json.Number
import Keyguard.Json.Tree
import Keyguard.NameMap

/-!
# Reading and writing typed values

Each reader takes the JSON values of one type and refuses all others; no reader takes `null` in
place of something else.

* A **number** field of integer type takes integers in range only, so neither `3.0` nor `-0`. A
  floating-point field takes every number.
* A **record** is an object, in which unknown names are skipped unread and a known name may come
  once, or an array of the fields in order, of which later ones may be missing but none may be
  added. Every name must be a text, known or not. Which fields are required is for the caller
  of `fields?` to say.
* A **map** is an object with any names, of which the last of a name counts.
* A **variant** is its name, or an object whose only member is the name with the content.
-/

namespace Keyguard.Json

/-! ### Reading -/

/-- The text that a value is. -/
def text? : Json → Option String
  | .string body => Quoted.decode? body
  | _ => none

/-- The truth value that a value is. -/
def bool? : Json → Option Bool
  | .bool b => some b
  | _ => none

/-- The number that a value is. -/
def number? : Json → Option Number
  | .number n => n.value?
  | _ => none

/-- The integer between two bounds that a value is. -/
def integer? (low high : Int) (v : Json) : Option Int := do
  let i ← (← v.number?).integer?
  if low ≤ i ∧ i ≤ high then some i else none

/-- The signed 64-bit integer that a value is. -/
def int64? (v : Json) : Option Int64 :=
  (v.integer? Int64.minValue.toInt Int64.maxValue.toInt).map Int64.ofInt

/-- The double that a value is. -/
def double? (v : Json) : Option Float := v.number?.map Number.toDouble

/-- The single that a value is. -/
def single? (v : Json) : Option Float32 := v.number?.map Number.toSingle

/-- The list that a value is, each item read by a reader. -/
def list? {α : Type} (item? : Json → Option α) : Json → Option (List α)
  | .array vs => vs.mapM item?
  | _ => none

/-- The members of an object by name. -/
def members? : Json → Option (List (String × Json))
  | .object ms => ms.mapM fun (body, v) => (Quoted.decode? body).map (·, v)
  | _ => none

/-- The map that a value is, each value read by a reader. -/
def map? {α : Type} (value? : Json → Option α) (v : Json) : Option (NameMap α) := do
  let ms ← v.members?
  let values ← ms.mapM fun (name, v) => (value? v).map (name, ·)
  return .ofList values

/-- The values that a record gives its fields, `none` for a field without one. -/
def fields? (names : List String) : Json → Option (List (Option Json))
  | .array vs =>
    if vs.length ≤ names.length then
      some (vs.map some ++ List.replicate (names.length - vs.length) none)
    else none
  | v => do
    let ms ← v.members?
    if names.all fun name => ms.countP (·.1 = name) ≤ 1 then
      some (names.map fun name => ms.lookup name)
    else none

/-- The name of a variant and its content, if it has one. -/
def variant? : Json → Option (String × Option Json)
  | .object [(body, v)] => (Quoted.decode? body).map (·, some v)
  | v => v.text?.map (·, none)

/-! ### Writing -/

/-- A text as JSON. -/
def ofText (s : String) : Json := .string (Quoted.encode s)

/-- An integer as JSON. -/
def ofInt (i : Int) : Json := .number (.ofInt i)

/-- A double as JSON, `null` if it is not finite. -/
def ofDouble (x : Float) : Json :=
  ((FloatSpelling.double.ofBits? x.toBits.toNat).map .number).getD .null

/-- A single as JSON, `null` if it is not finite. -/
def ofSingle (x : Float32) : Json :=
  ((FloatSpelling.single.ofBits? x.toBits.toNat).map .number).getD .null

/-- An object with members in the given order. -/
def ofMembers (ms : List (String × Json)) : Json :=
  .object (ms.map fun (name, v) => (Quoted.encode name, v))

/-- A map as JSON, in the order of its names. -/
def ofMap (m : NameMap Json) : Json := ofMembers m.entries

/-! ### Reading undoes writing -/

theorem text?_ofText (s : String) : (ofText s).text? = some s := Quoted.decode?_encode s

/-- The least spelling of an integer that 64 bits hold stands for it. -/
theorem Numeral.value?_ofInt {i : Int} (hi : Int64.minValue.toInt ≤ i ∧ i < UInt64.size) :
    (Numeral.ofInt i).value? = some (.integer i) := by
  simp only [Numeral.value?, Numeral.ofInt, Digits.toNat_ofNat, true_and, decide_eq_true_eq,
    Bool.not_eq_true', decide_eq_false_iff_not]
  have hmin : Int64.minValue.toInt = -9223372036854775808 := rfl
  have hsize : UInt64.size = 18446744073709551616 := rfl
  split
  · rename_i h; congr 2; omega
  · rename_i h
    rw [if_pos (by omega)]; congr 2; omega

/-- An integer within the bounds is read back if 64 bits hold it. -/
theorem integer?_ofInt {low high i : Int} (hlow : low ≤ i) (hhigh : i ≤ high)
    (hi : Int64.minValue.toInt ≤ i ∧ i < UInt64.size) : (ofInt i).integer? low high = some i := by
  simp only [integer?, number?, ofInt, Numeral.value?_ofInt hi, bind, Option.bind, Number.integer?]
  rw [if_pos ⟨hlow, hhigh⟩]

/-- A list is read back if each of its items is. -/
theorem list?_map {α : Type} {read : Json → Option α} {write : α → Json} {l : List α}
    (h : ∀ a ∈ l, read (write a) = some a) : (Json.array (l.map write)).list? read = some l := by
  rw [list?]
  induction l with
  | nil => rfl
  | cons a l ih =>
    rw [List.forall_mem_cons] at h
    rw [List.map_cons, List.mapM_cons, h.1, ih h.2]
    rfl

end Keyguard.Json
