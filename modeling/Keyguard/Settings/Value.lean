import Keyguard.Text.Blank
import Keyguard.Text.Integer

/-!
# Values of settings

A setting is a truth value, a signed 64-bit integer or a text, and the settings table keeps the
canonical text of each. The three can be read across: what was written as one kind may be read
as another.

* As a **truth value**, the texts `1` and `true` hold and all others do not.
* As an **integer**, blanks at both ends are dropped, and what is left must be an optional sign
  and decimal digits of a number within 64 bits.
-/

namespace Keyguard

/-- The value of a setting. -/
inductive SettingValue where
  | boolean (b : Bool)
  | long (i : Int64)
  | text (s : String)
  deriving DecidableEq

namespace SettingValue

/-- The canonical text of a value. -/
def stored : SettingValue → String
  | .boolean true => "1"
  | .boolean false => "0"
  | .long i => Integer.text i.toInt
  | .text s => s

/-- The truth value of a stored text. -/
def readBoolean (s : String) : Bool := s == "1" || s == "true"

/-- The integer of a stored text. -/
def readLong? (s : String) : Option Int64 := do
  let i ← Integer.ofChars? (Text.trimBlanks s.toList)
  if Int64.minValue.toInt ≤ i ∧ i ≤ Int64.maxValue.toInt then some (Int64.ofInt i) else none

/-- A stored integer is read back. -/
theorem readLong?_text {i : Int} (low : Int64.minValue.toInt ≤ i)
    (high : i ≤ Int64.maxValue.toInt) : readLong? (Integer.text i) = some (Int64.ofInt i) := by
  rw [readLong?, Integer.text, String.toList_ofList, Integer.trimBlanks_chars,
    Integer.ofChars?_chars, Option.bind_eq_bind, Option.bind_some, if_pos ⟨low, high⟩]

end SettingValue

end Keyguard
