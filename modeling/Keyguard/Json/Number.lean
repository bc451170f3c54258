import Keyguard.Json.Numeral

/-!
# The values of numerals

A numeral without fraction and exponent whose value fits 64 bits, signed or unsigned, is an
integer; every other numeral is a double (`-0` too, since no integer has that sign). A double is
read in four steps, which round more than once:

* **Digits.** Whole digits are taken into an unsigned 64-bit significand. At the first one that
  does not fit, it and the rest of the whole digits only raise the exponent.
* **Fraction.** Fraction digits are taken in the same way, each lowering the exponent; at the
  first one that does not fit, the rest are dropped.
* **Exponent.** The written exponent is added. One beyond 31 bits makes a significand other than
  zero too large, or the value zero.
* **Scaling.** The significand is rounded to a double and multiplied or divided by a rounded
  power of ten, by `10 ^ 308` at a time where the exponent is very low.

A number above the greatest double has no value.
-/

namespace Keyguard.Json

/-- The value of a numeral. -/
inductive Number where
  | integer (i : Int)
  | float (x : Float)

/-- A significand and the power of ten that it stands for. -/
structure Scaled where
  significand : Nat
  exponent : Int
  deriving DecidableEq

namespace Scaled

/-- Whether a digit still fits a 64-bit significand. -/
def fits (n : Nat) (d : Digit) : Bool := 10 * n + d.val < UInt64.size

/-- Takes the digits before the point. -/
def takeWhole (n : Nat) : List Digit → Scaled
  | [] => ⟨n, 0⟩
  | d :: ds => if fits n d then takeWhole (10 * n + d.val) ds else ⟨n, (d :: ds).length⟩

/-- Takes the digits after the point. -/
def takeFraction (x : Scaled) : List Digit → Scaled
  | [] => x
  | d :: ds =>
    if fits x.significand d then
      takeFraction ⟨10 * x.significand + d.val, x.exponent - 1⟩ ds
    else x

/-- A power of ten up to `10 ^ 308`, rounded to a double. -/
def powerOfTen (e : Nat) : Float := Float.ofScientific 1 false e

/-- `x / 10 ^ e`, dividing by at most `10 ^ 308` at a time. -/
def scaleDown (x : Float) (e : Nat) : Float :=
  if e ≤ 308 then x / powerOfTen e
  else if x == 0 then x
  else scaleDown (x / powerOfTen 308) (e - 308)
termination_by e
decreasing_by omega

/-- The double that a significand and an exponent stand for, if it is finite. -/
def toFloat? (x : Scaled) : Option Float :=
  let f := (UInt64.ofNat x.significand).toFloat
  if x.exponent < 0 then some (scaleDown f x.exponent.natAbs)
  else if x.exponent ≤ 308 then
    let y := f * powerOfTen x.exponent.toNat
    if y.isInf then none else some y
  else if x.significand = 0 then some f
  else none

/-- Adds a written exponent and reads the double. -/
def withExponent? (x : Scaled) : Option Exponent → Option Float
  | none => x.toFloat?
  | some e =>
    let n := Digits.toNat e.digits
    -- what the digits have moved the exponent by counts only if 31 bits hold the written one
    if n ≤ Int32.maxValue.toInt then
      toFloat? ⟨x.significand, if e.negative then x.exponent - n else x.exponent + n⟩
    else if x.significand ≠ 0 ∧ !e.negative then none
    else some 0

end Scaled

namespace Numeral

/-- The double that a numeral stands for, if it is not too large. -/
def toFloat? (n : Numeral) : Option Float :=
  ((Scaled.takeWhole 0 n.whole).takeFraction n.fraction).withExponent? n.exponent
    |>.map fun x => if n.negative then -x else x

/-- The value of a numeral. -/
def value? (n : Numeral) : Option Number :=
  let magnitude := Digits.toNat n.whole
  if n.fraction = [] ∧ n.exponent = none ∧ !n.negative ∧ magnitude < UInt64.size then
    some (.integer magnitude)
  else if n.fraction = [] ∧ n.exponent = none ∧ n.negative ∧ 0 < magnitude ∧
      Int64.minValue.toInt ≤ -magnitude then
    some (.integer (-magnitude))
  else n.toFloat?.map .float

end Numeral

namespace Number

/-- The integer, if it is one. A double is none, whatever its value. -/
def integer? : Number → Option Int
  | .integer i => some i
  | .float _ => none

/-- The nearest double. -/
def toDouble : Number → Float
  | .integer i =>
    if i < 0 then -(UInt64.ofNat i.natAbs).toFloat else (UInt64.ofNat i.natAbs).toFloat
  | .float x => x

/-- The nearest single; a double is rounded again. -/
def toSingle : Number → Float32
  | .integer i =>
    if i < 0 then -(UInt64.ofNat i.natAbs).toFloat32 else (UInt64.ofNat i.natAbs).toFloat32
  | .float x => singleOfDouble x

/-- The spelling of a number; a double that is not finite has none. -/
def numeral? : Number → Option Numeral
  | .integer i => some (.ofInt i)
  | .float x => FloatSpelling.double.ofBits? x.toBits.toNat

end Number

end Keyguard.Json
