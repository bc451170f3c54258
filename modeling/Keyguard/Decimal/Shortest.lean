import Keyguard.Decimal.Binary
import Keyguard.Text.Digits

/-!
# The shortest decimal of a floating-point value

Among the decimals `coefficient · 10 ^ exponent` that are nearer to a value than to any other
value of its format, `Magnitude.shortest` picks one with the fewest digits, and of these the
one nearest to the value. The steps, all in whole numbers:

* **Interval.** The decimals that read back as `m · 2 ^ q` lie between `(4m - 2) · 2 ^ (q - 2)`
  (or `(4m - 1) · 2 ^ (q - 2)` where the gap below is narrow) and `(4m + 2) · 2 ^ (q - 2)`. Both
  ends belong to it exactly when `m` is even, since a tie is read to the even mantissa.
* **Grid.** The multiples of `10 ^ p` next to the value are tested. If any multiple lies in the
  interval, so does one of these two.
* **Search.** The step shrinks from a power of ten above the value. The first grid with a hit
  has the fewest digits. Seventeen digits always suffice, so twenty steps do.
-/

namespace Keyguard

/-- The number `coefficient · 10 ^ exponent`. -/
structure Decimal where
  coefficient : Nat
  exponent : Int
  deriving DecidableEq

namespace Magnitude

/-- The decimals that read back as a magnitude, measured on the grid of multiples of `10 ^ p`:
a multiple `c · 10 ^ p` stands at `c * step`, the value at `middle` and the ends at `low` and
`high`, all in one unit. -/
structure Window where
  step : Nat
  low : Nat
  middle : Nat
  high : Nat
  closed : Bool

/-- The window of a magnitude on the grid of multiples of `10 ^ p`. -/
def window (x : Magnitude) (p : Int) : Window :=
  -- negative powers of ten and of two are moved to the other side of each comparison
  let unit := Nat.pow 10 (-p).toNat * Nat.pow 2 (x.exponent - 2).toNat
  { step := Nat.pow 10 p.toNat * Nat.pow 2 (2 - x.exponent).toNat
    low := (4 * x.mantissa - if x.narrowBelow then 1 else 2) * unit
    middle := 4 * x.mantissa * unit
    high := (4 * x.mantissa + 2) * unit
    closed := x.mantissa % 2 == 0 }

namespace Window

/-- Whether the multiple `c` of the step reads back as the value. -/
def holds (w : Window) (c : Nat) : Bool :=
  if w.closed then w.low ≤ c * w.step && c * w.step ≤ w.high
  else w.low < c * w.step && c * w.step < w.high

/-- The multiple of the step at or below the value. -/
def below (w : Window) : Nat := w.middle / w.step

/-- Of the two multiples around the value, the nearer; a tie goes to the even one. -/
def nearest (w : Window) : Nat :=
  let c := w.below
  let down := w.middle - c * w.step
  let up := (c + 1) * w.step - w.middle
  if down < up then c
  else if up < down then c + 1
  else if c % 2 = 0 then c else c + 1

/-- The multiple of the step that reads back as the value, if there is one: the nearest of those
that do. -/
def hit? (w : Window) : Option Nat :=
  match w.holds w.below, w.holds (w.below + 1) with
  | true, true => some w.nearest
  | true, false => some w.below
  | false, true => some (w.below + 1)
  | false, false => none

end Window

/-- A power of ten above the value, within a step of the least one. -/
def topExponent (x : Magnitude) : Int :=
  let unit := Nat.pow 2 (-x.exponent).toNat
  let whole := x.mantissa * Nat.pow 2 x.exponent.toNat / unit
  if whole = 0 then 2 - (Digits.ofNat (unit / x.mantissa)).length
  else (Digits.ofNat whole).length

/-- The first hit on the grids of `10 ^ p`, `10 ^ (p - 1)`, …, at most `steps` of them. -/
def searchFrom (x : Magnitude) : Nat → Int → Decimal
  | 0, p => ⟨(x.window p).nearest, p⟩
  | steps + 1, p =>
    match (x.window p).hit? with
    | some c => ⟨c, p⟩
    | none => searchFrom x steps (p - 1)

/-- The shortest decimal that reads back as a magnitude other than zero. -/
def shortest (x : Magnitude) : Decimal := x.searchFrom 20 x.topExponent

end Magnitude

end Keyguard
