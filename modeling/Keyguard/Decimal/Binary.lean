/-!
# Binary floating-point values

A floating-point pattern has a sign bit, an exponent field and a fraction field.
`FloatFormat.read` tells the pattern's exact value, `mantissa · 2 ^ exponent`, and whether the
gap to the next value below is half the gap to the next value above, which is so at the powers
of two. The two formats in use are `double` and `single`.

`FloatFormat.convert` takes a pattern of one format to the nearest of the other, by exact
arithmetic: a tie goes to the even pattern, and what lies beyond the greatest value to infinity.
-/

namespace Keyguard

/-- The widths of the fields of a binary floating-point format. -/
structure FloatFormat where
  exponentBits : Nat
  fractionBits : Nat

/-- An exact magnitude `mantissa · 2 ^ exponent`. At a power of two, `narrowBelow` holds: the
next value below is half as far away as the next value above. -/
structure Magnitude where
  mantissa : Nat
  exponent : Int
  narrowBelow : Bool
  deriving DecidableEq

namespace FloatFormat

/-- Double precision. -/
def double : FloatFormat := ⟨11, 52⟩

/-- Single precision. -/
def single : FloatFormat := ⟨8, 23⟩

/-- The exponent of the least positive value. -/
def leastExponent (f : FloatFormat) : Int := 2 - Nat.pow 2 (f.exponentBits - 1) - f.fractionBits

/-- The sign (`true` is negative) and the magnitude of a pattern; an infinity and a pattern that
is no number have none. -/
def read (f : FloatFormat) (bits : Nat) : Option (Bool × Magnitude) :=
  let fraction := bits % Nat.pow 2 f.fractionBits
  let field := bits / Nat.pow 2 f.fractionBits % Nat.pow 2 f.exponentBits
  let negative := bits / Nat.pow 2 (f.fractionBits + f.exponentBits) % 2 == 1
  if field = Nat.pow 2 f.exponentBits - 1 then none
  else if field = 0 then some (negative, ⟨fraction, f.leastExponent, false⟩)
  else some (negative, ⟨fraction + Nat.pow 2 f.fractionBits, f.leastExponent + (field - 1 : Nat),
    fraction == 0 && field != 1⟩)

/-- The pattern of infinity. -/
def infinity (f : FloatFormat) : Nat := (Nat.pow 2 f.exponentBits - 1) * Nat.pow 2 f.fractionBits

/-- `n / 2 ^ k`, rounded to the nearest number and at a tie to the even one. -/
def roundedShift (n k : Nat) : Nat :=
  let down := n / Nat.pow 2 k
  let rest := 2 * (n % Nat.pow 2 k)
  if rest < Nat.pow 2 k then down
  else if Nat.pow 2 k < rest then down + 1
  else if down % 2 = 0 then down else down + 1

/-- The pattern without a sign whose value is nearest to a magnitude. -/
def nearest (f : FloatFormat) (x : Magnitude) : Nat :=
  if x.mantissa = 0 then 0
  else
    -- the mantissa is rounded in units of `2 ^ q`, so that it has as many bits as the format holds
    let q := max f.leastExponent (x.exponent + x.mantissa.log2 - f.fractionBits)
    let rounded :=
      if q ≤ x.exponent then x.mantissa * Nat.pow 2 (x.exponent - q).toNat
      else roundedShift x.mantissa (q - x.exponent).toNat
    -- a mantissa of full length adds one to the exponent field
    min f.infinity ((q - f.leastExponent).toNat * Nat.pow 2 f.fractionBits + rounded)

/-- The pattern of another format whose value is nearest to that of a pattern. An infinity stays
one, and so does a pattern that is no number. -/
def convert (f g : FloatFormat) (bits : Nat) : Nat :=
  let sign := bits / Nat.pow 2 (f.fractionBits + f.exponentBits) % 2 *
    Nat.pow 2 (g.fractionBits + g.exponentBits)
  match f.read bits with
  | some (_, x) => sign + g.nearest x
  | none =>
    if bits % Nat.pow 2 f.fractionBits = 0 then sign + g.infinity
    else sign + g.infinity + Nat.pow 2 (g.fractionBits - 1)

end FloatFormat

/-- The single nearest to a double. -/
def singleOfDouble (x : Float) : Float32 :=
  .ofBits (UInt32.ofNat (FloatFormat.double.convert .single x.toBits.toNat))

/-- The double with the value of a single. -/
def doubleOfSingle (x : Float32) : Float :=
  .ofBits (UInt64.ofNat (FloatFormat.single.convert .double x.toBits.toNat))

end Keyguard
