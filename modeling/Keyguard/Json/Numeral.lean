import Keyguard.Text.Bytes
import Keyguard.Text.Digits
import Keyguard.Decimal.Shortest

/-!
# Numerals of JSON

A numeral is the spelling of a number: a sign, digits, perhaps a fraction and perhaps an
exponent. `Numeral.scan` takes the longest numeral from the front of some bytes and
`Numeral.bytes` writes one; the spelling of the exponent's sign and letter is not kept.

How numbers are spelled:

* an integer by its least digits (`Numeral.ofInt`);
* a floating-point value by its shortest decimal, positionally between two bounds of the
  decimal exponent and with an exponent elsewhere (`FloatSpelling`). Doubles are positional
  from `1e-5` up to `1e16`, singles from `1e-6` up to `1e13`.
-/

namespace Keyguard.Json

/-- The exponent of a numeral. -/
structure Exponent where
  negative : Bool
  digits : List Digit
  deriving DecidableEq

/-- The spelling of a number. A numeral without a fraction has no fraction digits. -/
structure Numeral where
  negative : Bool
  whole : List Digit
  fraction : List Digit
  exponent : Option Exponent
  deriving DecidableEq

/-! ### Reading -/

/-- The digit that a byte names. -/
def digitOfByte? (b : UInt8) : Option Digit :=
  if h : 48 ≤ b.toNat ∧ b.toNat < 58 then some ⟨b.toNat - 48, by omega⟩ else none

/-- The longest row of digits at the front, and what follows it. -/
def takeDigits : Bytes → List Digit × Bytes
  | [] => ([], [])
  | b :: rest =>
    match digitOfByte? b with
    | some d => let (ds, after) := takeDigits rest; (d :: ds, after)
    | none => ([], b :: rest)

namespace Numeral

/-- The digits before the point: at least one, and a zero only alone. -/
def scanWhole (b : Bytes) : Option (List Digit × Bytes) :=
  match takeDigits b with
  | ([], _) => none
  | (d :: ds, rest) => if d = 0 ∧ ds ≠ [] then none else some (d :: ds, rest)

/-- A point and at least one digit, or nothing. -/
def scanFraction : Bytes → Option (List Digit × Bytes)
  | 0x2e :: b =>
    match takeDigits b with
    | ([], _) => none
    | (ds, rest) => some (ds, rest)
  | b => some ([], b)

/-- At least one digit of an exponent whose sign is read. -/
def scanExponentDigits (negative : Bool) (b : Bytes) : Option (Option Exponent × Bytes) :=
  match takeDigits b with
  | ([], _) => none
  | (ds, rest) => some (some ⟨negative, ds⟩, rest)

/-- A letter `e` of either case, an optional sign and at least one digit, or nothing. -/
def scanExponent : Bytes → Option (Option Exponent × Bytes)
  | b :: rest =>
    if b = 0x65 ∨ b = 0x45 then
      match rest with
      | 0x2d :: rest => scanExponentDigits true rest
      | 0x2b :: rest => scanExponentDigits false rest
      | rest => scanExponentDigits false rest
    else some (none, b :: rest)
  | [] => some (none, [])

/-- A numeral after its sign. -/
def scanMagnitude (negative : Bool) (b : Bytes) : Option (Numeral × Bytes) := do
  let (whole, b) ← scanWhole b
  let (fraction, b) ← scanFraction b
  let (exponent, b) ← scanExponent b
  return (⟨negative, whole, fraction, exponent⟩, b)

/-- The numeral at the front, and what follows it. -/
def scan : Bytes → Option (Numeral × Bytes)
  | 0x2d :: b => scanMagnitude true b
  | b => scanMagnitude false b

/-! ### A scan shortens its input -/

theorem length_takeDigits_le (b : Bytes) : (takeDigits b).2.length ≤ b.length := by
  induction b with
  | nil => simp [takeDigits]
  | cons x rest ih =>
    simp only [takeDigits]
    split
    · simp only [List.length_cons]; omega
    · simp

private theorem length_takeDigits_lt {b rest : Bytes} {d : Digit} {ds : List Digit}
    (h : takeDigits b = (d :: ds, rest)) : rest.length < b.length := by
  cases b with
  | nil => simp [takeDigits] at h
  | cons x b =>
    simp only [takeDigits] at h
    split at h
    · have := length_takeDigits_le b
      simp only [Prod.mk.injEq] at h
      rw [← h.2, List.length_cons]; omega
    · simp at h

theorem length_scanWhole_lt {b rest : Bytes} {ds : List Digit}
    (h : scanWhole b = some (ds, rest)) : rest.length < b.length := by
  unfold scanWhole at h
  split at h
  · simp at h
  · rename_i hb
    split at h
    · simp at h
    · simp only [Option.some.injEq, Prod.mk.injEq] at h
      rw [← h.2]; exact length_takeDigits_lt hb

theorem length_scanFraction_le {b rest : Bytes} {ds : List Digit}
    (h : scanFraction b = some (ds, rest)) : rest.length ≤ b.length := by
  unfold scanFraction at h
  split at h
  · split at h
    · simp at h
    · rename_i b _ _ _ _ hb
      have := length_takeDigits_le b
      simp only [Option.some.injEq, Prod.mk.injEq] at h
      rw [hb, h.2] at this
      exact Nat.le_succ_of_le this
  · simp only [Option.some.injEq, Prod.mk.injEq] at h
    exact Nat.le_of_eq (h.2 ▸ rfl)

private theorem length_scanExponentDigits_le {negative : Bool} {b rest : Bytes}
    {e : Option Exponent} (h : scanExponentDigits negative b = some (e, rest)) :
    rest.length ≤ b.length := by
  unfold scanExponentDigits at h
  split at h
  · simp at h
  · rename_i hb
    have := length_takeDigits_le b
    simp only [Option.some.injEq, Prod.mk.injEq] at h
    rw [hb, h.2] at this
    exact this

theorem length_scanExponent_le {b rest : Bytes} {e : Option Exponent}
    (h : scanExponent b = some (e, rest)) : rest.length ≤ b.length := by
  unfold scanExponent at h
  split at h
  · split at h
    · split at h <;> have := length_scanExponentDigits_le h <;>
        simp only [List.length_cons] at this ⊢ <;> omega
    · simp only [Option.some.injEq, Prod.mk.injEq] at h
      exact Nat.le_of_eq (h.2 ▸ rfl)
  · simp only [Option.some.injEq, Prod.mk.injEq] at h
    exact Nat.le_of_eq (h.2 ▸ rfl)

theorem length_scanMagnitude_lt {negative : Bool} {b rest : Bytes} {n : Numeral}
    (h : scanMagnitude negative b = some (n, rest)) : rest.length < b.length := by
  simp only [scanMagnitude, bind, Option.bind_eq_some_iff, pure, Option.some.injEq,
    Prod.mk.injEq, Prod.exists] at h
  obtain ⟨ds, b₁, h₁, fs, b₂, h₂, e, b₃, h₃, -, rfl⟩ := h
  have := length_scanWhole_lt h₁
  have := length_scanFraction_le h₂
  have := length_scanExponent_le h₃
  omega

/-- What follows a numeral is shorter than the numeral with what follows. -/
theorem length_scan_lt {b rest : Bytes} {n : Numeral} (h : scan b = some (n, rest)) :
    rest.length < b.length := by
  unfold scan at h
  split at h
  · have := length_scanMagnitude_lt h
    simp only [List.length_cons]; omega
  · exact length_scanMagnitude_lt h

/-! ### Writing -/

/-- The characters of a numeral. The sign of an exponent is always written. -/
def chars (n : Numeral) : List Char :=
  (if n.negative then ['-'] else []) ++ n.whole.map Digit.toChar ++
    (if n.fraction = [] then [] else '.' :: n.fraction.map Digit.toChar) ++
    match n.exponent with
    | none => []
    | some e => 'e' :: (if e.negative then '-' else '+') :: e.digits.map Digit.toChar

/-- The text of a numeral. -/
def text (n : Numeral) : String := String.ofList n.chars

/-- The bytes of a numeral, which are the codes of its characters. -/
def bytes (n : Numeral) : Bytes := n.chars.map fun c => UInt8.ofNat c.toNat

/-- The least spelling of an integer. -/
def ofInt (i : Int) : Numeral := ⟨i < 0, Digits.ofNat i.natAbs, [], none⟩

/-- The numeral `0.0` with a sign. -/
def zero (negative : Bool) : Numeral := ⟨negative, [0], [0], none⟩

end Numeral

/-- Where a floating-point value is spelled positionally: its exponent in scientific form lies
between the two bounds. -/
structure FloatSpelling where
  format : FloatFormat
  least : Int
  greatest : Int

namespace FloatSpelling

/-- Doubles are spelled positionally from `1e-5` up to `1e16`. -/
def double : FloatSpelling := ⟨.double, -5, 15⟩

/-- Singles are spelled positionally from `1e-6` up to `1e13`. -/
def single : FloatSpelling := ⟨.single, -6, 12⟩

/-- The spelling of a decimal. There is a digit on either side of the point in a positional
spelling, and no point after a single digit before an exponent. -/
def ofDecimal (s : FloatSpelling) (negative : Bool) (x : Decimal) : Numeral :=
  let digits := Digits.ofNat x.coefficient
  let scientific := x.exponent + digits.length - 1
  if scientific < s.least ∨ s.greatest < scientific then
    ⟨negative, digits.take 1, digits.drop 1,
      some ⟨scientific < 0, Digits.ofNat scientific.natAbs⟩⟩
  else if 0 ≤ x.exponent then
    ⟨negative, digits ++ List.replicate x.exponent.toNat 0, [0], none⟩
  else
    let places := x.exponent.natAbs
    if places < digits.length then
      ⟨negative, digits.take (digits.length - places), digits.drop (digits.length - places), none⟩
    else ⟨negative, [0], List.replicate (places - digits.length) 0 ++ digits, none⟩

/-- The spelling of a floating-point pattern; an infinity and a pattern that is no number have
none. -/
def ofBits? (s : FloatSpelling) (bits : Nat) : Option Numeral :=
  match s.format.read bits with
  | none => none
  | some (negative, x) =>
    some (if x.mantissa = 0 then Numeral.zero negative else s.ofDecimal negative x.shortest)

end FloatSpelling

end Keyguard.Json
