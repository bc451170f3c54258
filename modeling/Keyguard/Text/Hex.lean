import Keyguard.Text.Bytes

/-!
# Hexadecimal bytes

Credential hashes are typed with two hexadecimal digits a byte. `Hex.decode?` reads digits of
either case and refuses an odd count; `Hex.encode` writes lower case.

* `decode?_encode`: reading undoes writing.
-/

namespace Keyguard.Hex

/-- The value of a hexadecimal digit of either case. -/
def digitValue? (c : Char) : Option Nat :=
  let n := c.toNat
  if 48 ≤ n ∧ n < 58 then some (n - 48)
  else if 97 ≤ n ∧ n < 103 then some (n - 87)
  else if 65 ≤ n ∧ n < 71 then some (n - 55)
  else none

/-- The lower-case digit of a value below 16. -/
def digit (n : Nat) : Char := Char.ofNat (if n < 10 then 48 + n else 87 + n)

/-- The bytes that pairs of hexadecimal digits spell. -/
def decode? : List Char → Option Bytes
  | [] => some []
  | [_] => none
  | a :: b :: cs =>
    match digitValue? a, digitValue? b, decode? cs with
    | some x, some y, some bs => some (UInt8.ofNat (16 * x + y) :: bs)
    | _, _, _ => none

/-- The two digits of each byte. -/
def encode (bs : Bytes) : List Char :=
  bs.flatMap fun b => [digit (b.toNat / 16), digit (b.toNat % 16)]

private theorem digitValue?_digit : ∀ n < 16, digitValue? (digit n) = some n := by decide

/-- Reading the digits of some bytes gives the bytes. -/
theorem decode?_encode (bs : Bytes) : decode? (encode bs) = some bs := by
  induction bs with
  | nil => rfl
  | cons b bs ih =>
    have hb : b.toNat < 256 := b.toNat_lt
    have hhi := digitValue?_digit (b.toNat / 16) (by omega)
    have hlo := digitValue?_digit (b.toNat % 16) (by omega)
    have hsum : 16 * (b.toNat / 16) + b.toNat % 16 = b.toNat := by omega
    simp only [encode] at ih
    simp only [encode, List.flatMap_cons, List.cons_append, List.nil_append, decode?, hhi, hlo, ih,
      hsum, UInt8.ofNat_toNat]

end Keyguard.Hex
