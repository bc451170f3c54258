import Mathlib

/-!
# The fields of a double

A pattern of 64 bits has a sign, an exponent field of 11 bits and a fraction of 52 bits, from the
top down. What it stands for is told by the two fields behind the sign (`unpack_cases`): the
greatest exponent field is that of infinities and of what is no number, the least one that of zeros
and of mantissas without a leading bit.
-/

namespace Keyguard

open Float.Model UnpackedFloat

/-- The pattern of a double. -/
abbrev DoublePattern := BitVec Format.binary64.numBits

variable (b : DoublePattern)

theorem toNat_unpackExponent : (unpackExponent b).toNat = b.toNat / 2 ^ 52 % 2 ^ 11 := by
  rw [unpackExponent_def, BitVec.extractLsb'_toNat, Nat.shiftRight_eq_div_pow]

theorem toNat_unpackMantissa : (unpackMantissa b).toNat = b.toNat % 2 ^ 52 := by
  rw [unpackMantissa_def, BitVec.extractLsb'_toNat, Nat.shiftRight_zero]

theorem toNat_unpackSign : (unpackSign b).toNat = b.toNat / 2 ^ 63 % 2 := by
  rw [unpackSign_def, BitVec.extractLsb'_toNat, Nat.shiftRight_eq_div_pow]
  rfl

/-- The sign of a double is negative if its first bit is set. -/
theorem ofBitVec_unpackSign :
    Sign.ofBitVec (unpackSign b) = if b.toNat < 2 ^ 63 then .positive else .negative := by
  have bound : b.toNat < 2 ^ 64 := b.isLt
  have positive : unpackSign b = 0#1 ↔ b.toNat < 2 ^ 63 := by
    rw [← BitVec.toNat_inj, toNat_unpackSign]
    change _ = 0 ↔ _
    omega
  simp only [Sign.ofBitVec, positive]

/-- What a pattern stands for, by its exponent field and its fraction. -/
theorem unpack_cases :
    let s := Sign.ofBitVec (unpackSign b)
    let e := (unpackExponent b).toNat
    let m := (unpackMantissa b).toNat
    let u := UnpackedFloat.unpack .binary64 b
    (e = 2047 ∧ m = 0 ∧ u = .infinity s) ∨ (e = 2047 ∧ m ≠ 0 ∧ u = .notANumber) ∨
    (e = 0 ∧ m = 0 ∧ u = .zero s) ∨ (e = 0 ∧ ∃ pos, u = .finite s m (-1074) pos) ∨
    (0 < e ∧ e < 2047 ∧ ∃ pos, u = .finite s (2 ^ 52 + m) (e - 1075) pos) := by
  intro s e m u
  have bias : Format.binary64.exponentBias = 1023 := by decide
  have ones : unpackExponent b = -1#_ ↔ e = 2047 := by
    rw [← BitVec.toNat_inj]
    rfl
  have least : unpackExponent b = 0#_ ↔ e = 0 := by
    rw [← BitVec.toNat_inj]
    rfl
  have none : unpackMantissa b = 0#_ ↔ m = 0 := by
    rw [← BitVec.toNat_inj]
    rfl
  have leading : (1#1 ++ unpackMantissa b).toNat = 2 ^ 52 + m := by
    rw [BitVec.toNat_append, ← Nat.shiftLeft_add_eq_or_of_lt (unpackMantissa b).isLt]
    rfl
  have field : e < 2 ^ 11 := (unpackExponent b).isLt
  have opened : u = UnpackedFloat.unpack .binary64 b := rfl
  simp only [UnpackedFloat.unpack, ones, least, none, leading, bias] at opened
  by_cases top : e = 2047
  · rw [if_pos top] at opened
    by_cases zero : m = 0
    · exact .inl ⟨top, zero, opened.trans (if_pos zero)⟩
    · exact .inr (.inl ⟨top, zero, opened.trans (if_neg zero)⟩)
  rw [if_neg top] at opened
  by_cases bottom : e = 0
  · rw [if_pos bottom] at opened
    by_cases zero : m = 0
    · exact .inr (.inr (.inl ⟨bottom, zero, opened.trans (dif_pos zero)⟩))
    · rw [dif_neg zero] at opened
      have exponent : (e : Int) - ((1023 : Nat) + (52 : Nat)) + 1 = -1074 := by
        rw [bottom]
        rfl
      rw [exponent] at opened
      exact .inr (.inr (.inr (.inl ⟨bottom, _, opened⟩)))
  · rw [if_neg bottom] at opened
    have exponent : (e : Int) - ((1023 : Nat) + (52 : Nat)) = e - 1075 := rfl
    rw [exponent] at opened
    exact .inr (.inr (.inr (.inr ⟨Nat.pos_of_ne_zero bottom, by omega, _, opened⟩)))

end Keyguard
