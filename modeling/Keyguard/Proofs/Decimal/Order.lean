import Keyguard.Gesture.Ranking
import Keyguard.Proofs.Decimal.Fields

/-!
# The total order of doubles

`scoreKey` puts all patterns of doubles in one row. Where neither of two doubles is no number, the
row has them in the order of the numbers (`lt_iff_scoreKey`): they are compared by what is behind
the sign of their patterns (`Spells.lt_iff`), and only the two zeros, which are equal as numbers,
have different places. Different patterns have different places (`scoreKey_injective`).
-/

namespace Keyguard

open Float.Model UnpackedFloat

/-- Whether an unpacked double is what a sign and the rest of a pattern stand for. The rest of a
finite one is `2 ^ 52` for every step of the exponent above the least one, and the mantissa. -/
inductive Spells (s : Sign) : Nat → UnpackedFloat → Prop
  | infinity : Spells s (2047 * 2 ^ 52) (.infinity s)
  | zero : Spells s 0 (.zero s)
  | finite (e m : Nat) (pos : 0 < m) (exponent : e ≤ 2045) (mantissa : m < 2 ^ 53)
      (leading : e = 0 ∨ 2 ^ 52 ≤ m) : Spells s (e * 2 ^ 52 + m) (.finite s m (e - 1074) pos)

/-- Doubles are compared by the rest of their patterns, with the sign in front. -/
theorem Spells.lt_iff {s t : Sign} {p q : Nat} {u v : UnpackedFloat} (hu : Spells s p u)
    (hv : Spells t q v) : u.lt v = true ↔ s.apply p < t.apply q := by
  -- kinds and signs are compared first, and of two finite ones the exponents before the mantissas
  cases hu <;> cases hv <;> cases s <;> cases t <;>
    simp only [UnpackedFloat.lt, UnpackedFloat.compare, Sign.apply, beq_iff_eq, Option.some.injEq,
      Ordering.then_eq_lt, Ordering.swap_eq_lt, Ordering.then_eq_gt, Int.compare_eq_lt,
      Nat.compare_eq_lt, Int.compare_eq_gt, Nat.compare_eq_gt, Int.compare_eq_eq, reduceCtorEq,
      false_iff, true_iff]
  case infinity.infinity.negative.positive => decide
  all_goals omega

/-- A pattern that is a number spells what it stands for. -/
theorem spells_unpack {b : DoublePattern}
    (number : UnpackedFloat.unpack .binary64 b ≠ .notANumber) :
    Spells (if b.toNat < 2 ^ 63 then .positive else .negative) (b.toNat % 2 ^ 63)
      (UnpackedFloat.unpack .binary64 b) := by
  have rest : b.toNat % 2 ^ 63 =
      (unpackExponent b).toNat * 2 ^ 52 + (unpackMantissa b).toNat := by
    rw [toNat_unpackExponent, toNat_unpackMantissa]
    omega
  have fraction : (unpackMantissa b).toNat < 2 ^ 52 := (unpackMantissa b).isLt
  have fields := unpack_cases b
  rw [rest, ← ofBitVec_unpackSign]
  generalize (unpackExponent b).toNat = e at fields ⊢
  generalize (unpackMantissa b).toNat = m at fields fraction ⊢
  rcases fields with
    ⟨rfl, rfl, u⟩ | ⟨-, -, u⟩ | ⟨rfl, rfl, u⟩ | ⟨rfl, pos, u⟩ | ⟨above, below, pos, u⟩
  · rw [u]
    exact .infinity
  · exact absurd u number
  · rw [u]
    exact .zero
  · rw [u]
    exact .finite 0 m pos (by omega) (by omega) (.inl rfl)
  · rw [u]
    have spelled := Spells.finite (s := .ofBitVec (unpackSign b)) (e - 1) (2 ^ 52 + m) pos
      (by omega) (by omega) (.inr (by omega))
    have same : (e - 1) * 2 ^ 52 + (2 ^ 52 + m) = e * 2 ^ 52 + m := by omega
    have exponent : ((e - 1 : Nat) : Int) - 1074 = e - 1075 := by omega
    rwa [same, exponent] at spelled

theorem isNaN_eq_false_iff {x : Float} : x.isNaN = false ↔ x.toModel.unpack ≠ .notANumber := by
  rw [← Bool.not_eq_true]
  exact not_congr UnpackedFloat.isNaN_iff

theorem lt_iff_unpack {x y : Float} :
    x < y ↔ x.toModel.unpack.lt y.toModel.unpack = true :=
  decide_eq_true_iff

/-- No double is below what is no number. -/
theorem isNaN_of_lt {x y : Float} (less : x < y) : y.isNaN = false := by
  rw [isNaN_eq_false_iff]
  intro nan
  rw [lt_iff_unpack, nan, UnpackedFloat.lt] at less
  revert less
  cases x.toModel.unpack with
  | infinity s => cases s <;> exact nofun
  | _ => exact nofun

/-- The place of a double, by its pattern. -/
theorem scoreKey_eq (x : Float) :
    x.toBits.toNat < 2 ^ 63 ∧ scoreKey x = x.toBits.toNat ∨
      2 ^ 63 ≤ x.toBits.toNat ∧ x.toBits.toNat < 2 ^ 64 ∧
        scoreKey x = 2 ^ 63 - 1 - (x.toBits.toNat : Int) := by
  have bound : x.toBits.toNat < 2 ^ 64 := x.toBits.toNat_lt
  have largest : Int64.maxValue.toInt = 2 ^ 63 - 1 := rfl
  simp only [scoreKey, largest]
  split
  · exact .inl ⟨by omega, rfl⟩
  · exact .inr ⟨by omega, bound, rfl⟩

/-- Two numbers are in the order of their places, but for the two zeros. -/
theorem lt_iff_scoreKey {x y : Float} (hx : x.isNaN = false) (hy : y.isNaN = false) :
    x < y ↔ scoreKey x < scoreKey y ∧ ¬(scoreKey x = -1 ∧ scoreKey y = 0) := by
  rw [lt_iff_unpack]
  refine ((spells_unpack (isNaN_eq_false_iff.mp hx)).lt_iff
    (spells_unpack (isNaN_eq_false_iff.mp hy))).trans ?_
  change Sign.apply (if x.toBits.toNat < 2 ^ 63 then .positive else .negative)
      (x.toBits.toNat % 2 ^ 63 : Nat) <
    Sign.apply (if y.toBits.toNat < 2 ^ 63 then .positive else .negative)
      (y.toBits.toNat % 2 ^ 63 : Nat) ↔ _
  rcases scoreKey_eq x with ⟨px, key_x⟩ | ⟨nx, bound_x, key_x⟩ <;>
    rcases scoreKey_eq y with ⟨py, key_y⟩ | ⟨ny, bound_y, key_y⟩
  · rw [if_pos px, if_pos py, key_x, key_y, Sign.apply, Sign.apply]
    omega
  · rw [if_pos px, if_neg (Nat.not_lt_of_ge ny), key_x, key_y, Sign.apply, Sign.apply]
    omega
  · rw [if_neg (Nat.not_lt_of_ge nx), if_pos py, key_x, key_y, Sign.apply, Sign.apply]
    omega
  · rw [if_neg (Nat.not_lt_of_ge nx), if_neg (Nat.not_lt_of_ge ny), key_x, key_y, Sign.apply,
      Sign.apply]
    omega

/-- Different doubles have different places. -/
theorem scoreKey_injective {x y : Float} (h : scoreKey x = scoreKey y) : x = y := by
  have hx := scoreKey_eq x
  have hy := scoreKey_eq y
  exact Float.toBits_inj.mp (UInt64.toNat_inj.mp (by omega))

end Keyguard
