import Keyguard.Proofs.Decimal.Overflow
import Keyguard.Proofs.Decimal.Shortest

/-!
# Numerals that have a value

A numeral has no value only if it is too large. How large it can be is bounded by the digits before
its point and by its exponent (`Numeral.isSome_value?`), so the numeral with which a finite single
is written has a value (`FloatSpelling.isSome_value?`). A single is finite exactly if its pattern
has a sign and a magnitude (`isSome_read_single`).
-/

namespace Keyguard

open Float.Model UnpackedFloat

/-! ### Finite singles -/

theorem FloatFormat.read_single_bounds {bits : Nat} {negative : Bool} {x : Magnitude}
    (h : FloatFormat.single.read bits = some (negative, x)) :
    x.mantissa < Nat.pow 2 24 ∧ x.exponent.natAbs ≤ 149 := by
  have fraction : bits % Nat.pow 2 23 < Nat.pow 2 23 := Nat.mod_lt _ (by decide)
  have field : bits / Nat.pow 2 23 % Nat.pow 2 8 < 256 := Nat.mod_lt _ (by decide)
  have double : Nat.pow 2 24 = Nat.pow 2 23 + Nat.pow 2 23 := by decide
  have least : FloatFormat.single.leastExponent = -149 := by decide
  have top : Nat.pow 2 8 = 256 := by decide
  rw [FloatFormat.read] at h
  split at h
  · exact absurd h (by simp)
  · rename_i finite
    have finite : ¬bits / Nat.pow 2 23 % Nat.pow 2 8 = Nat.pow 2 8 - 1 := finite
    split at h
    · rw [← (Prod.mk.inj (Option.some.inj h)).2, least]
      exact ⟨Nat.lt_of_lt_of_le fraction (by decide), Nat.le_refl 149⟩
    · rw [← (Prod.mk.inj (Option.some.inj h)).2, least]
      refine ⟨?_, ?_⟩
      · rw [double]
        exact Nat.add_lt_add_right fraction _
      · change (-149 + ((bits / Nat.pow 2 23 % Nat.pow 2 8 - 1 : Nat) : Int)).natAbs ≤ 149
        omega

theorem FloatFormat.isSome_read (f : FloatFormat) (bits : Nat) : (f.read bits).isSome =
    decide (bits / Nat.pow 2 f.fractionBits % Nat.pow 2 f.exponentBits ≠
      Nat.pow 2 f.exponentBits - 1) := by
  rw [FloatFormat.read]
  split
  · rename_i full
    exact (decide_eq_false (not_not_intro full)).symm
  · rename_i finite
    refine Eq.trans ?_ (decide_eq_true finite).symm
    split <;> rfl

/-- An unpacked single is finite unless all bits of its exponent are set. -/
theorem isFinite_unpack (b : BitVec Format.binary32.numBits) :
    (UnpackedFloat.unpack .binary32 b).isFinite = decide (unpackExponent b ≠ -1#_) := by
  by_cases ones : unpackExponent b = -1#_
  · rw [decide_eq_false (not_not_intro ones)]
    by_cases zero : unpackMantissa b = 0#_
    · exact (congrArg UnpackedFloat.isFinite ((if_pos ones).trans (if_pos zero))).trans rfl
    · exact (congrArg UnpackedFloat.isFinite ((if_pos ones).trans (if_neg zero))).trans rfl
  rw [decide_eq_true ones]
  by_cases least : unpackExponent b = 0#_
  · refine (congrArg UnpackedFloat.isFinite ((if_neg ones).trans (if_pos least))).trans ?_
    by_cases zero : unpackMantissa b = 0#_
    · exact (congrArg UnpackedFloat.isFinite (dif_pos zero)).trans rfl
    · exact (congrArg UnpackedFloat.isFinite (dif_neg zero)).trans rfl
  · exact (congrArg UnpackedFloat.isFinite ((if_neg ones).trans (if_neg least))).trans rfl

/-- A single is finite exactly if its pattern has a magnitude. -/
theorem isSome_read_single (x : Float32) :
    (FloatFormat.single.read x.toBits.toNat).isSome = x.isFinite := by
  let bits : BitVec Format.binary32.numBits := x.toModel.toBits.toBitVec
  have field : (unpackExponent bits).toNat = x.toBits.toNat / Nat.pow 2 23 % Nat.pow 2 8 := by
    rw [unpackExponent, BitVec.toNat_cast, BitVec.extractLsb_toNat, Nat.shiftRight_eq_div_pow]
    rfl
  have ones : unpackExponent bits = -1#_ ↔
      x.toBits.toNat / Nat.pow 2 23 % Nat.pow 2 8 = Nat.pow 2 8 - 1 := by
    rw [← field]
    exact BitVec.toNat_inj.symm
  have opened : x.isFinite = (UnpackedFloat.unpack .binary32 bits).isFinite := rfl
  rw [opened, isFinite_unpack, FloatFormat.isSome_read]
  exact decide_eq_decide.mpr (not_congr ones.symm)

namespace Json

/-! ### Scaling -/

namespace Scaled

theorem exponent_takeWhole_le (n : Nat) (ds : List Digit) :
    (takeWhole n ds).exponent ≤ ds.length := by
  induction ds generalizing n with
  | nil => exact Int.le_refl 0
  | cons d ds ih =>
    rw [takeWhole]
    split
    · have := ih (10 * n + d.val)
      rw [List.length_cons]
      omega
    · exact Int.le_refl _

theorem exponent_takeFraction_le (x : Scaled) (ds : List Digit) :
    (x.takeFraction ds).exponent ≤ x.exponent := by
  induction ds generalizing x with
  | nil => exact Int.le_refl _
  | cons d ds ih =>
    rw [takeFraction]
    split
    · exact Int.le_trans (ih _) (by change x.exponent - 1 ≤ x.exponent; omega)
    · exact Int.le_refl _

/-- A significand has a double unless it is raised too high. -/
theorem isSome_toFloat? (n : Nat) {e : Int} (h : e ≤ 110) : (toFloat? ⟨n, e⟩).isSome := by
  rw [toFloat?]
  split
  · rfl
  · have finite := isInf_mul_powerOfTen (UInt64.ofNat n) (by omega : e.toNat ≤ 110)
    have scaled : e ≤ 308 := by omega
    simp only [if_pos scaled, finite]
    rfl

end Scaled

/-! ### Numerals -/

/-- By how many digits a numeral stands before the point at most. -/
def Numeral.places (n : Numeral) : Nat :=
  n.whole.length + n.exponent.elim 0 fun e => Digits.toNat e.digits

/-- A numeral has a value unless it is too large. -/
theorem Numeral.isSome_value? {n : Numeral} (h : n.places ≤ 110) : n.value?.isSome := by
  have float : n.toFloat?.isSome := by
    rw [Numeral.places] at h
    rw [Numeral.toFloat?, Option.isSome_map]
    have whole := Scaled.exponent_takeWhole_le 0 n.whole
    have fraction := Scaled.exponent_takeFraction_le (Scaled.takeWhole 0 n.whole) n.fraction
    cases exponent : n.exponent with
    | none =>
      exact Scaled.isSome_toFloat? _ (by omega)
    | some e =>
      rw [exponent, Option.elim_some] at h
      have small : (Digits.toNat e.digits : Int) ≤ Int32.maxValue.toInt := by
        have greatest : Int32.maxValue.toInt = 2147483647 := by decide
        omega
      rw [Scaled.withExponent?]
      simp only [if_pos small]
      refine Scaled.isSome_toFloat? _ ?_
      split <;> omega
  rw [Numeral.value?]
  split
  · rfl
  · split
    · rfl
    · rwa [Option.isSome_map]

/-- The numeral of a decimal is no larger than its exponent and its digits. -/
theorem FloatSpelling.places_ofDecimal (s : FloatSpelling) (negative : Bool) {x : Decimal}
    (low : -63 ≤ x.exponent) (high : x.exponent + (Digits.ofNat x.coefficient).length ≤ 110) :
    (s.ofDecimal negative x).places ≤ 110 := by
  have digits := List.length_pos_iff.mpr (Digits.ofNat_ne_nil x.coefficient)
  rw [ofDecimal]
  split
  · have whole := List.length_take_le 1 (Digits.ofNat x.coefficient)
    simp only [Numeral.places, Option.elim_some, Digits.toNat_ofNat]
    omega
  · split
    · simp only [Numeral.places, Option.elim_none, List.length_append, List.length_replicate]
      omega
    · dsimp only
      split
      · simp only [Numeral.places, Option.elim_none, List.length_take]
        omega
      · exact Nat.le_of_ble_eq_true rfl

/-- The patterns that have a magnitude are spelled. -/
theorem FloatSpelling.isSome_ofBits? (s : FloatSpelling) (bits : Nat) :
    (s.ofBits? bits).isSome = (s.format.read bits).isSome := by
  rw [ofBits?]
  cases s.format.read bits <;> rfl

/-- The numeral of a finite single has a value. -/
theorem FloatSpelling.isSome_value? {bits : Nat} {n : Numeral}
    (h : FloatSpelling.single.ofBits? bits = some n) : n.value?.isSome := by
  rw [ofBits?] at h
  split at h
  · exact absurd h (by simp)
  · rename_i negative x read
    obtain ⟨small, range⟩ := FloatFormat.read_single_bounds read
    obtain ⟨low, high⟩ := Magnitude.shortest_bounds range small
    refine Numeral.isSome_value? ?_
    rw [← Option.some.inj h]
    split
    · exact Nat.le_of_ble_eq_true rfl
    · exact places_ofDecimal _ _ low high

end Json

end Keyguard
