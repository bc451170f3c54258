import Keyguard.Json.Number
import Keyguard.Proofs.Decimal.Fields

/-!
# Products that do not overflow

The double of a 64-bit number, times a power of ten that is not too large, is finite. An unpacked
double is **below** `2 ^ k` if it is finite and its magnitude is (`isBelow`). Shifting a mantissa
to a higher exponent never raises the magnitude, and rounding doubles it at most, so the rounded
value is below `2 ^ (k + 1)` (`isBelow_roundWithAccuracy`). Packing changes nothing as long as
the exponent fits the format (`isBelow_unpack_pack`).
-/

namespace Keyguard

open Float.Model UnpackedFloat

/-- Whether an unpacked double is finite and its magnitude lies below `2 ^ k`. -/
def isBelow (k : Nat) : UnpackedFloat → Bool
  | .zero _ => true
  | .finite _ m e _ => totalExponent m e ≤ k
  | .infinity _ | .notANumber => false

/-! ### Rounding -/

theorem mantissa_shiftRight (x : ExtendedMantissa) (n : Nat) :
    (x >>> n).mantissa = x.mantissa / Nat.pow 2 n := by
  induction n with
  | zero => exact (Nat.div_one _).symm
  | succ n ih =>
    have last : (x >>> (n + 1)).mantissa = (x >>> n).mantissa / 2 := rfl
    rw [last, ih, Nat.div_div_eq_div_mul]
    rfl

theorem roundedMantissa_le (x : ExtendedMantissa) : x.roundedMantissa ≤ x.mantissa + 1 := by
  obtain ⟨m, round, sticky⟩ := x
  cases round <;> cases sticky <;>
    simp only [ExtendedMantissa.roundedMantissa, ExtendedMantissa.accuracy,
      Accuracy.roundToNearestEven] <;> omega

/-- What a shift to the right leaves lies below the same power of two. -/
theorem log2_div_pow_add_le {m n : Nat} (h : m / Nat.pow 2 n ≠ 0) :
    (m / Nat.pow 2 n).log2 + n ≤ m.log2 := by
  have pos : m ≠ 0 := fun zero => h (by rw [zero, Nat.zero_div])
  rw [Nat.le_log2 pos, Nat.pow_add]
  exact Nat.le_trans (Nat.mul_le_mul_right _ (Nat.log2_self_le h)) (Nat.div_mul_le_self _ _)

theorem log2_mul_le {m n : Nat} (hm : m ≠ 0) (hn : n ≠ 0) :
    (m * n).log2 ≤ m.log2 + n.log2 + 1 := by
  have product : m * n < 2 ^ (m.log2 + 1) * 2 ^ (n.log2 + 1) :=
    Nat.mul_lt_mul_of_lt_of_lt Nat.lt_log2_self Nat.lt_log2_self
  rw [← Nat.pow_add] at product
  have below := (Nat.log2_lt (Nat.mul_ne_zero hm hn)).mpr product
  omega

theorem log2_le_of_le_succ {m n : Nat} (h : n ≤ m + 1) : n.log2 ≤ m.log2 + 1 := by
  by_cases pos : n = 0
  · rw [pos]
    exact Nat.zero_le _
  · have below : m < 2 ^ (m.log2 + 1) := Nat.lt_log2_self
    have next : 2 ^ (m.log2 + 1) < 2 ^ (m.log2 + 2) := Nat.pow_lt_pow_succ (by decide)
    exact Nat.le_of_lt_succ ((Nat.log2_lt pos).mpr (by omega))

section

variable {m : Nat} {e : Int}

/-- A shift to the exponent that the format asks for never raises a magnitude. -/
theorem totalExponent_shift_le
    (h : (shiftToTargetExponent .binary64 m e .exact).1.mantissa ≠ 0) :
    totalExponent (shiftToTargetExponent .binary64 m e .exact).1.mantissa
      (shiftToTargetExponent .binary64 m e .exact).2 ≤ totalExponent m e := by
  simp only [shiftToTargetExponent, shiftToExponent, mantissa_shiftRight] at h ⊢
  have shifted := log2_div_pow_add_le h
  simp only [totalExponent, ExtendedMantissa.ofMantissaAndAccuracy] at shifted ⊢
  omega

/-- If nothing of a mantissa is left by the shift, the format's least exponent was asked for. -/
theorem exponent_of_shift_eq_zero (pos : m ≠ 0)
    (h : (shiftToTargetExponent .binary64 m e .exact).1.mantissa = 0) :
    (shiftToTargetExponent .binary64 m e .exact).2 = -1074 := by
  simp only [shiftToTargetExponent, shiftToExponent, mantissa_shiftRight] at h ⊢
  have small : m.log2 < (Format.binary64.targetExponent (totalExponent m e) - e).toNat :=
    (Nat.log2_lt pos).mpr ((Nat.div_eq_zero_iff_lt (Nat.pow_pos (by decide))).mp h)
  have least : Format.binary64.minExponent = -1074 := by decide
  have bits : Format.binary64.mantissaBits = 53 := rfl
  simp only [Format.targetExponent, totalExponent, least, bits] at small ⊢
  omega

/-- Rounding the mantissa that a shift leaves at most doubles the magnitude. -/
theorem totalExponent_rounded_le {k : Nat} (pos : m ≠ 0) (h : totalExponent m e ≤ k) :
    totalExponent (shiftToTargetExponent .binary64 m e .exact).1.roundedMantissa
      (shiftToTargetExponent .binary64 m e .exact).2 ≤ (k + 1 : Nat) := by
  have carry := log2_le_of_le_succ
    (roundedMantissa_le (shiftToTargetExponent .binary64 m e .exact).1)
  rw [totalExponent]
  by_cases gone : (shiftToTargetExponent .binary64 m e .exact).1.mantissa = 0
  · have exponent := exponent_of_shift_eq_zero pos gone
    rw [gone, Nat.log2_zero] at carry
    omega
  · have shifted := totalExponent_shift_le gone
    rw [totalExponent] at shifted
    omega

theorem isBelow_roundWithAccuracy {k : Nat} (pos : m ≠ 0) (h : totalExponent m e ≤ k) (s : Sign) :
    isBelow (k + 1) (roundWithAccuracy .binary64 s m e .exact) := by
  -- what was rounded is shifted once more, since it may have grown by a bit
  let rounded := (shiftToTargetExponent .binary64 m e .exact).1.roundedMantissa
  let exponent := (shiftToTargetExponent .binary64 m e .exact).2
  by_cases left : (shiftToTargetExponent .binary64 rounded exponent .exact).1.mantissa = 0
  · have zero : roundWithAccuracy .binary64 s m e .exact = .zero s := dif_pos left
    rw [zero]
    rfl
  · have finite : roundWithAccuracy .binary64 s m e .exact =
      .finite s (shiftToTargetExponent .binary64 rounded exponent .exact).1.mantissa
        (shiftToTargetExponent .binary64 rounded exponent .exact).2 (Nat.pos_of_ne_zero left) :=
      dif_neg left
    rw [finite]
    exact decide_eq_true (Int.le_trans (totalExponent_shift_le left)
      (totalExponent_rounded_le pos h))

end

/-! ### Packing -/

/-- The exponent field of a pattern bounds its magnitude. -/
theorem isBelow_unpack {k : Nat} {b : DoublePattern} (hk : k ≤ 1024)
    (h : (unpackExponent b).toNat ≤ k + 1022) : isBelow k (UnpackedFloat.unpack .binary64 b) := by
  have fraction : (unpackMantissa b).toNat < 2 ^ 52 := (unpackMantissa b).isLt
  rcases unpack_cases b with
    ⟨full, -⟩ | ⟨full, -⟩ | ⟨-, -, zero⟩ | ⟨-, pos, least⟩ | ⟨-, -, pos, above⟩
  · omega
  · omega
  · rw [zero]
    rfl
  · have bits := (Nat.log2_lt (Nat.ne_of_gt pos)).mpr fraction
    rw [least]
    refine decide_eq_true ?_
    rw [totalExponent]
    omega
  · have bits : (2 ^ 52 + (unpackMantissa b).toNat).log2 < 53 :=
      (Nat.log2_lt (Nat.ne_of_gt pos)).mpr (by omega)
    rw [above]
    refine decide_eq_true ?_
    rw [totalExponent]
    omega

/-- A double that is packed and unpacked keeps the bound of its magnitude. -/
theorem isBelow_unpack_pack {k : Nat} {u : UnpackedFloat} (hk : k ≤ 972) (below : isBelow k u) :
    isBelow k (Float.Model.pack u).unpack := by
  refine isBelow_unpack (b := UnpackedFloat.pack .binary64 u) (by omega) ?_
  cases u with
  | zero s =>
    have field := congrArg BitVec.toNat
      (unpackExponent_packComponents : unpackExponent (packedZero .binary64 s) = 0)
    exact Nat.le_trans (Nat.le_of_eq field) (Nat.zero_le _)
  | finite s m e pos =>
    have magnitude : totalExponent m e ≤ k := of_decide_eq_true below
    rw [totalExponent] at magnitude
    have fits : ¬Nat.pow 2 11 ≤ (e + 1023 + 52).toNat + 1 := by
      have top : Nat.pow 2 11 = 2048 := by decide
      omega
    by_cases normal : m.log2 + 1 = 53
    · have packed : UnpackedFloat.pack .binary64 (.finite s m e pos) = packComponents .binary64 s
          (BitVec.ofNat _ (e + 1023 + 52).toNat) (BitVec.ofNat _ m) :=
        (if_neg fits).trans (if_pos normal)
      rw [packed, unpackExponent_packComponents, BitVec.toNat_ofNat]
      exact Nat.le_trans (Nat.mod_le _ _) (by omega)
    · have packed : UnpackedFloat.pack .binary64 (.finite s m e pos) =
          packComponents .binary64 s 0#_ (BitVec.ofNat _ m) :=
        (if_neg fits).trans (if_neg normal)
      rw [packed, unpackExponent_packComponents]
      exact Nat.zero_le _
  | infinity s => exact absurd below Bool.false_ne_true
  | notANumber => exact absurd below Bool.false_ne_true

/-! ### Products -/

theorem isBelow_mul {j k : Nat} {u v : UnpackedFloat} (hu : isBelow j u) (hv : isBelow k v) :
    isBelow (j + k + 1) (UnpackedFloat.mul .binary64 u v) := by
  cases u with
  | infinity s => exact absurd hu Bool.false_ne_true
  | notANumber => exact absurd hu Bool.false_ne_true
  | zero s =>
    cases v with
    | infinity t => exact absurd hv Bool.false_ne_true
    | notANumber => exact absurd hv Bool.false_ne_true
    | _ => rfl
  | finite s m e hm =>
    cases v with
    | infinity t => exact absurd hv Bool.false_ne_true
    | notANumber => exact absurd hv Bool.false_ne_true
    | zero t => rfl
    | finite t n f hn =>
      have left : totalExponent m e ≤ j := of_decide_eq_true hu
      have right : totalExponent n f ≤ k := of_decide_eq_true hv
      have product := log2_mul_le (Nat.ne_of_gt hm) (Nat.ne_of_gt hn)
      refine isBelow_roundWithAccuracy (Nat.mul_ne_zero (Nat.ne_of_gt hm) (Nat.ne_of_gt hn)) ?_ _
      rw [totalExponent] at left right ⊢
      omega

/-- The doubles of 64-bit numbers are bounded. -/
theorem isBelow_ofUInt64 (n : UInt64) : isBelow 66 (UnpackedFloat.ofUInt64 .binary64 n) := by
  rw [UnpackedFloat.ofUInt64, UnpackedFloat.ofNat, UnpackedFloat.ofInt, UnpackedFloat.normalize]
  split
  · rename_i negative
    have := Int.compare_eq_lt.mp negative
    omega
  · rfl
  · rename_i positive
    have pos : n.toNat ≠ 0 := by
      have := Int.compare_eq_gt.mp positive
      omega
    rw [Int.toNat_natCast, UnpackedFloat.round, decreaseExponent]
    generalize (0 - Format.binary64.targetExponent (totalExponent n.toNat 0)).toNat = shift
    have power : 2 ^ shift ≠ 0 := Nat.ne_of_gt (Nat.two_pow_pos shift)
    have shifted := log2_mul_le pos power
    have size : n.toNat.log2 < 64 := (Nat.log2_lt pos).mpr n.toNat_lt
    rw [Nat.log2_two_pow] at shifted
    rw [Nat.shiftLeft_eq]
    refine isBelow_roundWithAccuracy (Nat.mul_ne_zero pos power) ?_ _
    rw [totalExponent]
    omega

/-- The powers of ten are bounded. -/
theorem isBelow_powerOfTen {e : Nat} (h : e ≤ 110) :
    isBelow 400 (Json.Scaled.powerOfTen e).toModel.unpack := by
  have bounded : ∀ e < 111, isBelow 400 (Json.Scaled.powerOfTen e).toModel.unpack := by
    decide +kernel
  exact bounded e (Nat.lt_succ_of_le h)

/-- A 64-bit number times a power of ten that is not too large is finite. -/
theorem isInf_mul_powerOfTen (n : UInt64) {e : Nat} (h : e ≤ 110) :
    (n.toFloat * Json.Scaled.powerOfTen e).isInf = false := by
  have factor : isBelow 66 n.toFloat.toModel.unpack :=
    isBelow_unpack_pack (by decide) (isBelow_ofUInt64 n)
  have product : isBelow 467 (n.toFloat * Json.Scaled.powerOfTen e).toModel.unpack :=
    isBelow_unpack_pack (by decide) (isBelow_mul factor (isBelow_powerOfTen h))
  have opened : (n.toFloat * Json.Scaled.powerOfTen e).isInf =
      (n.toFloat * Json.Scaled.powerOfTen e).toModel.unpack.isInf := rfl
  rw [opened]
  cases unpacked : (n.toFloat * Json.Scaled.powerOfTen e).toModel.unpack with
  | infinity s =>
    rw [unpacked] at product
    exact absurd product Bool.false_ne_true
  | _ => rfl

end Keyguard
