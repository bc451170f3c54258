import Keyguard.Decimal.Shortest

/-!
# The shortest decimal is not zero

The window of a value other than zero does not reach down to zero, so no hit of the search is zero
(`Window.ne_zero_of_holds`). If the search ends without a hit, its last grid is one of multiples
that are at most the value (`reached_of_le`), so the nearest of them is not zero either.
-/

namespace Keyguard

namespace Digits

/-- A number lies below the power of ten with as many zeros as the number has digits. -/
theorem lt_pow_length (n : Nat) : n < Nat.pow 10 (ofNat n).length := by
  change n < 10 ^ (ofNat n).length
  induction n using ofNat.induct with
  | case1 n h =>
    rw [ofNat, dif_pos h]
    simpa using h
  | case2 n h ih =>
    rw [ofNat, dif_neg h, List.length_append, List.length_singleton, Nat.pow_succ]
    omega

/-- A number other than zero is at least the power of ten with as many digits. -/
theorem pow_length_le {n : Nat} (h : n ≠ 0) : Nat.pow 10 ((ofNat n).length - 1) ≤ n := by
  change 10 ^ ((ofNat n).length - 1) ≤ n
  induction n using ofNat.induct with
  | case1 n small =>
    rw [ofNat, dif_pos small, List.length_singleton]
    exact Nat.pos_of_ne_zero h
  | case2 n large ih =>
    have shorter := ih (by omega)
    obtain ⟨k, hk⟩ : ∃ k, (ofNat (n / 10)).length = k + 1 :=
      Nat.exists_eq_succ_of_ne_zero (by simpa using ofNat_ne_nil (n / 10))
    rw [hk, Nat.add_sub_cancel] at shorter
    rw [ofNat, dif_neg large, List.length_append, List.length_singleton, hk, Nat.add_sub_cancel,
      Nat.pow_succ]
    omega

/-- A number below a power of ten has no more digits than the power has zeros. -/
theorem length_ofNat_le {n k : Nat} (pos : k ≠ 0) (h : n < Nat.pow 10 k) :
    (ofNat n).length ≤ k := by
  by_cases zero : n = 0
  · rw [zero, ofNat, dif_pos (by decide)]
    exact Nat.one_le_iff_ne_zero.mpr pos
  · have power : 10 ^ ((ofNat n).length - 1) < 10 ^ k := Nat.lt_of_le_of_lt (pow_length_le zero) h
    have exponent := (Nat.pow_lt_pow_iff_right (by decide)).mp power
    omega

/-- Only zero begins with a zero. -/
theorem eq_zero_of_head? {n : Nat} (h : (ofNat n).head? = some 0) : n = 0 := by
  induction n using ofNat.induct with
  | case1 n small =>
    rw [ofNat, dif_pos small] at h
    exact congrArg Fin.val (Option.some.inj h)
  | case2 n large ih =>
    obtain ⟨d, ds, hds⟩ := List.exists_cons_of_ne_nil (ofNat_ne_nil (n / 10))
    rw [ofNat, dif_neg large, hds] at h
    rw [hds] at ih
    have := ih h
    omega

end Digits

namespace Magnitude

namespace Window

variable {w : Window} {c : Nat}

theorem ne_zero_of_holds (low : 0 < w.low) (h : w.holds c) : c ≠ 0 := by
  rintro rfl
  rw [holds] at h
  split at h
  · simp at h
    omega
  · simp at h

theorem nearest_eq (w : Window) : w.nearest = w.below ∨ w.nearest = w.below + 1 := by
  rw [nearest]
  repeat' split
  all_goals simp

/-- A hit is one of the two multiples around the value and reads back as it. -/
theorem hit?_eq_some (h : w.hit? = some c) : w.holds c ∧ (c = w.below ∨ c = w.below + 1) := by
  rw [hit?] at h
  split at h
  · rename_i below above
    rw [← Option.some.inj h]
    refine ⟨?_, w.nearest_eq⟩
    rcases w.nearest_eq with e | e <;> rw [e] <;> assumption
  · rename_i below _
    rw [← Option.some.inj h]
    exact ⟨below, .inl rfl⟩
  · rename_i _ above
    rw [← Option.some.inj h]
    exact ⟨above, .inr rfl⟩
  · exact absurd h (by simp)

end Window

variable {x : Magnitude}

theorem low_window_pos (h : x.mantissa ≠ 0) (p : Int) : 0 < (x.window p).low := by
  have unit : 0 < Nat.pow 10 (-p).toNat * Nat.pow 2 (x.exponent - 2).toNat :=
    Nat.mul_pos (Nat.pow_pos (by decide)) (Nat.pow_pos (by decide))
  refine Nat.mul_pos ?_ unit
  split <;> omega

/-- Whether `10 ^ p` is at most the value of a magnitude. -/
def Reached (x : Magnitude) (p : Int) : Prop :=
  Nat.pow 10 p.toNat * Nat.pow 2 (-x.exponent).toNat ≤
    x.mantissa * Nat.pow 2 x.exponent.toNat * Nat.pow 10 (-p).toNat

/-- A power of ten that is at most the value has a multiple between zero and the value. -/
theorem below_ne_zero {p : Int} (h : x.Reached p) : (x.window p).below ≠ 0 := by
  have exponents : 2 ^ (2 - x.exponent).toNat * 2 ^ x.exponent.toNat =
      4 * 2 ^ (x.exponent - 2).toNat * 2 ^ (-x.exponent).toNat := by
    rw [← Nat.pow_add, show (4 : Nat) = 2 ^ 2 from rfl, ← Nat.pow_add, ← Nat.pow_add]
    congr 1
    omega
  have scaled : (10 ^ p.toNat * 2 ^ (2 - x.exponent).toNat) * 2 ^ x.exponent.toNat ≤
      (4 * x.mantissa * (10 ^ (-p).toNat * 2 ^ (x.exponent - 2).toNat)) * 2 ^ x.exponent.toNat :=
    calc (10 ^ p.toNat * 2 ^ (2 - x.exponent).toNat) * 2 ^ x.exponent.toNat
        = 10 ^ p.toNat * (2 ^ (2 - x.exponent).toNat * 2 ^ x.exponent.toNat) :=
          Nat.mul_assoc _ _ _
      _ = 4 * 2 ^ (x.exponent - 2).toNat * (10 ^ p.toNat * 2 ^ (-x.exponent).toNat) := by
          rw [exponents]
          ac_rfl
      _ ≤ 4 * 2 ^ (x.exponent - 2).toNat *
            (x.mantissa * 2 ^ x.exponent.toNat * 10 ^ (-p).toNat) :=
          Nat.mul_le_mul_left _ h
      _ = _ := by ac_rfl
  have atMost : (x.window p).step ≤ (x.window p).middle :=
    Nat.le_of_mul_le_mul_right scaled (Nat.pow_pos (by decide))
  have step : 0 < (x.window p).step :=
    Nat.mul_pos (Nat.pow_pos (by decide)) (Nat.pow_pos (by decide))
  exact Nat.ne_of_gt (Nat.div_pos atMost step)

/-- The powers of ten a little below the top are at most the value. -/
theorem reached_of_le (h : x.mantissa ≠ 0) {p : Int} (hp : p + 2 ≤ x.topExponent) :
    x.Reached p := by
  rw [topExponent] at hp
  rw [Reached]
  have mantissa_le : x.mantissa ≤ x.mantissa * Nat.pow 2 x.exponent.toNat :=
    Nat.le_mul_of_pos_right _ (Nat.pow_pos (by decide))
  generalize Nat.pow 2 (-x.exponent).toNat = unit at hp ⊢
  generalize x.mantissa * Nat.pow 2 x.exponent.toNat = scaled at hp mantissa_le ⊢
  change 10 ^ p.toNat * unit ≤ scaled * 10 ^ (-p).toNat
  by_cases whole : scaled / unit = 0
  · -- the value lies below one, and above the reciprocal of what is counted here
    have above : unit < 10 ^ (Digits.ofNat (unit / x.mantissa)).length * x.mantissa :=
      (Nat.div_lt_iff_lt_mul (Nat.pos_of_ne_zero h)).mp (Digits.lt_pow_length _)
    rw [if_pos whole] at hp
    have exponent : (Digits.ofNat (unit / x.mantissa)).length ≤ (-p).toNat := by omega
    have negative : p.toNat = 0 := by omega
    rw [negative, Nat.pow_zero, Nat.one_mul]
    calc unit ≤ 10 ^ (Digits.ofNat (unit / x.mantissa)).length * x.mantissa := Nat.le_of_lt above
      _ ≤ 10 ^ (-p).toNat * scaled :=
          Nat.mul_le_mul (Nat.pow_le_pow_right (by decide) exponent) mantissa_le
      _ = scaled * 10 ^ (-p).toNat := Nat.mul_comm _ _
  · have digits := Digits.pow_length_le whole
    rw [if_neg whole] at hp
    have exponent : p.toNat ≤ (Digits.ofNat (scaled / unit)).length - 1 := by omega
    calc 10 ^ p.toNat * unit
        ≤ scaled / unit * unit :=
          Nat.mul_le_mul_right _ (Nat.le_trans (Nat.pow_le_pow_right (by decide) exponent) digits)
      _ ≤ scaled := Nat.div_mul_le_self _ _
      _ ≤ scaled * 10 ^ (-p).toNat := Nat.le_mul_of_pos_right _ (Nat.pow_pos (by decide))

/-- The shortest decimal of a value other than zero is not zero. -/
theorem coefficient_shortest_ne_zero (h : x.mantissa ≠ 0) : x.shortest.coefficient ≠ 0 := by
  have search (steps : Nat) (p : Int) (hp : p - steps + 2 ≤ x.topExponent) :
      (x.searchFrom steps p).coefficient ≠ 0 := by
    induction steps generalizing p with
    | zero =>
      have below := below_ne_zero (reached_of_le h (p := p) (by simpa using hp))
      rw [searchFrom]
      rcases (x.window p).nearest_eq with e | e <;> simp only [e] <;> omega
    | succ steps ih =>
      rw [searchFrom]
      cases hit : (x.window p).hit? with
      | some c => exact Window.ne_zero_of_holds (low_window_pos h p) (Window.hit?_eq_some hit).1
      | none => exact ih (p - 1) (by omega)
  exact search 20 x.topExponent (by omega)

/-! ### The size of the shortest decimal -/

/-- The search ends on one of its grids, with a multiple next to the value. -/
theorem searchFrom_cases (x : Magnitude) (steps : Nat) (p : Int) :
    ∃ q, p - steps ≤ q ∧ q ≤ p ∧ (x.searchFrom steps p).exponent = q ∧
      (x.searchFrom steps p).coefficient ≤ (x.window q).middle + 1 := by
  have next (q : Int) : (x.window q).below + 1 ≤ (x.window q).middle + 1 :=
    Nat.succ_le_succ (Nat.div_le_self _ _)
  induction steps generalizing p with
  | zero =>
    refine ⟨p, by omega, by omega, rfl, ?_⟩
    have below := next p
    rw [searchFrom]
    rcases (x.window p).nearest_eq with e | e <;> simp only [e] <;> omega
  | succ steps ih =>
    rw [searchFrom]
    cases hit : (x.window p).hit? with
    | some c =>
      refine ⟨p, by omega, by omega, rfl, ?_⟩
      have below := next p
      rcases (Window.hit?_eq_some hit).2 with e | e <;> simp only [e] <;> omega
    | none =>
      obtain ⟨q, lower, upper, found⟩ := ih (p - 1)
      exact ⟨q, by omega, by omega, found⟩

variable (range : x.exponent.natAbs ≤ 149)
include range

theorem le_topExponent : -43 ≤ x.topExponent := by
  rw [topExponent]
  split
  · have unit : Nat.pow 2 (-x.exponent).toNat < Nat.pow 10 45 :=
      Nat.lt_of_le_of_lt (Nat.pow_le_pow_right (by decide) (by omega : _ ≤ 149)) (by decide)
    have digits := Digits.length_ofNat_le (by decide)
      (Nat.lt_of_le_of_lt (Nat.div_le_self _ x.mantissa) unit)
    omega
  · omega

variable (small : x.mantissa < Nat.pow 2 24)
include small

theorem scaled_lt : x.mantissa * Nat.pow 2 x.exponent.toNat < Nat.pow 10 53 := by
  have power : 2 ^ x.exponent.toNat ≤ 2 ^ 149 := Nat.pow_le_pow_right (by decide) (by omega)
  exact Nat.lt_of_lt_of_le (Nat.mul_lt_mul_of_lt_of_le small power (by decide)) (by decide)

theorem topExponent_le : x.topExponent ≤ 53 := by
  rw [topExponent]
  split
  · omega
  · have whole := Digits.length_ofNat_le (by decide)
      (Nat.lt_of_le_of_lt (Nat.div_le_self _ (Nat.pow 2 (-x.exponent).toNat)) (scaled_lt range small))
    omega

theorem middle_window_lt (p : Int) : (x.window p).middle < Nat.pow 10 (53 + (-p).toNat) := by
  have power : 2 ^ (x.exponent - 2).toNat ≤ 2 ^ 147 := Nat.pow_le_pow_right (by decide) (by omega)
  have value : 4 * x.mantissa * 2 ^ (x.exponent - 2).toNat < 10 ^ 53 :=
    Nat.lt_of_lt_of_le (Nat.mul_lt_mul_of_lt_of_le
      (Nat.mul_lt_mul_of_pos_left small (by decide : 0 < 4)) power (by decide)) (by decide)
  calc (x.window p).middle
      = 4 * x.mantissa * 2 ^ (x.exponent - 2).toNat * 10 ^ (-p).toNat := by
        rw [Nat.mul_assoc _ _ (10 ^ _), Nat.mul_comm (2 ^ _)]
        rfl
    _ < 10 ^ 53 * 10 ^ (-p).toNat := Nat.mul_lt_mul_of_pos_right value (Nat.pow_pos (by decide))
    _ = 10 ^ (53 + (-p).toNat) := (Nat.pow_add _ _ _).symm

/-- The shortest decimal of a single is bounded: neither its exponent nor the number of its digits
before the point is large. -/
theorem shortest_bounds : -63 ≤ x.shortest.exponent ∧
    x.shortest.exponent + (Digits.ofNat x.shortest.coefficient).length ≤ 110 := by
  obtain ⟨q, lower, upper, exponent, coefficient⟩ := searchFrom_cases x 20 x.topExponent
  have top := topExponent_le range small
  have bottom := le_topExponent range
  rw [shortest, exponent]
  have middle := middle_window_lt range small q
  have power : 10 ^ (53 + (-q).toNat) < 10 ^ (54 + (-q).toNat) :=
    Nat.pow_lt_pow_right (by decide) (by omega)
  have digits := Digits.length_ofNat_le (by omega)
    (Nat.lt_of_le_of_lt (Nat.le_trans coefficient middle) power)
  omega

end Magnitude

end Keyguard
