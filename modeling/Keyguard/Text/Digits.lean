/-!
# Decimal digits

Numbers are written with ASCII digits, most significant first. `Digits.ofNat` writes a number
without leading zeros and `Digits.toNat` reads any row of digits, leading zeros included.

* `toNat_ofNat`: reading undoes writing.
* `ofNat_injective`: two numbers written alike are equal.
* `ofChar?_toChar`: a digit's character names that digit only.
-/

namespace Keyguard

/-- A decimal digit. -/
abbrev Digit := Fin 10

namespace Digit

/-- The ASCII character of a digit. -/
def toChar (d : Digit) : Char := Char.ofNat (48 + d.val)

/-- The digit that an ASCII character names. -/
def ofChar? (c : Char) : Option Digit :=
  if h : 48 ≤ c.toNat ∧ c.toNat < 58 then some ⟨c.toNat - 48, by omega⟩ else none

theorem ofChar?_toChar (d : Digit) : ofChar? d.toChar = some d := by
  revert d; decide

end Digit

namespace Digits

/-- The decimal digits of a number, without leading zeros; zero is one digit. -/
def ofNat (n : Nat) : List Digit :=
  if h : n < 10 then [⟨n, h⟩] else ofNat (n / 10) ++ [⟨n % 10, Nat.mod_lt n (by decide)⟩]

/-- The number that a row of digits spells; an empty row spells zero. -/
def toNat (ds : List Digit) : Nat := ds.foldl (fun n d => 10 * n + d.val) 0

/-- The characters of a row of digits. -/
def text (ds : List Digit) : String := String.ofList (ds.map Digit.toChar)

/-- One more digit on the right multiplies by ten. -/
theorem toNat_append_singleton (ds : List Digit) (d : Digit) :
    toNat (ds ++ [d]) = 10 * toNat ds + d.val := by
  simp only [toNat, List.foldl_append, List.foldl_cons, List.foldl_nil]

/-- Reading the digits of a number gives the number. -/
theorem toNat_ofNat (n : Nat) : toNat (ofNat n) = n := by
  induction n using ofNat.induct with
  | case1 n h => rw [ofNat, dif_pos h]; simp [toNat]
  | case2 n h ih => rw [ofNat, dif_neg h, toNat_append_singleton, ih]; simp only; omega

theorem ofNat_injective {m n : Nat} (h : ofNat m = ofNat n) : m = n := by
  rw [← toNat_ofNat m, h, toNat_ofNat]

theorem ofNat_ne_nil (n : Nat) : ofNat n ≠ [] := by
  rw [ofNat]; split <;> simp

end Digits

end Keyguard
