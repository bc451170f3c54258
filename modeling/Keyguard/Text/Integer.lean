import Keyguard.Text.Blank
import Keyguard.Text.Digits

/-!
# Written integers

An integer is written as an optional sign and decimal digits. `Integer.text` writes the least
form, with a sign for negative numbers only; `Integer.ofChars?` reads one sign of either kind
and any positive number of ASCII digits, and nothing else.

* `ofChars?_chars`: reading undoes writing.
-/

namespace Keyguard.Integer

/-- The digits that a row of characters names, if there is one at all and all are digits. -/
def digits? (cs : List Char) : Option (List Digit) :=
  if cs = [] then none else cs.mapM Digit.ofChar?

/-- The integer that a row of characters spells: one optional sign, then digits. -/
def ofChars? : List Char → Option Int
  | '-' :: cs => (digits? cs).map fun ds => -(Digits.toNat ds : Int)
  | '+' :: cs => (digits? cs).map fun ds => (Digits.toNat ds : Int)
  | cs => (digits? cs).map fun ds => (Digits.toNat ds : Int)

/-- The characters of an integer in its least form. -/
def chars (i : Int) : List Char :=
  let magnitude := (Digits.ofNat i.natAbs).map Digit.toChar
  if i < 0 then '-' :: magnitude else magnitude

/-- The text of an integer in its least form. -/
def text (i : Int) : String := String.ofList (chars i)

theorem digits?_map_toChar {ds : List Digit} (h : ds ≠ []) :
    digits? (ds.map Digit.toChar) = some ds := by
  rw [digits?, if_neg (by simpa using h)]
  clear h
  induction ds with
  | nil => rfl
  | cons d ds ih => simp [List.mapM_cons, Digit.ofChar?_toChar, ih]

private theorem toChar_ne_sign (d : Digit) : d.toChar ≠ '-' ∧ d.toChar ≠ '+' := by
  revert d; decide

/-- Reading the least form of an integer gives the integer. -/
theorem ofChars?_chars (i : Int) : ofChars? (chars i) = some i := by
  have hd := digits?_map_toChar (Digits.ofNat_ne_nil i.natAbs)
  rw [chars]
  split
  · rename_i h
    simp only [ofChars?, hd, Option.map_some, Digits.toNat_ofNat]
    congr 1; omega
  · rename_i h
    rcases hds : Digits.ofNat i.natAbs with _ | ⟨d, ds⟩
    · exact absurd hds (Digits.ofNat_ne_nil _)
    · rw [hds] at hd
      have hn := Digits.toNat_ofNat i.natAbs
      rw [hds] at hn
      rw [List.map_cons] at hd ⊢
      unfold ofChars?
      split
      · rename_i heq; injection heq with h1 _; exact absurd h1 (toChar_ne_sign d).1
      · rename_i heq; injection heq with h1 _; exact absurd h1 (toChar_ne_sign d).2
      · rw [hd, Option.map_some, hn]; congr 1; omega

theorem text_ne_empty (i : Int) : text i ≠ "" := by
  have digits : (Digits.ofNat i.natAbs).map Digit.toChar ≠ [] := by simp [Digits.ofNat_ne_nil]
  have written : chars i ≠ [] := by
    rw [chars]
    split
    · exact List.cons_ne_nil _ _
    · exact digits
  intro empty
  exact written (by rw [← String.toList_ofList (l := chars i)]; exact congrArg String.toList empty)

/-- An integer is written without blanks. -/
theorem trimBlanks_chars (i : Int) : Text.trimBlanks (chars i) = chars i := by
  have digit (d : Digit) : Text.isBlank d.toChar = false := by
    revert d
    decide
  refine Text.trimBlanks_of_forall fun c hc => ?_
  rw [chars] at hc
  split at hc
  · rcases List.mem_cons.mp hc with rfl | hc
    · decide
    · obtain ⟨d, -, rfl⟩ := List.mem_map.mp hc
      exact digit d
  · obtain ⟨d, -, rfl⟩ := List.mem_map.mp hc
    exact digit d

end Keyguard.Integer
