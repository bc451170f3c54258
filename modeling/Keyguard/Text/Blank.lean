/-!
# Blank characters

`isBlank` is the Unicode property `White_Space`. `trimBlanks` drops the blanks at both ends of
a text, which is what the reading of an integer setting allows around the number. A text without
blanks is kept as it is (`trimBlanks_of_forall`).
-/

namespace Keyguard.Text

/-- The code points with the property `White_Space`, as ranges with both ends included. -/
def blankRanges : List (Nat × Nat) :=
  [(0x09, 0x0d), (0x20, 0x20), (0x85, 0x85), (0xa0, 0xa0), (0x1680, 0x1680), (0x2000, 0x200a),
    (0x2028, 0x2029), (0x202f, 0x202f), (0x205f, 0x205f), (0x3000, 0x3000)]

/-- Whether a character is Unicode white space. -/
def isBlank (c : Char) : Bool := blankRanges.any fun r => r.1 ≤ c.toNat && c.toNat ≤ r.2

/-- The characters between the leading and the trailing blanks. -/
def trimBlanks (cs : List Char) : List Char :=
  ((cs.dropWhile isBlank).reverse.dropWhile isBlank).reverse

private theorem dropWhile_of_forall {cs : List Char} (h : ∀ c ∈ cs, isBlank c = false) :
    cs.dropWhile isBlank = cs := by
  cases cs with
  | nil => rfl
  | cons c cs => rw [List.dropWhile_cons_of_neg (by simp [h c List.mem_cons_self])]

/-- A text without blanks is kept as it is. -/
theorem trimBlanks_of_forall {cs : List Char} (h : ∀ c ∈ cs, isBlank c = false) :
    trimBlanks cs = cs := by
  have front : cs.dropWhile isBlank = cs :=
    dropWhile_of_forall h
  have back : cs.reverse.dropWhile isBlank = cs.reverse :=
    dropWhile_of_forall fun c hc => h c (List.mem_reverse.mp hc)
  rw [trimBlanks, front, back, List.reverse_reverse]

end Keyguard.Text
