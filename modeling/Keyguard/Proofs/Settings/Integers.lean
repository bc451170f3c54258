import Keyguard.Settings.Value
import Mathlib.Data.List.Induction
import Mathlib.Data.List.TakeWhile
import Mathlib.Data.Nat.Digits.Defs

/-!
# Integers in stored texts

A stored text stands for an integer if it is a **spelled integer** with nothing but blanks around
it. `Integer.Spells` gives spelled integers by their grammar: an optional sign before at least one
ASCII digit, with the value that the digits have in the decimal system. `Text.SpellsInteger` adds
the blanks.

* **Trimming** drops blanks only (`Text.exists_trimBlanks`), and all that stand around a text
  (`Text.trimBlanks_append`).
* **Reading** accepts what the grammar spells and nothing else (`Integer.ofChars?_eq_some_iff`).

So a stored text has the integer that it spells, if 64 bits hold it, and every other text has none
(`SettingValue.reads_spelled_integers`).
-/

namespace Keyguard

/-! ### Trimming -/

namespace Text

/-- Whether all characters of a row are blanks. -/
def AllBlank (cs : List Char) : Prop := ∀ c ∈ cs, isBlank c = true

instance (cs : List Char) : Decidable (AllBlank cs) :=
  decidable_of_iff (cs.all isBlank = true) List.all_eq_true

variable {before cs after : List Char}

/-- Trimming drops blanks only. -/
theorem exists_trimBlanks (cs : List Char) :
    ∃ before after, cs = before ++ trimBlanks cs ++ after ∧ AllBlank before ∧ AllBlank after := by
  let rest := cs.dropWhile isBlank
  refine ⟨cs.takeWhile isBlank, (rest.reverse.takeWhile isBlank).reverse, ?_, ?_, ?_⟩
  · have back : trimBlanks cs ++ (rest.reverse.takeWhile isBlank).reverse = rest := by
      rw [trimBlanks, ← List.reverse_append, List.takeWhile_append_dropWhile,
        List.reverse_reverse]
    rw [List.append_assoc, back, List.takeWhile_append_dropWhile]
  · exact fun c hc => List.mem_takeWhile_imp hc
  · exact fun c hc => List.mem_takeWhile_imp (List.mem_reverse.mp hc)

/-- Blanks around a text make no difference to what trimming leaves. -/
theorem trimBlanks_append (front : AllBlank before) (back : AllBlank after) :
    trimBlanks (before ++ cs ++ after) = trimBlanks cs := by
  have back' : AllBlank after.reverse := fun c hc => back c (List.mem_reverse.mp hc)
  rw [trimBlanks, trimBlanks, List.append_assoc, List.dropWhile_append_of_pos front,
    List.dropWhile_append]
  split
  · rename_i none
    rw [List.dropWhile_eq_nil_iff.mpr back, List.isEmpty_iff.mp none]
  · rw [List.reverse_append, List.dropWhile_append_of_pos back']

end Text

/-! ### Digits -/

theorem Digit.ofChar?_eq_some_iff {c : Char} {d : Digit} : ofChar? c = some d ↔ c = d.toChar := by
  constructor
  · intro h
    rw [ofChar?] at h
    split at h
    · rename_i range
      obtain rfl := Option.some.inj h
      have code : 48 + (c.toNat - 48) = c.toNat := by omega
      rw [toChar, code, Char.ofNat_toNat]
    · exact absurd h (by simp)
  · rintro rfl
    exact ofChar?_toChar d

/-- The value of a row of digits, the most significant first, in the decimal system. -/
def Digits.decimal (ds : List Digit) : ℕ := Nat.ofDigits 10 (ds.map Fin.val).reverse

theorem Digits.toNat_eq_decimal (ds : List Digit) : toNat ds = decimal ds := by
  induction ds using List.reverseRecOn with
  | nil => rfl
  | append_singleton ds d ih =>
    rw [toNat_append_singleton, ih, decimal, decimal, List.map_append, List.reverse_append]
    exact Nat.add_comm _ _

/-- A digit is written as in the decimal numerals. -/
theorem Digit.toChar_eq_digitChar (d : Digit) : d.toChar = Nat.digitChar d.val := by
  revert d
  decide

theorem Digits.map_toChar_ofNat (n : ℕ) : (ofNat n).map Digit.toChar = Nat.toDigits 10 n := by
  induction n using ofNat.induct with
  | case1 n small =>
    rw [ofNat, dif_pos small, Nat.toDigits_of_lt_base small, List.map_singleton,
      Digit.toChar_eq_digitChar]
  | case2 n large ih =>
    have cut := Nat.toDigits_eq_if (n := n) (by decide : 1 < 10)
    rw [ofNat, dif_neg large, List.map_append, ih, List.map_singleton, Digit.toChar_eq_digitChar,
      cut, if_neg large]

/-- The least form of an integer is its decimal numeral. -/
theorem Integer.text_eq_toString (i : ℤ) : text i = toString i := by
  rw [Int.toString_eq_repr, Int.repr_eq_if, text, chars, Digits.map_toChar_ofNat]
  by_cases negative : i < 0
  · have magnitude : i.natAbs = (-i).toNat := by omega
    rw [if_pos negative, if_neg (by omega), magnitude, Nat.repr_eq_ofList_toDigits,
      ← List.singleton_append, String.ofList_append]
  · have magnitude : i.natAbs = i.toNat := by omega
    rw [if_neg negative, if_pos (by omega), magnitude, Nat.repr_eq_ofList_toDigits]

/-! ### Spelled integers -/

namespace Integer

variable {cs : List Char} {ds : List Digit} {i : ℤ}

/-- Which rows of characters spell an integer: an optional sign and at least one digit. -/
inductive Spells : List Char → ℤ → Prop
  | unsigned {ds : List Digit} (nonempty : ds ≠ []) :
    Spells (ds.map Digit.toChar) (Digits.decimal ds)
  | plus {ds : List Digit} (nonempty : ds ≠ []) :
    Spells ('+' :: ds.map Digit.toChar) (Digits.decimal ds)
  | minus {ds : List Digit} (nonempty : ds ≠ []) :
    Spells ('-' :: ds.map Digit.toChar) (-Digits.decimal ds)

/-- A row of characters has the digits that are written so. -/
theorem digits?_eq_some_iff : digits? cs = some ds ↔ ds ≠ [] ∧ cs = ds.map Digit.toChar := by
  constructor
  · intro h
    rw [digits?] at h
    split at h
    · exact absurd h (by simp)
    · rename_i nonempty
      have written : cs = ds.map Digit.toChar := by
        clear nonempty
        induction cs generalizing ds with
        | nil =>
          obtain rfl : [] = ds := Option.some.inj h
          rfl
        | cons c cs ih =>
          simp only [List.mapM_cons, bind, Option.bind_eq_some_iff, pure, Option.some.injEq] at h
          obtain ⟨d, first, ds', rest, rfl⟩ := h
          rw [List.map_cons, Digit.ofChar?_eq_some_iff.mp first, ← ih rest]
      refine ⟨?_, written⟩
      rintro rfl
      exact nonempty written
  · rintro ⟨nonempty, rfl⟩
    exact digits?_map_toChar nonempty

/-- **Reading an integer** accepts what spells it, and nothing else. -/
theorem ofChars?_eq_some_iff : ofChars? cs = some i ↔ Spells cs i := by
  constructor
  · intro h
    unfold ofChars? at h
    split at h <;> obtain ⟨ds, digits, rfl⟩ := Option.map_eq_some_iff.mp h <;>
      obtain ⟨nonempty, rfl⟩ := digits?_eq_some_iff.mp digits <;>
      rw [Digits.toNat_eq_decimal]
    · exact .minus nonempty
    · exact .plus nonempty
    · exact .unsigned nonempty
  · intro h
    cases h with
    | @unsigned ds nonempty =>
      have read := digits?_map_toChar nonempty
      obtain ⟨d, ds, rfl⟩ := List.exists_cons_of_ne_nil nonempty
      have sign : ∀ d : Digit, d.toChar ≠ '-' ∧ d.toChar ≠ '+' := by decide
      rw [ofChars?, read, Option.map_some, Digits.toNat_eq_decimal]
      · exact fun _ same => (sign d).1 (List.cons.inj same).1
      · exact fun _ same => (sign d).2 (List.cons.inj same).1
    | plus nonempty =>
      rw [ofChars?, digits?_map_toChar nonempty, Option.map_some, Digits.toNat_eq_decimal]
    | minus nonempty =>
      rw [ofChars?, digits?_map_toChar nonempty, Option.map_some, Digits.toNat_eq_decimal]

/-- What spells an integer has no blanks in it. -/
theorem Spells.trimBlanks (h : Spells cs i) : Text.trimBlanks cs = cs := by
  have digit : ∀ d : Digit, Text.isBlank d.toChar = false := by decide
  have bare (ds : List Digit) : ∀ c ∈ ds.map Digit.toChar, Text.isBlank c = false := by
    intro c hc
    obtain ⟨d, -, rfl⟩ := List.mem_map.mp hc
    exact digit d
  refine Text.trimBlanks_of_forall ?_
  cases h with
  | unsigned => exact bare _
  | plus => exact List.forall_mem_cons.mpr ⟨rfl, bare _⟩
  | minus => exact List.forall_mem_cons.mpr ⟨rfl, bare _⟩

end Integer

/-- Whether a text is a spelled integer with nothing but blanks around it. -/
def Text.SpellsInteger (s : String) (i : ℤ) : Prop :=
  ∃ before cs after, s.toList = before ++ cs ++ after ∧ AllBlank before ∧ AllBlank after ∧
    Integer.Spells cs i

/-- A text that is trimmed is an integer exactly if that is spelled in it. -/
theorem Integer.ofChars?_trimBlanks {s : String} {i : ℤ} :
    ofChars? (Text.trimBlanks s.toList) = some i ↔ Text.SpellsInteger s i := by
  constructor
  · intro h
    obtain ⟨before, after, cut, front, back⟩ := Text.exists_trimBlanks s.toList
    exact ⟨before, _, after, cut, front, back, ofChars?_eq_some_iff.mp h⟩
  · rintro ⟨before, cs, after, cut, front, back, spells⟩
    rw [cut, Text.trimBlanks_append front back, spells.trimBlanks]
    exact ofChars?_eq_some_iff.mpr spells

/-! ### Stored integers -/

namespace SettingValue

variable {s : String} {i : ℤ} {v : Int64}

/-- The integer of a text that spells one, if 64 bits hold it. -/
theorem readLong?_of_spells (h : Text.SpellsInteger s i) :
    readLong? s = if -2 ^ 63 ≤ i ∧ i < 2 ^ 63 then some (Int64.ofInt i) else none := by
  have least : Int64.minValue.toInt = -2 ^ 63 := rfl
  have greatest : Int64.maxValue.toInt = 2 ^ 63 - 1 := rfl
  rw [readLong?, Integer.ofChars?_trimBlanks.mpr h, Option.bind_eq_bind, Option.bind_some]
  refine if_congr ?_ rfl rfl
  omega

theorem readLong?_eq_some_iff : readLong? s = some v ↔ Text.SpellsInteger s v.toInt := by
  constructor
  · intro h
    obtain ⟨i, read, -⟩ := Option.bind_eq_some_iff.mp h
    have spells := Integer.ofChars?_trimBlanks.mp read
    rw [readLong?_of_spells spells] at h
    split at h
    · rename_i range
      rw [← Option.some.inj h, Int64.toInt_ofInt_of_le range.1 range.2]
      exact spells
    · exact absurd h (by simp)
  · intro h
    rw [readLong?_of_spells h, if_pos ⟨v.le_toInt, v.toInt_lt⟩, Int64.ofInt_toInt]

/-- The canonical text of an integer spells it, whatever blanks are around it. -/
theorem spellsInteger_stored {before after : List Char} (front : Text.AllBlank before)
    (back : Text.AllBlank after) (h : s.toList = before ++ (stored (.long v)).toList ++ after) :
    Text.SpellsInteger s v.toInt := by
  refine ⟨before, _, after, h, front, back, ?_⟩
  rw [stored, Integer.text, String.toList_ofList]
  exact Integer.ofChars?_eq_some_iff.mp (Integer.ofChars?_chars v.toInt)

/-- **A stored text is read as the integer that it spells**, if 64 bits hold that integer, and as
none otherwise. So the canonical text of every 64-bit integer is read as that integer, whatever
blanks are around it. -/
theorem reads_spelled_integers (s : String) :
    (∀ v : Int64, readLong? s = some v ↔ Text.SpellsInteger s v.toInt) ∧
      (∀ i : ℤ, Text.SpellsInteger s i →
        readLong? s = if -2 ^ 63 ≤ i ∧ i < 2 ^ 63 then some (Int64.ofInt i) else none) ∧
      (readLong? s = none ↔ ∀ i : ℤ, -2 ^ 63 ≤ i → i < 2 ^ 63 → ¬Text.SpellsInteger s i) ∧
      ∀ (v : Int64) (before after : List Char), Text.AllBlank before → Text.AllBlank after →
        s.toList = before ++ (stored (.long v)).toList ++ after → readLong? s = some v := by
  refine ⟨fun v => readLong?_eq_some_iff, fun i => readLong?_of_spells, ⟨?_, ?_⟩, ?_⟩
  · intro none i low high spells
    rw [readLong?_of_spells spells, if_pos ⟨low, high⟩] at none
    exact absurd none (by simp)
  · intro unspelled
    refine Option.eq_none_iff_forall_ne_some.mpr fun v read => ?_
    exact unspelled v.toInt v.le_toInt v.toInt_lt (readLong?_eq_some_iff.mp read)
  · intro v before after front back h
    exact readLong?_eq_some_iff.mpr (spellsInteger_stored front back h)

/-- The least integer of 64 bits is read with leading zeros and between blanks of several kinds.
One less is spelled as well, and not read. -/
theorem least_integer_is_read :
    Text.SpellsInteger "\t\u3000-009223372036854775808\u0085\n" (-2 ^ 63) ∧
      readLong? "\t\u3000-009223372036854775808\u0085\n" = some Int64.minValue ∧
      Text.SpellsInteger "-9223372036854775809" (-2 ^ 63 - 1) ∧
      readLong? "-9223372036854775809" = none ∧
      readLong? ("\u2003" ++ stored (.long Int64.minValue) ++ "\r\n") = some Int64.minValue := by
  have spelled : Text.SpellsInteger "\t\u3000-009223372036854775808\u0085\n" (-2 ^ 63) := by
    have minus := Integer.Spells.minus (List.cons_ne_nil (0 : Digit)
      [0, 9, 2, 2, 3, 3, 7, 2, 0, 3, 6, 8, 5, 4, 7, 7, 5, 8, 0, 8])
    exact ⟨['\t', '\u3000'], _, ['\u0085', '\n'], by decide, by decide, by decide, minus⟩
  have below : Text.SpellsInteger "-9223372036854775809" (-2 ^ 63 - 1) := by
    have minus := Integer.Spells.minus (List.cons_ne_nil (9 : Digit)
      [2, 2, 3, 3, 7, 2, 0, 3, 6, 8, 5, 4, 7, 7, 5, 8, 0, 9])
    exact ⟨[], _, [], by decide, by decide, by decide, minus⟩
  refine ⟨spelled, ?_, below, ?_, ?_⟩
  · exact (reads_spelled_integers _).2.1 _ spelled
  · exact (reads_spelled_integers _).2.1 _ below
  · exact (reads_spelled_integers _).2.2.2 _ ['\u2003'] ['\r', '\n'] (by decide) (by decide)
      (by simp)

end SettingValue

end Keyguard
