import Keyguard.Json.Numeral
import Keyguard.Proofs.Decimal.Shortest

/-!
# Reading numerals that were written

A numeral is **well formed** if it has a whole digit, a leading zero only alone, and a digit of an
exponent if there is one. What is written of such a numeral is read back as that numeral, whatever
follows, unless that could continue a numeral (`Numeral.scan_bytes`).

All numerals that the library writes are well formed: those of integers (`wellFormed_ofInt`) and
those of floating-point values (`FloatSpelling.wellFormed_of_ofBits?`). For the latter the shortest
decimal of a value must not be zero, which is so because its window does not reach down to zero
(`Magnitude.coefficient_shortest_ne_zero`).
-/

namespace Keyguard

namespace Json

/-! ### Rows of digits -/

/-- Whether no byte at the front is a digit. -/
def NoDigit (rest : Bytes) : Prop := ∀ b ∈ rest.head?, digitOfByte? b = none

/-- Whether no byte at the front could continue a numeral. -/
def Follows (rest : Bytes) : Prop :=
  ∀ b ∈ rest.head?, digitOfByte? b = none ∧ b ≠ 0x2e ∧ b ≠ 0x65 ∧ b ≠ 0x45

theorem Follows.noDigit {rest : Bytes} (h : Follows rest) : NoDigit rest := fun b hb => (h b hb).1

theorem follows_nil : Follows [] := fun b hb => by simp at hb

/-- The byte of a character of a numeral. -/
def code (c : Char) : UInt8 := UInt8.ofNat c.toNat

theorem digitOfByte?_code (d : Digit) : digitOfByte? (code d.toChar) = some d := by
  revert d
  decide

theorem code_toChar_ne (d : Digit) :
    code d.toChar ≠ 0x2d ∧ code d.toChar ≠ 0x2b := by
  revert d
  decide

/-- The longest row of digits is taken. -/
theorem takeDigits_append (ds : List Digit) {rest : Bytes} (stop : NoDigit rest) :
    takeDigits ((ds.map Digit.toChar).map code ++ rest) = (ds, rest) := by
  induction ds with
  | nil =>
    cases rest with
    | nil => rfl
    | cons b rest =>
      have none : digitOfByte? b = none := stop b rfl
      simp only [List.map_nil, List.nil_append, takeDigits, none]
  | cons d ds ih =>
    simp only [List.map_cons, List.cons_append, takeDigits, digitOfByte?_code]
    rw [ih]

namespace Numeral

/-- Whether a numeral can be read. -/
structure WellFormed (n : Numeral) : Prop where
  whole : n.whole ≠ []
  leading : n.whole.head? = some 0 → n.whole = [0]
  exponent : ∀ e ∈ n.exponent, e.digits ≠ []

/-! ### The parts of a numeral -/

/-- The fraction of a numeral as it is written. -/
def fractionChars (n : Numeral) : List Char :=
  if n.fraction = [] then [] else '.' :: n.fraction.map Digit.toChar

/-- The exponent of a numeral as it is written. -/
def exponentChars (n : Numeral) : List Char :=
  match n.exponent with
  | none => []
  | some e => 'e' :: (if e.negative then '-' else '+') :: e.digits.map Digit.toChar

theorem bytes_eq (n : Numeral) :
    n.bytes = (if n.negative then [0x2d] else []) ++ ((n.whole.map Digit.toChar).map code ++
      (n.fractionChars.map code ++ n.exponentChars.map code)) := by
  rw [bytes, chars]
  simp only [List.map_append, List.append_assoc, fractionChars, exponentChars]
  cases n.negative <;> rfl

variable {n : Numeral} {rest : Bytes}

/-- A numeral begins with a sign or a digit. -/
theorem head?_bytes (wf : n.WellFormed) (rest : Bytes) :
    (n.bytes ++ rest).head? = some 0x2d ∨
      ∃ d : Digit, (n.bytes ++ rest).head? = some (code d.toChar) := by
  obtain ⟨d, ds, hds⟩ := List.exists_cons_of_ne_nil wf.whole
  rw [bytes_eq, hds]
  cases n.negative with
  | true => exact .inl rfl
  | false => exact .inr ⟨d, rfl⟩

theorem scanExponent_append (wf : n.WellFormed) (stop : Follows rest) :
    scanExponent (n.exponentChars.map code ++ rest) = some (n.exponent, rest) := by
  rw [exponentChars]
  cases he : n.exponent with
  | none =>
    cases rest with
    | nil => rfl
    | cons b rest =>
      obtain ⟨-, -, small, large⟩ := stop b rfl
      simp only [List.map_nil, List.nil_append, scanExponent]
      rw [if_neg fun h => h.elim small large]
  | some e =>
    have digits := takeDigits_append e.digits stop.noDigit
    have some_ : e.digits ≠ [] := wf.exponent e he
    obtain ⟨negative, ds⟩ := e
    obtain ⟨d, ds, rfl⟩ := List.exists_cons_of_ne_nil some_
    have scanned (negative : Bool) : scanExponentDigits negative
        (((d :: ds).map Digit.toChar).map code ++ rest) =
          some (some ⟨negative, d :: ds⟩, rest) := by
      rw [scanExponentDigits, digits]
    cases negative with
    | true => exact scanned true
    | false => exact scanned false

theorem noDigit_exponentChars (stop : Follows rest) :
    NoDigit (n.exponentChars.map code ++ rest) := by
  rw [exponentChars]
  cases n.exponent with
  | none => exact stop.noDigit
  | some e =>
    intro b hb
    obtain rfl : code 'e' = b := Option.some.inj hb
    decide

theorem scanFraction_append (stop : Follows rest) :
    scanFraction (n.fractionChars.map code ++ (n.exponentChars.map code ++ rest)) =
      some (n.fraction, n.exponentChars.map code ++ rest) := by
  have after := noDigit_exponentChars (n := n) stop
  rw [fractionChars]
  split
  · rename_i none
    rw [none]
    -- neither the letter of an exponent nor what follows is a point
    have noPoint : ∀ b ∈ (n.exponentChars.map code ++ rest).head?, b ≠ 0x2e := by
      intro b hb
      rw [exponentChars] at hb
      cases he : n.exponent with
      | none =>
        rw [he] at hb
        exact (stop b hb).2.1
      | some e =>
        rw [he] at hb
        obtain rfl : code 'e' = b := Option.some.inj hb
        decide
    rw [List.map_nil, List.nil_append]
    unfold scanFraction
    split
    · rename_i h
      exact absurd rfl (noPoint 0x2e (by rw [h]; rfl))
    · rfl
  · rename_i some_
    obtain ⟨d, ds, hds⟩ := List.exists_cons_of_ne_nil some_
    have digits := takeDigits_append n.fraction after
    rw [hds] at digits ⊢
    have point : code '.' = 0x2e := rfl
    rw [List.map_cons, List.cons_append, point, scanFraction, digits]

theorem noDigit_fractionChars (stop : Follows rest) :
    NoDigit (n.fractionChars.map code ++ (n.exponentChars.map code ++ rest)) := by
  rw [fractionChars]
  split
  · exact noDigit_exponentChars stop
  · intro b hb
    obtain rfl : code '.' = b := Option.some.inj hb
    decide

theorem scanMagnitude_append (wf : n.WellFormed) (stop : Follows rest) :
    scanMagnitude n.negative ((n.whole.map Digit.toChar).map code ++
      (n.fractionChars.map code ++ (n.exponentChars.map code ++ rest))) = some (n, rest) := by
  have digits := takeDigits_append n.whole (noDigit_fractionChars (n := n) stop)
  obtain ⟨d, ds, hds⟩ := List.exists_cons_of_ne_nil wf.whole
  have alone : ¬(d = 0 ∧ ds ≠ []) := by
    rintro ⟨rfl, more⟩
    have single := wf.leading (by rw [hds]; rfl)
    rw [hds] at single
    exact more (List.cons.inj single).2
  have whole : scanWhole ((n.whole.map Digit.toChar).map code ++
      (n.fractionChars.map code ++ (n.exponentChars.map code ++ rest))) =
        some (n.whole, n.fractionChars.map code ++ (n.exponentChars.map code ++ rest)) := by
    rw [scanWhole, digits, hds]
    exact if_neg alone
  simp only [scanMagnitude, whole, scanFraction_append stop, scanExponent_append wf stop, bind,
    Option.bind_some, pure]

/-- **A numeral is read back**, whatever follows that cannot continue it. -/
theorem scan_bytes (wf : n.WellFormed) (stop : Follows rest) :
    scan (n.bytes ++ rest) = some (n, rest) := by
  have magnitude := scanMagnitude_append wf stop
  rw [bytes_eq]
  simp only [List.append_assoc]
  cases negative : n.negative with
  | true =>
    rw [negative] at magnitude
    exact magnitude
  | false =>
    rw [negative] at magnitude
    obtain ⟨d, ds, hds⟩ := List.exists_cons_of_ne_nil wf.whole
    rw [hds] at magnitude ⊢
    rw [if_neg (by simp), List.nil_append]
    unfold scan
    split
    · rename_i h
      exact absurd (List.cons.inj h).1 (code_toChar_ne d).1
    · exact magnitude

/-! ### The numerals that are written -/

/-- The numeral of an integer. -/
theorem wellFormed_ofInt (i : Int) : (Numeral.ofInt i).WellFormed where
  whole := Digits.ofNat_ne_nil _
  leading := fun h => by
    have zero : i.natAbs = 0 := Digits.eq_zero_of_head? h
    rw [ofInt, zero, Digits.ofNat]
    rfl
  exponent := fun e he => by simp [ofInt] at he

end Numeral

namespace FloatSpelling

/-- The numeral of a decimal other than zero. -/
theorem wellFormed_ofDecimal (s : FloatSpelling) (negative : Bool) {x : Decimal}
    (h : x.coefficient ≠ 0) : (s.ofDecimal negative x).WellFormed := by
  have nonempty := Digits.ofNat_ne_nil x.coefficient
  have leading : (Digits.ofNat x.coefficient).head? ≠ some 0 :=
    fun zero => h (Digits.eq_zero_of_head? zero)
  obtain ⟨d, ds, hds⟩ := List.exists_cons_of_ne_nil nonempty
  rw [ofDecimal]
  simp only
  rw [hds] at leading ⊢
  split
  · -- one digit before the point
    refine ⟨by simp, fun zero => ?_, ?_⟩
    · exact absurd zero leading
    · rintro e ⟨⟩
      exact Digits.ofNat_ne_nil _
  split
  · exact ⟨by simp, fun zero => absurd zero leading, by simp⟩
  split
  · rename_i places
    obtain ⟨k, hk⟩ : ∃ k, (d :: ds).length - x.exponent.natAbs = k + 1 :=
      Nat.exists_eq_succ_of_ne_zero (by omega)
    rw [hk]
    exact ⟨by simp, fun zero => absurd zero leading, by simp⟩
  · exact ⟨by simp, fun _ => rfl, by simp⟩

/-- The numeral of a floating-point value. -/
theorem wellFormed_of_ofBits? {s : FloatSpelling} {bits : Nat} {n : Numeral}
    (h : s.ofBits? bits = some n) : n.WellFormed := by
  rw [ofBits?] at h
  cases hr : s.format.read bits with
  | none => simp [hr] at h
  | some value =>
    obtain ⟨negative, x⟩ := value
    simp only [hr, Option.some.injEq] at h
    rw [← h]
    split
    · exact ⟨by simp [Numeral.zero], fun _ => rfl, by simp [Numeral.zero]⟩
    · rename_i nonzero
      exact s.wellFormed_ofDecimal negative (Magnitude.coefficient_shortest_ne_zero nonzero)

end FloatSpelling

end Json

end Keyguard
