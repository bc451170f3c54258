import Keyguard.Proofs.Json.Reading

/-!
# JSON in UTF-8

A file of JSON is read as a text first, so what is written of a value must be UTF-8. It is where
the quoted bodies are (`Token.isUtf8_bytes`), since all else in a JSON text is ASCII. The body of a
text is UTF-8 (`Quoted.isUtf8_encode`), hence so are the values that the library writes, and an
object all of whose values are (`isUtf8_ofMembers`).
-/

namespace Keyguard

namespace Text

/-- Whether some bytes are a text. -/
def IsUtf8 (b : Bytes) : Prop := (ofBytes? b).isSome

instance (b : Bytes) : Decidable (IsUtf8 b) :=
  inferInstanceAs (Decidable ((ofBytes? b).isSome = true))

theorem isUtf8_bytes (s : String) : IsUtf8 (bytes s) := by
  rw [IsUtf8, ofBytes?_bytes]
  rfl

theorem isUtf8_iff {b : Bytes} : IsUtf8 b ↔ ∃ s, bytes s = b := by
  constructor
  · intro h
    rw [IsUtf8, ofBytes?, String.fromUTF8?] at h
    split at h
    · rename_i valid
      exact ⟨String.fromUTF8 ⟨b.toArray⟩ valid, rfl⟩
    · exact absurd h (by simp)
  · rintro ⟨s, rfl⟩
    exact isUtf8_bytes s

theorem isUtf8_nil : IsUtf8 [] := isUtf8_bytes ""

theorem IsUtf8.append {b b' : Bytes} (h : IsUtf8 b) (h' : IsUtf8 b') : IsUtf8 (b ++ b') := by
  obtain ⟨s, rfl⟩ := isUtf8_iff.mp h
  obtain ⟨s', rfl⟩ := isUtf8_iff.mp h'
  have joined : bytes (s ++ s') = bytes s ++ bytes s' := by
    simp only [bytes, String.toByteArray_append, ByteArray.data_append, Array.toList_append]
  exact joined ▸ isUtf8_bytes (s ++ s')

theorem isUtf8_flatMap {α : Type} {f : α → Bytes} {l : List α} (h : ∀ a ∈ l, IsUtf8 (f a)) :
    IsUtf8 (l.flatMap f) := by
  induction l with
  | nil => exact isUtf8_nil
  | cons a l ih =>
    rw [List.forall_mem_cons] at h
    exact h.1.append (ih h.2)

theorem isUtf8_encodeChar (c : Char) : IsUtf8 (String.utf8EncodeChar c) := by
  have alone := bytes_ofList [c]
  rw [List.flatMap_singleton] at alone
  exact alone ▸ isUtf8_bytes (String.ofList [c])

/-- ASCII is UTF-8. -/
theorem isUtf8_of_ascii {b : Bytes} (h : b.all (· < 0x80) = true) : IsUtf8 b := by
  induction b with
  | nil => exact isUtf8_nil
  | cons x b ih =>
    rw [List.all_cons, Bool.and_eq_true, decide_eq_true_eq] at h
    have size : (Char.ofUInt8 x).utf8Size = 1 := by
      rw [Char.utf8Size_eq_one_iff, UInt32.le_iff_toNat_le]
      exact Nat.le_of_lt_succ (UInt8.lt_iff_toNat_lt.mp h.1)
    have first : String.utf8EncodeChar (Char.ofUInt8 x) = [x] := by
      rw [String.utf8EncodeChar_eq_singleton size]
      exact congrArg ([·]) (UInt8.toUInt8_toUInt32 x)
    exact .append (first ▸ isUtf8_encodeChar _) (ih h.2)

end Text

namespace Json

open Text

/-! ### Parts -/

/-- The body of a text is UTF-8, for escapes are ASCII. -/
theorem Quoted.isUtf8_encode (s : String) : IsUtf8 (encode s) := by
  refine isUtf8_flatMap fun c _ => ?_
  rw [encodeChar]
  iterate 7
    split
    · exact isUtf8_of_ascii (by decide)
  split
  · rename_i control
    have hex : ∀ n < 16, hexDigit n < 0x80 := by decide
    have high := hex (c.toNat / 16) (by omega)
    have low := hex (c.toNat % 16) (by omega)
    exact isUtf8_of_ascii (by simp [high, low])
  · exact isUtf8_encodeChar c

/-- A numeral is ASCII. -/
theorem Numeral.isUtf8_bytes (n : Numeral) : IsUtf8 n.bytes := by
  have small : ∀ d : Digit, code d.toChar < 0x80 := by decide
  have digits (ds : List Digit) : IsUtf8 ((ds.map Digit.toChar).map code) := by
    refine isUtf8_of_ascii (List.all_eq_true.mpr fun x hx => ?_)
    rw [List.map_map] at hx
    obtain ⟨d, -, rfl⟩ := List.mem_map.mp hx
    exact decide_eq_true (small d)
  rw [bytes_eq]
  refine .append ?_ ((digits _).append (.append ?_ ?_))
  · cases n.negative <;> exact isUtf8_of_ascii (by decide)
  · rw [fractionChars]
    split
    · exact isUtf8_nil
    · have point : IsUtf8 [code '.'] := isUtf8_of_ascii (by decide)
      exact point.append (digits _)
  · rw [exponentChars]
    split
    · exact isUtf8_nil
    · rename_i e _
      have letter : IsUtf8 [code 'e'] := isUtf8_of_ascii (by decide)
      have sign : IsUtf8 [code (if e.negative then '-' else '+')] := by
        cases e.negative <;> exact isUtf8_of_ascii (by decide)
      exact letter.append (sign.append (digits _))

/-- A token is UTF-8 if its body is. -/
theorem Token.isUtf8_bytes {t : Token} (body : ∀ b, t = .string b → IsUtf8 b) :
    IsUtf8 t.bytes := by
  cases t with
  | number n => exact n.isUtf8_bytes
  | string b =>
    have mark : IsUtf8 [0x22] := isUtf8_of_ascii (by decide)
    exact mark.append ((body b rfl).append mark)
  | bool b => cases b <;> exact isUtf8_of_ascii (by decide)
  | _ => exact isUtf8_of_ascii (by decide)

/-! ### Values -/

/-- A text as a value. -/
theorem isUtf8_ofText (s : String) : IsUtf8 (ofText s).bytes := by
  have body : IsUtf8 (Token.string (Quoted.encode s)).bytes :=
    Token.isUtf8_bytes fun b same => Token.string.inj same ▸ Quoted.isUtf8_encode s
  exact body.append isUtf8_nil

theorem isUtf8_bool (b : Bool) : IsUtf8 (Json.bool b).bytes :=
  (Token.isUtf8_bytes nofun : IsUtf8 (Token.bool b).bytes).append isUtf8_nil

/-- A double, finite or not. -/
theorem isUtf8_ofDouble (x : Float) : IsUtf8 (ofDouble x).bytes := by
  rw [ofDouble]
  cases FloatSpelling.double.ofBits? x.toBits.toNat with
  | none => exact isUtf8_of_ascii (by decide)
  | some n => exact n.isUtf8_bytes.append isUtf8_nil

/-- The text of an object is UTF-8 if its names and the texts of its values are. -/
theorem isUtf8_object {ms : List (Bytes × Json)} (h : ∀ m ∈ ms, IsUtf8 m.1 ∧ IsUtf8 m.2.bytes) :
    IsUtf8 (Json.object ms).bytes := by
  have opening : IsUtf8 Token.openObject.bytes := isUtf8_of_ascii (by decide)
  have closing : IsUtf8 Token.closeObject.bytes := isUtf8_of_ascii (by decide)
  have comma : IsUtf8 Token.comma.bytes := isUtf8_of_ascii (by decide)
  have colon : IsUtf8 Token.colon.bytes := isUtf8_of_ascii (by decide)
  have member {m : Bytes × Json} (h : IsUtf8 m.1 ∧ IsUtf8 m.2.bytes) {ts : List Token}
      (rest : IsUtf8 (tokenBytes ts)) :
      IsUtf8 (tokenBytes (.string m.1 :: .colon :: (m.2.tokens ++ ts))) := by
    have name : IsUtf8 (Token.string m.1).bytes :=
      Token.isUtf8_bytes fun b same => Token.string.inj same ▸ h.1
    have value : IsUtf8 (tokenBytes (m.2.tokens ++ ts)) := by
      rw [tokenBytes_append]
      exact h.2.append rest
    exact name.append (colon.append value)
  have members : ∀ ms : List (Bytes × Json), (∀ m ∈ ms, IsUtf8 m.1 ∧ IsUtf8 m.2.bytes) →
      IsUtf8 (tokenBytes (memberTokens ms)) := by
    intro ms h
    induction ms with
    | nil => exact closing.append isUtf8_nil
    | cons m ms ih =>
      rw [List.forall_mem_cons] at h
      exact comma.append (member h.1 (ih h.2))
  cases ms with
  | nil => exact opening.append (closing.append isUtf8_nil)
  | cons m ms =>
    rw [List.forall_mem_cons] at h
    exact opening.append (member h.1 (members ms h.2))

/-- The text of an object is UTF-8 if those of its values are. -/
theorem isUtf8_ofMembers {ms : List (String × Json)} (h : ∀ m ∈ ms, IsUtf8 m.2.bytes) :
    IsUtf8 (ofMembers ms).bytes := by
  refine isUtf8_object fun m written => ?_
  obtain ⟨⟨name, v⟩, mem, rfl⟩ := List.mem_map.mp written
  exact ⟨Quoted.isUtf8_encode name, h (name, v) mem⟩

end Json

end Keyguard
