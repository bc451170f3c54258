import Keyguard.Text.Bytes

/-!
# The order of texts

Texts are compared by the code points of their characters. That is also the order of their UTF-8
bytes (`Text.bytes_lt_bytes_iff`), in which names and keys are put outside this library: of two
characters the greater has the greater bytes, whatever follows either
(`Text.encode_append_lt`).
-/

namespace Keyguard.Text

open String

private theorem ofNat_lt_ofNat {m n : Nat} (hm : m < 256) (hn : n < 256) :
    UInt8.ofNat m < UInt8.ofNat n ↔ m < n := by
  rw [UInt8.lt_iff_toNat_lt, UInt8.toNat_ofNat_of_lt' hm, UInt8.toNat_ofNat_of_lt' hn]

private theorem ofNat_eq_ofNat {m n : Nat} (hm : m < 256) (hn : n < 256) :
    UInt8.ofNat m = UInt8.ofNat n ↔ m = n := by
  rw [← UInt8.toNat_inj, UInt8.toNat_ofNat_of_lt' hm, UInt8.toNat_ofNat_of_lt' hn]

/-- The bytes of a character come before those of a greater one, whatever follows. -/
theorem encode_append_lt {c d : Char} (h : c < d) (b b' : Bytes) :
    utf8EncodeChar c ++ b < utf8EncodeChar d ++ b' := by
  have codes : c.val.toNat < d.val.toNat := h
  have bound : d.val.toNat < 1114112 := by
    rcases d.valid with low | ⟨-, high⟩
    · exact Nat.lt_trans low (by decide)
    · exact high
  -- the bytes that follow the first hold six bits each
  have sixes (n : Nat) : n / 4096 = n / 64 / 64 ∧ n / 262144 = n / 64 / 64 / 64 := by
    simp only [Nat.div_div_eq_div_mul, and_self]
  simp only [utf8EncodeChar, sixes]
  generalize c.val.toNat = m at codes
  generalize d.val.toNat = n at codes bound
  -- the greater code has as many bytes or more, so six of the sixteen cases do not arise
  (repeat' split) <;> try omega
  all_goals
    simp (disch := omega) only [List.cons_append, List.nil_append, List.cons_lt_cons_iff,
      ofNat_lt_ofNat, ofNat_eq_ofNat]
  all_goals omega

private theorem flatMap_encode_lt {cs ds : List Char} (h : List.Lex (· < ·) cs ds) :
    cs.flatMap utf8EncodeChar < ds.flatMap utf8EncodeChar := by
  induction h with
  | @nil d ds =>
    obtain ⟨b, bs, first⟩ := List.exists_cons_of_ne_nil (utf8EncodeChar_ne_nil (c := d))
    rw [List.flatMap_cons, first]
    exact .nil
  | rel less => exact encode_append_lt less _ _
  | cons _ ih => exact List.append_left_lt ih

/-- The order of texts is the order of their bytes. -/
theorem bytes_lt_bytes_iff {s t : String} : bytes s < bytes t ↔ s < t := by
  have mono {s t : String} (h : s < t) : bytes s < bytes t := by
    rw [bytes_eq_flatMap, bytes_eq_flatMap]
    exact flatMap_encode_lt (String.lt_iff.mp h)
  refine ⟨fun h => String.not_le.mp fun ge => ?_, mono⟩
  by_cases same : t = s
  · exact List.lt_irrefl _ (same ▸ h)
  · exact List.lt_asymm h (mono (String.not_le.mp fun le => same (String.le_antisymm ge le)))

end Keyguard.Text
