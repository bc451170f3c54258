import Keyguard.Text.Bytes

/-!
# Quoted texts of JSON

A text stands between quotation marks. What stands there is its *body*: UTF-8 with escapes for
the quotation mark, the backslash and the control characters below `0x20`.

* `Quoted.scan` finds where a body ends. It checks how escapes are spelled and that no control
  character stands bare, not what the body means.
* `Quoted.decode?` gives the text of a body. Escaped UTF-16 surrogates must come as a pair, and
  the whole must be UTF-8.
* `Quoted.encode` writes the body of a text with the fewest escapes, the short ones where
  they exist. Reading undoes writing (`decode?_encode`).
-/

namespace Keyguard.Json.Quoted

/-- The value of a hexadecimal digit. -/
def hexValue? (b : UInt8) : Option Nat :=
  let n := b.toNat
  if 48 ≤ n ∧ n < 58 then some (n - 48)
  else if 97 ≤ n ∧ n < 103 then some (n - 87)
  else if 65 ≤ n ∧ n < 71 then some (n - 55)
  else none

/-- The value of four hexadecimal digits. -/
def hexUnit? (a b c d : UInt8) : Option Nat :=
  match hexValue? a, hexValue? b, hexValue? c, hexValue? d with
  | some w, some x, some y, some z => some (((w * 16 + x) * 16 + y) * 16 + z)
  | _, _, _, _ => none

/-- The byte that a short escape stands for. -/
def shortEscape? : UInt8 → Option UInt8
  | 0x22 => some 0x22
  | 0x5c => some 0x5c
  | 0x2f => some 0x2f
  | 0x62 => some 0x08
  | 0x66 => some 0x0c
  | 0x6e => some 0x0a
  | 0x72 => some 0x0d
  | 0x74 => some 0x09
  | _ => none

/-! ### The end of a body -/

/-- Adds the bytes in front of a body. -/
def extend (front : Bytes) : Option (Bytes × Bytes) → Option (Bytes × Bytes)
  | some (body, rest) => some (front ++ body, rest)
  | none => none

/-- The body at the front and what follows its closing quotation mark. -/
def scan : Bytes → Option (Bytes × Bytes)
  | [] => none
  | 0x22 :: rest => some ([], rest)
  | 0x5c :: 0x75 :: a :: b :: c :: d :: rest =>
    if (hexUnit? a b c d).isSome then extend [0x5c, 0x75, a, b, c, d] (scan rest) else none
  | 0x5c :: e :: rest =>
    if (shortEscape? e).isSome then extend [0x5c, e] (scan rest) else none
  | b :: rest => if b < 0x20 ∨ b = 0x5c then none else extend [b] (scan rest)

private theorem length_extend_lt {front tail body rest : Bytes} (k : Nat)
    (ih : ∀ {body rest : Bytes}, scan tail = some (body, rest) → rest.length < tail.length)
    (h : extend front (scan tail) = some (body, rest)) : rest.length < tail.length + k := by
  rcases hs : scan tail with _ | ⟨p, q⟩
  · rw [hs] at h; simp [extend] at h
  · rw [hs] at h
    simp only [extend, Option.some.injEq, Prod.mk.injEq] at h
    have := ih hs
    rw [← h.2]; omega

/-- What follows a body is shorter than the body with what follows. -/
theorem length_scan_lt {b body rest : Bytes} (h : scan b = some (body, rest)) :
    rest.length < b.length := by
  fun_induction scan b generalizing body rest with
  | case1 => simp at h
  | case2 rest' =>
    simp only [Option.some.injEq, Prod.mk.injEq] at h
    rw [← h.2]; simp
  | case3 a b c d tail _ ih => exact length_extend_lt 6 ih h
  | case4 => simp at h
  | case5 e tail _ _ ih => exact length_extend_lt 2 ih h
  | case6 => simp at h
  | case7 => simp at h
  | case8 b tail _ _ _ _ ih => exact length_extend_lt 1 ih h

/-! ### The text of a body -/

/-- The UTF-8 bytes of a code point. -/
def codePoint (n : Nat) : Bytes := String.utf8EncodeChar (Char.ofNat n)

/-- The bytes of a body with its escapes replaced. -/
def unescape : Bytes → Option Bytes
  | [] => some []
  | 0x5c :: 0x75 :: a :: b :: c :: d :: rest => do
    let unit ← hexUnit? a b c d
    if 0xd800 ≤ unit ∧ unit < 0xdc00 then
      match rest with
      | 0x5c :: 0x75 :: a' :: b' :: c' :: d' :: rest' =>
        let low ← hexUnit? a' b' c' d'
        if 0xdc00 ≤ low ∧ low < 0xe000 then
          let bytes ← unescape rest'
          return codePoint (0x10000 + (unit - 0xd800) * 0x400 + (low - 0xdc00)) ++ bytes
        else none
      | _ => none
    else if 0xdc00 ≤ unit ∧ unit < 0xe000 then none
    else
      let bytes ← unescape rest
      return codePoint unit ++ bytes
  | 0x5c :: e :: rest => do
    let b ← shortEscape? e
    let bytes ← unescape rest
    return b :: bytes
  | b :: rest => do
    let bytes ← unescape rest
    return b :: bytes

/-- The text of a body, if the body is UTF-8 and its surrogates are paired. -/
def decode? (body : Bytes) : Option String := unescape body >>= Text.ofBytes?

/-! ### The body of a text -/

/-- The lower-case hexadecimal digit of a value below 16. -/
def hexDigit (n : Nat) : UInt8 := UInt8.ofNat (if n < 10 then 48 + n else 87 + n)

/-- A character in a body. -/
def encodeChar (c : Char) : Bytes :=
  if c = '"' then [0x5c, 0x22]
  else if c = '\\' then [0x5c, 0x5c]
  else if c = '\x08' then [0x5c, 0x62]
  else if c = '\x0c' then [0x5c, 0x66]
  else if c = '\n' then [0x5c, 0x6e]
  else if c = '\r' then [0x5c, 0x72]
  else if c = '\t' then [0x5c, 0x74]
  else if c.toNat < 0x20 then
    [0x5c, 0x75, 0x30, 0x30, hexDigit (c.toNat / 16), hexDigit (c.toNat % 16)]
  else String.utf8EncodeChar c

/-- The body of a text. -/
def encode (s : String) : Bytes := s.toList.flatMap encodeChar

/-! ### Reading undoes writing -/

private theorem unescape_append_plain {front : Bytes} (h : ∀ b ∈ front, b ≠ 0x5c) (rest : Bytes) :
    unescape (front ++ rest) = (unescape rest).map (front ++ ·) := by
  induction front with
  | nil => simp
  | cons b front ih =>
    rw [List.forall_mem_cons] at h
    rw [List.cons_append, unescape]
    · rw [ih h.2]; cases unescape rest <;> rfl
    · rintro a b c d r rfl; exact absurd rfl h.1
    · rintro e r rfl; exact absurd rfl h.1

private theorem utf8EncodeChar_plain {c : Char} (h : c ≠ '\\') :
    ∀ b ∈ String.utf8EncodeChar c, b ≠ 0x5c := by
  have hc : c.val.toNat ≠ 0x5c := fun e => h (Char.ext (UInt32.toNat_inj.1 e))
  intro b hb e
  have hb' : (0x5c : UInt8) ∈ String.utf8EncodeChar c := e ▸ hb
  simp only [String.utf8EncodeChar] at hb'
  split at hb' <;> (try split at hb') <;> (try split at hb') <;>
    simp only [List.mem_cons, List.not_mem_nil, or_false, ← UInt8.toNat_inj, UInt8.toNat_ofNat',
      UInt8.reduceToNat] at hb' <;> omega

theorem hexUnit?_control : ∀ n < 0x20,
    hexUnit? 0x30 0x30 (hexDigit (n / 16)) (hexDigit (n % 16)) = some n := by
  decide

/-- Reading a character in a body gives its UTF-8 bytes. -/
theorem unescape_encodeChar (c : Char) (rest : Bytes) :
    unescape (encodeChar c ++ rest) = (unescape rest).map (String.utf8EncodeChar c ++ ·) := by
  have short {e b : UInt8} (he : e ≠ 0x75) (hs : shortEscape? e = some b)
      (hc : String.utf8EncodeChar c = [b]) :
      unescape ([0x5c, e] ++ rest) = (unescape rest).map (String.utf8EncodeChar c ++ ·) := by
    rw [hc, List.cons_append, List.cons_append, List.nil_append, unescape]
    · rw [hs]; cases unescape rest <;> rfl
    · rintro a b c d r h; exact absurd h he
  rw [encodeChar]
  split
  · rename_i h; subst h; exact short (by decide) rfl rfl
  split
  · rename_i h; subst h; exact short (by decide) rfl rfl
  split
  · rename_i h; subst h; exact short (by decide) rfl rfl
  split
  · rename_i h; subst h; exact short (by decide) rfl rfl
  split
  · rename_i h; subst h; exact short (by decide) rfl rfl
  split
  · rename_i h; subst h; exact short (by decide) rfl rfl
  split
  · rename_i h; subst h; exact short (by decide) rfl rfl
  split
  · rename_i h
    have hu := hexUnit?_control c.toNat h
    simp only [List.cons_append, List.nil_append, unescape, hu]
    have hc : codePoint c.toNat = String.utf8EncodeChar c := by rw [codePoint, Char.ofNat_toNat]
    have h1 : ¬ (0xd800 ≤ c.toNat ∧ c.toNat < 0xdc00) := by omega
    have h2 : ¬ (0xdc00 ≤ c.toNat ∧ c.toNat < 0xe000) := by omega
    simp only [Option.bind_eq_bind, Option.bind_some, if_neg h1, if_neg h2, hc]
    cases unescape rest <;> rfl
  · rename_i h _ _ _ _ _ _
    exact unescape_append_plain (utf8EncodeChar_plain h) rest

/-- Reading the body of a text gives the text. -/
theorem decode?_encode (s : String) : decode? (encode s) = some s := by
  have key (cs : List Char) : unescape (cs.flatMap encodeChar) =
      some (cs.flatMap String.utf8EncodeChar) := by
    induction cs with
    | nil => rfl
    | cons c cs ih => rw [List.flatMap_cons, List.flatMap_cons, unescape_encodeChar, ih]; rfl
  rw [decode?, encode, key, ← Text.bytes_eq_flatMap]
  exact Text.ofBytes?_bytes s

end Keyguard.Json.Quoted
