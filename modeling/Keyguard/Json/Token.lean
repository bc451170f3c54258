import Keyguard.Json.Numeral
import Keyguard.Json.Quoted

/-!
# Tokens of JSON

A JSON text is a row of tokens with white space between them, which is the space, the tab and
the two line ends only. A number or a quoted text is a token by its spelling alone: what it
means is read later, and never where it is skipped.

* `Token.scan` takes one token from the front, `Token.ofBytes?` all of them.
* `Token.bytes` writes a token.
-/

namespace Keyguard.Json

/-- A token of JSON. -/
inductive Token where
  | openArray
  | closeArray
  | openObject
  | closeObject
  | comma
  | colon
  | null
  | bool (b : Bool)
  | number (n : Numeral)
  | string (body : Bytes)
  deriving DecidableEq

namespace Token

/-- White space between tokens. -/
def isSpace (b : UInt8) : Bool := b == 0x20 || b == 0x09 || b == 0x0a || b == 0x0d

/-- The token at the front of some bytes without leading white space, and what follows it. -/
def scan : Bytes → Option (Token × Bytes)
  | 0x5b :: rest => some (.openArray, rest)
  | 0x5d :: rest => some (.closeArray, rest)
  | 0x7b :: rest => some (.openObject, rest)
  | 0x7d :: rest => some (.closeObject, rest)
  | 0x2c :: rest => some (.comma, rest)
  | 0x3a :: rest => some (.colon, rest)
  | 0x22 :: rest => (Quoted.scan rest).map fun (body, rest) => (.string body, rest)
  | 0x6e :: 0x75 :: 0x6c :: 0x6c :: rest => some (.null, rest)
  | 0x74 :: 0x72 :: 0x75 :: 0x65 :: rest => some (.bool true, rest)
  | 0x66 :: 0x61 :: 0x6c :: 0x73 :: 0x65 :: rest => some (.bool false, rest)
  | b => (Numeral.scan b).map fun (n, rest) => (.number n, rest)

theorem length_scan_lt {b rest : Bytes} {t : Token} (h : scan b = some (t, rest)) :
    rest.length < b.length := by
  unfold scan at h
  split at h
  case h_7 =>
    simp only [Option.map_eq_some_iff, Prod.mk.injEq, Prod.exists] at h
    obtain ⟨_, _, h, -, rfl⟩ := h
    have := Quoted.length_scan_lt h
    simp only [List.length_cons]; omega
  case h_11 =>
    simp only [Option.map_eq_some_iff, Prod.mk.injEq, Prod.exists] at h
    obtain ⟨_, _, h, -, rfl⟩ := h
    exact Numeral.length_scan_lt h
  all_goals
    simp only [Option.some.injEq, Prod.mk.injEq] at h
    simp only [← h.2, List.length_cons]; omega

theorem length_dropWhile_isSpace_le (b : Bytes) : (b.dropWhile isSpace).length ≤ b.length :=
  (List.dropWhile_sublist isSpace).length_le

/-- All tokens of a text. -/
def ofBytes? (b : Bytes) : Option (List Token) :=
  match _hb : b.dropWhile isSpace with
  | [] => some []
  | x :: xs =>
    match _h : scan (x :: xs) with
    | none => none
    | some (t, rest) => (ofBytes? rest).map (t :: ·)
termination_by b.length
decreasing_by
  have := length_scan_lt _h
  have := length_dropWhile_isSpace_le b
  rw [_hb] at this
  omega

/-- The bytes of a token. -/
def bytes : Token → Bytes
  | .openArray => [0x5b]
  | .closeArray => [0x5d]
  | .openObject => [0x7b]
  | .closeObject => [0x7d]
  | .comma => [0x2c]
  | .colon => [0x3a]
  | .null => [0x6e, 0x75, 0x6c, 0x6c]
  | .bool true => [0x74, 0x72, 0x75, 0x65]
  | .bool false => [0x66, 0x61, 0x6c, 0x73, 0x65]
  | .number n => n.bytes
  | .string body => 0x22 :: (body ++ [0x22])

end Token

end Keyguard.Json
