import Keyguard.Text.Printable

/-!
# Quoted texts in messages

A text that comes from outside is quoted in a message: quotation marks around it, a backslash
before quotation marks and backslashes, short escapes for NUL, tab and line ends, and a code
point in braces for each character that would not show by itself.
-/

namespace Keyguard.Text

/-- The lower-case hexadecimal digits of a number, without leading zeros. -/
def hexDigits (n : Nat) : List Char := Nat.toDigits 16 n

/-- A character inside a quoted text. -/
def quoteChar (c : Char) : List Char :=
  if c = '"' ∨ c = '\\' then ['\\', c]
  else if c = '\x00' then ['\\', '0']
  else if c = '\t' then ['\\', 't']
  else if c = '\n' then ['\\', 'n']
  else if c = '\r' then ['\\', 'r']
  -- a character that extends the one before it would be drawn on the quotation mark
  else if isPrintable c && !extendsGrapheme c then [c]
  else ['\\', 'u', '\x7b'] ++ hexDigits c.toNat ++ ['\x7d']

/-- A text in quotation marks. -/
def quote (s : String) : String := String.ofList ('"' :: (s.toList.flatMap quoteChar ++ ['"']))

end Keyguard.Text
