/-!
# Texts as bytes

A file holds a list of bytes, and a text is kept in a file in UTF-8. `Text.bytes` writes a
text and `Text.ofBytes?` reads one, refusing every list of bytes that is not UTF-8.

* `ofBytes?_bytes`: what was written is read back.
* `bytes_eq_flatMap`: a text is written character by character.
-/

namespace Keyguard

/-- The contents of a file. -/
abbrev Bytes := List UInt8

namespace Text

/-- The UTF-8 bytes of a text. -/
def bytes (s : String) : Bytes := s.toByteArray.data.toList

/-- The text that the bytes spell, if they are UTF-8. -/
def ofBytes? (b : Bytes) : Option String := String.fromUTF8? ⟨b.toArray⟩

/-- A text can be read back from its bytes. -/
theorem ofBytes?_bytes (s : String) : ofBytes? (bytes s) = some s := by
  have h : (⟨(bytes s).toArray⟩ : ByteArray) = s.toByteArray := rfl
  rw [ofBytes?, h, String.fromUTF8?, dif_pos s.isValidUTF8]
  rfl

/-- A text is written one character after the other. -/
theorem bytes_ofList (cs : List Char) :
    bytes (String.ofList cs) = cs.flatMap String.utf8EncodeChar := by
  simp [bytes, List.utf8Encode]

theorem bytes_eq_flatMap (s : String) : bytes s = s.toList.flatMap String.utf8EncodeChar := by
  rw [← bytes_ofList, String.ofList_toList]

end Text

end Keyguard
