/-!
# Bytes and text

Files and terminals carry bytes; texts are written to them in UTF-8. Reading bytes back as text
can fail.

* `decode?_encode`: what was written as text reads back as that text.
* `encode_append`: texts are written one after the other.
* `length_encode`: the number of bytes is the size of the text.
-/

namespace Scaffold.Text

/-- A sequence of bytes. -/
abbrev Bytes := List UInt8

/-- A text in UTF-8. -/
def encode (s : String) : Bytes := s.toUTF8.data.toList

/-- The text that the bytes are in UTF-8, if they are one. -/
def decode? (bytes : Bytes) : Option String := String.fromUTF8? ⟨bytes.toArray⟩

theorem decode?_encode (s : String) : decode? (encode s) = some s := by
  have h : (⟨(encode s).toArray⟩ : ByteArray) = s.toUTF8 := by
    simp [encode, Array.toArray_toList]
  rw [decode?, h]
  exact dif_pos s.isValidUTF8

theorem encode_append (s t : String) : encode (s ++ t) = encode s ++ encode t := by
  simp [encode, String.toUTF8]

theorem length_encode (s : String) : (encode s).length = s.utf8ByteSize := by
  simp [encode, String.toUTF8]

end Scaffold.Text
