/-!
# UTF-8 bytes

Texts as lists of bytes, and bytes that may fail to be a text. A reader that has to name the exact
byte at which its input goes wrong works on these lists.
-/

namespace EntitySync

namespace Utf8

/-- The byte of an ASCII character. -/
def byte (c : Char) : UInt8 := c.toUInt8

def encode (text : String) : List UInt8 :=
  text.toUTF8.data.toList

/-- The text that the bytes encode, if they are valid. -/
def decode? (bytes : List UInt8) : Option String :=
  String.fromUTF8? bytes.toByteArray

/-- The character that the bytes start with. No character takes more than four bytes. -/
def first? (bytes : List UInt8) : Option Char :=
  (bytes.take 4).toByteArray.utf8DecodeChar? 0

@[simp] theorem first?_encodeChar_append (c : Char) (rest : List UInt8) :
    first? (String.utf8EncodeChar c ++ rest) = some c := by
  have hlen : (String.utf8EncodeChar c).length ≤ 4 := by
    simpa using Char.utf8Size_le_four c
  have htake : (String.utf8EncodeChar c ++ rest).take 4 =
      String.utf8EncodeChar c ++ rest.take (4 - (String.utf8EncodeChar c).length) := by
    rw [List.take_append, List.take_of_length_le hlen]
  rw [first?, htake, List.toByteArray_append]
  exact ByteArray.utf8DecodeChar?_utf8EncodeChar_append

end Utf8

end EntitySync
