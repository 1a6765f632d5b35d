/-!
Bytes as they travel on the stream. A text is written by its UTF-8 bytes; the few character
tests the wire format needs are tests on single bytes.
-/

namespace StreamHttp

abbrev Byte := UInt8

abbrev Bytes := List Byte

namespace Bytes

def ofChars (chars : List Char) : Bytes := chars.flatMap String.utf8EncodeChar

def ofString (text : String) : Bytes := ofChars text.toList

theorem of_chars_append (left right : List Char) :
    ofChars (left ++ right) = ofChars left ++ ofChars right := by
  simp [ofChars]

theorem of_string_append (left right : String) :
    ofString (left ++ right) = ofString left ++ ofString right := by
  rw [ofString, String.toList_append, of_chars_append]
  rfl

end Bytes

namespace Byte

def cr : Byte := 13
def lf : Byte := 10

def isDigit (byte : Byte) : Bool := 48 ≤ byte && byte ≤ 57

def isAlpha (byte : Byte) : Bool := (65 ≤ byte && byte ≤ 90) || (97 ≤ byte && byte ≤ 122)

def isAlphanumeric (byte : Byte) : Bool := byte.isAlpha || byte.isDigit

/-- Space, tab, line feed, form feed and carriage return. -/
def isAsciiSpace (byte : Byte) : Bool :=
  byte == 32 || byte == 9 || byte == 10 || byte == 12 || byte == 13

def isAsciiControl (byte : Byte) : Bool := byte < 32 || byte == 127

def ofAscii (char : Char) : Byte := UInt8.ofNat char.toNat

def hexValue? (byte : Byte) : Option Nat :=
  if 48 ≤ byte && byte ≤ 57 then some (byte.toNat - 48)
  else if 97 ≤ byte && byte ≤ 102 then some (byte.toNat - 87)
  else if 65 ≤ byte && byte ≤ 70 then some (byte.toNat - 55)
  else none

end Byte

end StreamHttp
