import StreamHttp.Bytes

/-!
The characters that a method, a header name and a header value may hold on the wire.
-/

namespace StreamHttp

/-- The characters of a token: letters, digits and fifteen marks. -/
def isTokenByte (byte : Byte) : Bool :=
  byte.isAlphanumeric ||
    [33, 35, 36, 37, 38, 39, 42, 43, 45, 46, 94, 95, 96, 124, 126].contains byte

def isToken (text : Bytes) : Bool := !text.isEmpty && text.all isTokenByte

/-- A header name is a token of less than 65536 bytes. -/
def isFieldName (text : Bytes) : Bool := isToken text && text.length ≤ 65535

/-- A byte that keeps a value on its line: no control character but the tab. -/
def isFieldByte (byte : Byte) : Bool := (32 ≤ byte && byte != 127) || byte == 9

def isFieldValue (text : Bytes) : Bool := text.all isFieldByte

def isVisibleByte (byte : Byte) : Bool := (32 ≤ byte && byte < 127) || byte == 9

/-- A value of visible ASCII characters, spaces and tabs. -/
def isVisibleValue (text : Bytes) : Bool := text.all isVisibleByte

/-- A request method; letters of different case are different. -/
abbrev Method := String

namespace Method

def parse? (text : String) : Option Method :=
  if isToken (Bytes.ofString text) then some text else none

def permitsBody (method : Method) : Bool :=
  ["POST", "PUT", "PATCH", "DELETE", "OPTIONS"].contains method

end Method

end StreamHttp
