import StreamHttp.Bytes
import StreamHttp.Text.Unprintable

/-!
Quoted text for messages. A quotation mark, a backslash and the usual control characters have
short escapes, any other unprintable character is written by its hexadecimal number.
-/

namespace StreamHttp.Quoted

def hexDigits (number : Nat) : List Char := Nat.toDigits 16 number

def encodeChar (char : Char) : List Char :=
  match char with
  | '"' => ['\\', '"']
  | '\\' => ['\\', '\\']
  | '\n' => ['\\', 'n']
  | '\r' => ['\\', 'r']
  | '\t' => ['\\', 't']
  | '\x00' => ['\\', '0']
  | char =>
      if isUnprintable char then ['\\', 'u', '\x7b'] ++ hexDigits char.toNat ++ ['\x7d'] else [char]

def encode (chars : List Char) : List Char := chars.flatMap encodeChar

end StreamHttp.Quoted

namespace StreamHttp

def quoted (text : String) : String := String.ofList ('"' :: Quoted.encode text.toList ++ ['"'])

end StreamHttp
