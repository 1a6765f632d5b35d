import StreamHttp.Text.Pieces
import StreamHttp.Text.Utf8

/-!
Percent escapes and the form notation `name=value&name=value`. A malformed escape stands for itself,
and a sequence of bytes that is not UTF-8 becomes a replacement character.
-/

namespace StreamHttp.Percent

def decodeBytes : Bytes → Bytes
  | 37 :: high :: low :: rest =>
      match Byte.hexValue? high, Byte.hexValue? low with
      | some first, some second => UInt8.ofNat (first * 16 + second) :: decodeBytes rest
      | _, _ => 37 :: decodeBytes (high :: low :: rest)
  | byte :: rest => byte :: decodeBytes rest
  | [] => []
termination_by input => input.length

def decode (text : String) : String := Utf8.decodeLossy (decodeBytes (Bytes.ofString text))

end StreamHttp.Percent

namespace StreamHttp.Form

def plusToSpace (input : Bytes) : Bytes := input.map fun byte => if byte == 43 then 32 else byte

def component (input : Bytes) : String := Utf8.decodeLossy (Percent.decodeBytes (plusToSpace input))

/-- A piece without `=` is a name with an empty value. -/
def pair (piece : Bytes) : String × String :=
  match cut 61 piece with
  | some (name, value) => (component name, component value)
  | none => (component piece, "")

/-- The pairs in order; pieces without any byte are passed over. -/
def pairs (input : Bytes) : List (String × String) :=
  ((pieces 38 input).filter fun piece => !piece.isEmpty).map pair

end StreamHttp.Form
