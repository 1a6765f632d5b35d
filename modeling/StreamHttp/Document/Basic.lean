import StreamHttp.Json.Reader
import StreamHttp.Stream.Source

/-!
JSON values read as documents. A member that is missing reads as null, and null as nothing: an empty
text, an empty list, no number. Bytes are written as a text, as hexadecimal digits, as a repetition,
or as a list of such parts.
-/

namespace StreamHttp.Document

def get (document : Json) (name : String) : Json := (document.member? name).getD .null

def isSet (document : Json) (name : String) : Bool :=
  match get document name with
  | .null => false
  | _ => true

def field? (document : Json) (name : String) : Option Json :=
  if isSet document name then some (get document name) else none

def natural? : Json → Option Nat
  | .integer value => if value < 0 then none else some value.toNat
  | _ => none

def number? (document : Json) (name : String) : Option Nat := natural? (get document name)

def number (document : Json) (name : String) (otherwise : Nat) : Nat :=
  (number? document name).getD otherwise

def flag (document : Json) (name : String) : Bool :=
  match get document name with
  | .bool value => value
  | _ => false

def itemsOf : Json → List Json
  | .array items => items
  | _ => []

def items (document : Json) (name : String) : List Json := itemsOf (get document name)

def hexBytes : List Char → Bytes
  | high :: low :: rest =>
      let value (char : Char) := (Byte.hexValue? (Byte.ofAscii char)).getD 0
      UInt8.ofNat (value high * 16 + value low) :: hexBytes rest
  | _ => []

def bytesWithin : Nat → Json → Bytes
  | 0, _ => []
  | depth + 1, document =>
      match document with
      | .string content => Bytes.ofString content
      | .array parts => (parts.map (bytesWithin depth)).flatten
      | document =>
          match get document "hex", get document "rep" with
          | .string digits, _ => hexBytes digits.toList
          | _, .array [part, .integer count] =>
              (List.replicate count.toNat (bytesWithin depth part)).flatten
          | _, _ => []

def bytesOf (document : Json) : Bytes := bytesWithin Json.depthLimit document

def bytes (document : Json) (name : String) : Bytes := bytesOf (get document name)

def textOf (document : Json) : String := Utf8.decodeLossy (bytesOf document)

def text (document : Json) (name : String) : String := textOf (get document name)

def textOr (document : Json) (name otherwise : String) : String :=
  if isSet document name then text document name else otherwise

def text? (document : Json) (name : String) : Option String := (field? document name).map textOf

def texts (document : Json) (name : String) : List String := (items document name).map textOf

def pairs (document : Json) (name : String) : List (String × String) :=
  (items document name).filterMap fun
    | .array [first, second] => some (textOf first, textOf second)
    | _ => none

/-- A source: its parts, how it fails behind them, and whether each read has to wait once; or bytes
that make one part. -/
def source (document : Json) : Source :=
  if isSet document "parts" || isSet document "fail" then
    { Source.ofParts ((items document "parts").map bytesOf) (text? document "fail") with
      pauses := fun _ => if flag document "pend" then 1 else 0 }
  else Source.ofParts [bytesOf document] none

/-! Writing documents. -/

def nat (value : Nat) : Json := .integer value

def optional {α : Type} (write : α → Json) : Option α → Json
  | some value => write value
  | none => .null

def textList (content : List String) : Json := .array (content.map .string)

def pairList (content : List (String × String)) : Json :=
  .array (content.map fun pair => textList [pair.1, pair.2])

def hexText (content : Bytes) : String :=
  String.ofList (content.flatMap fun byte =>
    Nat.toDigits 16 (byte.toNat / 16) ++ Nat.toDigits 16 (byte.toNat % 16))

def ofBytes (content : Bytes) : Json :=
  match Utf8.decode? content with
  | some decoded => .string decoded
  | none => .object [("hex", .string (hexText content))]

end StreamHttp.Document
