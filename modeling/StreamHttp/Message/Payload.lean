import StreamHttp.Bytes
import StreamHttp.Json.Printer

/-!
Response bodies before and after encoding. Bytes are the encoded form; every other value waits for
a codec, or for its own writer.
-/

namespace StreamHttp

/-- A body that writes itself for a charset. It may fail after some output. -/
structure Writable where
  write : String → Bytes × Option String

inductive Payload where
  | empty
  | text (text : String)
  | bytes (bytes : Bytes)
  | json (value : Json)
  | list (items : List Payload)
  | writable (writable : Writable)
  /-- A value of the application, which only a codec for its type can encode. -/
  | object (typeName : String) (content : Json)

namespace Payload

def typeName : Payload → String
  | .empty => "empty"
  | .text _ => "text"
  | .bytes _ => "bytes"
  | .json _ => "json"
  | .list _ => "list"
  | .writable _ => "writable"
  | .object name _ => name

def isEmpty : Payload → Bool
  | .empty => true
  | _ => false

def isText : Payload → Bool
  | .text _ => true
  | _ => false

mutual

/-- The value of a payload that has a structure all the way down. -/
def toJson? : Payload → Option Json
  | .empty => some .null
  | .text content => some (.string content)
  | .json value => some value
  | .list items => (allToJson? items).map .array
  | .bytes _ => none
  | .writable _ => none
  | .object _ _ => none

def allToJson? : List Payload → Option (List Json)
  | [] => some []
  | item :: rest => do
      let first ← toJson? item
      some (first :: (← allToJson? rest))

end

mutual

def annotated : Payload → String
  | .empty => "Empty"
  | .text content => "Text(" ++ quoted content ++ ")"
  | .bytes content => "Bytes(" ++ toString content.length ++ ")"
  | .json value => "Json(" ++ value.annotated ++ ")"
  | .list items => "List([" ++ ", ".intercalate (annotatedItems items) ++ "])"
  | .writable _ => "Writable"
  | .object name _ => "Object(" ++ quoted name ++ ")"

def annotatedItems : List Payload → List String
  | [] => []
  | item :: rest => annotated item :: annotatedItems rest

end

end Payload

end StreamHttp
