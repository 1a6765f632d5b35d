import StreamHttp.Codec.Basic
import StreamHttp.Json.Reader
import StreamHttp.Text.Percent

/-!
The codecs that are always there: JSON, text, and forms, which are only read.
-/

namespace StreamHttp

namespace Codec

def json : Codec where
  name := "json"
  supports := MediaType.isJson
  canEncode payload := payload.toJson?.isSome
  encode payload _ :=
    match payload.toJson? with
    | some value => .ok (Bytes.ofString value.render)
    | none => .error (.encode (payload.typeName ++ " is not a structured value"))
  decode bytes := (Json.parse bytes).mapError .decode

def textBytes : Payload → String → Except CodecError Bytes
  | .empty, _ => .ok []
  | .text content, _ => .ok (Bytes.ofString content)
  | .json (.string content), _ => .ok (Bytes.ofString content)
  | .json value, _ => .ok (Bytes.ofString value.render)
  | payload, _ => .error (.encode (payload.typeName ++ " cannot be written as text"))

def hasText : Payload → Bool
  | .empty => true
  | .text _ => true
  | .json _ => true
  | _ => false

def text : Codec where
  name := "text"
  supports := MediaType.isText
  canEncode := hasText
  encode := textBytes
  decode bytes :=
    match Utf8.decode bytes with
    | .ok content => .ok (.string content)
    | .error problem => .error (.decode problem.message)

/-- Puts a field in front of those of a form; the values of a repeated name make an array. -/
def putField (field : String × String) (members : List (String × Json)) : List (String × Json) :=
  let value := match Json.findMember field.1 members with
    | none => .string field.2
    | some (.array values) => .array (.string field.2 :: values)
    | some next => .array [.string field.2, next]
  Json.insertMember field.1 value members

def form : Codec where
  name := "form"
  supports := MediaType.isForm
  canEncode _ := false
  encode payload _ :=
    .error (.encode ("form encoding of " ++ payload.typeName ++ " is not supported"))
  decode bytes := .ok (.object ((Form.pairs bytes).foldr putField []))

end Codec

def Codecs.standard : Codecs := [Codec.form, Codec.text, Codec.json]

end StreamHttp
