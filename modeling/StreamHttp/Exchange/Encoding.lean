import StreamHttp.Codec.Basic
import StreamHttp.Message.Response

/-!
Encoding the body of a response. It is done once, as the last step of an exchange, and a failure
replaces the response as a whole.
-/

namespace StreamHttp.Response

def charset? (response : Response) : Option String := response.contentType?.bind MediaType.charset?

def withMissingType (response : Response) (media : MediaType) : Response :=
  if response.contentType?.isNone then response.setContentType media else response

def withBytes (response : Response) (bytes : Bytes) : Response :=
  { response with body := .bytes bytes }

def tryEncode (codecs : Codecs) (defaultCharset : String) (response : Response) :
    Except CodecError Response :=
  let charset := response.charset?.getD defaultCharset
  match response.body with
  | .empty => .ok response
  | .bytes bytes => .ok (response.withBytes bytes)
  | .text content => .ok ((response.withMissingType .plainText).withBytes (Bytes.ofString content))
  | .writable writable =>
      match writable.write charset with
      | (bytes, none) => .ok (response.withBytes bytes)
      | (_, some reason) => .error (.encode reason)
  | payload => do
      let media := response.contentType?.getD .json
      match codecs.encoder? media payload with
      | none => .error (.noEncoder media.render payload.typeName)
      | some codec =>
          let bytes ← codec.encode payload charset
          .ok ((response.withMissingType media).withBytes bytes)

/-- The answer to a response that cannot be encoded. -/
def encodingFailed (error : CodecError) : Response :=
  ((ofStatus .internalError).setContentType .json).withBytes
    (Bytes.ofString (Json.object [("message", .string error.message)]).render)

def encode (codecs : Codecs) (defaultCharset : String) (response : Response) : Response :=
  match response.tryEncode codecs defaultCharset with
  | .ok encoded => encoded
  | .error error => encodingFailed error

end StreamHttp.Response
