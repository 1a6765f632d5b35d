import StreamHttp.Failure.Basic
import StreamHttp.Text.Annotated
import StreamHttp.Text.Pieces

/-!
Errors in annotated notation.
-/

namespace StreamHttp

open Annotated

def annotatedIo (message : String) : String :=
  record "Custom" [("kind", "Other"), ("error", quoted message)]

def BodyError.annotated : BodyError → String
  | .alreadyClaimed => "AlreadyClaimed"
  | .tooLarge limit => record "TooLarge" [("limit", toString limit)]
  | .failed message => "Io(" ++ annotatedIo message ++ ")"

def BindingError.annotated : BindingError → String
  | .missing name => record "Missing" [("name", quoted name)]
  | .conversion name reason =>
      record "Conversion" [("name", quoted name), ("reason", quoted reason)]
  | .unsupportedMediaType mediaType =>
      record "UnsupportedMediaType" [("media_type", quoted mediaType)]
  | .body error => "Body(" ++ error.annotated ++ ")"

def CodecError.annotated : CodecError → String
  | .noEncoder mediaType typeName =>
      record "NoEncoder" [("media_type", quoted mediaType), ("type_name", quoted typeName)]
  | .noDecoder mediaType => record "NoDecoder" [("media_type", quoted mediaType)]
  | .encode reason => "Encode(" ++ quoted reason ++ ")"
  | .decode reason => "Decode(" ++ quoted reason ++ ")"

/-- The last part of a path of names. -/
def lastName (typeName : String) : String := ((Text.piecesOf ':' typeName).getLast?).getD typeName

mutual

def DispatchError.annotated : DispatchError → String
  | .notFound => "NotFound"
  | .methodNotAllowed method path allowed =>
      record "MethodNotAllowed"
        [("method", method), ("path", quoted path), ("allowed", list allowed)]
  | .duplicateRoute path routes =>
      record "DuplicateRoute" [("path", quoted path), ("routes", texts routes)]
  | .binding error => "Binding(" ++ error.annotated ++ ")"
  | .status status message body =>
      record "Status"
        [("status", status.render), ("message", quoted message),
          ("body", option Payload.annotated body)]
  | .codec error => "Codec(" ++ error.annotated ++ ")"
  | .body error => "Body(" ++ error.annotated ++ ")"
  | .handler cause => "Handler(" ++ cause.annotated ++ ")"

def Cause.annotated : Cause → String
  | .dispatch error => error.annotated
  | .binding error => error.annotated
  | .codec error => error.annotated
  | .body error => error.annotated
  | .io message => annotatedIo message
  | .text message => quoted message
  | .application typeName message =>
      record (lastName typeName) [("msg", quoted message), ("source", "None")]
  | .applicationFrom typeName message source =>
      record (lastName typeName)
        [("msg", quoted message), ("source", "Some(" ++ source.annotated ++ ")")]

end

end StreamHttp
