import StreamHttp.Text.Quoted

/-!
What can go wrong between the bytes of a stream and the messages on it.
-/

namespace StreamHttp

inductive FramingError where
  | headerTooLarge (limit : Nat)
  | incomplete
  | invalidRequestLine (line : String)
  | unsupportedVersion (version : String)
  | invalidMethod (method : String)
  | invalidTarget (target : String)
  | invalidHeader (reason : String)
  | invalidContentLength (value : String)
  | conflictingContentLength
  | unencodedBody (typeName : String)
  | invalidResponseHead (reason : String)
  | io (message : String)
  deriving DecidableEq, Repr

namespace FramingError

def message : FramingError → String
  | .headerTooLarge limit => "request header block exceeds " ++ toString limit ++ " bytes"
  | .incomplete => "input ended inside a request header block"
  | .invalidRequestLine line => "malformed request line: " ++ quoted line
  | .unsupportedVersion version => "unsupported protocol version: " ++ version
  | .invalidMethod method => "invalid method: " ++ method
  | .invalidTarget target => "invalid request target: " ++ target
  | .invalidHeader reason => "malformed header: " ++ reason
  | .invalidContentLength value => "invalid Content-Length: " ++ quoted value
  | .conflictingContentLength => "conflicting Content-Length values"
  | .unencodedBody typeName => "response body of type " ++ typeName ++ " was not encoded"
  | .invalidResponseHead reason => "response head cannot be written: " ++ reason
  | .io message => "stream I/O failed: " ++ message

/-- A short name, under which errors are counted. -/
def kind : FramingError → String
  | .headerTooLarge _ => "header_too_large"
  | .incomplete => "incomplete"
  | .invalidRequestLine _ => "request_line"
  | .unsupportedVersion _ => "version"
  | .invalidMethod _ => "method"
  | .invalidTarget _ => "target"
  | .invalidHeader _ => "header"
  | .invalidContentLength _ => "content_length"
  | .conflictingContentLength => "content_length"
  | .unencodedBody _ => "unencoded_body"
  | .invalidResponseHead _ => "response_head"
  | .io _ => "io"

end FramingError

end StreamHttp
