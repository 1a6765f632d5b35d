import StreamHttp.Message.Response
import StreamHttp.Message.Token
import StreamHttp.Wire.FramingError

/-!
Writing encoded responses. A response is written with one exact Content-Length, and not at all when
a part of its head could not stand on a line of its own.
-/

namespace StreamHttp

namespace Response

def checkPair (pair : String × String) : Except FramingError Unit :=
  if !isFieldName (Bytes.ofString pair.1) then
    .error (.invalidResponseHead ("header name " ++ quoted pair.1))
  else if !isFieldValue (Bytes.ofString pair.2) then
    .error (.invalidResponseHead ("value of " ++ pair.1 ++ ": " ++ quoted pair.2))
  else .ok ()

def checkPairs : List (String × String) → Except FramingError Unit
  | [] => .ok ()
  | pair :: rest => do
      checkPair pair
      checkPairs rest

def checkHead (response : Response) : Except FramingError Unit :=
  if !isFieldValue (Bytes.ofString response.reason) then
    .error (.invalidResponseHead ("reason phrase " ++ quoted response.reason))
  else checkPairs response.headers.pairs

/-- Headers about the framing of a body, which the writer answers for itself. -/
def isFraming (pair : String × String) : Bool :=
  pair.1 == "Content-Length" ||
    (pair.1 == "Transfer-Encoding" && Text.contains "chunked" (Text.asciiLower pair.2))

def lineEnd : String := "\r\n"

def headerLine (pair : String × String) : String := pair.1 ++ ": " ++ pair.2 ++ lineEnd

def headText (response : Response) (length : Nat) : String :=
  "HTTP/1.1 " ++ response.status.render ++ " " ++ response.reason ++ lineEnd
    ++ String.join ((response.headers.pairs.filter fun pair => !isFraming pair).map headerLine)
    ++ headerLine ("Content-Length", toString length) ++ lineEnd

/-- The bytes of a response; the answer to a HEAD request leaves the body out. -/
def wire (response : Response) (omitBody : Bool) : Except FramingError Bytes :=
  match response.encodedBody? with
  | none => .error (.unencodedBody response.body.typeName)
  | some body => do
      response.checkHead
      let head := Bytes.ofString (response.headText body.length)
      return if omitBody then head else head ++ body

end Response

/-- What has been written, the newest write first, and how many bytes there is still room for. -/
structure Sink where
  room : Option Nat := none
  writes : List Bytes := []
  deriving DecidableEq, Repr

namespace Sink

def written (sink : Sink) : Bytes := sink.writes.reverse.flatten

/-- Writes all of the bytes or, where there is no room for them, nothing. -/
def write (sink : Sink) (bytes : Bytes) : Except FramingError Sink :=
  match sink.room with
  | none => .ok { sink with writes := bytes :: sink.writes }
  | some room =>
      if room < bytes.length then .error (.io "sink full")
      else .ok { room := some (room - bytes.length), writes := bytes :: sink.writes }

def writeResponse (sink : Sink) (response : Response) (omitBody : Bool) :
    Except FramingError Sink := do
  sink.write (← response.wire omitBody)

/-- Writes a response and counts the bytes of its head and of the body behind it. Where the
response is refused, the sink is as it was. -/
def writeCounted (sink : Sink) (response : Response) (omitBody : Bool) :
    Except FramingError Nat × Sink :=
  match sink.writeResponse response omitBody with
  | .error error => (.error error, sink)
  | .ok after =>
      let body := response.encodedBody?.getD []
      let head := Bytes.ofString (response.headText body.length)
      (.ok (if omitBody then head.length else head.length + body.length), after)

end Sink

end StreamHttp
