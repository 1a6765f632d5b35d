import StreamHttp.Exchange.Request
import StreamHttp.Message.Response

/-!
Handing messages to and from a container that does the framing itself. Header names are in lower
case there, a value that is not visible ASCII is not taken over, and the container gets the length
of the body from here alone.
-/

namespace StreamHttp.Container

structure Outgoing where
  status : Status
  headers : Multimap
  body : Bytes
  deriving DecidableEq, Repr

inductive Problem where
  | notEncoded (typeName : String)
  | invalidHeader (name reason : String)
  deriving DecidableEq, Repr

def Problem.message : Problem → String
  | .notEncoded typeName => "response body of type " ++ typeName ++ " was not encoded"
  | .invalidHeader name reason => "invalid header " ++ name ++ ": " ++ reason

def invalidName : String := "invalid HTTP header name"
def invalidValue : String := "failed to parse header value"

def checkLine (line : String × Bytes) : Except String (String × Bytes) :=
  if !isFieldName (Bytes.ofString line.1) then .error invalidName
  else if !isFieldValue line.2 then .error invalidValue
  else .ok (Text.asciiLower line.1, line.2)

/-- What a container takes for a request; of several problems it tells the first. -/
def accept (method target : String) (lines : List (String × Bytes)) :
    Except String (Method × Target × List (String × Bytes)) := do
  match Method.parse? method with
  | none => throw "invalid HTTP method"
  | some method =>
      let target ← (Target.parse target).mapError Target.Problem.message
      return (method, target, ← lines.mapM checkLine)

/-- The values of each name together, where the first value of the name stood. -/
def grouped (lines : List (String × Bytes)) : List (String × Bytes) :=
  (lines.map Prod.fst).eraseDups.flatMap fun name => lines.filter (·.1 == name)

def visibleText (value : Bytes) : Option String :=
  if isVisibleValue value then Utf8.decode? value else none

def intake (method : Method) (target : Target) (lines : List (String × Bytes)) (body : Bytes) :
    Intake :=
  let headers := (grouped lines).filterMap fun line =>
    (visibleText line.2).map fun value => (line.1, value)
  Intake.ofBody (Head.make method target (Headers.ofPairs headers)) (Body.ofBytes body)

def checkPair (pair : String × String) : Except Problem (String × String) :=
  if !isFieldName (Bytes.ofString pair.1) then .error (.invalidHeader pair.1 invalidName)
  else if !isFieldValue (Bytes.ofString pair.2) then .error (.invalidHeader pair.1 invalidValue)
  else .ok (Text.asciiLower pair.1, pair.2)

def outgoing (response : Response) : Except Problem Outgoing :=
  match response.encodedBody? with
  | none => .error (.notEncoded response.body.typeName)
  | some body => do
      let own := response.headers.pairs.filter fun pair =>
        pair.1 != "Content-Length" && pair.1 != "Transfer-Encoding"
      let pairs ← own.mapM checkPair
      let headers := (Multimap.ofPairs pairs).set "content-length" (toString body.length)
      return { status := response.status, headers, body }

end StreamHttp.Container
