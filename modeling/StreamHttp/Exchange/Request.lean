import StreamHttp.Failure.Basic
import StreamHttp.Message.Cookie
import StreamHttp.Message.Headers
import StreamHttp.Message.Target
import StreamHttp.Routing.RouteSpec
import StreamHttp.Text.Percent

/-!
Requests. The head identifies a request and never changes; attributes, body and decoded body do.
-/

namespace StreamHttp

structure Head where
  method : Method
  target : Target
  headers : Headers
  query : Multimap
  cookies : Cookies
  deriving DecidableEq, Repr

namespace Head

/-- The head with the query and the cookies that target and headers carry. -/
def make (method : Method) (target : Target) (headers : Headers) : Head where
  method := method
  target := target
  headers := headers
  query := match target.query with
    | none => {}
    | some text => Multimap.ofPairs (Form.pairs (Bytes.ofString text))
  cookies := Cookies.parse (headers.getAll "Cookie")

def path (head : Head) : String := head.target.path

def contentType? (head : Head) : Option MediaType := head.headers.contentType?

def permitsBody (head : Head) : Bool := head.method.permitsBody

def annotatedCookie (cookie : Cookie) : String :=
  Annotated.record "Cookie"
    [("name", quoted cookie.name), ("value", quoted cookie.value),
      ("path", Annotated.option quoted cookie.path),
      ("max_age", Annotated.option annotatedAge cookie.maxAgeMillis),
      ("http_only", toString cookie.httpOnly), ("secure", toString cookie.secure)]
where
  /-- A duration in seconds, with the digits of its fraction that count. -/
  annotatedAge (millis : Nat) : String :=
    if millis == 0 then "0ns"
    else if millis < 1000 then toString millis ++ "ms"
    else
      let fraction := millis % 1000
      let digits := (toString (1000 + fraction)).toList.drop 1
      let kept := (digits.reverse.dropWhile (· == '0')).reverse
      toString (millis / 1000) ++ (if kept.isEmpty then "" else "." ++ String.ofList kept) ++ "s"

def annotated (head : Head) : String :=
  Annotated.record "RequestHead"
    [("method", head.method), ("uri", head.target.render),
      ("headers", Annotated.pairs head.headers.pairs),
      ("query", Annotated.pairs head.query.pairs),
      ("cookies", Annotated.record "Cookies"
        [("cookies", Annotated.list (head.cookies.list.map annotatedCookie))])]

end Head

/-- Values that filters and handlers leave for each other, one of a kind. -/
structure Notes where
  entries : List (String × Json) := []

namespace Notes

def get? (notes : Notes) (kind : String) : Option Json :=
  (notes.entries.find? (·.1 == kind)).map Prod.snd

def remove (notes : Notes) (kind : String) : Option Json × Notes :=
  (notes.get? kind, ⟨notes.entries.filter fun entry => !(entry.1 == kind)⟩)

/-- The value that was there before, and the notes with the new one. -/
def insert (notes : Notes) (kind : String) (value : Json) : Option Json × Notes :=
  (notes.get? kind, ⟨(kind, value) :: (notes.remove kind).2.entries⟩)

def contains (notes : Notes) (kind : String) : Bool := (notes.get? kind).isSome

end Notes

structure Attributes where
  requestId : Option String := none
  matchedRoute : Option RouteSpec := none
  /-- The failure that an error route was chosen for. -/
  thrownError : Option DispatchError := none
  notes : Notes := {}

structure Request where
  head : Head
  attributes : Attributes := {}
  body : Body
  parsedBody : Option Json := none

namespace Request

def make (head : Head) (body : Body) : Request := { head, body }

def clientId? (request : Request) : Option String :=
  (request.head.headers.get? "X-Request-Id").bind fun text =>
    let id := Text.trim text
    if id.isEmpty then none else some id

end Request

/-- A request and the streams that its body is read from. -/
structure Intake where
  request : Request
  streams : Streams

namespace Intake

def ofBody (head : Head) (body : Body) : Intake := ⟨Request.make head body, Streams.none⟩

def buffer (limit : Nat) (intake : Intake) : Except BodyError Bytes × Intake :=
  let (result, body, streams) := intake.request.body.buffer limit intake.streams
  (result, { request := { intake.request with body }, streams })

def takeBody (intake : Intake) : Except BodyError Body × Intake :=
  let (result, body) := intake.request.body.take
  (result, { intake with request := { intake.request with body } })

/-- Discards what nobody claimed. -/
def release (intake : Intake) : Except BodyError Nat × Intake :=
  let (result, body, streams) := intake.request.body.release intake.streams
  (result, { request := { intake.request with body }, streams })

end Intake

end StreamHttp
