import StreamHttp.Arguments.Convert
import StreamHttp.Codec.Basic
import StreamHttp.Exchange.Program
import StreamHttp.Exchange.Request

/-!
Binding the parameters of a route from a request. The body is decoded at most once for a request;
what it decodes to is kept. A parameter without a value stays unbound, a value that does not convert
ends the binding.
-/

namespace StreamHttp

/-- Steps over a request that may end in a binding error; what they did to the request remains. -/
abbrev Binding := ExceptT BindingError (Program Request)

namespace Binding

/-- Binds from a request and its streams. The head stays what it is. -/
def run {α : Type} (binding : Binding α) (intake : Intake) : Except BindingError α × Intake :=
  let (result, request, streams) := (ExceptT.run binding).run intake.request intake.streams
  (result, { request := { request with head := intake.request.head }, streams })

def request : Binding Request := ExceptT.lift Program.get

def alter (change : Request → Request) : Binding Unit := ExceptT.lift (Program.modify change)

def ofBodyResult {α : Type} (result : Except BodyError α) : Binding α :=
  ExceptT.mk (pure (result.mapError .body))

def buffer (limit : Nat) : Binding Bytes := do
  let (result, body) ← ExceptT.lift (Program.bufferBody limit (← request).body)
  alter fun request => { request with body }
  ofBodyResult result

def takeBody : Binding Body := do
  let (result, body) := (← request).body.take
  alter fun request => { request with body }
  ofBodyResult result

def ofResult {α : Type} (result : Except BindingError α) : Binding α := ExceptT.mk (pure result)

def ofCodec (error : CodecError) : BindingError :=
  match error with
  | .noDecoder mediaType => .unsupportedMediaType mediaType
  | error => .conversion "body" error.message

/-- The decoded body; nothing for an empty one. Without a media type it is read as JSON. -/
def decodedBody (codecs : Codecs) (limit : Nat) : Binding (Option Json) := do
  let asked ← request
  match asked.parsedBody with
  | some value => return some value
  | none =>
      let media := (asked.head.contentType?).getD .json
      let bytes ← buffer limit
      if bytes.isEmpty then return none
      let value ← ofResult ((codecs.decode media bytes).mapError ofCodec)
      alter fun request => { request with parsedBody := some value }
      return some value

def lookup (codecs : Codecs) (limit : Nat) (param : Param) : Binding (Option Argument) := do
  let head := (← request).head
  match param.source with
  | .path => return none
  | .query =>
      match head.query.getAll param.name with
      | [] => return none
      | [value] => return some (.text value)
      | values => return some (.json (.array (values.map .string)))
  | .header => return (head.headers.get? param.name).map .text
  | .cookie => return (head.cookies.get? param.name).map fun cookie => .text cookie.value
  | .body => return (← decodedBody codecs limit).map .json
  | .rawBody =>
      let bytes ← buffer limit
      return if bytes.isEmpty then none else some (.bytes bytes)
  | .bodyStream => return some (.stream (← takeBody))
  | .bodyField =>
      return ((← decodedBody codecs limit).bind (Json.member? param.name)).map Argument.ofField

/-- Binds one parameter. A text that is bound already only gets its type. -/
def bindParam (codecs : Codecs) (limit : Nat) (arguments : Arguments) (param : Param) :
    Binding Arguments := do
  match arguments.value? param.name with
  | some (.text content) =>
      return arguments.insert param.name (← ofResult ((Argument.text content).ofType param))
  | some _ => return arguments
  | none =>
      match ← lookup codecs limit param with
      | none => return arguments
      | some value => return arguments.insert param.name (← ofResult (value.ofType param))

end Binding

abbrev Satisfier := RouteSpec → Arguments → Binding Arguments

namespace Satisfier

/-- Binds every parameter in turn, with bodies of at most `limit` bytes. -/
def requestBinder (codecs : Codecs) (limit : Nat) : Satisfier := fun spec arguments =>
  spec.params.foldlM (Binding.bindParam codecs limit) arguments

end Satisfier

namespace RouteSpec

/-- The required parameters that have no value. -/
def missing (spec : RouteSpec) (arguments : Arguments) : List Param :=
  spec.params.filter fun param => param.required && !arguments.contains param.name

def isFulfilled (spec : RouteSpec) (arguments : Arguments) : Bool :=
  (spec.missing arguments).isEmpty

end RouteSpec

end StreamHttp
