import StreamHttp.Codec.Standard
import StreamHttp.Exchange.Encoding
import StreamHttp.Exchange.ExceptionHandler
import StreamHttp.Metrics
import StreamHttp.Routing.Table

/-!
Answering an exchange. A request passes the filters to its route; a failure, or an error status, may
be dispatched once more, to an error route and through the filters again. A failure of that second
pass answers 500 with the message of the first. Last, the body of the response is encoded.
-/

namespace StreamHttp

/-- Steps of an exchange that may fail; what they did to the exchange remains. -/
abbrev Attempt (σ : Type) := ExceptT DispatchError (StateM (Exchange σ))

structure DispatchSettings where
  maxBufferedBody : Nat := 10485760
  defaultCharset : String := "utf-8"
  deriving DecidableEq, Repr

structure Engine (σ : Type) where
  table : RouteTable σ := {}
  satisfier : Satisfier
  codecs : Codecs := Codecs.standard
  exceptionHandlers : List ExceptionHandler := []
  settings : DispatchSettings := {}

namespace Outcome

/-- The response that an outcome makes of the ambient one. -/
def resolve (single : Bool) (ambient : Response) : Outcome → Reply
  | .empty => .ok ambient
  | .immediate body => .ok { ambient with body }
  | .response whole => .ok whole
  | .sequence items =>
      if single then
        match items with
        | [] => .error .notFound
        | item :: _ => item.map fun body => { ambient with body }
      else (items.mapM id).map fun bodies => { ambient with body := .list bodies }

end Outcome

namespace RouteSpec

/-- Gives a response what the route declares and the response lacks. -/
def decorate (spec : RouteSpec) (response : Response) : Response :=
  let response := match spec.status with
    | some status => if response.status == .ok then response.setStatus status else response
    | none => response
  let response := match spec.produces with
    | some media =>
        if response.contentType?.isNone && !response.body.isEmpty then response.setContentType media
        else response
    | none => response
  spec.headers.foldl (fun response header =>
    if response.headers.contains header.1 then response
    else response.setHeader header.1 header.2) response

end RouteSpec

namespace Exchange

variable {σ : Type}

def invocation (exchange : Exchange σ) (arguments : Arguments) (error : Option DispatchError)
    (ambient : Response) : Invocation σ where
  head := exchange.head
  arguments := arguments
  attributes := exchange.request.attributes
  ambient := { response := ambient }
  error := error
  shutdown := exchange.shutdown
  app := exchange.app

def handled (exchange : Exchange σ) (invocation : Invocation σ) (streams : Streams) :
    Exchange σ where
  request := { exchange.request with attributes := invocation.attributes }
  streams := streams
  shutdown := invocation.shutdown
  app := invocation.app

end Exchange

namespace Attempt

variable {σ α : Type}

def request : Attempt σ Request := do return (← get).request

def ofReply (reply : Except DispatchError α) : Attempt σ α := ExceptT.mk (pure reply)

/-- Binds from the request, and hands over how that ended. -/
def tryBinding (binding : Binding α) : Attempt σ (Except BindingError α) :=
  ExceptT.mk fun exchange =>
    let (result, intake) := binding.run exchange.toIntake
    (.ok result, { exchange with toIntake := intake })

def ofBinding (binding : Binding α) : Attempt σ α := do
  ofReply ((← tryBinding binding).mapError .binding)

/-- Calls a handler, and takes up what it puts off. The ambient response is given back only if the
handler succeeds. -/
def call (handler : Handler σ) (arguments : Arguments) (error : Option DispatchError)
    (ambient : Response) : Attempt σ (Outcome × Response) :=
  ExceptT.mk fun exchange =>
    let (result, invocation, streams) :=
      handler.run.interpret (exchange.invocation arguments error ambient) exchange.streams
    (result.map fun outcome => (outcome, invocation.ambient.surrender.1),
      exchange.handled invocation streams)

theorem run_call (handler : Handler σ) (arguments : Arguments) (error : Option DispatchError)
    (ambient : Response) (exchange : Exchange σ) :
    (call handler arguments error ambient).run exchange =
      let (result, invocation, streams) :=
        handler.run.run (exchange.invocation arguments error ambient) exchange.streams
      (result.map fun outcome => (outcome, invocation.ambient.surrender.1),
        exchange.handled invocation streams) := by
  rw [← Program.interpret_eq_run]
  rfl

end Attempt

namespace Response

def ofMessage (status : Status) (message : String) : Response :=
  { (ofStatus status).setContentType .json with body := DispatchError.bodyOf message }

/-- Adds an Allow header, where one is owed and there is none. -/
def withMissingAllow (response : Response) (allow : Option String) : Response :=
  match allow with
  | some methods =>
      if response.headers.contains "Allow" then response else response.setHeader "Allow" methods
  | none => response

end Response

namespace Engine

variable {σ : Type}

def ofTable (table : RouteTable σ) (codecs : Codecs) (handlers : List ExceptionHandler)
    (settings : DispatchSettings) : Engine σ where
  table := table
  satisfier := Satisfier.requestBinder codecs settings.maxBufferedBody
  codecs := codecs
  exceptionHandlers := handlers
  settings := settings

def resolve (engine : Engine σ) : Attempt σ (RouteMatch σ) := do
  let head := (← Attempt.request).head
  match engine.table.find head.method head.path with
  | .notFound => throw .notFound
  | .methodNotAllowed allowed => throw (.methodNotAllowed head.method head.path allowed)
  | .found [] => throw .notFound
  | .found [only] =>
      modify fun exchange => exchange.updateAttributes fun attributes =>
        { attributes with matchedRoute := some only.route.spec }
      return only
  | .found candidates =>
      throw (.duplicateRoute head.path (candidates.map fun found => found.route.spec.describe))

/-- Whether a body may be looked into for arguments that nothing else provides. -/
def mayHoldArguments (spec : RouteSpec) (arguments : Arguments) (request : Request) : Bool :=
  let structured := request.head.contentType?.any fun media => media.isForm || media.isJson
  !spec.isFulfilled arguments && !spec.claimsBody && request.head.permitsBody
    && (structured || request.parsedBody.isSome)

def bindField (fields : List (String × Json)) (arguments : Arguments) (param : Param) : Arguments :=
  if !param.required || arguments.contains param.name then arguments
  else
    match Json.findMember param.name fields with
    | none => arguments
    | some field =>
        match (Argument.ofField field).ofType param with
        | .ok value => arguments.insert param.name value
        | .error _ => arguments

/-- Binds what is still missing from the fields of the body; a body of no use is passed over. -/
def bindFromBody (engine : Engine σ) (spec : RouteSpec) (arguments : Arguments) :
    Attempt σ Arguments := do
  let request ← Attempt.request
  if !mayHoldArguments spec arguments request then return arguments
  match ← Attempt.tryBinding
      (Binding.decodedBody engine.codecs engine.settings.maxBufferedBody) with
  | .ok (some (.object fields)) => return spec.params.foldl (bindField fields) arguments
  | _ => return arguments

def invoke (engine : Engine σ) (chosen : RouteMatch σ) (error : Option DispatchError)
    (ambient : Response) : Attempt σ Response := do
  let spec := chosen.route.spec
  let arguments ← Attempt.ofBinding (engine.satisfier spec chosen.arguments)
  let arguments ← engine.bindFromBody spec arguments
  match (spec.missing arguments).head? with
  | some param => throw (.binding (.missing param.name))
  | none =>
      let (outcome, response) ← Attempt.call chosen.route.handler arguments error ambient
      let response ← Attempt.ofReply (outcome.resolve spec.single response)
      return spec.decorate response

def routeTerminal (engine : Engine σ) : Attempt σ Response := do
  let chosen ← engine.resolve
  engine.invoke chosen none {}

/-- Dispatches to an error route, through the filters that see a request more than once. -/
def errorPass (engine : Engine σ) (route : Route σ) (status : Status) (error : Option DispatchError)
    (exchange : Exchange σ) : Response × Exchange σ :=
  let filters := (engine.table.filtersFor exchange.head.method exchange.head.path).filter
    fun filter => !filter.oncePerRequest
  let guarded := engine.invoke { route } error (Response.ofStatus status)
  match Filter.chain (fun exchange => guarded.run exchange) filters exchange with
  | (.ok response, exchange) => (response, exchange)
  | (.error failure, exchange) =>
      (Response.ofMessage .internalError (error.getD failure).message, exchange)

def defaultResponse (engine : Engine σ) (head : Head) (error : DispatchError) : Response :=
  match error with
  | .status status message body =>
      match body with
      | some body => { Response.ofStatus status with body }
      | none =>
          if status.isError then
            { Response.ofStatus status with body := DispatchError.bodyOf message }
          else Response.ofStatus status
  | .notFound => Response.ofMessage error.statusOf error.message
  | .methodNotAllowed _ _ _ =>
      (Response.ofMessage error.statusOf error.message).withMissingAllow error.allow?
  | .binding _ => Response.ofMessage error.statusOf error.message
  | other =>
      (ExceptionHandler.handle engine.exceptionHandlers other.asCause head).getD
        (Response.ofMessage other.statusOf other.message)

/-- Errors that a route for their status answers, when none for their kind does. -/
def hasStatusRoute : DispatchError → Bool
  | .notFound => true
  | .methodNotAllowed _ _ _ => true
  | .binding _ => true
  | .status _ _ _ => true
  | _ => false

def routeForError? (engine : Engine σ) (origin : Option RouteSpec) (error : DispatchError) :
    Option (Route σ) :=
  (engine.table.errorRoute? origin error.asCause).or
    (if hasStatusRoute error then engine.table.statusRoute? origin error.statusOf else none)

def handleError (engine : Engine σ) (error : DispatchError) (exchange : Exchange σ) :
    Response × Exchange σ :=
  match engine.routeForError? exchange.request.attributes.matchedRoute error with
  | none => (engine.defaultResponse exchange.head error, exchange)
  | some route =>
      let exchange := exchange.updateAttributes fun attributes =>
        { attributes with thrownError := some error }
      let (response, exchange) := engine.errorPass route error.statusOf (some error) exchange
      (response.withMissingAllow error.allow?, exchange)

def checkStatus (engine : Engine σ) (response : Response) (exchange : Exchange σ) :
    Response × Exchange σ :=
  if response.status.isError then
    match engine.table.statusRoute? exchange.request.attributes.matchedRoute response.status with
    | none => (response, exchange)
    | some route => engine.errorPass route response.status none exchange
  else (response, exchange)

def dispatch (engine : Engine σ) (exchange : Exchange σ) : Response × Exchange σ :=
  let filters := engine.table.filtersFor exchange.head.method exchange.head.path
  match Filter.chain (fun exchange => engine.routeTerminal.run exchange) filters exchange with
  | (.ok response, exchange) => engine.checkStatus response exchange
  | (.error error, exchange) => engine.handleError error exchange

def encode (engine : Engine σ) (response : Response) : Response :=
  response.encode engine.codecs engine.settings.defaultCharset

/-- The encoded response to a request. A request that brings no identifier gets a fresh one. -/
def service (engine : Engine σ) (freshId : String) (exchange : Exchange σ) :
    Response × Exchange σ :=
  let id := exchange.request.clientId?.getD freshId
  let exchange := exchange.updateAttributes fun attributes =>
    { attributes with requestId := some id }
  let (response, exchange) := engine.dispatch exchange
  let response := engine.encode response
  let response :=
    if response.headers.contains "X-Request-Id" then response
    else response.setHeader "X-Request-Id" id
  (response, exchange)

/-- What an answered exchange counts as. -/
def measures (response : Response) (exchange : Exchange σ) : List Measure :=
  let route := exchange.request.attributes.matchedRoute.bind RouteSpec.template
  Measure.ofRequest exchange.head.method response.status.render
    ((route.map Template.source).getD "none")

def annotated (engine : Engine σ) : String :=
  Annotated.openRecord "DispatchEngine"
    [("codecs", Annotated.texts (engine.codecs.map Codec.name)),
      ("exception_handlers",
        Annotated.texts (engine.exceptionHandlers.map ExceptionHandler.typeName)),
      ("config", Annotated.record "DispatchConfig"
        [("max_buffered_body", toString engine.settings.maxBufferedBody),
          ("default_charset", quoted engine.settings.defaultCharset)])]

end Engine

end StreamHttp
