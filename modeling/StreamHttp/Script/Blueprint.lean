import StreamHttp.Document.Failure
import StreamHttp.Exchange.Engine
import StreamHttp.Script.FilterPlan

/-!
Applications as blueprints: a document that lists routes with the scripts of their handlers, error
routes, filters and exception handlers.
-/

namespace StreamHttp.Document

def paramSource : String → ParamSource
  | "query" => .query
  | "header" => .header
  | "cookie" => .cookie
  | "body" => .body
  | "raw" => .rawBody
  | "stream" => .bodyStream
  | "field" => .bodyField
  | _ => .path

def paramType (source : ParamSource) : String → ParamType
  | "string" => .string
  | "integer" => .integer
  | "number" => .number
  | "boolean" => .boolean
  | "json" => .json
  | _ => if source == .body then .json else .string

def param (document : Json) : Param :=
  let source := paramSource (text document "in")
  { name := text document "name"
    source
    type := paramType source (text document "as")
    required := !flag document "optional" }

def matcherWithin : Nat → Json → RequestMatcher
  | 0, _ => .all []
  | depth + 1, document =>
      if isSet document "path" then .path (PathPattern.parse (text document "path"))
      else if isSet document "methods" then .methods (texts document "methods")
      else .all ((items document "and").map (matcherWithin depth))

def matcher (document : Json) : RequestMatcher := matcherWithin Json.depthLimit document

variable (vocabulary : Vocabulary)

def shape (document : Json) : Json.Shape := vocabulary.shape (text document "as")

def consumption (document : Json) : Consumption :=
  match number? document "buffer", number? document "read" with
  | some limit, _ => .buffer limit
  | none, some count => .read count
  | none, none => .split

def sequenceItem (document : Json) : Except DispatchError Payload :=
  match field? document "error" with
  | some failure => .error (error vocabulary failure)
  | none => .ok (payload vocabulary document)

/-- Reads an action in a document of a limited depth; one that is not known does nothing. -/
def actionWithin : Nat → Json → Action
  | 0, _ => .respond id
  | depth + 1, document =>
      let name := text document "name"
      let value := text document "value"
      match text document "do" with
      | "log" => .observe (.value (get document "value"))
      | "log_args" => .observe .arguments
      | "log_head" => .observe .head
      | "log_error" => .observe .error
      | "log_text" => .observe (.text name)
      | "log_status" => .observe .status
      | "log_note" => .observe .note
      | "log_debug" => .observe .invocation
      | "note" => .note value
      | "arg" => .convert (shape vocabulary document) name true
      | "arg_opt" => .convert .any name false
      | "status" => .respond fun response => response.setStatus ⟨number document "code" 200⟩
      | "reason" => .respond fun response => { response with ownReason := some value }
      | "body" =>
          let body := payload vocabulary (get document "body")
          .respond fun response => { response with body }
      | "set_header" => .respond fun response => response.setHeader name value
      | "add_header" => .respond fun response => response.addHeader name value
      | "cookie" => .respond fun response => response.addCookie (cookie (get document "cookie"))
      | "keep" => .keep
      | "shutdown" => .stop
      | "stream" => .consume name (consumption document)
      | "return" => .finish (.immediate (payload vocabulary (get document "body")))
      | "return_text" => .finish (Outcome.text value)
      | "return_json" => .finish (Action.jsonOutcome (get document "json"))
      | "return_args" => .finishArguments
      | "return_arg" => .finishArgument (shape vocabulary document) name
      | "return_bytes" => .finishBytes name
      | "respond" => .finish (.response (response vocabulary (get document "response")))
      | "fail" => .fail (error vocabulary (get document "error"))
      | "rethrow" => .rethrow
      | "defer" => .defer ((items document "then").map (actionWithin depth))
      | "seq" => .finish (.sequence ((items document "items").map (sequenceItem vocabulary)))
      | "empty" => .finish .empty
      | _ => .respond id

def handler (document : Json) : Handler Journal :=
  Action.play vocabulary
    ((items document "handler").map (actionWithin vocabulary Json.depthLimit))

def filterPlan (document : Json) : FilterPlan where
  name := text document "name"
  oncePerRequest := flag document "once"
  note := text? document "note"
  buffer := number? document "buffer"
  release := flag document "release"
  parsedBody := document.member? "parsed"
  answer := (field? document "respond").map (response vocabulary)
  fail := (field? document "fail").map (error vocabulary)
  recover := (field? document "recover").map (response vocabulary)
  header := match get document "header" with
    | .array [name, value] => some (textOf name, textOf value)
    | _ => none
  status := (number? document "set_status").map Status.mk
  body := (field? document "set_body").map (payload vocabulary)
  failAfter := (field? document "fail_after").map (error vocabulary)

def filterEntry (document : Json) : RequestMatcher × Filter Journal :=
  let condition := match field? document "matcher" with
    | some condition => matcher condition
    | none => .path (PathPattern.parse (textOr document "pattern" "/**"))
  (condition, (filterPlan vocabulary document).filter vocabulary)

def routeSpec (document : Json) : RouteSpec where
  params := (items document "params").map param
  produces := (text? document "produces").bind MediaType.parse?
  status := (number? document "set_status").map Status.mk
  headers := pairs document "headers"
  group := text? document "group"
  single := flag document "single"

def errorRoute (document : Json) : Route Journal :=
  ⟨routeSpec document, handler vocabulary document⟩

def decoratedMethods : List Method := ["GET", "POST", "PUT", "PATCH", "DELETE"]

def addRoute (table : RouteTable Journal) (document : Json) :
    Except RoutingError (RouteTable Journal) := do
  if flag document "error_only" then table.addRoute (errorRoute vocabulary document)
  else
    let template ← (Template.parse (text document "template")).mapError .template
    let method := textOr document "method" "GET"
    let spec := routeSpec document
    let spec := if decoratedMethods.contains method then spec else { params := spec.params }
    table.addRoute
      { spec := { spec with method := some method, template := some template }
        handler := handler vocabulary document }

def table (document : Json) : Except RoutingError (RouteTable Journal) := do
  let table ← (items document "routes").foldlM (addRoute vocabulary) {}
  return { table with
    statusRoutes := (items document "status_routes").map fun route =>
      (⟨number route "on" 0⟩, errorRoute vocabulary route)
    errorRoutes := (items document "error_routes").map fun route =>
      (errorKind vocabulary (text route "on"), errorRoute vocabulary route)
    filters := (items document "filters").map (filterEntry vocabulary) }

def exceptionHandler (typeName : ErrorKind → String) (document : Json) : ExceptionHandler :=
  let name := text document "type"
  let kind := errorKind vocabulary name
  { kind
    typeName := typeName kind
    respond := fun cause head =>
      { Response.ofStatus ⟨number document "status" 200⟩ with
        body := .text (name ++ ": " ++ cause.message ++ " at " ++ head.path) } }

def settings (document : Json) : DispatchSettings where
  maxBufferedBody := number document "max_buffered_body" ({} : DispatchSettings).maxBufferedBody
  defaultCharset := textOr document "default_charset" ({} : DispatchSettings).defaultCharset

end StreamHttp.Document
