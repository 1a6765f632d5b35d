import StreamHttp.Message.MediaType
import StreamHttp.Message.Status
import StreamHttp.Message.Token
import StreamHttp.Routing.Template
import StreamHttp.Text.Annotated

/-!
What a route declares: the requests it answers, the parameters of its handler, and what its
responses get. A route without a method or a template is reached by failures only.
-/

namespace StreamHttp

inductive ParamSource where
  | path
  | query
  | header
  | cookie
  /-- The whole body, decoded by its media type. -/
  | body
  | rawBody
  | bodyStream
  /-- One field of a decoded body. -/
  | bodyField
  deriving DecidableEq, Repr

namespace ParamSource

def claimsBody : ParamSource → Bool
  | .body => true
  | .rawBody => true
  | .bodyStream => true
  | _ => false

def name : ParamSource → String
  | .path => "Path"
  | .query => "Query"
  | .header => "Header"
  | .cookie => "Cookie"
  | .body => "Body"
  | .rawBody => "RawBody"
  | .bodyStream => "BodyStream"
  | .bodyField => "BodyField"

end ParamSource

inductive ParamType where
  | string
  | integer
  | number
  | boolean
  | json
  deriving DecidableEq, Repr

def ParamType.name : ParamType → String
  | .string => "String"
  | .integer => "Integer"
  | .number => "Number"
  | .boolean => "Boolean"
  | .json => "Json"

structure Param where
  name : String
  source : ParamSource
  type : ParamType := .string
  required : Bool := true
  deriving DecidableEq, Repr

def Param.annotated (param : Param) : String :=
  Annotated.record "Param"
    [("name", quoted param.name), ("source", param.source.name), ("ty", param.type.name),
      ("required", toString param.required)]

structure RouteSpec where
  method : Option Method := none
  template : Option Template := none
  params : List Param := []
  produces : Option MediaType := none
  status : Option Status := none
  headers : List (String × String) := []
  group : Option String := none
  /-- A sequence of results is cut to its first item. -/
  single : Bool := false
  deriving DecidableEq, Repr

namespace RouteSpec

def describe (spec : RouteSpec) : String :=
  match spec.method, spec.template with
  | some method, some template => method ++ " " ++ template.source
  | _, _ => "<error route>"

def claimsBody (spec : RouteSpec) : Bool := spec.params.any (·.source.claimsBody)

def annotated (spec : RouteSpec) : String :=
  Annotated.openRecord "Route"
    [("route", quoted spec.describe),
      ("params", Annotated.list (spec.params.map Param.annotated)),
      ("group", Annotated.option quoted spec.group)]

end RouteSpec

end StreamHttp
