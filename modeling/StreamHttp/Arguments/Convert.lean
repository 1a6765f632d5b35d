import StreamHttp.Arguments.Basic
import StreamHttp.Decimal.Literal
import StreamHttp.Routing.RouteSpec

/-!
Bringing bound values to the declared type of their parameter. Text is read as a value of the type;
of a list only the texts in it are; everything else is kept as it is.
-/

namespace StreamHttp.Argument

def ofField : Json → Argument
  | .string content => .text content
  | value => .json value

def readText (name : String) (type : ParamType) (content : String) : Except BindingError Json :=
  let failed (reason : String) : Except BindingError Json :=
    .error (.conversion name (quoted content ++ reason))
  let trimmed := Text.trim content
  match type with
  | .string => .ok (.string content)
  | .integer =>
      match Numeral.integer i64Max trimmed.toList with
      | .ok value => .ok (.integer value)
      | .error problem => failed (" is not an integer: " ++ problem.message)
  | .number =>
      match Decimal.parse? trimmed with
      | some value => .ok (.float value)
      | none => failed " is not a number"
  | .boolean =>
      if trimmed == "true" then .ok (.bool true)
      else if trimmed == "false" then .ok (.bool false)
      else failed " is not a boolean"
  | .json =>
      match Json.parseText content with
      | .ok value => .ok value
      | .error _ => .ok (.string content)

def readItem (name : String) (type : ParamType) : Json → Except BindingError Json
  | .string content => readText name type content
  | value => .ok value

def ofType (param : Param) (value : Argument) : Except BindingError Argument :=
  match param.type, value with
  | .string, value => .ok value
  | type, .text content => (readText param.name type content).map .json
  | .json, value => .ok value
  | type, .json (.array items) =>
      (items.mapM (readItem param.name type)).map fun items => .json (.array items)
  | _, value => .ok value

end StreamHttp.Argument
