import StreamHttp.Exchange.Engine

/-!
A small application to serve: a greeting, names that are created and updated, and a cactus.
-/

namespace StreamHttp.Demo

def constant (outcome : Outcome) : Handling Unit Outcome := pure outcome

def onName (word : String) : Handling Unit Outcome := do
  let invocation ← ExceptT.lift Program.get
  match invocation.arguments.get .text "name" with
  | .error error => Handling.fail (.binding error)
  | .ok (.string name) => return Outcome.text (word ++ " " ++ name)
  | .ok _ => return .empty

def name : Param := { name := "name", source := .path, type := .string, required := true }

def cactus : Json := Json.ofMembers [("name", .string "cactus"), ("thorny", .bool true)]

def routes : List (Method × String × RouteSpec × Handler Unit) :=
  [("GET", "/", {}, constant (Outcome.text "Hello from the serverless dispatcher")),
    ("POST", "/\x7bname\x7d", { params := [name], status := some ⟨201⟩ }, onName "Created"),
    ("PUT", "/\x7bname\x7d", { params := [name] }, onName "Updated"),
    ("GET", "/cactus", {}, constant (.immediate (.json cactus))),
    ("DELETE", "/", {}, constant .empty)]

def addRoute (table : RouteTable Unit) (route : Method × String × RouteSpec × Handler Unit) :
    Except RoutingError (RouteTable Unit) := do
  let (method, path, spec, handler) := route
  let template ← (Template.parse path).mapError .template
  table.addRoute { spec := { spec with method := some method, template := some template }, handler }

def table : Except RoutingError (RouteTable Unit) := routes.foldlM addRoute {}

end StreamHttp.Demo
