import StreamHttp.Arguments.Binder
import StreamHttp.Exchange.Filter
import StreamHttp.Exchange.Handler
import StreamHttp.Failure.Chain
import StreamHttp.Routing.RequestMatcher

/-!
The table of an application's routes, error routes and filters. The lookup gives all routes that are
equally and most specific for a request; choosing among them is not its business.
-/

namespace StreamHttp

structure Route (σ : Type) where
  spec : RouteSpec
  handler : Handler σ

inductive RoutingError where
  | template (problem : Template.Problem)
  | notRoutable (route : String)
  deriving DecidableEq, Repr

def RoutingError.message : RoutingError → String
  | .template problem => "invalid route template: " ++ problem.message
  | .notRoutable route =>
      "route " ++ route ++ " has no method or template and can only be an error route"

structure RouteMatch (σ : Type) where
  route : Route σ
  arguments : Arguments := {}

inductive RouteLookup (σ : Type) where
  | found (candidates : List (RouteMatch σ))
  | methodNotAllowed (allowed : List Method)
  | notFound

structure RouteTable (σ : Type) where
  routes : List (Route σ) := []
  statusRoutes : List (Status × Route σ) := []
  errorRoutes : List (ErrorKind × Route σ) := []
  filters : List (RequestMatcher × Filter σ) := []

namespace RouteTable

variable {σ : Type}

def addRoute (table : RouteTable σ) (route : Route σ) : Except RoutingError (RouteTable σ) :=
  if route.spec.method.isNone || route.spec.template.isNone then
    .error (.notRoutable route.spec.describe)
  else .ok { table with routes := table.routes ++ [route] }

def bindings? (path : String) (spec : RouteSpec) : Option (List (String × String)) :=
  spec.template.bind (·.match? path)

structure Candidate (σ : Type) where
  route : Route σ
  bindings : List (String × String)
  specificity : Specificity

def candidate? (method : Method) (path : String) (route : Route σ) : Option (Candidate σ) :=
  match route.spec.method, route.spec.template with
  | some own, some template =>
      if own == method then
        (template.match? path).map fun bindings => ⟨route, bindings, template.specificity⟩
      else none
  | _, _ => none

/-- Takes one more candidate into account; those kept are equally specific. -/
def consider (best : List (Candidate σ)) (candidate : Candidate σ) : List (Candidate σ) :=
  match best with
  | [] => [candidate]
  | leader :: _ =>
      if leader.specificity.precedes candidate.specificity then best
      else if candidate.specificity.precedes leader.specificity then [candidate]
      else best ++ [candidate]

def bestMatches (table : RouteTable σ) (method : Method) (path : String) : List (RouteMatch σ) :=
  ((table.routes.filterMap (candidate? method path)).foldl consider []).map fun candidate =>
    ⟨candidate.route, Arguments.ofTexts candidate.bindings⟩

/-- The methods of the routes that match a path, in the order of registration. -/
def allowedMethods (table : RouteTable σ) (path : String) : List Method :=
  table.routes.foldl (fun allowed route =>
    match route.spec.method, bindings? path route.spec with
    | some method, some _ => if allowed.contains method then allowed else allowed ++ [method]
    | _, _ => allowed) []

/-- A HEAD request without routes of its own is answered by those for GET. -/
def find (table : RouteTable σ) (method : Method) (path : String) : RouteLookup σ :=
  let own := table.bestMatches method path
  let candidates := if own.isEmpty && method == "HEAD" then table.bestMatches "GET" path else own
  if !candidates.isEmpty then .found candidates
  else
    match table.allowedMethods path with
    | [] => .notFound
    | allowed => .methodNotAllowed allowed

/-- The entries for the group of a route, and behind them those for no group. -/
def inScope {κ : Type} (entries : List (κ × Route σ)) (origin : Option RouteSpec) :
    List (κ × Route σ) :=
  let group := origin.bind RouteSpec.group
  entries.filter (fun entry => group.isSome && entry.2.spec.group == group)
    ++ entries.filter fun entry => entry.2.spec.group.isNone

def statusRoute? (table : RouteTable σ) (origin : Option RouteSpec) (status : Status) :
    Option (Route σ) :=
  ((inScope table.statusRoutes origin).find? (·.1 == status)).map Prod.snd

def errorRoute? (table : RouteTable σ) (origin : Option RouteSpec) (cause : Cause) :
    Option (Route σ) :=
  cause.chain.findSome? fun link =>
    ((inScope table.errorRoutes origin).find? fun entry => link.isOf entry.1).map Prod.snd

def filtersFor (table : RouteTable σ) (method : Method) (path : String) : List (Filter σ) :=
  (table.filters.filter fun entry => entry.1.admits method path).map Prod.snd

def annotated (table : RouteTable σ) : String :=
  Annotated.record "RouteTable"
    [("routes", toString table.routes.length), ("status_routes", toString table.statusRoutes.length),
      ("error_routes", toString table.errorRoutes.length),
      ("filters", toString table.filters.length)]

end RouteTable

end StreamHttp
