import StreamHttp.Exchange.Engine
import StreamHttp.Proofs.Routing.Table

/-!
Dispatching in two passes. A request passes the filters to its route; the result of that pass tells
whether it is dispatched again, to an error route, and what a failure of the second pass answers.
-/

namespace StreamHttp

variable {σ : Type}

/-- What a second pass is started for: its route, the status to be answered and, unless that is all
there is, the error. -/
structure Redispatch (σ : Type) where
  route : Route σ
  status : Status
  error : Option DispatchError

namespace Redispatch

def begun (next : Redispatch σ) (exchange : Exchange σ) : Exchange σ :=
  match next.error with
  | none => exchange
  | some error =>
      exchange.updateAttributes fun attributes => { attributes with thrownError := some error }

theorem head_begun (next : Redispatch σ) (exchange : Exchange σ) :
    (next.begun exchange).head = exchange.head := by
  unfold begun
  split
  · rfl
  · rfl

def answer (next : Redispatch σ) (reply : Reply) : Response :=
  let response := match reply with
    | .ok response => response
    | .error failure => Response.ofMessage .internalError (next.error.getD failure).message
  response.withMissingAllow (next.error.bind DispatchError.allow?)

end Redispatch

def Exchange.identified (freshId : String) (exchange : Exchange σ) : Exchange σ :=
  exchange.updateAttributes fun attributes =>
    { attributes with requestId := some (exchange.request.clientId?.getD freshId) }

theorem Response.with_missing_allow (response : Response) (allow : Option String) :
    (response.withMissingAllow allow).status = response.status ∧
      (response.withMissingAllow allow).body = response.body := by
  unfold withMissingAllow
  split
  · split
    · exact ⟨rfl, rfl⟩
    · exact ⟨rfl, rfl⟩
  · exact ⟨rfl, rfl⟩

namespace Engine

def firstPass (engine : Engine σ) (exchange : Exchange σ) : Reply × Exchange σ :=
  Filter.chain (fun exchange => engine.routeTerminal.run exchange)
    (engine.table.filtersFor exchange.head.method exchange.head.path) exchange

def secondPass (engine : Engine σ) (next : Redispatch σ) (exchange : Exchange σ) :
    Reply × Exchange σ :=
  let guarded := engine.invoke { route := next.route } next.error (Response.ofStatus next.status)
  Filter.chain (fun exchange => guarded.run exchange)
    ((engine.table.filtersFor exchange.head.method exchange.head.path).filter
      fun filter => !filter.oncePerRequest) exchange

/-- The second pass that the result of the first one calls for, if it does. -/
def redispatch? (engine : Engine σ) (passed : Reply × Exchange σ) : Option (Redispatch σ) :=
  let origin := passed.2.request.attributes.matchedRoute
  match passed.1 with
  | .ok response =>
      if response.status.isError then
        (engine.table.statusRoute? origin response.status).map (⟨·, response.status, none⟩)
      else none
  | .error error => (engine.routeForError? origin error).map (⟨·, error.statusOf, some error⟩)

theorem redispatch_registered {engine : Engine σ} {passed : Reply × Exchange σ}
    {next : Redispatch σ} (again : engine.redispatch? passed = some next) :
    (∃ entry ∈ engine.table.statusRoutes, entry.2 = next.route) ∨
      ∃ entry ∈ engine.table.errorRoutes, entry.2 = next.route := by
  unfold redispatch? at again
  rcases passed with ⟨error | response, exchange⟩
  · obtain ⟨route, chosen, rfl⟩ := Option.map_eq_some_iff.1 again
    rcases Option.or_eq_some_iff.1 chosen with kind | ⟨_, kind⟩
    · exact .inr (RouteTable.mem_error_route kind)
    · split at kind
      · exact .inl (RouteTable.mem_status_route kind)
      · cases kind
  · simp only at again
    split at again
    · obtain ⟨route, chosen, rfl⟩ := Option.map_eq_some_iff.1 again
      exact .inl (RouteTable.mem_status_route chosen)
    · cases again

def directAnswer (engine : Engine σ) (passed : Reply × Exchange σ) : Response :=
  match passed.1 with
  | .ok response => response
  | .error error => engine.defaultResponse passed.2.head error

theorem error_pass_second (engine : Engine σ) (next : Redispatch σ) (exchange : Exchange σ) :
    engine.errorPass next.route next.status next.error exchange =
      match engine.secondPass next exchange with
      | (.ok response, exchange) => (response, exchange)
      | (.error failure, exchange) =>
          (Response.ofMessage .internalError (next.error.getD failure).message, exchange) := rfl

theorem error_pass_answer (engine : Engine σ) (next : Redispatch σ) (exchange : Exchange σ) :
    let passed := engine.errorPass next.route next.status next.error exchange
    (passed.1.withMissingAllow (next.error.bind DispatchError.allow?), passed.2) =
      (next.answer (engine.secondPass next exchange).1, (engine.secondPass next exchange).2) := by
  rw [error_pass_second]
  rcases engine.secondPass next exchange with ⟨_ | _, _⟩
  · rfl
  · rfl

theorem dispatch_first (engine : Engine σ) (exchange : Exchange σ) :
    engine.dispatch exchange =
      match engine.firstPass exchange with
      | (.ok response, exchange) => engine.checkStatus response exchange
      | (.error error, exchange) => engine.handleError error exchange := rfl

/-- An exchange is dispatched once, and once more if the result calls for it. -/
theorem dispatch_eq (engine : Engine σ) (exchange : Exchange σ) :
    engine.dispatch exchange =
      let passed := engine.firstPass exchange
      match engine.redispatch? passed with
      | none => (engine.directAnswer passed, passed.2)
      | some next =>
          let again := engine.secondPass next (next.begun passed.2)
          (next.answer again.1, again.2) := by
  rw [dispatch_first]
  rcases engine.firstPass exchange with ⟨error | response, exchange⟩
  · simp only [handleError, redispatch?, directAnswer]
    cases engine.routeForError? exchange.request.attributes.matchedRoute error with
    | none => rfl
    | some route => exact error_pass_answer engine ⟨route, error.statusOf, some error⟩ _
  · simp only [checkStatus, redispatch?, directAnswer]
    split
    · cases engine.table.statusRoute? exchange.request.attributes.matchedRoute response.status with
      | none => rfl
      | some route => exact error_pass_answer engine ⟨route, response.status, none⟩ exchange
    · rfl

def completed (engine : Engine σ) (id : String) (response : Response) : Response :=
  let response := engine.encode response
  if response.headers.contains "X-Request-Id" then response
  else response.setHeader "X-Request-Id" id

theorem service_eq (engine : Engine σ) (freshId : String) (exchange : Exchange σ) :
    engine.service freshId exchange =
      let answered := engine.dispatch (exchange.identified freshId)
      (engine.completed (exchange.request.clientId?.getD freshId) answered.1, answered.2) := rfl

end Engine

end StreamHttp
