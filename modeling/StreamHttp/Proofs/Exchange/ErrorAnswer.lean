import StreamHttp.Proofs.Exchange.Redispatch
import StreamHttp.Proofs.Routing.Ranking

/-!
What an error of the first pass is answered with. The foremost error route comes first, then, for
some kinds of errors, the foremost route for the status; where there is neither, the kind of the
error decides, and for most of them the foremost exception handler.
-/

namespace StreamHttp

variable {σ : Type}

namespace ExceptionHandler

def OfError (handlers : List ExceptionHandler) (cause : Cause) : Linked ExceptionHandler → Prop :=
  Linked.Along cause.chain fun link =>
    Numbered.Among handlers fun handler => link.isOf handler.kind

def rank : Linked ExceptionHandler → Nat ×ₗ Natᵒᵈ :=
  Linked.rankBy fun item => OrderDual.toDual item.number

theorem selects_handle (handlers : List ExceptionHandler) (cause : Cause) (head : Head) :
    Selects rank (OfError handlers cause) (fun item => item.entry.respond item.link head)
      (handle handlers cause head) := by
  have each (link : Cause) :=
    (Numbered.selects_find_last handlers fun handler => link.isOf handler.kind).map
      fun handler => handler.respond link head
  exact Linked.selects_along each cause.chain

end ExceptionHandler

namespace DispatchError

/-- The errors that end a request before its handler is called. -/
inductive Refusal : DispatchError → Prop where
  | notFound : Refusal .notFound
  | methodNotAllowed (method : Method) (path : String) (allowed : List Method) :
      Refusal (.methodNotAllowed method path allowed)
  | binding (error : BindingError) : Refusal (.binding error)

/-- The errors that are answered by a route for their status, where no route is for their kind. -/
inductive ForStatus : DispatchError → Prop where
  | refusal {error : DispatchError} (refused : Refusal error) : ForStatus error
  | status (status : Status) (message : String) (body : Option Payload) :
      ForStatus (.status status message body)

def chosenBody (status : Status) (message : String) : Option Payload → Payload
  | some own => own
  | none => if status.isError then bodyOf message else .empty

end DispatchError

/-- What an error leads to: a second pass to a route, or a response there and then. -/
inductive Reaction (σ : Type) where
  | route (route : Route σ)
  | response (response : Response)

namespace Engine

/-- No error route is for an error, and no route for its status either if one could answer it. -/
def Unrouted (engine : Engine σ) (origin : Option RouteSpec) (error : DispatchError) : Prop :=
  (∀ item, ¬engine.table.OfError origin error.asCause item) ∧
    (error.ForStatus → ∀ item, ¬engine.table.OfStatus origin error.statusOf item)

/-- What an error is to lead to, by the ranks of routes and handlers alone. -/
inductive Reacts (engine : Engine σ) (origin : Option RouteSpec) (head : Head) :
    DispatchError → Reaction σ → Prop where
  | errorRoute {error : DispatchError} {item : Linked (ErrorKind × Route σ)}
      (first : Foremost (Linked.rankBy RouteTable.scopeRank)
        (engine.table.OfError origin error.asCause) item) :
      Reacts engine origin head error (.route item.entry.2)
  | statusRoute {error : DispatchError} {item : Numbered (Status × Route σ)}
      (noErrorRoute : ∀ item, ¬engine.table.OfError origin error.asCause item)
      (kind : error.ForStatus)
      (first : Foremost RouteTable.scopeRank
        (engine.table.OfStatus origin error.statusOf) item) :
      Reacts engine origin head error (.route item.entry.2)
  | chosen {status : Status} {message : String} {body : Option Payload}
      (unrouted : engine.Unrouted origin (.status status message body)) :
      Reacts engine origin head (.status status message body)
        (.response { Response.ofStatus status with
          body := DispatchError.chosenBody status message body })
  | refused {error : DispatchError} (unrouted : engine.Unrouted origin error)
      (kind : error.Refusal) :
      Reacts engine origin head error
        (.response ((Response.ofMessage error.statusOf error.message).withMissingAllow error.allow?))
  | handled {error : DispatchError} {item : Linked ExceptionHandler}
      (unrouted : engine.Unrouted origin error) (kind : ¬error.ForStatus)
      (first : Foremost ExceptionHandler.rank
        (ExceptionHandler.OfError engine.exceptionHandlers error.asCause) item) :
      Reacts engine origin head error (.response (item.entry.respond item.link head))
  | unhandled {error : DispatchError} (unrouted : engine.Unrouted origin error)
      (kind : ¬error.ForStatus)
      (noHandler : ∀ item,
        ¬ExceptionHandler.OfError engine.exceptionHandlers error.asCause item) :
      Reacts engine origin head error (.response (Response.ofMessage error.statusOf error.message))

def react (engine : Engine σ) (error : DispatchError) (exchange : Exchange σ) :
    Reaction σ → Response × Exchange σ
  | .response response => (response, exchange)
  | .route route =>
      let next : Redispatch σ := ⟨route, error.statusOf, some error⟩
      let again := engine.secondPass next (next.begun exchange)
      (next.answer again.1, again.2)

def reaction (engine : Engine σ) (origin : Option RouteSpec) (head : Head)
    (error : DispatchError) : Reaction σ :=
  match engine.routeForError? origin error with
  | some route => .route route
  | none => .response (engine.defaultResponse head error)

theorem handle_error_react (engine : Engine σ) (error : DispatchError) (exchange : Exchange σ) :
    engine.handleError error exchange =
      engine.react error exchange
        (engine.reaction exchange.request.attributes.matchedRoute exchange.head error) := by
  unfold handleError reaction
  cases engine.routeForError? exchange.request.attributes.matchedRoute error with
  | none => rfl
  | some route => exact error_pass_answer engine ⟨route, error.statusOf, some error⟩ _

theorem has_status_route_iff {error : DispatchError} :
    hasStatusRoute error = true ↔ error.ForStatus := by
  constructor
  · intro has
    cases error with
    | notFound => exact .refusal .notFound
    | methodNotAllowed method path allowed => exact .refusal (.methodNotAllowed method path allowed)
    | binding error => exact .refusal (.binding error)
    | status status message body => exact .status status message body
    | duplicateRoute path routes => cases has
    | codec error => cases has
    | body error => cases has
    | handler cause => cases has
  · rintro (⟨⟨⟩ | _ | _⟩ | _) <;> rfl

theorem route_none_iff {engine : Engine σ} {origin : Option RouteSpec} {error : DispatchError} :
    engine.routeForError? origin error = none ↔ engine.Unrouted origin error := by
  rw [routeForError?, Option.or_eq_none_iff,
    (engine.table.selects_error_route origin error.asCause).none_iff, Unrouted,
    ← has_status_route_iff, ← (engine.table.selects_status_route origin error.statusOf).none_iff]
  cases hasStatusRoute error <;> simp

theorem default_chosen (engine : Engine σ) (head : Head) (status : Status) (message : String)
    (body : Option Payload) :
    engine.defaultResponse head (.status status message body) =
      { Response.ofStatus status with body := DispatchError.chosenBody status message body } := by
  cases body with
  | some body => rfl
  | none =>
      simp only [defaultResponse, DispatchError.chosenBody]
      split
      · rfl
      · rfl

theorem default_refused (engine : Engine σ) (head : Head) {error : DispatchError}
    (refused : error.Refusal) :
    engine.defaultResponse head error =
      (Response.ofMessage error.statusOf error.message).withMissingAllow error.allow? := by
  cases refused with
  | notFound => rfl
  | methodNotAllowed => rfl
  | binding => rfl

theorem default_other (engine : Engine σ) (head : Head) {error : DispatchError}
    (other : ¬error.ForStatus) :
    engine.defaultResponse head error =
      (ExceptionHandler.handle engine.exceptionHandlers error.asCause head).getD
        (Response.ofMessage error.statusOf error.message) := by
  cases error with
  | notFound => exact absurd (.refusal .notFound) other
  | methodNotAllowed => exact absurd (.refusal (.methodNotAllowed _ _ _)) other
  | binding => exact absurd (.refusal (.binding _)) other
  | status => exact absurd (.status _ _ _) other
  | duplicateRoute => rfl
  | codec => rfl
  | body => rfl
  | handler => rfl

section

variable {engine : Engine σ} {origin : Option RouteSpec} {head : Head} {error : DispatchError}

theorem reaction_route {route : Route σ} (chosen : engine.routeForError? origin error = some route) :
    engine.reaction origin head error = .route route := by
  rw [reaction, chosen]

theorem reaction_unrouted (unrouted : engine.Unrouted origin error) :
    engine.reaction origin head error = .response (engine.defaultResponse head error) := by
  rw [reaction, route_none_iff.2 unrouted]

/-- The searches come to what the ranks say. -/
theorem reacts_reaction : engine.Reacts origin head error (engine.reaction origin head error) := by
  cases chosen : engine.routeForError? origin error with
  | some route =>
      rw [reaction_route chosen]
      rcases Option.or_eq_some_iff.1 chosen with found | ⟨nothing, found⟩
      · obtain ⟨item, first, rfl⟩ := (engine.table.selects_error_route _ _).foremost found
        exact .errorRoute first
      · split at found
        · rename_i kind
          obtain ⟨item, first, rfl⟩ := (engine.table.selects_status_route _ _).foremost found
          exact .statusRoute ((engine.table.selects_error_route _ _).absent nothing)
            (has_status_route_iff.1 kind) first
        · cases found
  | none =>
      have unrouted := route_none_iff.1 chosen
      rw [reaction_unrouted unrouted]
      by_cases kind : error.ForStatus
      · cases kind with
        | refusal refused =>
            rw [default_refused engine head refused]
            exact .refused unrouted refused
        | status status message body =>
            rw [default_chosen]
            exact .chosen unrouted
      · rw [default_other engine head kind]
        have handlers := ExceptionHandler.selects_handle engine.exceptionHandlers error.asCause head
        cases found : ExceptionHandler.handle engine.exceptionHandlers error.asCause head with
        | some response =>
            obtain ⟨item, first, rfl⟩ := handlers.foremost found
            exact .handled unrouted kind first
        | none => exact .unhandled unrouted kind (handlers.absent found)

theorem Reacts.eq_reaction {found : Reaction σ} (reacts : engine.Reacts origin head error found) :
    found = engine.reaction origin head error := by
  cases reacts with
  | @errorRoute _ item first =>
      have found := (engine.table.selects_error_route origin error.asCause).some_iff.2
        ⟨item, first, rfl⟩
      rw [reaction_route]
      rw [routeForError?, found, Option.some_or]
  | @statusRoute _ item noErrorRoute kind first =>
      have nothing := (engine.table.selects_error_route _ _).none_iff.2 noErrorRoute
      have found := (engine.table.selects_status_route origin error.statusOf).some_iff.2
        ⟨item, first, rfl⟩
      rw [reaction_route]
      rw [routeForError?, nothing, Option.none_or, if_pos (has_status_route_iff.2 kind), found]
  | chosen unrouted => rw [reaction_unrouted unrouted, default_chosen]
  | refused unrouted kind => rw [reaction_unrouted unrouted, default_refused engine head kind]
  | @handled _ item unrouted kind first =>
      have found := (ExceptionHandler.selects_handle _ error.asCause head).some_iff.2
        ⟨item, first, rfl⟩
      rw [reaction_unrouted unrouted, default_other engine head kind, found, Option.getD_some]
  | unhandled unrouted kind noHandler =>
      have nothing := (ExceptionHandler.selects_handle _ error.asCause head).none_iff.2 noHandler
      rw [reaction_unrouted unrouted, default_other engine head kind, nothing, Option.getD_none]

end

def known (origin : Option RouteSpec) (engine : Engine σ) : Engine σ :=
  { engine with table := engine.table.known origin }

theorem first_pass_known (engine : Engine σ) (origin : Option RouteSpec) (exchange : Exchange σ) :
    (engine.known origin).firstPass exchange = engine.firstPass exchange := rfl

theorem route_for_error_known (engine : Engine σ) (origin : Option RouteSpec)
    (error : DispatchError) :
    (engine.known origin).routeForError? origin error = engine.routeForError? origin error := by
  simp only [routeForError?, known, RouteTable.error_route_known, RouteTable.status_route_known]

/-- No answer depends on routes that are foreign to the route of the request. -/
theorem dispatch_known (engine : Engine σ) (exchange : Exchange σ) :
    (engine.known (engine.firstPass exchange).2.request.attributes.matchedRoute).dispatch exchange =
      engine.dispatch exchange := by
  rw [dispatch_first, dispatch_first, first_pass_known]
  rcases engine.firstPass exchange with ⟨error | response, after⟩
  · simp only [handleError, route_for_error_known]
    rfl
  · have same := engine.table.status_route_known after.request.attributes.matchedRoute
      response.status
    simp only [checkStatus, known, same]
    rfl

theorem dispatch_foreign (engine : Engine σ) (exchange : Exchange σ) (table : RouteTable σ)
    (same : table.known (engine.firstPass exchange).2.request.attributes.matchedRoute =
      engine.table.known (engine.firstPass exchange).2.request.attributes.matchedRoute) :
    { engine with table }.dispatch exchange = engine.dispatch exchange := by
  generalize origin_eq :
    (engine.firstPass exchange).2.request.attributes.matchedRoute = origin at same
  have known_same : { engine with table }.known origin = engine.known origin := by
    rw [known, known, same]
  have first_same : { engine with table }.firstPass exchange = engine.firstPass exchange := by
    rw [← first_pass_known _ origin, known_same, first_pass_known]
  rw [← dispatch_known { engine with table }, first_same, origin_eq, known_same, ← origin_eq,
    dispatch_known]

/-- The answer to an error of the first pass is that of the one reaction that the ranks of routes
and handlers allow, and routes of foreign groups have no part in it. -/
theorem error_answer (engine : Engine σ) {exchange after : Exchange σ} {error : DispatchError}
    (failed : engine.firstPass exchange = (.error error, after)) :
    (∃ reaction,
      (∀ other, engine.Reacts after.request.attributes.matchedRoute after.head error other ↔
        other = reaction) ∧
      engine.dispatch exchange = engine.react error after reaction) ∧
    ∀ table : RouteTable σ,
      table.known after.request.attributes.matchedRoute =
        engine.table.known after.request.attributes.matchedRoute →
      { engine with table }.dispatch exchange = engine.dispatch exchange := by
  refine ⟨⟨engine.reaction after.request.attributes.matchedRoute after.head error, ?_, ?_⟩, ?_⟩
  · intro other
    exact ⟨Reacts.eq_reaction, fun same => same ▸ reacts_reaction⟩
  · rw [dispatch_first, failed]
    exact handle_error_react engine error after
  · intro table same
    refine dispatch_foreign engine exchange table ?_
    rw [failed]
    exact same

def soldOut : DispatchError :=
  .handler (.applicationFrom "OrderFailed" "order failed" (.application "OutOfStock" "sold out"))

def wordRoute (group : Option String) (word : String) : Route Unit where
  spec := { group }
  handler := ExceptT.mk (.done (.ok (.text word)))

/-- A shop whose orders fail. Of its error routes, one is of another group and one of none. -/
def shop : Engine Unit :=
  ofTable
    { routes :=
        [{ spec :=
            { method := some "POST"
              template := some ⟨"/orders", [.literal "orders"]⟩
              group := some "orders" }
           handler := Handling.fail soldOut }]
      errorRoutes :=
        [(.application "OrderFailed", wordRoute (some "returns") "returned"),
          (.application "OutOfStock", wordRoute none "gone"),
          (.application "OutOfStock", wordRoute (some "orders") "ordered")] }
    Codecs.standard [] {}

def order : Exchange Unit where
  request := Request.make (Head.make "POST" { path := "/orders" } {}) Body.empty
  streams := Streams.none
  app := ()

theorem error_answer_sold_out :
    let after := (shop.firstPass order).2
    let origin := after.request.attributes.matchedRoute
    shop.firstPass order = (.error soldOut, after) ∧
      (∃ reaction,
        (∀ other, shop.Reacts origin after.head soldOut other ↔ other = reaction) ∧
        shop.dispatch order = shop.react soldOut after reaction) ∧
      (shop.known origin).table.errorRoutes.length = 2 ∧
      (shop.known origin).dispatch order = shop.dispatch order ∧
      (shop.dispatch order).1.body = .text "ordered" := by
  have failed : shop.firstPass order = (.error soldOut, (shop.firstPass order).2) := rfl
  have answered := error_answer shop failed
  exact ⟨failed, answered.1, rfl, answered.2 (shop.table.known _) rfl, rfl⟩

end Engine

end StreamHttp
