import StreamHttp.Proofs.Exchange.Follow
import StreamHttp.Proofs.Exchange.Redispatch
import StreamHttp.Proofs.Routing.Correspondence

/-!
An engine that follows another one: it has the same routes and filters, with marks. Such an engine
gives the same responses, and the marks of an exchange are those of a pass to the route, and of one
more to an error route where the result calls for it.
-/

namespace StreamHttp

variable {σ τ μ : Type}

namespace Route

def answer (route : Route σ) (arguments : Arguments) (error : Option DispatchError)
    (ambient : Response) : Attempt σ Response := do
  let (outcome, response) ← Attempt.call route.handler arguments error ambient
  Attempt.ofReply (outcome.resolve route.spec.single response)

theorem run_answer (route : Route σ) (arguments : Arguments) (error : Option DispatchError)
    (ambient : Response) (exchange : Exchange σ) :
    (route.answer arguments error ambient).run exchange =
      let (result, invocation, streams) :=
        route.handler.run.run (exchange.invocation arguments error ambient) exchange.streams
      (result.bind fun outcome =>
          outcome.resolve route.spec.single invocation.ambient.surrender.1,
        exchange.handled invocation streams) := by
  unfold answer
  rw [Attempt.run_bind, Attempt.run_call]
  rcases route.handler.run.run (exchange.invocation arguments error ambient) exchange.streams with
    ⟨_ | _, _, _⟩
  · rfl
  · rfl

theorem head_answer (route : Route σ) (arguments : Arguments) (error : Option DispatchError)
    (ambient : Response) (exchange : Exchange σ) :
    ((route.answer arguments error ambient).run exchange).2.head = exchange.head := by
  rw [run_answer]
  rfl

structure Follows (put : σ → List μ → τ) (marks : RouteSpec → List μ) (first : Route σ)
    (second : Route τ) : Prop where
  spec : first.spec = second.spec
  answer : ∀ arguments error ambient head, Attempt.Follows put head Eq (· = marks first.spec)
    (first.answer arguments error ambient) (second.answer arguments error ambient)

end Route

namespace RouteTable

def numbered (table : RouteTable σ) (head : Head) : List (Filter σ × Nat) :=
  (table.filters.zipIdx.filter fun entry => entry.1.1.admits head.method head.path).map
    fun entry => (entry.1.2, entry.2)

def numberedAgain (table : RouteTable σ) (head : Head) : List (Filter σ × Nat) :=
  (table.numbered head).filter fun entry => !entry.1.oncePerRequest

theorem filters_numbered (table : RouteTable σ) (head : Head) :
    table.filtersFor head.method head.path = (table.numbered head).map Prod.fst := by
  have whole := List.zipIdx_map_fst 0 table.filters
  conv_lhs => rw [filtersFor, ← whole, List.filter_map, List.map_map]
  rw [numbered, List.map_map]
  rfl

end RouteTable

structure Redispatch.Corresponds (scribe : Scribe σ τ μ) (own : Redispatch σ)
    (other : Redispatch τ) : Prop where
  route : own.route.Follows scribe.put scribe.errorRoute other.route
  status : own.status = other.status
  error : own.error = other.error

theorem Redispatch.Corresponds.begun {scribe : Scribe σ τ μ} {own : Redispatch σ}
    {other : Redispatch τ} (pair : own.Corresponds scribe other) (exchange : Exchange σ)
    (log : List μ) :
    other.begun (exchange.noted scribe.put log) = (own.begun exchange).noted scribe.put log := by
  unfold Redispatch.begun
  rw [← pair.error]
  cases own.error with
  | none => rfl
  | some _ => rfl

theorem Redispatch.corresponds_of_route {scribe : Scribe σ τ μ} {own : Option (Route σ)}
    {other : Option (Route τ)}
    (chosen : Option.Rel (Route.Follows scribe.put scribe.errorRoute) own other) (status : Status)
    (error : Option DispatchError) :
    Option.Rel (Redispatch.Corresponds scribe) (own.map (⟨·, status, error⟩))
      (other.map (⟨·, status, error⟩)) := by
  cases chosen with
  | none => exact .none
  | some pair => exact .some ⟨pair, rfl, rfl⟩

namespace Scribe

variable (scribe : Scribe σ τ μ)

def RouteMarks (table : RouteTable σ) (head : Head) (trace : List μ) : Prop :=
  trace = [] ∨ ∃ only, table.find head.method head.path = .found [only] ∧
    trace = scribe.route only.route.spec

def ErrorRouteMarks (spec : RouteSpec) (trace : List μ) : Prop :=
  trace = [] ∨ trace = scribe.errorRoute spec

/-- The marks of an exchange: those of a pass to the route and, where its result calls for one,
those of a pass to an error route. -/
structure Passes (engine : Engine σ) (exchange : Exchange σ) (one two : List μ) : Prop where
  first : scribe.Pass (scribe.RouteMarks engine.table exchange.head)
    ((engine.table.numbered exchange.head).map Prod.snd) one
  second : match engine.redispatch? (engine.firstPass exchange) with
    | none => two = []
    | some next => scribe.Pass (scribe.ErrorRouteMarks next.route.spec)
        ((engine.table.numberedAgain exchange.head).map Prod.snd) two

end Scribe

namespace Engine

/-- The second engine has the routes and filters of the first one, as the scribe sees them. -/
structure Follows (scribe : Scribe σ τ μ) (first : Engine σ) (second : Engine τ) : Prop where
  satisfier : second.satisfier = first.satisfier
  codecs : second.codecs = first.codecs
  exceptionHandlers : second.exceptionHandlers = first.exceptionHandlers
  settings : second.settings = first.settings
  table : first.table.Corresponds (Route.Follows scribe.put scribe.route)
    (Route.Follows scribe.put scribe.errorRoute) second.table
  filters : second.table.filters = first.table.filters.zipIdx.map
    fun entry => (entry.1.1, scribe.observe entry.2 entry.1.2)

theorem invoke_answer (engine : Engine σ) (chosen : RouteMatch σ) (error : Option DispatchError)
    (ambient : Response) :
    engine.invoke chosen error ambient = (do
      let arguments ← Attempt.ofBinding (engine.satisfier chosen.route.spec chosen.arguments)
      let arguments ← engine.bindFromBody chosen.route.spec arguments
      match (chosen.route.spec.missing arguments).head? with
      | some param => throw (.binding (.missing param.name))
      | none =>
          let response ← chosen.route.answer arguments error ambient
          return chosen.route.spec.decorate response) := by
  refine bind_congr fun arguments => bind_congr fun arguments => ?_
  cases (chosen.route.spec.missing arguments).head? with
  | some param => rfl
  | none => exact (bind_assoc _ _ _).symm

variable {scribe : Scribe σ τ μ} {first : Engine σ} {second : Engine τ}
  (follows : first.Follows scribe second) {head : Head}

include follows

theorem Follows.resolve :
    Attempt.Follows scribe.put head
      (fun own other => RouteMatch.Corresponds (Route.Follows scribe.put scribe.route) own other ∧
        first.table.find head.method head.path = .found [own]) (· = [])
      first.resolve second.resolve := by
  refine Attempt.follows_bind_silent Attempt.follows_request rfl ?_
  rintro request _ ⟨rfl, rfl⟩
  have found := RouteTable.find_corresponds follows.table request.head.method request.head.path
  simp only
  generalize first.table.find request.head.method request.head.path = own at found ⊢
  generalize second.table.find request.head.method request.head.path = other at found ⊢
  cases found with
  | notFound => exact Attempt.follows_throw _
  | methodNotAllowed allowed => exact Attempt.follows_throw _
  | found all =>
      have descriptions := RouteTable.descriptions_correspond (fun _ _ pair => pair.spec) all
      cases all with
      | nil => exact Attempt.follows_throw _
      | cons pair rest =>
          cases rest with
          | nil =>
              simp only [← pair.route.spec]
              exact Attempt.follows_bind_silent (Attempt.follows_update _) rfl fun _ _ _ =>
                Attempt.follows_pure ⟨pair, rfl⟩
          | cons next others =>
              simp only [descriptions]
              exact Attempt.follows_throw _

theorem Follows.bind_from_body (spec : RouteSpec) (arguments : Arguments) :
    Attempt.Follows scribe.put head Eq (· = []) (first.bindFromBody spec arguments)
      (second.bindFromBody spec arguments) := by
  unfold bindFromBody
  rw [follows.codecs, follows.settings]
  refine Attempt.follows_bind_silent Attempt.follows_request rfl ?_
  rintro request _ ⟨rfl, -⟩
  split
  · exact Attempt.follows_pure rfl
  · refine Attempt.follows_bind_silent (Attempt.follows_binding _) rfl ?_
    rintro bound _ rfl
    split
    · exact Attempt.follows_pure rfl
    · exact Attempt.follows_pure rfl

theorem Follows.invoke {marks : RouteSpec → List μ} {own : RouteMatch σ} {other : RouteMatch τ}
    (pair : own.Corresponds (Route.Follows scribe.put marks) other) (error : Option DispatchError)
    (ambient : Response) :
    Attempt.Follows scribe.put head Eq (fun trace => trace = [] ∨ trace = marks own.route.spec)
      (first.invoke own error ambient) (second.invoke other error ambient) := by
  rw [invoke_answer, invoke_answer, ← pair.route.spec, ← pair.arguments, follows.satisfier]
  have satisfied : Attempt.Follows scribe.put head Eq (· = [])
      (Attempt.ofBinding (first.satisfier own.route.spec own.arguments))
      (Attempt.ofBinding (first.satisfier own.route.spec own.arguments)) := by
    refine Attempt.follows_bind_silent (Attempt.follows_binding _) rfl ?_
    rintro bound _ rfl
    exact Attempt.follows_reply _
  refine Attempt.follows_bind_silent satisfied (.inl rfl) ?_
  rintro arguments _ rfl
  refine Attempt.follows_bind_silent (follows.bind_from_body _ _) (.inl rfl) ?_
  rintro arguments _ rfl
  split
  · exact (Attempt.follows_throw _).weaken fun _ => .inl
  · have decorated (response mate : Response) (same : response = mate) :
        Attempt.Follows scribe.put head Eq (· = []) (pure (own.route.spec.decorate response))
          (pure (own.route.spec.decorate mate)) :=
      Attempt.follows_pure (congrArg _ same)
    refine Attempt.follows_bind (pair.route.answer arguments error ambient head) decorated
      (fun _ => .inr) ?_
    rintro trace _ rfl rfl
    exact .inr (List.append_nil _)

theorem Follows.route_terminal :
    Attempt.Follows scribe.put head Eq (scribe.RouteMarks first.table head)
      first.routeTerminal second.routeTerminal := by
  refine Attempt.follows_bind_silent follows.resolve (.inl rfl) ?_
  rintro own other ⟨pair, found⟩
  refine (follows.invoke pair none {}).weaken ?_
  rintro trace (rfl | rfl)
  · exact .inl rfl
  · exact .inr ⟨own, found, rfl⟩

theorem Follows.filters_for :
    second.table.filtersFor head.method head.path =
      (first.table.numbered head).map fun entry => scribe.observe entry.2 entry.1 := by
  rw [RouteTable.filtersFor, follows.filters, List.filter_map, List.map_map,
    RouteTable.numbered, List.map_map]
  rfl

theorem Follows.first_pass :
    Exchange.Follows scribe.put head Eq
      (scribe.Pass (scribe.RouteMarks first.table head)
        ((first.table.numbered head).map Prod.snd))
      first.firstPass second.firstPass := by
  rintro exchange log rfl
  have same : (exchange.noted scribe.put log).head = exchange.head := rfl
  simp only [firstPass, same, follows.filters_for, RouteTable.filters_numbered]
  exact scribe.chain_follows follows.route_terminal.reply _ exchange log rfl

theorem Follows.second_pass {next : Redispatch σ} {other : Redispatch τ}
    (pair : next.Corresponds scribe other) :
    Exchange.Follows scribe.put head Eq
      (scribe.Pass (scribe.ErrorRouteMarks next.route.spec)
        ((first.table.numberedAgain head).map Prod.snd))
      (first.secondPass next) (second.secondPass other) := by
  rintro exchange log rfl
  have same : (exchange.noted scribe.put log).head = exchange.head := rfl
  have once (entry : Filter σ × Nat) :
      (scribe.observe entry.2 entry.1).oncePerRequest = entry.1.oncePerRequest :=
    (scribe.observed entry.2 entry.1).once
  simp only [secondPass, same, follows.filters_for, RouteTable.filters_numbered, List.filter_map,
    Function.comp_def, once, ← pair.status, ← pair.error]
  have chosen : RouteMatch.Corresponds (Route.Follows scribe.put scribe.errorRoute)
      { route := next.route } { route := other.route } := ⟨pair.route, rfl⟩
  exact scribe.chain_follows (follows.invoke chosen next.error _).reply _ exchange log rfl

theorem Follows.route_for_error (origin : Option RouteSpec) (error : DispatchError) :
    Option.Rel (Route.Follows scribe.put scribe.errorRoute) (first.routeForError? origin error)
      (second.routeForError? origin error) := by
  have kind := RouteTable.error_route_corresponds follows.table origin error.asCause
  have status := RouteTable.status_route_corresponds follows.table origin error.statusOf
  unfold routeForError?
  generalize first.table.errorRoute? origin error.asCause = own at kind ⊢
  generalize second.table.errorRoute? origin error.asCause = other at kind ⊢
  cases kind with
  | some pair => exact .some pair
  | none =>
      rw [Option.none_or, Option.none_or]
      split
      · exact status
      · exact .none

theorem Follows.redispatch (passed : Reply × Exchange σ) (log : List μ) :
    Option.Rel (Redispatch.Corresponds scribe) (first.redispatch? passed)
      (second.redispatch? (passed.1, passed.2.noted scribe.put log)) := by
  have origin : (passed.2.noted scribe.put log).request = passed.2.request := rfl
  unfold redispatch?
  simp only [origin]
  cases passed.1 with
  | ok response =>
      simp only
      split
      · exact Redispatch.corresponds_of_route
          (RouteTable.status_route_corresponds follows.table _ response.status) _ _
      · exact .none
  | error error =>
      exact Redispatch.corresponds_of_route (follows.route_for_error _ error) _ _

theorem Follows.direct_answer (passed : Reply × Exchange σ) (log : List μ) :
    second.directAnswer (passed.1, passed.2.noted scribe.put log) = first.directAnswer passed := by
  have handlers := follows.exceptionHandlers
  unfold directAnswer
  cases passed.1 with
  | ok response => rfl
  | error error =>
      simp only [defaultResponse, handlers]
      rfl

/-- The second engine gives the same response, and notes the passes of the exchange. -/
theorem Follows.dispatch (exchange : Exchange σ) (log : List μ) :
    ∃ one two,
      second.dispatch (exchange.noted scribe.put log) =
        ((first.dispatch exchange).1,
          (first.dispatch exchange).2.noted scribe.put (log ++ (one ++ two))) ∧
      scribe.Passes first exchange one two := by
  obtain ⟨one, passed, replies, left, kept⟩ := follows.first_pass exchange log rfl
  have same : second.firstPass (exchange.noted scribe.put log) =
      ((first.firstPass exchange).1,
        (first.firstPass exchange).2.noted scribe.put (log ++ one)) := by
    rw [replies, ← left]
  have calls := follows.redispatch (first.firstPass exchange) (log ++ one)
  rw [dispatch_eq first, dispatch_eq second, same]
  simp only
  generalize own : first.redispatch? (first.firstPass exchange) = call at calls ⊢
  generalize second.redispatch? _ = mate at calls ⊢
  cases calls with
  | none =>
      refine ⟨one, [], ?_, passed, ?_⟩
      · simp only [follows.direct_answer, List.append_nil]
      · rw [own]
  | @some next other pair =>
      have heads := (next.head_begun (first.firstPass exchange).2).trans kept
      obtain ⟨two, again, replies, left, -⟩ := follows.second_pass pair _ (log ++ one) heads
      refine ⟨one, two, ?_, passed, ?_⟩
      · simp only [pair.begun, ← replies, left, Redispatch.answer, pair.error, List.append_assoc]
      · rw [own]
        exact again

theorem Follows.service (freshId : String) (exchange : Exchange σ) (log : List μ) :
    ∃ one two,
      second.service freshId (exchange.noted scribe.put log) =
        ((first.service freshId exchange).1,
          (first.service freshId exchange).2.noted scribe.put (log ++ (one ++ two))) ∧
      scribe.Passes first (exchange.identified freshId) one two := by
  obtain ⟨one, two, answered, passes⟩ := follows.dispatch (exchange.identified freshId) log
  have begun : (exchange.noted scribe.put log).identified freshId =
      (exchange.identified freshId).noted scribe.put log := rfl
  refine ⟨one, two, ?_, passes⟩
  simp only [service_eq, begun, answered, completed, encode, follows.codecs, follows.settings]
  rfl

end Engine

end StreamHttp
