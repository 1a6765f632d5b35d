import StreamHttp.Proofs.Exchange.Agreement
import StreamHttp.Proofs.Exchange.Onion
import StreamHttp.Proofs.Routing.Selection

/-!
What does not look at the method of a request. Where filters, handlers and binders do not, and the
filters of a path are those of GET and of HEAD alike, an engine without routes for HEAD does for a
HEAD request what it does for GET: the same filters and handlers run, and the response is the same.
-/

namespace StreamHttp

variable {σ ω ρ τ α β : Type}

def Head.withMethod (method : Method) (head : Head) : Head := { head with method }

def Request.withMethod (method : Method) (request : Request) : Request :=
  { request with head := request.head.withMethod method }

def Invocation.withMethod (method : Method) (invocation : Invocation σ) : Invocation σ :=
  { invocation with head := invocation.head.withMethod method }

def Exchange.withMethod (method : Method) (exchange : Exchange σ) : Exchange σ :=
  { exchange with request := exchange.request.withMethod method }

namespace Program

/-- A program that does not see a change of its workspace: it does the same, and the change
remains. -/
def Blind (change : ω → ω) (program : Program ω ρ) : Prop :=
  ∀ workspace streams, program.run (change workspace) streams =
    let (result, workspace, streams) := program.run workspace streams
    (result, change workspace, streams)

variable {change : ω → ω}

theorem blind_done (result : ρ) : (done result : Program ω ρ).Blind change := fun _ _ => rfl

theorem blind_bind {program : Program ω ρ} {continuation : ρ → Program ω τ}
    (first : program.Blind change) (rest : ∀ result, (continuation result).Blind change) :
    (program.bind continuation).Blind change := by
  intro workspace streams
  simp only [run_bind, first workspace streams]
  exact rest _ _ _

end Program

namespace Binding

def Blind (binding : Binding α) : Prop :=
  ∀ method, (ExceptT.run binding).Blind (Request.withMethod method)

theorem blind_pure (value : α) : Blind (pure value : Binding α) := fun _ _ _ => rfl

theorem blind_result (result : Except BindingError α) : Blind (ofResult result) := fun _ _ _ => rfl

theorem blind_body_result (result : Except BodyError α) : Blind (ofBodyResult result) :=
  fun _ _ _ => rfl

theorem blind_bind {binding : Binding α} {next : α → Binding β} (first : Blind binding)
    (rest : ∀ value, Blind (next value)) : Blind (binding >>= next) := by
  refine fun method => Program.blind_bind (first method) ?_
  intro result
  cases result with
  | error error => exact Program.blind_done _
  | ok value => exact rest value method

theorem blind_request {next : Request → Binding α}
    (same : ∀ method request, next (request.withMethod method) = next request)
    (rest : ∀ asked, Blind (next asked)) : Blind (request >>= next) := by
  intro method asked streams
  have begun (asked : Request) : (ExceptT.run (request >>= next)).run asked streams =
      (ExceptT.run (next asked)).run asked streams := rfl
  rw [begun, begun, same method asked]
  exact rest asked method asked streams

theorem blind_alter {change : Request → Request}
    (same : ∀ method request,
      change (request.withMethod method) = (change request).withMethod method) :
    Blind (alter change) := by
  intro method asked streams
  have altered (asked : Request) : (ExceptT.run (alter change)).run asked streams =
      (.ok (), change asked, streams) := rfl
  rw [altered, altered, same]

theorem blind_buffer (limit : Nat) : Blind (buffer limit) := by
  refine blind_request (fun _ _ => rfl) fun asked => blind_bind (fun _ _ _ => rfl) ?_
  intro answer
  exact blind_bind (blind_alter fun _ _ => rfl) fun _ => blind_body_result _

theorem blind_take_body : Blind takeBody := by
  refine blind_request (fun _ _ => rfl) fun asked => ?_
  exact blind_bind (blind_alter fun _ _ => rfl) fun _ => blind_body_result _

theorem blind_decoded_body (codecs : Codecs) (limit : Nat) : Blind (decodedBody codecs limit) := by
  refine blind_request (fun _ _ => rfl) fun asked => ?_
  simp only
  split
  · exact blind_pure _
  · apply blind_bind (blind_buffer limit)
    intro bytes
    split
    · exact blind_pure _
    · apply blind_bind (blind_result _)
      intro value
      exact blind_bind (blind_alter fun _ _ => rfl) fun _ => blind_pure _

theorem blind_lookup (codecs : Codecs) (limit : Nat) (param : Param) :
    Blind (lookup codecs limit param) := by
  refine blind_request (fun _ _ => rfl) fun asked => ?_
  simp only
  split
  · exact blind_pure _
  · split
    · exact blind_pure _
    · exact blind_pure _
    · exact blind_pure _
  · exact blind_pure _
  · exact blind_pure _
  · exact blind_bind (blind_decoded_body codecs limit) fun _ => blind_pure _
  · exact blind_bind (blind_buffer limit) fun _ => blind_pure _
  · exact blind_bind blind_take_body fun _ => blind_pure _
  · exact blind_bind (blind_decoded_body codecs limit) fun _ => blind_pure _

theorem blind_bind_param (codecs : Codecs) (limit : Nat) (arguments : Arguments) (param : Param) :
    Blind (bindParam codecs limit arguments param) := by
  unfold bindParam
  split
  · exact blind_bind (blind_result _) fun _ => blind_pure _
  · exact blind_pure _
  · apply blind_bind (blind_lookup codecs limit param)
    intro found
    split
    · exact blind_pure _
    · exact blind_bind (blind_result _) fun _ => blind_pure _

theorem blind_request_binder (codecs : Codecs) (limit : Nat) (spec : RouteSpec)
    (arguments : Arguments) : Blind (Satisfier.requestBinder codecs limit spec arguments) := by
  unfold Satisfier.requestBinder
  generalize spec.params = params
  induction params generalizing arguments with
  | nil => exact blind_pure _
  | cons param rest induction =>
      rw [List.foldlM_cons]
      exact blind_bind (blind_bind_param codecs limit arguments param) induction

end Binding

abbrev Exchange.bodiless (exchange : Exchange σ) : Exchange σ := exchange.withMethod "HEAD"

namespace Exchange

/-- What does for a HEAD request what it does for one with the given head. -/
def Alike (head : Head) (step : Exchange σ → α × Exchange σ) : Prop :=
  ∀ exchange, exchange.head = head →
    step exchange.bodiless = ((step exchange).1, (step exchange).2.bodiless) ∧
      (step exchange).2.head = head

theorem alike_perform (head : Head) (program : Program (Passage σ) ρ) :
    Alike head fun exchange => exchange.perform program :=
  fun _ named => ⟨rfl, named⟩

end Exchange

namespace Filter

def Blind (filter : Filter σ) : Prop :=
  ∀ method head ahead, filter.apply (head.withMethod method) ahead = filter.apply head ahead

theorem chain_alike {head : Head} {guarded : Exchange σ → Reply × Exchange σ}
    (alike : Exchange.Alike head guarded) (filters : List (Filter σ))
    (blind : ∀ filter ∈ filters, filter.Blind) : Exchange.Alike head (chain guarded filters) := by
  induction filters with
  | nil => exact alike
  | cons filter ahead induction =>
      have rest := induction fun other member => blind other (List.mem_cons_of_mem _ member)
      intro exchange named
      obtain ⟨applied, kept⟩ := Exchange.alike_perform head
        (filter.apply exchange.head ahead.length) exchange named
      have unseen : filter.apply exchange.bodiless.head ahead.length =
          filter.apply exchange.head ahead.length :=
        blind filter List.mem_cons_self "HEAD" exchange.head ahead.length
      simp only [chain, unseen, applied]
      simp only at kept
      generalize exchange.perform (filter.apply exchange.head ahead.length) = step at kept ⊢
      obtain ⟨verdict, next⟩ := step
      cases verdict with
      | answer reply => exact ⟨rfl, kept⟩
      | proceed resume =>
          obtain ⟨passed, kept⟩ := rest next kept
          simp only [passed]
          exact Exchange.alike_perform head _ _ kept

end Filter

def Handler.Blind (handler : Handler σ) : Prop :=
  ∀ method, handler.run.Blind (Invocation.withMethod method)

namespace Attempt

def AlikeFor (head : Head) (attempt : Attempt σ α) : Prop :=
  Exchange.Alike head fun exchange => attempt.run exchange

variable {head : Head}

theorem alike_pure (value : α) : AlikeFor head (pure value : Attempt σ α) :=
  fun _ named => ⟨rfl, named⟩

theorem alike_throw (error : DispatchError) : AlikeFor head (throw error : Attempt σ α) :=
  fun _ named => ⟨rfl, named⟩

theorem alike_reply (reply : Except DispatchError α) :
    AlikeFor head (ofReply reply : Attempt σ α) :=
  fun _ named => ⟨rfl, named⟩

theorem alike_update (change : Attributes → Attributes) :
    AlikeFor head
      (modify fun exchange => exchange.updateAttributes change : Attempt σ Unit) :=
  fun _ named => ⟨rfl, named⟩

theorem alike_bind_reached {attempt : Attempt σ α} {next : α → Attempt σ β}
    (first : AlikeFor head attempt)
    (rest : ∀ value, (∃ exchange, (attempt.run exchange).1 = .ok value) →
      AlikeFor head (next value)) : AlikeFor head (attempt >>= next) := by
  intro exchange named
  obtain ⟨same, kept⟩ := first exchange named
  simp only [run_bind, same]
  rcases reached : attempt.run exchange with ⟨result, between⟩
  simp only [reached] at kept
  cases result with
  | error error => exact ⟨rfl, kept⟩
  | ok value => exact rest value ⟨exchange, by rw [reached]⟩ between kept

theorem alike_bind {attempt : Attempt σ α} {next : α → Attempt σ β}
    (first : AlikeFor head attempt) (rest : ∀ value, AlikeFor head (next value)) :
    AlikeFor head (attempt >>= next) :=
  alike_bind_reached first fun value _ => rest value

/-- An attempt may look at a request with the given head where HEAD would make no difference. -/
theorem alike_request {next : Request → Attempt σ α}
    (same : ∀ request, request.head = head → next (request.withMethod "HEAD") = next request)
    (rest : ∀ asked, asked.head = head → AlikeFor head (next asked)) :
    AlikeFor head (request >>= next) := by
  intro exchange named
  have begun (exchange : Exchange σ) : (request >>= next).run exchange =
      (next exchange.request).run exchange := rfl
  have unseen : next exchange.bodiless.request = next exchange.request :=
    same exchange.request named
  simp only [begun, unseen]
  exact rest exchange.request named exchange named

theorem alike_binding {binding : Binding α} (blind : binding.Blind) :
    AlikeFor head (tryBinding binding : Attempt σ (Except BindingError α)) := by
  intro exchange named
  have unfolded (exchange : Exchange σ) : (tryBinding binding).run exchange =
      (.ok (binding.run exchange.toIntake).1,
        { exchange with toIntake := (binding.run exchange.toIntake).2 }) := rfl
  have run := blind "HEAD" exchange.request exchange.streams
  refine ⟨?_, named⟩
  have begun : exchange.bodiless.toIntake.request = exchange.request.withMethod "HEAD" := rfl
  have streams : exchange.bodiless.toIntake.streams = exchange.streams := rfl
  simp only [unfolded, Binding.run, begun, streams, run]
  rfl

theorem alike_call {handler : Handler σ} (blind : handler.Blind) (arguments : Arguments)
    (error : Option DispatchError) (ambient : Response) :
    AlikeFor head (call handler arguments error ambient) := by
  intro exchange named
  have run := blind "HEAD" (exchange.invocation arguments error ambient) exchange.streams
  have begun : exchange.bodiless.invocation arguments error ambient =
      (exchange.invocation arguments error ambient).withMethod "HEAD" := rfl
  have streams : exchange.bodiless.streams = exchange.streams := rfl
  refine ⟨?_, named⟩
  simp only [run_call, begun, streams, run]
  rfl

end Attempt

def ExceptionHandler.Blind (handler : ExceptionHandler) : Prop :=
  ∀ method cause head, handler.respond cause (head.withMethod method) = handler.respond cause head

namespace Engine

/-- An engine of which nothing that belongs to the application looks at the method of a request. -/
structure Blind (engine : Engine σ) : Prop where
  satisfier : ∀ spec arguments, (engine.satisfier spec arguments).Blind
  routes : ∀ route ∈ engine.table.routes, route.handler.Blind
  statusRoutes : ∀ entry ∈ engine.table.statusRoutes, entry.2.handler.Blind
  errorRoutes : ∀ entry ∈ engine.table.errorRoutes, entry.2.handler.Blind
  exceptionHandlers : ∀ handler ∈ engine.exceptionHandlers, handler.Blind
  filters : ∀ entry ∈ engine.table.filters, entry.2.Blind

/-- A GET request that an engine serves alike when it is asked for HEAD: a route is there for it,
none of the routes is for HEAD, and the filters of its path are those of HEAD and of GET alike. -/
structure Fetches (engine : Engine σ) (head : Head) : Prop where
  get : head.method = "GET"
  found : ∃ candidates, engine.table.find "GET" head.path = .found candidates
  headless : ∀ route ∈ engine.table.routes, route.spec.method ≠ some "HEAD"
  unscoped : ∀ entry ∈ engine.table.filters,
    entry.1.admits "HEAD" head.path = entry.1.admits "GET" head.path

end Engine

namespace RouteTable

variable {table : RouteTable σ}

/-- Without routes for HEAD, it is answered by those for GET. -/
theorem find_head (headless : ∀ route ∈ table.routes, route.spec.method ≠ some "HEAD")
    {path : String} {candidates : List (RouteMatch σ)}
    (found : table.find "GET" path = .found candidates) :
    table.find "HEAD" path = .found candidates := by
  have none : selected table.routes "HEAD" path = [] := by
    rw [selected_eq_nil, mem_methods_on]
    rintro ⟨route, listed, answers⟩
    exact headless route listed answers.1
  have fallback :
      selectedOrGet table.routes "HEAD" path = selectedOrGet table.routes "GET" path := by
    have own : ¬(selected table.routes "GET" path = [] ∧ ("GET" : Method) = "HEAD") :=
      fun both => absurd both.2 (by decide)
    rw [selectedOrGet, selectedOrGet, if_pos ⟨none, rfl⟩, if_neg own]
  rw [find_lookup] at found ⊢
  rw [found_iff_selected] at found ⊢
  rwa [fallback]

theorem filters_for_head {path : String}
    (unscoped : ∀ entry ∈ table.filters, entry.1.admits "HEAD" path = entry.1.admits "GET" path) :
    table.filtersFor "HEAD" path = table.filtersFor "GET" path := by
  rw [filtersFor, filtersFor, List.filter_congr unscoped]

end RouteTable

namespace Engine

variable {engine : Engine σ} {head : Head}

theorem alike_resolve (fetches : engine.Fetches head) :
    Attempt.AlikeFor head engine.resolve := by
  obtain ⟨get, ⟨candidates, found⟩, headless, _⟩ := fetches
  refine Attempt.alike_request ?_ ?_
  · rintro request rfl
    have head : engine.table.find "HEAD" request.head.path = .found candidates :=
      RouteTable.find_head headless found
    have unseen : engine.table.find (request.withMethod "HEAD").head.method
        (request.withMethod "HEAD").head.path =
          engine.table.find request.head.method request.head.path := by
      rw [get, found]
      exact head
    simp only [unseen, get, found]
    rcases candidates with _ | ⟨only, _ | ⟨_, _⟩⟩
    · rfl
    · rfl
    · rfl
  · rintro request rfl
    simp only [get, found]
    split
    · exact Attempt.alike_throw _
    · exact Attempt.alike_throw _
    · exact Attempt.alike_throw _
    · exact Attempt.alike_bind (Attempt.alike_update _) fun _ => Attempt.alike_pure _
    · exact Attempt.alike_throw _

/-- Neither GET nor HEAD has a body that arguments could come from. -/
theorem alike_bind_from_body (get : head.method = "GET") (spec : RouteSpec)
    (arguments : Arguments) : Attempt.AlikeFor head (engine.bindFromBody spec arguments) := by
  have permits : Method.permitsBody "GET" = false := by decide +kernel
  have permitsToo : Method.permitsBody "HEAD" = false := by decide +kernel
  have none (request : Request) (bodiless : request.head.method.permitsBody = false) :
      mayHoldArguments spec arguments request = false := by
    simp only [mayHoldArguments, Head.permitsBody, bodiless, Bool.and_false, Bool.false_and]
  refine Attempt.alike_request ?_ ?_
  · rintro request rfl
    rw [none request (get ▸ permits), none (request.withMethod "HEAD") permitsToo]
  · rintro request rfl
    rw [none request (get ▸ permits)]
    exact Attempt.alike_pure _

theorem alike_invoke (blind : engine.Blind) (get : head.method = "GET") {chosen : RouteMatch σ}
    (handler : chosen.route.handler.Blind) (error : Option DispatchError) (ambient : Response) :
    Attempt.AlikeFor head (engine.invoke chosen error ambient) := by
  have satisfied (arguments : Arguments) : Attempt.AlikeFor head
      (Attempt.ofBinding (engine.satisfier chosen.route.spec arguments) : Attempt σ Arguments) :=
    Attempt.alike_bind (Attempt.alike_binding (blind.satisfier _ _)) fun _ => Attempt.alike_reply _
  apply Attempt.alike_bind (satisfied _)
  intro arguments
  apply Attempt.alike_bind (alike_bind_from_body get _ _)
  intro arguments
  split
  · exact Attempt.alike_throw _
  · apply Attempt.alike_bind (Attempt.alike_call handler _ _ _)
    intro answer
    exact Attempt.alike_bind (Attempt.alike_reply _) fun _ => Attempt.alike_pure _

variable (blind : engine.Blind) (fetches : engine.Fetches head)
include blind fetches

theorem alike_terminal : Attempt.AlikeFor head engine.routeTerminal := by
  apply Attempt.alike_bind_reached (alike_resolve fetches)
  rintro chosen ⟨exchange, resolved⟩
  exact alike_invoke blind fetches.get (blind.routes _ (resolve_registered resolved)) none {}

theorem filters_alike :
    engine.table.filtersFor (head.withMethod "HEAD").method (head.withMethod "HEAD").path =
        engine.table.filtersFor head.method head.path ∧
      ∀ filter ∈ engine.table.filtersFor head.method head.path, filter.Blind := by
  constructor
  · rw [fetches.get]
    exact RouteTable.filters_for_head fetches.unscoped
  · intro filter member
    obtain ⟨entry, registered, rfl⟩ := RouteTable.mem_filters_for member
    exact blind.filters entry registered

theorem alike_first_pass : Exchange.Alike head engine.firstPass := by
  rintro exchange rfl
  obtain ⟨same, unseeing⟩ := filters_alike blind fetches
  have passed := Filter.chain_alike (alike_terminal blind fetches) _ unseeing exchange rfl
  have filters : engine.table.filtersFor exchange.bodiless.head.method exchange.bodiless.head.path =
      engine.table.filtersFor exchange.head.method exchange.head.path := same
  simp only [firstPass, filters]
  exact passed

theorem alike_second_pass {next : Redispatch σ} (handler : next.route.handler.Blind) :
    Exchange.Alike head (engine.secondPass next) := by
  rintro exchange rfl
  obtain ⟨same, unseeing⟩ := filters_alike blind fetches
  have unseeing :
      ∀ filter ∈ (engine.table.filtersFor exchange.head.method exchange.head.path).filter
        (fun filter => !filter.oncePerRequest), filter.Blind :=
    fun filter member => unseeing filter (List.mem_filter.1 member).1
  have invoked : Attempt.AlikeFor exchange.head
      (engine.invoke { route := next.route } next.error (Response.ofStatus next.status)) :=
    alike_invoke blind fetches.get handler _ _
  have passed := Filter.chain_alike invoked _ unseeing exchange rfl
  have filters : engine.table.filtersFor exchange.bodiless.head.method exchange.bodiless.head.path =
      engine.table.filtersFor exchange.head.method exchange.head.path := same
  simp only [secondPass, filters]
  exact passed

omit fetches in
theorem redispatch_alike (passed : Reply × Exchange σ) :
    engine.redispatch? (passed.1, passed.2.bodiless) = engine.redispatch? passed ∧
      ∀ next, engine.redispatch? passed = some next → next.route.handler.Blind := by
  refine ⟨rfl, ?_⟩
  intro next again
  rcases redispatch_registered again with ⟨entry, registered, chosen⟩ | ⟨entry, registered, chosen⟩
  · exact chosen ▸ blind.statusRoutes entry registered
  · exact chosen ▸ blind.errorRoutes entry registered

omit fetches in
theorem direct_answer_alike (passed : Reply × Exchange σ) :
    engine.directAnswer (passed.1, passed.2.bodiless) = engine.directAnswer passed := by
  rcases passed with ⟨error | response, exchange⟩
  · have handled (cause : Cause) :
        ExceptionHandler.handle engine.exceptionHandlers cause exchange.bodiless.head =
          ExceptionHandler.handle engine.exceptionHandlers cause exchange.head := by
      unfold ExceptionHandler.handle
      congr 1
      funext link
      cases chosen : engine.exceptionHandlers.reverse.find? fun handler => link.isOf handler.kind with
      | none => rfl
      | some handler =>
          have registered := List.mem_reverse.1 (List.mem_of_find?_eq_some chosen)
          exact congrArg some (blind.exceptionHandlers handler registered "HEAD" link exchange.head)
    simp only [directAnswer, defaultResponse, handled]
  · rfl

theorem alike_dispatch : Exchange.Alike head engine.dispatch := by
  rintro exchange rfl
  obtain ⟨first, kept⟩ := alike_first_pass blind fetches exchange rfl
  obtain ⟨calls, unseeing⟩ := redispatch_alike blind (engine.firstPass exchange)
  rw [dispatch_eq, dispatch_eq, first]
  simp only [calls, direct_answer_alike blind]
  cases again : engine.redispatch? (engine.firstPass exchange) with
  | none => exact ⟨rfl, kept⟩
  | some next =>
      have begun : next.begun (engine.firstPass exchange).2.bodiless =
          (next.begun (engine.firstPass exchange).2).bodiless := by
        unfold Redispatch.begun
        split
        · rfl
        · rfl
      have named := (next.head_begun (engine.firstPass exchange).2).trans kept
      obtain ⟨second, kept⟩ := alike_second_pass blind fetches (unseeing next again) _ named
      simp only [begun, second]
      exact ⟨trivial, kept⟩

theorem alike_service (freshId : String) : Exchange.Alike head (engine.service freshId) := by
  rintro exchange rfl
  have identified : exchange.bodiless.identified freshId = (exchange.identified freshId).bodiless :=
    rfl
  obtain ⟨answered, kept⟩ := alike_dispatch blind fetches (exchange.identified freshId) rfl
  simp only [service_eq, identified, answered]
  exact ⟨rfl, kept⟩

end Engine

theorem Handler.Blind.recorded {handler : Handler σ} (blind : handler.Blind) (mark : Mark) :
    (handler.recorded mark).Blind := by
  intro method invocation streams
  have unmarked : Invocation.unmarked.get (Invocation.note mark (invocation.withMethod method)) =
      (Invocation.unmarked.get (Invocation.note mark invocation)).withMethod method := rfl
  simp only [Handler.recorded, ExceptT.run_mk, Program.run, Program.run_within, unmarked,
    blind method _ streams]
  rfl

theorem Filter.Blind.recorded {filter : Filter σ} (blind : filter.Blind) (number : Nat) :
    (filter.recorded number).Blind := by
  intro method head ahead
  simp only [Filter.recorded, blind method head ahead]

namespace Engine

variable {engine : Engine σ}

theorem Blind.recorded (blind : engine.Blind) : engine.recorded.Blind where
  satisfier := blind.satisfier
  routes := by
    intro _ listed
    obtain ⟨route, registered, rfl⟩ := List.mem_map.1 listed
    exact (blind.routes route registered).recorded _
  statusRoutes := by
    intro _ listed
    obtain ⟨entry, registered, rfl⟩ := List.mem_map.1 listed
    exact (blind.statusRoutes entry registered).recorded _
  errorRoutes := by
    intro _ listed
    obtain ⟨entry, registered, rfl⟩ := List.mem_map.1 listed
    exact (blind.errorRoutes entry registered).recorded _
  exceptionHandlers := blind.exceptionHandlers
  filters := by
    intro _ listed
    obtain ⟨⟨entry, number⟩, numbered, rfl⟩ := List.mem_map.1 listed
    exact (blind.filters entry (List.fst_mem_of_mem_zipIdx numbered)).recorded number

theorem Fetches.recorded {head : Head} (fetches : engine.Fetches head) :
    engine.recorded.Fetches head where
  get := fetches.get
  found := by
    obtain ⟨candidates, found⟩ := fetches.found
    have pair : RouteLookup.Corresponds _ (engine.table.find "GET" head.path)
        (engine.recorded.table.find "GET" head.path) :=
      RouteTable.find_corresponds engine.table.recorded_corresponds "GET" head.path
    rw [found] at pair
    generalize engine.recorded.table.find "GET" head.path = other at pair ⊢
    cases pair with
    | found _ => exact ⟨_, rfl⟩
  headless := by
    intro _ listed
    obtain ⟨route, registered, rfl⟩ := List.mem_map.1 listed
    exact fetches.headless route registered
  unscoped := by
    intro _ listed
    obtain ⟨⟨entry, number⟩, numbered, rfl⟩ := List.mem_map.1 listed
    exact fetches.unscoped entry (List.fst_mem_of_mem_zipIdx numbered)

end Engine

end StreamHttp
