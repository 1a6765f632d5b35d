import StreamHttp.Exchange.Engine
import StreamHttp.Proofs.Exchange.Uses
import StreamHttp.Proofs.Routing.Table
import StreamHttp.Proofs.Stream.Alike

/-!
An engine on two exchanges that differ only in their shared streams. Filters, handlers and binders
see the streams through bodies and readers alone. So where the streams are related, and the relation
is one that the uses of readers respect, both exchanges get the same response and end with related
streams again.
-/

namespace StreamHttp

section

variable {habits : Habits} {related : Streams → Streams → Prop} {first second : Streams}

namespace Body

variable (respected : Streams.Respected habits related) (pair : related first second)

include respected pair

theorem buffer_agrees {limit : Nat} (allowed : habits.limits limit) (body : Body) :
    (body.buffer limit first).1 = (body.buffer limit second).1 ∧
      (body.buffer limit first).2.1 = (body.buffer limit second).2.1 ∧
      related (body.buffer limit first).2.2 (body.buffer limit second).2.2 := by
  rcases body with ⟨reader | bytes | _, expected⟩
  · simp only [buffer]
    split
    · exact ⟨rfl, rfl, pair⟩
    · cases faulty : fault? limit ⟨.unclaimed reader, expected⟩ with
      | some fault => exact ⟨rfl, rfl, respected.fail allowed faulty pair⟩
      | none =>
          have read := respected.readUpTo pair (limit + 1) reader
          rcases before : reader.readUpTo (limit + 1) first with ⟨result, next, left⟩
          rcases after : reader.readUpTo (limit + 1) second with ⟨other, later, right⟩
          rw [before, after] at read
          simp only at read
          obtain ⟨rfl, rfl, read⟩ := read
          cases result with
          | error message => exact ⟨rfl, rfl, read⟩
          | ok bytes =>
              simp only
              split
              · exact ⟨rfl, rfl, read⟩
              · exact ⟨rfl, rfl, read⟩
  · exact ⟨rfl, rfl, pair⟩
  · simp only [buffer]
    split
    · exact ⟨rfl, rfl, pair⟩
    · exact ⟨rfl, rfl, pair⟩

theorem split_agrees (body : Body) :
    (body.split first).1 = (body.split second).1 ∧
      (body.split first).2.1 = (body.split second).2.1 ∧
      related (body.split first).2.2 (body.split second).2.2 := by
  rcases body with ⟨reader | bytes | _, expected⟩
  · have halves := respected.split pair reader
    simp only [split, claimStream, halves.1, halves.2.1]
    exact ⟨trivial, trivial, halves.2.2⟩
  · exact ⟨rfl, rfl, pair⟩
  · exact ⟨rfl, rfl, pair⟩

theorem release_agrees (body : Body) :
    (body.release first).1 = (body.release second).1 ∧
      (body.release first).2.1 = (body.release second).2.1 ∧
      related (body.release first).2.2 (body.release second).2.2 := by
  rcases body with ⟨reader | bytes | _, expected⟩
  · have read := respected.readToEnd pair reader
    simp only [release, read.1]
    exact ⟨trivial, trivial, read.2⟩
  · exact ⟨rfl, rfl, pair⟩
  · exact ⟨rfl, rfl, pair⟩

end Body

namespace Program

variable {ω ρ : Type}

theorem run_agrees (respected : Streams.Respected habits related) {post : ρ → Prop}
    (program : Program ω ρ) (uses : program.Obeys habits post) (workspace : ω)
    (pair : related first second) :
    (program.run workspace first).1 = (program.run workspace second).1 ∧
      (program.run workspace first).2.1 = (program.run workspace second).2.1 ∧
      related (program.run workspace first).2.2 (program.run workspace second).2.2 ∧
      post (program.run workspace first).1 := by
  induction program generalizing workspace first second with
  | done result => exact ⟨rfl, rfl, pair, uses⟩
  | look next induction => exact induction workspace (uses workspace) workspace pair
  | change step rest induction => exact induction uses (step workspace) pair
  | later rest induction => exact induction uses workspace pair
  | buffer limit body next induction =>
      have buffered := Body.buffer_agrees respected pair uses.1 body
      simp only [run, buffered.1, buffered.2.1]
      exact induction _ _ (uses.2 _ _) workspace buffered.2.2
  | read allowance reader next induction =>
      have read := respected.readUpTo pair allowance reader
      simp only [run, read.1, read.2.1]
      exact induction _ _ (uses _ _) workspace read.2.2
  | receive count reader next induction =>
      have read := respected.read uses.1 pair count reader
      simp only [run, read.1, read.2.1]
      exact induction _ _ (uses.2 _ _) workspace read.2.2
  | drop reader rest induction => exact induction uses workspace (respected.drop pair reader)
  | split body next induction =>
      have halves := Body.split_agrees respected pair body
      simp only [run, halves.1, halves.2.1]
      exact induction _ _ (uses _ _) workspace halves.2.2
  | release body next induction =>
      have released := Body.release_agrees respected pair body
      simp only [run, released.1, released.2.1]
      exact induction _ _ (uses _ _) workspace released.2.2

end Program

end

namespace Exchange

variable {σ : Type}

structure Paired (related : Streams → Streams → Prop) (first second : Exchange σ) : Prop where
  request : first.request = second.request
  shutdown : first.shutdown = second.shutdown
  app : first.app = second.app
  streams : related first.streams second.streams

/-- What gives the same for paired exchanges and leaves them paired. -/
def Agrees {α : Type} (related : Streams → Streams → Prop)
    (step : Exchange σ → α × Exchange σ) : Prop :=
  ∀ first second, Paired related first second →
    (step first).1 = (step second).1 ∧ Paired related (step first).2 (step second).2

variable {α ρ : Type} {habits : Habits} {related : Streams → Streams → Prop}

theorem perform_agrees (respected : Streams.Respected habits related) {post : ρ → Prop}
    {first second : Exchange σ} (pair : Paired related first second)
    {program : Program (Passage σ) ρ} (uses : program.Obeys habits post) :
    (first.perform program).1 = (second.perform program).1 ∧
      Paired related (first.perform program).2 (second.perform program).2 ∧
      post (first.perform program).1 := by
  have passage : first.passage = second.passage := by
    simp only [Exchange.passage, pair.request, pair.app]
  have run := program.run_agrees respected uses second.passage pair.streams
  simp only [perform, passage, run.1, run.2.1]
  exact ⟨trivial, ⟨by simp only [pair.request], pair.shutdown, rfl, run.2.2.1⟩,
    run.1 ▸ run.2.2.2⟩

theorem Paired.update {first second : Exchange σ} (pair : Paired related first second)
    (change : Attributes → Attributes) :
    Paired related (first.updateAttributes change) (second.updateAttributes change) :=
  ⟨by simp only [updateAttributes, pair.request], pair.shutdown, pair.app, pair.streams⟩

theorem Paired.head {first second : Exchange σ} (pair : Paired related first second) :
    first.head = second.head := congrArg Request.head pair.request

theorem Paired.finish (respected : Streams.Respected habits related) {first second : Exchange σ}
    (pair : Paired related first second) : Paired related first.finish second.finish := by
  have released := Body.release_agrees respected pair.streams second.request.body
  simp only [Exchange.finish, Intake.release, pair.request]
  exact ⟨by simp only [released.2.1], pair.shutdown, pair.app, released.2.2⟩

end Exchange

namespace Filter

variable {σ : Type} {habits : Habits} {related : Streams → Streams → Prop}

def Obeys (habits : Habits) (filter : Filter σ) : Prop :=
  ∀ head ahead, (filter.apply head ahead).Obeys habits fun verdict =>
    match verdict with
    | .answer _ => True
    | .proceed resume => ∀ reply, (resume reply).Obeys habits fun _ => True

theorem chain_agrees (respected : Streams.Respected habits related)
    {guarded : Exchange σ → Reply × Exchange σ} (agrees : Exchange.Agrees related guarded)
    (filters : List (Filter σ)) (uses : ∀ filter ∈ filters, filter.Obeys habits) :
    Exchange.Agrees related (chain guarded filters) := by
  induction filters with
  | nil => exact agrees
  | cons filter ahead induction =>
      intro first second pair
      have applied := Exchange.perform_agrees respected pair
        (uses filter List.mem_cons_self second.head ahead.length)
      simp only [chain, pair.head]
      rcases before : first.perform (filter.apply second.head ahead.length) with ⟨verdict, next⟩
      rcases after : second.perform (filter.apply second.head ahead.length) with ⟨other, later⟩
      rw [before, after] at applied
      simp only at applied
      obtain ⟨rfl, applied, resumes⟩ := applied
      cases verdict with
      | answer reply => exact ⟨rfl, applied⟩
      | proceed resume =>
          have rest := induction (fun other member => uses other (List.mem_cons_of_mem _ member))
            next later applied
          simp only
          rw [rest.1]
          have resumed := Exchange.perform_agrees respected rest.2
            (resumes (chain guarded ahead later).1)
          exact ⟨resumed.1, resumed.2.1⟩

end Filter

namespace Attempt

variable {σ α β : Type} {habits : Habits} {related : Streams → Streams → Prop}

def Agrees (related : Streams → Streams → Prop) (attempt : Attempt σ α) : Prop :=
  Exchange.Agrees related fun exchange => attempt.run exchange

theorem agrees_pure (value : α) : Agrees related (pure value : Attempt σ α) :=
  fun _ _ pair => ⟨rfl, pair⟩

theorem agrees_throw (error : DispatchError) : Agrees related (throw error : Attempt σ α) :=
  fun _ _ pair => ⟨rfl, pair⟩

theorem agrees_reply (reply : Except DispatchError α) :
    Agrees related (ofReply reply : Attempt σ α) :=
  fun _ _ pair => ⟨rfl, pair⟩

theorem agrees_update (change : Attributes → Attributes) :
    Agrees related (modify fun exchange => exchange.updateAttributes change : Attempt σ Unit) :=
  fun _ _ pair => ⟨rfl, pair.update change⟩

theorem agrees_request : Agrees related (request : Attempt σ Request) :=
  fun _ _ pair => ⟨congrArg Except.ok pair.request, pair⟩

theorem run_bind (attempt : Attempt σ α) (next : α → Attempt σ β) (exchange : Exchange σ) :
    (attempt >>= next).run exchange =
      match attempt.run exchange with
      | (.ok value, exchange) => (next value).run exchange
      | (.error error, exchange) => (.error error, exchange) := by
  change (ExceptT.bindCont next (attempt.run exchange).1).run (attempt.run exchange).2 = _
  rcases attempt.run exchange with ⟨_ | _, _⟩ <;> rfl

theorem agrees_bind_reached {attempt : Attempt σ α} {next : α → Attempt σ β}
    (first : Agrees related attempt)
    (rest : ∀ value, (∃ exchange, (attempt.run exchange).1 = .ok value) →
      Agrees related (next value)) : Agrees related (attempt >>= next) := by
  intro before after pair
  have step := first before after pair
  simp only [run_bind]
  rcases left : attempt.run before with ⟨result, between⟩
  rcases right : attempt.run after with ⟨other, behind⟩
  simp only [left, right] at step
  obtain ⟨rfl, step⟩ := step
  cases result with
  | error error => exact ⟨rfl, step⟩
  | ok value => exact rest value ⟨before, by rw [left]⟩ between behind step

theorem agrees_bind {attempt : Attempt σ α} {next : α → Attempt σ β}
    (first : Agrees related attempt) (rest : ∀ value, Agrees related (next value)) :
    Agrees related (attempt >>= next) :=
  agrees_bind_reached first fun value _ => rest value

theorem agrees_binding (respected : Streams.Respected habits related) {binding : Binding α}
    (uses : (ExceptT.run binding).Obeys habits fun _ => True) :
    Agrees related (tryBinding binding : Attempt σ (Except BindingError α)) := by
  intro first second pair
  have run := (ExceptT.run binding).run_agrees respected uses second.request pair.streams
  have unfolded (exchange : Exchange σ) : (tryBinding binding).run exchange =
      (.ok (binding.run exchange.toIntake).1,
        { exchange with toIntake := (binding.run exchange.toIntake).2 }) := rfl
  simp only [unfolded, Binding.run, pair.request, run.1, run.2.1]
  exact ⟨trivial, ⟨rfl, pair.shutdown, pair.app, run.2.2.1⟩⟩

theorem agrees_call (respected : Streams.Respected habits related) {handler : Handler σ}
    (uses : handler.run.Obeys habits fun _ => True) (arguments : Arguments)
    (error : Option DispatchError) (ambient : Response) :
    Agrees related (call handler arguments error ambient) := by
  intro first second pair
  have same : first.invocation arguments error ambient =
      second.invocation arguments error ambient := by
    simp only [Exchange.invocation, pair.head, pair.request, pair.shutdown, pair.app]
  have run := handler.run.run_agrees respected uses
    (second.invocation arguments error ambient) pair.streams
  simp only [run_call, same, run.1, run.2.1]
  exact ⟨trivial, ⟨by simp only [Exchange.handled, pair.request], rfl, rfl, run.2.2.1⟩⟩

end Attempt

namespace Engine

variable {σ : Type} {habits : Habits} {related : Streams → Streams → Prop}

/-- All that an engine runs over bodies. -/
structure Obeys (habits : Habits) (engine : Engine σ) : Prop where
  satisfier : ∀ spec arguments,
    (ExceptT.run (engine.satisfier spec arguments)).Obeys habits fun _ => True
  fields : habits.limits engine.settings.maxBufferedBody
  routes : ∀ route ∈ engine.table.routes, route.handler.run.Obeys habits fun _ => True
  statusRoutes : ∀ entry ∈ engine.table.statusRoutes,
    entry.2.handler.run.Obeys habits fun _ => True
  errorRoutes : ∀ entry ∈ engine.table.errorRoutes, entry.2.handler.run.Obeys habits fun _ => True
  filters : ∀ entry ∈ engine.table.filters, entry.2.Obeys habits

abbrev Uses (single : Prop) (engine : Engine σ) : Prop := engine.Obeys ⟨single, fun _ => True⟩

/-- An engine that buffers bodies only under limits that there can be room for. -/
abbrev Modest (engine : Engine σ) : Prop := engine.Obeys .modest

theorem obeys_any (engine : Engine σ) : engine.Obeys .any where
  satisfier _ _ := Program.obeys_any (fun _ => trivial) _
  fields := trivial
  routes _ _ := Program.obeys_any (fun _ => trivial) _
  statusRoutes _ _ := Program.obeys_any (fun _ => trivial) _
  errorRoutes _ _ := Program.obeys_any (fun _ => trivial) _
  filters := by
    intro entry _ head ahead
    refine Program.obeys_any ?_ _
    intro verdict
    cases verdict with
    | answer reply => trivial
    | proceed resume => exact fun reply => Program.obeys_any (fun _ => trivial) _

variable {engine : Engine σ} (respected : Streams.Respected habits related)
  (uses : engine.Obeys habits)

theorem agrees_resolve (engine : Engine σ) : Attempt.Agrees related engine.resolve := by
  apply Attempt.agrees_bind Attempt.agrees_request
  intro request
  simp only
  split
  · exact Attempt.agrees_throw _
  · exact Attempt.agrees_throw _
  · exact Attempt.agrees_throw _
  · exact Attempt.agrees_bind (Attempt.agrees_update _) fun _ => Attempt.agrees_pure _
  · exact Attempt.agrees_throw _

theorem resolve_registered {exchange : Exchange σ} {chosen : RouteMatch σ}
    (resolved : (engine.resolve.run exchange).1 = .ok chosen) :
    chosen.route ∈ engine.table.routes := by
  have begun : (Attempt.request : Attempt σ Request).run exchange =
      (.ok exchange.request, exchange) := rfl
  unfold resolve at resolved
  simp only [Attempt.run_bind, begun] at resolved
  split at resolved
  · cases resolved
  · cases resolved
  · cases resolved
  next only found =>
    cases resolved
    exact RouteTable.mem_find found List.mem_cons_self
  · cases resolved

include respected uses in
theorem agrees_bind_from_body (spec : RouteSpec) (arguments : Arguments) :
    Attempt.Agrees related (engine.bindFromBody spec arguments) := by
  apply Attempt.agrees_bind Attempt.agrees_request
  intro request
  split
  · exact Attempt.agrees_pure _
  · apply Attempt.agrees_bind (Attempt.agrees_binding respected (Binding.obeys_decoded_body uses.fields _))
    intro bound
    split
    · exact Attempt.agrees_pure _
    · exact Attempt.agrees_pure _

include respected uses

theorem agrees_invoke (chosen : RouteMatch σ)
    (handler : chosen.route.handler.run.Obeys habits fun _ => True)
    (error : Option DispatchError) (ambient : Response) :
    Attempt.Agrees related (engine.invoke chosen error ambient) := by
  have satisfied (arguments : Arguments) : Attempt.Agrees related
      (Attempt.ofBinding (engine.satisfier chosen.route.spec arguments) : Attempt σ Arguments) :=
    Attempt.agrees_bind (Attempt.agrees_binding respected (uses.satisfier _ _))
      fun _ => Attempt.agrees_reply _
  apply Attempt.agrees_bind (satisfied _)
  intro arguments
  apply Attempt.agrees_bind (agrees_bind_from_body respected uses _ _)
  intro arguments
  split
  · exact Attempt.agrees_throw _
  · apply Attempt.agrees_bind (Attempt.agrees_call respected handler _ _ _)
    intro answer
    exact Attempt.agrees_bind (Attempt.agrees_reply _) fun _ => Attempt.agrees_pure _

theorem agrees_terminal : Attempt.Agrees related engine.routeTerminal := by
  apply Attempt.agrees_bind_reached (agrees_resolve engine)
  rintro chosen ⟨exchange, resolved⟩
  exact agrees_invoke respected uses chosen (uses.routes _ (resolve_registered resolved)) none {}

theorem agrees_error_pass {route : Route σ}
    (handler : route.handler.run.Obeys habits fun _ => True) (status : Status)
    (error : Option DispatchError) :
    Exchange.Agrees related (engine.errorPass route status error) := by
  intro first second pair
  have listed : ∀ filter ∈ (engine.table.filtersFor second.head.method second.head.path).filter
      (fun filter => !filter.oncePerRequest), filter.Obeys habits := by
    intro filter member
    obtain ⟨entry, registered, rfl⟩ := RouteTable.mem_filters_for (List.mem_filter.1 member).1
    exact uses.filters entry registered
  have passed := Filter.chain_agrees respected
    (agrees_invoke respected uses { route } handler error (Response.ofStatus status))
    _ listed first second pair
  unfold errorPass
  rw [pair.head]
  simp only
  generalize Filter.chain _ _ first = before at passed
  generalize Filter.chain _ _ second = after at passed
  obtain ⟨reply, next⟩ := before
  obtain ⟨other, later⟩ := after
  simp only at passed
  obtain ⟨rfl, passed⟩ := passed
  cases reply with
  | ok response => exact ⟨rfl, passed⟩
  | error failure => exact ⟨rfl, passed⟩

theorem agrees_handle_error (error : DispatchError) :
    Exchange.Agrees related (engine.handleError error) := by
  intro first second pair
  unfold handleError
  rw [pair.head, pair.request]
  split
  · exact ⟨rfl, pair⟩
  next route found =>
    have handler : route.handler.run.Obeys habits fun _ => True := by
      rcases Option.or_eq_some_iff.1 found with chosen | ⟨_, chosen⟩
      · obtain ⟨entry, registered, rfl⟩ := RouteTable.mem_error_route chosen
        exact uses.errorRoutes entry registered
      · split at chosen
        · obtain ⟨entry, registered, rfl⟩ := RouteTable.mem_status_route chosen
          exact uses.statusRoutes entry registered
        · cases chosen
    have passed := agrees_error_pass respected uses handler error.statusOf (some error) _ _
      (pair.update fun attributes => { attributes with thrownError := some error })
    simp only [passed.1]
    exact ⟨trivial, passed.2⟩

theorem agrees_check_status (response : Response) :
    Exchange.Agrees related (engine.checkStatus response) := by
  intro first second pair
  unfold checkStatus
  rw [pair.request]
  split
  · split
    · exact ⟨rfl, pair⟩
    next route found =>
      obtain ⟨entry, registered, rfl⟩ := RouteTable.mem_status_route found
      exact agrees_error_pass respected uses (uses.statusRoutes entry registered) _ _ _ _ pair
  · exact ⟨rfl, pair⟩

theorem agrees_dispatch : Exchange.Agrees related engine.dispatch := by
  intro first second pair
  have listed : ∀ filter ∈ engine.table.filtersFor second.head.method second.head.path,
      filter.Obeys habits := by
    intro filter member
    obtain ⟨entry, registered, rfl⟩ := RouteTable.mem_filters_for member
    exact uses.filters entry registered
  have passed := Filter.chain_agrees respected (agrees_terminal respected uses) _ listed
    first second pair
  unfold dispatch
  rw [pair.head]
  simp only
  generalize Filter.chain _ _ first = before at passed
  generalize Filter.chain _ _ second = after at passed
  obtain ⟨reply, next⟩ := before
  obtain ⟨other, later⟩ := after
  simp only at passed
  obtain ⟨rfl, passed⟩ := passed
  cases reply with
  | ok response => exact agrees_check_status respected uses response next later passed
  | error error => exact agrees_handle_error respected uses error next later passed

theorem agrees_service (freshId : String) : Exchange.Agrees related (engine.service freshId) := by
  intro first second pair
  unfold service
  rw [pair.request]
  have passed := agrees_dispatch respected uses _ _
    (pair.update fun attributes =>
      { attributes with requestId := some (second.request.clientId?.getD freshId) })
  simp only [passed.1]
  exact ⟨trivial, passed.2⟩

end Engine

end StreamHttp
