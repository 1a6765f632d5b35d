import StreamHttp.Proofs.Exchange.FailedHandlers
import StreamHttp.Proofs.Exchange.Recording

/-!
Deferring and keeping hold of the response are invisible. A handler may put off the rest of its
work at any point, again and again, and others may take hold of its ambient response or let go of
it: the call comes to what the same work comes to if it is done straight through, because the
response is taken only after the last round of work, from whoever holds it.
-/

namespace StreamHttp

variable {σ ω ρ : Type}

/-- Work that was put off is taken up again, round by round, until there is a result. -/
inductive Round.Ends : Round ω ρ × ω × Streams → ρ × ω × Streams → Prop where
  | over (result : ρ) (workspace : ω) (streams : Streams) :
      Ends (.over result, workspace, streams) (result, workspace, streams)
  | putOff {rest : Program ω ρ} {workspace : ω} {streams : Streams} {final : ρ × ω × Streams}
      (next : Ends (rest.round workspace streams) final) :
      Ends (.putOff rest, workspace, streams) final

/-- The rounds of a program end, and with what a run of it ends with. -/
theorem Program.ends_round_iff (program : Program ω ρ) (workspace : ω) (streams : Streams)
    (final : ρ × ω × Streams) :
    Round.Ends (program.round workspace streams) final ↔ program.run workspace streams = final := by
  -- Every action but one goes on within the round, as it goes on within the run.
  induction program generalizing workspace streams with
  | done result =>
      constructor
      · intro ends
        cases ends
        rfl
      · rintro rfl
        exact .over result workspace streams
  | later rest induction =>
      constructor
      · intro ends
        cases ends with
        | putOff next => exact (induction workspace streams).1 next
      · intro ran
        exact .putOff ((induction workspace streams).2 ran)
  | look next induction => exact induction workspace workspace streams
  | change step rest induction => exact induction (step workspace) streams
  | buffer limit body next induction => exact induction _ _ workspace _
  | read allowance reader next induction => exact induction _ _ workspace _
  | receive count reader next induction => exact induction _ _ workspace _
  | drop reader rest induction => exact induction workspace _
  | split body next induction => exact induction _ _ workspace _
  | release body next induction => exact induction _ _ workspace _

/-- What a handler sees and shapes: an invocation, but for who holds on to its response. -/
structure Scene (σ : Type) where
  head : Head
  arguments : Arguments
  attributes : Attributes
  response : Response
  error : Option DispatchError
  shutdown : Option Shutdown
  app : σ

abbrev Play (σ : Type) := Program (Scene σ) (Except DispatchError Outcome)

namespace Scene

def ofInvocation (invocation : Invocation σ) : Scene σ where
  head := invocation.head
  arguments := invocation.arguments
  attributes := invocation.attributes
  response := invocation.ambient.response
  error := invocation.error
  shutdown := invocation.shutdown
  app := invocation.app

def view : View (Scene σ) (Invocation σ) where
  get := ofInvocation
  set scene invocation :=
    { head := scene.head
      arguments := scene.arguments
      attributes := scene.attributes
      ambient := { invocation.ambient with response := scene.response }
      error := scene.error
      shutdown := scene.shutdown
      app := scene.app }
  get_set _ _ := rfl
  set_get _ := rfl
  set_set _ _ _ := rfl

end Scene

def Invocation.regrasp (holders : Nat → Nat) (invocation : Invocation σ) : Invocation σ :=
  { invocation with
    ambient := { invocation.ambient with holders := holders invocation.ambient.holders } }

theorem Ambient.surrender_response (ambient : Ambient) : ambient.surrender.1 = ambient.response := by
  rcases ambient with ⟨response, _ | holders⟩
  · rfl
  · rfl

namespace Program

/-- A program does the work of a plain one in stages. Wherever it likes it puts off the rest, and
others take hold of the response or let go of it; what the plain one puts off need not be. -/
inductive Staged : Program (Scene σ) ρ → Program (Invocation σ) ρ → Prop where
  | putOff {plain : Program (Scene σ) ρ} {rest : Program (Invocation σ) ρ}
      (staged : Staged plain rest) : Staged plain (.later rest)
  | regrasp {plain : Program (Scene σ) ρ} {rest : Program (Invocation σ) ρ}
      (holders : Nat → Nat) (staged : Staged plain rest) :
      Staged plain (.change (Invocation.regrasp holders) rest)
  | straight {plain : Program (Scene σ) ρ} {rest : Program (Invocation σ) ρ}
      (staged : Staged plain rest) : Staged (.later plain) rest
  | done (result : ρ) : Staged (.done result) (.done result)
  | look {next : Scene σ → Program (Scene σ) ρ} {other : Invocation σ → Program (Invocation σ) ρ}
      (staged : ∀ invocation, Staged (next (.ofInvocation invocation)) (other invocation)) :
      Staged (.look next) (.look other)
  | change {plain : Program (Scene σ) ρ} {rest : Program (Invocation σ) ρ}
      (step : Scene σ → Scene σ) (staged : Staged plain rest) :
      Staged (.change step plain)
        (.change (fun invocation => Scene.view.set (step (.ofInvocation invocation)) invocation)
          rest)
  | buffer (limit : Nat) (body : Body)
      {next : Except BodyError Bytes → Body → Program (Scene σ) ρ}
      {other : Except BodyError Bytes → Body → Program (Invocation σ) ρ}
      (staged : ∀ result body, Staged (next result body) (other result body)) :
      Staged (.buffer limit body next) (.buffer limit body other)
  | read (allowance : Nat) (reader : Reader)
      {next : Except String Bytes → Reader → Program (Scene σ) ρ}
      {other : Except String Bytes → Reader → Program (Invocation σ) ρ}
      (staged : ∀ result reader, Staged (next result reader) (other result reader)) :
      Staged (.read allowance reader next) (.read allowance reader other)
  | receive (count : Nat) (reader : Reader)
      {next : Except String Bytes → Reader → Program (Scene σ) ρ}
      {other : Except String Bytes → Reader → Program (Invocation σ) ρ}
      (staged : ∀ result reader, Staged (next result reader) (other result reader)) :
      Staged (.receive count reader next) (.receive count reader other)
  | drop {plain : Program (Scene σ) ρ} {rest : Program (Invocation σ) ρ} (reader : Reader)
      (staged : Staged plain rest) : Staged (.drop reader plain) (.drop reader rest)
  | split (body : Body)
      {next : Except BodyError (Body × Body) → Body → Program (Scene σ) ρ}
      {other : Except BodyError (Body × Body) → Body → Program (Invocation σ) ρ}
      (staged : ∀ result body, Staged (next result body) (other result body)) :
      Staged (.split body next) (.split body other)
  | release (body : Body)
      {next : Except BodyError Nat → Body → Program (Scene σ) ρ}
      {other : Except BodyError Nat → Body → Program (Invocation σ) ρ}
      (staged : ∀ result body, Staged (next result body) (other result body)) :
      Staged (.release body next) (.release body other)

/-- However a piece of work is staged, it has the same result and leaves the same scene. -/
theorem Staged.run {plain : Program (Scene σ) ρ} {program : Program (Invocation σ) ρ}
    (staged : plain.Staged program) (invocation : Invocation σ) (streams : Streams) :
    plain.run (.ofInvocation invocation) streams =
      let (result, invocation, streams) := program.run invocation streams
      (result, Scene.ofInvocation invocation, streams) := by
  induction staged generalizing invocation streams with
  | putOff _ induction => exact induction invocation streams
  | regrasp holders _ induction => exact induction (invocation.regrasp holders) streams
  | straight _ induction => exact induction invocation streams
  | done => rfl
  | look _ induction => exact induction invocation invocation streams
  | change step _ induction => exact induction (Scene.view.set _ invocation) streams
  | buffer limit body _ induction => exact induction _ _ invocation _
  | read allowance reader _ induction => exact induction _ _ invocation _
  | receive count reader _ induction => exact induction _ _ invocation _
  | drop reader _ induction => exact induction invocation _
  | split body _ induction => exact induction _ _ invocation _
  | release body _ induction => exact induction _ _ invocation _

theorem Staged.rounds {plain : Program (Scene σ) ρ} {program : Program (Invocation σ) ρ}
    (staged : plain.Staged program) (invocation : Invocation σ) (streams : Streams) :
    let (result, scene, after) := plain.run (.ofInvocation invocation) streams
    ∃ left, Round.Ends (program.round invocation streams) (result, left, after) ∧
      Scene.ofInvocation left = scene ∧ left.ambient.surrender.1 = scene.response := by
  rw [staged.run invocation streams]
  exact ⟨_, (program.ends_round_iff _ _ _).2 rfl, rfl, Ambient.surrender_response _⟩

/-- Straight through is one way to stage a piece of work. -/
theorem staged_within (plain : Program (Scene σ) ρ) : plain.Staged (plain.within Scene.view) := by
  induction plain with
  | done result => exact .done result
  | look next induction => exact .look fun invocation => induction _
  | change step rest induction => exact .change step induction
  | later rest induction => exact .straight (.putOff induction)
  | buffer limit body next induction => exact .buffer limit body induction
  | read allowance reader next induction => exact .read allowance reader induction
  | receive count reader next induction => exact .receive count reader induction
  | drop reader rest induction => exact .drop reader induction
  | split body next induction => exact .split body induction
  | release body next induction => exact .release body induction

end Program

def Exchange.played (exchange : Exchange σ) (scene : Scene σ) (streams : Streams) :
    Exchange σ where
  request := { exchange.request with attributes := scene.attributes }
  streams := streams
  shutdown := scene.shutdown
  app := scene.app

namespace Route

def straight (route : Route σ) (plain : Play σ) : Route σ where
  spec := route.spec
  handler := ExceptT.mk (plain.within Scene.view)

theorem answer_staged {route : Route σ} {plain : Play σ} (staged : plain.Staged route.handler.run)
    (arguments : Arguments) (error : Option DispatchError) (ambient : Response)
    (exchange : Exchange σ) :
    (route.answer arguments error ambient).run exchange =
      let (result, scene, streams) := plain.run
        (.ofInvocation (exchange.invocation arguments error ambient)) exchange.streams
      (result.bind fun outcome => outcome.resolve route.spec.single scene.response,
        exchange.played scene streams) := by
  rw [run_answer, staged.run]
  simp only [Ambient.surrender_response]
  rfl

/-- Routes whose handlers do the same work, each in stages of its own. -/
structure Staged (first second : Route σ) : Prop where
  spec : first.spec = second.spec
  work : ∃ plain : Play σ, plain.Staged first.handler.run ∧ plain.Staged second.handler.run

theorem staged_straight {route : Route σ} {plain : Play σ}
    (staged : plain.Staged route.handler.run) : route.Staged (route.straight plain) :=
  ⟨rfl, plain, staged, plain.staged_within⟩

theorem Staged.answer {first second : Route σ} (staged : first.Staged second)
    (arguments : Arguments) (error : Option DispatchError) (ambient : Response)
    (exchange : Exchange σ) :
    (second.answer arguments error ambient).run exchange =
      (first.answer arguments error ambient).run exchange := by
  obtain ⟨plain, own, other⟩ := staged.work
  rw [answer_staged own, answer_staged other, staged.spec]

end Route

namespace Engine

def bound (engine : Engine σ) (chosen : RouteMatch σ) : Attempt σ Arguments := do
  let arguments ← Attempt.ofBinding (engine.satisfier chosen.route.spec chosen.arguments)
  let arguments ← engine.bindFromBody chosen.route.spec arguments
  match (chosen.route.spec.missing arguments).head? with
  | some param => throw (.binding (.missing param.name))
  | none => return arguments

theorem invoke_bound (engine : Engine σ) (chosen : RouteMatch σ) (error : Option DispatchError)
    (ambient : Response) :
    engine.invoke chosen error ambient = (do
      let arguments ← engine.bound chosen
      let response ← chosen.route.answer arguments error ambient
      return chosen.route.spec.decorate response) := by
  rw [invoke_answer, bound, bind_assoc]
  refine bind_congr fun arguments => ?_
  rw [bind_assoc]
  refine bind_congr fun arguments => ?_
  cases (chosen.route.spec.missing arguments).head? with
  | some param => rfl
  | none => rw [pure_bind]

theorem run_invoke_bound (engine : Engine σ) (chosen : RouteMatch σ)
    (error : Option DispatchError) (ambient : Response) {exchange begun : Exchange σ}
    {arguments : Arguments} (bound : (engine.bound chosen).run exchange = (.ok arguments, begun)) :
    (engine.invoke chosen error ambient).run exchange =
      let (reply, left) := (chosen.route.answer arguments error ambient).run begun
      (reply.map chosen.route.spec.decorate, left) := by
  rw [invoke_bound, Attempt.run_bind, bound]
  dsimp only
  rw [Attempt.run_bind]
  rcases (chosen.route.answer arguments error ambient).run begun with ⟨_ | response, left⟩
  · rfl
  · rfl

/-- How a handler's work is staged is invisible to a pass: with its arguments bound, the pass comes
to what the plain work makes of the response, done straight through. The rounds of the handler end,
and only from what they end with the response is taken. -/
theorem invoke_staged (engine : Engine σ) (chosen : RouteMatch σ) (error : Option DispatchError)
    (ambient : Response) {plain : Play σ} (staged : plain.Staged chosen.route.handler.run)
    (exchange : Exchange σ) :
    let passed := (engine.invoke chosen error ambient).run exchange
    passed = (engine.invoke { chosen with route := chosen.route.straight plain } error ambient).run
        exchange ∧
      ∀ arguments begun, (engine.bound chosen).run exchange = (.ok arguments, begun) →
        let called := begun.invocation arguments error ambient
        let (result, scene, streams) := plain.run (.ofInvocation called) begun.streams
        (∃ left, Round.Ends (chosen.route.handler.run.round called begun.streams)
            (result, left, streams) ∧
          Scene.ofInvocation left = scene ∧ left.ambient.surrender.1 = scene.response) ∧
        ∃ reply, (∀ other, Outcome.Makes scene.response chosen.route.spec.single result other ↔
            reply = other) ∧
          passed = (reply.map chosen.route.spec.decorate, begun.played scene streams) := by
  intro passed
  constructor
  · have answers (arguments : Arguments) :
        (chosen.route.straight plain).answer arguments error ambient =
          chosen.route.answer arguments error ambient :=
      funext ((Route.staged_straight staged).answer arguments error ambient)
    have bounds : engine.bound { chosen with route := chosen.route.straight plain } =
        engine.bound chosen := rfl
    have specs : (chosen.route.straight plain).spec = chosen.route.spec := rfl
    change (engine.invoke chosen error ambient).run exchange = _
    rw [invoke_bound, invoke_bound, bounds]
    simp only [answers, specs]
  · intro arguments begun bound called
    have passes := engine.run_invoke_bound chosen error ambient bound
    rw [Route.answer_staged staged] at passes
    exact ⟨staged.rounds called begun.streams, _, fun _ => Outcome.makes_iff, passes⟩

def brew : Play Unit :=
  .change (fun scene => { scene with response := scene.response.addHeader "X-Leaf" "green" })
    (.done (.ok (.sequence [.ok (.text "tea"), .error .notFound])))

def steep : Handler Unit :=
  ExceptT.mk (.later (.change (Invocation.regrasp (· + 1))
    (.change (fun invocation => Scene.view.set
        { Scene.ofInvocation invocation with
          response := invocation.ambient.response.addHeader "X-Leaf" "green" } invocation)
      (.later (.later (.done (.ok (.sequence [.ok (.text "tea"), .error .notFound]))))))))

def teaRoute (single : Bool) : RouteMatch Unit where
  route := { spec := { single }, handler := steep }

theorem steep_staged : brew.Staged steep.run :=
  .putOff (.regrasp _ (.change _ (.putOff (.putOff (.done _)))))

theorem invoke_staged_tea :
    brew.Staged steep.run ∧
      let passed (single : Bool) := ((ofTable {} [] [] {}).invoke (teaRoute single) none {}).run
        teaTime
      ((passed true).1.map fun response => (response.headers.pairs, response.body)) =
          .ok ([("X-Leaf", "green")], .text "tea") ∧
        (passed false).1 = .error .notFound := by
  have cup := (invoke_staged (ofTable {} [] [] {}) (teaRoute true) none {} steep_staged teaTime).2
    {} teaTime rfl
  have pot := (invoke_staged (ofTable {} [] [] {}) (teaRoute false) none {} steep_staged teaTime).2
    {} teaTime rfl
  obtain ⟨_, first, made, cup⟩ := cup
  obtain ⟨_, all, broken, pot⟩ := pot
  refine ⟨steep_staged, ?_, ?_⟩
  · have item : first = .ok _ := (made _).1 (.single (.ok (.text "tea")) [.error .notFound])
    dsimp only
    rw [cup, item]
    rfl
  · have error : all = _ := (broken _).1 (.failedItem [.text "tea"] .notFound [])
    dsimp only
    rw [pot, error]
    rfl

/-- Engines whose handlers do the same work, each in stages of its own. -/
structure Staged (first second : Engine σ) : Prop where
  rest : second = { first with table := second.table }
  table : first.table.Corresponds Route.Staged Route.Staged second.table
  filters : second.table.filters = first.table.filters

theorem Staged.follows {first second : Engine σ} (staged : first.Staged second) :
    first.Follows (Scribe.silent σ) second := by
  have answers (own other : Route σ) (pair : own.Staged other) :
      own.Follows (Scribe.silent σ).put (fun _ => []) other :=
    Route.follows_same pair.spec pair.answer
  exact
    { satisfier := by rw [staged.rest]
      codecs := by rw [staged.rest]
      exceptionHandlers := by rw [staged.rest]
      settings := by rw [staged.rest]
      table :=
        { spec := fun _ _ pair => pair.spec
          errorSpec := fun _ _ pair => pair.spec
          routes := staged.table.routes.imp answers
          statusRoutes := staged.table.statusRoutes.imp fun _ _ pair => ⟨pair.1, answers _ _ pair.2⟩
          errorRoutes := staged.table.errorRoutes.imp fun _ _ pair => ⟨pair.1, answers _ _ pair.2⟩ }
      filters := by
        rw [staged.filters]
        exact (List.zipIdx_map_fst 0 first.table.filters).symm }

/-- How handlers stage their work reaches nothing that is left of an exchange, be it dispatched
once or twice. -/
theorem service_staged {first second : Engine σ} (staged : first.Staged second) (freshId : String)
    (exchange : Exchange σ) :
    second.service freshId exchange = first.service freshId exchange := by
  obtain ⟨_, _, served, _⟩ := staged.follows.service freshId exchange []
  exact served

end Engine

end StreamHttp
