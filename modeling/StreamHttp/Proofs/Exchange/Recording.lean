import StreamHttp.Proofs.Exchange.Passes

/-!
An engine that records what it does. Its application keeps a list of marks beside its state: a
filter puts one there before it runs and one before it goes on behind what it guards, and a handler
puts one there before it runs. Filters and handlers themselves see the state alone, as before.
-/

namespace StreamHttp

variable {σ ω ω' ρ ρ' : Type}

/-- A part of a workspace, to be read and replaced without regard to the rest. -/
structure View (ω ω' : Type) where
  get : ω' → ω
  set : ω → ω' → ω'
  get_set : ∀ part whole, get (set part whole) = part
  set_get : ∀ whole, set (get whole) whole = whole
  set_set : ∀ part other whole, set other (set part whole) = set other whole

namespace Program

def within (view : View ω ω') : Program ω ρ → Program ω' ρ
  | .done result => .done result
  | .look next => .look fun whole => (next (view.get whole)).within view
  | .change step rest =>
      .change (fun whole => view.set (step (view.get whole)) whole) (rest.within view)
  | .later rest => .later (rest.within view)
  | .buffer limit body next => .buffer limit body fun result body => (next result body).within view
  | .read allowance reader next =>
      .read allowance reader fun result reader => (next result reader).within view
  | .receive count reader next =>
      .receive count reader fun result reader => (next result reader).within view
  | .drop reader rest => .drop reader (rest.within view)
  | .split body next => .split body fun result body => (next result body).within view
  | .release body next => .release body fun result body => (next result body).within view

theorem run_within (view : View ω ω') (program : Program ω ρ) (whole : ω') (streams : Streams) :
    (program.within view).run whole streams =
      let (result, part, streams) := program.run (view.get whole) streams
      (result, view.set part whole, streams) := by
  induction program generalizing whole streams with
  | done result => simp only [within, run, view.set_get]
  | look next induction => simp only [within, run, induction]
  | change step rest induction => simp only [within, run, induction, view.get_set, view.set_set]
  | later rest induction => simp only [within, run, induction]
  | buffer limit body next induction => simp only [within, run, induction]
  | read allowance reader next induction => simp only [within, run, induction]
  | receive count reader next induction => simp only [within, run, induction]
  | drop reader rest induction => simp only [within, run, induction]
  | split body next induction => simp only [within, run, induction]
  | release body next induction => simp only [within, run, induction]

end Program

/-- What an exchange did: a filter, known by its number, was entered or resumed; a handler was
called. -/
inductive Mark where
  | entered (filter : Nat)
  | resumed (filter : Nat)
  | route (spec : RouteSpec)
  | errorRoute (spec : RouteSpec)
  deriving DecidableEq

namespace Passage

def unmarked : View (Passage σ) (Passage (σ × List Mark)) where
  get whole := ⟨whole.attributes, whole.body, whole.parsedBody, whole.app.1⟩
  set part whole := ⟨part.attributes, part.body, part.parsedBody, (part.app, whole.app.2)⟩
  get_set _ _ := rfl
  set_get _ := rfl
  set_set _ _ _ := rfl

def note (mark : Mark) (passage : Passage (σ × List Mark)) : Passage (σ × List Mark) :=
  { passage with app := (passage.app.1, passage.app.2 ++ [mark]) }

def marked (mark : Mark) (program : Program (Passage σ) ρ) :
    Program (Passage (σ × List Mark)) ρ :=
  .change (note mark) (program.within unmarked)

end Passage

namespace Invocation

def unmarked : View (Invocation σ) (Invocation (σ × List Mark)) where
  get whole :=
    { head := whole.head
      arguments := whole.arguments
      attributes := whole.attributes
      ambient := whole.ambient
      error := whole.error
      shutdown := whole.shutdown
      app := whole.app.1 }
  set part whole :=
    { head := part.head
      arguments := part.arguments
      attributes := part.attributes
      ambient := part.ambient
      error := part.error
      shutdown := part.shutdown
      app := (part.app, whole.app.2) }
  get_set _ _ := rfl
  set_get _ := rfl
  set_set _ _ _ := rfl

def note (mark : Mark) (invocation : Invocation (σ × List Mark)) :
    Invocation (σ × List Mark) :=
  { invocation with app := (invocation.app.1, invocation.app.2 ++ [mark]) }

end Invocation

def Verdict.recorded (number : Nat) : Verdict σ → Verdict (σ × List Mark)
  | .answer reply => .answer reply
  | .proceed resume => .proceed fun reply => Passage.marked (.resumed number) (resume reply)

def Filter.recorded (number : Nat) (filter : Filter σ) : Filter (σ × List Mark) where
  oncePerRequest := filter.oncePerRequest
  apply head ahead := (Passage.marked (.entered number) (filter.apply head ahead)).bind
    fun verdict => .done (verdict.recorded number)

def Handler.recorded (mark : Mark) (handler : Handler σ) : Handler (σ × List Mark) :=
  ExceptT.mk (.change (Invocation.note mark) (handler.run.within Invocation.unmarked))

def Route.recorded (mark : RouteSpec → Mark) (route : Route σ) : Route (σ × List Mark) where
  spec := route.spec
  handler := route.handler.recorded (mark route.spec)

def RouteTable.recorded (table : RouteTable σ) : RouteTable (σ × List Mark) where
  routes := table.routes.map (Route.recorded .route)
  statusRoutes := table.statusRoutes.map fun entry => (entry.1, entry.2.recorded .errorRoute)
  errorRoutes := table.errorRoutes.map fun entry => (entry.1, entry.2.recorded .errorRoute)
  filters := table.filters.zipIdx.map fun entry => (entry.1.1, entry.1.2.recorded entry.2)

/-- The engine with marks at every filter and every handler. -/
def Engine.recorded (engine : Engine σ) : Engine (σ × List Mark) where
  table := engine.table.recorded
  satisfier := engine.satisfier
  codecs := engine.codecs
  exceptionHandlers := engine.exceptionHandlers
  settings := engine.settings

namespace Exchange

def recording (marks : List Mark) (exchange : Exchange σ) : Exchange (σ × List Mark) :=
  exchange.noted Prod.mk marks

theorem perform_marked (mark : Mark) (program : Program (Passage σ) ρ) (marks : List Mark)
    (exchange : Exchange σ) :
    (exchange.recording marks).perform (Passage.marked mark program) =
      ((exchange.perform program).1,
        (exchange.perform program).2.recording (marks ++ [mark])) := by
  unfold perform Passage.marked
  rw [Program.run, Program.run_within]
  rfl

theorem perform_map (program : Program (Passage σ) ρ) (change : ρ → ρ') (exchange : Exchange σ) :
    exchange.perform (program.bind fun result => .done (change result)) =
      (change (exchange.perform program).1, (exchange.perform program).2) := by
  unfold perform
  rw [Program.run_bind]
  rfl

end Exchange

theorem Filter.recorded_follows (number : Nat) (filter : Filter σ) :
    filter.Follows Prod.mk [.entered number] [.resumed number] (filter.recorded number) := by
  refine ⟨rfl, ?_⟩
  intro head ahead exchange marks named
  refine ⟨_, rfl, ?_, ?_, named⟩
  · change Verdict.Follows _ _ _ ((exchange.recording marks).perform (Program.bind _ _)).1
    rw [Exchange.perform_map, Exchange.perform_marked]
    cases (exchange.perform (filter.apply head ahead)).1 with
    | answer reply => exact .answer reply
    | proceed resume =>
        refine .proceed ?_
        intro reply head exchange marks named
        have resumed := exchange.perform_marked (.resumed number) (resume reply) marks
        exact ⟨_, rfl, congrArg Prod.fst resumed.symm, congrArg Prod.snd resumed, named⟩
  · change ((exchange.recording marks).perform (Program.bind _ _)).2 = _
    rw [Exchange.perform_map, Exchange.perform_marked]
    rfl

theorem Route.recorded_follows (mark : RouteSpec → Mark) (route : Route σ) :
    route.Follows Prod.mk (fun spec => [mark spec]) (route.recorded mark) := by
  refine ⟨rfl, ?_⟩
  intro arguments error ambient head exchange marks named
  have begun : Invocation.unmarked.get (Invocation.note (mark route.spec)
      ((exchange.recording marks).invocation arguments error ambient)) =
      exchange.invocation arguments error ambient := rfl
  have recorded : ((route.recorded mark).answer arguments error ambient).run
      (exchange.recording marks) =
      (((route.answer arguments error ambient).run exchange).1,
        ((route.answer arguments error ambient).run exchange).2.recording
          (marks ++ [mark route.spec])) := by
    simp only [Route.run_answer, Route.recorded, Handler.recorded, ExceptT.run_mk, Program.run,
      Program.run_within, begun]
    rfl
  refine ⟨_, rfl, ?_, congrArg Prod.snd recorded, (route.head_answer _ _ _ _).trans named⟩
  rw [show exchange.noted Prod.mk marks = exchange.recording marks from rfl]
  simp only [recorded]
  exact .refl _

end StreamHttp
