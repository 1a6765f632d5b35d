import StreamHttp.Proofs.Exchange.Outcomes
import StreamHttp.Proofs.Exchange.Passes

/-!
Handlers that fail. What such a handler did to its ambient response before it failed is lost:
engines whose handlers differ in nothing else give the same responses, and leave everything else
the same as well.
-/

namespace StreamHttp

variable {σ : Type}

namespace Outcome

/-- The ways in which the call of a handler ends in an error: the handler failed, there and then or
in work that it put off, or an item of its sequence did, or the one item of it is not there. -/
inductive EndsIn : Bool → DispatchError → Except DispatchError Outcome → Prop where
  | thrown (single : Bool) (error : DispatchError) : EndsIn single error (.error error)
  | item (error : DispatchError) (front : List Payload)
      (rest : List (Except DispatchError Payload)) :
      EndsIn false error (.ok (.sequence (front.map .ok ++ .error error :: rest)))
  | only (error : DispatchError) (rest : List (Except DispatchError Payload)) :
      EndsIn true error (.ok (.sequence (.error error :: rest)))
  | absent : EndsIn true .notFound (.ok (.sequence []))

/-- Whether a call ends in an error, and in which, does not depend on its ambient response. -/
theorem ends_in_iff {single : Bool} {error : DispatchError}
    {result : Except DispatchError Outcome} (ambient : Response) :
    (result.bind fun outcome => outcome.resolve single ambient) = .error error ↔
      EndsIn single error result := by
  rw [← makes_iff]
  constructor
  · intro makes
    generalize failed : (.error error : Reply) = reply at makes
    cases makes with
    | failed => cases failed; exact .thrown single error
    | failedItem front other rest => cases failed; exact .item error front rest
    | absent => cases failed; exact .absent
    | single item rest =>
        cases item with
        | error other => cases failed; exact .only error rest
        | ok body => cases failed
    | _ => cases failed
  · intro ends
    cases ends with
    | thrown => exact .failed single error
    | item _ front rest => exact .failedItem front error rest
    | only _ rest => exact .single (.error error) rest
    | absent => exact .absent

end Outcome

/-- Two calls that are the same, or that both end in the same error and differ in nothing but the
ambient responses that the handlers worked on. -/
def Handler.Alike (single : Bool) (first second : Handler σ) : Prop :=
  ∀ invocation streams, first.run.run invocation streams = second.run.run invocation streams ∨
    ∃ error ambient,
      Outcome.EndsIn single error (first.run.run invocation streams).1 ∧
      Outcome.EndsIn single error (second.run.run invocation streams).1 ∧
      (second.run.run invocation streams).2 =
        ({ (first.run.run invocation streams).2.1 with ambient },
          (first.run.run invocation streams).2.2)

/-- Routes that differ only in what their handlers do to ambient responses before they fail. -/
structure Route.Alike (first second : Route σ) : Prop where
  spec : first.spec = second.spec
  handler : first.handler.Alike first.spec.single second.handler

/-- Engines that differ only in what the handlers of their routes and error routes do to ambient
responses before they fail. -/
structure Engine.Alike (first second : Engine σ) : Prop where
  satisfier : second.satisfier = first.satisfier
  codecs : second.codecs = first.codecs
  exceptionHandlers : second.exceptionHandlers = first.exceptionHandlers
  settings : second.settings = first.settings
  routes : List.Forall₂ Route.Alike first.table.routes second.table.routes
  statusRoutes : List.Forall₂ (fun own other => own.1 = other.1 ∧ own.2.Alike other.2)
    first.table.statusRoutes second.table.statusRoutes
  errorRoutes : List.Forall₂ (fun own other => own.1 = other.1 ∧ own.2.Alike other.2)
    first.table.errorRoutes second.table.errorRoutes
  filters : second.table.filters = first.table.filters

theorem Route.Alike.answer {first second : Route σ} (alike : first.Alike second)
    (arguments : Arguments) (error : Option DispatchError) (ambient : Response)
    (exchange : Exchange σ) :
    (second.answer arguments error ambient).run exchange =
      (first.answer arguments error ambient).run exchange := by
  rw [Route.run_answer, Route.run_answer, ← alike.spec]
  obtain same | ⟨failure, left, failed, failedToo, rest⟩ :=
    alike.handler (exchange.invocation arguments error ambient) exchange.streams
  · rw [same]
  · generalize first.handler.run.run _ exchange.streams = own at failed rest ⊢
    generalize second.handler.run.run _ exchange.streams = other at failedToo rest ⊢
    obtain ⟨result, invocation, streams⟩ := own
    obtain ⟨results, invocations, others⟩ := other
    simp only at failed failedToo rest
    obtain ⟨rfl, rfl⟩ := Prod.mk.inj rest
    simp only [(Outcome.ends_in_iff _).2 failed, (Outcome.ends_in_iff _).2 failedToo]
    rfl

def Scribe.silent (σ : Type) : Scribe σ σ Empty where
  put app _ := app
  observe _ filter := filter
  enter _ := []
  leave _ := []
  route _ := []
  errorRoute _ := []
  observed _ filter := by
    refine ⟨rfl, ?_⟩
    intro head ahead exchange log named
    refine ⟨[], rfl, ?_, rfl, named⟩
    change Verdict.Follows _ _ (exchange.perform _).1 (exchange.perform _).1
    cases (exchange.perform (filter.apply head ahead)).1 with
    | answer reply => exact .answer reply
    | proceed resume =>
        exact .proceed fun _ _ _ _ named => ⟨[], rfl, rfl, rfl, named⟩

theorem Route.follows_same {first second : Route σ} (spec : first.spec = second.spec)
    (same : ∀ arguments error ambient exchange,
      (second.answer arguments error ambient).run exchange =
        (first.answer arguments error ambient).run exchange) :
    first.Follows (Scribe.silent σ).put (fun _ => []) second := by
  refine ⟨spec, ?_⟩
  intro arguments error ambient head exchange log named
  have same := same arguments error ambient exchange
  refine ⟨[], rfl, ?_, congrArg Prod.snd same, (first.head_answer _ _ _ _).trans named⟩
  change Attempt.Alike Eq ((first.answer arguments error ambient).run exchange).1
    ((second.answer arguments error ambient).run exchange).1
  rw [same]
  exact .refl _

theorem Route.Alike.follows {first second : Route σ} (alike : first.Alike second) :
    first.Follows (Scribe.silent σ).put (fun _ => []) second :=
  Route.follows_same alike.spec alike.answer

namespace Engine

theorem Alike.follows {first second : Engine σ} (alike : first.Alike second) :
    first.Follows (Scribe.silent σ) second where
  satisfier := alike.satisfier
  codecs := alike.codecs
  exceptionHandlers := alike.exceptionHandlers
  settings := alike.settings
  table :=
    { spec := fun _ _ pair => pair.spec
      errorSpec := fun _ _ pair => pair.spec
      routes := alike.routes.imp fun _ _ pair => pair.follows
      statusRoutes := alike.statusRoutes.imp fun _ _ pair => ⟨pair.1, pair.2.follows⟩
      errorRoutes := alike.errorRoutes.imp fun _ _ pair => ⟨pair.1, pair.2.follows⟩ }
  filters := by
    rw [alike.filters]
    exact (List.zipIdx_map_fst 0 first.table.filters).symm

/-- What failed handlers did to their ambient responses reaches neither the response nor anything
else that is left of an exchange. -/
theorem service_alike {first second : Engine σ} (alike : first.Alike second) (freshId : String)
    (exchange : Exchange σ) :
    second.service freshId exchange = first.service freshId exchange := by
  obtain ⟨_, _, served, _⟩ := alike.follows.service freshId exchange []
  exact served

def halfMade (rest : Handler Unit) : Handler Unit :=
  ExceptT.mk (.change (Invocation.respond fun response =>
      (response.setStatus .created).addHeader "Set-Cookie" "session=7")
    (.change (fun invocation => { invocation with ambient := invocation.ambient.keep })
      (.later rest.run)))

def refusing (made : Handler Unit → Handler Unit) : Engine Unit :=
  ofTable
    { routes :=
        [{ spec := { method := some "GET", template := (Template.parse "/tea").toOption }
           handler := made (Handling.fail (.status ⟨418⟩ "short and stout" none)) }]
      statusRoutes :=
        [(⟨418⟩,
          { spec := {}
            handler := made (ExceptT.mk (.done (.ok
              (.sequence [.ok (.text "tea"), .error .notFound])))) })] }
    Codecs.standard [] {}

theorem half_made_alike (single : Bool) {error : DispatchError}
    {result : Except DispatchError Outcome} (ends : Outcome.EndsIn single error result) :
    Handler.Alike single (ExceptT.mk (.done result)) (halfMade (ExceptT.mk (.done result))) := by
  intro invocation streams
  exact .inr ⟨error, _, ends, ends, rfl⟩

def teaTime : Exchange Unit where
  request := Request.make (Head.make "GET" { path := "/tea" } {}) Body.empty
  streams := Streams.none
  app := ()

theorem service_alike_refusing :
    (refusing id).Alike (refusing halfMade) ∧
      (refusing halfMade).service "1" teaTime = (refusing id).service "1" teaTime ∧
      ((refusing halfMade).service "1" teaTime).1.status = .internalError ∧
      ((refusing halfMade).service "1" teaTime).1.headers.contains "Set-Cookie" = false := by
  have alike : (refusing id).Alike (refusing halfMade) :=
    { satisfier := rfl
      codecs := rfl
      exceptionHandlers := rfl
      settings := rfl
      routes := .cons ⟨rfl, half_made_alike _ (.thrown _ _)⟩ .nil
      statusRoutes := .cons ⟨rfl, rfl, half_made_alike _ (.item .notFound [.text "tea"] [])⟩ .nil
      errorRoutes := .nil
      filters := rfl }
  exact ⟨alike, service_alike alike "1" teaTime, by decide +kernel, by decide +kernel⟩

end Engine

end StreamHttp
