import StreamHttp.Exchange.Program
import StreamHttp.Exchange.Request
import StreamHttp.Message.Response
import StreamHttp.Shutdown

/-!
Filters around the execution of a route. A filter answers on its own or lets the request proceed.
What it does behind that depends on the result, so the rest of the chain runs at most once.
-/

namespace StreamHttp

structure Exchange (σ : Type) extends Intake where
  shutdown : Option Shutdown := none
  app : σ

/-- What a filter sees of a request besides its head, and may change. -/
structure Passage (σ : Type) where
  attributes : Attributes
  body : Body
  parsedBody : Option Json
  app : σ

namespace Exchange

variable {σ ρ : Type}

def head (exchange : Exchange σ) : Head := exchange.request.head

def passage (exchange : Exchange σ) : Passage σ where
  attributes := exchange.request.attributes
  body := exchange.request.body
  parsedBody := exchange.request.parsedBody
  app := exchange.app

/-- Runs a program of a filter. The head stays what it is. -/
def perform (program : Program (Passage σ) ρ) (exchange : Exchange σ) : ρ × Exchange σ :=
  let (result, passage, streams) := program.run exchange.passage exchange.streams
  (result,
    { request :=
        { head := exchange.request.head
          attributes := passage.attributes
          body := passage.body
          parsedBody := passage.parsedBody }
      streams
      shutdown := exchange.shutdown
      app := passage.app })

def updateAttributes (exchange : Exchange σ) (change : Attributes → Attributes) : Exchange σ :=
  { exchange with
    request := { exchange.request with attributes := change exchange.request.attributes } }

/-- Discards what nobody claimed of the body; a failure to read it is of no interest any more. -/
def finish (exchange : Exchange σ) : Exchange σ :=
  { exchange with toIntake := exchange.toIntake.release.2 }

end Exchange

abbrev Reply := Except DispatchError Response

inductive Verdict (σ : Type) where
  | answer (reply : Reply)
  | proceed (resume : Reply → Program (Passage σ) Reply)

structure Filter (σ : Type) where
  /-- Left out when a failure of a request it has seen is dispatched. -/
  oncePerRequest : Bool := false
  /-- Called with the number of filters still ahead. -/
  apply : Head → Nat → Program (Passage σ) (Verdict σ)

namespace Filter

variable {σ : Type}

def chain (guarded : Exchange σ → Reply × Exchange σ) :
    List (Filter σ) → Exchange σ → Reply × Exchange σ
  | [], exchange => guarded exchange
  | filter :: ahead, exchange =>
      match exchange.perform (filter.apply exchange.head ahead.length) with
      | (.answer reply, exchange) => (reply, exchange)
      | (.proceed resume, exchange) =>
          let (reply, exchange) := chain guarded ahead exchange
          exchange.perform (resume reply)

def annotatedChain (filters : List (Filter σ)) : String :=
  Annotated.openRecord "Next" [("remaining", toString filters.length)]

end Filter

end StreamHttp
