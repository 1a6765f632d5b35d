import StreamHttp.Arguments.Basic
import StreamHttp.Exchange.Program
import StreamHttp.Exchange.Request
import StreamHttp.Failure.Annotated
import StreamHttp.Message.Response
import StreamHttp.Shutdown

/-!
Handlers. A handler is called with an invocation, works on it and ends with an outcome or an error.
Meanwhile it may shape its ambient response, which an outcome keeps, gives a body, or replaces.
-/

namespace StreamHttp

inductive Outcome where
  /-- The ambient response as the handler left it. -/
  | empty
  | immediate (body : Payload)
  | sequence (items : List (Except DispatchError Payload))
  /-- Takes the place of the ambient response. -/
  | response (response : Response)

namespace Outcome

def text (content : String) : Outcome := .immediate (.text content)

def kind : Outcome → String
  | .empty => "empty"
  | .immediate _ => "immediate"
  | .sequence _ => "sequence"
  | .response _ => "response"

def annotated : Outcome → String
  | .immediate body => "Immediate(" ++ body.annotated ++ ")"
  | .response whole => "Response(" ++ whole.annotated ++ ")"
  | outcome => outcome.kind

end Outcome

/-- A response under construction, and how many others hold on to it. -/
structure Ambient where
  response : Response
  holders : Nat := 0

namespace Ambient

def update (ambient : Ambient) (change : Response → Response) : Ambient :=
  { ambient with response := change ambient.response }

/-- One more holder, which outlives the handler. -/
def keep (ambient : Ambient) : Ambient := { ambient with holders := ambient.holders + 1 }

/-- The response, and what is left for those who hold on to it. -/
def surrender (ambient : Ambient) : Response × Option Ambient :=
  match ambient.holders with
  | 0 => (ambient.response, none)
  | holders => (ambient.response, some { response := {}, holders })

end Ambient

structure Invocation (σ : Type) where
  head : Head
  arguments : Arguments
  attributes : Attributes
  ambient : Ambient
  /-- The failure being answered, when the handler belongs to an error route. -/
  error : Option DispatchError
  shutdown : Option Shutdown
  app : σ

namespace Invocation

variable {σ : Type}

def annotated (invocation : Invocation σ) : String :=
  Annotated.record "Invocation"
    [("method", invocation.head.method), ("path", quoted invocation.head.path),
      ("args", invocation.arguments.annotated),
      ("error", Annotated.option DispatchError.annotated invocation.error)]

def respond (change : Response → Response) (invocation : Invocation σ) : Invocation σ :=
  { invocation with ambient := invocation.ambient.update change }

end Invocation

abbrev Handling (σ α : Type) := ExceptT DispatchError (Program (Invocation σ)) α

abbrev Handler (σ : Type) := Handling σ Outcome

namespace Handling

variable {σ α : Type}

/-- The rest of the work is handed back and done later. -/
def defer (rest : Handling σ α) : Handling σ α := ExceptT.mk (.later rest.run)

def fail (error : DispatchError) : Handling σ α := throw error

def annotated (handler : Handler σ) : String × String :=
  match handler.run with
  | .done (.ok outcome) => (outcome.kind, outcome.annotated)
  | _ => ("deferred", "deferred")

end Handling

end StreamHttp
