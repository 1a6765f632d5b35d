import StreamHttp.Document.Failure
import StreamHttp.Exchange.Handler

/-!
Handlers as scripts: lists of actions on an invocation, of which one may end the handler with an
outcome. What an action observes is written to a journal.
-/

namespace StreamHttp

abbrev Journal := Array Json

inductive Observation where
  | value (value : Json)
  | arguments
  | head
  | error
  /-- An argument as text and as bytes. -/
  | text (name : String)
  | status
  | note
  | invocation

inductive Consumption where
  | buffer (limit : Nat)
  | read (count : Nat)
  | split

inductive Action where
  | observe (what : Observation)
  | note (text : String)
  | convert (shape : Json.Shape) (name : String) (required : Bool)
  | respond (change : Response → Response)
  | keep
  | stop
  | consume (name : String) (how : Consumption)
  | finish (outcome : Outcome)
  | finishArguments
  | finishArgument (shape : Json.Shape) (name : String)
  | finishBytes (name : String)
  | fail (error : DispatchError)
  | rethrow
  | defer (later : List Action)

namespace Action

abbrev Scripted := Handling Journal

def scene : Scripted (Invocation Journal) := ExceptT.lift Program.get

def alter (change : Invocation Journal → Invocation Journal) : Scripted Unit :=
  ExceptT.lift (Program.modify change)

def record (entry : Json) : Scripted Unit :=
  alter fun invocation => { invocation with app := invocation.app.push entry }

def orFail {ε α : Type} (wrap : ε → DispatchError) : Except ε α → Scripted α
  | .ok value => pure value
  | .error error => Handling.fail (wrap error)

def noteKind : String := "note"

def withNote (text : String) (attributes : Attributes) : Attributes :=
  { attributes with notes := (attributes.notes.insert noteKind (.string text)).2 }

open Document in
def observed (vocabulary : Vocabulary) (invocation : Invocation Journal) : Observation → Json
  | .value value => value
  | .arguments => ofArguments invocation.arguments
  | .head => ofHead invocation.head
  | .error => optional (ofError vocabulary) invocation.error
  | .text name =>
      .array [optional .string (invocation.arguments.text? name),
        optional ofBytes (invocation.arguments.bytes? name)]
  | .status => nat invocation.ambient.response.status.code
  | .note => optional id (invocation.attributes.notes.get? noteKind)
  | .invocation => .string invocation.annotated

def halfLimit : Nat := 1048576

def consumeBody (body : Body) : Consumption → Scripted Json
  | .buffer limit => do
      let (result, _) ← ExceptT.lift (Program.bufferBody limit body)
      return Document.ofBytes (← orFail .body result)
  | .read count => do
      let reader ← orFail .body body.claimStream.1
      let (result, _) ← ExceptT.lift (Program.readUpTo count reader)
      return Document.ofBytes (← orFail (fun message => .handler (.io message)) result)
  | .split => do
      let (halves, _) ← ExceptT.lift (Program.splitBody body)
      let (left, right) ← orFail .body halves
      let (first, _) ← ExceptT.lift (Program.bufferBody halfLimit left)
      let first ← orFail .body first
      let (second, _) ← ExceptT.lift (Program.bufferBody halfLimit right)
      let second ← orFail .body second
      return .array [Document.ofBytes first, Document.ofBytes second]

def takeStream (name : String) : Scripted Body := do
  let (taken, arguments) := (← scene).arguments.takeStream name
  alter fun invocation => { invocation with arguments }
  match taken with
  | some body => return body
  | none => Handling.fail (DispatchError.badRequest "no body")

def requestStop : Scripted Json := do
  match (← scene).shutdown with
  | none => return .null
  | some shutdown =>
      let (first, shutdown) := shutdown.trigger
      alter fun invocation => { invocation with shutdown := some shutdown }
      return .bool first

def jsonOutcome (value : Json) : Outcome := .immediate (.json value)

mutual

/-- Takes the actions in turn; a script without an end leaves the ambient response. -/
def play (vocabulary : Document.Vocabulary) : List Action → Scripted Outcome
  | [] => pure .empty
  | action :: rest => do
      match ← perform vocabulary action with
      | some outcome => return outcome
      | none => play vocabulary rest

/-- Takes one action. The outcome is there if it is the last one. -/
def perform (vocabulary : Document.Vocabulary) : Action → Scripted (Option Outcome)
  | .observe what => do
      record (observed vocabulary (← scene) what)
      return none
  | .note text => do
      alter fun invocation => { invocation with attributes := withNote text invocation.attributes }
      return none
  | .convert shape name required => do
      let arguments := (← scene).arguments
      if required then record (← orFail .binding (arguments.get shape name))
      else record (Document.optional id (← orFail .binding (arguments.get? shape name)))
      return none
  | .respond change => do
      alter (Invocation.respond change)
      return none
  | .keep => do
      alter fun invocation => { invocation with ambient := invocation.ambient.keep }
      return none
  | .stop => do
      record (← requestStop)
      return none
  | .consume name how => do
      record (← consumeBody (← takeStream name) how)
      return none
  | .finish outcome => return some outcome
  | .finishArguments => return some (jsonOutcome (Document.ofArguments (← scene).arguments))
  | .finishArgument shape name =>
      return some (jsonOutcome (← orFail .binding ((← scene).arguments.get shape name)))
  | .finishBytes name =>
      return some (.immediate (.bytes (((← scene).arguments.bytes? name).getD [])))
  | .fail error => Handling.fail error
  | .rethrow => do
      let message := ((← scene).error.map DispatchError.message).getD ""
      Handling.fail (.handler (.text message))
  | .defer later => Handling.defer (some <$> play vocabulary later)

end

end Action

end StreamHttp
