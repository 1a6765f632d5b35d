import StreamHttp.Exchange.Filter
import StreamHttp.Script.Action

/-!
Filters as plans: what a filter does before it lets a request proceed, and what it makes of the
reply. Each step is optional, and all of them are written to the journal.
-/

namespace StreamHttp

structure FilterPlan where
  name : String
  oncePerRequest : Bool := false
  note : Option String := none
  /-- Buffers the body of the request up to a limit. -/
  buffer : Option Nat := none
  release : Bool := false
  parsedBody : Option Json := none
  answer : Option Response := none
  fail : Option DispatchError := none
  /-- Takes the place of an error. -/
  recover : Option Response := none
  header : Option (String × String) := none
  status : Option Status := none
  body : Option Payload := none
  failAfter : Option DispatchError := none

namespace FilterPlan

abbrev Step := ExceptT DispatchError (Program (Passage Journal))

def alter (change : Passage Journal → Passage Journal) : Step Unit :=
  ExceptT.lift (Program.modify change)

def record (entry : Json) : Step Unit :=
  alter fun passage => { passage with app := passage.app.push entry }

def replyDocument (vocabulary : Document.Vocabulary) : Reply → Json
  | .ok response => .array [Document.nat response.status.code, Document.ofPayload response.body]
  | .error error => Document.ofError vocabulary error

/-- What the plan makes of a response. -/
def reshape (plan : FilterPlan) (response : Response) : Response :=
  let response := match plan.header with
    | some (name, value) => response.addHeader name value
    | none => response
  let response := match plan.status with
    | some status => response.setStatus status
    | none => response
  match plan.body with
  | some body => { response with body }
  | none => response

def recordReply (vocabulary : Document.Vocabulary) (plan : FilterPlan) (reply : Reply) :
    Step Unit := do
  let passage ← ExceptT.lift Program.get
  record (.array [.string "after", .string plan.name, replyDocument vocabulary reply,
    Document.optional (fun spec => .string spec.describe) passage.attributes.matchedRoute,
    Document.optional (fun error => .string error.message) passage.attributes.thrownError])

def after (vocabulary : Document.Vocabulary) (plan : FilterPlan) (reply : Reply) :
    Step Response := do
  plan.recordReply vocabulary reply
  match reply with
  | .error error =>
      match plan.recover with
      | some response => return response
      | none => throw error
  | .ok response =>
      match plan.failAfter with
      | some error => throw error
      | none => return plan.reshape response

def bufferBody (limit : Nat) : Step Unit := do
  let passage ← ExceptT.lift Program.get
  let (result, body) ← ExceptT.lift (Program.bufferBody limit passage.body)
  alter fun passage => { passage with body }
  match result with
  | .ok content => record (Document.ofBytes content)
  | .error error => throw (.body error)

def releaseBody : Step Unit := do
  let passage ← ExceptT.lift Program.get
  let (result, body) ← ExceptT.lift (Program.releaseBody passage.body)
  alter fun passage => { passage with body }
  match result with
  | .ok count => record (Document.nat count)
  | .error error => throw (.body error)

def before (plan : FilterPlan) (ahead : Nat) : Step (Option Response) := do
  record (.array [.string "before", .string plan.name, Document.nat ahead])
  if let some text := plan.note then
    alter fun passage => { passage with attributes := Action.withNote text passage.attributes }
  if let some limit := plan.buffer then bufferBody limit
  if plan.release then releaseBody
  if plan.parsedBody.isSome then
    alter fun passage => { passage with parsedBody := plan.parsedBody }
  match plan.answer, plan.fail with
  | some response, _ => return some response
  | none, some error => throw error
  | none, none => return none

def filter (vocabulary : Document.Vocabulary) (plan : FilterPlan) : Filter Journal where
  oncePerRequest := plan.oncePerRequest
  apply _ ahead := do
    match ← (plan.before ahead).run with
    | .error error => return .answer (.error error)
    | .ok (some response) => return .answer (.ok response)
    | .ok none => return .proceed fun reply => (plan.after vocabulary reply).run

end FilterPlan

end StreamHttp
