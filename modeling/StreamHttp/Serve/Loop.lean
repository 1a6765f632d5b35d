import StreamHttp.Exchange.Engine
import StreamHttp.Wire.Decoder
import StreamHttp.Wire.Encoder

/-!
Serving one exchange after the other over an input and a sink. Malformed requests are answered, each
on its own; only a failure of input or sink ends the loop early. A stop that was asked for is heeded
between two exchanges. A fault ends the program: what a loop tells is void from its fault on.
-/

namespace StreamHttp

structure Summary where
  exchanges : Nat := 0
  protocolErrors : Nat := 0
  deriving DecidableEq, Repr

structure ServeSettings where
  inputBufferSize : Nat := 8192
  deriving DecidableEq, Repr

/-- A loop between two requests. -/
structure Loop (σ : Type) where
  session : Session
  sink : Sink := {}
  /-- The room that is reserved whenever a response is written. -/
  outputBuffer : Nat := 8192
  fault : Option Fault := none
  summary : Summary := {}
  metrics : Metrics := {}
  shutdown : Option Shutdown := none
  /-- The receiver that the loop listens to, if it does. -/
  receiver : Option Nat := none
  app : σ

namespace Loop

variable {σ : Type}

/-- What is left of a loop that has ended. -/
structure Ended (σ : Type) where
  result : Except FramingError Summary
  sink : Sink
  metrics : Metrics
  app : σ
  fault : Option Fault

/-- How the program ends that runs the loop. -/
def Ended.outcome (ended : Ended σ) : Except Fault (Except FramingError Summary) :=
  match ended.fault with
  | some fault => .error fault
  | none => .ok ended.result

theorem Ended.result_of_outcome {ended : Ended σ} {result : Except FramingError Summary}
    (outcome : ended.outcome = .ok result) : ended.result = result := by
  unfold Ended.outcome at outcome
  split at outcome
  · cases outcome
  · exact Except.ok.inj outcome

def endWith (loop : Loop σ) (result : Except FramingError Summary) : Ended σ :=
  ⟨result, loop.sink, loop.metrics, loop.app, loop.fault⟩

/-- What has gone wrong by the time a response is written, its own exchange included. -/
def faultAfter (loop : Loop σ) (exchanged : Option Fault) : Option Fault :=
  (loop.fault.or exchanged).or (Fault.ofRoom? loop.outputBuffer)

def isStopped (loop : Loop σ) : Bool :=
  match loop.shutdown, loop.receiver with
  | some shutdown, some receiver => shutdown.isReady receiver
  | _, _ => false

/-- Whether there is input. Bytes that are read for it are put back. -/
def awaitInput (session : Session) : Except FramingError Bool × Session :=
  if !session.pending.isEmpty then (.ok true, session)
  else
    match session.read Decoder.chunkSize with
    | (.error message, session) => (.error (.io message), session)
    | (.ok [], session) => (.ok false, session)
    | (.ok chunk, session) => (.ok true, session.unread chunk)

/-- The answer to a request that is not one. -/
def badRequest (error : FramingError) : Response :=
  ((Response.ofStatus .badRequest).setContentType .plainText).withBytes
    (Bytes.ofString error.message)

/-- Stands in for a response whose head would not stay within its lines. -/
def unwritable : Response :=
  ((Response.ofStatus .internalError).setContentType .plainText).withBytes
    (Bytes.ofString "response head contained invalid characters")

def drain (window : Limited Session) : Except FramingError Session :=
  let enough := window.delivery.bytes.length + 1
  match gather (Limited.read Session.read) enough enough window with
  | (.error message, _) => .error (.io message)
  | (.ok _, window) => .ok window.inner

/-- Writes a response, or the one that stands in for it, with the measures that this counts as. -/
def write (sink : Sink) (response : Response) (omitBody : Bool) :
    Except FramingError Sink × List Measure :=
  match sink.writeResponse response omitBody with
  | .error (.invalidResponseHead reason) =>
      (sink.writeResponse unwritable omitBody,
        [Measure.ofProtocolError (FramingError.invalidResponseHead reason).kind])
  | result => (result, [])

def exchange (engine : Engine σ) (freshId : String) (decoded : Decoder.Decoded) (loop : Loop σ) :
    Except (Ended σ) (Loop σ) :=
  let begun : Exchange σ :=
    { toIntake := decoded.intake loop.session, shutdown := loop.shutdown, app := loop.app }
  let (response, answered) := engine.service freshId begun
  let (written, refused) := write loop.sink response (decoded.head.method == "HEAD")
  let loop := { loop with
    metrics := (loop.metrics.recordAll (Engine.measures response answered)).recordAll refused
    fault := loop.faultAfter answered.streams.fault
    shutdown := answered.shutdown
    app := answered.app }
  match written with
  | .error error => .error (loop.endWith (.error error))
  | .ok sink =>
      match drain answered.finish.streams.window with
      | .error error => .error ({ loop with sink }.endWith (.error error))
      | .ok session =>
          .ok { loop with
            session
            sink
            summary := { loop.summary with exchanges := loop.summary.exchanges + 1 } }

def reject (error : FramingError) (loop : Loop σ) : Except (Ended σ) (Loop σ) :=
  let loop := { loop with
    metrics := loop.metrics.record (Measure.ofProtocolError error.kind)
    fault := loop.faultAfter none }
  match loop.sink.writeResponse (badRequest error) false with
  | .error error => .error (loop.endWith (.error error))
  | .ok sink =>
      .ok { loop with
        sink
        summary := { loop.summary with protocolErrors := loop.summary.protocolErrors + 1 } }

inductive Received where
  | finished (result : Except FramingError Unit)
  | request (decoded : Decoder.Decoded) (session : Session)
  | malformed (error : FramingError) (session : Session)

/-- Waits for input, unless the loop was stopped, and reads one request off it. -/
def receive (settings : ServeSettings) (loop : Loop σ) : Received :=
  if loop.isStopped then .finished (.ok ())
  else
    match awaitInput loop.session with
    | (.error error, _) => .finished (.error error)
    | (.ok false, _) => .finished (.ok ())
    | (.ok true, session) =>
        match Decoder.decode settings.inputBufferSize session with
        | (.ok none, _) => .finished (.ok ())
        | (.ok (some decoded), session) => .request decoded session
        | (.error (.io message), _) => .finished (.error (.io message))
        | (.error error, session) => .malformed error session

/-- One turn of the loop: it ends, or it is between two requests again. -/
def step (engine : Engine σ) (settings : ServeSettings) (ids : Nat → String) (loop : Loop σ) :
    Except (Ended σ) (Loop σ) :=
  match loop.receive settings with
  | .finished result => .error (loop.endWith (result.map fun _ => loop.summary))
  | .request decoded session =>
      exchange engine (ids loop.summary.exchanges) decoded { loop with session }
  | .malformed error session => reject error { loop with session }

/-- Turns the loop until it ends. Every turn consumes input. -/
def turn (engine : Engine σ) (settings : ServeSettings) (ids : Nat → String) :
    Nat → Loop σ → Ended σ
  | 0, loop => loop.endWith (.ok loop.summary)
  | fuel + 1, loop =>
      match loop.step engine settings ids with
      | .error ended => ended
      | .ok loop => turn engine settings ids fuel loop

/-- Serves until the input ends or a stop is heeded. -/
def serve (engine : Engine σ) (settings : ServeSettings) (ids : Nat → String) (loop : Loop σ) :
    Ended σ :=
  turn engine settings ids (loop.session.content.length + 1) loop

end Loop

end StreamHttp
