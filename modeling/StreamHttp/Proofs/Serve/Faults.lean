import StreamHttp.Proofs.Serve.Turn

/-!
Faults of a loop. A loop whose engine buffers bodies only under limits that there can be room for,
and whose own buffer there is room for, turns without a fault, whatever its input is. A limit that
asks for more than that leaves the end of the program to whoever announces a body.
-/

namespace StreamHttp.Loop

variable {σ : Type} {engine : Engine σ} {loop : Loop σ}

/-- Nothing has gone wrong, and nothing will where a response is written. -/
structure Faultless (loop : Loop σ) : Prop where
  fault : loop.fault = none
  roomy : loop.outputBuffer ≤ Fault.mostRoom

theorem Faultless.after (faultless : loop.Faultless) : loop.faultAfter none = none := by
  rw [faultAfter, faultless.fault]
  exact Fault.of_room_none.2 faultless.roomy

inductive TurnedFaultless : Except (Ended σ) (Loop σ) → Prop where
  | ended {last : Ended σ} (fault : last.fault = none) : TurnedFaultless (.error last)
  | between {after : Loop σ} (faultless : after.Faultless) : TurnedFaultless (.ok after)

theorem exchange_faultless (modest : engine.Modest) (freshId : String)
    (decoded : Decoder.Decoded) (faultless : loop.Faultless) :
    TurnedFaultless (exchange engine freshId decoded loop) := by
  let begun : Exchange σ :=
    { toIntake := decoded.intake loop.session, shutdown := loop.shutdown, app := loop.app }
  have served := Engine.agrees_service Streams.respected_faultless modest freshId begun begun
    ⟨rfl, rfl, rfl, rfl, rfl⟩
  have answered : loop.faultAfter (engine.service freshId begun).2.streams.fault = none := by
    rw [served.2.streams.2]
    exact faultless.after
  unfold exchange
  dsimp only
  split
  next => exact .ended answered
  next =>
    split
    next => exact .ended answered
    next => exact .between ⟨answered, faultless.roomy⟩

theorem reject_faultless (error : FramingError) (faultless : loop.Faultless) :
    TurnedFaultless (reject error loop) := by
  unfold reject
  dsimp only
  split
  next => exact .ended faultless.after
  next => exact .between ⟨faultless.after, faultless.roomy⟩

theorem step_faultless (modest : engine.Modest) (settings : ServeSettings) (ids : Nat → String)
    (faultless : loop.Faultless) : TurnedFaultless (loop.step engine settings ids) := by
  unfold step
  split
  next => exact .ended faultless.fault
  next => exact exchange_faultless modest _ _ ⟨faultless.fault, faultless.roomy⟩
  next => exact reject_faultless _ ⟨faultless.fault, faultless.roomy⟩

theorem turn_faultless (modest : engine.Modest) (settings : ServeSettings) (ids : Nat → String)
    (fuel : Nat) (faultless : loop.Faultless) :
    (turn engine settings ids fuel loop).fault = none := by
  induction fuel generalizing loop with
  | zero => exact faultless.fault
  | succ fuel induction =>
      have turned := step_faultless modest settings ids faultless
      unfold turn
      generalize loop.step engine settings ids = next at turned
      cases turned with
      | ended fault => exact fault
      | between faultless => exact induction faultless

/-- A route for uploads, which are bound as a whole, without a limit to speak of. -/
def uploadEngine : Engine Unit :=
  Engine.ofTable
    { routes :=
        [{ spec :=
            { method := some "POST"
              template := (Template.parse "/").toOption
              params := [⟨"pet", .body, .json, true⟩] }
           handler := (pure .empty : Handling Unit Outcome) }] }
    Codecs.standard [] { maxBufferedBody := 9223372036854775808 }

/-- An upload is announced that there can be no room for. -/
theorem vast_upload_faults :
    let head := "POST / HTTP/1.1\r\nContent-Length: 9223372036854775808\r\n\r\n"
    let source := Source.ofParts [Bytes.ofString head] none
    let start : Loop Unit := { session := Session.ofSource source, app := () }
    source.failure = none ∧
      (serve uploadEngine {} toString start).outcome = .error .capacity := by
  intro head source start
  have fault : (serve uploadEngine {} toString start).fault = some .capacity := by
    decide +kernel
  refine ⟨rfl, ?_⟩
  rw [Ended.outcome, fault]

end StreamHttp.Loop
