import StreamHttp.Proofs.Exchange.Agreement
import StreamHttp.Proofs.Serve.Receive

/-!
One turn of the loop. Whatever the application does with a body, the loop goes on right behind it:
the window keeps account of what was read, and the drain passes the rest. Two loops with the same in
store take the same turn.
-/

namespace StreamHttp.Loop

variable {σ : Type}

/-- Loops that differ in nothing but how their input comes. -/
structure Paired (first second : Loop σ) : Prop where
  store : first.session.delivery = second.session.delivery
  sink : first.sink = second.sink
  summary : first.summary = second.summary
  metrics : first.metrics = second.metrics
  shutdown : first.shutdown = second.shutdown
  receiver : first.receiver = second.receiver
  app : first.app = second.app
  outputBuffer : first.outputBuffer = second.outputBuffer
  fault : first.fault = second.fault

theorem Paired.refl (loop : Loop σ) : Paired loop loop :=
  ⟨rfl, rfl, rfl, rfl, rfl, rfl, rfl, rfl, rfl⟩

theorem Paired.end_with {first second : Loop σ} (pair : Paired first second)
    (result : Except FramingError Summary) : first.endWith result = second.endWith result := by
  simp only [endWith, pair.sink, pair.metrics, pair.app, pair.fault]

theorem Paired.fault_after {first second : Loop σ} (pair : Paired first second)
    (exchanged : Option Fault) : first.faultAfter exchanged = second.faultAfter exchanged := by
  simp only [faultAfter, pair.fault, pair.outputBuffer]

theorem Paired.stopped {first second : Loop σ} (pair : Paired first second) :
    first.isStopped = second.isStopped := by
  simp only [isStopped, pair.shutdown, pair.receiver]

/-- A turn that two loops take alike: they end alike, or both go on with `rest` in store. -/
inductive Turned (rest : Except String Delivery) :
    Except (Ended σ) (Loop σ) → Except (Ended σ) (Loop σ) → Prop where
  | ended (last : Ended σ) : Turned rest (.error last) (.error last)
  | between {first second : Loop σ} (pair : Paired first second)
      (left : rest = .ok first.session.delivery) : Turned rest (.ok first) (.ok second)

theorem drain_past {input : Delivery} {size : Nat} {window : Limited Session}
    (within : window.Within input size) :
    (∃ message, input.past size = .error message ∧ drain window = .error (.io message)) ∨
      ∃ session, input.past size = .ok session.delivery ∧ drain window = .ok session := by
  rw [Limited.gather_rest within]
  simp only [drain]
  generalize gather (Limited.read Session.read) _ _ window = answer
  rcases answer with ⟨message | bytes, after⟩
  · exact .inl ⟨message, rfl, rfl⟩
  · exact .inr ⟨after.inner, rfl, rfl⟩

section

variable {habits : Habits} {related : Streams → Streams → Prop} {engine : Engine σ}
  {first second : Loop σ} {decoded : Decoder.Decoded}

variable (decoded) in
/-- An exchange takes the store past the body of its request, whatever is done with the body. -/
theorem exchange_turned (respected : Streams.Respected habits related)
    (uses : engine.Obeys habits) (freshId : String) (pair : Paired first second)
    (start : related (Streams.ofSession first.session decoded.window)
      (Streams.ofSession second.session decoded.window))
    (accounted : ∀ before after, related before after →
      before.window.Within first.session.delivery decoded.window ∧
        after.window.Within first.session.delivery decoded.window)
    (faults : ∀ before after, related before after → before.fault = after.fault) :
    Turned (first.session.delivery.past decoded.window)
      (exchange engine freshId decoded first) (exchange engine freshId decoded second) := by
  have served := Engine.agrees_service respected uses freshId
    { toIntake := decoded.intake first.session, shutdown := first.shutdown, app := first.app }
    { toIntake := decoded.intake second.session, shutdown := second.shutdown, app := second.app }
    ⟨rfl, pair.shutdown, pair.app, start⟩
  simp only [exchange, pair.sink, pair.metrics, pair.summary]
  generalize engine.service freshId
    { toIntake := decoded.intake first.session, shutdown := first.shutdown, app := first.app }
    = before at served
  generalize engine.service freshId
    { toIntake := decoded.intake second.session, shutdown := second.shutdown, app := second.app }
    = after at served
  obtain ⟨response, answered⟩ := before
  obtain ⟨other, reply⟩ := after
  obtain ⟨rfl, served⟩ := served
  change Exchange.Paired related answered reply at served
  have measured : Engine.measures response answered = Engine.measures response reply := by
    simp only [Engine.measures, served.head, served.request]
  have windows := accounted _ _ (served.finish respected).streams
  simp only [measured, served.app, served.shutdown, faults _ _ served.streams, pair.fault_after,
    pair.outputBuffer]
  generalize write second.sink response (decoded.head.method == "HEAD") = outcome
  rcases outcome with ⟨_ | sink, refused⟩
  · simp only [endWith]
    exact .ended _
  · simp only
    rcases drain_past windows.1 with ⟨message, failed, drained⟩ | ⟨session, passed, drained⟩
    · rcases drain_past windows.2 with ⟨other, failedToo, drainedToo⟩ | ⟨_, passedToo, _⟩
      · rw [drained, drainedToo]
        cases failed.symm.trans failedToo
        exact .ended _
      · cases failed.symm.trans passedToo
    · rcases drain_past windows.2 with ⟨_, failedToo, _⟩ | ⟨sessionToo, passedToo, drainedToo⟩
      · cases passed.symm.trans failedToo
      · rw [drained, drainedToo]
        have same : session.delivery = sessionToo.delivery :=
          Except.ok.inj (passed.symm.trans passedToo)
        exact .between ⟨same, rfl, rfl, rfl, rfl, pair.receiver, rfl, rfl, rfl⟩ passed

/-- Whatever an engine does with a body, it accounts for it in the window. -/
theorem served_within (engine : Engine σ) (freshId : String) (decoded : Decoder.Decoded)
    (session : Session) (shutdown : Option Shutdown) (app : σ) :
    let begun : Exchange σ := { toIntake := decoded.intake session, shutdown, app }
    (engine.service freshId begun).2.finish.streams.window.Within session.delivery
      decoded.window := by
  intro begun
  have respected := Streams.respected_same (Limited.Within session.delivery decoded.window)
    fun count _ within => within.read count
  have served := Engine.agrees_service respected engine.obeys_any freshId begun begun
    ⟨rfl, rfl, rfl, rfl, Limited.within_start session decoded.window⟩
  exact (served.2.finish respected).streams.2

theorem exchange_rest (engine : Engine σ) (freshId : String) {loop after : Loop σ}
    (answered : exchange engine freshId decoded loop = .ok after) :
    loop.session.delivery.past decoded.window = .ok after.session.delivery := by
  have turned := exchange_turned decoded
    (Streams.respected_same (Limited.Within loop.session.delivery decoded.window)
      fun count _ within => within.read count)
    engine.obeys_any freshId (Paired.refl loop)
    ⟨rfl, Limited.within_start loop.session decoded.window⟩
    (fun before after same => ⟨same.2, same.1 ▸ same.2⟩)
    (fun before after same => congrArg Streams.fault same.1)
  rw [answered] at turned
  cases turned with
  | between _ left => exact left

end

theorem reject_turned (error : FramingError) {first second : Loop σ} (pair : Paired first second) :
    Turned (.ok first.session.delivery) (reject error first) (reject error second) := by
  unfold reject
  simp only [pair.sink, pair.metrics, pair.summary, pair.fault_after]
  generalize second.sink.writeResponse (badRequest error) false = written
  cases written with
  | error failure =>
      simp only [endWith, pair.app]
      exact .ended _
  | ok sink =>
      exact .between ⟨pair.store, rfl, rfl, rfl, pair.shutdown, pair.receiver, pair.app,
        pair.outputBuffer, rfl⟩ rfl

end StreamHttp.Loop
