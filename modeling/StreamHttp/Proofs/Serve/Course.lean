import Mathlib.Logic.Relation
import StreamHttp.Proofs.Exchange.StopHandle
import StreamHttp.Proofs.Serve.Arrival
import StreamHttp.Proofs.Serve.Transcript

/-!
A loop whose input is still arriving, and that may be asked to stop at any time. While it waits for
input, the loop listens for the stop too, and the stop goes first. Once it has turned to what
arrived it heeds nothing until it has answered. What it does there is one turn over the input that
has arrived, and serving an input that is there to its end is one such course of things.
-/

namespace StreamHttp

namespace Loop

variable {σ : Type} {engine : Engine σ} {settings : ServeSettings} {ids : Nat → String}
  {number : Nat} {loop after : Loop σ}

theorem exchange_kept (use : engine.HandlersUse number) {freshId : String}
    {decoded : Decoder.Decoded} (answered : exchange engine freshId decoded loop = .ok after) :
    HandleUsed number loop.shutdown after.shutdown := by
  have kept := Engine.kept_service use freshId
    { toIntake := decoded.intake loop.session, shutdown := loop.shutdown, app := loop.app }
  simp only [exchange] at answered
  split at answered
  · cases answered
  · split at answered
    · cases answered
    · cases answered
      exact kept

theorem reject_kept {error : FramingError} (rejected : reject error loop = .ok after) :
    after.shutdown = loop.shutdown := by
  unfold reject at rejected
  simp only at rejected
  generalize loop.sink.writeResponse (badRequest error) false = written at rejected
  cases written with
  | error failure => cases rejected
  | ok sink =>
      cases rejected
      rfl

theorem step_kept (use : engine.HandlersUse number)
    (turned : loop.step engine settings ids = .ok after) :
    HandleUsed number loop.shutdown after.shutdown := by
  unfold step at turned
  cases received : loop.receive settings with
  | finished result => rw [received] at turned; cases turned
  | request decoded session =>
      rw [received] at turned
      have kept := exchange_kept use turned
      exact kept
  | malformed error session =>
      rw [received] at turned
      have kept := reject_kept turned
      rw [kept]
      exact .refl number loop.shutdown

/-- A turn of a loop that is not stopped is the turn of one that does not listen. -/
theorem step_deaf (listening : loop.isStopped = false) :
    loop.step engine settings ids =
      (step engine settings ids { loop with receiver := none }).map fun after =>
        { after with receiver := loop.receiver } := by
  have deaf : ({ loop with receiver := none } : Loop σ).isStopped = false := deaf_listening rfl
  have received : ({ loop with receiver := none } : Loop σ).receive settings =
      loop.receive settings := by
    simp only [receive, deaf, listening]
  unfold step
  rw [received]
  cases loop.receive settings with
  | finished result => simp only [endWith, Except.map]
  | request decoded session =>
      simp only [exchange]
      split
      · rfl
      · split
        · rfl
        · rfl
  | malformed error session =>
      unfold reject
      simp only
      generalize loop.sink.writeResponse (badRequest error) false = written
      cases written with
      | error failure => rfl
      | ok sink => rfl

theorem turn_finished (received : loop.receive settings = .finished (.ok ())) {fuel : Nat} :
    turn engine settings ids (fuel + 1) loop = loop.endWith (.ok loop.summary) := by
  simp only [turn, step, received, Except.map]

end Loop

/-- A loop in the course of time. It is engaged from when its wait for input is over until it waits
again, and the input is closed when nothing more will arrive. -/
structure Run (σ : Type) where
  loop : Loop σ
  engaged : Bool := false
  closed : Bool := false

namespace Run

variable {σ : Type}

def start (shutdown : Shutdown) (app : σ) : Run σ where
  loop :=
    { session := Session.ofSource (Source.ofParts [] none)
      shutdown := some shutdown.subscribe.2
      receiver := some shutdown.subscribe.1
      app }

/-- What has arrived and is not behind the loop yet. -/
def content (run : Run σ) : Bytes := run.loop.session.content

/-- The first byte of a request is there. -/
def Begun (run : Run σ) : Prop := ∃ byte ∈ run.content, Decoder.isLineEnd byte = false

/-- All is there that an exchange needs of the input. -/
def Arrived (settings : ServeSettings) (run : Run σ) : Prop :=
  run.closed = true ∨ Decoder.Settled settings.inputBufferSize run.content

def Triggered (run : Run σ) : Prop :=
  ∃ shutdown, run.loop.shutdown = some shutdown ∧ shutdown.triggered = true

/-- Whether waiting for the stop is over: it was asked for, or nobody is left to ask for it. -/
def stops (run : Run σ) : Bool :=
  run.loop.isStopped || run.loop.receiver.isSome && run.loop.shutdown.isNone

def deaf (run : Run σ) : Loop σ := { run.loop with receiver := none }

def behind (run : Run σ) (after : Loop σ) : Run σ :=
  { run with loop := { after with receiver := run.loop.receiver }, engaged := false }

def arrive (bytes : Bytes) (run : Run σ) : Run σ :=
  { run with loop := { run.loop with session := run.loop.session.arrive bytes } }

theorem content_arrive (bytes : Bytes) (run : Run σ) :
    (run.arrive bytes).content = run.content ++ bytes :=
  Session.content_arrive bytes run.loop.session

def close (run : Run σ) : Run σ := { run with closed := true }

def trigger (run : Run σ) : Run σ :=
  { run with loop := { run.loop with
      shutdown := run.loop.shutdown.map fun shutdown => shutdown.trigger.2 } }

def drop (run : Run σ) : Run σ := { run with loop := { run.loop with shutdown := none } }

def engage (run : Run σ) : Run σ := { run with engaged := true }

/-- What happens to a loop. -/
inductive Event : Run σ → Run σ → Prop where
  | arrive {run : Run σ} (unclosed : run.closed = false) (bytes : Bytes) :
      Event run (run.arrive bytes)
  | close (run : Run σ) : Event run run.close
  | trigger (run : Run σ) : Event run run.trigger
  | drop (run : Run σ) : Event run run.drop

abbrev Events : Run σ → Run σ → Prop := Relation.ReflTransGen Event

section

variable (engine : Engine σ) (settings : ServeSettings) (ids : Nat → String)

/-- Something happens to a loop, or it turns to what arrived, or it is through with that. -/
inductive Step : Run σ → Run σ → Prop where
  | event {run next : Run σ} (event : Event run next) : Step run next
  | engage {run : Run σ} (waiting : run.engaged = false) (listening : run.stops = false)
      (filled : run.content ≠ []) : Step run run.engage
  | turn {run : Run σ} {after : Loop σ} (engaged : run.engaged = true)
      (arrived : run.Arrived settings) (turned : run.deaf.step engine settings ids = .ok after) :
      Step run (run.behind after)

abbrev Steps : Run σ → Run σ → Prop := Relation.ReflTransGen (Step engine settings ids)

inductive Ends : Run σ → Loop.Ended σ → Prop where
  | stopped {run : Run σ} (waiting : run.engaged = false) (stops : run.stops = true) :
      Ends run (run.loop.endWith (.ok run.loop.summary))
  | finished {run : Run σ} (waiting : run.engaged = false) (listening : run.stops = false)
      (closed : run.closed = true) (empty : run.content = []) :
      Ends run (run.loop.endWith (.ok run.loop.summary))
  | last {run : Run σ} {ended : Loop.Ended σ} (engaged : run.engaged = true)
      (arrived : run.Arrived settings)
      (last : run.deaf.step engine settings ids = .error ended) : Ends run ended

/-- The exchange in progress is completed: its answer is written to the last byte. -/
structure Answers (run : Run σ) (answer : Answer) (after : Run σ) : Prop where
  engaged : run.engaged = true
  arrived : run.Arrived settings
  answered : run.deaf.answer? engine settings ids = some answer
  turned : ∃ loop, run.deaf.step engine settings ids = .ok loop ∧ after = run.behind loop
  written : ∃ bytes, answer.response.wire answer.bodiless = .ok bytes ∧
    after.loop.sink = { run.loop.sink with writes := bytes :: run.loop.sink.writes }

end

/-- A loop that listens to the receiver of a number, over an input that does not fail and a sink
that takes all writes. -/
structure Sound (number : Nat) (run : Run σ) : Prop where
  receiver : run.loop.receiver = some number
  heeds : ∀ shutdown, run.loop.shutdown = some shutdown → shutdown.Heeds number
  unbounded : run.loop.sink.room = none
  unfailing : run.loop.session.delivery.failure = none

theorem sound_start (shutdown : Shutdown) (app : σ) :
    (start shutdown app).Sound shutdown.subscribe.1 where
  receiver := rfl
  heeds _ held := Option.some.inj held ▸ shutdown.heeds_subscribe
  unbounded := rfl
  unfailing := rfl

variable {engine : Engine σ} {settings : ServeSettings} {ids : Nat → String} {number : Nat}
  {run next later last : Run σ}

/-- The stop was asked for, if there is anyone to ask for it. -/
def Asked (run : Run σ) : Prop :=
  ∀ shutdown, run.loop.shutdown = some shutdown → shutdown.triggered = true

/-- Waiting for the stop is over as soon as it was asked for, and no sooner. -/
theorem Sound.stops_iff (sound : run.Sound number) : run.stops = true ↔ run.Asked := by
  unfold stops Loop.isStopped Asked
  rw [sound.receiver]
  cases held : run.loop.shutdown with
  | none =>
      refine iff_of_true rfl ?_
      intro shutdown absent
      cases absent
  | some shutdown =>
      have ready := (sound.heeds shutdown held).ready
      simp only [ready, Option.isNone_some, Bool.and_false, Bool.or_false, Option.some.injEq,
        forall_eq']

theorem Triggered.asked (triggered : run.Triggered) : run.Asked := by
  obtain ⟨shutdown, held, raised⟩ := triggered
  intro other same
  cases held.symm.trans same
  exact raised

theorem Event.keeps (event : Event run next) :
    next.engaged = run.engaged ∧ next.loop.sink = run.loop.sink ∧
      (run.closed = true → next.closed = true) ∧ ∃ more, next.content = run.content ++ more := by
  cases event with
  | arrive _ bytes => exact ⟨rfl, rfl, id, bytes, content_arrive bytes run⟩
  | close => exact ⟨rfl, rfl, fun _ => rfl, [], (List.append_nil _).symm⟩
  | trigger => exact ⟨rfl, rfl, id, [], (List.append_nil _).symm⟩
  | drop => exact ⟨rfl, rfl, id, [], (List.append_nil _).symm⟩

theorem Event.sound (event : Event run next) (sound : run.Sound number) : next.Sound number := by
  cases event with
  | arrive _ bytes => exact { sound with }
  | close => exact { sound with }
  | trigger =>
      refine { sound with heeds := fun shutdown same => ?_ }
      obtain ⟨handle, held, rfl⟩ := Option.map_eq_some_iff.1 same
      exact (sound.heeds handle held).trigger
  | drop => exact { sound with heeds := fun _ absent => nomatch absent }

theorem Event.asked (event : Event run next) (asked : run.Asked) : next.Asked := by
  cases event with
  | arrive _ bytes => exact asked
  | close => exact asked
  | trigger =>
      intro shutdown same
      obtain ⟨handle, _, rfl⟩ := Option.map_eq_some_iff.1 same
      exact handle.triggered_trigger
  | drop => exact fun _ absent => nomatch absent

theorem Events.keeps (events : Events run later) :
    later.engaged = run.engaged ∧ later.loop.sink = run.loop.sink ∧
      (run.closed = true → later.closed = true) ∧
      ∃ more, later.content = run.content ++ more := by
  induction events with
  | refl => exact ⟨rfl, rfl, id, [], (List.append_nil _).symm⟩
  | tail _ event induction =>
      obtain ⟨engaged, sink, closed, more, content⟩ := induction
      obtain ⟨engagedNext, sinkNext, closedNext, further, contentNext⟩ := event.keeps
      refine ⟨engagedNext.trans engaged, sinkNext.trans sink, closedNext ∘ closed, more ++ further,
        ?_⟩
      rw [contentNext, content, List.append_assoc]

theorem Events.sound (events : Events run later) (sound : run.Sound number) :
    later.Sound number := by
  induction events with
  | refl => exact sound
  | tail _ event induction => exact event.sound induction

theorem Events.asked (events : Events run later) (asked : run.Asked) : later.Asked := by
  induction events with
  | refl => exact asked
  | tail _ event induction => exact event.asked induction

theorem Events.begun (events : Events run later) (begun : run.Begun) : later.Begun := by
  obtain ⟨_, _, _, more, content⟩ := events.keeps
  obtain ⟨byte, member, text⟩ := begun
  exact ⟨byte, content ▸ List.mem_append_left more member, text⟩

theorem Events.arrived (events : Events run later) (arrived : run.Arrived settings) :
    later.Arrived settings := by
  obtain ⟨_, _, closed, more, content⟩ := events.keeps
  rcases arrived with closedBefore | settled
  · exact .inl (closed closedBefore)
  · right
    rw [content]
    exact settled.append more

theorem Sound.unhindered (sound : run.Sound number) : run.deaf.Unhindered :=
  ⟨rfl, sound.unbounded, sound.unfailing⟩

/-- A turn answers, and it takes something from the input. -/
theorem Sound.advances (sound : run.Sound number) {after : Loop σ}
    (turned : run.deaf.step engine settings ids = .ok after) :
    ∃ answer, run.deaf.answer? engine settings ids = some answer ∧ after.Unhindered ∧
      after.session.content.length < run.content.length := by
  cases sound.unhindered.next engine settings ids with
  | last ended _ => cases turned.symm.trans ended
  | turn answer _ answered took unhindered _ shorter =>
      cases turned.symm.trans took
      exact ⟨answer, answered, unhindered, shorter⟩

theorem handle_behind (use : engine.HandlersUse number) {after : Loop σ}
    (turned : run.deaf.step engine settings ids = .ok after) :
    HandleUsed number run.loop.shutdown (run.behind after).loop.shutdown := by
  have kept := Loop.step_kept use turned
  exact kept

theorem Sound.behind (sound : run.Sound number) (use : engine.HandlersUse number)
    {after : Loop σ} (turned : run.deaf.step engine settings ids = .ok after) :
    (run.behind after).Sound number := by
  obtain ⟨_, _, unhindered, _⟩ := sound.advances turned
  have kept := handle_behind use turned
  refine ⟨sound.receiver, fun shutdown held => ?_, unhindered.unbounded, unhindered.unfailing⟩
  rw [held] at kept
  obtain ⟨handle, before, used⟩ := kept.before
  exact (sound.heeds handle before).used used

theorem Asked.behind (asked : run.Asked) (use : engine.HandlersUse number) {after : Loop σ}
    (turned : run.deaf.step engine settings ids = .ok after) : (run.behind after).Asked := by
  have kept := handle_behind use turned
  intro shutdown held
  rw [held] at kept
  obtain ⟨handle, before, used⟩ := kept.before
  exact used.stays (asked handle before)

theorem Step.sound (use : engine.HandlersUse number) (step : Step engine settings ids run next)
    (sound : run.Sound number) : next.Sound number := by
  cases step with
  | event event => exact event.sound sound
  | engage _ _ _ => exact { sound with }
  | turn _ _ turned => exact sound.behind use turned

theorem Steps.sound (use : engine.HandlersUse number)
    (steps : Steps engine settings ids run later) (sound : run.Sound number) :
    later.Sound number := by
  induction steps with
  | refl => exact sound
  | tail _ step induction => exact step.sound use induction

theorem Events.steps (events : Events run later) : Steps engine settings ids run later := by
  induction events with
  | refl => exact .refl
  | tail _ event induction => exact induction.tail (.event event)

theorem Answers.step {answer : Answer} (answers : Answers engine settings ids run answer next) :
    Step engine settings ids run next := by
  obtain ⟨_, turned, rfl⟩ := answers.turned
  exact .turn answers.engaged answers.arrived turned

theorem Answers.asked {answer : Answer} (answers : Answers engine settings ids run answer next)
    (use : engine.HandlersUse number) (asked : run.Asked) : next.Asked := by
  obtain ⟨_, turned, rfl⟩ := answers.turned
  exact asked.behind use turned

theorem Sound.answers (sound : run.Sound number) (engaged : run.engaged = true)
    (arrived : run.Arrived settings) {after : Loop σ}
    (turned : run.deaf.step engine settings ids = .ok after) :
    ∃ answer, Answers engine settings ids run answer (run.behind after) := by
  obtain ⟨answer, answered, _, _⟩ := sound.advances turned
  have written := Loop.step_wrote sound.unhindered.unbounded answered turned
  exact ⟨answer, engaged, arrived, answered, ⟨after, turned, rfl⟩, written⟩

variable (engine settings ids) in
theorem Sound.turned (sound : run.Sound number) (begun : run.Begun) :
    ∃ after, run.deaf.step engine settings ids = .ok after := by
  obtain ⟨byte, member, text⟩ := begun
  cases sound.unhindered.next engine settings ids with
  | last _ blank => cases (blank byte member).symm.trans text
  | turn _ after _ turned _ _ _ => exact ⟨after, turned⟩

variable (engine ids) in
theorem Sound.settled (sound : run.Sound number)
    (settled : Decoder.Settled settings.inputBufferSize run.content) :
    ∃ after, run.deaf.step engine settings ids = .ok after := by
  have listening : run.deaf.isStopped = false := Loop.deaf_listening rfl
  rcases Loop.settled_heard run.loop.session.source.failure settled with
    ⟨decoded, rest, _, heard, _⟩ | ⟨error, rest, heard, _⟩
  · have past : Delivery.past decoded.window ⟨rest, run.loop.session.source.failure⟩ =
        .ok ⟨rest.drop decoded.window, none⟩ :=
      Delivery.past_unfailing decoded.window sound.unfailing
    obtain ⟨after, turned, _⟩ :=
      Loop.step_request engine ids listening sound.unbounded heard past
    exact ⟨after, turned⟩
  · obtain ⟨after, turned, _⟩ :=
      Loop.step_malformed settings engine ids listening sound.unbounded heard
    exact ⟨after, turned⟩

theorem held_behind (use : engine.HandlersUse number) (held : run.loop.shutdown ≠ none)
    {after : Loop σ} (turned : run.deaf.step engine settings ids = .ok after) :
    (run.behind after).loop.shutdown ≠ none := by
  obtain ⟨handle, held⟩ := Option.ne_none_iff_exists'.1 held
  have kept := handle_behind use turned
  rw [held] at kept
  obtain ⟨_, same, _⟩ := kept
  exact Option.ne_none_iff_exists'.2 ⟨_, same⟩

variable (settings ids) in
theorem Sound.served (sound : run.Sound number) (use : engine.HandlersUse number)
    (held : run.loop.shutdown ≠ none) (waiting : run.engaged = false) (closed : run.closed = true)
    {fuel : Nat} (enough : run.content.length < fuel) :
    ∃ last, Steps engine settings ids run last ∧
      Ends engine settings ids last (Loop.turn engine settings ids fuel run.loop) := by
  induction fuel generalizing run with
  | zero => exact absurd enough (Nat.not_lt_zero _)
  | succ fuel induction =>
      have listens : run.stops = run.loop.isStopped := by
        obtain ⟨handle, held⟩ := Option.ne_none_iff_exists'.1 held
        rw [stops, held, Option.isNone_some, Bool.and_false, Bool.or_false]
      cases stops : run.loop.isStopped with
      | true =>
          have received : run.loop.receive settings = .finished (.ok ()) := by
            rw [Loop.receive, stops, if_pos rfl]
          rw [Loop.turn_finished received]
          exact ⟨run, .refl, .stopped waiting (listens.trans stops)⟩
      | false =>
          have listening : run.stops = false := listens.trans stops
          by_cases empty : run.content = []
          · have nothing : run.loop.session.delivery = ⟨[], none⟩ := by
              rw [← sound.unfailing, ← empty]
              rfl
            have received : run.loop.receive settings = .finished (.ok ()) :=
              Loop.receive_finished stops (by rw [nothing]; rfl)
            rw [Loop.turn_finished received]
            exact ⟨run, .refl, .finished waiting listening closed empty⟩
          · have engage : Step engine settings ids run run.engage :=
              .engage waiting listening empty
            have same : run.loop.step engine settings ids =
                (run.deaf.step engine settings ids).map fun after => (run.behind after).loop :=
              Loop.step_deaf stops
            rw [Loop.turn, same]
            cases turned : run.deaf.step engine settings ids with
            | error ended => exact ⟨_, .single engage, .last rfl (.inl closed) turned⟩
            | ok after =>
                obtain ⟨_, _, _, shorter⟩ := sound.advances turned
                have answer : Step engine settings ids run.engage (run.behind after) :=
                  .turn rfl (.inl closed) turned
                obtain ⟨last, steps, ends⟩ := induction (sound.behind use turned)
                  (held_behind use held turned) rfl closed
                  (Nat.lt_of_lt_of_le shorter (Nat.le_of_lt_succ enough))
                exact ⟨last, .head engage (.head answer steps), ends⟩

theorem events_parts (run : Run σ) (unclosed : run.closed = false) (parts : List Bytes) :
    let session := parts.foldl (fun session part => session.arrive part) run.loop.session
    Events run { run with loop := { run.loop with session } } := by
  induction parts generalizing run with
  | nil => exact .refl
  | cons part rest induction => exact .head (.arrive unclosed part) (induction _ unclosed)

theorem session_parts (parts : List Bytes) (session : Session) :
    (parts.foldl (fun session part => session.arrive part) session) =
      { session with source := { session.source with
          parts := session.source.parts ++ parts.filter fun part => !part.isEmpty
          nonempty := by simp [session.source.nonempty] } } := by
  induction parts generalizing session with
  | nil => simp
  | cons part rest induction =>
      rw [List.foldl_cons, induction]
      simp only [Session.arrive, Source.arrive, List.append_assoc, ← List.filter_append,
        List.singleton_append]

/-- Serving an input that is there to its end is one of the courses that things can take. -/
theorem serve_run {shutdown : Shutdown} (use : engine.HandlersUse shutdown.subscribe.1)
    (parts : List Bytes) (app : σ) :
    let loop : Loop σ :=
      { session := Session.ofSource (Source.ofParts parts none)
        shutdown := some shutdown.subscribe.2
        receiver := some shutdown.subscribe.1
        app }
    ∃ last, Steps engine settings ids (start shutdown app) last ∧
      Ends engine settings ids last (Loop.serve engine settings ids loop) := by
  intro loop
  have arrived := events_parts (start shutdown app) rfl parts
  rw [session_parts] at arrived
  have closed : Events (start shutdown app) { loop, closed := true } :=
    arrived.tail (.close { loop })
  have sound := Events.sound closed (sound_start shutdown app)
  obtain ⟨last, steps, ends⟩ :=
    Sound.served settings ids sound use (Option.some_ne_none _) rfl rfl (Nat.lt_succ_self _)
  exact ⟨last, (Events.steps closed).trans steps, ends⟩

end Run

end StreamHttp
