import StreamHttp.Proofs.Serve.Faults
import StreamHttp.Proofs.Serve.Resumption
import StreamHttp.Proofs.Wire.ReadBack

/-!
The transcript of a loop. Every turn that does not end the loop takes input and writes one answer, a
whole message that is read back as what the answer means. So an input that ends is answered to its
end, one message for each exchange and each rejection, and nothing but a failure of input or sink
could end the loop before.
-/

namespace StreamHttp

/-- What a turn answers: a request, or what was not one. -/
inductive Answer where
  | exchange (response : Response) (bodiless : Bool)
  | rejection (error : FramingError)

namespace Answer

def response : Answer → Response
  | .exchange response _ => Loop.writable response
  | .rejection error => Loop.badRequest error

def bodiless : Answer → Bool
  | .exchange _ bodiless => bodiless
  | .rejection _ => false

def isExchange : Answer → Bool
  | .exchange _ _ => true
  | .rejection _ => false

/-- What the receiver is to read, if the body of the response is encoded. -/
def message? (answer : Answer) : Option WireMessage :=
  answer.response.encodedBody?.map (answer.response.message answer.bodiless)

def count (answer : Answer) (summary : Summary) : Summary :=
  match answer with
  | .exchange _ _ => { summary with exchanges := summary.exchanges + 1 }
  | .rejection _ => { summary with protocolErrors := summary.protocolErrors + 1 }

end Answer

namespace Loop

variable {σ : Type} (engine : Engine σ) (settings : ServeSettings) (ids : Nat → String)

def answer? (loop : Loop σ) : Option Answer :=
  match loop.receive settings with
  | .finished _ => none
  | .malformed error _ => some (.rejection error)
  | .request decoded session =>
      let begun : Exchange σ :=
        { toIntake := decoded.intake session, shutdown := loop.shutdown, app := loop.app }
      some (.exchange (engine.service (ids loop.summary.exchanges) begun).1
        (decoded.head.method == "HEAD"))

/-- Turns from one loop to another, with what they answer. -/
inductive Turns : Loop σ → List Answer → Loop σ → Prop where
  | none (loop : Loop σ) : Turns loop [] loop
  | more {loop next last : Loop σ} {answer : Answer} {answers : List Answer}
      (answered : loop.answer? engine settings ids = some answer)
      (turned : loop.step engine settings ids = .ok next) (later : Turns next answers last) :
      Turns loop (answer :: answers) last

/-- A loop that nothing but its input can end: it heeds no stop, its sink takes all writes and its
input does not fail. -/
structure Unhindered (loop : Loop σ) : Prop where
  deaf : loop.receiver = none
  unbounded : loop.sink.room = none
  unfailing : loop.session.delivery.failure = none

variable {engine settings ids} {loop after last : Loop σ} {answer : Answer} {answers : List Answer}

theorem exchange_wrote {freshId : String} {decoded : Decoder.Decoded}
    (unbounded : loop.sink.room = none)
    (answered : exchange engine freshId decoded loop = .ok after) :
    let begun : Exchange σ :=
      { toIntake := decoded.intake loop.session, shutdown := loop.shutdown, app := loop.app }
    ∃ bytes,
      (writable (engine.service freshId begun).1).wire (decoded.head.method == "HEAD") =
        .ok bytes ∧
      after.sink = { loop.sink with writes := bytes :: loop.sink.writes } := by
  have encoded := engine.service_encoded freshId
    { toIntake := decoded.intake loop.session, shutdown := loop.shutdown, app := loop.app }
  simp only [exchange] at answered
  simp only
  generalize engine.service freshId
    { toIntake := decoded.intake loop.session, shutdown := loop.shutdown, app := loop.app }
    = served at answered encoded ⊢
  obtain ⟨response, reply⟩ := served
  obtain ⟨body, encoded⟩ := encoded
  obtain ⟨bytes, wired, outcome⟩ :=
    write_unbounded unbounded encoded (decoded.head.method == "HEAD")
  refine ⟨bytes, wired, ?_⟩
  generalize write loop.sink response (decoded.head.method == "HEAD") = wrote at outcome answered
  obtain ⟨result, refused⟩ := wrote
  simp only at outcome
  subst outcome
  simp only at answered
  split at answered
  · cases answered
  · cases answered
    rfl

theorem reject_wrote {error : FramingError} (unbounded : loop.sink.room = none)
    (rejected : reject error loop = .ok after) :
    ∃ bytes, (badRequest error).wire false = .ok bytes ∧
      after.sink = { loop.sink with writes := bytes :: loop.sink.writes } := by
  obtain ⟨bytes, wired⟩ := bad_request_wire error
  have written := Sink.write_response_unbounded unbounded wired
  unfold reject at rejected
  simp only [written] at rejected
  exact ⟨bytes, wired, (congrArg Loop.sink (Except.ok.inj rejected)).symm⟩

theorem step_wrote (unbounded : loop.sink.room = none)
    (answered : loop.answer? engine settings ids = some answer)
    (turned : loop.step engine settings ids = .ok after) :
    ∃ bytes, answer.response.wire answer.bodiless = .ok bytes ∧
      after.sink = { loop.sink with writes := bytes :: loop.sink.writes } := by
  unfold step at turned
  unfold answer? at answered
  cases received : loop.receive settings with
  | finished result =>
      rw [received] at answered
      cases answered
  | request decoded session =>
      rw [received] at answered turned
      cases answered
      have heard : ({ loop with session } : Loop σ).sink.room = none := unbounded
      -- Stated apart: against the goal the loop is not known yet, and a whole turn is unfolded.
      have wrote := exchange_wrote heard turned
      exact wrote
  | malformed error session =>
      rw [received] at answered turned
      cases answered
      have heard : ({ loop with session } : Loop σ).sink.room = none := unbounded
      have wrote := reject_wrote heard turned
      exact wrote

inductive Unhindered.Next (engine : Engine σ) (settings : ServeSettings) (ids : Nat → String)
    (loop : Loop σ) : Prop where
  | last (ended : loop.step engine settings ids = .error (loop.endWith (.ok loop.summary)))
      (blank : ∀ byte ∈ loop.session.content, Decoder.isLineEnd byte = true)
  | turn (answer : Answer) (after : Loop σ)
      (answered : loop.answer? engine settings ids = some answer)
      (turned : loop.step engine settings ids = .ok after) (unhindered : after.Unhindered)
      (counted : after.summary = answer.count loop.summary)
      (shorter : after.session.content.length < loop.session.content.length)

theorem Unhindered.next (unhindered : loop.Unhindered) (engine : Engine σ)
    (settings : ServeSettings) (ids : Nat → String) : Next engine settings ids loop := by
  have listening := deaf_listening unhindered.deaf
  have advances := hear_advances settings.inputBufferSize unhindered.unfailing
  cases heard : hear settings.inputBufferSize loop.session.delivery with
  | finished result =>
      rw [heard] at advances
      obtain ⟨rfl, blank⟩ := advances
      have received := receive_finished listening heard
      refine .last ?_ blank
      rw [step, received]
      rfl
  | request decoded rest =>
      rw [heard] at advances
      obtain ⟨unfailing, shorter⟩ := advances
      have past := Delivery.past_unfailing decoded.window unfailing
      obtain ⟨session, received, _⟩ := receive_request listening heard
      obtain ⟨after, turned, left, room, receiver, summary⟩ :=
        step_request engine ids listening unhindered.unbounded heard past
      have content : after.session.content = rest.bytes.drop decoded.window :=
        congrArg Delivery.bytes left
      obtain ⟨response, answered⟩ : ∃ response, loop.answer? engine settings ids =
          some (.exchange response (decoded.head.method == "HEAD")) := by
        rw [answer?, received]
        exact ⟨_, rfl⟩
      refine .turn _ after answered turned ⟨receiver.trans unhindered.deaf, room, ?_⟩ summary ?_
      · rw [left]
      · rw [content, List.length_drop]
        exact Nat.lt_of_le_of_lt (Nat.sub_le _ _) shorter
  | malformed error rest =>
      rw [heard] at advances
      obtain ⟨unfailing, shorter⟩ := advances
      obtain ⟨session, received, _⟩ := receive_malformed listening heard
      obtain ⟨after, turned, left, room, receiver, summary⟩ :=
        step_malformed settings engine ids listening unhindered.unbounded heard
      have answered : loop.answer? engine settings ids = some (.rejection error) := by
        rw [answer?, received]
      refine .turn _ after answered turned ⟨receiver.trans unhindered.deaf, room, ?_⟩ summary ?_
      · rw [left]
        exact unfailing
      · rw [show after.session.content = rest.bytes from congrArg Delivery.bytes left]
        exact shorter

theorem answer_encoded (answered : loop.answer? engine settings ids = some answer) :
    ∃ body, answer.response.encodedBody? = some body := by
  unfold answer? at answered
  split at answered
  · cases answered
  · cases answered
    exact ⟨_, rfl⟩
  · cases answered
    obtain ⟨body, encoded⟩ := engine.service_encoded _ _
    exact writable_encoded encoded

/-- The turns of an unhindered loop write the messages that their answers mean, one behind the
other. -/
theorem Turns.read (turns : Turns engine settings ids loop answers last)
    (unhindered : loop.Unhindered) :
    last.Unhindered ∧
    last.summary = answers.foldl (fun summary answer => answer.count summary) loop.summary ∧
    ∃ bytes messages, last.sink.written = loop.sink.written ++ bytes ∧
      answers.map Answer.message? = messages.map some ∧
      ∀ rest, WireMessage.readAll (answers.map Answer.bodiless) (bytes ++ rest) =
        some (messages, rest) := by
  induction turns with
  | none loop => exact ⟨unhindered, rfl, [], [], (List.append_nil _).symm, rfl, fun _ => rfl⟩
  | @more loop next last answer answers answered turned later induction =>
      obtain ⟨unhindered, counted⟩ :
          next.Unhindered ∧ next.summary = answer.count loop.summary := by
        cases unhindered.next engine settings ids with
        | last ended => cases turned.symm.trans ended
        | turn other after said took unhindered counted =>
            cases answered.symm.trans said
            cases turned.symm.trans took
            exact ⟨unhindered, counted⟩
      obtain ⟨bytes, wired, sink⟩ := step_wrote ‹loop.Unhindered›.unbounded answered turned
      obtain ⟨body, encoded⟩ := answer_encoded answered
      obtain ⟨open_, summary, others, messages, written, meant, read⟩ := induction unhindered
      refine ⟨open_, ?_, bytes ++ others, answer.response.message answer.bodiless body :: messages,
        ?_, ?_, fun rest => ?_⟩
      · rw [summary, counted, List.foldl_cons]
      · rw [written, sink, Sink.written_behind, List.append_assoc]
      · rw [List.map_cons, List.map_cons, meant, Answer.message?, encoded]
        rfl
      · rw [List.map_cons, WireMessage.readAll, List.append_assoc, Response.read_wire encoded wired]
        simp only [Option.bind_eq_bind, Option.bind_some, read rest]
        rfl

/-- A loop that nothing hinders turns until only line ends are left. -/
theorem Unhindered.turns (unhindered : loop.Unhindered) (engine : Engine σ)
    (settings : ServeSettings) (ids : Nat → String) {fuel : Nat}
    (enough : loop.session.content.length < fuel) :
    ∃ answers last, Turns engine settings ids loop answers last ∧
      last.step engine settings ids = .error (turn engine settings ids fuel loop) ∧
      turn engine settings ids fuel loop = last.endWith (.ok last.summary) ∧
      ∀ byte ∈ last.session.content, Decoder.isLineEnd byte = true := by
  induction fuel generalizing loop with
  | zero => exact absurd enough (Nat.not_lt_zero _)
  | succ fuel induction =>
      cases unhindered.next engine settings ids with
      | last ended blank =>
          have same : turn engine settings ids (fuel + 1) loop =
              loop.endWith (.ok loop.summary) := by
            rw [turn, ended]
          exact ⟨[], loop, .none loop, same ▸ ended, same, blank⟩
      | turn answer after answered turned unhindered _ shorter =>
          obtain ⟨answers, last, turns, ended, same, blank⟩ := induction unhindered (by omega)
          have unfolded : turn engine settings ids (fuel + 1) loop =
              turn engine settings ids fuel after := by
            rw [turn, turned]
          rw [unfolded]
          exact ⟨answer :: answers, last, .more answered turned turns, ended, same, blank⟩

theorem counted_exchanges (answers : List Answer) (summary : Summary) :
    (answers.foldl (fun summary answer => answer.count summary) summary).exchanges =
        summary.exchanges + answers.countP Answer.isExchange ∧
      (answers.foldl (fun summary answer => answer.count summary) summary).protocolErrors =
        summary.protocolErrors + answers.countP fun answer => !answer.isExchange := by
  induction answers generalizing summary with
  | nil => exact ⟨rfl, rfl⟩
  | cons answer answers induction =>
      rw [List.foldl_cons, (induction _).1, (induction _).2]
      cases answer with
      | exchange response bodiless =>
          rw [List.countP_cons_of_pos rfl, List.countP_cons_of_neg (by simp [Answer.isExchange])]
          exact ⟨by simp only [Answer.count]; omega, rfl⟩
      | rejection error =>
          rw [List.countP_cons_of_neg (by simp [Answer.isExchange]), List.countP_cons_of_pos rfl]
          exact ⟨rfl, by simp only [Answer.count]; omega⟩

/-- Behind a head that is rejected the loop goes on right behind its blank line. -/
theorem rejection_resumes {error : FramingError}
    (answered : loop.answer? engine settings ids = some (.rejection error))
    (turned : loop.step engine settings ids = .ok after) {block rest : Bytes}
    (read : Decoder.headBlock? settings.inputBufferSize loop.session.content =
      some (block, rest)) : after.session.content = rest := by
  rcases step_heard turned with ⟨decoded, left, _, dispatched, _⟩ | ⟨problem, malformed, _⟩
  · unfold answer? at answered
    cases received : loop.receive settings with
    | finished result => rw [received] at dispatched; cases dispatched
    | malformed error session => rw [received] at dispatched; cases dispatched
    | request other session => rw [received] at answered; cases answered
  · exact congrArg Delivery.bytes ((hear_head loop.session.delivery read).2 problem _ malformed)

/-- Serving an input that does not fail, with no stop to heed, ends well unless there is a fault, and
only where nothing but line ends is left. What is written is one whole message for each exchange and
each rejection, in their order, with the body of its response. Behind a rejected head the loop goes
on right behind the blank line. There is no fault as long as there can be room for what the limits
of the engine let in. -/
theorem serve_answers (engine : Engine σ) (settings : ServeSettings) (ids : Nat → String)
    {source : Source} (unfailing : source.failure = none) (outputBuffer : Nat)
    (shutdown : Option Shutdown) (app : σ) :
    let start : Loop σ := { session := Session.ofSource source, outputBuffer, shutdown, app }
    let ended := serve engine settings ids start
    (engine.Modest → outputBuffer ≤ Fault.mostRoom → ended.outcome = .ok ended.result) ∧
    (∀ result, ended.outcome = .ok result → ∃ answers last messages summary,
      Turns engine settings ids start answers last ∧
      last.step engine settings ids = .error ended ∧
      (∀ byte ∈ last.session.content, Decoder.isLineEnd byte = true) ∧
      result = .ok summary ∧
      summary.exchanges = answers.countP Answer.isExchange ∧
      messages.length = summary.exchanges + summary.protocolErrors ∧
      answers.map Answer.message? = messages.map some ∧
      WireMessage.readAll (answers.map Answer.bodiless) ended.sink.written = some (messages, [])) ∧
    ∀ (before after : Loop σ) (error : FramingError) (block rest : Bytes),
      before.answer? engine settings ids = some (.rejection error) →
      before.step engine settings ids = .ok after →
      Decoder.headBlock? settings.inputBufferSize before.session.content = some (block, rest) →
      after.session.content = rest := by
  intro start ended
  refine ⟨?_, ?_, fun before after error block rest answered turned read =>
    rejection_resumes answered turned read⟩
  · intro modest roomy
    have fault : ended.fault = none := turn_faultless modest settings ids _ ⟨rfl, roomy⟩
    rw [Ended.outcome, fault]
  intro result outcome
  have unhindered : start.Unhindered := ⟨rfl, rfl, unfailing⟩
  obtain ⟨answers, last, turns, finished, same, blank⟩ :=
    unhindered.turns engine settings ids (Nat.lt_succ_self _)
  obtain ⟨_, summary, bytes, messages, written, meant, read⟩ := turns.read unhindered
  have counts := counted_exchanges answers start.summary
  rw [← summary] at counts
  have exchanges : last.summary.exchanges = answers.countP Answer.isExchange :=
    counts.1.trans (Nat.zero_add _)
  have errors : last.summary.protocolErrors = answers.countP fun answer => !answer.isExchange :=
    counts.2.trans (Nat.zero_add _)
  have total : messages.length = answers.length := by
    have lengths := congrArg List.length meant
    rw [List.length_map, List.length_map] at lengths
    exact lengths.symm
  have wrote : ended.sink.written = bytes := by
    change (turn engine settings ids _ start).sink.written = bytes
    rw [same]
    exact written
  refine ⟨answers, last, messages, last.summary, turns, finished, blank, ?_, exchanges, ?_, meant,
    ?_⟩
  · exact (Ended.result_of_outcome outcome).symm.trans (congrArg Ended.result same)
  · rw [total, exchanges, errors]
    simpa using List.length_eq_countP_add_countP Answer.isExchange (l := answers)
  · have whole := read []
    rw [List.append_nil] at whole
    rw [wrote]
    exact whole

theorem bare_modest : Engine.bare.Modest where
  satisfier _ _ := Binding.obeys_request_binder (by decide : 10485760 ≤ Fault.mostRoom) _ _ _
  fields := (by decide : 10485760 ≤ Fault.mostRoom)
  routes _ member := absurd member List.not_mem_nil
  statusRoutes _ member := absurd member List.not_mem_nil
  errorRoutes _ member := absurd member List.not_mem_nil
  filters _ member := absurd member List.not_mem_nil

/-- Noise with a request behind it, whose answer has no body. -/
theorem serve_answers_noise :
    let noise := Bytes.ofString "noise\r\n\r\n"
    let request := Bytes.ofString "HEAD / HTTP/1.1\r\n\r\n"
    let source := Source.ofParts [noise, request] none
    let start : Loop Unit := { session := Session.ofSource source, outputBuffer := 64, app := () }
    let ended := serve Engine.bare {} toString start
    source.failure = none ∧
    ∃ (answers : List Answer) (messages : List WireMessage) (summary : Summary),
      ended.outcome = .ok (.ok summary) ∧
      messages.length = summary.exchanges + summary.protocolErrors ∧
      answers.map Answer.message? = messages.map some ∧
      WireMessage.readAll (answers.map Answer.bodiless) ended.sink.written =
        some (messages, []) := by
  intro noise request source start ended
  have unfailing : source.failure = none := rfl
  obtain ⟨faultless, served, _⟩ := serve_answers Engine.bare {} toString unfailing 64 none ()
  have outcome : ended.outcome = .ok ended.result := faultless bare_modest (by decide)
  obtain ⟨answers, last, messages, summary, _, _, _, result, _, total, meant, read⟩ :=
    served ended.result outcome
  exact ⟨unfailing, answers, messages, summary, result ▸ outcome, total, meant, read⟩

end Loop

end StreamHttp
