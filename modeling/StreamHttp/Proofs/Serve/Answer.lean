import StreamHttp.Proofs.Serve.Turn
import StreamHttp.Proofs.Wire.Encoder

/-!
Answers that can be written. An engine encodes every response, and what cannot stand in a head is
answered by a response that can; so where the sink has room, an exchange is always answered and
counted, and so is a rejection.
-/

namespace StreamHttp

namespace Response

theorem encoded_body (codecs : Codecs) (charset : String) (response : Response) :
    ∃ body, (response.encode codecs charset).encodedBody? = some body := by
  unfold encode
  split
  next encoded tried =>
    unfold tryEncode at tried
    simp only at tried
    split at tried
    next empty =>
      cases tried
      exact ⟨[], by rw [encodedBody?, empty]⟩
    next bytes _ => cases tried; exact ⟨bytes, rfl⟩
    next content _ => cases tried; exact ⟨Bytes.ofString content, rfl⟩
    next writable _ =>
      split at tried
      next bytes _ => cases tried; exact ⟨bytes, rfl⟩
      next => cases tried
    next =>
      split at tried
      · cases tried
      next codec _ =>
        cases made : codec.encode response.body ((response.charset?).getD charset) with
        | error error => rw [made] at tried; cases tried
        | ok bytes => rw [made] at tried; cases tried; exact ⟨bytes, rfl⟩
  next error _ => exact ⟨_, rfl⟩

end Response

namespace Engine

variable {σ : Type}

theorem service_encoded (engine : Engine σ) (freshId : String) (exchange : Exchange σ) :
    ∃ body, (engine.service freshId exchange).1.encodedBody? = some body := by
  unfold service
  simp only
  split
  · exact Response.encoded_body _ _ _
  · exact Response.encoded_body engine.codecs engine.settings.defaultCharset _

end Engine

namespace Loop

variable {σ : Type}

theorem plain_checked {status : Status} (known : status = .badRequest ∨ status = .internalError)
    (bytes : Bytes) :
    (((Response.ofStatus status).setContentType .plainText).withBytes bytes).checkHead = .ok () := by
  have passes : ((Response.ofStatus status).setContentType .plainText).checkHead.isOk = true := by
    rcases known with rfl | rfl
    · decide
    · decide
  have checked : (((Response.ofStatus status).setContentType .plainText).withBytes bytes).checkHead =
      ((Response.ofStatus status).setContentType .plainText).checkHead := rfl
  rw [checked]
  cases outcome : ((Response.ofStatus status).setContentType .plainText).checkHead with
  | error error => rw [outcome] at passes; cases passes
  | ok _ => rfl

theorem bad_request_wire (error : FramingError) :
    ∃ bytes, (badRequest error).wire false = .ok bytes := by
  have checked : (badRequest error).checkHead = .ok () := plain_checked (.inl rfl) _
  exact ⟨_, Response.wire_checked rfl checked false⟩

/-- What goes out for a response: the one that stands in for it, if its head is refused. -/
def writable (response : Response) : Response :=
  match response.checkHead with
  | .ok _ => response
  | .error _ => unwritable

theorem writable_checked (response : Response) : (writable response).checkHead = .ok () := by
  unfold writable
  split
  next checked => exact checked
  next => exact plain_checked (.inr rfl) _

theorem writable_encoded {response : Response} {body : Bytes}
    (encoded : response.encodedBody? = some body) :
    ∃ other, (writable response).encodedBody? = some other := by
  unfold writable
  split
  · exact ⟨body, encoded⟩
  · exact ⟨_, rfl⟩

/-- What is written for a response is the bytes of what goes out for it, if there is room. -/
theorem write_encoded (sink : Sink) {response : Response} {body : Bytes}
    (encoded : response.encodedBody? = some body) (omitBody : Bool) :
    ∃ bytes, (writable response).wire omitBody = .ok bytes ∧
      (write sink response omitBody).1 = sink.write bytes := by
  obtain ⟨other, encodedToo⟩ := writable_encoded encoded
  obtain ⟨bytes, wired⟩ : ∃ bytes, (writable response).wire omitBody = .ok bytes :=
    ⟨_, Response.wire_checked encodedToo (writable_checked response) omitBody⟩
  refine ⟨bytes, wired, ?_⟩
  have writing : sink.writeResponse (writable response) omitBody = sink.write bytes := by
    unfold Sink.writeResponse
    rw [wired]
    rfl
  rcases Response.wire_encoded encoded omitBody with checked | ⟨reason, checked, refused⟩
  · have same : writable response = response := by rw [writable, checked]
    rw [same] at writing
    rw [write, writing]
    split
    next failed =>
      unfold Sink.write at failed
      split at failed
      · cases failed
      · split at failed
        · cases failed
        · cases failed
    next => rfl
  · have same : writable response = unwritable := by rw [writable, checked]
    rw [same] at writing
    have failed : sink.writeResponse response omitBody = .error (.invalidResponseHead reason) := by
      unfold Sink.writeResponse
      rw [refused]
      rfl
    rw [write, failed]
    exact writing

/-- Some answer to a request is always written where there is room for it. -/
theorem write_unbounded {sink : Sink} (unbounded : sink.room = none) {response : Response}
    {body : Bytes} (encoded : response.encodedBody? = some body) (omitBody : Bool) :
    ∃ bytes, (writable response).wire omitBody = .ok bytes ∧
      (write sink response omitBody).1 = .ok { sink with writes := bytes :: sink.writes } := by
  obtain ⟨bytes, wired, written⟩ := write_encoded sink encoded omitBody
  refine ⟨bytes, wired, written.trans ?_⟩
  rw [Sink.write, unbounded]

def sinkOf : Except (Ended σ) (Loop σ) → Sink
  | .ok loop => loop.sink
  | .error ended => ended.sink

def begun (decoded : Decoder.Decoded) (loop : Loop σ) : Exchange σ where
  toIntake := decoded.intake loop.session
  shutdown := loop.shutdown
  app := loop.app

theorem exchange_sink (engine : Engine σ) (freshId : String) (decoded : Decoder.Decoded)
    (loop : Loop σ) :
    sinkOf (exchange engine freshId decoded loop) =
      (write loop.sink (engine.service freshId (loop.begun decoded)).1
        (decoded.head.method == "HEAD")).1.toOption.getD loop.sink := by
  simp only [exchange]
  have begins :
      ({ toIntake := decoded.intake loop.session
         shutdown := loop.shutdown
         app := loop.app } : Exchange σ) = loop.begun decoded := rfl
  rw [begins]
  obtain ⟨response, answered⟩ := engine.service freshId (loop.begun decoded)
  generalize write loop.sink response (decoded.head.method == "HEAD") = wrote
  rcases wrote with ⟨_ | sink, refused⟩
  · rfl
  · simp only
    split
    · rfl
    · rfl

variable {settings : ServeSettings} {loop : Loop σ}

/-- A request is answered and counted, and the loop goes on behind its body. -/
theorem exchange_answered (engine : Engine σ) (freshId : String) {decoded : Decoder.Decoded}
    (unbounded : loop.sink.room = none) {rest : Delivery}
    (past : loop.session.delivery.past decoded.window = .ok rest) :
    ∃ after, exchange engine freshId decoded loop = .ok after ∧
      after.session.delivery = rest ∧ after.sink.room = none ∧ after.receiver = loop.receiver ∧
      after.summary = { loop.summary with exchanges := loop.summary.exchanges + 1 } := by
  have within := served_within engine freshId decoded loop.session loop.shutdown loop.app
  have encoded := engine.service_encoded freshId
    { toIntake := decoded.intake loop.session, shutdown := loop.shutdown, app := loop.app }
  simp only at within
  simp only [exchange]
  generalize engine.service freshId
    { toIntake := decoded.intake loop.session, shutdown := loop.shutdown, app := loop.app }
    = served at within encoded
  obtain ⟨response, answered⟩ := served
  obtain ⟨body, encoded⟩ := encoded
  rcases write_unbounded unbounded encoded (decoded.head.method == "HEAD") with
    ⟨bytes, _, outcome⟩
  generalize write loop.sink response (decoded.head.method == "HEAD") = wrote at outcome
  obtain ⟨result, refused⟩ := wrote
  simp only at outcome
  subst outcome
  rcases drain_past within with ⟨_, failed, _⟩ | ⟨session, passed, drained⟩
  · cases past.symm.trans failed
  · simp only [drained]
    exact ⟨_, rfl, Except.ok.inj (passed.symm.trans past), unbounded, rfl, rfl⟩

theorem reject_answered (error : FramingError) (unbounded : loop.sink.room = none) :
    ∃ after, reject error loop = .ok after ∧
      after.session = loop.session ∧ after.sink.room = none ∧ after.receiver = loop.receiver ∧
      after.summary =
        { loop.summary with protocolErrors := loop.summary.protocolErrors + 1 } := by
  obtain ⟨bytes, wired⟩ := bad_request_wire error
  have written := Sink.write_response_unbounded unbounded wired
  unfold reject
  simp only [written]
  exact ⟨_, rfl, rfl, unbounded, rfl, rfl⟩

theorem deaf_listening (deaf : loop.receiver = none) : loop.isStopped = false := by
  unfold isStopped
  rw [deaf]
  cases loop.shutdown <;> rfl

theorem receive_finished (listening : loop.isStopped = false) {result : Except FramingError Unit}
    (heard : hear settings.inputBufferSize loop.session.delivery = .finished result) :
    loop.receive settings = .finished result := by
  have received := receive_heard settings loop
  rw [listening, if_neg Bool.false_ne_true, heard] at received
  cases found : loop.receive settings with
  | finished other =>
      rw [found] at received
      cases received
      rfl
  | request decoded session => rw [found] at received; cases received
  | malformed error session => rw [found] at received; cases received

theorem receive_request (listening : loop.isStopped = false) {decoded : Decoder.Decoded}
    {rest : Delivery}
    (heard : hear settings.inputBufferSize loop.session.delivery = .request decoded rest) :
    ∃ session, loop.receive settings = .request decoded session ∧ session.delivery = rest := by
  have received := receive_heard settings loop
  rw [listening, if_neg Bool.false_ne_true, heard] at received
  cases found : loop.receive settings with
  | finished result => rw [found] at received; cases received
  | malformed error session => rw [found] at received; cases received
  | request other session =>
      rw [found] at received
      cases received
      exact ⟨session, rfl, rfl⟩

theorem receive_malformed (listening : loop.isStopped = false) {error : FramingError}
    {rest : Delivery}
    (heard : hear settings.inputBufferSize loop.session.delivery = .malformed error rest) :
    ∃ session, loop.receive settings = .malformed error session ∧ session.delivery = rest := by
  have received := receive_heard settings loop
  rw [listening, if_neg Bool.false_ne_true, heard] at received
  cases found : loop.receive settings with
  | finished result => rw [found] at received; cases received
  | request decoded session => rw [found] at received; cases received
  | malformed other session =>
      rw [found] at received
      cases received
      exact ⟨session, rfl, rfl⟩

theorem step_request (engine : Engine σ) (ids : Nat → String) (listening : loop.isStopped = false)
    (unbounded : loop.sink.room = none) {decoded : Decoder.Decoded} {rest left : Delivery}
    (heard : hear settings.inputBufferSize loop.session.delivery = .request decoded rest)
    (past : rest.past decoded.window = .ok left) :
    ∃ after, loop.step engine settings ids = .ok after ∧
      after.session.delivery = left ∧ after.sink.room = none ∧ after.receiver = loop.receiver ∧
      after.summary = { loop.summary with exchanges := loop.summary.exchanges + 1 } := by
  obtain ⟨session, received, rfl⟩ := receive_request listening heard
  unfold step
  rw [received]
  have roomy : ({ loop with session } : Loop σ).sink.room = none := unbounded
  exact exchange_answered engine _ roomy past

variable (settings) in
theorem step_malformed (engine : Engine σ) (ids : Nat → String)
    (listening : loop.isStopped = false) (unbounded : loop.sink.room = none)
    {error : FramingError} {rest : Delivery}
    (heard : hear settings.inputBufferSize loop.session.delivery = .malformed error rest) :
    ∃ after, loop.step engine settings ids = .ok after ∧
      after.session.delivery = rest ∧ after.sink.room = none ∧ after.receiver = loop.receiver ∧
      after.summary =
        { loop.summary with protocolErrors := loop.summary.protocolErrors + 1 } := by
  obtain ⟨session, received, rfl⟩ := receive_malformed listening heard
  have roomy : ({ loop with session } : Loop σ).sink.room = none := unbounded
  rcases reject_answered error roomy with
    ⟨after, rejected, same, room, receiver, summary⟩
  unfold step
  rw [received]
  exact ⟨after, rejected, congrArg Session.delivery same, room, receiver, summary⟩

end Loop

end StreamHttp
