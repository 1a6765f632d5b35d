import StreamHttp.Proofs.Serve.Dispatch

/-!
Serving does not depend on how the input is cut into reads. Two loops whose sessions have the same
in store take every turn alike, so they write the same, end alike and dispatch the same requests, as
long as the application makes no single reads.
-/

namespace StreamHttp.Loop

variable {σ : Type} {engine : Engine σ} {first second : Loop σ}

theorem heard_paired (settings : ServeSettings) (pair : Paired first second) :
    (first.receive settings).heard = (second.receive settings).heard := by
  rw [receive_heard, receive_heard, pair.stopped, pair.store]

theorem step_paired (uses : engine.Uses False) (settings : ServeSettings) (ids : Nat → String)
    (pair : Paired first second) :
    ∃ rest, Turned rest (first.step engine settings ids) (second.step engine settings ids) := by
  have heard := heard_paired settings pair
  simp only [step]
  cases left : first.receive settings with
  | finished result =>
      cases right : second.receive settings with
      | finished other =>
          rw [left, right] at heard
          cases heard
          simp only [pair.summary, pair.end_with]
          exact ⟨.error "", .ended _⟩
      | request decoded session => rw [left, right] at heard; cases heard
      | malformed error session => rw [left, right] at heard; cases heard
  | malformed error session =>
      cases right : second.receive settings with
      | finished other => rw [left, right] at heard; cases heard
      | request decoded session => rw [left, right] at heard; cases heard
      | malformed other later =>
          rw [left, right] at heard
          simp only [Received.heard, Heard.malformed.injEq] at heard
          obtain ⟨rfl, store⟩ := heard
          exact ⟨_, reject_turned error ⟨store, pair.sink, pair.summary, pair.metrics,
            pair.shutdown, pair.receiver, pair.app, pair.outputBuffer, pair.fault⟩⟩
  | request decoded session =>
      cases right : second.receive settings with
      | finished other => rw [left, right] at heard; cases heard
      | malformed other later => rw [left, right] at heard; cases heard
      | request other later =>
          rw [left, right] at heard
          simp only [Received.heard, Heard.request.injEq] at heard
          obtain ⟨rfl, store⟩ := heard
          have between : Paired { first with session } { second with session := later } :=
            ⟨store, pair.sink, pair.summary, pair.metrics, pair.shutdown, pair.receiver, pair.app,
              pair.outputBuffer, pair.fault⟩
          have turned := exchange_turned decoded
            (Streams.respected_alike (Limited.Within session.delivery decoded.window)
              fun count _ within => within.read count)
            uses (ids second.summary.exchanges) between
            ⟨Streams.alike_session store decoded.window,
              Limited.within_start session decoded.window,
              store ▸ Limited.within_start later decoded.window⟩
            (fun before after alike => alike.2)
            (fun before after alike => alike.1.fault)
          have same : ids first.summary.exchanges = ids second.summary.exchanges := by
            rw [pair.summary]
          rw [same]
          exact ⟨_, turned⟩

theorem turn_paired (uses : engine.Uses False) (settings : ServeSettings) (ids : Nat → String)
    (fuel : Nat) (pair : Paired first second) :
    turn engine settings ids fuel first = turn engine settings ids fuel second ∧
      dispatched engine settings ids fuel first = dispatched engine settings ids fuel second := by
  induction fuel generalizing first second with
  | zero => exact ⟨by simp only [turn, pair.summary, pair.end_with], rfl⟩
  | succ fuel induction =>
      obtain ⟨rest, turned⟩ := step_paired uses settings ids pair
      have same : (first.receive settings).dispatch? = (second.receive settings).dispatch? := by
        rw [dispatch_heard, dispatch_heard, heard_paired settings pair]
      simp only [turn, dispatched, same]
      generalize first.step engine settings ids = before at turned
      generalize second.step engine settings ids = after at turned
      cases turned with
      | ended last => exact ⟨rfl, rfl⟩
      | between next _ =>
          have later := induction next
          exact ⟨later.1, by simp only [later.2]⟩

/-- The answers, the end and the dispatched requests are the same for every two ways in which the
same bytes, and the failure behind them, may come. -/
theorem serve_read_boundaries (engine : Engine σ) (uses : engine.Uses False)
    (settings : ServeSettings) (ids : Nat → String) (loop : Loop σ) (first second : Source)
    (content : first.content = second.content) (failure : first.failure = second.failure) :
    let start (source : Source) : Loop σ := { loop with session := Session.ofSource source }
    serve engine settings ids (start first) = serve engine settings ids (start second) ∧
      dispatches engine settings ids (start first) =
        dispatches engine settings ids (start second) := by
  intro start
  have store : (Session.ofSource first).delivery = (Session.ofSource second).delivery := by
    simp only [Session.delivery, Session.content, Session.ofSource, content, failure]
  have length : (start first).session.content.length = (start second).session.content.length :=
    congrArg (fun delivery => delivery.bytes.length) store
  have pair : Paired (start first) (start second) := ⟨store, rfl, rfl, rfl, rfl, rfl, rfl, rfl, rfl⟩
  simp only [serve, dispatches, length]
  exact turn_paired uses settings ids _ pair

/-- A filter that buffers every body, on its way to a route, and counts its bytes. -/
def counting : Filter Nat where
  apply _ _ :=
    .look fun passage => .buffer 64 passage.body fun result body =>
      .change (fun passage =>
          { passage with body, app := passage.app + (result.toOption.getD []).length })
        (.done (.proceed fun reply => .done reply))

def countingEngine : Engine Nat :=
  Engine.ofTable { filters := [(.methods ["POST"], counting)] } Codecs.standard [] {}

/-- An upload that is cut inside of a line end and inside of its body, and the same in one read. -/
theorem serve_read_boundaries_upload :
    let start (source : Source) : Loop Nat := { session := Session.ofSource source, app := 0 }
    let head := Bytes.ofString "POST /a HTTP/1.1\r\nContent-Length: 4\r\n\r"
    let body := Bytes.ofString "\nbo"
    let rest := Bytes.ofString "dy"
    let cut : Source := { Source.ofParts [head, body, rest] none with pauses := fun _ => 1 }
    let whole := Source.ofParts [head ++ body ++ rest] none
    countingEngine.Uses False ∧ cut.content = whole.content ∧
      serve countingEngine {} toString (start cut) = serve countingEngine {} toString (start whole) ∧
      dispatches countingEngine {} toString (start cut) =
        dispatches countingEngine {} toString (start whole) := by
  intro start head body rest cut whole
  have uses : countingEngine.Uses False := by
    refine ⟨fun _ _ => Binding.obeys_request_binder trivial _ _ _, trivial, ?_, ?_, ?_, ?_⟩
    · exact fun _ member => absurd member List.not_mem_nil
    · exact fun _ member => absurd member List.not_mem_nil
    · exact fun _ member => absurd member List.not_mem_nil
    · intro entry member
      cases List.mem_singleton.1 member
      exact fun _ _ _ => ⟨trivial, fun _ _ _ => trivial⟩
  have content : cut.content = whole.content := by
    have split := Source.content_of_parts [head, body, rest] none
    have joined := Source.content_of_parts [head ++ body ++ rest] none
    simp only [List.flatten_cons, List.flatten_nil, List.append_nil] at split joined
    exact split.trans (joined.trans (List.append_assoc _ _ _)).symm
  exact ⟨uses, content, serve_read_boundaries countingEngine uses {} toString
    { session := {}, app := 0 } cut whole content rfl⟩

end StreamHttp.Loop
