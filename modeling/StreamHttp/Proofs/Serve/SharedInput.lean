import StreamHttp.Proofs.Serve.Transcript
import StreamHttp.Proofs.Serve.Turn

/-!
The input of a session as it is shared: by the loop that waits for it, by the decoder that reads
heads off it, and by the windows of the requests, through any number of handles. The turns of a loop
are made of operations on it.
-/

namespace StreamHttp

def Limited.readOut (window : Limited Session) : Except String Bytes × Limited Session :=
  let enough := window.delivery.bytes.length + 1
  gather (Limited.read Session.read) enough enough window

theorem Loop.drain_read_out (window : Limited Session) :
    drain window =
      match window.readOut with
      | (.error message, _) => .error (.io message)
      | (.ok _, after) => .ok after.inner := rfl

/-- A window on an input that is shared: its length, and what it still lets through. -/
structure SharedWindow where
  size : Nat
  remaining : Nat
  deriving DecidableEq, Repr

/-- The input of a session, with the windows that were opened on it, first to last, and the window
that each of their handles reads through. -/
structure SharedInput where
  session : Session
  windows : List SharedWindow := []
  handles : List Nat := []

/-- What a loop, its decoder or the reader of a body does with the input in one go. -/
inductive InputOperation where
  | awaitInput
  | readHead (size : Nat)
  | skipHead (length : Nat)
  | openWindow (size : Nat)
  | cloneHandle (handle : Nat)
  | read (handle count : Nat)
  | drain (handle : Nat)
  deriving DecidableEq, Repr

inductive InputAnswer where
  | awaited (result : Except FramingError Bool)
  | head (result : Except FramingError (Option Bytes))
  | skipped (result : Except FramingError Unit)
  | handed (handle : Nat)
  | given (window : Nat) (result : Except String Bytes)
  | noSuchHandle

namespace SharedInput

def ofSource (source : Source) : SharedInput := { session := Session.ofSource source }

def window? (input : SharedInput) (handle : Nat) : Option (Nat × SharedWindow) := do
  let number ← input.handles[handle]?
  let window ← input.windows[number]?
  return (number, window)

def through (input : SharedInput) (handle : Nat)
    (use : Limited Session → Except String Bytes × Limited Session) : InputAnswer × SharedInput :=
  match input.window? handle with
  | none => (.noSuchHandle, input)
  | some (number, window) =>
      let (result, after) := use ⟨input.session, window.size, window.remaining⟩
      (.given number result,
        { input with
          session := after.inner
          windows := input.windows.set number ⟨after.size, after.remaining⟩ })

def perform (input : SharedInput) : InputOperation → InputAnswer × SharedInput
  | .awaitInput =>
      let (result, session) := Loop.awaitInput input.session
      (.awaited result, { input with session })
  | .readHead size =>
      let (result, session) := Decoder.readHead size input.session
      (.head result, { input with session })
  | .skipHead length =>
      let (result, session) := Decoder.skipHead length input.session
      (.skipped result, { input with session })
  | .openWindow size =>
      (.handed input.handles.length,
        { input with
          windows := input.windows ++ [⟨size, size⟩]
          handles := input.handles ++ [input.windows.length] })
  | .cloneHandle handle =>
      match input.handles[handle]? with
      | none => (.noSuchHandle, input)
      | some number =>
          (.handed input.handles.length, { input with handles := input.handles ++ [number] })
  | .read handle count => input.through handle (Limited.read Session.read count)
  | .drain handle => input.through handle Limited.readOut

def run (input : SharedInput) (operations : List InputOperation) : SharedInput :=
  operations.foldl (fun input operation => (input.perform operation).2) input

def remaining (input : SharedInput) (number : Nat) : Nat :=
  (input.windows[number]?).elim 0 SharedWindow.remaining

def length (input : SharedInput) (number : Nat) : Nat :=
  (input.windows[number]?).elim 0 SharedWindow.size

variable {input : SharedInput}

/-- A handle reads through a window, which is on the input. -/
def Lends (input : SharedInput) (handle : Nat) (window : Limited Session) : Prop :=
  ∃ number, input.window? handle = some (number, ⟨window.size, window.remaining⟩) ∧
    input.session = window.inner

theorem lends_opened (input : SharedInput) (size : Nat) :
    (input.perform (.openWindow size)).2.Lends input.handles.length
      (Limited.ofSize input.session size) :=
  ⟨input.windows.length, by simp [window?, perform, Limited.ofSize], rfl⟩

theorem Lends.through {handle : Nat} {window : Limited Session} (lends : input.Lends handle window)
    (use : Limited Session → Except String Bytes × Limited Session) :
    (input.through handle use).2.Lends handle (use window).2 := by
  obtain ⟨number, found, same⟩ := lends
  have whole : (⟨input.session, window.size, window.remaining⟩ : Limited Session) = window := by
    rw [same]
  simp only [SharedInput.through, found, whole]
  refine ⟨number, ?_, rfl⟩
  simp only [window?, Option.bind_eq_bind, Option.bind_eq_some_iff] at found ⊢
  obtain ⟨_, held, _, opened, listed⟩ := found
  cases listed
  have inside := (List.getElem?_eq_some_iff.1 opened).1
  exact ⟨number, held, _, List.getElem?_set_self inside, rfl⟩

theorem Lends.reads {handle : Nat} {window : Limited Session} (lends : input.Lends handle window)
    (counts : List Nat) :
    (input.run (counts.map (.read handle))).Lends handle
      (counts.foldl (fun window count => (window.read Session.read count).2) window) := by
  induction counts generalizing input window with
  | nil => exact lends
  | cons count counts induction => exact induction (lends.through (Limited.read Session.read count))

end SharedInput

namespace Loop

variable {σ : Type}

/-- An engine uses the window of a request by reads alone. -/
theorem served_reads (engine : Engine σ) (freshId : String) (decoded : Decoder.Decoded)
    (session : Session) (shutdown : Option Shutdown) (app : σ) :
    let begun : Exchange σ := { toIntake := decoded.intake session, shutdown, app }
    ∃ counts : List Nat, (engine.service freshId begun).2.finish.streams.window =
      counts.foldl (fun window count => (window.read Session.read count).2)
        (Limited.ofSize session decoded.window) := by
  intro begun
  have respected := Streams.respected_same (fun window => ∃ counts : List Nat, window =
    counts.foldl (fun window count => (window.read Session.read count).2)
      (Limited.ofSize session decoded.window)) (by
        rintro count _ ⟨counts, rfl⟩
        exact ⟨counts ++ [count], by rw [List.foldl_append]; rfl⟩)
  have served := Engine.agrees_service respected engine.obeys_any freshId begun begun
    ⟨rfl, rfl, rfl, rfl, ⟨[], rfl⟩⟩
  exact (served.2.finish respected).streams.2

variable {settings : ServeSettings} {engine : Engine σ} {ids : Nat → String}
  {loop after : Loop σ} {input : SharedInput}

variable (settings) in
theorem receive_performed (same : input.session = loop.session) :
    match loop.receive settings with
    | .finished _ => True
    | .request _ session | .malformed _ session =>
        (input.run [.awaitInput, .readHead settings.inputBufferSize]).session = session := by
  have heads : (input.run [.awaitInput, .readHead settings.inputBufferSize]).session =
      (Decoder.decode settings.inputBufferSize (awaitInput loop.session).2).2 := by
    simp only [SharedInput.run, List.foldl_cons, List.foldl_nil, SharedInput.perform, same,
      Decoder.decode]
    split <;> simp_all
  rw [heads, receive]
  by_cases stopped : loop.isStopped = true
  · rw [if_pos stopped]
    trivial
  · rw [if_neg stopped]
    rcases awaitInput loop.session with ⟨_ | _ | _, session⟩
    · trivial
    · trivial
    · simp only
      rcases Decoder.decode settings.inputBufferSize session with ⟨error | _ | decoded, session⟩
      · cases error <;> trivial
      · trivial
      · rfl

/-- Behind an answer, the session is what the window of the request leaves at its end. -/
theorem exchange_reads {freshId : String} {decoded : Decoder.Decoded}
    (answered : exchange engine freshId decoded loop = .ok after) :
    ∃ counts : List Nat, after.session =
      ((counts.foldl (fun window count => (window.read Session.read count).2)
        (Limited.ofSize loop.session decoded.window)).readOut).2.inner := by
  obtain ⟨counts, reads⟩ := served_reads engine freshId decoded loop.session loop.shutdown loop.app
  refine ⟨counts, ?_⟩
  simp only [exchange] at answered
  rw [← reads]
  generalize engine.service freshId
    { toIntake := decoded.intake loop.session, shutdown := loop.shutdown, app := loop.app } = served
    at answered ⊢
  split at answered
  next => cases answered
  next =>
    rw [drain_read_out] at answered
    rcases reading : served.2.finish.streams.window.readOut with ⟨_ | _, left⟩
    all_goals
      rw [reading] at answered
      simp only at answered
      cases answered
    rfl

theorem reject_session {error : FramingError} (answered : reject error loop = .ok after) :
    after.session = loop.session := by
  unfold reject at answered
  simp only at answered
  generalize loop.sink.writeResponse (badRequest error) false = written at answered
  cases written with
  | error _ => cases answered
  | ok _ =>
      cases answered
      rfl

/-- What a turn of the loop does with its input are such operations: it waits, reads a head, and,
where that is a request, reads on by a window of its own, to the end of it. -/
theorem step_performed
    (stepped : loop.step engine settings ids = .ok after) (same : input.session = loop.session) :
    ∃ request, (request = [] ∨ ∃ (size : Nat) (counts : List Nat), request = .openWindow size ::
        (counts.map (.read input.handles.length) ++ [.drain input.handles.length])) ∧
      (input.run (.awaitInput :: .readHead settings.inputBufferSize :: request)).session =
        after.session := by
  have received := receive_performed settings same
  rw [step] at stepped
  cases heard : loop.receive settings with
  | finished result =>
      rw [heard] at stepped
      cases stepped
  | malformed error session =>
      rw [heard] at stepped received
      exact ⟨[], .inl rfl, received.trans (reject_session stepped).symm⟩
  | request decoded session =>
      rw [heard] at stepped received
      obtain ⟨counts, left⟩ := exchange_reads stepped
      refine ⟨_, .inr ⟨decoded.window, counts, rfl⟩, ?_⟩
      have opened := SharedInput.lends_opened
        (input.run [.awaitInput, .readHead settings.inputBufferSize]) decoded.window
      rw [received] at opened
      obtain ⟨_, _, drained⟩ := (opened.reads counts).through Limited.readOut
      rw [left, ← drained]
      simp only [SharedInput.run, List.foldl_cons, List.foldl_append, List.foldl_nil]
      rfl

theorem turns_performed {answers : List Answer}
    (turns : Turns engine settings ids loop answers after) (same : input.session = loop.session) :
    ∃ operations, (input.run operations).session = after.session := by
  induction turns generalizing input with
  | none loop => exact ⟨[], same⟩
  | more answered turned later induction =>
      obtain ⟨request, _, between⟩ := step_performed turned same
      obtain ⟨operations, last⟩ := induction between
      refine ⟨(.awaitInput :: .readHead settings.inputBufferSize :: request) ++ operations, ?_⟩
      rw [SharedInput.run, List.foldl_append]
      exact last

end Loop

end StreamHttp
