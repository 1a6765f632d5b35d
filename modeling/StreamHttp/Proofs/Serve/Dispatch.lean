import StreamHttp.Proofs.Serve.Turn

/-!
The requests that a loop hands to its engine, in their order: method, target and headers, and all
that the body has in store when it is handed over.
-/

namespace StreamHttp

/-- What a body has in store for whoever claims it. -/
def Body.store (streams : Streams) (body : Body) : Delivery :=
  match body.claim with
  | .unclaimed reader => streams.delivery reader
  | .buffered bytes => ⟨bytes, none⟩
  | .claimed => .finished

/-- A body that is buffered gives what it has in store, when the limit allows for it. -/
theorem Body.buffer_store {streams : Streams} (sound : streams.Sound) {body : Body} {bytes : Bytes}
    (store : body.store streams = ⟨bytes, none⟩)
    (available : body.isClaimed = false) {limit : Nat} (safe : body.fault? limit = none)
    (fits : bytes.length ≤ limit) (announced : body.expected.any (limit < ·) = false) :
    (body.buffer limit streams).1 = .ok bytes := by
  rcases body with ⟨reader | kept | _, expected⟩
  · have short : ¬limit + 1 ≤ bytes.length := by omega
    have read := (Reader.read_up_to sound reader (limit + 1)).1
    simp only [Body.store] at store
    rw [store, Delivery.upTo, if_neg short] at read
    have small : ¬limit < bytes.length := by omega
    simp only at announced
    simp only [Body.buffer, announced, safe, Bool.false_eq_true, if_false]
    rcases answer : reader.readUpTo (limit + 1) streams with ⟨result, after, left⟩
    rw [answer] at read
    simp only at read
    simp only [read, if_neg small]
  · cases available
  · cases available

structure Dispatch where
  method : Method
  target : Target
  headers : Headers
  body : Delivery
  deriving DecidableEq, Repr

def Dispatch.ofIntake (intake : Intake) : Dispatch where
  method := intake.request.head.method
  target := intake.request.head.target
  headers := intake.request.head.headers
  body := intake.request.body.store intake.streams

namespace Loop

variable {σ : Type}

def Received.dispatch? : Received → Option Dispatch
  | .request decoded session => some (Dispatch.ofIntake (decoded.intake session))
  | _ => none

def dispatched (engine : Engine σ) (settings : ServeSettings) (ids : Nat → String) :
    Nat → Loop σ → List Dispatch
  | 0, _ => []
  | fuel + 1, loop =>
      (loop.receive settings).dispatch?.toList ++
        match loop.step engine settings ids with
        | .error _ => []
        | .ok loop => dispatched engine settings ids fuel loop

/-- All requests that are dispatched while a loop serves. -/
def dispatches (engine : Engine σ) (settings : ServeSettings) (ids : Nat → String)
    (loop : Loop σ) : List Dispatch :=
  dispatched engine settings ids (loop.session.content.length + 1) loop

def Heard.dispatch? : Heard → Option Dispatch
  | .request decoded rest =>
      some ⟨decoded.head.method, decoded.head.target, decoded.head.headers,
        if decoded.window = 0 then .finished else rest.within decoded.window⟩
  | _ => none

theorem dispatch_heard (received : Received) :
    received.dispatch? = received.heard.dispatch? := by
  cases received with
  | finished result => rfl
  | malformed error session => rfl
  | request decoded session =>
      simp only [Received.dispatch?, Received.heard, Heard.dispatch?, Dispatch.ofIntake,
        Decoder.Decoded.intake, Request.make, Decoder.Decoded.body]
      by_cases empty : decoded.window = 0
      · simp only [empty, beq_self_eq_true, if_true, Body.empty, Body.ofBytes, Body.store,
          Streams.delivery_own]
        rfl
      · have filled : (decoded.window == 0) = false := by simpa using empty
        simp only [filled, Bool.false_eq_true, if_false, empty, Body.ofReader, Body.store,
          Reader.window]
        rw [Streams.delivery_free rfl]
        simp only [Reader.storeOf, Streams.ofSession, Limited.delivery, Limited.ofSize]

def ofParts (parts : List Bytes) : Loop Unit :=
  { session := Session.ofSource (Source.ofParts parts none), app := () }

theorem store_of_parts (parts : List Bytes) :
    (ofParts parts).session.delivery = ⟨parts.flatten, none⟩ := by
  simp only [ofParts, Session.delivery, Session.content, Session.ofSource, Source.content_of_parts]
  rfl

end Loop

def Engine.bare : Engine Unit := Engine.ofTable {} Codecs.standard [] {}

end StreamHttp
