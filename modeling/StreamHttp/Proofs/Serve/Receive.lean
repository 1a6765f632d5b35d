import StreamHttp.Proofs.Stream.Window
import StreamHttp.Proofs.Wire.HeadScan
import StreamHttp.Proofs.Wire.Refusal
import StreamHttp.Serve.Loop

/-!
Listening for a request as a function of what the session has in store. A loop finds the same
whatever the reads were, and leaves the same in store behind it.
-/

namespace StreamHttp

namespace Decoder

def decodeStore (size : Nat) (store : Delivery) :
    Except FramingError (Option Decoded) × Delivery :=
  match (scan size {} store.bytes).result size store.failure with
  | (.error error, rest) => (.error error, rest)
  | (.ok none, rest) => (.ok none, rest)
  | (.ok (some head), rest) => ((ofHead head).map some, rest)

theorem decode_store (size : Nat) (session : Session) :
    ((decode size session).1, (decode size session).2.delivery) =
      decodeStore size session.delivery := by
  have found := gather_head_scan size size {} session
  simp only [decode, readHead, decodeStore, ← found]
  rcases gatherHead size size {} session with ⟨_ | ⟨_ | head⟩, after⟩ <;> rfl

end Decoder

namespace Loop

variable {σ : Type}

/-- What listening comes to, and what is in store behind it. -/
inductive Heard where
  | finished (result : Except FramingError Unit)
  | request (decoded : Decoder.Decoded) (rest : Delivery)
  | malformed (error : FramingError) (rest : Delivery)

def Received.heard : Received → Heard
  | .finished result => .finished result
  | .request decoded session => .request decoded session.delivery
  | .malformed error session => .malformed error session.delivery

def hear (size : Nat) (store : Delivery) : Heard :=
  match store with
  | ⟨[], none⟩ => .finished (.ok ())
  | ⟨[], some message⟩ => .finished (.error (.io message))
  | ⟨_ :: _, _⟩ =>
      match Decoder.decodeStore size store with
      | (.ok none, _) => .finished (.ok ())
      | (.ok (some decoded), rest) => .request decoded rest
      | (.error (.io message), _) => .finished (.error (.io message))
      | (.error error, rest) => .malformed error rest

theorem hear_scanned {size : Nat} {input lines rest : Bytes} (failure : Option String)
    (scanned : Decoder.scan size {} input = .head lines rest) :
    hear size ⟨input, failure⟩ =
      match Decoder.ofHead lines with
      | .ok decoded => .request decoded ⟨rest, failure⟩
      | .error error => .malformed error ⟨rest, failure⟩ := by
  cases input with
  | nil =>
      unfold Decoder.scan at scanned
      split at scanned
      · cases scanned
      · cases scanned
  | cons byte input =>
      simp only [hear, Decoder.decodeStore, scanned, Decoder.Scan.result]
      cases made : Decoder.ofHead lines with
      | ok decoded => rfl
      | error error =>
          cases error with
          | io message => exact absurd made (Decoder.of_head_refused lines)
          | _ => rfl

/-- Where the input does not fail, listening ends for want of input alone, and whatever else it
comes to takes something from the store. -/
def Heard.Advances (store : Delivery) : Heard → Prop
  | .finished result => result = .ok () ∧ ∀ byte ∈ store.bytes, Decoder.isLineEnd byte = true
  | .request _ rest => rest.failure = none ∧ rest.bytes.length < store.bytes.length
  | .malformed _ rest => rest.failure = none ∧ rest.bytes.length < store.bytes.length

theorem hear_advances (size : Nat) {store : Delivery} (unfailing : store.failure = none) :
    (hear size store).Advances store := by
  obtain ⟨_ | ⟨byte, bytes⟩, failure⟩ := store
  · cases unfailing
    exact ⟨rfl, fun _ member => absurd member List.not_mem_nil⟩
  · cases unfailing
    simp only [hear, Decoder.decodeStore]
    cases found : Decoder.scan size {} (byte :: bytes) with
    | head lines rest =>
        obtain ⟨before, ending, whole, _, _, ended⟩ := Decoder.scan_head_split found
        have shorter : rest.length < (byte :: bytes).length := by
          change byte :: bytes = _ at whole
          have lengths := congrArg List.length whole
          have filled : 0 < ending.length := by rcases ended with rfl | rfl <;> decide
          simp only [List.length_append] at lengths
          omega
        simp only [Decoder.Scan.result]
        cases made : Decoder.ofHead lines with
        | ok decoded => exact ⟨rfl, shorter⟩
        | error error =>
            cases error with
            | io message => exact absurd made (Decoder.of_head_refused lines)
            | _ => exact ⟨rfl, shorter⟩
    | tooLong rest =>
        obtain ⟨front, filled, whole⟩ := Decoder.scan_too_long_split found
        have shorter : rest.length < (byte :: bytes).length := by
          have lengths := congrArg List.length whole
          have some_ := List.length_pos_iff.2 filled
          simp only [List.length_append] at lengths
          omega
        exact ⟨rfl, shorter⟩
    | endless => exact ⟨rfl, Nat.succ_pos _⟩
    | unfinished part =>
        cases blank : part.isEmpty with
        | true =>
            simp only [Decoder.Scan.result, blank, if_true]
            exact ⟨rfl, (Decoder.scan_unfinished_blank found blank).2⟩
        | false =>
            simp only [Decoder.Scan.result, blank, Bool.false_eq_true, if_false]
            exact ⟨rfl, Nat.succ_pos _⟩

/-- Waiting takes nothing from the store, and tells whether there is something in it. -/
theorem await_input_store (session : Session) :
    (awaitInput session).2.delivery = session.delivery ∧
      (awaitInput session).1 =
        match session.delivery with
        | ⟨[], none⟩ => .ok false
        | ⟨[], some message⟩ => .error (.io message)
        | ⟨_ :: _, _⟩ => .ok true := by
  obtain ⟨pending, source⟩ := session
  cases pending with
  | cons byte rest => exact ⟨rfl, rfl⟩
  | nil =>
      have given := Session.gives_read Decoder.chunkSize ⟨[], source⟩
      simp only [awaitInput, List.isEmpty_nil, Bool.not_true, Bool.false_eq_true, if_false]
      rcases answer : Session.read Decoder.chunkSize ⟨[], source⟩ with ⟨result, after⟩
      rw [answer] at given
      simp only at given
      cases result with
      | error message =>
          have same := given.unchanged
          simp only [same.1, same.2]
          exact ⟨trivial, trivial⟩
      | ok bytes =>
          have same := given.content.1
          cases bytes with
          | nil =>
              generalize Session.delivery ⟨[], source⟩ = stored at given ⊢
              generalize after.delivery = left at given ⊢
              cases given with
              | bytes nonempty => exact absurd rfl nonempty
              | ending => exact ⟨rfl, rfl⟩
              | nothing _ unasked => exact absurd unasked (by decide)
          | cons byte rest =>
              simp only [Session.delivery_unread, same]
              exact ⟨trivial, rfl⟩

/-- What a loop receives depends on its session by what that has in store. -/
theorem receive_heard (settings : ServeSettings) (loop : Loop σ) :
    (loop.receive settings).heard =
      if loop.isStopped then .finished (.ok ())
      else hear settings.inputBufferSize loop.session.delivery := by
  unfold receive
  split
  · rfl
  · have awaited := await_input_store loop.session
    rcases waiting : awaitInput loop.session with ⟨ready, session⟩
    rw [waiting] at awaited
    obtain ⟨kept, ready_⟩ := awaited
    simp only at kept ready_
    have decoded := Decoder.decode_store settings.inputBufferSize session
    rw [kept] at decoded
    rcases store : loop.session.delivery with ⟨_ | ⟨byte, bytes⟩, _ | message⟩
    · rw [store] at ready_
      simp only at ready_
      simp only [ready_]
      rfl
    · rw [store] at ready_
      simp only at ready_
      simp only [ready_]
      rfl
    all_goals
      rw [store] at ready_ decoded
      simp only at ready_
      simp only [ready_, hear, ← decoded]
      rcases Decoder.decode settings.inputBufferSize session with ⟨_ | ⟨_ | head⟩, after⟩
      · split <;> simp_all [Received.heard]
      · rfl
      · rfl

end Loop

end StreamHttp
