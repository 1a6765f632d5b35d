import StreamHttp.Proofs.Message.Headers
import StreamHttp.Proofs.Text.Words
import StreamHttp.Wire.Encoder

/-!
What the writer of responses accepts, drops and writes. A head is accepted when each of its parts
stays on a line of its own; the bytes are then the lines of the head, a blank line and the body.
-/

namespace StreamHttp

namespace Response

/-- Every part of the head can stand on one header line: names are tokens, and no byte of a value or
of the reason is a control character other than the tab. -/
structure StandsOnLines (response : Response) : Prop where
  reason : isFieldValue (Bytes.ofString response.reason) = true
  names : ∀ pair ∈ response.headers.pairs, isToken (Bytes.ofString pair.1) = true
  values : ∀ pair ∈ response.headers.pairs, isFieldValue (Bytes.ofString pair.2) = true

theorem check_pairs_error {pairs : List (String × String)} {error : FramingError}
    (checked : checkPairs pairs = .error error) :
    ∃ reason, error = .invalidResponseHead reason := by
  induction pairs with
  | nil => cases checked
  | cons pair rest induction =>
      cases first : checkPair pair with
      | error problem =>
          rw [checkPairs, first] at checked
          cases checked
          unfold checkPair at first
          split at first
          · cases first
            exact ⟨_, rfl⟩
          · split at first
            · cases first
              exact ⟨_, rfl⟩
            · cases first
      | ok _ =>
          rw [checkPairs, first] at checked
          exact induction checked

theorem check_head_error {response : Response} {error : FramingError}
    (checked : response.checkHead = .error error) :
    ∃ reason, error = .invalidResponseHead reason := by
  unfold checkHead at checked
  split at checked
  · cases checked
    exact ⟨_, rfl⟩
  · exact check_pairs_error checked

theorem check_pair_iff {pair : String × String} :
    checkPair pair = .ok () ↔
      isFieldName (Bytes.ofString pair.1) = true ∧ isFieldValue (Bytes.ofString pair.2) = true := by
  unfold checkPair
  split
  next unnamed => simp_all
  next named =>
    split
    next => simp_all
    next => simp_all

theorem check_pairs_iff {pairs : List (String × String)} :
    checkPairs pairs = .ok () ↔
      ∀ pair ∈ pairs, isFieldName (Bytes.ofString pair.1) = true ∧
        isFieldValue (Bytes.ofString pair.2) = true := by
  induction pairs with
  | nil => exact ⟨fun _ => List.forall_mem_nil _, fun _ => rfl⟩
  | cons pair rest induction =>
      rw [List.forall_mem_cons, ← check_pair_iff, ← induction, checkPairs]
      cases checkPair pair with
      | error error =>
          constructor
          · intro passed
            cases passed
          · rintro ⟨passed, _⟩
            cases passed
      | ok _ => exact ⟨fun passed => ⟨rfl, passed⟩, fun passed => passed.2⟩

theorem check_head_iff {response : Response} :
    response.checkHead = .ok () ↔
      isFieldValue (Bytes.ofString response.reason) = true ∧
        ∀ pair ∈ response.headers.pairs, isFieldName (Bytes.ofString pair.1) = true ∧
          isFieldValue (Bytes.ofString pair.2) = true := by
  unfold checkHead
  cases phrase : isFieldValue (Bytes.ofString response.reason) with
  | false =>
      constructor
      · intro passed
        cases passed
      · rintro ⟨passed, _⟩
        cases passed
  | true =>
      exact ⟨fun passed => ⟨rfl, check_pairs_iff.1 passed⟩, fun passed => check_pairs_iff.2 passed.2⟩

theorem check_head_stands {response : Response} (checked : response.checkHead = .ok ()) :
    response.StandsOnLines := by
  obtain ⟨reason, pairs⟩ := check_head_iff.1 checked
  refine ⟨reason, fun pair listed => ?_, fun pair listed => (pairs pair listed).2⟩
  have named := (pairs pair listed).1
  rw [isFieldName, Bool.and_eq_true] at named
  exact named.1

theorem wire_checked {response : Response} {body : Bytes}
    (encoded : response.encodedBody? = some body) (checked : response.checkHead = .ok ())
    (omitBody : Bool) :
    response.wire omitBody = .ok (Bytes.ofString (response.headText body.length) ++
      if omitBody then [] else body) := by
  have contents (head : Bytes) :
      (if omitBody then head else head ++ body) = head ++ if omitBody then [] else body := by
    cases omitBody
    · rfl
    · exact (List.append_nil head).symm
  rw [← contents, wire, encoded, checked]
  rfl

theorem wire_encoded {response : Response} {body : Bytes}
    (encoded : response.encodedBody? = some body) (omitBody : Bool) :
    response.checkHead = .ok () ∨
      ∃ reason, response.checkHead = .error (.invalidResponseHead reason) ∧
        response.wire omitBody = .error (.invalidResponseHead reason) := by
  unfold wire
  rw [encoded]
  cases checked : response.checkHead with
  | error error =>
      obtain ⟨reason, rfl⟩ := check_head_error checked
      exact .inr ⟨reason, rfl, rfl⟩
  | ok _ => exact .inl rfl

end Response

namespace Sink

variable {sink : Sink} {response : Response} {omitBody : Bool}

theorem write_response_unbounded (unbounded : sink.room = none) {bytes : Bytes}
    (wired : response.wire omitBody = .ok bytes) :
    sink.writeResponse response omitBody = .ok { sink with writes := bytes :: sink.writes } := by
  unfold writeResponse
  rw [wired]
  change sink.write bytes = _
  rw [write, unbounded]

theorem written_behind (sink : Sink) (bytes : Bytes) :
    ({ sink with writes := bytes :: sink.writes } : Sink).written = sink.written ++ bytes := by
  simp [written]

end Sink

end StreamHttp
