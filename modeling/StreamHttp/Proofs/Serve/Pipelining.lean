import StreamHttp.Proofs.Serve.Answer
import StreamHttp.Proofs.Serve.Dispatch
import StreamHttp.Proofs.Wire.Rendering

/-!
Requests one behind the other on one input. The induction is on the requests: a request in front of
any bytes is heard as it was written, and whatever the application does with its body, the turn ends
right behind that body, where the next request begins.
-/

namespace StreamHttp

namespace WireRequest

variable {request : WireRequest}

/-- The request as it is to be dispatched. -/
def dispatch (request : WireRequest) : Dispatch where
  method := request.method
  target := request.target
  headers := Headers.ofPairs request.pairs
  body := ⟨request.body, none⟩

def headLength (request : WireRequest) : Nat := (request.head ++ request.blankLine).length

theorem head_lines (request : WireRequest) :
    request.head =
      (request.lines.map Bytes.ofChars).flatMap fun line => line ++ [Byte.lf] := by
  unfold head
  induction request.lines with
  | nil => rfl
  | cons line rest induction =>
      rw [List.flatMap_cons, Bytes.of_chars_append, induction, List.map_cons, List.flatMap_cons,
        Bytes.of_chars_append]
      rfl

theorem blank_line_ended (request : WireRequest) :
    request.blankLine = [Byte.lf] ∨ request.blankLine = [Byte.cr, Byte.lf] := by
  unfold blankLine returnOf
  cases request.blankReturned with
  | false => exact .inl (by decide)
  | true => exact .inr (by decide)

/-- The first byte of a text is a carriage return for that character only. -/
theorem first_byte {char : Char} (unreturned : char ≠ '\r') (rest : List Char) :
    ∃ byte more, Bytes.ofChars (char :: rest) = byte :: more ∧ byte ≠ Byte.cr := by
  cases encoded : String.utf8EncodeChar char with
  | nil => exact absurd encoded String.utf8EncodeChar_ne_nil
  | cons byte following =>
      refine ⟨byte, following ++ Bytes.ofChars rest, ?_, ?_⟩
      · simp only [Bytes.ofChars, List.flatMap_cons, encoded, List.cons_append]
      · rintro rfl
        have written : Byte.cr ∈ String.utf8EncodeChar char := by
          rw [encoded]
          exact List.mem_cons_self
        exact unreturned (Utf8.encoded_ascii written (by decide))

theorem Wellformed.text_lines (wellformed : request.Wellformed)
    (solid : ∀ char ∈ request.targetText.toList, isBlank char = false) :
    ∀ line ∈ request.lines.map Bytes.ofChars, Decoder.IsTextLine line := by
  intro line member
  obtain ⟨chars, listed, rfl⟩ := List.mem_map.1 member
  refine ⟨fun feed => wellformed.feedless_lines solid chars listed (Utf8.feed_encoded feed), ?_⟩
  rcases List.mem_cons.1 listed with rfl | field
  · obtain ⟨char, rest, method⟩ := List.exists_cons_of_ne_nil wellformed.method_filled
    have unreturned : char ≠ '\r' := by
      rintro rfl
      have blankless := token_solid wellformed.token '\r' (by rw [method]; exact List.mem_cons_self)
      exact absurd blankless (by decide)
    rw [requestLine, method, List.cons_append]
    exact first_byte unreturned _
  · obtain ⟨written, among, rfl⟩ := List.mem_map.1 field
    obtain ⟨char, rest, name, solid⟩ := line_name_cons (wellformed.fields written among).name
    rw [FieldLine.line, name, List.cons_append]
    exact first_byte solid.2.2.2 _

theorem Wellformed.scanned (wellformed : request.Wellformed)
    (solid : ∀ char ∈ request.targetText.toList, isBlank char = false) {size : Nat}
    (fits : request.headLength ≤ size) (rest : Bytes) :
    Decoder.scan size {} (request.bytes ++ rest) = .head request.head (request.body ++ rest) := by
  have blanks : ∀ byte ∈ request.front, Decoder.isLineEnd byte = true := by
    intro byte member
    rcases wellformed.front byte member with rfl | rfl
    · rfl
    · rfl
  have within : (((request.lines.map Bytes.ofChars).flatMap fun line => line ++ [Byte.lf]) ++
      request.blankLine).length ≤ size := by
    rw [← head_lines]
    exact fits
  have found := Decoder.scan_lines blanks (by simp [lines]) (wellformed.text_lines solid)
    request.blank_line_ended within (request.body ++ rest)
  rw [← head_lines, ← List.append_assoc] at found
  exact found

/-- A request in front of anything is heard as it was written. -/
theorem Wellformed.heard (wellformed : request.Wellformed)
    (solid : ∀ char ∈ request.targetText.toList, isBlank char = false) {size : Nat}
    (fits : request.headLength ≤ size) (rest : Bytes) :
    Loop.hear size ⟨request.bytes ++ rest, none⟩ =
      .request ⟨Head.make request.method request.target (Headers.ofPairs request.pairs),
        request.body.length⟩ ⟨request.body ++ rest, none⟩ := by
  rw [Loop.hear_scanned none (wellformed.scanned solid fits rest), wellformed.of_head solid]

end WireRequest

namespace Loop

variable {σ : Type}

end Loop

end StreamHttp
