import StreamHttp.Proofs.Wire.Encoder
import StreamHttp.Proofs.Wire.Message

/-!
What is written is what was meant. A response whose head stands on its lines is read back as one
message with its status, its reason and its fields, less those about the framing of the body, and
with exactly its body; every other response is refused before a byte is written.
-/

namespace StreamHttp

def Mentions (word text : String) : Prop :=
  ∃ before middle after, text.toList = before ++ (middle ++ after) ∧
    Text.sameIgnoringCase (String.ofList middle) word = true

theorem mentions_iff (word text : String) :
    Text.contains (Text.asciiLower word) (Text.asciiLower text) = true ↔ Mentions word text := by
  simp only [Text.contains, Text.asciiLower, String.toList_ofList, occurs_in_iff]
  constructor
  · rintro ⟨before, after, whole⟩
    obtain ⟨front, others, rest, _, behind⟩ := List.map_eq_append_iff.1 whole
    obtain ⟨middle, back, rfl, lowered, _⟩ := List.map_eq_append_iff.1 behind
    refine ⟨front, middle, back, rest, ?_⟩
    rw [Text.sameIgnoringCase, beq_iff_eq, Text.asciiLower, Text.asciiLower, String.toList_ofList,
      lowered]
  · rintro ⟨before, middle, after, whole, same⟩
    have lowered : middle.map Char.toLower = word.toList.map Char.toLower := by
      rw [Text.sameIgnoringCase, beq_iff_eq, Text.asciiLower, Text.asciiLower,
        String.toList_ofList] at same
      exact String.ofList_injective same
    refine ⟨before.map Char.toLower, after.map Char.toLower, ?_⟩
    rw [whole, List.map_append, List.map_append, lowered]

instance (word text : String) : Decidable (Mentions word text) :=
  decidable_of_iff _ (mentions_iff word text)

/-- A field about the framing of the body, which the writer alone may give. -/
def FramesBody (field : String × String) : Prop :=
  Text.sameIgnoringCase field.1 "Content-Length" = true ∨
    Text.sameIgnoringCase field.1 "Transfer-Encoding" = true ∧ Mentions "chunked" field.2

instance (field : String × String) : Decidable (FramesBody field) :=
  inferInstanceAs (Decidable (_ ∨ _ ∧ _))

/-- A canonical name is another one in all but case only where it is that name. -/
theorem canonical_same_iff {name other : String} (canonical : canonicalName name = name)
    (known : canonicalName other = other) :
    Text.sameIgnoringCase name other = true ↔ name = other := by
  constructor
  · intro same
    rw [← canonical, canonical_name_same same, known]
  · rintro rfl
    exact beq_self_eq_true _

namespace Response

theorem is_framing_iff {field : String × String} (canonical : canonicalName field.1 = field.1) :
    isFraming field = true ↔ FramesBody field := by
  have chunked : Text.asciiLower "chunked" = "chunked" := by rfl
  rw [FramesBody, canonical_same_iff canonical (by decide),
    canonical_same_iff canonical (by decide), ← mentions_iff, chunked, isFraming,
    Bool.or_eq_true, Bool.and_eq_true, beq_iff_eq, beq_iff_eq]

/-- The fields that are written: those of the response that leave the framing alone, and then the
length. -/
def writtenFields (response : Response) (length : Nat) : List (String × String) :=
  (response.headers.pairs.filter fun field => ¬FramesBody field) ++
    [("Content-Length", toString length)]

/-- What a receiver is to read. -/
def message (response : Response) (omitBody : Bool) (body : Bytes) : WireMessage where
  status := response.status.code
  reason := response.reason
  fields := response.writtenFields body.length
  length := body.length
  body := if omitBody then [] else body

def statusBytes (response : Response) : Bytes :=
  Bytes.ofString "HTTP/1.1" ++ Byte.ofAscii ' ' :: (Bytes.ofString response.status.render ++
    Byte.ofAscii ' ' :: Bytes.ofString response.reason)

def fieldBytes (field : String × String) : Bytes :=
  Bytes.ofString field.1 ++
    (Byte.ofAscii ':' :: [Byte.ofAscii ' '] ++ Bytes.ofString field.2)

theorem kept_fields (response : Response) :
    (response.headers.pairs.filter fun field => !isFraming field) =
      response.headers.pairs.filter fun field => ¬FramesBody field := by
  refine List.filter_congr fun field listed => ?_
  have canonical := response.headers.canonical field.1 (Headers.mem_names_of_pairs listed)
  rw [Bool.eq_iff_iff, Bool.not_eq_true', ← Bool.not_eq_true, is_framing_iff canonical,
    decide_eq_true_iff]

theorem line_end_bytes : Bytes.ofString lineEnd = crlf := by decide

theorem field_line_bytes (field : String × String) :
    Bytes.ofString (headerLine field) = fieldBytes field ++ crlf := by
  have sign : Bytes.ofString ": " = [Byte.ofAscii ':', Byte.ofAscii ' '] := by decide
  simp only [headerLine, Bytes.of_string_append, sign, line_end_bytes, fieldBytes, List.append_assoc,
    List.cons_append, List.nil_append]

theorem join_fields (fields : List (String × String)) :
    Bytes.ofString (String.join (fields.map headerLine)) =
      (fields.map fieldBytes).flatMap fun line => line ++ crlf := by
  induction fields with
  | nil => rfl
  | cons field rest induction =>
      rw [List.map_cons, String.join_cons, Bytes.of_string_append, induction, field_line_bytes,
        List.map_cons, List.flatMap_cons]

theorem line_ends_moved (lines : List Bytes) :
    crlf ++ (lines.flatMap fun line => line ++ crlf) =
      (lines.flatMap fun line => crlf ++ line) ++ crlf := by
  induction lines with
  | nil => rfl
  | cons line rest induction =>
      rw [List.flatMap_cons, List.flatMap_cons, List.append_assoc, List.append_assoc, induction,
        List.append_assoc]

/-- A head is its lines, a CR LF between every two of them, and a blank line. -/
theorem head_bytes (response : Response) (length : Nat) :
    Bytes.ofString (response.headText length) =
      response.statusBytes ++ ((((response.writtenFields length).map fieldBytes).flatMap
        fun line => crlf ++ line) ++ (crlf ++ crlf)) := by
  have start : Bytes.ofString "HTTP/1.1 " = Bytes.ofString "HTTP/1.1" ++ [Byte.ofAscii ' '] := by
    decide
  have space : Bytes.ofString " " = [Byte.ofAscii ' '] := by decide
  have lines : Bytes.ofString (response.headText length) =
      response.statusBytes ++ ((crlf ++ ((response.writtenFields length).map fieldBytes).flatMap
        fun line => line ++ crlf) ++ crlf) := by
    delta headText
    simp only [Bytes.of_string_append, start, space, line_end_bytes, join_fields, kept_fields,
      field_line_bytes, statusBytes, writtenFields, List.map_append, List.map_cons, List.map_nil,
      List.flatMap_append, List.flatMap_cons, List.flatMap_nil, List.append_assoc,
      List.cons_append, List.nil_append]
  rw [lines, line_ends_moved, List.append_assoc]

theorem value_unreturned {text : Bytes} (value : isFieldValue text = true) : Byte.cr ∉ text := by
  intro member
  exact absurd (List.all_eq_true.1 value _ member) (by decide)

theorem token_bytes {text : Bytes} (token : isToken text = true) :
    text ≠ [] ∧ Byte.cr ∉ text ∧ Byte.ofAscii ':' ∉ text := by
  rw [isToken, Bool.and_eq_true, List.all_eq_true] at token
  refine ⟨?_, fun member => ?_, fun member => ?_⟩
  · rintro rfl
    cases token.1
  · exact absurd (token.2 _ member) (by decide)
  · exact absurd (token.2 _ member) (by decide)

theorem number_bytes (value : Nat) {byte : Byte} (member : byte ∈ Bytes.ofString (toString value)) :
    byte ≠ Byte.ofAscii ' ' ∧ byte ≠ Byte.cr := by
  have digit {other : Byte} (written : other ∈ Bytes.ofString (toString value))
      (ascii : other.toNat < 128) : '0' ≤ Char.ofNat other.toNat :=
    (decimal_char (decimal_rendered value).1 (Utf8.ascii_encoded written ascii)).1
  constructor
  · rintro rfl
    exact absurd (digit member (by decide)) (by decide)
  · rintro rfl
    exact absurd (digit member (by decide)) (by decide)

theorem read_number (value : Nat) : WireMessage.decimal? (toString value) = some value := by
  rw [WireMessage.decimal?, if_pos (decimal_rendered value).1, (decimal_rendered value).2]

theorem read_text (text : String) : Utf8.decode? (Bytes.ofString text) = some text := by
  rw [Bytes.ofString, Utf8.decode_encoded, String.ofList_toList]

theorem read_status (response : Response) :
    WireMessage.statusLine? response.statusBytes =
      some (response.status.code, response.reason) := by
  have version : Byte.ofAscii ' ' ∉ Bytes.ofString "HTTP/1.1" := by decide
  have code : Byte.ofAscii ' ' ∉ Bytes.ofString response.status.render :=
    fun member => (number_bytes response.status.code member).1 rfl
  have number : WireMessage.decimal? response.status.render = some response.status.code :=
    read_number response.status.code
  simp only [WireMessage.statusLine?, statusBytes, cut_append version, cut_append code,
    Option.bind_eq_bind, Option.bind_some, beq_self_eq_true, if_true, read_text, number]
  rfl

theorem read_field {field : String × String} (token : isToken (Bytes.ofString field.1) = true) :
    WireMessage.field? (fieldBytes field) = some field := by
  simp only [WireMessage.field?, fieldBytes, cut_mark_append (token_bytes token).2.2,
    Option.bind_eq_bind, Option.bind_some, read_text]
  rfl

theorem read_fields {fields : List (String × String)}
    (tokens : ∀ field ∈ fields, isToken (Bytes.ofString field.1) = true) :
    (fields.map fieldBytes).mapM WireMessage.field? = some fields := by
  induction fields with
  | nil => rfl
  | cons field rest induction =>
      rw [List.map_cons, List.mapM_cons, read_field (tokens field List.mem_cons_self),
        induction fun other member => tokens other (List.mem_cons_of_mem _ member)]
      rfl

theorem declared_length (response : Response) (length : Nat) :
    WireMessage.declaredLength? (response.writtenFields length) = some length := by
  have silent : (response.headers.pairs.filter fun field => ¬FramesBody field).filter
      (fun field => Text.sameIgnoringCase field.1 "Content-Length") = [] := by
    refine List.filter_eq_nil_iff.2 fun field listed declares => ?_
    have kept := (List.mem_filter.1 listed).2
    exact of_decide_eq_true kept (.inl declares)
  have declares : [("Content-Length", toString length)].filter
      (fun field => Text.sameIgnoringCase field.1 "Content-Length") =
        [("Content-Length", toString length)] := List.filter_cons_of_pos (beq_self_eq_true _)
  rw [WireMessage.declaredLength?, writtenFields, List.filter_append, silent, declares]
  exact read_number length

theorem written_field {response : Response} (stands : response.StandsOnLines) {length : Nat}
    {field : String × String} (member : field ∈ response.writtenFields length) :
    isToken (Bytes.ofString field.1) = true ∧ Byte.cr ∉ Bytes.ofString field.2 := by
  rcases List.mem_append.1 member with kept | final
  · have listed := (List.mem_filter.1 kept).1
    exact ⟨stands.names field listed, value_unreturned (stands.values field listed)⟩
  · have token : isToken (Bytes.ofString "Content-Length") = true := by decide
    cases List.mem_singleton.1 final
    exact ⟨token, fun written => (number_bytes length written).2 rfl⟩

theorem status_unreturned {response : Response} (stands : response.StandsOnLines) :
    Byte.cr ∉ response.statusBytes := by
  have version : Byte.cr ∉ Bytes.ofString "HTTP/1.1" := by decide
  have space : Byte.cr ≠ Byte.ofAscii ' ' := by decide
  simp only [statusBytes, List.mem_append, List.mem_cons, not_or]
  exact ⟨version, space, fun written => (number_bytes response.status.code written).2 rfl, space,
    value_unreturned stands.reason⟩

theorem field_unreturned {field : String × String} (token : isToken (Bytes.ofString field.1) = true)
    (value : Byte.cr ∉ Bytes.ofString field.2) : Byte.cr ∉ fieldBytes field := by
  have colon : Byte.cr ≠ Byte.ofAscii ':' := by decide
  have space : Byte.cr ≠ Byte.ofAscii ' ' := by decide
  simp only [fieldBytes, List.mem_append, List.mem_cons, List.not_mem_nil, or_false, not_or]
  exact ⟨(token_bytes token).2.1, ⟨colon, space⟩, value⟩

theorem field_filled (field : String × String) : fieldBytes field ≠ [] := by
  simp [fieldBytes]

/-- The bytes of a response are read as the message that it means, and as nothing more. -/
theorem read_message {response : Response} (stands : response.StandsOnLines) (omitBody : Bool)
    (body rest : Bytes) :
    WireMessage.read? omitBody (Bytes.ofString (response.headText body.length) ++
        ((if omitBody then [] else body) ++ rest)) =
      some (response.message omitBody body, rest) := by
  have whole : ∀ line ∈ response.statusBytes ::
      (response.writtenFields body.length).map fieldBytes, Byte.cr ∉ line := by
    intro line member
    rcases List.mem_cons.1 member with rfl | listed
    · exact status_unreturned stands
    · obtain ⟨field, written, rfl⟩ := List.mem_map.1 listed
      have parts := written_field stands written
      exact field_unreturned parts.1 parts.2
  have filled : ∀ line ∈ (response.writtenFields body.length).map fieldBytes, line ≠ [] := by
    intro line member
    obtain ⟨field, _, rfl⟩ := List.mem_map.1 member
    exact field_filled field
  have sized : (if omitBody then [] else body : Bytes).length =
      if omitBody then 0 else body.length := by
    cases omitBody
    · rfl
    · rfl
  have read := WireMessage.read_lines whole filled (read_status response)
    (read_fields fun field written => (written_field stands written).1)
    (declared_length response body.length) sized rest
  rw [head_bytes, List.append_assoc, List.append_assoc]
  exact read

theorem read_wire {response : Response} {body bytes : Bytes}
    (encoded : response.encodedBody? = some body) {omitBody : Bool}
    (wired : response.wire omitBody = .ok bytes) (rest : Bytes) :
    WireMessage.read? omitBody (bytes ++ rest) = some (response.message omitBody body, rest) := by
  rcases wire_encoded encoded omitBody with checked | ⟨reason, _, refused⟩
  · rw [wire_checked encoded checked] at wired
    rw [← Except.ok.inj wired, List.append_assoc]
    exact read_message (check_head_stands checked) omitBody body rest
  · cases wired.symm.trans refused

end Response

namespace Sink

/-- A sink that takes all writes gets nothing of a response whose head does not stand on its lines.
Of every other response it gets exactly the bytes that are counted, and these are read back as the
message that was meant, whatever follows them. The names are taken to be checked for tokens alone,
as they are up to their greatest length. -/
theorem write_counted_read_back {sink : Sink} (unbounded : sink.room = none) {response : Response}
    {body : Bytes} (encoded : response.encodedBody? = some body) (omitBody : Bool) :
    (¬response.StandsOnLines →
      ∃ fault, sink.writeCounted response omitBody =
        (.error (.invalidResponseHead fault), sink)) ∧
    (response.StandsOnLines →
      (∀ pair ∈ response.headers.pairs,
        isFieldName (Bytes.ofString pair.1) = isToken (Bytes.ofString pair.1)) →
      ∃ bytes after, sink.writeCounted response omitBody = (.ok bytes.length, after) ∧
        after.written = sink.written ++ bytes ∧
        ∀ rest, WireMessage.read? omitBody (bytes ++ rest) =
          some (response.message omitBody body, rest)) := by
  constructor
  · intro unfit
    rcases Response.wire_encoded encoded omitBody with checked | ⟨fault, _, refused⟩
    · exact absurd (Response.check_head_stands checked) unfit
    · refine ⟨fault, ?_⟩
      rw [writeCounted, writeResponse, refused]
      rfl
  · intro stands named
    have checked : response.checkHead = .ok () :=
      Response.check_head_iff.2 ⟨stands.reason, fun pair listed =>
        ⟨(named pair listed).trans (stands.names pair listed), stands.values pair listed⟩⟩
    have wired := Response.wire_checked encoded checked omitBody
    have writing := write_response_unbounded unbounded wired
    refine ⟨Bytes.ofString (response.headText body.length) ++ if omitBody then [] else body,
      { sink with writes := _ :: sink.writes }, ?_, written_behind sink _,
      Response.read_wire encoded wired⟩
    have counted (head : Bytes) :
        (if omitBody then head.length else head.length + body.length) =
          (head ++ if omitBody then [] else body).length := by
      cases omitBody
      · exact List.length_append.symm
      · rw [if_pos rfl, if_pos rfl, List.append_nil]
    rw [writeCounted, writing, encoded, ← counted]
    rfl

/-- What would frame the body otherwise does not reach the wire. -/
theorem write_counted_read_back_chunked :
    let headers := (Headers.empty.add "transfer-encoding" "gzip, Chunked").add "x-note" "a: b"
    let response : Response := { status := .notFound, headers, body := .bytes [104, 105] }
    ∃ bytes after, Sink.writeCounted {} response false = (.ok bytes.length, after) ∧
      after.written = bytes ∧
      WireMessage.read? false bytes =
        some (⟨404, "Not Found", [("X-Note", "a: b"), ("Content-Length", "2")], 2, [104, 105]⟩,
          []) := by
  intro headers response
  have stands : response.StandsOnLines :=
    ⟨by decide +kernel, by decide +kernel, by decide +kernel⟩
  have unbounded : ({} : Sink).room = none := rfl
  have encoded : response.encodedBody? = some [104, 105] := rfl
  have meant : response.message false [104, 105] =
      ⟨404, "Not Found", [("X-Note", "a: b"), ("Content-Length", "2")], 2, [104, 105]⟩ := by
    decide +kernel
  obtain ⟨bytes, after, counted, written, read⟩ :=
    (write_counted_read_back unbounded encoded false).2 stands (by decide +kernel)
  refine ⟨bytes, after, counted, written, ?_⟩
  have whole := read []
  rw [List.append_nil, meant] at whole
  exact whole

end Sink

end StreamHttp
