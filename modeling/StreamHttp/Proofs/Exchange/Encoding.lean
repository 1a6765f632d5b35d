import StreamHttp.Exchange.Encoding
import StreamHttp.Proofs.Exchange.Decoration

/-!
Encoding is all or nothing. A response whose body can be encoded keeps everything beside its body,
but may get a media type; one whose body cannot be encoded is given up as a whole. What is encoded
is encoded for good.

Throughout, the media type of a response is the one that can be read off its headers. A field
`Content-Type` that cannot be read counts as none, and its values are replaced where a media type
is called for.
-/

namespace StreamHttp

namespace Headers

variable {name fresh : String} {change : List String → List String}

def pairsBeside (name : String) (headers : Headers) : List (String × String) :=
  headers.pairs.filter fun pair => pair.1 != canonicalName name

theorem pairs_beside_alter (entries : List (String × List String)) :
    (Multimap.mk (Multimap.alter name change fresh entries)).pairs.filter (·.1 != name) =
      (Multimap.mk entries).pairs.filter (·.1 != name) := by
  have own (values : List String) :
      (values.map fun value => (name, value)).filter (·.1 != name) = [] := by
    rw [List.filter_eq_nil_iff]
    intro pair listed
    obtain ⟨value, _, rfl⟩ := List.mem_map.1 listed
    rw [bne_self_eq_false]
    exact Bool.false_ne_true
  unfold Multimap.pairs
  simp only [List.filter_flatMap]
  induction entries with
  | nil =>
      rw [Multimap.alter, List.flatMap_singleton, List.flatMap_nil]
      exact own [fresh]
  | cons entry rest induction =>
      unfold Multimap.alter
      split
      next same =>
        rw [List.flatMap_cons, List.flatMap_cons, eq_of_beq same, own, own]
      next => rw [List.flatMap_cons, List.flatMap_cons, induction]

theorem pairs_beside_set (headers : Headers) (name value : String) :
    (headers.set name value).pairsBeside name = headers.pairsBeside name :=
  pairs_beside_alter headers.fields.entries

end Headers

namespace Payload

def isStructured : Payload → Bool
  | .json _ => true
  | .list _ => true
  | .object _ _ => true
  | _ => false

variable {payload : Payload}

theorem not_text_of_structured (structured : payload.isStructured = true) :
    payload.isText = false := by
  cases payload with
  | text => cases structured
  | _ => rfl

theorem unstructured_cases (plain : ¬payload.isStructured = true) :
    payload = .empty ∨ (∃ bytes, payload = .bytes bytes) ∨ (∃ content, payload = .text content) ∨
      ∃ writable, payload = .writable writable := by
  cases payload with
  | empty => exact .inl rfl
  | bytes bytes => exact .inr (.inl ⟨bytes, rfl⟩)
  | text content => exact .inr (.inr (.inl ⟨content, rfl⟩))
  | writable writable => exact .inr (.inr (.inr ⟨writable, rfl⟩))
  | json => exact absurd rfl plain
  | list => exact absurd rfl plain
  | object => exact absurd rfl plain

end Payload

namespace Response

def charsetOr (response : Response) (defaultCharset : String) : String :=
  response.charset?.getD defaultCharset

def codecMedia (response : Response) : MediaType := response.contentType?.getD .json

/-- What stands in the way of encoding a response. -/
inductive Unencodable (codecs : Codecs) (defaultCharset : String) (response : Response) :
    CodecError → Prop where
  | noEncoder (structured : response.body.isStructured = true)
      (missing : codecs.encoder? response.codecMedia response.body = none) :
      Unencodable codecs defaultCharset response
        (.noEncoder response.codecMedia.render response.body.typeName)
  | codec {codec : Codec} {error : CodecError} (structured : response.body.isStructured = true)
      (found : codecs.encoder? response.codecMedia response.body = some codec)
      (failed : codec.encode response.body (response.charsetOr defaultCharset) = .error error) :
      Unencodable codecs defaultCharset response error
  /-- However much was written before. -/
  | writer {writable : Writable} {written : Bytes} {reason : String}
      (body : response.body = .writable writable)
      (failed : writable.write (response.charsetOr defaultCharset) = (written, some reason)) :
      Unencodable codecs defaultCharset response (.encode reason)

/-- What the body of a response is written as. -/
inductive Writes (codecs : Codecs) (defaultCharset : String) (response : Response) :
    Payload → Prop where
  | empty (body : response.body = .empty) : Writes codecs defaultCharset response .empty
  | bytes {bytes : Bytes} (body : response.body = .bytes bytes) :
      Writes codecs defaultCharset response (.bytes bytes)
  | text {content : String} (body : response.body = .text content) :
      Writes codecs defaultCharset response (.bytes (Bytes.ofString content))
  | writer {writable : Writable} {written : Bytes} (body : response.body = .writable writable)
      (complete : writable.write (response.charsetOr defaultCharset) = (written, none)) :
      Writes codecs defaultCharset response (.bytes written)
  | codec {codec : Codec} {bytes : Bytes} (structured : response.body.isStructured = true)
      (found : codecs.encoder? response.codecMedia response.body = some codec)
      (made : codec.encode response.body (response.charsetOr defaultCharset) = .ok bytes) :
      Writes codecs defaultCharset response (.bytes bytes)

/-- The media type that a body gets where the response names none. -/
def missingType? (response : Response) : Option MediaType :=
  if response.contentType?.isSome then none
  else if response.body.isText then some .plainText
  else if response.body.isStructured then some .json
  else none

/-- A response and what it is once its body is encoded. -/
structure EncodedAs (codecs : Codecs) (defaultCharset : String) (response encoded : Response) :
    Prop where
  body : response.Writes codecs defaultCharset encoded.body
  status : encoded.status = response.status
  ownReason : encoded.ownReason = response.ownReason
  /-- A header is only set where a body of text or of a codec has no media type. -/
  headers : encoded.headers =
    match response.missingType? with
    | none => response.headers
    | some media => response.headers.setContentType media
  others (name : String) (other : canonicalName name ≠ "Content-Type") :
    encoded.headers.getAll name = response.headers.getAll name
  order : encoded.headers.pairsBeside "Content-Type" = response.headers.pairsBeside "Content-Type"

def Settled (response : Response) : Prop :=
  response.body = .empty ∨ ∃ bytes, response.body = .bytes bytes

variable {codecs : Codecs} {charset : String} {response encoded : Response} {error : CodecError}

theorem EncodedAs.settled (made : response.EncodedAs codecs charset encoded) : encoded.Settled := by
  have writes := made.body
  generalize written : encoded.body = body at writes
  cases writes with
  | empty => exact .inl written
  | _ => exact .inr ⟨_, written⟩

theorem missing_type_named (named : response.contentType?.isSome = true) :
    response.missingType? = none := by
  rw [missingType?, if_pos named]

theorem missing_type_verbatim (text : response.body.isText = false)
    (structured : response.body.isStructured = false) : response.missingType? = none := by
  rw [missingType?, text, structured]
  split
  · rfl
  · rfl

theorem EncodedAs.of_headers {headers : Headers} {body : Payload}
    (writes : response.Writes codecs charset body)
    (completed : headers =
      match response.missingType? with
      | none => response.headers
      | some media => response.headers.setContentType media) :
    response.EncodedAs codecs charset { response with headers, body } where
  body := writes
  status := rfl
  ownReason := rfl
  headers := completed
  others := by
    intro name other
    rw [completed]
    split
    next => rfl
    next media _ =>
      rw [Headers.setContentType, Headers.get_all_set, if_neg]
      exact fun same => other same.symm
  order := by
    rw [completed]
    split
    next => rfl
    next media _ => exact response.headers.pairs_beside_set _ _

theorem encoded_as_verbatim {body : Payload} (writes : response.Writes codecs charset body)
    (text : response.body.isText = false) (structured : response.body.isStructured = false) :
    response.EncodedAs codecs charset { response with body } := by
  apply EncodedAs.of_headers writes
  rw [missing_type_verbatim text structured]

theorem encoded_as_typed {media : MediaType} {bytes : Bytes}
    (writes : response.Writes codecs charset (.bytes bytes))
    (unnamed : response.contentType? = none → response.missingType? = some media) :
    response.EncodedAs codecs charset ((response.withMissingType media).withBytes bytes) := by
  unfold withMissingType
  cases named : response.contentType? with
  | none =>
      apply EncodedAs.of_headers writes
      rw [unnamed named]
      rfl
  | some own =>
      apply EncodedAs.of_headers writes
      rw [missing_type_named (named ▸ rfl)]
      rfl

/-- What encoding makes of a value that only a codec can write. -/
theorem try_encode_structured (structured : response.body.isStructured = true) :
    response.tryEncode codecs charset =
      match codecs.encoder? response.codecMedia response.body with
      | none => .error (.noEncoder response.codecMedia.render response.body.typeName)
      | some codec =>
          (codec.encode response.body (response.charsetOr charset)).map
            (response.withMissingType response.codecMedia).withBytes := by
  have attempt (codec : Codec) :
      (do
        let bytes ← codec.encode response.body (response.charsetOr charset)
        .ok ((response.withMissingType response.codecMedia).withBytes bytes)) =
      (codec.encode response.body (response.charsetOr charset)).map
        (response.withMissingType response.codecMedia).withBytes := by
    cases codec.encode response.body (response.charsetOr charset) with
    | error error => rfl
    | ok bytes => rfl
  unfold tryEncode
  split
  next empty => rw [empty] at structured; cases structured
  next bytes => rw [bytes] at structured; cases structured
  next text => rw [text] at structured; cases structured
  next writable => rw [writable] at structured; cases structured
  next => simp only [← attempt]; rfl

theorem try_encode_unencodable (reason : response.Unencodable codecs charset error) :
    response.tryEncode codecs charset = .error error := by
  cases reason with
  | noEncoder structured missing => rw [try_encode_structured structured, missing]
  | codec structured found failed =>
      rw [try_encode_structured structured, found]
      exact congrArg (Except.map _) failed
  | writer body failed =>
      unfold charsetOr at failed
      unfold tryEncode
      simp only [body, failed]

/-- Encoding fails for no other reason. -/
theorem unencodable_of_try_encode (failed : response.tryEncode codecs charset = .error error) :
    response.Unencodable codecs charset error := by
  by_cases structured : response.body.isStructured = true
  · rw [try_encode_structured structured] at failed
    split at failed
    next missing =>
      cases failed
      exact .noEncoder structured missing
    next codec found =>
      cases outcome : codec.encode response.body (response.charsetOr charset) with
      | error own =>
          rw [outcome] at failed
          cases failed
          exact .codec structured found outcome
      | ok bytes =>
          rw [outcome] at failed
          cases failed
  · unfold tryEncode at failed
    rcases Payload.unstructured_cases structured with
      body | ⟨bytes, body⟩ | ⟨content, body⟩ | ⟨writable, body⟩
    · simp only [body] at failed
      cases failed
    · simp only [body] at failed
      cases failed
    · simp only [body] at failed
      cases failed
    · simp only [body] at failed
      split at failed
      next => cases failed
      next written reason outcome =>
        cases failed
        exact .writer body outcome

theorem encoded_as_of_try_encode (made : response.tryEncode codecs charset = .ok encoded) :
    response.EncodedAs codecs charset encoded := by
  by_cases structured : response.body.isStructured = true
  · rw [try_encode_structured structured] at made
    split at made
    next => cases made
    next codec found =>
      cases outcome : codec.encode response.body (response.charsetOr charset) with
      | error own =>
          rw [outcome] at made
          cases made
      | ok bytes =>
          rw [outcome] at made
          cases made
          apply encoded_as_typed (.codec structured found outcome)
          intro unnamed
          have untold : response.body.isText = false := Payload.not_text_of_structured structured
          have media : response.codecMedia = .json := by rw [codecMedia, unnamed]; rfl
          rw [missingType?, unnamed, untold, structured, media]
          rfl
  · unfold tryEncode at made
    rcases Payload.unstructured_cases structured with
      body | ⟨bytes, body⟩ | ⟨content, body⟩ | ⟨writable, body⟩
    · simp only [body] at made
      cases made
      have writes : response.Writes codecs charset .empty := .empty body
      have kept := encoded_as_verbatim writes (body ▸ rfl) (body ▸ rfl)
      rw [← body] at kept
      exact kept
    · simp only [body] at made
      cases made
      exact encoded_as_verbatim (.bytes body) (body ▸ rfl) (body ▸ rfl)
    · simp only [body] at made
      cases made
      apply encoded_as_typed (.text body)
      intro unnamed
      rw [missingType?, unnamed, body]
      rfl
    · simp only [body] at made
      split at made
      next bytes complete =>
        cases made
        exact encoded_as_verbatim (.writer body complete) (body ▸ rfl) (body ▸ rfl)
      next => cases made

theorem try_encode_settled (settled : response.Settled) :
    response.tryEncode codecs charset = .ok response := by
  unfold tryEncode
  rcases settled with body | ⟨bytes, body⟩
  · simp only [body]
  · simp only [body, withBytes]
    rw [← body]

theorem encode_settled (settled : response.Settled) :
    response.encode codecs charset = response := by
  rw [encode, try_encode_settled settled]

def replacement (error : CodecError) : Response where
  status := .internalError
  headers := .ofPairs [("Content-Type", "application/json")]
  body := .bytes (Bytes.ofString (Json.object [("message", .string error.message)]).render)

theorem encoding_failed_eq (error : CodecError) : encodingFailed error = replacement error := by
  have headers : ((ofStatus .internalError).setContentType .json).headers =
      .ofPairs [("Content-Type", "application/json")] := by
    decide
  unfold encodingFailed withBytes
  rw [headers]
  rfl

theorem encode_cases (codecs : Codecs) (charset : String) (response : Response) :
    (∃ error, response.Unencodable codecs charset error ∧
        response.encode codecs charset = replacement error) ∨
      ((∀ error, ¬response.Unencodable codecs charset error) ∧
        response.EncodedAs codecs charset (response.encode codecs charset)) := by
  unfold encode
  cases tried : response.tryEncode codecs charset with
  | error error => exact .inl ⟨error, unencodable_of_try_encode tried, encoding_failed_eq error⟩
  | ok encoded =>
      refine .inr ⟨?_, encoded_as_of_try_encode tried⟩
      intro error reason
      rw [try_encode_unencodable reason] at tried
      cases tried

theorem status_encode (failed : response.status = .internalError) :
    (response.encode codecs charset).status = .internalError := by
  rcases response.encode_cases codecs charset with ⟨_, _, replaced⟩ | ⟨_, made⟩
  · rw [replaced]
    rfl
  · exact made.status.trans failed

/-- Encoding a response is all or nothing. Its body is encoded, once and for all; and where
nothing stands in the way everything else is kept, but for a media type that is missing. Else
nothing of it is left. -/
theorem encode_whole (codecs : Codecs) (charset : String) (response : Response) :
    (response.encode codecs charset).Settled ∧
      (∀ others otherCharset, (response.encode codecs charset).encode others otherCharset =
        response.encode codecs charset) ∧
      ((∃ error, response.Unencodable codecs charset error ∧
          response.encode codecs charset = replacement error) ∨
        ((∀ error, ¬response.Unencodable codecs charset error) ∧
          response.EncodedAs codecs charset (response.encode codecs charset))) := by
  have outcome := response.encode_cases codecs charset
  have settled : (response.encode codecs charset).Settled := by
    rcases outcome with ⟨error, _, replaced⟩ | ⟨_, made⟩
    · rw [replaced]
      exact .inr ⟨_, rfl⟩
    · exact made.settled
  exact ⟨settled, fun _ _ => encode_settled settled, outcome⟩

/-- A header that is there does not stay where no media type can be read off it. -/
theorem unreadable_type_replaced :
    let response : Response :=
      { headers := .ofPairs [("Content-Type", "nonsense")], body := .text "hi" }
    let encoded := response.encode [] "utf-8"
    response.headers.getAll "Content-Type" = ["nonsense"] ∧ encoded.status = .ok ∧
      encoded.body = .bytes (Bytes.ofString "hi") ∧
      encoded.headers.getAll "Content-Type" = ["text/plain"] :=
  ⟨by decide, rfl, rfl, by decide⟩

end Response

end StreamHttp
