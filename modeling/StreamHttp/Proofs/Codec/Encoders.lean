import StreamHttp.Codec.Standard
import StreamHttp.Proofs.Exchange.Encoding

/-!
A codec is asked twice about a payload: whether it can encode it, and then to encode it. It keeps
its word if it encodes exactly what it says it can. The codecs that are always there do; so a
response that is left to them is given up only for want of a codec, or for a body that fails to
write itself.
-/

namespace StreamHttp

namespace Payload

mutual

/-- What stands at the ends of the lists in a payload: the payload itself, if it is no list. -/
def leaves : Payload → List Payload
  | .list items => leavesOfAll items
  | leaf => [leaf]

def leavesOfAll : List Payload → List Payload
  | [] => []
  | item :: rest => leaves item ++ leavesOfAll rest

end

-- The induction is on a payload and on the items of a list at once, as in `toJson?`.
mutual

/-- However deep it stands, one leaf decides: a payload has a structure if each of its leaves can be
written as text. -/
theorem to_json_leaves (payload : Payload) :
    payload.toJson?.isSome = true ↔ ∀ leaf ∈ payload.leaves, Codec.hasText leaf = true := by
  cases payload with
  | list items =>
      rw [toJson?, Option.isSome_map, leaves]
      exact all_to_json_leaves items
  | _ => simp [toJson?, leaves, Codec.hasText]

theorem all_to_json_leaves (items : List Payload) :
    (allToJson? items).isSome = true ↔ ∀ leaf ∈ leavesOfAll items, Codec.hasText leaf = true := by
  cases items with
  | nil => simp [allToJson?, leavesOfAll]
  | cons item rest =>
      have first := to_json_leaves item
      have others := all_to_json_leaves rest
      rw [leavesOfAll, List.forall_mem_append, ← first, ← others, allToJson?]
      cases item.toJson? with
      | none => simp
      | some value =>
          cases allToJson? rest with
          | none => simp
          | some values => simp

end

/-- A payload can be written as a media type: as JSON if each of its leaves can be written as text,
as text if the payload itself can, and as nothing else. -/
def Fits (media : MediaType) (payload : Payload) : Prop :=
  (media.isJson = true ∧ ∀ leaf ∈ payload.leaves, Codec.hasText leaf = true) ∨
    (media.isText = true ∧ Codec.hasText payload = true)

end Payload

namespace Codec

/-- A codec encodes exactly the payloads that it says it can encode, whatever the charset. -/
def KeepsWord (codec : Codec) : Prop :=
  ∀ payload charset,
    codec.canEncode payload = true ↔ ∃ bytes, codec.encode payload charset = .ok bytes

theorem json_keeps_word : json.KeepsWord := by
  intro payload charset
  cases made : payload.toJson? with
  | none => simp [json, made]
  | some value => simp [json, made]

theorem text_keeps_word : text.KeepsWord := by
  intro payload charset
  cases payload with
  | json value =>
      -- A value that is a text is written by a branch of its own.
      cases value with
      | string content => simp [text, hasText, textBytes]
      | _ => simp [text, hasText, textBytes]
  | _ => simp [text, hasText, textBytes]

theorem form_keeps_word : form.KeepsWord := by
  intro payload charset
  simp [form]

end Codec

namespace Codecs

variable {codecs : Codecs} {media : MediaType} {payload : Payload} {codec : Codec}

theorem encoder_some (found : codecs.encoder? media payload = some codec) :
    codec ∈ codecs ∧ codec.supports media = true ∧ codec.canEncode payload = true := by
  have listed := List.mem_of_find?_eq_some found
  have chosen := List.find?_some found
  exact ⟨List.mem_reverse.1 listed, Bool.and_eq_true_iff.1 chosen⟩

theorem encoder_some_iff :
    (codecs.encoder? media payload).isSome = true ↔
      ∃ codec ∈ codecs, codec.supports media = true ∧ codec.canEncode payload = true := by
  unfold encoder?
  simp only [List.find?_isSome, List.mem_reverse, Bool.and_eq_true]

theorem encoder_none_iff :
    codecs.encoder? media payload = none ↔
      ¬∃ codec ∈ codecs, codec.supports media = true ∧ codec.canEncode payload = true := by
  rw [← encoder_some_iff, Option.not_isSome_iff_eq_none]

/-- Among codecs that keep their word, the one that is found for a payload encodes it. -/
theorem encoder_delivers (kept : ∀ codec ∈ codecs, codec.KeepsWord)
    (found : codecs.encoder? media payload = some codec) (charset : String) :
    ∃ bytes, codec.encode payload charset = .ok bytes := by
  obtain ⟨listed, _, able⟩ := encoder_some found
  exact (kept codec listed payload charset).1 able

theorem mem_standard : codec ∈ standard ↔ codec = .form ∨ codec = .text ∨ codec = .json := by
  simp only [standard, List.mem_cons, List.not_mem_nil, or_false]

theorem standard_kept : ∀ codec ∈ standard, codec.KeepsWord := by
  intro codec listed
  rcases mem_standard.1 listed with rfl | rfl | rfl
  · exact Codec.form_keeps_word
  · exact Codec.text_keeps_word
  · exact Codec.json_keeps_word

theorem standard_encoder_iff (media : MediaType) (payload : Payload) :
    (standard.encoder? media payload).isSome = true ↔ payload.Fits media := by
  rw [encoder_some_iff, Payload.Fits, ← payload.to_json_leaves]
  constructor
  · rintro ⟨codec, listed, supported, able⟩
    rcases mem_standard.1 listed with rfl | rfl | rfl
    · exact absurd able Bool.false_ne_true
    · exact .inr ⟨supported, able⟩
    · exact .inl ⟨supported, able⟩
  · rintro (structured | plain)
    · exact ⟨.json, mem_standard.2 (.inr (.inr rfl)), structured⟩
    · exact ⟨.text, mem_standard.2 (.inr (.inl rfl)), plain⟩

end Codecs

namespace Response

/-- What stands in the way of encoding a response, told without the codecs' encoding anything: no
codec both supports its media type and can encode its body, or its body fails to write itself. -/
inductive Hindered (codecs : Codecs) (defaultCharset : String) (response : Response) :
    CodecError → Prop where
  | noCodec (structured : response.body.isStructured = true)
      (refused : ¬∃ codec ∈ codecs, codec.supports response.codecMedia = true ∧
        codec.canEncode response.body = true) :
      Hindered codecs defaultCharset response
        (.noEncoder response.codecMedia.render response.body.typeName)
  | writer {writable : Writable} {written : Bytes} {reason : String}
      (body : response.body = .writable writable)
      (failed : writable.write (response.charsetOr defaultCharset) = (written, some reason)) :
      Hindered codecs defaultCharset response (.encode reason)

variable {codecs : Codecs} {charset : String} {response : Response} {error : CodecError}

theorem unencodable_iff_hindered (kept : ∀ codec ∈ codecs, codec.KeepsWord) :
    response.Unencodable codecs charset error ↔ response.Hindered codecs charset error := by
  constructor
  · intro reason
    cases reason with
    | noEncoder structured missing => exact .noCodec structured (Codecs.encoder_none_iff.1 missing)
    | codec structured found failed =>
        obtain ⟨bytes, made⟩ := Codecs.encoder_delivers kept found (response.charsetOr charset)
        rw [made] at failed
        cases failed
    | writer body failed => exact .writer body failed
  · intro reason
    cases reason with
    | noCodec structured refused => exact .noEncoder structured (Codecs.encoder_none_iff.2 refused)
    | writer body failed => exact .writer body failed

theorem encode_kept (kept : ∀ codec ∈ codecs, codec.KeepsWord) (charset : String)
    (response : Response) :
    (∃ error, response.Hindered codecs charset error ∧
        response.encode codecs charset = replacement error) ∨
      ((∀ error, ¬response.Hindered codecs charset error) ∧
        response.EncodedAs codecs charset (response.encode codecs charset)) := by
  simp only [← unencodable_iff_hindered kept]
  exact response.encode_cases codecs charset

end Response

namespace Codecs

/-- The codecs that are always there keep their word. So the one that is found for a payload encodes
it, and one is found exactly if the payload can be written as the media type. Encoding replaces a
response only if none of them both supports its media type and can encode its body, or if its body
fails to write itself; every other response is encoded and keeps its status. -/
theorem standard_delivers :
    (∀ codec ∈ standard, ∀ payload charset,
      codec.canEncode payload = true ↔ ∃ bytes, codec.encode payload charset = .ok bytes) ∧
    (∀ media payload codec, standard.encoder? media payload = some codec →
      ∀ charset, ∃ bytes, codec.encode payload charset = .ok bytes) ∧
    (∀ media payload, (standard.encoder? media payload).isSome = true ↔ payload.Fits media) ∧
    ∀ (charset : String) (response : Response),
      (∃ error, response.Hindered standard charset error ∧
          response.encode standard charset = .replacement error) ∨
        ((∀ error, ¬response.Hindered standard charset error) ∧
          response.EncodedAs standard charset (response.encode standard charset)) :=
  ⟨standard_kept, fun _ _ _ found => encoder_delivers standard_kept found, standard_encoder_iff,
    Response.encode_kept standard_kept⟩

/-- Lists of lists are encoded as JSON, but for those with bytes somewhere in them. -/
theorem standard_delivers_nested :
    let menu : Payload := .list [.text "tea", .list [.json (.integer 5), .empty]]
    let spoilt : Payload := .list [.text "tea", .list [.json (.integer 5), .bytes []]]
    Codec.json ∈ standard ∧ standard.encoder? .json menu = some Codec.json ∧
      (∃ bytes, Codec.json.encode menu "utf-8" = .ok bytes) ∧
      (¬∃ bytes, Codec.json.encode spoilt "utf-8" = .ok bytes) ∧
      ∃ error, ({ body := spoilt } : Response).encode standard "utf-8" = .replacement error := by
  intro menu spoilt
  obtain ⟨word, delivered, _, encoded⟩ := standard_delivers
  have listed : Codec.json ∈ standard := mem_standard.2 (.inr (.inr rfl))
  have found : standard.encoder? .json menu = some Codec.json := rfl
  have missing : standard.encoder? .json spoilt = none := rfl
  refine ⟨listed, found, delivered _ _ _ found _, ?_, ?_⟩
  · intro made
    exact Bool.false_ne_true ((word _ listed spoilt "utf-8").2 made)
  · rcases encoded "utf-8" { body := spoilt } with ⟨error, _, replaced⟩ | ⟨free, _⟩
    · exact ⟨error, replaced⟩
    · exact absurd (.noCodec rfl (encoder_none_iff.1 missing)) (free _)

end Codecs

end StreamHttp
