import StreamHttp.Container
import StreamHttp.Proofs.Wire.ReadBack

/-!
The two ways a response leaves: written to a stream, or handed to a container. The writer checks
every field and drops what would frame the body otherwise. A container is handed no field about
framing at all, so what such a field holds is not checked there. Of all other fields a container
gets what a receiver of the written message reads.
-/

namespace StreamHttp

def valuesOf (fields : List (String × String)) (name : String) : List String :=
  (fields.filter fun field => Text.sameIgnoringCase field.1 name).map Prod.snd

def WireMessage.values (message : WireMessage) (name : String) : List String :=
  valuesOf message.fields name

/-- A field that tells how the body is framed. -/
def TellsFraming (field : String × String) : Prop :=
  Text.sameIgnoringCase field.1 "Content-Length" = true ∨
    Text.sameIgnoringCase field.1 "Transfer-Encoding" = true

instance (field : String × String) : Decidable (TellsFraming field) :=
  inferInstanceAs (Decidable (_ ∨ _))

namespace Container

def Outgoing.values (outgoing : Outgoing) (name : String) : List String :=
  outgoing.headers.getAll (Text.asciiLower name)

/-- The fields of a response that are handed to a container. -/
def handed (response : Response) : List (String × String) :=
  response.headers.pairs.filter fun pair =>
    pair.1 != "Content-Length" && pair.1 != "Transfer-Encoding"

/-- A field that can stand on a line of its own. -/
def Fit (pair : String × String) : Prop :=
  isFieldName (Bytes.ofString pair.1) = true ∧ isFieldValue (Bytes.ofString pair.2) = true

def lowered (pair : String × String) : String × String := (Text.asciiLower pair.1, pair.2)

theorem check_pair_fit {pair : String × String} (fit : Fit pair) :
    checkPair pair = .ok (lowered pair) := by
  simp only [checkPair, fit.1, fit.2, Bool.not_true, Bool.false_eq_true, if_false, lowered]

theorem check_pair_ok {pair taken : String × String} (passed : checkPair pair = .ok taken) :
    Fit pair := by
  unfold checkPair at passed
  split at passed
  next => cases passed
  next named =>
    split at passed
    next => cases passed
    next valued => exact ⟨by simpa using named, by simpa using valued⟩

theorem check_pairs_fit {pairs : List (String × String)} (fit : ∀ pair ∈ pairs, Fit pair) :
    pairs.mapM checkPair = .ok (pairs.map lowered) := by
  induction pairs with
  | nil => rfl
  | cons pair rest induction =>
      obtain ⟨first, others⟩ := List.forall_mem_cons.1 fit
      rw [List.mapM_cons, check_pair_fit first, induction others]
      rfl

theorem check_pairs_ok {pairs taken : List (String × String)}
    (passed : pairs.mapM checkPair = .ok taken) : ∀ pair ∈ pairs, Fit pair := by
  induction pairs generalizing taken with
  | nil => exact List.forall_mem_nil _
  | cons pair rest induction =>
      rw [List.mapM_cons] at passed
      cases first : checkPair pair with
      | error problem =>
          rw [first] at passed
          cases passed
      | ok _ =>
          cases others : rest.mapM checkPair with
          | error problem =>
              rw [first, others] at passed
              cases passed
          | ok _ => exact List.forall_mem_cons.2 ⟨check_pair_ok first, induction others⟩

def headersOf (response : Response) (length : Nat) : Multimap :=
  (Multimap.ofPairs ((handed response).map lowered)).set "content-length" (toString length)

section

variable {response : Response} {body : Bytes} (encoded : response.encodedBody? = some body)
include encoded

theorem outgoing_fit (fit : ∀ pair ∈ handed response, Fit pair) :
    outgoing response =
      .ok { status := response.status, headers := headersOf response body.length, body } := by
  have taken := check_pairs_fit fit
  rw [handed] at taken
  simp only [outgoing, encoded, taken]
  rfl

theorem outgoing_ok {given : Outgoing} (passed : outgoing response = .ok given) :
    (∀ pair ∈ handed response, Fit pair) ∧
      given = { status := response.status, headers := headersOf response body.length, body } := by
  have fit : ∀ pair ∈ handed response, Fit pair := by
    cases taken : (handed response).mapM checkPair with
    | error problem =>
        rw [handed] at taken
        simp only [outgoing, encoded, taken] at passed
        cases passed
    | ok _ => exact check_pairs_ok taken
  exact ⟨fit, (Except.ok.inj ((outgoing_fit encoded fit).symm.trans passed)).symm⟩

end

theorem handed_fields (response : Response) :
    handed response = response.headers.pairs.filter fun field => ¬TellsFraming field := by
  refine List.filter_congr fun field listed => ?_
  have canonical := response.headers.canonical field.1 (Headers.mem_names_of_pairs listed)
  rw [Bool.eq_iff_iff, decide_eq_true_iff, TellsFraming,
    canonical_same_iff canonical (by rfl),
    canonical_same_iff canonical (by rfl), Bool.and_eq_true, bne_iff_ne, bne_iff_ne,
    not_or]

end Container

theorem status_reason_fit (status : Status) :
    isFieldValue (Bytes.ofString (status.reason?.getD "Unknown")) = true := by
  have known : ∀ entry ∈ Status.reasons, isFieldValue (Bytes.ofString entry.2) = true := by
    decide +kernel
  cases found : status.reason? with
  | none => rfl
  | some reason =>
      obtain ⟨entry, listed, rfl⟩ := Option.map_eq_some_iff.1 found
      exact known entry (List.mem_of_find?_eq_some listed)

namespace Response

variable {response : Response} {body : Bytes}

theorem wire_fit_iff (encoded : response.encodedBody? = some body)
    (plain : response.ownReason = none) (omitBody : Bool) :
    (∃ bytes, response.wire omitBody = .ok bytes) ↔
      ∀ pair ∈ response.headers.pairs, Container.Fit pair := by
  have reason : isFieldValue (Bytes.ofString response.reason) = true := by
    rw [Response.reason, plain]
    exact status_reason_fit response.status
  constructor
  · rintro ⟨bytes, wired⟩
    rcases wire_encoded encoded omitBody with checked | ⟨fault, _, refused⟩
    · exact (check_head_iff.1 checked).2
    · cases wired.symm.trans refused
  · intro fit
    exact ⟨_, wire_checked encoded (check_head_iff.2 ⟨reason, fit⟩) omitBody⟩

/-- Fields about framing have names that are fit. -/
theorem fit_iff (response : Response) :
    (∀ pair ∈ response.headers.pairs, Container.Fit pair) ↔
      (∀ pair ∈ Container.handed response, Container.Fit pair) ∧
        ∀ pair ∈ response.headers.pairs, TellsFraming pair →
          isFieldValue (Bytes.ofString pair.2) = true := by
  rw [Container.handed_fields]
  constructor
  · intro fit
    exact ⟨fun pair member => fit pair (List.mem_filter.1 member).1,
      fun pair listed _ => (fit pair listed).2⟩
  · rintro ⟨others, framing⟩ pair listed
    by_cases tells : TellsFraming pair
    · have canonical := response.headers.canonical pair.1 (Headers.mem_names_of_pairs listed)
      have named : isFieldName (Bytes.ofString pair.1) = true := by
        rcases tells with length | encoding
        · rw [(canonical_same_iff canonical (by decide)).1 length]
          rfl
        · rw [(canonical_same_iff canonical (by decide)).1 encoding]
          rfl
      exact ⟨named, framing pair listed tells⟩
    · exact others pair (List.mem_filter.2 ⟨listed, by simpa using tells⟩)

end Response

section

variable {name : String}

theorem values_of_filter {keeps : String × String → Prop} [DecidablePred keeps]
    (kept : ∀ field, Text.sameIgnoringCase field.1 name = true → keeps field)
    (fields : List (String × String)) :
    valuesOf (fields.filter fun field => keeps field) name = valuesOf fields name := by
  rw [valuesOf, valuesOf, List.filter_filter]
  refine congrArg (List.map Prod.snd) (List.filter_congr fun field _ => ?_)
  cases same : Text.sameIgnoringCase field.1 name with
  | false => rfl
  | true => simpa using kept field same

theorem values_of_other {fields : List (String × String)}
    (other : ∀ field ∈ fields, Text.sameIgnoringCase field.1 name = false) :
    valuesOf fields name = [] := by
  rw [valuesOf, List.filter_eq_nil_iff.2 fun field listed => by simpa using other field listed]
  rfl

theorem tells_same {field : String × String}
    (same : Text.sameIgnoringCase field.1 name = true)
    (length : Text.sameIgnoringCase name "Content-Length" = false)
    (encoding : Text.sameIgnoringCase name "Transfer-Encoding" = false) : ¬TellsFraming field := by
  simp only [Text.sameIgnoringCase, beq_iff_eq, beq_eq_false_iff_ne] at same length encoding
  simp only [TellsFraming, Text.sameIgnoringCase, beq_iff_eq, same, not_or]
  exact ⟨length, encoding⟩

theorem Container.get_all_headers (response : Response) (length : Nat) (name : String) :
    (Container.headersOf response length).getAll (Text.asciiLower name) =
      if Text.sameIgnoringCase name "Content-Length" = true then [toString length]
      else valuesOf (Container.handed response) name := by
  have declared : Text.asciiLower "Content-Length" = "content-length" := by decide
  simp only [Container.headersOf, Text.sameIgnoringCase, beq_iff_eq, declared]
  split
  next same => rw [same, Multimap.get_all_set_same]
  next other =>
    rw [Multimap.get_all_set_other (Ne.symm other), Multimap.get_all_of_pairs, List.filter_map,
      List.map_map]
    rfl

theorem Response.written_values (response : Response) (length : Nat) (name : String) :
    valuesOf (response.writtenFields length) name =
      valuesOf (response.headers.pairs.filter fun field => ¬FramesBody field) name ++
        if Text.sameIgnoringCase name "Content-Length" = true then [toString length] else [] := by
  have symmetric : Text.sameIgnoringCase "Content-Length" name =
      Text.sameIgnoringCase name "Content-Length" := by
    rw [Text.sameIgnoringCase, Text.sameIgnoringCase, Bool.eq_iff_iff, beq_iff_eq, beq_iff_eq,
      eq_comm]
  rw [Response.writtenFields, valuesOf, List.filter_append, List.map_append]
  refine congrArg _ ?_
  cases same : Text.sameIgnoringCase name "Content-Length" with
  | true => rw [List.filter_cons_of_pos (by rw [symmetric, same])]; rfl
  | false => rw [List.filter_cons_of_neg (by rw [symmetric, same]; decide)]; rfl

/-- But for its encoding in transfer, a message that is written holds what a container holds. -/
theorem written_values_handed (response : Response) (length : Nat)
    (encoding : Text.sameIgnoringCase name "Transfer-Encoding" = false) :
    valuesOf (response.writtenFields length) name =
      (Container.headersOf response length).getAll (Text.asciiLower name) := by
  rw [Response.written_values, Container.get_all_headers]
  cases declares : Text.sameIgnoringCase name "Content-Length" with
  | true =>
      have dropped : ∀ field ∈ response.headers.pairs.filter fun field => ¬FramesBody field,
          Text.sameIgnoringCase field.1 name = false := by
        intro field member
        by_contra same
        have kept := of_decide_eq_true (List.mem_filter.1 member).2
        simp only [Text.sameIgnoringCase, Bool.not_eq_false, beq_iff_eq] at same declares
        exact kept (.inl (by rw [Text.sameIgnoringCase, same, declares, beq_self_eq_true]))
      rw [values_of_other dropped, if_pos rfl, if_pos rfl, List.nil_append]
  | false =>
      have free : ∀ field : String × String,
          Text.sameIgnoringCase field.1 name = true → ¬TellsFraming field :=
        fun field same => tells_same same declares encoding
      have unframed : ∀ field : String × String,
          Text.sameIgnoringCase field.1 name = true → ¬FramesBody field :=
        fun field same frames => free field same (frames.imp_right And.left)
      rw [values_of_filter unframed, Container.handed_fields, values_of_filter free,
        if_neg Bool.false_ne_true, if_neg Bool.false_ne_true, List.append_nil]

/-- Of the encodings in transfer the writer keeps those that are not chunked; a container gets
none. -/
theorem written_encodings (response : Response) (length : Nat) :
    valuesOf (response.writtenFields length) "Transfer-Encoding" =
        valuesOf (response.headers.pairs.filter fun field => ¬Mentions "chunked" field.2)
          "Transfer-Encoding" ∧
      (Container.headersOf response length).getAll (Text.asciiLower "Transfer-Encoding") = [] := by
  have different : Text.sameIgnoringCase "Transfer-Encoding" "Content-Length" = false := by
    decide
  rw [Response.written_values, Container.get_all_headers, different, if_neg Bool.false_ne_true,
    if_neg Bool.false_ne_true, List.append_nil]
  constructor
  · simp only [valuesOf, List.filter_filter]
    refine congrArg (List.map Prod.snd) (List.filter_congr fun field _ => ?_)
    cases encodes : Text.sameIgnoringCase field.1 "Transfer-Encoding" with
    | false => rfl
    | true =>
        have length : Text.sameIgnoringCase field.1 "Content-Length" = false := by
          rw [Text.sameIgnoringCase, eq_of_beq encodes]
          exact different
        simp [FramesBody, length, encodes]
  · refine values_of_other fun field member => ?_
    rw [Container.handed_fields] at member
    by_contra encodes
    exact of_decide_eq_true (List.mem_filter.1 member).2 (.inr (by simpa using encodes))

end

namespace Sink

theorem write_counted_iff {sink : Sink} (unbounded : sink.room = none) {response : Response}
    {omitBody : Bool} {after : Sink} :
    (∃ count, sink.writeCounted response omitBody = (.ok count, after)) ↔
      ∃ bytes, response.wire omitBody = .ok bytes ∧
        after = { sink with writes := bytes :: sink.writes } := by
  unfold writeCounted
  constructor
  · rintro ⟨count, written⟩
    cases wired : response.wire omitBody with
    | error fault =>
        rw [writeResponse, wired] at written
        cases written
    | ok bytes =>
        rw [write_response_unbounded unbounded wired] at written
        exact ⟨bytes, rfl, (congrArg Prod.snd written).symm⟩
  · rintro ⟨bytes, wired, rfl⟩
    rw [write_response_unbounded unbounded wired]
    exact ⟨_, rfl⟩

/-- A response with the reason of its status is written when it can be handed to a container and its
fields about framing stand on their lines too. Then the message that is read and the one that is
handed over have one status, one body, and the same values for every name, but for the encodings
in transfer, of which a container gets none. -/
theorem write_counted_handed {sink : Sink} (unbounded : sink.room = none) {response : Response}
    {body : Bytes} (encoded : response.encodedBody? = some body)
    (plain : response.ownReason = none) (omitBody : Bool) :
    ((∃ count after, sink.writeCounted response omitBody = (.ok count, after)) ↔
      (∃ given, Container.outgoing response = .ok given) ∧
        ∀ field ∈ response.headers.pairs, TellsFraming field →
          isFieldValue (Bytes.ofString field.2) = true) ∧
    ∀ count after given, sink.writeCounted response omitBody = (.ok count, after) →
      Container.outgoing response = .ok given →
      ∃ bytes message, after.written = sink.written ++ bytes ∧
        (∀ rest, WireMessage.read? omitBody (bytes ++ rest) = some (message, rest)) ∧
        message.status = given.status.code ∧
        given.body = body ∧ message.body = (if omitBody then [] else body) ∧
        message.values "Content-Length" = [toString body.length] ∧
        (∀ name, Text.sameIgnoringCase name "Transfer-Encoding" = false →
          message.values name = given.values name) ∧
        message.values "Transfer-Encoding" =
          valuesOf (response.headers.pairs.filter fun field => ¬Mentions "chunked" field.2)
            "Transfer-Encoding" ∧
        given.values "Transfer-Encoding" = [] := by
  constructor
  · have handedOver : (∃ given, Container.outgoing response = .ok given) ↔
        ∀ field ∈ Container.handed response, Container.Fit field :=
      ⟨fun passed => (Container.outgoing_ok encoded passed.choose_spec).1,
        fun fit => ⟨_, Container.outgoing_fit encoded fit⟩⟩
    rw [handedOver, ← Response.fit_iff, ← Response.wire_fit_iff encoded plain omitBody, exists_comm]
    simp only [write_counted_iff unbounded]
    exact ⟨fun ⟨_, bytes, wired, _⟩ => ⟨bytes, wired⟩, fun ⟨bytes, wired⟩ => ⟨_, bytes, wired, rfl⟩⟩
  · intro count after given written passed
    obtain ⟨bytes, wired, rfl⟩ := (write_counted_iff unbounded).1 ⟨count, written⟩
    obtain ⟨_, rfl⟩ := Container.outgoing_ok encoded passed
    have length : Text.sameIgnoringCase "Content-Length" "Transfer-Encoding" = false := by
      decide +kernel
    obtain ⟨encodings, none⟩ := written_encodings response body.length
    refine ⟨bytes, response.message omitBody body, written_behind sink bytes,
      Response.read_wire encoded wired, rfl, rfl, rfl, ?_, ?_, encodings, none⟩
    · exact (written_values_handed response body.length length).trans
        ((Container.get_all_headers response body.length _).trans (if_pos (beq_self_eq_true _)))
    · exact fun name other => written_values_handed response body.length other

theorem write_counted_handed_note :
    let headers := (Headers.empty.add "X-Note" "one").add "x-note" "two"
    let response : Response := { status := .created, headers, body := .bytes [104, 105] }
    ∃ bytes message given, Container.outgoing response = .ok given ∧
      WireMessage.read? false bytes = some (message, []) ∧
      message.values "x-NOTE" = ["one", "two"] ∧ given.values "x-NOTE" = ["one", "two"] := by
  intro headers response
  have encoded : response.encodedBody? = some [104, 105] := rfl
  have unbounded : ({} : Sink).room = none := rfl
  have agree := write_counted_handed unbounded encoded rfl false
  have fit : ∀ field ∈ Container.handed response, Container.Fit field := by
    unfold Container.Fit
    decide +kernel
  have passed := Container.outgoing_fit encoded fit
  obtain ⟨count, after, written⟩ := agree.1.2 ⟨⟨_, passed⟩, by decide +kernel⟩
  obtain ⟨bytes, message, _, read, _, _, _, _, same, _⟩ := agree.2 count after _ written passed
  have held : (Container.headersOf response 2).getAll (Text.asciiLower "x-NOTE") =
      ["one", "two"] := by
    decide +kernel
  refine ⟨bytes, message, _, passed, ?_, (same "x-NOTE" (by decide +kernel)).trans held, held⟩
  have whole := read []
  rwa [List.append_nil] at whole

/-- An encoding in transfer that is not chunked is written and not handed over; a length that breaks
its line is not looked at where it is not handed over. -/
theorem exits_differ :
    let encoding : Response :=
      { headers := Headers.empty.add "Transfer-Encoding" "gzip", body := .bytes [104, 105] }
    let length : Response :=
      { headers := Headers.empty.add "Content-Length" "2\n3", body := .bytes [104, 105] }
    (∃ count after message given, Sink.writeCounted {} encoding false = (.ok count, after) ∧
      WireMessage.read? false after.written = some (message, []) ∧
      Container.outgoing encoding = .ok given ∧
      message.values "Transfer-Encoding" = ["gzip"] ∧ given.values "Transfer-Encoding" = []) ∧
    (∃ given, Container.outgoing length = .ok given) ∧
      ¬∃ count after, Sink.writeCounted {} length false = (.ok count, after) := by
  intro encoding length
  have unbounded : ({} : Sink).room = none := rfl
  refine ⟨?_, ?_, ?_⟩
  · have encoded : encoding.encodedBody? = some [104, 105] := rfl
    have fit : ∀ field ∈ encoding.headers.pairs, Container.Fit field := by
      unfold Container.Fit
      decide +kernel
    obtain ⟨bytes, wired⟩ := (Response.wire_fit_iff encoded rfl false).2 fit
    obtain ⟨count, written⟩ := (write_counted_iff unbounded).2 ⟨bytes, wired, rfl⟩
    obtain ⟨kept, none⟩ := written_encodings encoding 2
    have gzip : valuesOf (encoding.headers.pairs.filter fun field => ¬Mentions "chunked" field.2)
        "Transfer-Encoding" = ["gzip"] := by
      decide +kernel
    have passed := Container.outgoing_fit encoded ((Response.fit_iff encoding).1 fit).1
    refine ⟨count, _, encoding.message false [104, 105], _, written, ?_, passed, kept.trans gzip,
      none⟩
    have read := Response.read_wire encoded wired []
    rw [List.append_nil] at read
    rw [written_behind]
    exact read
  · have encoded : length.encodedBody? = some [104, 105] := rfl
    have fit : ∀ field ∈ Container.handed length, Container.Fit field := by
      unfold Container.Fit
      decide +kernel
    exact ⟨_, Container.outgoing_fit encoded fit⟩
  · rintro ⟨count, after, written⟩
    have encoded : length.encodedBody? = some [104, 105] := rfl
    obtain ⟨bytes, wired, _⟩ := (write_counted_iff unbounded).1 ⟨count, written⟩
    have unfit : ¬∀ field ∈ length.headers.pairs, Container.Fit field := by
      unfold Container.Fit
      decide +kernel
    exact unfit ((Response.wire_fit_iff encoded rfl false).1 ⟨bytes, wired⟩)

end Sink

end StreamHttp
