import StreamHttp.Exchange.Identifier
import StreamHttp.Proofs.Exchange.Redispatch
import StreamHttp.Proofs.Serve.Pipelining
import StreamHttp.Proofs.Wire.ReadBack

/-!
Answers under the identifier of their request. An engine adds the identifier to a response that has
none of its own, and a head is refused for any of its values; so whether the answer of an application
goes out is told by what a client may put in an identifier as well.
-/

namespace StreamHttp

namespace Identifier

theorem digits_hexadecimal {count number : Nat} {char : Char} (member : char ∈ digits count number) :
    ∃ digit < 16, char = Nat.digitChar digit := by
  induction count generalizing number with
  | zero => exact absurd member List.not_mem_nil
  | succ count induction =>
      rcases List.mem_append.1 member with front | last
      · exact induction front
      · exact ⟨number % 16, Nat.mod_lt _ (by decide), List.mem_singleton.1 last⟩

theorem digit_bytes : ∀ digit < 16,
    (String.utf8EncodeChar (Nat.digitChar digit)).all isFieldByte = true := by
  decide

theorem part_value (number start size : Nat) :
    (Bytes.ofString (String.ofList (((digits 30 number).drop start).take size))).all isFieldByte =
      true := by
  rw [Bytes.ofString, String.toList_ofList, List.all_eq_true]
  intro byte member
  obtain ⟨char, listed, written⟩ := List.mem_flatMap.1 member
  obtain ⟨digit, small, rfl⟩ :=
    digits_hexadecimal (List.mem_of_mem_drop (List.mem_of_mem_take listed))
  exact List.all_eq_true.1 (digit_bytes digit small) byte written

theorem variant_value (number : Nat) :
    (Bytes.ofString (String.ofList [variantDigit number])).all isFieldByte = true := by
  rw [Bytes.ofString, String.toList_ofList, Bytes.ofChars, List.flatMap_singleton]
  exact digit_bytes (8 + number % 4) (by omega)

/-- A fresh identifier is made of hexadecimal digits and hyphens. -/
theorem of_number_value (number : Nat) :
    isFieldValue (Bytes.ofString (ofNumber number)) = true := by
  have hyphen : (Bytes.ofString "-").all isFieldByte = true := by decide
  have version : (Bytes.ofString "4").all isFieldByte = true := by decide
  simp only [isFieldValue, ofNumber, String.intercalate_cons_cons, String.intercalate_singleton,
    Bytes.of_string_append, List.all_append, part_value, variant_value, hyphen, version, Bool.and_self]

theorem given_or_fresh_iff (given : Option String) (number : Nat) :
    isFieldValue (Bytes.ofString (given.getD (ofNumber number))) = true ↔
      ∀ id, given = some id → isFieldValue (Bytes.ofString id) = true := by
  cases given with
  | none =>
      constructor
      · exact fun _ _ impossible => nomatch impossible
      · exact fun _ => of_number_value number
  | some text =>
      constructor
      · rintro value id ⟨⟩
        exact value
      · exact fun all => all text rfl

end Identifier

namespace Multimap

theorem alter_absent {name fresh : String} {change : List String → List String}
    {entries : List (String × List String)} (absent : entries.find? (·.1 == name) = none) :
    alter name change fresh entries = entries ++ [(name, [fresh])] := by
  induction entries with
  | nil => rfl
  | cons entry rest induction =>
      rw [List.find?_cons] at absent
      split at absent
      · cases absent
      next different =>
        rw [alter, different, if_neg Bool.false_ne_true, induction absent, List.cons_append]

theorem pairs_set_absent {map : Multimap} {name : String} (absent : map.contains name = false)
    (value : String) : (map.set name value).pairs = map.pairs ++ [(name, value)] := by
  have unlisted : map.entries.find? (·.1 == name) = none := by
    simpa [contains, values?] using absent
  simp only [pairs, set, alter_absent unlisted, List.flatMap_append, List.flatMap_cons,
    List.flatMap_nil, List.map_cons, List.map_nil, List.append_nil]

end Multimap

namespace Response

def identified (id : String) (response : Response) : Response :=
  if response.headers.contains "X-Request-Id" then response
  else response.setHeader "X-Request-Id" id

def identifier (id : String) (response : Response) : List (String × String) :=
  if response.headers.contains "X-Request-Id" then [] else [("X-Request-Id", id)]

/-- The message that carries a response under an identifier: its status and reason, its headers but
for the framing of the body, and its body. -/
def carried (id : String) (response : Response) (omitBody : Bool) (body : Bytes) : WireMessage where
  status := response.status.code
  reason := response.reason
  fields := (response.headers.pairs.filter fun field => ¬FramesBody field) ++
    response.identifier id ++ [("Content-Length", toString body.length)]
  length := body.length
  body := if omitBody then [] else body

theorem identified_parts (id : String) (response : Response) :
    (response.identified id).status = response.status ∧
      (response.identified id).reason = response.reason ∧
      (response.identified id).encodedBody? = response.encodedBody? ∧
      (response.identified id).headers.pairs = response.headers.pairs ++ response.identifier id := by
  have canonical : canonicalName "X-Request-Id" = "X-Request-Id" := by decide
  cases own : response.headers.contains "X-Request-Id" with
  | true =>
      rw [identified, identifier, own, if_pos rfl, if_pos rfl, List.append_nil]
      exact ⟨rfl, rfl, rfl, rfl⟩
  | false =>
      rw [identified, identifier, own, if_neg Bool.false_ne_true, if_neg Bool.false_ne_true]
      refine ⟨rfl, rfl, rfl, ?_⟩
      rw [Headers.contains, canonical] at own
      have set := Multimap.pairs_set_absent own id
      simp only [setHeader, Headers.set, Headers.pairs, canonical]
      exact set

theorem identified_message (id : String) (response : Response) (omitBody : Bool) (body : Bytes) :
    (response.identified id).message omitBody body = response.carried id omitBody body := by
  obtain ⟨status, reason, _, pairs⟩ := identified_parts id response
  have kept : (response.identifier id).filter (fun field => ¬FramesBody field) =
      response.identifier id := by
    unfold identifier
    split
    · rfl
    · have length : Text.sameIgnoringCase "X-Request-Id" "Content-Length" = false := by
        decide
      have transfer : Text.sameIgnoringCase "X-Request-Id" "Transfer-Encoding" = false := by
        decide
      refine List.filter_cons_of_pos ?_
      simp [FramesBody, length, transfer]
  rw [message, carried, writtenFields, status, reason, pairs, List.filter_append, kept]

/-- Under an identifier a response goes out where it would without, unless the identifier is no
value of a header. -/
theorem identified_checked_iff {id : String} {response : Response} :
    (response.identified id).checkHead = .ok () ↔
      response.checkHead = .ok () ∧
        (response.headers.contains "X-Request-Id" = true ∨
          isFieldValue (Bytes.ofString id) = true) := by
  obtain ⟨_, reason, _, pairs⟩ := identified_parts id response
  have named : isFieldName (Bytes.ofString "X-Request-Id") = true := by decide
  rw [check_head_iff, check_head_iff, reason, pairs, List.forall_mem_append, and_assoc]
  refine and_congr_right fun _ => and_congr_right fun _ => ?_
  unfold identifier
  split
  next own => simp [own]
  next absent => simp [absent, named]

end Response

namespace Loop

variable {σ : Type}

/-- What a receiver reads where the head of an answer was refused. -/
def substitute (bodiless : Bool) : WireMessage where
  status := 500
  reason := "Internal Server Error"
  fields := [("Content-Type", "text/plain"), ("Content-Length", "42")]
  length := 42
  body := if bodiless then [] else Bytes.ofString "response head contained invalid characters"

theorem unwritable_message (bodiless : Bool) :
    unwritable.message bodiless (Bytes.ofString "response head contained invalid characters") =
      substitute bodiless := by
  have length : (Bytes.ofString "response head contained invalid characters").length = 42 := by
    decide
  have fields : unwritable.writtenFields 42 =
      [("Content-Type", "text/plain"), ("Content-Length", "42")] := by
    rfl
  have reason : unwritable.reason = "Internal Server Error" := by decide
  rw [Response.message, length, fields, reason]
  rfl

/-- An exchange writes one message: the one that carries the answer of the application under the
identifier, if its head and the identifier pass, and else the substitute. -/
theorem exchange_carried (engine : Engine σ) (freshId : String) (decoded : Decoder.Decoded)
    (loop : Loop σ) :
    let begun := loop.begun decoded
    let answered := engine.encode (engine.dispatch (begun.identified freshId)).1
    let id := begun.request.clientId?.getD freshId
    let bodiless := decoded.head.method == "HEAD"
    let passes := answered.checkHead = .ok () ∧
      (answered.headers.contains "X-Request-Id" = true ∨ isFieldValue (Bytes.ofString id) = true)
    ∃ body bytes message, answered.encodedBody? = some body ∧
      sinkOf (exchange engine freshId decoded loop) =
        (loop.sink.write bytes).toOption.getD loop.sink ∧
      (∀ rest, WireMessage.read? bodiless (bytes ++ rest) = some (message, rest)) ∧
      (passes → message = answered.carried id bodiless body) ∧
      (¬passes → message = substitute bodiless) := by
  intro begun answered id bodiless passes
  have service : (engine.service freshId begun).1 = answered.identified id :=
    congrArg Prod.fst (engine.service_eq freshId begun)
  obtain ⟨body, encoded⟩ : ∃ body, answered.encodedBody? = some body :=
    Response.encoded_body engine.codecs engine.settings.defaultCharset _
  have encodedToo : (answered.identified id).encodedBody? = some body :=
    (answered.identified_parts id).2.2.1.trans encoded
  obtain ⟨bytes, wired, written⟩ := write_encoded loop.sink encodedToo bodiless
  have sink : sinkOf (exchange engine freshId decoded loop) =
      (loop.sink.write bytes).toOption.getD loop.sink := by
    rw [exchange_sink engine freshId decoded loop, ← written, ← service]
  by_cases passed : passes
  · have checked : (answered.identified id).checkHead = .ok () :=
      Response.identified_checked_iff.2 passed
    rw [writable, checked] at wired
    have read := Response.read_wire encodedToo wired
    rw [Response.identified_message] at read
    exact ⟨body, bytes, _, encoded, sink, read, fun _ => rfl, fun refused => absurd passed refused⟩
  · have refused : writable (answered.identified id) = unwritable := by
      unfold writable
      split
      next checked => exact absurd (Response.identified_checked_iff.1 checked) passed
      next => rfl
    rw [refused] at wired
    have explained : unwritable.encodedBody? =
        some (Bytes.ofString "response head contained invalid characters") := rfl
    have read := Response.read_wire explained wired
    rw [unwritable_message] at read
    exact ⟨body, bytes, _, encoded, sink, read, fun passes => absurd passes passed, fun _ => rfl⟩

theorem substitute_unidentified {answered : Response} {id : String} {bodiless : Bool} {body : Bytes}
    (unidentified : answered.headers.contains "X-Request-Id" = false) :
    substitute bodiless ≠ answered.carried id bodiless body := by
  intro same
  have fields := congrArg WireMessage.fields same
  have told : ("X-Request-Id", id) ∈ (answered.carried id bodiless body).fields := by
    simp [Response.carried, Response.identifier, unidentified]
  rw [← fields] at told
  simp [substitute] at told

/-- An answer of the application whose head passes goes out as it is, under the identifier of the
request, exactly when it has an identifier of its own or the client gave none that is not the value of
a header. Else, and where the head does not pass, the substitute goes out. -/
theorem good_answer_carried_iff (engine : Engine σ) (settings : ServeSettings)
    (numbers : Nat → Nat) {loop : Loop σ} {decoded : Decoder.Decoded} {session : Session}
    (received : loop.receive settings = .request decoded session) :
    let begun := ({ loop with session } : Loop σ).begun decoded
    let ids := fun index => Identifier.ofNumber (numbers index)
    let fresh := ids loop.summary.exchanges
    let answered := engine.encode (engine.dispatch (begun.identified fresh)).1
    let bodiless := decoded.head.method == "HEAD"
    let harmless := ∀ id, begun.request.clientId? = some id →
      isFieldValue (Bytes.ofString id) = true
    ∃ body bytes message, answered.encodedBody? = some body ∧
      sinkOf (loop.step engine settings ids) =
        (loop.sink.write bytes).toOption.getD loop.sink ∧
      (∀ rest, WireMessage.read? bodiless (bytes ++ rest) = some (message, rest)) ∧
      (answered.checkHead = .ok () →
        (message = answered.carried (begun.request.clientId?.getD fresh) bodiless body ↔
          answered.headers.contains "X-Request-Id" = true ∨ harmless)) ∧
      (¬(answered.checkHead = .ok () ∧
          (answered.headers.contains "X-Request-Id" = true ∨ harmless)) →
        message = substitute bodiless) := by
  intro begun ids fresh answered bodiless harmless
  obtain ⟨body, bytes, message, encoded, sink, read, good, bad⟩ :=
    exchange_carried engine fresh decoded { loop with session }
  have known_iff := Identifier.given_or_fresh_iff begun.request.clientId?
    (numbers loop.summary.exchanges)
  have stepped : loop.step engine settings ids =
      exchange engine fresh decoded { loop with session } := by
    rw [step, received]
  rw [known_iff] at good bad
  rw [stepped]
  refine ⟨body, bytes, message, encoded, sink, read, fun checked => ⟨fun carried => ?_, fun known =>
    good ⟨checked, known⟩⟩, bad⟩
  by_cases own : answered.headers.contains "X-Request-Id" = true
  · exact .inl own
  · by_cases known : harmless
    · exact .inr known
    · have replaced := bad fun passes => passes.2.elim own known
      exact absurd (replaced.symm.trans carried)
        (substitute_unidentified (Bool.eq_false_iff.2 own))

def identifiedRequest (id : String) : WireRequest :=
  { method := "GET", targetText := "/", target := { path := "/" },
    fields := [{ name := "X-Request-Id", before := [' '], value := id }] }

def identifiedHead (id : String) : Decoder.Decoded :=
  ⟨Head.make "GET" { path := "/" } (Headers.ofPairs [("X-Request-Id", id)]), 0⟩

theorem identified_wellformed {id : String} (feedless : '\n' ∉ id.toList)
    (trimmed : trimBlank id.toList = id.toList) : (identifiedRequest id).Wellformed where
  front := List.forall_mem_nil _
  method := (by decide : Method.parse? "GET" = some "GET")
  target := (by decide : Target.parse "/" = .ok { path := "/" })
  minor := by
    have digit : "1".toList = ['1'] := by decide
    rw [identifiedRequest, digit]
    exact List.forall_mem_singleton.2 rfl
  fields := by
    have named : HeadText.isLineName "X-Request-Id".toList = true := by decide
    have colonless : ':' ∉ "X-Request-Id".toList := by decide
    refine List.forall_mem_singleton.2 ⟨named, colonless, ?_, ?_, feedless, trimmed⟩
    · exact List.forall_mem_singleton.2 ⟨rfl, by decide⟩
    · exact List.forall_mem_nil _
  length := by
    have other : (canonicalName "X-Request-Id" == "Content-Length") = false := by decide
    exact .inl ⟨by simp [WireRequest.announced, WireRequest.pairs, identifiedRequest, other], rfl⟩
  bounded := Nat.zero_le _

def missing (body : Payload) : Response where
  status := .notFound
  headers := Headers.empty.add "Content-Type" "application/json"
  body := body

theorem bare_answer :
    ∃ body, ∀ (id fresh : String) (loop : Loop Unit),
      Engine.bare.encode
        (Engine.bare.dispatch ((loop.begun (identifiedHead id)).identified fresh)).1 =
          missing body :=
  ⟨(Engine.bare.encode (Response.ofMessage .notFound DispatchError.notFound.message)).body,
    fun _ _ _ => rfl⟩

theorem missing_checked (body : Payload) :
    (missing body).checkHead = .ok () ∧
      (missing body).headers.contains "X-Request-Id" = false := by
  have told : (Headers.empty.add "Content-Type" "application/json").pairs =
      [("Content-Type", "application/json")] := by decide
  refine ⟨Response.check_head_iff.2 ⟨?_, ?_⟩, ?_⟩
  · exact (by decide : isFieldValue (Bytes.ofString "Not Found") = true)
  · rw [missing, told, List.forall_mem_singleton]
    exact ⟨by decide, by decide⟩
  · exact (by decide :
      (Headers.empty.add "Content-Type" "application/json").contains "X-Request-Id" = false)

theorem identified_received (id : String) (feedless : '\n' ∉ id.toList)
    (trimmed : trimBlank id.toList = id.toList)
    (fits : (identifiedRequest id).headLength ≤ 8192) :
    ∃ session, (ofParts [(identifiedRequest id).bytes]).receive {} =
      .request (identifiedHead id) session := by
  have solid : ∀ char ∈ (identifiedRequest id).targetText.toList, isBlank char = false := by
    have slash : "/".toList = ['/'] := by decide
    rw [identifiedRequest, slash]
    exact List.forall_mem_singleton.2 rfl
  have heard := (identified_wellformed feedless trimmed).heard solid fits []
  rw [List.append_nil, ← List.flatten_singleton (l := (identifiedRequest id).bytes),
    ← store_of_parts] at heard
  have listened :=
    @receive_request Unit {} (ofParts [(identifiedRequest id).bytes]) rfl _ _ heard
  exact listened.imp fun _ received => received.1

/-- An identifier with a tab in it. -/
theorem good_answer_carried_tab :
    let start := ofParts [(identifiedRequest "a\tb").bytes]
    ∃ session, start.receive {} = .request (identifiedHead "a\tb") session ∧
      ∃ payload body bytes message,
        sinkOf (start.step Engine.bare {} fun index => Identifier.ofNumber index) =
          { writes := [bytes] } ∧
        (∀ rest, WireMessage.read? false (bytes ++ rest) = some (message, rest)) ∧
        message = (missing payload).carried "a\tb" false body := by
  intro start
  obtain ⟨session, received⟩ := identified_received "a\tb" (by decide) (by decide) (by decide)
  obtain ⟨payload, answers⟩ := bare_answer
  have value : isFieldValue (Bytes.ofString "a\tb") = true := by decide
  obtain ⟨body, bytes, message, _, sink, read, good, _⟩ :=
    good_answer_carried_iff Engine.bare {} (fun index => index) received
  rw [answers] at good
  refine ⟨session, received, payload, body, bytes, message, sink, read, ?_⟩
  refine (good (missing_checked payload).1).2 (.inr fun id given => ?_)
  cases given
  exact value

/-- A client that puts a control character into its identifier gets the substitute, although the
answer of the application is one that can be written. -/
theorem control_identifier_replaced :
    let start := ofParts [(identifiedRequest "a\x01b").bytes]
    ∃ session, start.receive {} = .request (identifiedHead "a\x01b") session ∧
      let begun := ({ start with session } : Loop Unit).begun (identifiedHead "a\x01b")
      let answered := Engine.bare.encode
        (Engine.bare.dispatch (begun.identified (Identifier.ofNumber 0))).1
      answered.checkHead = .ok () ∧ answered.status = .notFound ∧
      ∃ bytes, sinkOf (start.step Engine.bare {} fun index => Identifier.ofNumber index) =
          { writes := [bytes] } ∧
        WireMessage.read? false bytes = some (substitute false, []) := by
  intro start
  obtain ⟨session, received⟩ := identified_received "a\x01b" (by decide) (by decide) (by decide)
  obtain ⟨payload, answers⟩ := bare_answer
  have control : isFieldValue (Bytes.ofString "a\x01b") = false := by decide
  obtain ⟨_, bytes, message, _, sink, read, _, bad⟩ :=
    exchange_carried Engine.bare (Identifier.ofNumber 0) (identifiedHead "a\x01b")
      { start with session }
  simp only [answers] at bad ⊢
  refine ⟨session, received, (missing_checked payload).1, rfl, bytes, ?_, ?_⟩
  · rw [step, received]
    exact sink
  · have whole := read []
    rw [List.append_nil, bad ?_] at whole
    · exact whole
    · rintro ⟨_, own | value⟩
      · cases own.symm.trans (missing_checked payload).2
      · cases value.symm.trans control

end Loop

end StreamHttp
