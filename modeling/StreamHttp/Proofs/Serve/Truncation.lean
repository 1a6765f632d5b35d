import StreamHttp.Proofs.Arguments.Steps
import StreamHttp.Proofs.Serve.Holdings
import StreamHttp.Proofs.Wire.HeadText

/-!
Bodies that are cut off. Whoever gets the bytes of a body gets the same of them: the announced
number of bytes behind the head, or all there are where the input ends before. Only a failure of the
input within the body is one of the body; nobody compares what came with what was announced.
-/

namespace StreamHttp

/-- The value is made of all bytes of a body, and these did not end in a failure. -/
def Delivery.Makes {β ε : Type} (full : Delivery) (make : Bytes → Except ε β) (value : β) : Prop :=
  ∃ bytes, full = ⟨bytes, none⟩ ∧ make bytes = .ok value

namespace Binding

variable {α β : Type}

/-- The sources of parameters that are made of all bytes of the body. -/
inductive FromBytes : ParamSource → Prop where
  | body : FromBytes .body
  | rawBody : FromBytes .rawBody
  | bodyField : FromBytes .bodyField

def ofBytes (codecs : Codecs) (head : Head) (param : Param) (bytes : Bytes) :
    Except BindingError (Option Argument) :=
  match param.source with
  | .body => (decodeBytes codecs head bytes).map (Option.map .json)
  | .bodyField =>
      (decodeBytes codecs head bytes).map fun value =>
        (value.bind (Json.member? param.name)).map Argument.ofField
  | _ => .ok (if bytes.isEmpty then none else some (.bytes bytes))

/-- What holds of a request while parameters are bound from it: its body is held along with whatever
else came of the one that had `full` in store, and what it was decoded to is made of all of that. -/
structure Faithful (codecs : Codecs) (head : Head) (full : Delivery) (asked : Request)
    (streams : Streams) : Prop where
  named : asked.head = head
  kept : ∃ expected bodies readers,
    Holdings.Kept full expected ⟨streams, asked.body :: bodies, readers⟩
  decoded : ∀ value, asked.parsedBody = some value →
    full.Makes (decodeBytes codecs head) (some value)

def Yields (codecs : Codecs) (head : Head) (full : Delivery) (binding : Binding α)
    (post : α → Prop) : Prop :=
  ∀ asked streams, Faithful codecs head full asked streams →
    Faithful codecs head full ((ExceptT.run binding).run asked streams).2.1
        ((ExceptT.run binding).run asked streams).2.2 ∧
      ∀ value, ((ExceptT.run binding).run asked streams).1 = .ok value → post value

section

variable {codecs : Codecs} {head : Head} {full : Delivery} {limit : Nat}

theorem yields_buffer :
    Yields codecs head full (buffer limit) fun bytes => full = ⟨bytes, none⟩ := by
  intro asked streams faithful
  obtain ⟨expected, bodies, readers, kept⟩ := faithful.kept
  have whole := (kept.whole asked.body List.mem_cons_self).2
  obtain ⟨used, all⟩ := Body.buffer_used kept.sound whole limit
  refine ⟨⟨faithful.named, ⟨expected, bodies, readers, kept.use_body used⟩, faithful.decoded⟩, ?_⟩
  intro bytes given
  rw [run_buffer] at given
  cases answer : (asked.body.buffer limit streams).1 with
  | error error =>
      rw [answer] at given
      cases given
  | ok buffered =>
      rw [answer] at given
      cases given
      exact all bytes answer

theorem run_raw_body (codecs : Codecs) (limit : Nat) (name : String) (type : ParamType)
    (required : Bool) (asked : Request) (streams : Streams) :
    ((lookup codecs limit ⟨name, .rawBody, type, required⟩).run ⟨asked, streams⟩).1 =
      ((asked.body.buffer limit streams).1.mapError BindingError.body).map fun bytes =>
        if bytes.isEmpty then none else some (.bytes bytes) := by
  change ((ExceptT.run (do
    let bytes ← buffer limit
    return if bytes.isEmpty then none else some (Argument.bytes bytes))).run asked streams).1 = _
  rw [run_next, run_buffer]
  cases (asked.body.buffer limit streams).1 with
  | error error => rfl
  | ok bytes => rfl

theorem yields_take : Yields codecs head full takeBody fun _ => True := by
  intro asked streams faithful
  obtain ⟨expected, bodies, readers, kept⟩ := faithful.kept
  have taken := (Holdings.Step.take streams asked.body bodies readers).kept kept
  refine ⟨⟨faithful.named, ⟨expected, asked.body.take.1.toOption.toList ++ bodies, readers, ?_⟩,
    faithful.decoded⟩, fun _ _ => trivial⟩
  refine taken.order ?_ (List.Perm.refl readers)
  rw [List.append_assoc]
  exact List.perm_middle

theorem yields_keep {value : Json} (made : full.Makes (decodeBytes codecs head) (some value)) :
    Yields codecs head full
      (alter fun request => { request with parsedBody := some value }) fun _ => True := by
  intro asked streams faithful
  refine ⟨⟨faithful.named, faithful.kept, ?_⟩, fun _ _ => trivial⟩
  rintro _ ⟨⟩
  exact made

theorem faithful_steps (limit : Nat) :
    BodySteps codecs limit head (Faithful codecs head full) (fun bytes => full = ⟨bytes, none⟩)
      (fun _ => True) (full.Makes (decodeBytes codecs head)) where
  named := Faithful.named
  parsed := fun faithful parsed => faithful.decoded _ parsed
  buffer := yields_buffer
  take := yields_take
  keep := yields_keep
  decodes := fun _ _ all made => ⟨_, all, made⟩

theorem made_of_looked_up {param : Param} {value : Option Argument}
    (looked : LookedUp head (fun bytes => full = ⟨bytes, none⟩) (fun _ => True)
      (full.Makes (decodeBytes codecs head)) param value) (source : FromBytes param.source) :
    full.Makes (ofBytes codecs head param) value := by
  unfold LookedUp at looked
  cases own : param.source <;> rw [own] at looked source
  case body =>
    obtain ⟨_, ⟨bytes, all, made⟩, rfl⟩ := looked
    exact ⟨bytes, all, by simp only [ofBytes, own, made, Except.map]⟩
  case bodyField =>
    obtain ⟨_, ⟨bytes, all, made⟩, rfl⟩ := looked
    exact ⟨bytes, all, by simp only [ofBytes, own, made, Except.map]⟩
  case rawBody =>
    obtain ⟨bytes, all, rfl⟩ := looked
    exact ⟨bytes, all, by simp only [ofBytes, own]⟩
  all_goals cases source

end

end Binding

/-- The bytes of a body of the announced length that a session provides: that many, or all there are
where it ends before. A failure within the body is not an end of it. -/
structure Session.Brings (session : Session) (length : Nat) (bytes : Bytes) : Prop where
  received : bytes = session.content.take length
  complete : bytes.length = length ↔ length ≤ session.content.length
  unfailing : session.content.length < length → session.delivery.failure = none

theorem Session.brings_within {session : Session} {length : Nat} {bytes : Bytes}
    (whole : session.delivery.within length = ⟨bytes, none⟩) : session.Brings length bytes := by
  obtain ⟨received, ended⟩ := Delivery.mk.inj whole
  have taken : bytes.length = min length session.content.length := by
    rw [← received]
    exact List.length_take
  exact ⟨received.symm, by omega, fun short => (if_pos short).symm.trans ended⟩

namespace Holdings.Kept

variable {session : Session} {length limit : Nat} {holdings : Holdings} {body : Body}
  (kept : Kept (session.delivery.within length) (some length) holdings)
  (held : body ∈ holdings.bodies)

include kept held

theorem buffer_brings {bytes : Bytes} (given : (body.buffer limit holdings.streams).1 = .ok bytes) :
    session.Brings length bytes :=
  Session.brings_within
    ((Body.buffer_used kept.sound (kept.whole body held).2 limit).2 bytes given)

/-- The end of the input is as good as the end of the body. -/
theorem buffer_received (unclaimed : body.isClaimed = false) (allowed : length ≤ limit)
    (word : limit < u64Max) (roomy : length ≤ Fault.mostRoom)
    (clean : length ≤ session.content.length ∨ session.delivery.failure = none) :
    (body.buffer limit holdings.streams).1 = .ok (session.content.take length) := by
  obtain ⟨expected, whole⟩ := kept.whole body held
  have full : session.delivery.within length = ⟨session.content.take length, none⟩ := by
    rw [Delivery.within]
    congr 1
    split
    next short => exact clean.resolve_left (Nat.not_le_of_lt short)
    next => rfl
  have store : body.store holdings.streams = ⟨session.content.take length, none⟩ := by
    rw [← full]
    refine whole.resolve_left fun claimed => ?_
    rw [Body.isClaimed, claimed] at unclaimed
    cases unclaimed
  have fits : (session.content.take length).length ≤ limit :=
    Nat.le_trans (List.length_take_le _ _) allowed
  have announced : body.expected.any (limit < ·) = false := by
    rw [expected]
    simpa using allowed
  have safe : body.fault? limit = none := by
    rw [Body.fault_none, expected]
    exact ⟨Nat.le_trans (Nat.min_le_left _ _) roomy, word⟩
  exact Body.buffer_store kept.sound store unclaimed safe fits announced

theorem lookup_brings {codecs : Codecs} {spec : RouteSpec} {arguments : Arguments}
    {asked : Request} {param : Param} {value : Option Argument} (own : asked.body = body)
    (undecoded : asked.parsedBody = none) (source : Binding.FromBytes param.source)
    (given : ((Binding.lookup codecs limit param).run
      ((Satisfier.requestBinder codecs limit spec arguments).run
        ⟨asked, holdings.streams⟩).2).1 = .ok value) :
    ∃ bytes, session.Brings length bytes ∧
      Binding.ofBytes codecs asked.head param bytes = .ok value := by
  obtain ⟨front, back, parted⟩ := List.append_of_mem held
  have first : Kept (session.delivery.within length) (some length)
      ⟨holdings.streams, asked.body :: (front ++ back), holdings.readers⟩ := by
    rw [own]
    refine kept.order ?_ (List.Perm.refl _)
    rw [parted]
    exact List.perm_middle
  have faithful : Binding.Faithful codecs asked.head (session.delivery.within length) asked
      holdings.streams :=
    ⟨rfl, ⟨_, _, _, first⟩, fun _ decoded => nomatch undecoded.symm.trans decoded⟩
  have bound := ((Binding.faithful_steps limit).binder spec.params arguments asked _ faithful).1
  generalize reached : (Satisfier.requestBinder codecs limit spec arguments).run
    ⟨asked, holdings.streams⟩ = answer at given
  have named : Binding.Faithful codecs asked.head (session.delivery.within length)
      answer.2.request answer.2.streams := by
    rw [← reached]
    exact ⟨rfl, bound.kept, bound.decoded⟩
  have looked := ((Binding.faithful_steps limit).lookup param _ _ named).2 value given
  obtain ⟨bytes, full, made⟩ := Binding.made_of_looked_up looked source
  exact ⟨bytes, Session.brings_within full, made⟩

end Holdings.Kept

namespace Decoder

theorem decode_made {size : Nat} {session after : Session} {decoded : Decoded}
    (read : decode size session = (.ok (some decoded), after)) :
    ∃ head, ofHead head = .ok decoded := by
  unfold decode at read
  split at read
  next => cases read
  next => cases read
  next head left _ =>
    refine ⟨head, ?_⟩
    cases made : ofHead head with
    | error error =>
        rw [made] at read
        cases read
    | ok other =>
        rw [made] at read
        cases read
        rfl

theorem window_announced {size : Nat} {session after : Session} {decoded : Decoded} {length : Nat}
    (read : decode size session = (.ok (some decoded), after))
    (announced : decoded.head.bodyLength = .ok (some length)) : decoded.window = length := by
  obtain ⟨head, made⟩ := decode_made read
  obtain ⟨measured, _, same, window⟩ := of_head_ok made
  rw [announced] at same
  cases same
  exact window

/-- Whatever was done to the body of a request: where buffering one of the bodies that came of it
gives bytes, and where a parameter is bound to what is made of bytes, they are the announced number
of bytes, or all that there are if the input ends before. Where nobody claimed the body, nothing
fails within it and buffering does not fault, it does give bytes. -/
theorem buffered_is_received {size length limit : Nat} {session after : Session}
    {decoded : Decoded} (read : decode size session = (.ok (some decoded), after))
    (announced : decoded.head.bodyLength = .ok (some length)) {holdings : Holdings}
    (reached : Holdings.Reaches (decoded.holdings after) holdings) {body : Body}
    (held : body ∈ holdings.bodies) :
    (∀ bytes, (body.buffer limit holdings.streams).1 = .ok bytes → after.Brings length bytes) ∧
    (body.isClaimed = false → length ≤ limit → limit < u64Max → length ≤ Fault.mostRoom →
      (length ≤ after.content.length ∨ after.delivery.failure = none) →
      (body.buffer limit holdings.streams).1 = .ok (after.content.take length)) ∧
    ∀ codecs spec arguments (asked : Request) (param : Param) value,
      asked.body = body → asked.parsedBody = none → Binding.FromBytes param.source →
      ((Binding.lookup codecs limit param).run
        ((Satisfier.requestBinder codecs limit spec arguments).run
          ⟨asked, holdings.streams⟩).2).1 = .ok value →
      ∃ bytes, after.Brings length bytes ∧
        Binding.ofBytes codecs asked.head param bytes = .ok value := by
  have kept := reached.kept (decoded.holdings_kept after)
  rw [window_announced read announced] at kept
  exact ⟨fun _ given => kept.buffer_brings held given,
    fun unclaimed allowed word roomy clean =>
      kept.buffer_received held unclaimed allowed word roomy clean,
    fun _ _ _ _ _ _ own undecoded source given =>
      kept.lookup_brings held own undecoded source given⟩

def brokenUpload : Session :=
  Session.ofSource
    (Source.ofParts [Bytes.ofString "POST / HTTP/1.1\r\nContent-Length: 5\r\n\r\nAB"] none)

def uploadRequest : Decoded :=
  ⟨Head.make "POST" { path := "/" } (Headers.ofPairs [("Content-Length", "5")]), 5⟩

theorem broken_upload_decoded :
    ∃ after, decode 8192 brokenUpload = (.ok (some uploadRequest), after) ∧
      after.delivery = ⟨Bytes.ofString "AB", none⟩ := by
  have decoded := decode_store 8192 brokenUpload
  have found : decodeStore 8192 brokenUpload.delivery =
      (.ok (some uploadRequest), ⟨Bytes.ofString "AB", none⟩) := by decide +kernel
  rw [found, Prod.ext_iff] at decoded
  exact ⟨_, Prod.ext decoded.1 rfl, decoded.2⟩

/-- One half of a split of a body that broke off: it is buffered, and bound, as the two bytes. -/
theorem buffered_is_received_half :
    ∃ after, decode 8192 brokenUpload = (.ok (some uploadRequest), after) ∧
      uploadRequest.head.bodyLength = .ok (some 5) ∧
      let start := uploadRequest.holdings after
      let (left, right, streams) := start.streams.split .window
      let body : Body := ⟨.unclaimed left, some 5⟩
      Holdings.Reaches start
        ⟨streams, [body, ⟨.unclaimed right, some 5⟩, ⟨.claimed, some 5⟩], []⟩ ∧
      (body.buffer 64 streams).1 = .ok (Bytes.ofString "AB") ∧
      ∃ bytes, after.Brings 5 bytes ∧
        Binding.ofBytes Codecs.standard uploadRequest.head ⟨"body", .rawBody, .string, true⟩ bytes =
          .ok (some (.bytes (Bytes.ofString "AB"))) := by
  obtain ⟨after, read, left⟩ := broken_upload_decoded
  have announced : uploadRequest.head.bodyLength = .ok (some 5) := by decide
  have content : after.content = Bytes.ofString "AB" := congrArg Delivery.bytes left
  refine ⟨after, read, announced, ?_⟩
  intro start
  have reached : Holdings.Reaches start _ :=
    .single (.split start.streams uploadRequest.body [] [])
  have received := @buffered_is_received 8192 5 64 _ _ _ read announced _ reached _ List.mem_cons_self
  have buffered := received.2.1 rfl (by decide) (by decide) (by decide)
    (.inr (congrArg Delivery.failure left))
  rw [content] at buffered
  refine ⟨reached, buffered, ?_⟩
  refine received.2.2 Codecs.standard {} {} (Request.make uploadRequest.head _)
    ⟨"body", .rawBody, .string, true⟩ _ rfl rfl .rawBody ?_
  have bound := congrArg (fun given : Except BodyError Bytes =>
    (given.mapError BindingError.body).map fun bytes =>
      if bytes.isEmpty then none else some (Argument.bytes bytes)) buffered
  exact (Binding.run_raw_body Codecs.standard 64 _ _ _ _ _).trans bound

/-- A body that is cut off by the end of the input is buffered like a complete one. -/
theorem broken_upload_buffered :
    ∃ after, decode 8192 brokenUpload = (.ok (some uploadRequest), after) ∧
      uploadRequest.head.bodyLength = .ok (some 5) ∧ after.delivery = ⟨Bytes.ofString "AB", none⟩ ∧
      (uploadRequest.body.buffer 64 (Streams.ofSession after uploadRequest.window)).1 =
        .ok (Bytes.ofString "AB") := by
  obtain ⟨after, read, left⟩ := broken_upload_decoded
  have kept := uploadRequest.holdings_kept after
  have clean : after.delivery.failure = none := congrArg Delivery.failure left
  have buffered := @Holdings.Kept.buffer_received after 5 64 _ _ kept List.mem_cons_self rfl
    (by decide) (by decide) (by decide) (.inr clean)
  rw [show after.content = Bytes.ofString "AB" from congrArg Delivery.bytes left] at buffered
  exact ⟨after, read, by decide, left, buffered⟩

end Decoder

end StreamHttp
