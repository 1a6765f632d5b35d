import StreamHttp.Arguments.Binder

/-!
The binding of parameters step by step. A binding goes on where its first part ended, and stops with
the first error; what every step keeps of a request and its streams, the whole binding keeps. The
binding of one parameter changes nothing under other names, and under its own it leaves what is no
text, brings a text to the type of the parameter, or else what the request holds.
-/

namespace StreamHttp

theorem Arguments.value_insert_other (arguments : Arguments) {name other : String}
    (value : Argument) (different : other ≠ name) :
    (arguments.insert name value).value? other = arguments.value? other := by
  simp only [value?, insert]
  congr 1
  induction arguments.entries with
  | nil => simp [place, different.symm]
  | cons entry rest induction =>
      simp only [place]
      split
      next same =>
        obtain rfl := eq_of_beq same
        simp [different.symm]
      next => simp [List.find?_cons, induction]

namespace Binding

variable {α β : Type}

def decodeBytes (codecs : Codecs) (head : Head) (bytes : Bytes) :
    Except BindingError (Option Json) :=
  if bytes.isEmpty then .ok none
  else ((codecs.decode ((head.contentType?).getD .json) bytes).mapError ofCodec).map some

theorem run_next (binding : Binding α) (next : α → Binding β) (asked : Request)
    (streams : Streams) :
    (ExceptT.run (binding >>= next)).run asked streams =
      match (ExceptT.run binding).run asked streams with
      | (.ok value, asked, streams) => (ExceptT.run (next value)).run asked streams
      | (.error error, asked, streams) => (.error error, asked, streams) := by
  refine (Program.run_bind (ExceptT.run binding) (ExceptT.bindCont next) asked streams).trans ?_
  rcases (ExceptT.run binding).run asked streams with ⟨_ | value, asked, streams⟩
  · rfl
  · rfl

theorem run_request (asked : Request) (streams : Streams) :
    (ExceptT.run request).run asked streams = (.ok asked, asked, streams) := rfl

theorem run_buffer (limit : Nat) (asked : Request) (streams : Streams) :
    (ExceptT.run (buffer limit)).run asked streams =
      ((asked.body.buffer limit streams).1.mapError .body,
        { asked with body := (asked.body.buffer limit streams).2.1 },
        (asked.body.buffer limit streams).2.2) := rfl

theorem decode_read (codecs : Codecs) (head : Head) (bytes : Bytes) :
    ((Except.ok bytes : Except BodyError Bytes).mapError .body).bind (decodeBytes codecs head) =
      decodeBytes codecs head bytes := rfl

theorem run_decoded_body (codecs : Codecs) (limit : Nat) (asked : Request) (streams : Streams) :
    (ExceptT.run (decodedBody codecs limit)).run asked streams =
      match asked.parsedBody with
      | some value => (.ok (some value), asked, streams)
      | none =>
          let (read, body, streams) := asked.body.buffer limit streams
          match (read.mapError .body).bind (decodeBytes codecs asked.head) with
          | .ok value => (.ok value, { asked with body, parsedBody := value }, streams)
          | .error error => (.error error, { asked with body }, streams) := by
  obtain ⟨head, attributes, body, parsed⟩ := asked
  unfold decodedBody
  rw [run_next, run_request]
  cases parsed with
  | some value => rfl
  | none =>
      dsimp only
      rw [run_next, run_buffer]
      dsimp only
      rcases body.buffer limit streams with ⟨_ | bytes, body, streams⟩
      · rfl
      · dsimp only
        rw [decode_read, decodeBytes]
        dsimp only [Except.mapError]
        cases bytes.isEmpty with
        | true => rfl
        | false =>
            rw [if_neg Bool.false_ne_true, if_neg Bool.false_ne_true, run_next]
            cases codecs.decode ((head.contentType?).getD .json) bytes with
            | error error => rfl
            | ok value => rfl

/-- However the binding ends, the request and its streams stay what they have to be; where it gives a
value, that is one of which something holds. -/
def Maintains (kept : Request → Streams → Prop) (binding : Binding α) (post : α → Prop) : Prop :=
  ∀ asked streams, kept asked streams →
    kept ((ExceptT.run binding).run asked streams).2.1
        ((ExceptT.run binding).run asked streams).2.2 ∧
      ∀ value, ((ExceptT.run binding).run asked streams).1 = .ok value → post value

variable {kept : Request → Streams → Prop}

theorem maintains_pure {post : α → Prop} {value : α} (holds : post value) :
    Maintains kept (pure value) post := by
  intro asked streams stays
  refine ⟨stays, ?_⟩
  rintro _ ⟨⟩
  exact holds

theorem maintains_result {post : α → Prop} {result : Except BindingError α}
    (holds : ∀ value, result = .ok value → post value) :
    Maintains kept (ofResult result) post :=
  fun _ _ stays => ⟨stays, holds⟩

theorem maintains_bind {between : α → Prop} {post : β → Prop} {binding : Binding α}
    {next : α → Binding β} (first : Maintains kept binding between)
    (rest : ∀ value, between value → Maintains kept (next value) post) :
    Maintains kept (binding >>= next) post := by
  intro asked streams stays
  rw [run_next]
  have ran := first asked streams stays
  generalize (ExceptT.run binding).run asked streams = reached at ran
  rcases reached with ⟨_ | value, asked, streams⟩
  · exact ⟨ran.1, fun _ impossible => nomatch impossible⟩
  · exact rest value (ran.2 value rfl) asked streams ran.1

theorem maintains_request :
    Maintains kept request fun asked => ∃ streams, kept asked streams := by
  intro asked streams stays
  refine ⟨stays, ?_⟩
  rintro _ ⟨⟩
  exact ⟨streams, stays⟩

theorem Maintains.weaken {post other : α → Prop} {binding : Binding α}
    (maintains : Maintains kept binding post) (implied : ∀ value, post value → other value) :
    Maintains kept binding other := by
  intro asked streams stays
  obtain ⟨after, holds⟩ := maintains asked streams stays
  exact ⟨after, fun value given => implied value (holds value given)⟩

/-- The steps over the body of a request with a head, while something of it is kept: what buffering
gives, what taking gives, and what the body is decoded to. -/
structure BodySteps (codecs : Codecs) (limit : Nat) (head : Head) (kept : Request → Streams → Prop)
    (gives : Bytes → Prop) (taken : Body → Prop) (made : Option Json → Prop) : Prop where
  named : ∀ {asked streams}, kept asked streams → asked.head = head
  parsed : ∀ {asked streams value}, kept asked streams → asked.parsedBody = some value →
    made (some value)
  buffer : Maintains kept (buffer limit) gives
  take : Maintains kept takeBody taken
  keep : ∀ {value}, made (some value) →
    Maintains kept (alter fun request => { request with parsedBody := some value }) fun _ => True
  decodes : ∀ {asked streams bytes value}, kept asked streams → asked.parsedBody = none →
    gives bytes → decodeBytes codecs head bytes = .ok value → made value

def LookedUp (head : Head) (gives : Bytes → Prop) (taken : Body → Prop) (made : Option Json → Prop)
    (param : Param) (value : Option Argument) : Prop :=
  match param.source with
  | .path => value = none
  | .query =>
      match head.query.getAll param.name with
      | [] => value = none
      | [single] => value = some (.text single)
      | values => value = some (.json (.array (values.map .string)))
  | .header => value = (head.headers.get? param.name).map .text
  | .cookie => value = (head.cookies.get? param.name).map fun cookie => .text cookie.value
  | .body => ∃ body, made body ∧ value = body.map .json
  | .bodyField =>
      ∃ body, made body ∧ value = (body.bind (Json.member? param.name)).map Argument.ofField
  | .rawBody => ∃ bytes, gives bytes ∧ value = if bytes.isEmpty then none else some (.bytes bytes)
  | .bodyStream => ∃ body, taken body ∧ value = some (.stream body)

/-- What becomes of the value under the name of a parameter when the parameter is bound. -/
inductive BoundBy (looked : Option Argument → Prop) (param : Param) :
    Option Argument → Option Argument → Prop
  | text {content : String} {value : Argument}
      (typed : (Argument.text content).ofType param = .ok value) :
      BoundBy looked param (some (.text content)) (some value)
  | kept {value : Argument} (other : ∀ content, value ≠ .text content) :
      BoundBy looked param (some value) (some value)
  | absent (nothing : looked none) : BoundBy looked param none none
  | found {raw value : Argument} (given : looked (some raw)) (typed : raw.ofType param = .ok value) :
      BoundBy looked param none (some value)

/-- What becomes of arguments when parameters are bound one after the other. -/
inductive Fills (looked : Param → Option Argument → Prop) : List Param → Arguments → Arguments → Prop
  | nil (arguments : Arguments) : Fills looked [] arguments arguments
  | cons {param : Param} {params : List Param} {arguments next filled : Arguments}
      (others : ∀ name, name ≠ param.name → next.value? name = arguments.value? name)
      (bound : BoundBy (looked param) param (arguments.value? param.name) (next.value? param.name))
      (rest : Fills looked params next filled) : Fills looked (param :: params) arguments filled

namespace BodySteps

variable {codecs : Codecs} {limit : Nat} {head : Head} {gives : Bytes → Prop} {taken : Body → Prop}
  {made : Option Json → Prop} (steps : BodySteps codecs limit head kept gives taken made)

include steps

/-- The body is decoded once; what it was decoded to is kept. -/
theorem decoded_body : Maintains kept (decodedBody codecs limit) made := by
  refine maintains_bind maintains_request fun asked ⟨_, stays⟩ => ?_
  cases parsed : asked.parsedBody with
  | some value => exact maintains_pure (steps.parsed stays parsed)
  | none =>
      refine maintains_bind steps.buffer fun bytes given => ?_
      have decodes {value : Option Json} : decodeBytes codecs head bytes = .ok value → made value :=
        steps.decodes stays parsed given
      cases empty : bytes.isEmpty with
      | true =>
          simp only [if_true]
          exact maintains_pure (decodes (by rw [decodeBytes, empty, if_pos rfl]))
      | false =>
          simp only [Bool.false_eq_true, if_false]
          have read : Maintains kept
              (ofResult ((codecs.decode ((asked.head.contentType?).getD .json) bytes).mapError
                ofCodec)) fun value => made (some value) := by
            refine maintains_result fun value given => decodes ?_
            rw [steps.named stays] at given
            rw [decodeBytes, empty, if_neg Bool.false_ne_true, given]
            rfl
          exact maintains_bind read fun value holds =>
            maintains_bind (steps.keep holds) fun _ _ => maintains_pure holds

theorem lookup (param : Param) :
    Maintains kept (lookup codecs limit param) (LookedUp head gives taken made param) := by
  refine maintains_bind maintains_request fun asked ⟨_, stays⟩ => ?_
  have named := steps.named stays
  unfold LookedUp
  cases source : param.source with
  | path => exact maintains_pure rfl
  | query =>
      simp only [named]
      rcases head.query.getAll param.name with _ | ⟨value, _ | ⟨next, others⟩⟩
      · exact maintains_pure rfl
      · exact maintains_pure rfl
      · exact maintains_pure rfl
  | header => exact maintains_pure (by rw [named])
  | cookie => exact maintains_pure (by rw [named])
  | bodyStream =>
      exact maintains_bind steps.take fun body given => maintains_pure ⟨body, given, rfl⟩
  | body =>
      exact maintains_bind steps.decoded_body fun body holds => maintains_pure ⟨body, holds, rfl⟩
  | bodyField =>
      exact maintains_bind steps.decoded_body fun body holds => maintains_pure ⟨body, holds, rfl⟩
  | rawBody =>
      exact maintains_bind steps.buffer fun bytes given => maintains_pure ⟨bytes, given, rfl⟩

theorem bind_param (arguments : Arguments) (param : Param) :
    Maintains kept (bindParam codecs limit arguments param) fun next =>
      (∀ name, name ≠ param.name → next.value? name = arguments.value? name) ∧
        BoundBy (LookedUp head gives taken made param) param (arguments.value? param.name)
          (next.value? param.name) := by
  have typed {raw : Argument} {held : Option Argument}
      (bound : ∀ value, raw.ofType param = .ok value →
        BoundBy (LookedUp head gives taken made param) param held (some value)) :
      Maintains kept (do return arguments.insert param.name (← ofResult (raw.ofType param)))
        fun next => (∀ name, name ≠ param.name → next.value? name = arguments.value? name) ∧
          BoundBy (LookedUp head gives taken made param) param held (next.value? param.name) := by
    refine maintains_bind (maintains_result fun _ given => given) fun value given => ?_
    refine maintains_pure ⟨fun name other => arguments.value_insert_other value other, ?_⟩
    rw [Arguments.value_insert_same]
    exact bound value given
  unfold bindParam
  split
  next content holds =>
    rw [holds]
    exact typed fun value given => .text given
  next value other holds =>
    refine maintains_pure ⟨fun _ _ => rfl, ?_⟩
    rw [holds]
    exact .kept other
  next unbound =>
    refine maintains_bind (steps.lookup param) fun value looked => ?_
    cases value with
    | none =>
        refine maintains_pure ⟨fun _ _ => rfl, ?_⟩
        rw [unbound]
        exact .absent looked
    | some raw =>
        rw [unbound]
        exact typed fun value given => .found looked given

theorem binder (params : List Param) (arguments : Arguments) :
    Maintains kept (params.foldlM (bindParam codecs limit) arguments)
      (Fills (LookedUp head gives taken made) params arguments) := by
  induction params generalizing arguments with
  | nil => exact maintains_pure (.nil arguments)
  | cons param params induction =>
      rw [List.foldlM_cons]
      refine maintains_bind (steps.bind_param arguments param) fun next ⟨others, bound⟩ => ?_
      exact (induction next).weaken fun filled rest => .cons others bound rest

end BodySteps

variable {looked : Param → Option Argument → Prop} {params : List Param} {start filled : Arguments}

theorem BoundBy.weaken {looked other : Option Argument → Prop} {param : Param}
    {held bound : Option Argument} (step : BoundBy looked param held bound)
    (implied : ∀ value, looked value → other value) : BoundBy other param held bound := by
  cases step with
  | text typed => exact .text typed
  | kept text => exact .kept text
  | absent unheld => exact .absent (implied _ unheld)
  | found held typed => exact .found (implied _ held) typed

theorem Fills.weaken {other : Param → Option Argument → Prop}
    (fills : Fills looked params start filled)
    (implied : ∀ param value, looked param value → other param value) :
    Fills other params start filled := by
  induction fills with
  | nil arguments => exact .nil arguments
  | cons others bound rest induction => exact .cons others (bound.weaken (implied _)) induction

theorem Fills.other (fills : Fills looked params start filled) {name : String}
    (absent : name ∉ params.map Param.name) : filled.value? name = start.value? name := by
  induction fills with
  | nil arguments => rfl
  | cons others bound rest induction =>
      rw [List.map_cons, List.mem_cons, not_or] at absent
      rw [induction absent.2, others name absent.1]

/-- Of parameters with names of their own, each is bound as if it were alone. -/
theorem Fills.bound (fills : Fills looked params start filled)
    (distinct : (params.map Param.name).Nodup) {param : Param} (declared : param ∈ params) :
    BoundBy (looked param) param (start.value? param.name) (filled.value? param.name) := by
  induction fills with
  | nil arguments => cases declared
  | @cons first params _ _ _ others bound rest induction =>
      obtain ⟨single, later⟩ := List.nodup_cons.1 distinct
      rcases List.mem_cons.1 declared with rfl | among
      · rw [rest.other single]
        exact bound
      · have other : param.name ≠ first.name :=
          fun same => single (same ▸ List.mem_map_of_mem among)
        rw [← others param.name other]
        exact induction later among

end Binding

end StreamHttp
