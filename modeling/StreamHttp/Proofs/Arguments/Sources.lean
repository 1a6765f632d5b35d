import Mathlib.Data.List.Induction
import StreamHttp.Codec.Standard
import StreamHttp.Proofs.Arguments.Steps
import StreamHttp.Proofs.Routing.Instances
import StreamHttp.Routing.Table

/-!
Where the parameters of a route are bound from. What a source gives is told by the request as it
came: buffering and decoding its body again makes no difference to it. A parameter gets the value of
its own source in its own type, or nothing if its source gives nothing; but a text that the match has
bound under the name of the parameter is taken in the place of its source.
-/

namespace StreamHttp

def Intake.decoded (codecs : Codecs) (limit : Nat) (intake : Intake) :
    Except BindingError (Option Json) :=
  match intake.request.parsedBody with
  | some value => .ok (some value)
  | none =>
      ((intake.buffer limit).1.mapError .body).bind
        (Binding.decodeBytes codecs intake.request.head)

namespace Param

/-- What a request holds for a parameter; the variables of a path are not part of it. -/
def held (codecs : Codecs) (limit : Nat) (intake : Intake) (param : Param) :
    Except BindingError (Option Argument) :=
  match param.source with
  | .path => .ok none
  | .query =>
      match intake.request.head.query.getAll param.name with
      | [] => .ok none
      | [value] => .ok (some (.text value))
      | values => .ok (some (.json (.array (values.map .string))))
  | .header => .ok ((intake.request.head.headers.get? param.name).map .text)
  | .cookie => .ok ((intake.request.head.cookies.get? param.name).map fun cookie => .text cookie.value)
  | .body => (intake.decoded codecs limit).map (Option.map .json)
  | .bodyField =>
      (intake.decoded codecs limit).map fun body =>
        (body.bind (Json.member? param.name)).map Argument.ofField
  | .rawBody =>
      ((intake.buffer limit).1.mapError .body).map fun bytes =>
        if bytes.isEmpty then none else some (.bytes bytes)
  | .bodyStream => (intake.takeBody.1.mapError .body).map fun body => some (.stream body)

/-- What the source of a parameter gives. Of variables of one name the last one counts. -/
def offered (codecs : Codecs) (limit : Nat) (bindings : List (String × String)) (intake : Intake)
    (param : Param) : Except BindingError (Option Argument) :=
  match param.source with
  | .path => .ok ((bindings.reverse.lookup param.name).map .text)
  | _ => param.held codecs limit intake

theorem offered_of_ne {codecs : Codecs} {limit : Nat} {bindings : List (String × String)}
    {intake : Intake} {param : Param} (other : param.source ≠ .path) :
    param.offered codecs limit bindings intake = param.held codecs limit intake := by
  unfold offered
  split
  next same => exact absurd same other
  next => rfl

def typed (param : Param) : Option Argument → Except BindingError (Option Argument)
  | none => .ok none
  | some value => (value.ofType param).map some

end Param

namespace Arguments

theorem value_of_texts (texts : List (String × String)) (name : String) :
    (ofTexts texts).value? name = (texts.reverse.lookup name).map .text := by
  unfold ofTexts
  induction texts using List.reverseRecOn with
  | nil => rfl
  | append_singleton texts pair induction =>
      rw [List.foldl_append, List.foldl_cons, List.foldl_nil, List.reverse_append,
        List.reverse_singleton, List.singleton_append, List.lookup_cons]
      by_cases same : name = pair.1
      · subst same
        rw [value_insert_same]
        simp
      · rw [value_insert_other _ _ same, induction]
        rw [beq_false_of_ne same]

end Arguments

namespace Body

variable {body : Body} {limit : Nat} {streams : Streams}

theorem buffer_claimed (claimed : body.claim = .claimed) {bytes : Bytes} :
    (body.buffer limit streams).1 ≠ .ok bytes := by
  unfold buffer
  rw [claimed]
  simp only
  split <;> exact nofun

theorem buffer_buffered {held : Bytes} (buffered : body.claim = .buffered held) :
    body.buffer limit streams = (.ok held, body, streams) := by
  unfold buffer
  rw [buffered]

theorem take_claimed (claimed : body.isClaimed = true) {other : Body} :
    body.take.1 ≠ .ok other := by
  unfold take claimStream
  unfold isClaimed at claimed
  cases claim : body.claim <;> simp_all

/-- Buffering leaves everything as it is, or the body without its bytes, or with those it gave. -/
theorem buffer_cases (body : Body) (limit : Nat) (streams : Streams) :
    (body.buffer limit streams).2 = (body, streams) ∨
      (body.buffer limit streams).2.1.claim = .claimed ∨
      ∃ bytes, (body.buffer limit streams).1 = .ok bytes ∧
        (body.buffer limit streams).2.1.claim = .buffered bytes := by
  unfold buffer
  split
  · exact .inl rfl
  · split <;> exact .inl rfl
  · split
    · exact .inl rfl
    · split
      · exact .inr (.inl rfl)
      · split
        · exact .inr (.inl rfl)
        · split
          · exact .inr (.inl rfl)
          · exact .inr (.inr ⟨_, rfl, rfl⟩)

theorem take_cases (body : Body) : body.take.2 = body ∨ body.take.2.claim = .claimed := by
  unfold take claimStream
  cases claim : body.claim
  · exact .inr rfl
  · exact .inl rfl
  · exact .inl rfl

theorem buffer_behind_buffer {bytes : Bytes}
    (given : ((body.buffer limit streams).2.1.buffer limit (body.buffer limit streams).2.2).1 =
      .ok bytes) : (body.buffer limit streams).1 = .ok bytes := by
  rcases buffer_cases body limit streams with
    same | claimed | ⟨held, answer, buffered⟩
  · rwa [same] at given
  · exact absurd given (buffer_claimed claimed)
  · rw [buffer_buffered buffered] at given
    exact answer.trans given

theorem take_behind_buffer {other : Body}
    (given : (body.buffer limit streams).2.1.take.1 = .ok other) : body.take.1 = .ok other := by
  rcases buffer_cases body limit streams with
    same | claimed | ⟨held, answer, buffered⟩
  · rwa [same] at given
  · exact absurd given (take_claimed (by rw [isClaimed, claimed]))
  · exact absurd given (take_claimed (by rw [isClaimed, buffered]))

theorem buffer_behind_take {bytes : Bytes} (given : (body.take.2.buffer limit streams).1 = .ok bytes) :
    (body.buffer limit streams).1 = .ok bytes := by
  rcases take_cases body with same | claimed
  · rwa [same] at given
  · exact absurd given (buffer_claimed claimed)

theorem take_behind_take {other : Body} (given : body.take.2.take.1 = .ok other) :
    body.take.1 = .ok other := by
  rcases take_cases body with same | claimed
  · rwa [same] at given
  · exact absurd given (take_claimed (by rw [isClaimed, claimed]))

end Body

namespace Binding

variable {codecs : Codecs} {limit : Nat} {origin : Intake}

/-- What a request is while its parameters are bound: it gives no more than it did at the start. -/
structure Traces (codecs : Codecs) (limit : Nat) (origin : Intake) (asked : Request)
    (streams : Streams) : Prop where
  named : asked.head = origin.request.head
  buffered : ∀ bytes, (asked.body.buffer limit streams).1 = .ok bytes →
    (origin.buffer limit).1 = .ok bytes
  taken : ∀ body, asked.body.take.1 = .ok body → origin.takeBody.1 = .ok body
  decoded : ∀ value, asked.parsedBody = some value → origin.decoded codecs limit = .ok (some value)
  undecoded : asked.parsedBody = none → origin.request.parsedBody = none

theorem traces_start : Traces codecs limit origin origin.request origin.streams where
  named := rfl
  buffered := fun _ given => given
  taken := fun _ given => given
  decoded := fun value parsed => by rw [Intake.decoded, parsed]
  undecoded := id

theorem traces_buffer {asked : Request} {streams : Streams}
    (traces : Traces codecs limit origin asked streams) :
    Traces codecs limit origin { asked with body := (asked.body.buffer limit streams).2.1 }
      (asked.body.buffer limit streams).2.2 where
  named := traces.named
  buffered := fun bytes given => traces.buffered bytes (Body.buffer_behind_buffer given)
  taken := fun body given => traces.taken body (Body.take_behind_buffer given)
  decoded := traces.decoded
  undecoded := traces.undecoded

theorem traces_take {asked : Request} {streams : Streams}
    (traces : Traces codecs limit origin asked streams) :
    Traces codecs limit origin { asked with body := asked.body.take.2 } streams where
  named := traces.named
  buffered := fun bytes given => traces.buffered bytes (Body.buffer_behind_take given)
  taken := fun body given => traces.taken body (Body.take_behind_take given)
  decoded := traces.decoded
  undecoded := traces.undecoded

theorem maintains_buffer :
    Maintains (Traces codecs limit origin) (buffer limit) fun bytes =>
      (origin.buffer limit).1 = .ok bytes := by
  intro asked streams traces
  rw [run_buffer]
  refine ⟨traces_buffer traces, fun bytes given => ?_⟩
  cases answer : (asked.body.buffer limit streams).1 with
  | error error =>
      rw [answer] at given
      cases given
  | ok buffered =>
      rw [answer] at given
      cases given
      exact traces.buffered bytes answer

theorem run_take (asked : Request) (streams : Streams) :
    (ExceptT.run takeBody).run asked streams =
      (asked.body.take.1.mapError .body, { asked with body := asked.body.take.2 }, streams) := rfl

theorem maintains_take :
    Maintains (Traces codecs limit origin) takeBody fun body => origin.takeBody.1 = .ok body := by
  intro asked streams traces
  rw [run_take]
  refine ⟨traces_take traces, fun body given => ?_⟩
  cases answer : asked.body.take.1 with
  | error error =>
      rw [answer] at given
      cases given
  | ok taken =>
      rw [answer] at given
      cases given
      exact traces.taken body answer

theorem body_steps (codecs : Codecs) (limit : Nat) (origin : Intake) :
    BodySteps codecs limit origin.request.head (Traces codecs limit origin)
      (fun bytes => (origin.buffer limit).1 = .ok bytes) (fun body => origin.takeBody.1 = .ok body)
      fun value => origin.decoded codecs limit = .ok value where
  named := Traces.named
  parsed := fun traces parsed => traces.decoded _ parsed
  buffer := maintains_buffer
  take := maintains_take
  keep := by
    intro value made asked streams traces
    refine ⟨⟨traces.named, traces.buffered, traces.taken, ?_, nofun⟩, fun _ _ => trivial⟩
    rintro _ ⟨⟩
    exact made
  decodes := by
    intro asked streams bytes value traces parsed given decoded
    rw [Intake.decoded, traces.undecoded parsed, given]
    exact decoded

theorem run_decoded (codecs : Codecs) (limit : Nat) (intake : Intake) :
    ((decodedBody codecs limit).run intake).1 = intake.decoded codecs limit := by
  have first : ((decodedBody codecs limit).run intake).1 =
      ((ExceptT.run (decodedBody codecs limit)).run intake.request intake.streams).1 := rfl
  rw [first, run_decoded_body]
  unfold Intake.decoded Intake.buffer
  cases intake.request.parsedBody with
  | some value => rfl
  | none =>
      dsimp only
      rcases intake.request.body.buffer limit intake.streams with ⟨read, body, streams⟩
      dsimp only
      cases (read.mapError BindingError.body).bind (decodeBytes codecs intake.request.head) with
      | error error => rfl
      | ok value => rfl

/-- What is looked up is what the request held at the start. -/
theorem held_of_looked_up {param : Param} {value : Option Argument}
    (looked : LookedUp origin.request.head (fun bytes => (origin.buffer limit).1 = .ok bytes)
      (fun body => origin.takeBody.1 = .ok body)
      (fun value => origin.decoded codecs limit = .ok value) param value) :
    param.held codecs limit origin = .ok value := by
  unfold LookedUp at looked
  unfold Param.held
  cases source : param.source <;> rw [source] at looked
  case path => rw [looked]
  case query =>
    generalize origin.request.head.query.getAll param.name = values at looked
    rcases values with _ | ⟨_, _ | ⟨_, _⟩⟩ <;> exact congrArg Except.ok looked.symm
  case header => rw [looked]
  case cookie => rw [looked]
  all_goals
    obtain ⟨_, given, rfl⟩ := looked
    rw [given]
    rfl

theorem fills_of_run {spec : RouteSpec} {arguments filled : Arguments} {after : Intake}
    (ran : (Satisfier.requestBinder codecs limit spec arguments).run origin = (.ok filled, after)) :
    Fills (fun param value => param.held codecs limit origin = .ok value) spec.params arguments
      filled := by
  have fills := ((body_steps codecs limit origin).binder spec.params arguments origin.request
    origin.streams traces_start).2 filled (congrArg Prod.fst ran)
  exact fills.weaken fun param value => held_of_looked_up

theorem lookup_none_iff {bindings : List (String × String)} {name : String} :
    bindings.reverse.lookup name = none ↔ name ∉ bindings.map Prod.fst := by
  simp only [List.lookup_eq_none_iff, List.mem_reverse, bne_iff_ne, List.mem_map, not_exists,
    not_and]
  exact forall₂_congr fun _ _ => ne_comm

/-- Parameters with names of their own are bound, where that succeeds, each in its own type to what
its own source gives, and to nothing exactly if that gives nothing. But a parameter of another source
that has the name of a variable of the path is bound to the variable in the place of its source. -/
theorem bound_from_source {source path : String} {spec : RouteSpec} {template : Template}
    {bindings : List (String × String)} {intake after : Intake} {filled : Arguments}
    (accepted : Template.parse source = .ok template) (isTemplate : spec.template = some template)
    (matched : RouteTable.bindings? path spec = some bindings)
    (distinct : (spec.params.map Param.name).Nodup)
    (ran : (Satisfier.requestBinder codecs limit spec (Arguments.ofTexts bindings)).run intake =
      (.ok filled, after))
    {param : Param} (declared : param ∈ spec.params) :
    (param.source = .path ∨ param.name ∉ template.variableNames →
        ∃ offer, param.offered codecs limit bindings intake = .ok offer ∧
          param.typed offer = .ok (filled.value? param.name) ∧
          (filled.value? param.name = none ↔ offer = none)) ∧
      (param.source ≠ .path → param.name ∈ template.variableNames →
        ∃ text, bindings.reverse.lookup param.name = some text ∧
          param.typed (some (.text text)) = .ok (filled.value? param.name)) := by
  have named : bindings.map Prod.fst = template.variableNames := by
    rw [RouteTable.bindings?, isTemplate] at matched
    exact Template.names_matched (Template.parse_denoted accepted).2 matched
  have bound := (fills_of_run ran).bound distinct declared
  rw [Arguments.value_of_texts] at bound
  rw [← named, ← lookup_none_iff]
  cases looked : bindings.reverse.lookup param.name with
  | some text =>
      rw [looked, Option.map_some] at bound
      obtain ⟨value, typed, same⟩ : ∃ value, (Argument.text text).ofType param = .ok value ∧
          filled.value? param.name = some value := by
        generalize filled.value? param.name = result at bound
        cases bound with
        | text typed => exact ⟨_, typed, rfl⟩
        | kept other => exact absurd rfl (other text)
      have given : param.typed (some (.text text)) = .ok (filled.value? param.name) := by
        rw [Param.typed, typed, same]
        rfl
      refine ⟨fun own => ⟨some (.text text), ?_, given, by simp [same]⟩,
        fun _ _ => ⟨text, rfl, given⟩⟩
      rcases own with own | absent
      · rw [Param.offered, own, looked]
        rfl
      · cases absent
  | none =>
      rw [looked, Option.map_none] at bound
      refine ⟨fun _ => ?_, fun _ present => absurd present (lookup_none_iff.1 looked)⟩
      have offered : param.offered codecs limit bindings intake = param.held codecs limit intake := by
        by_cases own : param.source = .path
        · rw [Param.offered, Param.held, own, looked]
          rfl
        · exact Param.offered_of_ne own
      rw [offered]
      generalize filled.value? param.name = result at bound
      cases bound with
      | absent held => exact ⟨none, held, rfl, Iff.rfl⟩
      | found held typed =>
          refine ⟨_, held, ?_, by simp⟩
          rw [Param.typed, typed]
          rfl

def petSpec (params : List Param) : RouteSpec where
  template := some ⟨"/pets/{id}", [.literal "pets", .variable "id"]⟩
  params := params

def petRequest (query : String) : Intake :=
  Intake.ofBody (Head.make "GET" ⟨none, none, "/pets/7", some query⟩ {}) Body.empty

theorem exists_run {binding : Binding Arguments} {intake : Intake} {check : Arguments → Bool}
    (passes : (binding.run intake).1.toOption.any check = true) :
    ∃ filled after, binding.run intake = (.ok filled, after) ∧ check filled = true := by
  generalize binding.run intake = ran at passes
  rcases ran with ⟨_ | filled, after⟩
  · cases passes
  · exact ⟨filled, after, rfl, passes⟩

/-- A variable that is read as a number, and a field of the query that is given twice. -/
theorem bound_from_source_tags :
    let id : Param := ⟨"id", .path, .integer, true⟩
    let tag : Param := ⟨"tag", .query, .string, true⟩
    let spec := petSpec [id, tag]
    let template : Template := ⟨"/pets/{id}", [.literal "pets", .variable "id"]⟩
    Template.parse "/pets/{id}" = .ok template ∧ spec.template = some template ∧
      RouteTable.bindings? "/pets/7" spec = some [("id", "7")] ∧
      (spec.params.map Param.name).Nodup ∧
      ∃ filled after,
        (Satisfier.requestBinder Codecs.standard 1024 spec (Arguments.ofTexts [("id", "7")])).run
          (petRequest "tag=a&tag=b") = (.ok filled, after) ∧
        filled.value? "id" = some (.json (.integer 7)) ∧
        filled.value? "tag" = some (.json (.array [.string "a", .string "b"])) := by
  intro id tag spec template
  have accepted : Template.parse "/pets/{id}" = .ok template := by decide +kernel
  have matched : RouteTable.bindings? "/pets/7" spec = some [("id", "7")] := by decide +kernel
  have distinct : (spec.params.map Param.name).Nodup := by decide
  have passes : ((Satisfier.requestBinder Codecs.standard 1024 spec
      (Arguments.ofTexts [("id", "7")])).run (petRequest "tag=a&tag=b")).1.toOption.any
        (·.contains "tag") = true := by
    decide +kernel
  obtain ⟨filled, after, ran, _⟩ := exists_run passes
  have bound (param : Param) (declared : param ∈ spec.params) :=
    bound_from_source accepted rfl matched distinct ran declared
  refine ⟨accepted, rfl, matched, distinct, filled, after, ran, ?_, ?_⟩
  · obtain ⟨offer, offered, typed, _⟩ := (bound id (by decide)).1 (.inl rfl)
    have text : id.offered Codecs.standard 1024 [("id", "7")] (petRequest "tag=a&tag=b") =
        .ok (some (.text "7")) := rfl
    obtain rfl := Except.ok.inj (text.symm.trans offered)
    exact (Except.ok.inj typed).symm
  · obtain ⟨offer, offered, typed, _⟩ := (bound tag (by decide)).1 (.inr (by decide))
    have given : (petRequest "tag=a&tag=b").request.head.query.getAll "tag" = ["a", "b"] := by
      decide +kernel
    have values : tag.offered Codecs.standard 1024 [("id", "7")] (petRequest "tag=a&tag=b") =
        .ok (some (.json (.array [.string "a", .string "b"]))) := by
      simp only [Param.offered, Param.held, tag, given]
      rfl
    obtain rfl := Except.ok.inj (values.symm.trans offered)
    exact (Except.ok.inj typed).symm

/-- A parameter of the query is bound to the variable of its name, and not to what the query has. -/
theorem variable_bound_for_query :
    let id : Param := ⟨"id", .query, .string, true⟩
    let spec := petSpec [id]
    RouteTable.bindings? "/pets/7" spec = some [("id", "7")] ∧
      ∃ filled after,
        (Satisfier.requestBinder Codecs.standard 1024 spec (Arguments.ofTexts [("id", "7")])).run
          (petRequest "id=8") = (.ok filled, after) ∧
        id.offered Codecs.standard 1024 [("id", "7")] (petRequest "id=8") =
          .ok (some (.text "8")) ∧
        filled.value? "id" = some (.text "7") := by
  intro id spec
  have matched : RouteTable.bindings? "/pets/7" spec = some [("id", "7")] := by decide +kernel
  have given : (petRequest "id=8").request.head.query.getAll "id" = ["8"] := by decide +kernel
  refine ⟨matched, (Arguments.ofTexts [("id", "7")]).insert "id" (.text "7"), _, rfl, ?_, ?_⟩
  · simp only [Param.offered, Param.held, id, given]
  · exact Arguments.value_insert_same _ _ _

end Binding

end StreamHttp
