import StreamHttp.Proofs.Arguments.Order
import StreamHttp.Proofs.Message.Headers
import StreamHttp.Proofs.Stream.Claim

/-!
Forms. The fields of a form hold for a name what a query of the same text holds for it: nothing, one
text, or an array of all its texts in their order. So parameters are bound alike from a query and
from a form, as long as buffering the body does not fault.
-/

namespace StreamHttp

def Form.texts (content : Bytes) (name : String) : List String :=
  ((pairs content).filter fun pair => pair.1 == name).map Prod.snd

namespace Json

theorem find_member_insert_other {name asked : String} (different : asked ≠ name) (value : Json)
    (members : List (String × Json)) :
    findMember asked (insertMember name value members) = findMember asked members := by
  have other : (asked == name) = false := beq_false_of_ne different
  induction members with
  | nil => simp only [insertMember, findMember, other, Bool.false_eq_true, if_false]
  | cons member rest induction =>
      obtain ⟨held, value⟩ := member
      unfold insertMember
      split
      next same =>
        obtain rfl := eq_of_beq same
        simp only [findMember, other, Bool.false_eq_true, if_false]
      next =>
        split
        next => simp only [findMember, other, Bool.false_eq_true, if_false]
        next => simp only [findMember, induction]

theorem of_texts_cons (text : String) (texts : List String) :
    ofTexts? (text :: texts) = some (match ofTexts? texts with
      | none => .string text
      | some (.array values) => .array (.string text :: values)
      | some value => .array [.string text, value]) := by
  rcases texts with _ | ⟨_, _ | ⟨_, _⟩⟩
  · rfl
  · rfl
  · rfl

theorem find_member_fields (pairs : List (String × String)) (name : String) :
    findMember name (pairs.foldr Codec.putField []) =
      ofTexts? ((pairs.filter fun pair => pair.1 == name).map Prod.snd) := by
  induction pairs with
  | nil => rfl
  | cons pair pairs induction =>
      -- The first pair is put in last, in front of what those behind it have made.
      rw [List.foldr_cons, Codec.putField]
      by_cases same : pair.1 = name
      · rw [same, find_member_insert_same, induction,
          List.filter_cons, beq_iff_eq.2 same, if_pos rfl, List.map_cons]
        exact (of_texts_cons pair.2 _).symm
      · rw [find_member_insert_other (Ne.symm same), induction, List.filter_cons,
          beq_false_of_ne same, if_neg Bool.false_ne_true]

end Json

theorem Arguments.value_of_not_contains {arguments : Arguments} {name : String}
    (unbound : arguments.contains name = false) : arguments.value? name = none :=
  Option.isNone_iff_eq_none.1 (Option.isSome_eq_false_iff.1 unbound)

theorem Param.fill_typed (param : Param) (raw : Argument) (arguments : Arguments) :
    (param.typed (some raw)).map (arguments.fill param.name) =
      (raw.ofType param).map (arguments.insert param.name) := by
  change ((raw.ofType param).map some).map (arguments.fill param.name) = _
  cases raw.ofType param with
  | error error => rfl
  | ok value => rfl

def RouteSpec.drawing (spec : RouteSpec) (source : ParamSource) : RouteSpec :=
  { spec with params := spec.params.map fun param => { param with source } }

namespace Binding

variable {codecs : Codecs} {limit : Nat}

def written (texts : String → List String) (arguments : Arguments) (param : Param) :
    Option Argument :=
  match arguments.value? param.name with
  | some (.text content) => some (.text content)
  | some _ => none
  | none => (Json.ofTexts? (texts param.name)).map Argument.ofField

def bindTexts (texts : String → List String) (arguments : Arguments) (param : Param) :
    Except BindingError Arguments :=
  (param.typed (written texts arguments param)).map (arguments.fill param.name)

/-- A source gives texts for every parameter, and what keeps it doing so is kept. -/
def GivesTexts (codecs : Codecs) (limit : Nat) (source : ParamSource)
    (texts : String → List String) (kept : Request → Streams → Prop) : Prop :=
  ∀ (param : Param) (asked : Request) (streams : Streams), kept asked streams →
    ∃ reached behind,
      (ExceptT.run (lookup codecs limit { param with source })).run asked streams =
        (.ok ((Json.ofTexts? (texts param.name)).map Argument.ofField), reached, behind) ∧
      kept reached behind

section

variable {source : ParamSource} {texts : String → List String}
  {kept : Request → Streams → Prop} (gives : GivesTexts codecs limit source texts kept)

include gives

theorem GivesTexts.present (arguments : Arguments) (param : Param) {asked : Request}
    {streams : Streams} (stays : kept asked streams) :
    ∃ reached behind,
      (ExceptT.run (present codecs limit arguments { param with source })).run asked streams =
        (.ok (written texts arguments param), reached, behind) ∧ kept reached behind := by
  unfold Binding.present written
  rcases arguments.value? param.name with _ | _ | _ | _ | _
  case none => exact gives param asked streams stays
  all_goals exact ⟨asked, streams, rfl, stays⟩

theorem GivesTexts.bind_param (arguments : Arguments) (param : Param) {asked : Request}
    {streams : Streams} (stays : kept asked streams) :
    ∃ reached behind,
      (ExceptT.run (bindParam codecs limit arguments { param with source })).run asked streams =
        (bindTexts texts arguments param, reached, behind) ∧ kept reached behind := by
  obtain ⟨reached, behind, ran, still⟩ := gives.present arguments param stays
  apply Exists.intro reached
  apply Exists.intro behind
  apply And.intro _ still
  rw [run_bind_param, ran, bindTexts]
  cases written texts arguments param with
  | none => rfl
  | some raw =>
      rw [param.fill_typed raw arguments]
      rfl

/-- All parameters of a route are bound to the texts given to them, one after the other. -/
theorem GivesTexts.binder (params : List Param) (arguments : Arguments) {asked : Request}
    {streams : Streams} (stays : kept asked streams) :
    ((ExceptT.run ((params.map fun param => { param with source }).foldlM
        (bindParam codecs limit) arguments)).run asked streams).1 =
      params.foldlM (bindTexts texts) arguments := by
  induction params generalizing arguments asked streams with
  | nil => rfl
  | cons param params induction =>
      obtain ⟨reached, behind, ran, still⟩ := gives.bind_param arguments param stays
      rw [List.map_cons, List.foldlM_cons, List.foldlM_cons, run_next, ran]
      cases bindTexts texts arguments param with
      | error error => rfl
      | ok next => exact induction next still

theorem GivesTexts.run (spec : RouteSpec) (arguments : Arguments) {intake : Intake}
    (stays : kept intake.request intake.streams) :
    ((Satisfier.requestBinder codecs limit (spec.drawing source) arguments).run intake).1 =
      spec.params.foldlM (bindTexts texts) arguments :=
  gives.binder spec.params arguments stays

end

theorem gives_query (query : Multimap) :
    GivesTexts codecs limit .query query.getAll fun asked _ => asked.head.query = query := by
  intro param asked streams named
  apply Exists.intro asked
  apply Exists.intro streams
  apply And.intro _ named
  unfold lookup
  rw [run_next, run_request]
  dsimp only
  rw [named]
  rcases query.getAll param.name with _ | ⟨_, _ | ⟨_, _⟩⟩
  · rfl
  · rfl
  · rfl

structure Posted (limit : Nat) (content : Bytes) (asked : Request) (streams : Streams) : Prop where
  form : asked.head.contentType?.any MediaType.isForm = true
  decoded : ∀ value, asked.parsedBody = some value →
    value = .object ((Form.pairs content).foldr Codec.putField [])
  buffers : asked.parsedBody = none → (asked.body.buffer limit streams).1 = .ok content

theorem decode_form {media : MediaType} (form : media.isForm = true) (content : Bytes) :
    Codecs.standard.decode media content =
      .ok (.object ((Form.pairs content).foldr Codec.putField [])) := by
  have essence : media.essence = MediaType.form.essence := eq_of_beq form
  have json : media.isJson = false := by
    rw [MediaType.isJson, essence]
    decide
  have text : media.isText = false := by
    rw [MediaType.isText, essence]
    decide
  have decoder : Codecs.standard.decoder? media = some Codec.form := by
    simp only [Codecs.decoder?, Codecs.standard, List.reverse_cons, List.reverse_nil,
      List.nil_append, List.cons_append, List.find?_cons, Codec.json, Codec.text, Codec.form, json,
      text, form]
  rw [Codecs.decode, decoder]
  rfl

theorem decode_bytes_form {head : Head} (form : head.contentType?.any MediaType.isForm = true)
    (content : Bytes) :
    ∃ body, decodeBytes Codecs.standard head content = .ok body ∧
      (∀ value, body = some value →
        value = .object ((Form.pairs content).foldr Codec.putField [])) ∧
      ∀ name, body.bind (Json.member? name) = Json.ofTexts? (Form.texts content name) := by
  unfold decodeBytes
  cases content with
  | nil => exact ⟨none, rfl, nofun, fun _ => rfl⟩
  | cons byte content =>
      cases typed : head.contentType? with
      | none => exact absurd form (by rw [typed]; exact Bool.false_ne_true)
      | some media =>
          rw [typed] at form
          rw [Option.getD_some, decode_form form]
          apply Exists.intro (some _)
          exact ⟨rfl, fun value same => (Option.some.inj same).symm,
            Json.find_member_fields (Form.pairs (byte :: content))⟩

theorem Posted.run_decoded {content : Bytes} {asked : Request} {streams : Streams}
    (posted : Posted limit content asked streams) :
    ∃ body reached behind,
      (ExceptT.run (decodedBody Codecs.standard limit)).run asked streams =
        (.ok body, reached, behind) ∧ Posted limit content reached behind ∧
      ∀ name, body.bind (Json.member? name) = Json.ofTexts? (Form.texts content name) := by
  rw [run_decoded_body]
  cases parsed : asked.parsedBody with
  | some value =>
      rw [posted.decoded value parsed]
      exact ⟨_, asked, streams, rfl, posted, Json.find_member_fields (Form.pairs content)⟩
  | none =>
      have read := posted.buffers parsed
      have held := Body.claim_of_buffer read
      generalize asked.body.buffer limit streams = buffered at read held
      obtain ⟨_, left, behind⟩ := buffered
      cases read
      obtain ⟨value, decodes, whole, fields⟩ := decode_bytes_form posted.form content
      -- An empty form is not kept as decoded; its bytes are, and the next lookup finds them.
      have again : (left.buffer limit behind).1 = .ok content := by
        rw [Body.buffer_buffered held]
      dsimp only
      rw [decode_read, decodes]
      exact ⟨value, _, behind, rfl, ⟨posted.form, whole, fun _ => again⟩, fields⟩

theorem gives_form (content : Bytes) :
    GivesTexts Codecs.standard limit .bodyField (Form.texts content) (Posted limit content) := by
  intro param asked streams posted
  obtain ⟨body, reached, behind, ran, still, fields⟩ := posted.run_decoded
  apply Exists.intro reached
  apply Exists.intro behind
  apply And.intro _ still
  unfold lookup
  rw [run_next, run_request]
  dsimp only
  rw [run_next, ran]
  dsimp only
  rw [fields]
  rfl

/-- A request with a text as the form in its body, of which nothing was read. -/
structure Posts (text : String) (limit : Nat) (intake : Intake) : Prop where
  form : intake.request.head.contentType?.any MediaType.isForm = true
  undecoded : intake.request.parsedBody = none
  sound : intake.streams.Sound
  body : ∃ reader expected, intake.request.body = Body.ofReader reader expected ∧
    expected.any (limit < ·) = false ∧
    intake.streams.delivery reader = ⟨Bytes.ofString text, none⟩

variable {text : String} {intake : Intake}

theorem Posts.read (posts : Posts text limit intake)
    (roomy : intake.request.body.expected.getD 0 ≤ Fault.mostRoom) (word : limit < u64Max)
    (fits : (Bytes.ofString text).length ≤ limit) :
    Posted limit (Bytes.ofString text) intake.request intake.streams := by
  obtain ⟨reader, expected, unread, short, store⟩ := posts.body
  replace roomy : expected.getD 0 ≤ Fault.mostRoom := by
    rwa [unread] at roomy
  have safe : (Body.ofReader reader expected).fault? limit = none := by
    rw [Body.fault_within reader short, if_neg (Nat.not_lt.2 roomy), if_pos word]
  obtain ⟨answer, _⟩ := Body.buffer_unfailing posts.sound store short safe
  have parsed (value : Json) : intake.request.parsedBody ≠ some value := by
    rw [posts.undecoded]
    exact nofun
  apply Posted.mk posts.form (fun value decoded => absurd decoded (parsed value))
  intro _
  rw [unread, answer, if_pos fits]

/-- Where there is a fault, the first field that is looked up ends the binding. -/
theorem Posts.faults (posts : Posts text limit intake)
    (greedy : Fault.mostRoom < intake.request.body.expected.getD 0 ∨ u64Max ≤ limit)
    {spec : RouteSpec} {param : Param} {rest : List Param} (params : spec.params = param :: rest)
    {arguments : Arguments} (unbound : arguments.contains param.name = false) :
    ∃ fault, ((Satisfier.requestBinder codecs limit (spec.drawing .bodyField) arguments).run
      intake).2.streams = intake.streams.fail fault := by
  obtain ⟨reader, expected, unread, short, _⟩ := posts.body
  replace greedy : Fault.mostRoom < expected.getD 0 ∨ u64Max ≤ limit := by
    rwa [unread] at greedy
  obtain ⟨fault, faulty⟩ := Body.fault_greedy reader short greedy
  -- The fault comes behind the claim: the body is gone, and nothing of it was decoded.
  let spent : Request :=
    { intake.request with body := ⟨.claimed, expected⟩, parsedBody := none }
  have decoded : (ExceptT.run (decodedBody codecs limit)).run intake.request intake.streams =
      (.error (.body (.failed fault.message)), spent, intake.streams.fail fault) := by
    rw [run_decoded_body, posts.undecoded, unread, Body.buffer_fault _ short faulty]
    rfl
  have looked :
      (ExceptT.run (present codecs limit arguments { param with source := .bodyField })).run
          intake.request intake.streams =
        (.error (.body (.failed fault.message)), spent, intake.streams.fail fault) := by
    unfold present
    rw [Arguments.value_of_not_contains unbound]
    unfold lookup
    rw [run_next, run_request]
    dsimp only
    rw [run_next, decoded]
  refine ⟨fault, ?_⟩
  unfold Satisfier.requestBinder RouteSpec.drawing
  simp only [params, List.map_cons, List.foldlM_cons, Binding.run]
  rw [run_next, run_bind_param, looked]

theorem bind_texts_unbound {arguments : Arguments} {param : Param}
    (unbound : arguments.contains param.name = false) (texts : String → List String) :
    bindTexts texts arguments param = match texts param.name with
      | [] => .ok arguments
      | [text] => ((Argument.text text).ofType param).map (arguments.insert param.name)
      | texts =>
          ((Argument.json (.array (texts.map .string))).ofType param).map
            (arguments.insert param.name) := by
  have unheld := Arguments.value_of_not_contains unbound
  unfold bindTexts written
  rw [unheld]
  rcases texts param.name with _ | ⟨text, _ | ⟨next, others⟩⟩
  · rfl
  · exact param.fill_typed (.text text) arguments
  · exact param.fill_typed (.json (.array ((text :: next :: others).map .string))) arguments

/-- Parameters are bound alike from the query and from the form in the body of a request, where both
are the same text and the body is within a limit: to nothing, to one text or to an array of all the
texts of their name, in their type, or to the same error. But under the greatest limit, and where
there can be no room for what is announced, looking up a field of the form faults. -/
theorem form_binds_like_query (spec : RouteSpec) (text : String) (arguments : Arguments)
    {limit : Nat} {asked posted : Intake} {method : Method} {target : Target} {headers : Headers}
    (made : asked.request.head = Head.make method target headers)
    (queried : target.query = some text) (posts : Posts text limit posted) :
    let fromQuery := ((Satisfier.requestBinder Codecs.standard limit (spec.drawing .query)
      arguments).run asked).1
    let answer := (Satisfier.requestBinder Codecs.standard limit (spec.drawing .bodyField)
      arguments).run posted
    let announced := posted.request.body.expected.getD 0
    (announced ≤ Fault.mostRoom → limit < u64Max → (Bytes.ofString text).length ≤ limit →
        answer.1 = fromQuery) ∧
      (∀ param, spec.params = [param] → arguments.contains param.name = false →
        fromQuery = match Form.texts (Bytes.ofString text) param.name with
          | [] => .ok arguments
          | [text] => ((Argument.text text).ofType param).map (arguments.insert param.name)
          | texts =>
              ((Argument.json (.array (texts.map .string))).ofType param).map
                (arguments.insert param.name)) ∧
      (Fault.mostRoom < announced ∨ u64Max ≤ limit →
        ∀ param rest, spec.params = param :: rest → arguments.contains param.name = false →
          ∃ fault, answer.2.streams = posted.streams.fail fault) := by
  intro fromQuery answer announced
  have query : asked.request.head.query = Multimap.ofPairs (Form.pairs (Bytes.ofString text)) := by
    rw [made, Head.make, queried]
  have texts : asked.request.head.query.getAll = Form.texts (Bytes.ofString text) := by
    funext name
    rw [query]
    exact Multimap.get_all_of_pairs _ name
  have bound : fromQuery =
      spec.params.foldlM (bindTexts (Form.texts (Bytes.ofString text))) arguments := by
    rw [← texts]
    exact (gives_query asked.request.head.query).run spec arguments rfl
  refine ⟨?_, ?_, ?_⟩
  · intro roomy word fits
    rw [bound]
    exact (gives_form _).run spec arguments (posts.read roomy word fits)
  · intro param alone unbound
    rw [bound, alone, List.foldlM_cons, ← bind_texts_unbound unbound]
    exact bind_pure _
  · intro greedy param rest params unbound
    exact posts.faults greedy params unbound

def searched (text : String) : Intake :=
  Intake.ofBody (Head.make "GET" ⟨none, none, "/pets", some text⟩ {}) Body.empty

def submitted (text : String) : Intake :=
  Intake.ofBody (Head.make "POST" ⟨none, none, "/pets", none⟩
    (Headers.ofPairs [("Content-Type", "application/x-www-form-urlencoded")]))
    (Body.ofBytes (Bytes.ofString text))

theorem posts_submitted {text : String} {limit : Nat}
    (fits : (Bytes.ofString text).length ≤ limit) : Posts text limit (submitted text) where
  form := by
    let headers := Headers.ofPairs [("Content-Type", "application/x-www-form-urlencoded")]
    change headers.contentType?.any MediaType.isForm = true
    decide
  undecoded := rfl
  sound := Streams.sound_session {} 0
  body := by
    have announced : (some (Bytes.ofString text).length).any (limit < ·) = false :=
      decide_eq_false (Nat.not_lt.2 fits)
    have store : Streams.none.delivery (.own (Source.ofBytes (Bytes.ofString text))) =
        ⟨Bytes.ofString text, none⟩ := by
      rw [Streams.delivery_own, Source.delivery, Source.content_of_bytes]
      rfl
    exact ⟨_, _, rfl, announced, store⟩

theorem form_binds_like_query_tags :
    let text := "tag=1&age=3&tag=2.5"
    let tag : Param := ⟨"tag", .query, .number, true⟩
    let spec : RouteSpec := { params := [tag] }
    let bound (source : ParamSource) (intake : Intake) :=
      ((Satisfier.requestBinder Codecs.standard 1024 (spec.drawing source) {}).run intake).1
    bound .bodyField (submitted text) = bound .query (searched text) ∧
      bound .query (searched text) =
        ((Argument.json (.array [.string "1", .string "2.5"])).ofType tag).map
          (Arguments.insert {} "tag") := by
  intro text tag spec bound
  have posts : Posts text 1024 (submitted text) := posts_submitted (by decide)
  obtain ⟨alike, value, _⟩ := form_binds_like_query spec text {}
    (rfl : (searched text).request.head = Head.make "GET" ⟨none, none, "/pets", some text⟩ {})
    rfl posts
  have texts : Form.texts (Bytes.ofString text) tag.name = ["1", "2.5"] := by decide +kernel
  have typed := value tag rfl rfl
  rw [texts] at typed
  exact ⟨alike (by decide) (by decide) (by decide), typed⟩

/-- Under the greatest limit binding a field of a form faults, where the same query is bound. -/
theorem form_field_faults :
    let field : RouteSpec := { params := [⟨"a", .bodyField, .string, true⟩] }
    let bind (source : ParamSource) (intake : Intake) :=
      (Satisfier.requestBinder Codecs.standard u64Max (field.drawing source) {}).run intake
    Posts "a=1" u64Max (submitted "a=1") ∧ (Bytes.ofString "a=1").length ≤ u64Max ∧
      (bind .query (searched "a=1")).1.toOption.any (·.contains "a") = true ∧
      (bind .bodyField (submitted "a=1")).1.toOption.any (·.contains "a") = false ∧
      (bind .bodyField (submitted "a=1")).2.streams.fault = some .overflow := by
  intro field bind
  have fits : (Bytes.ofString "a=1").length ≤ u64Max := by decide
  exact ⟨posts_submitted fits, fits, by decide +kernel, by decide +kernel, by decide +kernel⟩

end Binding

end StreamHttp
