import StreamHttp.Proofs.Arguments.Sources
import StreamHttp.Proofs.Decimal.Finite
import StreamHttp.Proofs.Exchange.Agreement

/-!
The types of bound values. A text is brought to the declared type of its parameter, or the binding
fails with an error for the parameter; so are the texts of a list. What is no text is kept as it is,
and therefore a value is of the declared type exactly if nothing of another type was among what the
parameter was bound from. Only bodies hold anything but text.
-/

namespace StreamHttp

def ParamType.Scalar (type : ParamType) : Prop :=
  type = .integer ∨ type = .number ∨ type = .boolean

inductive ParamType.HasValue : ParamType → Json → Prop
  | integer {value : Int} (least : -(i64Max + 1 : Int) ≤ value) (most : value ≤ i64Max) :
      HasValue .integer (.integer value)
  | whole (value : Int) : HasValue .number (.integer value)
  | float {value : Float} (finite : value.isFinite = true) : HasValue .number (.float value)
  | boolean (value : Bool) : HasValue .boolean (.bool value)

namespace Argument

/-- A value of a type, or a list of nothing but such values. -/
inductive HasType (type : ParamType) : Argument → Prop
  | one {value : Json} (has : type.HasValue value) : HasType type (.json value)
  | many {items : List Json} (all : ∀ item ∈ items, type.HasValue item) :
      HasType type (.json (.array items))

/-- What is no text and not of a type, or has such an item. -/
inductive Foreign (type : ParamType) : Argument → Prop
  | one {value : Json} (single : ∀ items, value ≠ .array items) (other : ¬type.HasValue value) :
      Foreign type (.json value)
  | item {items : List Json} {item : Json} (member : item ∈ items)
      (notText : ∀ content, item ≠ .string content) (other : ¬type.HasValue item) :
      Foreign type (.json (.array items))
  | bytes (content : Bytes) : Foreign type (.bytes content)
  | stream (body : Body) : Foreign type (.stream body)

def itemText? : Json → Option String
  | .string content => some content
  | _ => none

def texts : Argument → List String
  | .text content => [content]
  | .json (.array items) => items.filterMap itemText?
  | _ => []

end Argument

/-- A list is read item by item: every item gives one of the values, and these are all. -/
theorem members_of_map_ok {α β ε : Type} {read : α → Except ε β} {items : List α} {values : List β}
    (all : items.mapM read = .ok values) :
    (∀ item ∈ items, ∃ value ∈ values, read item = .ok value) ∧
      ∀ value ∈ values, ∃ item ∈ items, read item = .ok value := by
  induction items generalizing values with
  | nil =>
      cases all
      exact ⟨fun _ => nofun, fun _ => nofun⟩
  | cons item items induction =>
      rw [List.mapM_cons] at all
      cases first : read item with
      | error error =>
          rw [first] at all
          cases all
      | ok value =>
          cases rest : items.mapM read with
          | error error =>
              rw [first, rest] at all
              cases all
          | ok others =>
              rw [first, rest] at all
              cases all
              obtain ⟨given, made⟩ := induction rest
              exact ⟨List.forall_mem_cons.2 ⟨⟨value, List.mem_cons_self, first⟩,
                  fun item member => (given item member).imp fun _ => .imp_left (.tail _)⟩,
                List.forall_mem_cons.2 ⟨⟨item, List.mem_cons_self, first⟩,
                  fun value member => (made value member).imp fun _ => .imp_left (.tail _)⟩⟩

theorem exists_of_map_error {α β ε : Type} {read : α → Except ε β} {items : List α} {error : ε}
    (failed : items.mapM read = .error error) : ∃ item ∈ items, read item = .error error := by
  induction items with
  | nil => cases failed
  | cons item items induction =>
      rw [List.mapM_cons] at failed
      cases first : read item with
      | error other =>
          rw [first] at failed
          cases failed
          exact ⟨item, List.mem_cons_self, first⟩
      | ok value =>
          cases rest : items.mapM read with
          | error other =>
              rw [first, rest] at failed
              cases failed
              obtain ⟨item, member, failed⟩ := induction rest
              exact ⟨item, List.mem_cons_of_mem _ member, failed⟩
          | ok others =>
              rw [first, rest] at failed
              cases failed

namespace Argument

variable {name content : String} {type : ParamType}

theorem read_text_error {error : BindingError} (failed : readText name type content = .error error) :
    ∃ reason, error = .conversion name reason := by
  unfold readText at failed
  cases type with
  | string => cases failed
  | integer =>
      simp only at failed
      split at failed
      · cases failed
      · cases failed
        exact ⟨_, rfl⟩
  | number =>
      simp only at failed
      split at failed
      · cases failed
      · cases failed
        exact ⟨_, rfl⟩
  | boolean =>
      simp only at failed
      split at failed
      · cases failed
      · split at failed
        · cases failed
        · cases failed
          exact ⟨_, rfl⟩
  | json =>
      simp only at failed
      split at failed <;> cases failed

theorem read_text_has_value (scalar : type.Scalar) {value : Json}
    (read : readText name type content = .ok value) : type.HasValue value := by
  unfold readText at read
  rcases scalar with rfl | rfl | rfl
  · simp only at read
    split at read
    next number within =>
      cases read
      obtain ⟨least, most⟩ := Numeral.integer_range within
      exact .integer least most
    next => cases read
  · simp only at read
    split at read
    next number parsed =>
      cases read
      exact .float (Decimal.parse_finite parsed)
    next => cases read
  · simp only at read
    split at read
    · cases read
      exact .boolean true
    · split at read
      · cases read
        exact .boolean false
      · cases read

variable {param : Param} {raw value : Argument}

theorem of_type_text (scalar : param.type.Scalar) (content : String) :
    (text content).ofType param = (readText param.name param.type content).map .json := by
  unfold ofType
  rcases scalar with type | type | type <;> rw [type]

theorem of_type_items (scalar : param.type.Scalar) (items : List Json) :
    (json (.array items)).ofType param =
      (items.mapM (readItem param.name param.type)).map fun items => .json (.array items) := by
  unfold ofType
  rcases scalar with type | type | type <;> rw [type]

structure Plain (raw : Argument) : Prop where
  notText : ∀ content, raw ≠ .text content
  notList : ∀ items, raw ≠ .json (.array items)

theorem of_type_plain (scalar : param.type.Scalar) (plain : raw.Plain) :
    raw.ofType param = .ok raw := by
  unfold ofType
  rcases scalar with type | type | type
  all_goals
    rw [type]
    split
    next => rfl
    next content _ => exact absurd rfl (plain.notText content)
    next => rfl
    next items _ _ => exact absurd rfl (plain.notList items)
    next => rfl

theorem texts_plain (plain : raw.Plain) : raw.texts = [] := by
  unfold texts
  split
  next content => exact absurd rfl (plain.notText content)
  next items => exact absurd rfl (plain.notList items)
  next => rfl

theorem text_list_or_plain (raw : Argument) :
    (∃ content, raw = .text content) ∨ (∃ items, raw = .json (.array items)) ∨ raw.Plain := by
  by_cases content : ∃ content, raw = .text content
  · exact .inl content
  · by_cases items : ∃ items, raw = .json (.array items)
    · exact .inr (.inl items)
    · exact .inr (.inr ⟨not_exists.1 content, not_exists.1 items⟩)

theorem read_item_string : readItem name type (.string content) = readText name type content := rfl

theorem read_item_other {item : Json} (notText : ∀ content, item ≠ .string content) :
    readItem name type item = .ok item := by
  cases item with
  | string content => exact absurd rfl (notText content)
  | _ => rfl

theorem of_type_error (scalar : param.type.Scalar) {error : BindingError}
    (failed : raw.ofType param = .error error) :
    (∃ reason, error = .conversion param.name reason) ∧
      ∃ content ∈ raw.texts, (readText param.name param.type content).isOk = false := by
  have named {content : String} (member : content ∈ raw.texts)
      (unread : readText param.name param.type content = .error error) :
      (∃ reason, error = .conversion param.name reason) ∧
        ∃ content ∈ raw.texts, (readText param.name param.type content).isOk = false :=
    ⟨read_text_error unread, content, member, by rw [unread]; rfl⟩
  rcases raw.text_list_or_plain with ⟨content, rfl⟩ | ⟨items, rfl⟩ | plain
  · rw [of_type_text scalar] at failed
    cases read : readText param.name param.type content with
    | error other =>
        rw [read] at failed
        cases failed
        exact named List.mem_cons_self read
    | ok value =>
        rw [read] at failed
        cases failed
  · rw [of_type_items scalar] at failed
    cases all : items.mapM (readItem param.name param.type) with
    | error other =>
        rw [all] at failed
        cases failed
        obtain ⟨item, member, unread⟩ := exists_of_map_error all
        have text : ∃ content, item = .string content := by
          by_contra notText
          rw [read_item_other (not_exists.1 notText)] at unread
          cases unread
        obtain ⟨content, rfl⟩ := text
        rw [read_item_string] at unread
        exact named (List.mem_filterMap.2 ⟨_, member, rfl⟩) unread
    | ok values =>
        rw [all] at failed
        cases failed
  · rw [of_type_plain scalar plain] at failed
    cases failed

theorem of_type_unread (scalar : param.type.Scalar) {content : String}
    (member : content ∈ raw.texts)
    (unread : (readText param.name param.type content).isOk = false) :
    ∃ error, raw.ofType param = .error error := by
  rcases raw.text_list_or_plain with ⟨text, rfl⟩ | ⟨items, rfl⟩ | plain
  · obtain rfl := List.mem_singleton.1 member
    rw [of_type_text scalar]
    cases read : readText param.name param.type content with
    | error error => exact ⟨error, rfl⟩
    | ok value =>
        rw [read] at unread
        cases unread
  · rw [of_type_items scalar]
    cases all : items.mapM (readItem param.name param.type) with
    | error error => exact ⟨error, rfl⟩
    | ok values =>
        obtain ⟨item, listed, same⟩ := List.mem_filterMap.1 member
        obtain rfl : item = .string content := by
          cases item <;> cases same
          rfl
        obtain ⟨value, _, read⟩ := (members_of_map_ok all).1 _ listed
        rw [← read_item_string, read] at unread
        cases unread
  · rw [texts_plain plain] at member
    cases member

theorem not_has_value_list (items : List Json) : ¬type.HasValue (.array items) := nofun

/-- A converted value is of the type exactly if nothing of another type was kept. -/
theorem has_type_iff (scalar : param.type.Scalar) (typed : raw.ofType param = .ok value) :
    value.HasType param.type ↔ ¬raw.Foreign param.type := by
  rcases raw.text_list_or_plain with ⟨content, rfl⟩ | ⟨items, rfl⟩ | plain
  · rw [of_type_text scalar] at typed
    cases read : readText param.name param.type content with
    | error error =>
        rw [read] at typed
        cases typed
    | ok value =>
        rw [read] at typed
        cases typed
        exact iff_of_true (.one (read_text_has_value scalar read)) nofun
  · rw [of_type_items scalar] at typed
    cases all : items.mapM (readItem param.name param.type) with
    | error error =>
        rw [all] at typed
        cases typed
    | ok values =>
        rw [all] at typed
        cases typed
        obtain ⟨given, made⟩ := members_of_map_ok all
        constructor
        · rintro (untyped | has) foreign
          · exact absurd untyped (not_has_value_list values)
          · cases foreign with
            | one single _ => exact single items rfl
            | item member notText other =>
                obtain ⟨value, among, read⟩ := given _ member
                rw [read_item_other notText] at read
                cases read
                exact other (has _ among)
        · intro native
          refine .many fun value among => ?_
          obtain ⟨item, member, read⟩ := made value among
          by_cases isText : ∃ content, item = .string content
          · obtain ⟨content, rfl⟩ := isText
            rw [read_item_string] at read
            exact read_text_has_value scalar read
          · rw [read_item_other (not_exists.1 isText)] at read
            cases read
            by_contra other
            exact native (.item member (not_exists.1 isText) other)
  · rw [of_type_plain scalar plain] at typed
    cases typed
    cases raw with
    | text content => exact absurd rfl (plain.notText content)
    | json value =>
        have single : ∀ items, value ≠ .array items := by
          rintro items rfl
          exact plain.notList items rfl
        constructor
        · rintro (has | _) (⟨_, other⟩ | _)
          · exact other has
          · exact single _ rfl
          · exact single _ rfl
          · exact single _ rfl
        · intro native
          by_contra untyped
          exact native (.one single fun has => untyped (.one has))
    | bytes content => exact iff_of_false nofun (not_not_intro (.bytes content))
    | stream body => exact iff_of_false nofun (not_not_intro (.stream body))

end Argument

structure Argument.Conversion (param : Param) (raw value : Argument) : Prop where
  converted : raw.ofType param = .ok value
  typed : param.type.Scalar → (value.HasType param.type ↔ ¬raw.Foreign param.type)

theorem Argument.conversion {param : Param} {raw value : Argument}
    (converted : raw.ofType param = .ok value) : Conversion param raw value :=
  ⟨converted, fun scalar => has_type_iff scalar converted⟩

/-- What a parameter is bound from: a text that is bound under its name, or what the request holds. -/
def Param.Receives (codecs : Codecs) (limit : Nat) (intake : Intake) (param : Param)
    (raw : Argument) : Prop :=
  (∃ content, raw = .text content) ∨ param.held codecs limit intake = .ok (some raw)

/-- A value under a name was made for a parameter of that name. -/
def MadeFor (params : List Param) (received : Param → Argument → Prop) (name : String)
    (value : Argument) : Prop :=
  ∃ param ∈ params, param.name = name ∧ ∃ raw, received param raw ∧ raw.Conversion param value

namespace Binding

variable {codecs : Codecs} {limit : Nat} {intake : Intake}

/-- A text under the name of a parameter is no longer as it was bound when the parameter is. -/
theorem fills_made {all params : List Param} {start filled : Arguments} {name : String}
    (fills : Fills (fun param value => param.held codecs limit intake = .ok value) params start
      filled) (declared : params ⊆ all)
    (begun : ∀ value, start.value? name = some value → (∃ content, value = .text content) ∨
      MadeFor all (Param.Receives codecs limit intake) name value)
    (settled : name ∈ params.map Param.name ∨ ∀ value, start.value? name = some value →
      MadeFor all (Param.Receives codecs limit intake) name value)
    {value : Argument} (bound : filled.value? name = some value) :
    MadeFor all (Param.Receives codecs limit intake) name value := by
  induction fills with
  | nil arguments => exact settled.elim nofun fun made => made value bound
  | @cons param params arguments next filled others step rest induction =>
      obtain ⟨here, later⟩ := List.cons_subset.1 declared
      by_cases same : name = param.name
      · subst same
        have made : ∀ value, next.value? param.name = some value →
            MadeFor all (Param.Receives codecs limit intake) param.name value := by
          intro value given
          generalize next.value? param.name = result at step given
          generalize before : arguments.value? param.name = held at step
          subst given
          cases step with
          | text typed => exact ⟨param, here, rfl, _, .inl ⟨_, rfl⟩, Argument.conversion typed⟩
          | kept other =>
              exact (begun value before).resolve_left fun ⟨content, text⟩ => other content text
          | found held typed => exact ⟨param, here, rfl, _, .inr held, Argument.conversion typed⟩
        exact induction later (fun value given => .inr (made value given)) (.inr made) bound
      · rw [← others name same] at begun settled
        refine induction later begun (settled.imp_left fun member => ?_) bound
        exact (List.mem_cons.1 member).resolve_left same

theorem run_made {spec : RouteSpec} {bindings : List (String × String)} {filled : Arguments}
    {after : Intake}
    (ran : (Satisfier.requestBinder codecs limit spec (Arguments.ofTexts bindings)).run intake =
      (.ok filled, after)) {param : Param} (declared : param ∈ spec.params) {value : Argument}
    (bound : filled.value? param.name = some value) :
    MadeFor spec.params (Param.Receives codecs limit intake) param.name value := by
  refine fills_made (fills_of_run ran) (List.Subset.refl _) (fun value begun => .inl ?_)
    (.inl (List.mem_map_of_mem declared)) bound
  rw [Arguments.value_of_texts, Option.map_eq_some_iff] at begun
  obtain ⟨content, _, rfl⟩ := begun
  exact ⟨content, rfl⟩

def present (codecs : Codecs) (limit : Nat) (arguments : Arguments) (param : Param) :
    Binding (Option Argument) :=
  match arguments.value? param.name with
  | some (.text content) => return some (.text content)
  | some _ => return none
  | none => lookup codecs limit param

theorem run_bind_param (arguments : Arguments) (param : Param) (asked : Request)
    (streams : Streams) :
    (ExceptT.run (bindParam codecs limit arguments param)).run asked streams =
      match (ExceptT.run (present codecs limit arguments param)).run asked streams with
      | (.ok none, asked, streams) => (.ok arguments, asked, streams)
      | (.ok (some raw), asked, streams) =>
          ((raw.ofType param).map (arguments.insert param.name), asked, streams)
      | (.error error, asked, streams) => (.error error, asked, streams) := by
  have typed (raw : Argument) (asked : Request) (streams : Streams) :
      (ExceptT.run (do return arguments.insert param.name (← ofResult (raw.ofType param)))).run
          asked streams =
        ((raw.ofType param).map (arguments.insert param.name), asked, streams) := by
    rw [run_next]
    cases raw.ofType param <;> rfl
  unfold bindParam present
  rcases arguments.value? param.name with _ | content | _ | _ | _
  case none =>
    simp only
    rw [run_next]
    rcases (ExceptT.run (lookup codecs limit param)).run asked streams with
      ⟨_ | _ | raw, asked, streams⟩
    · rfl
    · rfl
    · exact typed raw asked streams
  case some.text => exact typed (.text content) asked streams
  all_goals rfl

theorem run_append (front back : List Param) (arguments : Arguments) (asked : Request)
    (streams : Streams) :
    (ExceptT.run ((front ++ back).foldlM (bindParam codecs limit) arguments)).run asked streams =
      match (ExceptT.run (front.foldlM (bindParam codecs limit) arguments)).run asked streams with
      | (.ok arguments, asked, streams) =>
          (ExceptT.run (back.foldlM (bindParam codecs limit) arguments)).run asked streams
      | (.error error, asked, streams) => (.error error, asked, streams) := by
  induction front generalizing arguments asked streams with
  | nil => rfl
  | cons param front induction =>
      rw [List.cons_append, List.foldlM_cons, List.foldlM_cons, run_next, run_next]
      rcases (ExceptT.run (bindParam codecs limit arguments param)).run asked streams with
        ⟨_ | next, asked, streams⟩
      · rfl
      · exact induction next asked streams

theorem run_binder_append {spec : RouteSpec} {front back : List Param} {start arguments : Arguments}
    {reached : Intake}
    (first : (Satisfier.requestBinder codecs limit { spec with params := front } start).run intake =
      (.ok arguments, reached)) :
    ((Satisfier.requestBinder codecs limit { spec with params := front ++ back } start).run
        intake).1 =
      ((Satisfier.requestBinder codecs limit { spec with params := back } arguments).run
        reached).1 := by
  have stays : ((ExceptT.run (front.foldlM (bindParam codecs limit) start)).run intake.request
      intake.streams).2.1.head = intake.request.head :=
    ((body_steps codecs limit intake).binder front start intake.request intake.streams
      traces_start).1.named
  change ((ExceptT.run ((front ++ back).foldlM (bindParam codecs limit) start)).run intake.request
    intake.streams).1 = _
  unfold run Satisfier.requestBinder at first
  rw [run_append]
  generalize (ExceptT.run (front.foldlM (bindParam codecs limit) start)).run intake.request
    intake.streams = ran at first stays
  obtain ⟨result, asked, streams⟩ := ran
  obtain ⟨rfl, rfl⟩ := Prod.mk.inj first
  simp only at stays
  rw [← stays]
  rfl

theorem run_present {spec : RouteSpec} {front : List Param} (back : List Param) {param : Param}
    {start arguments : Arguments} {reached : Intake}
    (first : (Satisfier.requestBinder codecs limit { spec with params := front } start).run intake =
      (.ok arguments, reached)) {raw : Argument}
    (given : ((present codecs limit arguments param).run reached).1 = .ok (some raw)) :
    (∀ error, raw.ofType param = .error error →
        ((Satisfier.requestBinder codecs limit { spec with params := front ++ param :: back }
          start).run intake).1 = .error error) ∧
      ∀ value, raw.ofType param = .ok value →
        ((Satisfier.requestBinder codecs limit { spec with params := front ++ [param] }
          start).run intake).1 = .ok (arguments.insert param.name value) := by
  have bound : (ExceptT.run (bindParam codecs limit arguments param)).run reached.request
      reached.streams = _ :=
    run_bind_param arguments param reached.request reached.streams
  change ((ExceptT.run (present codecs limit arguments param)).run reached.request
    reached.streams).1 = _ at given
  generalize (ExceptT.run (present codecs limit arguments param)).run reached.request
    reached.streams = looked at bound given
  obtain ⟨result, asked, streams⟩ := looked
  obtain rfl : result = .ok (some raw) := given
  simp only at bound
  have step (back : List Param) :
      ((Satisfier.requestBinder codecs limit { spec with params := front ++ param :: back }
        start).run intake).1 =
      (match ((raw.ofType param).map (arguments.insert param.name), asked, streams) with
        | (.ok value, asked, streams) =>
            (ExceptT.run (back.foldlM (bindParam codecs limit) value)).run asked streams
        | (.error error, asked, streams) => (.error error, asked, streams)).1 := by
    rw [run_binder_append first]
    change ((ExceptT.run ((param :: back).foldlM (bindParam codecs limit) arguments)).run
      reached.request reached.streams).1 = _
    rw [List.foldlM_cons, run_next, bound]
    cases raw.ofType param <;> rfl
  constructor
  · intro error failed
    rw [step back, failed]
    rfl
  · intro value converted
    rw [step [], converted]
    rfl

end Binding

def Json.fieldsOf : Except BindingError (Option Json) → List (String × Json)
  | .ok (some (.object fields)) => fields
  | _ => []

namespace Engine

theorem fold_bind_field {params : List Param} {fields : List (String × Json)}
    {arguments : Arguments} {name : String} {value : Argument}
    (bound : (params.foldl (bindField fields) arguments).value? name = some value) :
    arguments.value? name = some value ∨
      MadeFor params (fun _ raw => ∃ field, Json.findMember name fields = some field ∧
        raw = Argument.ofField field) name value := by
  induction params generalizing arguments with
  | nil => exact .inl bound
  | cons param params induction =>
      rcases induction bound with before | ⟨other, member, made⟩
      · unfold bindField at before
        split at before
        · exact .inl before
        · split at before
          · exact .inl before
          next field found =>
            split at before
            next made typed =>
              by_cases same : name = param.name
              · subst same
                rw [Arguments.value_insert_same] at before
                cases before
                exact .inr ⟨param, List.mem_cons_self, rfl, _, ⟨field, found, rfl⟩,
                  Argument.conversion typed⟩
              · rw [Arguments.value_insert_other _ _ same] at before
                exact .inl before
            · exact .inl before
      · exact .inr ⟨other, List.mem_cons_of_mem _ member, made⟩

variable {σ : Type}

theorem bind_no_fields (params : List Param) (arguments : Arguments) :
    params.foldl (bindField []) arguments = arguments := by
  induction params with
  | nil => rfl
  | cons param params induction =>
      have same : bindField [] arguments param = arguments := ite_self arguments
      rw [List.foldl_cons, same, induction]

/-- Filling in never fails: whatever the body comes to, its fields are put where they lack. -/
theorem run_bind_from_body (engine : Engine σ) (spec : RouteSpec) (arguments : Arguments)
    (exchange : Exchange σ) :
    (engine.bindFromBody spec arguments).run exchange =
      if mayHoldArguments spec arguments exchange.request then
        (.ok (spec.params.foldl (bindField (Json.fieldsOf
            (exchange.toIntake.decoded engine.codecs engine.settings.maxBufferedBody))) arguments),
          { exchange with
            toIntake := ((Binding.decodedBody engine.codecs
              engine.settings.maxBufferedBody).run exchange.toIntake).2 })
      else (.ok arguments, exchange) := by
  have begun : (Attempt.request : Attempt σ Request).run exchange =
      (.ok exchange.request, exchange) := rfl
  unfold bindFromBody
  rw [Attempt.run_bind, begun]
  dsimp only
  cases mayHoldArguments spec arguments exchange.request with
  | false => rfl
  | true =>
      rw [if_neg (by decide), if_pos rfl, ← Binding.run_decoded]
      have tried : (Attempt.tryBinding (Binding.decodedBody engine.codecs
            engine.settings.maxBufferedBody)).run exchange =
          (.ok ((Binding.decodedBody engine.codecs engine.settings.maxBufferedBody).run
              exchange.toIntake).1,
            { exchange with toIntake := ((Binding.decodedBody engine.codecs
              engine.settings.maxBufferedBody).run exchange.toIntake).2 }) := rfl
      rw [Attempt.run_bind, tried]
      dsimp only
      generalize (Binding.decodedBody engine.codecs engine.settings.maxBufferedBody).run
        exchange.toIntake = ran
      obtain ⟨result, reached⟩ := ran
      have passed : (.ok arguments, { exchange with toIntake := reached }) =
          ((.ok (spec.params.foldl (bindField []) arguments),
            { exchange with toIntake := reached }) :
            Except DispatchError Arguments × Exchange σ) := by
        rw [bind_no_fields]
      rcases result with _ | _ | value
      · exact passed
      · exact passed
      · cases value with
        | object fields => rfl
        | _ => exact passed

/-- What is bound from the fields of a body is made of them; it never fails. -/
theorem bind_from_body_made (engine : Engine σ) (spec : RouteSpec) (arguments : Arguments)
    (exchange : Exchange σ) :
    ∃ filled after, (engine.bindFromBody spec arguments).run exchange = (.ok filled, after) ∧
      ∀ name value, filled.value? name = some value → arguments.value? name = some value ∨
        ∃ fields, exchange.toIntake.decoded engine.codecs engine.settings.maxBufferedBody =
            .ok (some (.object fields)) ∧
          MadeFor spec.params (fun _ raw => ∃ field, Json.findMember name fields = some field ∧
            raw = Argument.ofField field) name value := by
  rw [run_bind_from_body]
  split
  · refine ⟨_, _, rfl, ?_⟩
    intro name value bound
    generalize exchange.toIntake.decoded engine.codecs engine.settings.maxBufferedBody = decoded
      at bound
    have unfilled (none : Json.fieldsOf decoded = []) : arguments.value? name = some value := by
      rw [none, bind_no_fields] at bound
      exact bound
    rcases decoded with _ | _ | body
    · exact .inl (unfilled rfl)
    · exact .inl (unfilled rfl)
    · cases body with
      | object fields => exact (fold_bind_field bound).imp_right fun made => ⟨fields, rfl, made⟩
      | _ => exact .inl (unfilled rfl)
  · exact ⟨arguments, exchange, rfl, fun _ _ before => .inl before⟩

end Engine

namespace Binding

variable {codecs : Codecs} {limit : Nat} {intake : Intake}

theorem receives_native {param : Param} {raw : Argument}
    (received : param.Receives codecs limit intake raw)
    (listed : param.source ∈ [ParamSource.path, .query, .header, .cookie]) :
    ¬raw.Foreign param.type := by
  rcases received with ⟨content, rfl⟩ | held
  · exact nofun
  · unfold Param.held at held
    cases source : param.source with
    | path =>
        rw [source] at held
        cases held
    | query =>
        rw [source] at held
        simp only at held
        split at held
        · cases held
        · cases held
          exact nofun
        · cases held
          rintro (⟨single, _⟩ | ⟨member, notText, _⟩)
          · exact single _ rfl
          · obtain ⟨content, _, rfl⟩ := List.mem_map.1 member
            exact notText content rfl
    | header =>
        rw [source] at held
        obtain ⟨content, _, rfl⟩ := Option.map_eq_some_iff.1 (Except.ok.inj held)
        exact nofun
    | cookie =>
        rw [source] at held
        obtain ⟨cookie, _, rfl⟩ := Option.map_eq_some_iff.1 (Except.ok.inj held)
        exact nofun
    | _ => simp [source] at listed

/-- Where a binding succeeds, a bound parameter is of its scalar type exactly if nothing of another
type was among what a parameter of its name received; text alone is received from anything but a
body. A value with a text that does not read as the type ends the binding with an error for the
parameter, every other value is bound. What is bound from the fields of a body is made alike. -/
theorem bound_has_type_iff (codecs : Codecs) (limit : Nat) (spec : RouteSpec)
    (bindings : List (String × String)) (intake : Intake) :
    (∀ filled after,
        (Satisfier.requestBinder codecs limit spec (Arguments.ofTexts bindings)).run intake =
          (.ok filled, after) →
        ∀ param ∈ spec.params, ∀ value, filled.value? param.name = some value →
          MadeFor spec.params (Param.Receives codecs limit intake) param.name value ∧
          ((spec.params.map Param.name).Nodup →
            ∃ raw, param.Receives codecs limit intake raw ∧ raw.Conversion param value)) ∧
      (∀ (param : Param) raw, param.Receives codecs limit intake raw →
        param.source ∈ [ParamSource.path, .query, .header, .cookie] → ¬raw.Foreign param.type) ∧
      (∀ front param back arguments reached raw, spec.params = front ++ param :: back →
        param.type.Scalar →
        (Satisfier.requestBinder codecs limit { spec with params := front }
          (Arguments.ofTexts bindings)).run intake = (.ok arguments, reached) →
        ((present codecs limit arguments param).run reached).1 = .ok (some raw) →
        ((∃ content ∈ raw.texts,
            (Argument.readText param.name param.type content).isOk = false) →
          ∃ reason, ((Satisfier.requestBinder codecs limit spec (Arguments.ofTexts bindings)).run
            intake).1 = .error (.conversion param.name reason)) ∧
        ((∀ content ∈ raw.texts,
            (Argument.readText param.name param.type content).isOk = true) →
          ∃ value, raw.Conversion param value ∧
            ((Satisfier.requestBinder codecs limit { spec with params := front ++ [param] }
              (Arguments.ofTexts bindings)).run intake).1 =
                .ok (arguments.insert param.name value))) ∧
      ∀ (σ : Type) (engine : Engine σ) (arguments : Arguments) (exchange : Exchange σ),
        ∃ filled after, (engine.bindFromBody spec arguments).run exchange = (.ok filled, after) ∧
          ∀ name value, filled.value? name = some value → arguments.value? name = some value ∨
            ∃ fields, exchange.toIntake.decoded engine.codecs engine.settings.maxBufferedBody =
                .ok (some (.object fields)) ∧
              MadeFor spec.params (fun _ raw => ∃ field, Json.findMember name fields = some field ∧
                raw = Argument.ofField field) name value := by
  refine ⟨?_, fun _ _ => receives_native, ?_,
    fun σ engine arguments exchange => engine.bind_from_body_made spec arguments exchange⟩
  · intro filled after ran param declared value bound
    have made := run_made ran declared bound
    refine ⟨made, fun distinct => ?_⟩
    obtain ⟨other, listed, same, raw, received, conversion⟩ := made
    obtain rfl := List.inj_on_of_nodup_map distinct listed declared same
    exact ⟨raw, received, conversion⟩
  · intro front param back arguments reached raw parted scalar first given
    have ends := run_present back first given
    rw [← parted] at ends
    constructor
    · rintro ⟨content, member, unread⟩
      obtain ⟨error, failed⟩ := Argument.of_type_unread scalar member unread
      obtain ⟨⟨reason, rfl⟩, _⟩ := Argument.of_type_error scalar failed
      exact ⟨reason, ends.1 _ failed⟩
    · intro read
      cases converted : raw.ofType param with
      | ok value => exact ⟨value, Argument.conversion converted, ends.2 value converted⟩
      | error error =>
          obtain ⟨_, content, member, unread⟩ := Argument.of_type_error scalar converted
          exact absurd (read content member) (by rw [unread]; exact Bool.false_ne_true)

/-- A variable and a list of the query, as numbers, and a variable that is none. -/
theorem bound_has_type_iff_pets :
    let id : Param := ⟨"id", .path, .integer, true⟩
    let tag : Param := ⟨"tag", .query, .number, true⟩
    let spec := petSpec [id, tag]
    (∃ filled after value,
        (Satisfier.requestBinder Codecs.standard 1024 spec (Arguments.ofTexts [("id", "7")])).run
          (petRequest "tag=1&tag=2.5") = (.ok filled, after) ∧
        filled.value? "tag" = some value ∧ value.HasType .number) ∧
      ∃ reason, ((Satisfier.requestBinder Codecs.standard 1024 spec
        (Arguments.ofTexts [("id", "rex")])).run (petRequest "tag=1")).1 =
          .error (.conversion "id" reason) := by
  intro id tag spec
  constructor
  · have passes : ((Satisfier.requestBinder Codecs.standard 1024 spec
        (Arguments.ofTexts [("id", "7")])).run (petRequest "tag=1&tag=2.5")).1.toOption.any
          (·.contains "tag") = true := by
      decide +kernel
    obtain ⟨filled, after, ran, contained⟩ := exists_run passes
    obtain ⟨value, bound⟩ := Option.isSome_iff_exists.1 contained
    obtain ⟨typed, native, _⟩ := bound_has_type_iff Codecs.standard 1024 spec [("id", "7")]
      (petRequest "tag=1&tag=2.5")
    have listed : tag ∈ spec.params := by decide
    obtain ⟨_, own⟩ := typed filled after ran tag listed value bound
    obtain ⟨raw, received, conversion⟩ := own (by decide)
    exact ⟨filled, after, value, ran, bound,
      (conversion.typed (.inr (.inl rfl))).2 (native tag raw received (by decide))⟩
  · have held : (Arguments.ofTexts [("id", "rex")]).value? "id" = some (.text "rex") := by
      rw [Arguments.value_of_texts]
      rfl
    have given : ((present Codecs.standard 1024 (Arguments.ofTexts [("id", "rex")]) id).run
        (petRequest "tag=1")).1 = .ok (some (.text "rex")) := by
      unfold present
      rw [held]
      rfl
    obtain ⟨_, _, fails, _⟩ := bound_has_type_iff Codecs.standard 1024 spec [("id", "rex")]
      (petRequest "tag=1")
    have ends := fails [] id [tag] (Arguments.ofTexts [("id", "rex")]) (petRequest "tag=1")
      (.text "rex") rfl (.inl rfl) rfl given
    exact ends.1 ⟨"rex", List.mem_cons_self, by decide +kernel⟩

def isTrue : Option Argument → Bool
  | some (.json (.bool true)) => true
  | _ => false

/-- A truth value in a body is bound as it is for a parameter that is declared as an integer. -/
theorem flag_bound_for_integer :
    let count : Param := ⟨"count", .bodyField, .integer, true⟩
    let intake := Intake.ofBody (Head.make "POST" ⟨none, none, "/pets", none⟩ {})
      (Body.ofBytes (Bytes.ofString "\x7b\"count\": true\x7d"))
    (∃ filled after,
      (Satisfier.requestBinder Codecs.standard 1024 { params := [count] } {}).run intake =
        (.ok filled, after) ∧ filled.value? "count" = some (.json (.bool true))) ∧
      ¬(Argument.json (.bool true)).HasType .integer := by
  intro count intake
  have untyped : ¬(Argument.json (.bool true)).HasType .integer := by
    rintro (has | _)
    cases has
  have passes : ((Satisfier.requestBinder Codecs.standard 1024 { params := [count] } {}).run
      intake).1.toOption.any (fun filled => isTrue (filled.value? "count")) = true := by
    decide +kernel
  obtain ⟨filled, after, ran, flag⟩ := exists_run passes
  refine ⟨⟨filled, after, ran, ?_⟩, untyped⟩
  generalize filled.value? "count" = value at flag
  unfold isTrue at flag
  split at flag
  · rfl
  · cases flag

end Binding

end StreamHttp
