import StreamHttp.Proofs.Arguments.Order
import StreamHttp.Proofs.Exchange.Recording

/-!
Filling in what a route misses. A required parameter that nothing else was bound for gets the field
of its name from the body, where one is there that converts; what is bound already stays as it is.
The handler of a route is called exactly if every required parameter is bound then, and the first
one that is not is the one that is told.
-/

namespace StreamHttp

/-- What fields give for a parameter: its own one, if it is required and the field converts. -/
def Param.fromFields (fields : List (String × Json)) (param : Param) : Option Argument :=
  if param.required then
    (Json.findMember param.name fields).bind fun field =>
      ((Argument.ofField field).ofType param).toOption
  else none

namespace RouteSpec

def Complete (spec : RouteSpec) (arguments : Arguments) : Prop :=
  ∀ param ∈ spec.params, param.required = true → arguments.contains param.name = true

theorem missing_none_iff {spec : RouteSpec} {arguments : Arguments} :
    spec.params.find? (fun param => param.required && !arguments.contains param.name) = none ↔
      spec.Complete arguments := by
  simp only [List.find?_eq_none, Bool.and_eq_true, Bool.not_eq_true', not_and, Bool.not_eq_false]
  exact Iff.rfl

theorem is_fulfilled_iff {spec : RouteSpec} {arguments : Arguments} :
    spec.isFulfilled arguments = true ↔ spec.Complete arguments := by
  rw [isFulfilled, missing, List.isEmpty_iff, ← List.head?_eq_none_iff, List.head?_filter]
  exact missing_none_iff

end RouteSpec

namespace Engine

variable {σ : Type}

theorem value_bind_field (fields : List (String × Json)) (arguments : Arguments) (param : Param)
    (name : String) :
    (bindField fields arguments param).value? name =
      (arguments.value? name).or (if param.name = name then param.fromFields fields else none) := by
  have filled : bindField fields arguments param =
      if arguments.contains param.name then arguments
      else arguments.fill param.name (param.fromFields fields) := by
    unfold bindField Param.fromFields
    cases arguments.contains param.name with
    | true =>
        rw [Bool.or_true]
        rfl
    | false =>
        cases param.required with
        | false => rfl
        | true =>
            cases Json.findMember param.name fields with
            | none => rfl
            | some field =>
                dsimp only [Option.bind_some]
                cases (Argument.ofField field).ofType param with
                | error error => rfl
                | ok value => rfl
  rw [filled]
  unfold Arguments.contains
  by_cases same : param.name = name
  · subst same
    rw [if_pos rfl]
    cases held : arguments.value? param.name with
    | some value => exact held
    | none =>
        change (arguments.fill param.name _).value? param.name = _
        rw [Arguments.value_fill, if_pos rfl, held, Option.or_none, Option.none_or]
  · rw [if_neg same, Option.or_none]
    split
    · rfl
    · rw [Arguments.value_fill, if_neg (Ne.symm same)]

/-- Of the parameters with a name, the first one that its field converts for gives the value. -/
theorem value_bind_fields (fields : List (String × Json)) (params : List Param)
    (arguments : Arguments) (name : String) :
    (params.foldl (bindField fields) arguments).value? name =
      (arguments.value? name).or
        ((params.filter fun param => param.name == name).findSome? (Param.fromFields fields)) := by
  induction params generalizing arguments with
  | nil => exact (Option.or_none).symm
  | cons param params induction =>
      -- What the first parameter gets is there when the others are tried, so theirs comes behind.
      rw [List.foldl_cons, induction, value_bind_field, Option.or_assoc, List.filter_cons]
      by_cases same : param.name = name
      · rw [if_pos same, if_pos (beq_iff_eq.2 same), List.findSome?_cons]
        cases param.fromFields fields with
        | none => rfl
        | some value => rfl
      · rw [if_neg same, if_neg (fun equal => same (eq_of_beq equal)), Option.none_or]

/-- The fields that are there for what a route misses: those of a body that is told to be a form or
JSON, or was decoded before. -/
def offeredFields (engine : Engine σ) (exchange : Exchange σ) : List (String × Json) :=
  if exchange.head.contentType?.any (fun media => media.isForm || media.isJson) ||
      exchange.request.parsedBody.isSome then
    Json.fieldsOf (exchange.toIntake.decoded engine.codecs engine.settings.maxBufferedBody)
  else []

/-- What filling in makes of arguments, and leaves of an exchange. -/
structure FillsIn (engine : Engine σ) (spec : RouteSpec) (arguments filled : Arguments)
    (exchange after : Exchange σ) : Prop where
  kept : ∀ name value, arguments.value? name = some value → filled.value? name = some value
  added : ¬spec.Complete arguments → spec.claimsBody = false →
    exchange.head.permitsBody = true → ∀ name, arguments.value? name = none →
      filled.value? name = (spec.params.filter fun param => param.name == name).findSome?
        (Param.fromFields (engine.offeredFields exchange))
  untouched : spec.Complete arguments ∨ spec.claimsBody = true ∨
    exchange.head.permitsBody = false → filled = arguments ∧ after = exchange
  unreadable : ∀ error, exchange.toIntake.decoded engine.codecs engine.settings.maxBufferedBody =
    .error error → filled = arguments

theorem bind_offered_fields (engine : Engine σ) {spec : RouteSpec} {arguments : Arguments}
    {exchange : Exchange σ} (lacking : ¬spec.Complete arguments)
    (claims : spec.claimsBody = false) (permits : exchange.head.permitsBody = true) :
    ((engine.bindFromBody spec arguments).run exchange).1 =
      .ok (spec.params.foldl (bindField (engine.offeredFields exchange)) arguments) := by
  have guarded : mayHoldArguments spec arguments exchange.request =
      (!spec.isFulfilled arguments && !spec.claimsBody && exchange.head.permitsBody &&
        (exchange.head.contentType?.any (fun media => media.isForm || media.isJson) ||
          exchange.request.parsedBody.isSome)) := rfl
  have unfulfilled : spec.isFulfilled arguments = false :=
    Bool.eq_false_iff.2 fun fulfilled => lacking (RouteSpec.is_fulfilled_iff.1 fulfilled)
  rw [unfulfilled, claims, permits] at guarded
  rw [run_bind_from_body, guarded]
  unfold offeredFields
  cases exchange.head.contentType?.any (fun media => media.isForm || media.isJson) ||
      exchange.request.parsedBody.isSome with
  | true => rfl
  | false =>
      rw [if_neg Bool.false_ne_true, bind_no_fields]
      rfl

theorem bind_untouched (engine : Engine σ) {spec : RouteSpec} {arguments : Arguments}
    {exchange : Exchange σ}
    (idle : spec.Complete arguments ∨ spec.claimsBody = true ∨
      exchange.head.permitsBody = false) :
    (engine.bindFromBody spec arguments).run exchange = (.ok arguments, exchange) := by
  have holds : mayHoldArguments spec arguments exchange.request = false := by
    change (!spec.isFulfilled arguments && !spec.claimsBody && exchange.head.permitsBody && _) =
      false
    rcases idle with complete | claims | permits
    · rw [RouteSpec.is_fulfilled_iff.2 complete]
      rfl
    · rw [claims, Bool.not_true, Bool.and_false]
      rfl
    · rw [permits, Bool.and_false]
      rfl
  rw [run_bind_from_body, holds]
  rfl

theorem bind_from_body_fills (engine : Engine σ) (spec : RouteSpec) (arguments : Arguments)
    (exchange : Exchange σ) :
    ∃ filled after, (engine.bindFromBody spec arguments).run exchange = (.ok filled, after) ∧
      FillsIn engine spec arguments filled exchange after := by
  -- Whether the body is looked into or not, there are fields that are bound, maybe none.
  obtain ⟨fields, after, ran, unusable⟩ : ∃ fields after,
      (engine.bindFromBody spec arguments).run exchange =
        (.ok (spec.params.foldl (bindField fields) arguments), after) ∧
      ∀ error, exchange.toIntake.decoded engine.codecs engine.settings.maxBufferedBody =
        .error error → fields = [] := by
    rw [run_bind_from_body]
    split
    · refine ⟨_, _, rfl, fun error unread => ?_⟩
      rw [unread]
      rfl
    · exact ⟨[], exchange, by rw [bind_no_fields], fun _ _ => rfl⟩
  refine ⟨_, after, ran, ?_, ?_, ?_, ?_⟩
  · intro name value bound
    rw [value_bind_fields, bound]
    rfl
  · intro lacking claims permits name unbound
    have offered := engine.bind_offered_fields lacking claims permits
    rw [ran] at offered
    rw [Except.ok.inj offered, value_bind_fields, unbound, Option.none_or]
  · intro idle
    have same := ran.symm.trans (engine.bind_untouched idle)
    exact ⟨Except.ok.inj (congrArg Prod.fst same), congrArg Prod.snd same⟩
  · intro error unread
    rw [unusable error unread]
    exact bind_no_fields spec.params arguments

/-- Behind its arguments a route either names the first parameter that it misses, or answers. -/
theorem run_invoke (engine : Engine σ) (chosen : RouteMatch σ) (error : Option DispatchError)
    (ambient : Response) {exchange after : Exchange σ} {arguments filled : Arguments}
    {reached : Intake}
    (satisfied : (engine.satisfier chosen.route.spec chosen.arguments).run exchange.toIntake =
      (.ok arguments, reached))
    (bound : (engine.bindFromBody chosen.route.spec arguments).run
      { exchange with toIntake := reached } = (.ok filled, after)) :
    (engine.invoke chosen error ambient).run exchange =
      match chosen.route.spec.params.find? fun param =>
        param.required && !filled.contains param.name with
      | some param => (.error (.binding (.missing param.name)), after)
      | none =>
          (((chosen.route.answer filled error ambient).run after).1.map chosen.route.spec.decorate,
            ((chosen.route.answer filled error ambient).run after).2) := by
  have begun : (Attempt.ofBinding (engine.satisfier chosen.route.spec chosen.arguments)).run
      exchange = (.ok arguments, { exchange with toIntake := reached }) := by
    have tried : (Attempt.tryBinding (engine.satisfier chosen.route.spec chosen.arguments)).run
        exchange = (.ok (.ok arguments), { exchange with toIntake := reached }) := by
      change (let (result, intake) := (engine.satisfier _ _).run exchange.toIntake
        ((.ok result, { exchange with toIntake := intake }) : Except DispatchError _ × _)) = _
      rw [satisfied]
    unfold Attempt.ofBinding
    rw [Attempt.run_bind, tried]
    rfl
  rw [invoke_answer, Attempt.run_bind, begun]
  dsimp only
  rw [Attempt.run_bind, bound]
  dsimp only
  rw [RouteSpec.missing, List.head?_filter]
  cases chosen.route.spec.params.find? fun param =>
      param.required && !filled.contains param.name with
  | some param => rfl
  | none =>
      dsimp only
      rw [Attempt.run_bind]
      rcases (chosen.route.answer filled error ambient).run after with ⟨_ | response, behind⟩
      · rfl
      · rfl

/-- A handler that puts a mark before it runs puts it where nothing that is required is missing. -/
theorem recorded_invoke (engine : Engine σ) (chosen : RouteMatch σ) (error : Option DispatchError)
    (ambient : Response) (mark : RouteSpec → Mark) (log : List Mark)
    {exchange after : Exchange σ} {arguments filled : Arguments} {reached : Intake}
    (satisfied : (engine.satisfier chosen.route.spec chosen.arguments).run exchange.toIntake =
      (.ok arguments, reached))
    (bound : (engine.bindFromBody chosen.route.spec arguments).run
      { exchange with toIntake := reached } = (.ok filled, after)) :
    ((engine.recorded.invoke ⟨chosen.route.recorded mark, chosen.arguments⟩ error ambient).run
        (exchange.recording log)).2 =
      ((engine.invoke chosen error ambient).run exchange).2.recording
        (if (chosen.route.spec.params.find? fun param =>
            param.required && !filled.contains param.name).isNone then
          log ++ [mark chosen.route.spec]
        else log) := by
  have boundToo : (engine.recorded.bindFromBody chosen.route.spec arguments).run
      { exchange.recording log with toIntake := reached } = (.ok filled, after.recording log) := by
    rw [run_bind_from_body] at bound ⊢
    by_cases holds : mayHoldArguments chosen.route.spec arguments reached.request = true
    · rw [if_pos holds] at bound
      cases bound
      exact if_pos holds
    · rw [if_neg holds] at bound
      cases bound
      exact if_neg holds
  have satisfiedToo :
      (engine.recorded.satisfier (chosen.route.recorded mark).spec chosen.arguments).run
        (exchange.recording log).toIntake = (.ok arguments, reached) := satisfied
  have recorded := engine.recorded.run_invoke ⟨chosen.route.recorded mark, chosen.arguments⟩
    error ambient satisfiedToo boundToo
  have same : (chosen.route.recorded mark).spec = chosen.route.spec := rfl
  rw [recorded, run_invoke engine chosen error ambient satisfied bound]
  dsimp only
  rw [same]
  cases chosen.route.spec.params.find? fun param =>
      param.required && !filled.contains param.name with
  | some param => rfl
  | none =>
      obtain ⟨_, rfl, _, left, _⟩ := (chosen.route.recorded_follows mark).answer filled error
        ambient after.head after log rfl
      exact left

/-- A handler is called fully bound or not at all. Behind arguments that any satisfier gives, the
fields of the body are filled in, which leaves what is bound; then the handler is called with what
there is, and puts its mark, exactly if every required parameter is bound. If one is not, then the
first such one is named, and the exchange is left as filling in left it. -/
theorem invoked_fully_bound (engine : Engine σ) (chosen : RouteMatch σ)
    (error : Option DispatchError) (ambient : Response) (mark : RouteSpec → Mark)
    (log : List Mark) {exchange : Exchange σ} {arguments : Arguments} {reached : Intake}
    (satisfied : (engine.satisfier chosen.route.spec chosen.arguments).run exchange.toIntake =
      (.ok arguments, reached)) :
    let spec := chosen.route.spec
    let satisfied := { exchange with toIntake := reached }
    let passed := (engine.invoke chosen error ambient).run exchange
    let marked := (engine.recorded.invoke ⟨chosen.route.recorded mark, chosen.arguments⟩ error
      ambient).run (exchange.recording log)
    ∃ filled after,
      (engine.bindFromBody spec arguments).run satisfied = (.ok filled, after) ∧
      FillsIn engine spec arguments filled satisfied after ∧
      (spec.Complete filled →
        passed = (((chosen.route.answer filled error ambient).run after).1.map spec.decorate,
          ((chosen.route.answer filled error ambient).run after).2) ∧
        marked.2 = passed.2.recording (log ++ [mark spec])) ∧
      (¬spec.Complete filled →
        ∃ param, spec.params.find? (fun param =>
            param.required && !filled.contains param.name) = some param ∧
          passed = (.error (.binding (.missing param.name)), after) ∧
          marked.2 = passed.2.recording log) := by
  intro spec between passed marked
  obtain ⟨filled, after, bound, fills⟩ := engine.bind_from_body_fills spec arguments between
  have invoked : passed = _ := engine.run_invoke chosen error ambient satisfied bound
  have recorded : marked.2 = passed.2.recording _ :=
    engine.recorded_invoke chosen error ambient mark log satisfied bound
  refine ⟨filled, after, bound, fills, ?_, ?_⟩
  · intro all
    rw [RouteSpec.missing_none_iff.2 all] at invoked recorded
    exact ⟨invoked, recorded⟩
  · intro lacking
    cases missing : chosen.route.spec.params.find? fun param =>
        param.required && !filled.contains param.name with
    | none => exact absurd (RouteSpec.missing_none_iff.1 missing) lacking
    | some param =>
        rw [missing] at invoked recorded
        exact ⟨param, rfl, invoked, recorded⟩

def unsatisfying : Engine Unit where
  satisfier := fun _ arguments => pure arguments
  settings := { maxBufferedBody := 1024 }

def aged : RouteMatch Unit where
  route :=
    { spec := { params := [⟨"age", .query, .integer, true⟩] }
      handler := ExceptT.mk (.done (.ok (.text "grown"))) }

def postedPet (body : String) : Exchange Unit :=
  { Intake.ofBody (Head.make "POST" ⟨none, none, "/pets", none⟩
      (Headers.ofPairs [("Content-Type", "application/json")]))
      (Body.ofBytes (Bytes.ofString body)) with
    app := () }

/-- An age in the body calls the handler, a text that is none does not. -/
theorem invoked_fully_bound_age :
    let passed (body : String) := (unsatisfying.invoke aged none {}).run (postedPet body)
    let marked (body : String) := (unsatisfying.recorded.invoke
      ⟨aged.route.recorded .route, aged.arguments⟩ none {}).run ((postedPet body).recording [])
    (marked "\x7b\"age\": \"3\"\x7d").2.app.2 = [.route aged.route.spec] ∧
      (passed "\x7b\"age\": \"x\"\x7d").1 = .error (.binding (.missing "age")) ∧
      (marked "\x7b\"age\": \"x\"\x7d").2.app.2 = [] := by
  intro passed marked
  let age : Param := ⟨"age", .query, .integer, true⟩
  have satisfied (body : String) :
      (unsatisfying.satisfier aged.route.spec aged.arguments).run (postedPet body).toIntake =
        (.ok {}, (postedPet body).toIntake) := rfl
  have unbound : ¬aged.route.spec.Complete {} := fun all => nomatch all age List.mem_cons_self rfl
  have held (body : String) {filled : Arguments} {after : Exchange Unit}
      (fills : FillsIn unsatisfying aged.route.spec {} filled (postedPet body) after) :
      filled.contains "age" =
        (age.fromFields (unsatisfying.offeredFields (postedPet body))).isSome := by
    rw [Arguments.contains, fills.added unbound rfl rfl "age" rfl]
    exact congrArg Option.isSome List.findSome?_singleton
  have complete (body : String)
      (given : (age.fromFields (unsatisfying.offeredFields (postedPet body))).isSome = true) :
      (marked body).2.app.2 = [.route aged.route.spec] := by
    obtain ⟨filled, after, _, fills, answers, _⟩ :=
      unsatisfying.invoked_fully_bound aged none {} .route [] (satisfied body)
    have bound : filled.contains "age" = true := (held body fills).trans given
    obtain ⟨_, recorded⟩ := answers (List.forall_mem_singleton.2 fun _ => bound)
    exact congrArg (fun exchange => exchange.app.2) recorded
  have incomplete (body : String)
      (nothing : (age.fromFields (unsatisfying.offeredFields (postedPet body))).isSome = false) :
      (passed body).1 = .error (.binding (.missing "age")) ∧ (marked body).2.app.2 = [] := by
    obtain ⟨filled, after, _, fills, _, fails⟩ :=
      unsatisfying.invoked_fully_bound aged none {} .route [] (satisfied body)
    have absent : filled.contains "age" = false := (held body fills).trans nothing
    have lacking : ¬aged.route.spec.Complete filled :=
      fun all => Bool.false_ne_true (absent.symm.trans (all age List.mem_cons_self rfl))
    obtain ⟨param, first, failed, recorded⟩ := fails lacking
    have named : param = age := List.mem_singleton.1 (List.mem_of_find?_eq_some first)
    subst named
    exact ⟨congrArg Prod.fst failed, congrArg (fun exchange => exchange.app.2) recorded⟩
  exact ⟨complete _ (by decide +kernel), incomplete _ (by decide +kernel)⟩

end Engine

end StreamHttp
