import StreamHttp.Proofs.Exchange.Agreement
import StreamHttp.Proofs.Routing.Inclusion
import StreamHttp.Proofs.Routing.Selection

/-!
Which of two templates is more specific, when one matches all that the other does. It is the narrower
one, but for two catch-alls of which the narrower one has more variables: fewer variables come first,
and a route with the narrower template is never found beside the wider one. Where the narrower one
comes first, routes with the wider one change nothing at its paths. Templates that match the same
paths are equally specific, so their routes are only found together.
-/

namespace StreamHttp

/-- The order of two specificities of which the second has a catch-all if the first has, no more
literal text, and else more variables or the same. -/
theorem Specificity.precedes_iff_of_wider {left right : Specificity}
    (caught : left.catchAll = true → right.catchAll = true)
    (shorter : right.literalLength ≤ left.literalLength)
    (closed : right.catchAll = false → left.variableCount ≤ right.variableCount ∧
      (left.variableCount = right.variableCount → left.literalLength = right.literalLength))
    (differs : left ≠ right) :
    left.precedes right = true ↔ ¬(left.catchAll = true ∧ right.catchAll = true ∧
      right.variableCount < left.variableCount) := by
  obtain ⟨leftAll, leftCount, leftLength⟩ := left
  obtain ⟨rightAll, rightCount, rightLength⟩ := right
  simp only [ne_eq, mk.injEq] at caught shorter closed differs
  cases leftAll <;> cases rightAll
  case false.true => simp [precedes]
  case true.false => simp at caught
  case false.false =>
    obtain ⟨fewer, same⟩ := closed rfl
    have strict : leftCount < rightCount := by
      refine lt_of_le_of_ne fewer fun equal => differs ⟨rfl, equal, same equal⟩
    simp [precedes, strict, strict.ne]
  case true.true =>
    by_cases equal : leftCount = rightCount
    · have strict : rightLength < leftLength :=
        lt_of_le_of_ne shorter fun equal' => differs ⟨rfl, equal, equal'.symm⟩
      simp [precedes, equal, strict]
    · simp [precedes, equal]
      omega

namespace Template

def weight (segments : List Segment) : Specificity := (mk "" segments).specificity

/-- Both templates have a catch-all, and the first one has more variables before it. -/
def Overtaken (first second : Template) : Prop :=
  first.specificity.catchAll = true ∧ second.specificity.catchAll = true ∧
    second.specificity.variableCount < first.specificity.variableCount

variable {segments others : List Segment} {text name : String}

@[simp] theorem weight_nil : weight [] = ⟨false, 0, 0⟩ := rfl

@[simp] theorem weight_literal :
    weight (.literal text :: segments) =
      { weight segments with
        literalLength := text.utf8ByteSize + 1 + (weight segments).literalLength } := by
  simp [weight, specificity, literalLength]

@[simp] theorem weight_one :
    weight (.variable name :: segments) =
      { weight segments with variableCount := (weight segments).variableCount + 1 } := by
  simp [weight, specificity, literalLength]

@[simp] theorem weight_all :
    weight (.catchAll name :: segments) = { weight segments with catchAll := true } := by
  simp [weight, specificity, literalLength]

theorem narrower_weight (narrower : Narrower segments others) :
    ((weight segments).catchAll = true → (weight others).catchAll = true) ∧
      (weight others).literalLength ≤ (weight segments).literalLength := by
  induction narrower with
  | nil => exact ⟨id, le_refl _⟩
  | literal text rest induction => simpa using induction
  | @one segment name _ _ single rest induction =>
      obtain ⟨caught, shorter⟩ := induction
      cases segment with
      | literal text => exact ⟨by simpa using caught, by simp; omega⟩
      | «variable» other => simpa using ⟨caught, shorter⟩
      | catchAll other => exact absurd rfl (single other)
  | all segments name => simp

/-- Without a catch-all, a wider template has more variables or the same segments but for names. -/
theorem narrower_weight_closed (narrower : Narrower segments others)
    (closed : (weight others).catchAll = false) :
    (weight segments).variableCount ≤ (weight others).variableCount ∧
      ((weight segments).variableCount = (weight others).variableCount →
        (weight segments).literalLength = (weight others).literalLength) := by
  induction narrower with
  | nil => exact ⟨le_refl _, fun _ => rfl⟩
  | literal text rest induction => simpa using induction (by simpa using closed)
  | @one segment name _ _ single rest induction =>
      obtain ⟨fewer, same⟩ := induction (by simpa using closed)
      cases segment with
      | literal text =>
          simp only [weight_literal, weight_one]
          exact ⟨by omega, fun equal => by omega⟩
      | «variable» other => simpa using ⟨fewer, same⟩
      | catchAll other => exact absurd rfl (single other)
  | all segments name => simp at closed

theorem eq_all_of_weight (last : EndsOpen segments) (same : weight segments = ⟨true, 0, 0⟩) :
    ∃ name, segments = [.catchAll name] := by
  cases segments with
  | nil => cases same
  | cons segment segments =>
      cases segment with
      | literal text => simp at same
      | «variable» name => simp at same
      | catchAll name =>
          obtain rfl := (ends_open_cons.1 last).1 name rfl
          exact ⟨name, rfl⟩

/-- A wider template that is as specific is no wider. -/
theorem narrower_back (last : EndsOpen segments) (narrower : Narrower segments others)
    (same : weight segments = weight others) : Narrower others segments := by
  induction narrower with
  | nil => exact .nil
  | @literal text segments others rest induction =>
      obtain ⟨_, later⟩ := ends_open_cons.1 last
      refine .literal text (induction later ?_)
      cases left : weight segments
      cases right : weight others
      simpa [left, right] using same
  | @one segment name segments others single rest induction =>
      obtain ⟨_, later⟩ := ends_open_cons.1 last
      obtain ⟨_, shorter⟩ := narrower_weight rest
      cases segment with
      | literal text =>
          have lengths := congrArg Specificity.literalLength same
          simp only [weight_literal, weight_one] at lengths
          omega
      | «variable» other =>
          refine .one other (fun _ => nofun) (induction later ?_)
          cases left : weight segments
          cases right : weight others
          simpa [left, right] using same
      | catchAll other => exact absurd rfl (single other)
  | all segments name =>
      obtain ⟨other, rfl⟩ := eq_all_of_weight last (by simpa using same)
      exact .all [.catchAll name] other

theorem weight_eq (narrower : Narrower segments others) (wider : Narrower others segments) :
    weight segments = weight others := by
  induction narrower with
  | nil => rfl
  | literal text rest induction =>
      cases wider with
      | literal _ back => simp [induction back]
  | @one segment name _ _ single rest induction =>
      cases wider with
      | one other _ back => simp [induction back]
      | all _ other => exact absurd rfl (single other)
  | all segments name =>
      cases wider with
      | one _ single _ => exact absurd rfl (single name)
      | all _ other => simp

theorem precedes_iff_not_overtaken {first second : Template} (last : EndsOpen first.segments)
    (narrower : Narrower first.segments second.segments)
    (strict : ¬Narrower second.segments first.segments) :
    first.specificity.precedes second.specificity = true ↔ ¬first.Overtaken second := by
  obtain ⟨caught, shorter⟩ := narrower_weight narrower
  exact Specificity.precedes_iff_of_wider caught shorter (narrower_weight_closed narrower)
    fun same => strict (narrower_back last narrower same)

end Template

namespace RouteTable

variable {σ : Type} {method : Method} {path : String}

theorem find_iff_selected {table : RouteTable σ} {candidates : List (RouteMatch σ)} :
    table.find method path = .found candidates ↔ candidates ≠ [] ∧
      candidates = (selectedOrGet table.routes method path).map (Route.matched path) := by
  rw [find_lookup]
  exact found_iff_selected

theorem exists_selected {table : RouteTable σ} {candidates : List (RouteMatch σ)}
    (found : table.find method path = .found candidates) :
    ∃ own, candidates = (selected table.routes own path).map (Route.matched path) := by
  obtain ⟨_, rfl⟩ := find_iff_selected.1 found
  unfold selectedOrGet
  split
  · exact ⟨"GET", rfl⟩
  · exact ⟨method, rfl⟩

theorem mem_selected {routes : List (Route σ)} {route : Route σ} :
    route ∈ selected routes method path ↔ (route ∈ routes ∧ route.Answers method path) ∧
      ∀ other ∈ routes, other.Answers method path → route.rank ≤ other.rank := by
  simp only [selected, mem_least_of, List.mem_filter, decide_eq_true_eq, and_imp]

theorem find_congr {table other : RouteTable σ} {candidates : List (RouteMatch σ)}
    (same : ∀ method, selected table.routes method path = selected other.routes method path) :
    table.find method path = .found candidates ↔ other.find method path = .found candidates := by
  simp only [find_iff_selected, selectedOrGet, same]

/-- No route with a template that matches the path is more specific than what is found for its method. -/
theorem found_least {table : RouteTable σ} {candidates : List (RouteMatch σ)}
    (found : table.find method path = .found candidates) {chosen : RouteMatch σ}
    (member : chosen ∈ candidates) :
    (bindings? path chosen.route.spec).isSome = true ∧
      ∀ route ∈ table.routes, route.spec.method = chosen.route.spec.method →
        (bindings? path route.spec).isSome = true → chosen.route.rank ≤ route.rank := by
  obtain ⟨own, rfl⟩ := exists_selected found
  obtain ⟨route, among, rfl⟩ := List.mem_map.1 member
  obtain ⟨⟨_, answers⟩, least⟩ := mem_selected.1 among
  exact ⟨answers.2, fun other listed same matched =>
    least other listed ⟨same.trans answers.1, matched⟩⟩

theorem selected_insert {front back : List (Route σ)} {route other : Route σ}
    (listed : route ∈ front ++ back) (same : route.spec.method = other.spec.method)
    (matched : (bindings? path route.spec).isSome = true) (behind : route.rank < other.rank)
    (method : Method) :
    selected (front ++ other :: back) method path = selected (front ++ back) method path := by
  unfold selected
  rw [List.filter_append, List.filter_append, List.filter_cons]
  split
  next answers =>
    have own : other.Answers method path := by simpa using answers
    have among : route ∈ front.filter (fun route => route.Answers method path) ++
        back.filter fun route => route.Answers method path := by
      rw [← List.filter_append]
      exact List.mem_filter.2 ⟨listed, decide_eq_true ⟨same.trans own.1, matched⟩⟩
    exact least_of_insert among behind
  next => rfl

theorem found_together {table : RouteTable σ} {candidates : List (RouteMatch σ)}
    (found : table.find method path = .found candidates) {route other : Route σ}
    (registered : [route, other].Sublist table.routes)
    (same : route.spec.method = other.spec.method)
    (matched : (bindings? path route.spec).isSome = true ↔
      (bindings? path other.spec).isSome = true) (ranked : route.rank = other.rank)
    {chosen : RouteMatch σ} (member : chosen ∈ candidates)
    (either : chosen.route = route ∨ chosen.route = other) :
    [route.matched path, other.matched path].Sublist candidates := by
  obtain ⟨own, rfl⟩ := exists_selected found
  obtain ⟨item, among, rfl⟩ := List.mem_map.1 member
  have chosen : (route.Answers own path ∧ other.Answers own path) ∧
      ∀ next ∈ table.routes, next.Answers own path → route.rank ≤ next.rank := by
    obtain ⟨⟨_, answers⟩, least⟩ := mem_selected.1 among
    rcases either with rfl | rfl
    · exact ⟨⟨answers, same ▸ answers.1, matched.1 answers.2⟩, least⟩
    · exact ⟨⟨⟨same ▸ answers.1, matched.2 answers.2⟩, answers⟩, ranked ▸ least⟩
  obtain ⟨⟨first, second⟩, least⟩ := chosen
  have kept : [route, other].Sublist (selected table.routes own path) := by
    have answering := registered.filter fun route => decide (route.Answers own path)
    rw [List.filter_eq_self.2 (by simp [first, second])] at answering
    refine sublist_least_of answering fun item listed next among => ?_
    obtain ⟨among, answers⟩ := List.mem_filter.1 among
    have below := least next among (of_decide_eq_true answers)
    rcases List.mem_pair.1 listed with rfl | rfl
    · exact below
    · exact ranked ▸ below
  exact kept.map (Route.matched path)

end RouteTable

theorem Engine.resolve_duplicate {σ : Type} (engine : Engine σ) (exchange : Exchange σ)
    {candidates : List (RouteMatch σ)}
    (found : engine.table.find exchange.head.method exchange.head.path = .found candidates)
    (several : 1 < candidates.length) :
    engine.resolve.run exchange =
      (.error (.duplicateRoute exchange.head.path
        (candidates.map fun found => found.route.spec.describe)), exchange) := by
  have begun : (Attempt.request : Attempt σ Request).run exchange =
      (.ok exchange.request, exchange) := rfl
  change engine.table.find exchange.request.head.method exchange.request.head.path = _ at found
  unfold resolve
  rw [Attempt.run_bind, begun]
  simp only [found]
  match candidates, several with
  | _ :: _ :: _, _ => rfl

namespace Template

/-- Beside a route with the second template, none of its method with the first is ever found. -/
def HiddenBy (first second : Template) : Prop :=
  ∀ (σ : Type) (table : RouteTable σ) (method : Method) (path : String)
    (candidates : List (RouteMatch σ)),
    table.find method path = .found candidates →
      ∀ chosen ∈ candidates, chosen.route.spec.template = some first →
        ∀ other ∈ table.routes, other.spec.template = some second →
          other.spec.method ≠ chosen.route.spec.method

/-- Where a route with the first template matches, one more route of its method with the second
template changes nothing of what is found. -/
def Withstands (first second : Template) : Prop :=
  ∀ (σ : Type) (table : RouteTable σ) (front back : List (Route σ)) (route other : Route σ)
    (method : Method) (path : String) (candidates : List (RouteMatch σ)),
    route ∈ front ++ back → route.spec.template = some first →
      other.spec.template = some second → route.spec.method = other.spec.method →
        (first.match? path).isSome = true →
          ({ table with routes := front ++ other :: back }.find method path = .found candidates ↔
            { table with routes := front ++ back }.find method path = .found candidates)

/-- Routes of one method with the templates are only found together, as duplicates. -/
def Collide (first second : Template) : Prop :=
  ∀ (σ : Type) (engine : Engine σ) (exchange : Exchange σ) (route other : Route σ)
    (candidates : List (RouteMatch σ)),
    [route, other].Sublist engine.table.routes → route.spec.template = some first →
      other.spec.template = some second → route.spec.method = other.spec.method →
        engine.table.find exchange.head.method exchange.head.path = .found candidates →
          (∃ chosen ∈ candidates, chosen.route = route ∨ chosen.route = other) →
            [route.matched exchange.head.path, other.matched exchange.head.path].Sublist
                candidates ∧
              engine.resolve.run exchange =
                (.error (.duplicateRoute exchange.head.path
                  (candidates.map fun found => found.route.spec.describe)), exchange)

variable {first second : Template}

theorem rank_some {σ : Type} {route : Route σ} {template : Template}
    (isTemplate : route.spec.template = some template) :
    route.rank = template.specificity.rank := by
  rw [Route.rank, isTemplate]

theorem bindings_some {σ : Type} {route : Route σ} {template : Template} {path : String}
    (isTemplate : route.spec.template = some template) :
    (RouteTable.bindings? path route.spec).isSome = (template.match? path).isSome := by
  rw [RouteTable.bindings?, isTemplate, Option.bind_some]

theorem hidden_by (within : first.Within second)
    (behind : second.specificity.precedes first.specificity = true) : first.HiddenBy second := by
  intro σ table method path candidates found chosen member isFirst other listed isSecond same
  obtain ⟨matched, least⟩ := RouteTable.found_least found member
  rw [bindings_some isFirst] at matched
  have below := least other listed same (by rw [bindings_some isSecond]; exact within path matched)
  rw [rank_some isFirst, rank_some isSecond, WithTop.coe_le_coe] at below
  exact not_le.2 (Specificity.precedes_iff.1 behind) below

theorem withstands (ahead : first.specificity.precedes second.specificity = true) :
    first.Withstands second := by
  intro σ table front back route other method path candidates listed isFirst isSecond same matched
  have before : route.rank < other.rank := by
    rw [rank_some isFirst, rank_some isSecond, WithTop.coe_lt_coe]
    exact Specificity.precedes_iff.1 ahead
  rw [← bindings_some isFirst] at matched
  exact RouteTable.find_congr (RouteTable.selected_insert listed same matched before)

theorem collide (within : first.Within second) (back : second.Within first)
    (ranked : first.specificity = second.specificity) : first.Collide second := by
  intro σ engine exchange route other candidates registered isFirst isSecond same found either
  obtain ⟨chosen, member, either⟩ := either
  have matched : (RouteTable.bindings? exchange.head.path route.spec).isSome = true ↔
      (RouteTable.bindings? exchange.head.path other.spec).isSome = true := by
    rw [bindings_some isFirst, bindings_some isSecond]
    exact ⟨within _, back _⟩
  have equal : route.rank = other.rank := by
    rw [rank_some isFirst, rank_some isSecond, ranked]
  have both := RouteTable.found_together found registered same matched equal member either
  exact ⟨both, engine.resolve_duplicate exchange found both.length_le⟩

/-- Where one template matches strictly less than another, it comes first, unless both have a
catch-all and it has more variables: then it comes behind, and routes with it are never found beside
the other's. Templates that match the same are equally specific, and their routes are duplicates. -/
theorem included_precedes {firstSource secondSource : String}
    (firstRead : parse firstSource = .ok first) (secondRead : parse secondSource = .ok second)
    (within : first.Within second) :
    (¬second.Within first →
        (first.specificity.precedes second.specificity = true ↔ ¬first.Overtaken second) ∧
        (¬first.Overtaken second → first.Withstands second) ∧
        (first.Overtaken second →
          second.specificity.precedes first.specificity = true ∧ first.HiddenBy second)) ∧
      (second.Within first →
        first.specificity = second.specificity ∧ first.Collide second) := by
  have narrower := (within_iff_narrower firstRead secondRead).1 within
  constructor
  · intro strict
    rw [within_iff_narrower secondRead firstRead] at strict
    have order := precedes_iff_not_overtaken (parse_denoted firstRead).2 narrower strict
    refine ⟨order, fun ahead => withstands (order.2 ahead), fun overtaken => ?_⟩
    have behind : second.specificity.precedes first.specificity = true := by
      obtain ⟨firstAll, secondAll, more⟩ := overtaken
      simp [Specificity.precedes, firstAll, secondAll, more, more.ne]
    exact ⟨behind, hidden_by within behind⟩
  · intro back
    have same : first.specificity = second.specificity :=
      weight_eq narrower ((within_iff_narrower secondRead firstRead).1 back)
    exact ⟨same, collide within back same⟩

/-- A literal in the place of a variable, and a variable by another name. -/
theorem included_precedes_pets :
    let mine : Template := ⟨"/pets/mine", [.literal "pets", .literal "mine"]⟩
    let byId : Template := ⟨"/pets/{id}", [.literal "pets", .variable "id"]⟩
    let byName : Template := ⟨"/pets/{name}", [.literal "pets", .variable "name"]⟩
    parse "/pets/mine" = .ok mine ∧ parse "/pets/{id}" = .ok byId ∧
      parse "/pets/{name}" = .ok byName ∧ mine.Within byId ∧ ¬byId.Within mine ∧
      mine.specificity.precedes byId.specificity = true ∧ mine.Withstands byId ∧
      byId.Within byName ∧ byName.Within byId ∧ byId.Collide byName := by
  intro mine byId byName
  have readMine : parse "/pets/mine" = .ok mine := by decide +kernel
  have readId : parse "/pets/{id}" = .ok byId := by decide +kernel
  have readName : parse "/pets/{name}" = .ok byName := by decide +kernel
  have within : mine.Within byId :=
    (within_iff_narrower readMine readId).2 (.literal "pets" (.one "id" (fun _ => nofun) .nil))
  have strict : ¬byId.Within mine := by
    intro back
    have matched := back "/pets/7" (by decide +kernel)
    revert matched
    decide +kernel
  have renamed : byId.Within byName :=
    (within_iff_narrower readId readName).2 (.literal "pets" (.one "name" (fun _ => nofun) .nil))
  have back : byName.Within byId :=
    (within_iff_narrower readName readId).2 (.literal "pets" (.one "id" (fun _ => nofun) .nil))
  obtain ⟨order, stays, _⟩ := (included_precedes readMine readId within).1 strict
  have ahead : ¬mine.Overtaken byId := fun overtaken => absurd overtaken.1 (by decide)
  have together := (included_precedes readId readName renamed).2 back
  exact ⟨readMine, readId, readName, within, strict, order.2 ahead, stays ahead, renamed, back,
    together.2⟩

/-- A catch-all behind a variable matches less than one alone, yet does not come before it: where
both match, only the route with the wider template is found. -/
theorem nested_catch_all_overtaken :
    let nested : Template := ⟨"/{id}/{*rest}", [.variable "id", .catchAll "rest"]⟩
    let alone : Template := ⟨"/{*rest}", [.catchAll "rest"]⟩
    let table : RouteTable Unit :=
      { routes := [RouteTable.bare "GET" "/{id}/{*rest}", RouteTable.bare "GET" "/{*rest}"] }
    parse "/{id}/{*rest}" = .ok nested ∧ parse "/{*rest}" = .ok alone ∧ nested.Within alone ∧
      ¬alone.Within nested ∧ nested.specificity.precedes alone.specificity = false ∧
      (nested.match? "/a/b").isSome = true ∧
      (table.bestMatches "GET" "/a/b").map (fun found => found.route.spec.describe) =
        ["GET /{*rest}"] := by
  intro nested alone table
  have readNested : parse "/{id}/{*rest}" = .ok nested := by decide +kernel
  have readAlone : parse "/{*rest}" = .ok alone := by decide +kernel
  have within : nested.Within alone :=
    (within_iff_narrower readNested readAlone).2 (.all nested.segments "rest")
  have strict : ¬alone.Within nested := by
    intro back
    have matched := back "/" (by decide +kernel)
    revert matched
    decide +kernel
  exact ⟨readNested, readAlone, within, strict, by decide +kernel, by decide +kernel,
    by decide +kernel⟩

end Template

end StreamHttp
