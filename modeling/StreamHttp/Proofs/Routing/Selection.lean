import Mathlib.Data.List.MinMax
import Mathlib.Data.Prod.Lex
import StreamHttp.Proofs.Routing.Table
import StreamHttp.Proofs.Text.Words

/-!
Which routes a table finds: of the routes of a method whose template matches the path, all that are
most specific, in the order of their registration. The scan of the table keeps the most specific
routes seen so far, so the order of registration does not tell which routes these are.
-/

namespace StreamHttp

namespace Specificity

/-- The place of a specificity in their order: catch-alls come last, then fewer variables come
first, then more literal text. -/
def rank (specificity : Specificity) : Bool ×ₗ ℕ ×ₗ ℕᵒᵈ :=
  toLex (specificity.catchAll,
    toLex (specificity.variableCount, OrderDual.toDual specificity.literalLength))

theorem precedes_iff {left right : Specificity} :
    left.precedes right = true ↔ left.rank < right.rank := by
  obtain ⟨leftAll, leftCount, leftLength⟩ := left
  obtain ⟨rightAll, rightCount, rightLength⟩ := right
  simp only [precedes, rank, Prod.Lex.toLex_lt_toLex, Bool.lt_iff, OrderDual.toDual_lt_toDual]
  cases leftAll <;> cases rightAll <;> simp
  all_goals
    split
    · omega
    · simp
      omega

end Specificity

section

variable {α β : Type} [LinearOrder β] {rank : α → β} {list : List α}

/-- The members of a list whose rank is least, in their order. -/
def leastOf (rank : α → β) (list : List α) : List α :=
  list.filter fun item => ∀ other ∈ list, rank item ≤ rank other

theorem mem_least_of {item : α} :
    item ∈ leastOf rank list ↔ item ∈ list ∧ ∀ other ∈ list, rank item ≤ rank other := by
  simp only [leastOf, List.mem_filter, decide_eq_true_eq]

theorem least_of_ne_nil (filled : list ≠ []) : leastOf rank list ≠ [] := by
  obtain ⟨least, found⟩ := Option.ne_none_iff_exists'.1 fun none =>
    filled ((List.argmin_eq_none (f := rank)).1 none)
  have member : least ∈ leastOf rank list :=
    mem_least_of.2 ⟨List.argmin_mem found, fun _ listed => List.le_of_mem_argmin listed found⟩
  exact List.ne_nil_of_mem member

/-- What one more member at the end makes of the members of least rank, given one of them. -/
theorem least_of_snoc {leader : α} (leads : leader ∈ leastOf rank list) (item : α) :
    leastOf rank (list ++ [item]) =
      if rank leader < rank item then leastOf rank list
      else if rank item < rank leader then [item]
      else leastOf rank list ++ [item] := by
  obtain ⟨listed, least⟩ := mem_least_of.1 leads
  have split : leastOf rank (list ++ [item]) =
      list.filter (fun other => (∀ next ∈ list, rank other ≤ rank next) ∧ rank other ≤ rank item) ++
        [item].filter (fun other => rank other ≤ rank leader) := by
    have alone : (∀ next ∈ list, rank item ≤ rank next) ↔ rank item ≤ rank leader :=
      ⟨fun below => below leader listed, fun below next member => below.trans (least next member)⟩
    simp only [leastOf, List.filter_append, List.forall_mem_append, List.forall_mem_singleton,
      List.filter_cons, List.filter_nil, le_refl, and_true, alone]
  have kept (reaches : rank leader ≤ rank item) :
      list.filter (fun other => (∀ next ∈ list, rank other ≤ rank next) ∧ rank other ≤ rank item) =
        leastOf rank list := by
    refine List.filter_congr fun other _ => ?_
    simp only [decide_eq_decide, and_iff_left_iff_imp]
    exact fun below => (below leader listed).trans reaches
  rw [split]
  split_ifs with before behind
  · rw [kept before.le, List.filter_cons_of_neg (by simpa using before), List.filter_nil,
      List.append_nil]
  · have none : list.filter
        (fun other => (∀ next ∈ list, rank other ≤ rank next) ∧ rank other ≤ rank item) = [] :=
      List.filter_eq_nil_iff.2 fun other member both =>
        not_le.2 behind ((least other member).trans (of_decide_eq_true both).2)
    rw [none, List.filter_cons_of_pos (by simpa using behind.le), List.filter_nil, List.nil_append]
  · rw [kept (not_lt.1 behind), List.filter_cons_of_pos (by simpa using before), List.filter_nil]

theorem least_of_map {γ δ : Type} [LinearOrder δ] {other : γ → δ} {image : α → γ}
    (alike : ∀ first ∈ list, ∀ second ∈ list,
      other (image first) ≤ other (image second) ↔ rank first ≤ rank second) :
    leastOf other (list.map image) = (leastOf rank list).map image := by
  rw [leastOf, leastOf, List.filter_map]
  refine congrArg (List.map image) (List.filter_congr fun first member => ?_)
  simp only [Function.comp_apply, decide_eq_decide, List.forall_mem_map]
  exact forall₂_congr fun second listed => alike first member second listed

theorem sublist_least_of {kept : List α} (listed : kept.Sublist list)
    (least : ∀ item ∈ kept, ∀ other ∈ list, rank item ≤ rank other) :
    kept.Sublist (leastOf rank list) := by
  have whole := listed.filter fun item => decide (∀ other ∈ list, rank item ≤ rank other)
  rwa [List.filter_eq_self.2 fun item member => decide_eq_true (least item member)] at whole

theorem least_of_insert {front back : List α} {item better : α}
    (listed : better ∈ front ++ back) (behind : rank better < rank item) :
    leastOf rank (front ++ item :: back) = leastOf rank (front ++ back) := by
  have member {other : α} : other ∈ front ++ item :: back ↔ other = item ∨ other ∈ front ++ back := by
    simp only [List.mem_append, List.mem_cons]
    tauto
  have alike : ∀ other, (∀ next ∈ front ++ item :: back, rank other ≤ rank next) ↔
      ∀ next ∈ front ++ back, rank other ≤ rank next := by
    intro other
    constructor
    · exact fun below next among => below next (member.2 (.inr among))
    · intro below next among
      rcases member.1 among with rfl | among
      · exact (below better listed).trans behind.le
      · exact below next among
  have dropped : ¬∀ next ∈ front ++ back, rank item ≤ rank next :=
    fun below => not_le.2 behind (below better listed)
  unfold leastOf
  simp only [alike, List.filter_append]
  rw [List.filter_cons_of_neg (by simpa using dropped)]

end

variable {σ : Type}

namespace Route

/-- Whether a route is for the method, and its template matches the path. -/
def Answers (method : Method) (path : String) (route : Route σ) : Prop :=
  route.spec.method = some method ∧ (RouteTable.bindings? path route.spec).isSome

instance (method : Method) (path : String) : DecidablePred (Answers (σ := σ) method path) :=
  fun _ => instDecidableAnd

def rank (route : Route σ) : WithTop (Bool ×ₗ ℕ ×ₗ ℕᵒᵈ) :=
  match route.spec.template with
  | some template => template.specificity.rank
  | none => ⊤

def matched (path : String) (route : Route σ) : RouteMatch σ :=
  ⟨route, Arguments.ofTexts ((RouteTable.bindings? path route.spec).getD [])⟩

end Route

namespace RouteTable

/-- The most specific of the routes that answer a method at a path. -/
def selected (routes : List (Route σ)) (method : Method) (path : String) : List (Route σ) :=
  leastOf Route.rank (routes.filter fun route => route.Answers method path)

def selectedOrGet (routes : List (Route σ)) (method : Method) (path : String) : List (Route σ) :=
  if selected routes method path = [] ∧ method = "HEAD" then selected routes "GET" path
  else selected routes method path

def methodsOn (routes : List (Route σ)) (path : String) : List Method :=
  ((routes.filter fun route => (bindings? path route.spec).isSome).filterMap
    fun route => route.spec.method).eraseDups

def lookup (routes : List (Route σ)) (method : Method) (path : String) : RouteLookup σ :=
  match selectedOrGet routes method path, methodsOn routes path with
  | [], [] => .notFound
  | [], allowed => .methodNotAllowed allowed
  | chosen, _ => .found (chosen.map (Route.matched path))

theorem consider_least (seen : List (Candidate σ)) (candidate : Candidate σ) :
    consider (leastOf (·.specificity.rank) seen) candidate =
      leastOf (·.specificity.rank) (seen ++ [candidate]) := by
  cases seen with
  | nil => simp [consider, leastOf]
  | cons first rest =>
      cases best : leastOf (·.specificity.rank) (first :: rest) with
      | nil => exact absurd best (least_of_ne_nil (List.cons_ne_nil _ _))
      | cons leader others =>
          have leads : leader ∈ leastOf (·.specificity.rank) (first :: rest) :=
            best ▸ List.mem_cons_self
          rw [least_of_snoc leads, best]
          simp only [consider, Specificity.precedes_iff]

theorem foldl_consider (candidates : List (Candidate σ)) :
    candidates.foldl consider [] = leastOf (·.specificity.rank) candidates := by
  induction candidates using List.reverseRecOn with
  | nil => rfl
  | append_singleton seen candidate induction =>
      rw [List.foldl_append, induction, List.foldl_cons, List.foldl_nil, consider_least]

section

variable {method : Method} {path : String} {routes : List (Route σ)}

theorem candidate_some {route : Route σ} {candidate : Candidate σ}
    (found : candidate? method path route = some candidate) :
    route.Answers method path ∧ candidate.route = route ∧
      bindings? path route.spec = some candidate.bindings ∧
      route.rank = candidate.specificity.rank := by
  unfold candidate? at found
  split at found
  next own template isOwn isTemplate =>
    split at found
    next same =>
      obtain ⟨bindings, bound, rfl⟩ := Option.map_eq_some_iff.1 found
      have bound : bindings? path route.spec = some bindings := by
        rw [bindings?, isTemplate, Option.bind_some, bound]
      have ranked : route.rank = template.specificity.rank := by
        rw [Route.rank, isTemplate]
      exact ⟨⟨isOwn.trans (congrArg some (eq_of_beq same)), Option.isSome_of_eq_some bound⟩, rfl,
        bound, ranked⟩
    next => cases found
  next => cases found

theorem candidate_none {route : Route σ} (none : candidate? method path route = none) :
    ¬route.Answers method path := by
  rintro ⟨isOwn, fits⟩
  obtain ⟨bindings, bound⟩ := Option.isSome_iff_exists.1 fits
  obtain ⟨template, isTemplate, bound⟩ := Option.bind_eq_some_iff.1 bound
  simp only [candidate?, isOwn, isTemplate, bound, beq_self_eq_true, if_true, Option.map_some,
    reduceCtorEq] at none

theorem candidates_routes :
    (routes.filterMap (candidate? method path)).map (·.route) =
      routes.filter fun route => route.Answers method path := by
  induction routes with
  | nil => rfl
  | cons route rest induction =>
      cases found : candidate? method path route with
      | none =>
          rw [List.filterMap_cons_none found, induction,
            List.filter_cons_of_neg (by simpa using candidate_none found)]
      | some candidate =>
          obtain ⟨answers, same, _, _⟩ := candidate_some found
          rw [List.filterMap_cons_some found, List.map_cons, induction, same,
            List.filter_cons_of_pos (by simpa using answers)]

theorem best_matches_selected (table : RouteTable σ) :
    table.bestMatches method path =
      (selected table.routes method path).map (Route.matched path) := by
  have ranked : ∀ candidate ∈ table.routes.filterMap (candidate? method path),
      candidate.route.rank = candidate.specificity.rank := by
    intro candidate listed
    obtain ⟨route, _, found⟩ := List.mem_filterMap.1 listed
    obtain ⟨_, rfl, _, ranked⟩ := candidate_some found
    exact ranked
  have chosen : selected table.routes method path =
      (leastOf (·.specificity.rank) (table.routes.filterMap (candidate? method path))).map
        (·.route) := by
    rw [selected, ← candidates_routes]
    refine least_of_map fun first member second listed => ?_
    rw [ranked first member, ranked second listed, WithTop.coe_le_coe]
  rw [bestMatches, foldl_consider, chosen, List.map_map]
  refine List.map_congr_left fun candidate member => ?_
  obtain ⟨route, _, found⟩ := List.mem_filterMap.1 (mem_least_of.1 member).1
  obtain ⟨_, rfl, bound, _⟩ := candidate_some found
  simp only [Function.comp_apply, Route.matched, bound, Option.getD_some]

theorem allowed_methods_on (table : RouteTable σ) (path : String) :
    table.allowedMethods path = methodsOn table.routes path := by
  unfold allowedMethods
  induction table.routes using List.reverseRecOn with
  | nil => rfl
  | append_singleton seen route induction =>
      rw [List.foldl_append, induction, List.foldl_cons, List.foldl_nil]
      cases isOwn : route.spec.method with
      | none => simp [methodsOn, List.filter_cons, isOwn, apply_ite]
      | some method =>
          cases bound : bindings? path route.spec with
          | none => simp [methodsOn, bound]
          | some bindings =>
              have further : methodsOn (seen ++ [route]) path =
                  (((seen.filter fun route => (bindings? path route.spec).isSome).filterMap
                    fun route => route.spec.method) ++ [method]).eraseDups := by
                simp [methodsOn, bound, isOwn]
              rw [further, erase_dups_snoc]
              rfl

theorem find_lookup (table : RouteTable σ) (method : Method) (path : String) :
    table.find method path = lookup table.routes method path := by
  have chosen : (if (table.bestMatches method path).isEmpty && method == "HEAD" then
      table.bestMatches "GET" path else table.bestMatches method path) =
        (selectedOrGet table.routes method path).map (Route.matched path) := by
    simp only [best_matches_selected, List.isEmpty_map, Bool.and_eq_true, List.isEmpty_iff,
      beq_iff_eq, selectedOrGet, apply_ite (List.map (Route.matched path))]
  simp only [find, chosen, allowed_methods_on, List.isEmpty_map, lookup]
  cases selectedOrGet table.routes method path with
  | nil => cases methodsOn table.routes path <;> rfl
  | cons _ _ => rfl

theorem mem_methods_on {method : Method} :
    method ∈ methodsOn routes path ↔ ∃ route ∈ routes, route.Answers method path := by
  simp only [methodsOn, List.mem_eraseDups, List.mem_filterMap, List.mem_filter, Route.Answers,
    and_assoc, and_comm (a := (bindings? path _).isSome = true)]

theorem selected_eq_nil : selected routes method path = [] ↔ method ∉ methodsOn routes path := by
  have none : routes.filter (fun route => route.Answers method path) = [] ↔
      method ∉ methodsOn routes path := by
    simp only [List.filter_eq_nil_iff, decide_eq_true_eq, mem_methods_on, not_exists, not_and]
  rw [← none]
  exact ⟨not_imp_not.1 least_of_ne_nil, fun empty => by rw [selected, empty]; rfl⟩

theorem found_iff_selected {candidates : List (RouteMatch σ)} :
    lookup routes method path = .found candidates ↔
      candidates ≠ [] ∧
        candidates = (selectedOrGet routes method path).map (Route.matched path) := by
  cases chosen : selectedOrGet routes method path with
  | nil =>
      have never : lookup routes method path ≠ .found candidates := by
        intro found
        cases allowed : methodsOn routes path <;> simp [lookup, chosen, allowed] at found
      simp [never]
  | cons first rest =>
      simp only [lookup, chosen, RouteLookup.found.injEq]
      constructor
      · rintro rfl
        exact ⟨by simp, rfl⟩
      · exact fun both => both.2.symm

end

def bare (method : Method) (template : String) : Route Unit where
  spec := { method := some method, template := (Template.parse template).toOption }
  handler := (pure Outcome.empty : Handling Unit Outcome)

end RouteTable

end StreamHttp
