import Mathlib.Data.List.Forall2
import StreamHttp.Routing.Table

/-!
Tables whose routes stand for each other one to one, be it in different applications. Such tables
choose alike: what the one finds for a request stands for what the other finds.
-/

namespace StreamHttp

variable {σ τ : Type}

namespace RouteTable

/-- Routes at the same places stand for each other, and have the same specification. -/
structure Corresponds (route errorRoute : Route σ → Route τ → Prop) (first : RouteTable σ)
    (second : RouteTable τ) : Prop where
  spec : ∀ own other, route own other → own.spec = other.spec
  errorSpec : ∀ own other, errorRoute own other → own.spec = other.spec
  routes : List.Forall₂ route first.routes second.routes
  statusRoutes : List.Forall₂ (fun own other => own.1 = other.1 ∧ errorRoute own.2 other.2)
    first.statusRoutes second.statusRoutes
  errorRoutes : List.Forall₂ (fun own other => own.1 = other.1 ∧ errorRoute own.2 other.2)
    first.errorRoutes second.errorRoutes

structure Candidate.Corresponds (route : Route σ → Route τ → Prop) (own : Candidate σ)
    (other : Candidate τ) : Prop where
  route : route own.route other.route
  bindings : own.bindings = other.bindings
  specificity : own.specificity = other.specificity

end RouteTable

structure RouteMatch.Corresponds (route : Route σ → Route τ → Prop) (own : RouteMatch σ)
    (other : RouteMatch τ) : Prop where
  route : route own.route other.route
  arguments : own.arguments = other.arguments

inductive RouteLookup.Corresponds (route : Route σ → Route τ → Prop) :
    RouteLookup σ → RouteLookup τ → Prop where
  | found {own : List (RouteMatch σ)} {other : List (RouteMatch τ)}
      (all : List.Forall₂ (RouteMatch.Corresponds route) own other) :
      Corresponds route (.found own) (.found other)
  | methodNotAllowed (allowed : List Method) :
      Corresponds route (.methodNotAllowed allowed) (.methodNotAllowed allowed)
  | notFound : Corresponds route .notFound .notFound

namespace RouteTable

variable {route errorRoute : Route σ → Route τ → Prop} {first : RouteTable σ}
  {second : RouteTable τ}

theorem candidate_corresponds (method : Method) (path : String) {own : Route σ} {other : Route τ}
    (pair : route own other) (spec : own.spec = other.spec) :
    Option.Rel (Candidate.Corresponds route) (candidate? method path own)
      (candidate? method path other) := by
  unfold candidate?
  rw [← spec]
  split
  next template _ _ =>
    split
    · cases template.match? path with
      | none => exact .none
      | some bindings => exact .some ⟨pair, rfl, rfl⟩
    · exact .none
  next => exact .none

theorem is_empty_corresponds {own : List (RouteMatch σ)} {other : List (RouteMatch τ)}
    (all : List.Forall₂ (RouteMatch.Corresponds route) own other) :
    own.isEmpty = other.isEmpty := by
  cases all with
  | nil => rfl
  | cons _ _ => rfl

theorem descriptions_correspond (spec : ∀ own other, route own other → own.spec = other.spec)
    {own : List (RouteMatch σ)} {other : List (RouteMatch τ)}
    (all : List.Forall₂ (RouteMatch.Corresponds route) own other) :
    (own.map fun found => found.route.spec.describe) =
      other.map fun found => found.route.spec.describe := by
  induction all with
  | nil => rfl
  | cons pair _ induction =>
      rw [List.map_cons, List.map_cons, spec _ _ pair.route, induction]

theorem consider_corresponds {own : List (Candidate σ)} {other : List (Candidate τ)}
    (best : List.Forall₂ (Candidate.Corresponds route) own other) {candidate : Candidate σ}
    {next : Candidate τ} (pair : candidate.Corresponds route next) :
    List.Forall₂ (Candidate.Corresponds route) (consider own candidate) (consider other next) := by
  cases best with
  | nil => exact .cons pair .nil
  | cons leader rest =>
      simp only [consider, leader.specificity, pair.specificity]
      split
      · exact .cons leader rest
      · split
        · exact .cons pair .nil
        · exact List.rel_append (.cons leader rest) (.cons pair .nil)

theorem find_entry_corresponds {κ : Type} {own : List (κ × Route σ)} {other : List (κ × Route τ)}
    (entries : List.Forall₂ (fun own other => own.1 = other.1 ∧ errorRoute own.2 other.2) own other)
    (holds : κ → Bool) :
    Option.Rel errorRoute ((own.find? fun entry => holds entry.1).map Prod.snd)
      ((other.find? fun entry => holds entry.1).map Prod.snd) := by
  induction entries with
  | nil => exact .none
  | cons pair _ induction =>
      simp only [List.find?_cons, pair.1]
      split
      · exact .some pair.2
      · exact induction

theorem in_scope_corresponds {κ : Type} {own : List (κ × Route σ)} {other : List (κ × Route τ)}
    (spec : ∀ own other, errorRoute own other → own.spec = other.spec)
    (entries : List.Forall₂ (fun own other => own.1 = other.1 ∧ errorRoute own.2 other.2) own other)
    (origin : Option RouteSpec) :
    List.Forall₂ (fun own other => own.1 = other.1 ∧ errorRoute own.2 other.2)
      (inScope own origin) (inScope other origin) := by
  refine List.rel_append (List.rel_filter ?_ entries) (List.rel_filter ?_ entries)
  · intro own other pair
    simp only [spec _ _ pair.2]
  · intro own other pair
    simp only [spec _ _ pair.2]

section

variable (corresponds : first.Corresponds route errorRoute second)

include corresponds

theorem best_matches_correspond (method : Method) (path : String) :
    List.Forall₂ (RouteMatch.Corresponds route) (first.bestMatches method path)
      (second.bestMatches method path) := by
  have candidates : List.Forall₂ (Candidate.Corresponds route)
      (first.routes.filterMap (candidate? method path))
      (second.routes.filterMap (candidate? method path)) :=
    List.rel_filterMap (fun own other pair =>
      candidate_corresponds method path pair (corresponds.spec own other pair)) corresponds.routes
  have best : List.Forall₂ (Candidate.Corresponds route)
      ((first.routes.filterMap (candidate? method path)).foldl consider [])
      ((second.routes.filterMap (candidate? method path)).foldl consider []) := by
    refine List.rel_foldl ?_ .nil candidates
    intro own other best candidate next pair
    exact consider_corresponds best pair
  refine List.rel_map (fun own other pair => ?_) best
  exact ⟨pair.route, congrArg Arguments.ofTexts pair.bindings⟩

theorem allowed_methods_correspond (path : String) :
    first.allowedMethods path = second.allowedMethods path := by
  refine List.rel_foldl ?_ rfl corresponds.routes
  rintro allowed _ rfl own other pair
  simp only [corresponds.spec own other pair]

theorem find_corresponds (method : Method) (path : String) :
    (first.find method path).Corresponds route (second.find method path) := by
  have chosen : List.Forall₂ (RouteMatch.Corresponds route)
      (if (first.bestMatches method path).isEmpty && method == "HEAD" then
        first.bestMatches "GET" path else first.bestMatches method path)
      (if (second.bestMatches method path).isEmpty && method == "HEAD" then
        second.bestMatches "GET" path else second.bestMatches method path) := by
    have own := best_matches_correspond corresponds method path
    rw [is_empty_corresponds own]
    split
    · exact best_matches_correspond corresponds "GET" path
    · exact own
  simp only [find, allowed_methods_correspond corresponds path]
  generalize (if (first.bestMatches method path).isEmpty && method == "HEAD" then
    first.bestMatches "GET" path else first.bestMatches method path) = own at chosen ⊢
  generalize (if (second.bestMatches method path).isEmpty && method == "HEAD" then
    second.bestMatches "GET" path else second.bestMatches method path) = other at chosen ⊢
  cases chosen with
  | nil =>
      simp only [List.isEmpty_nil, Bool.not_true, Bool.false_eq_true, if_false]
      split
      · exact .notFound
      · exact .methodNotAllowed _
  | cons pair rest => exact .found (.cons pair rest)

theorem status_route_corresponds (origin : Option RouteSpec) (status : Status) :
    Option.Rel errorRoute (first.statusRoute? origin status) (second.statusRoute? origin status) :=
  find_entry_corresponds
    (in_scope_corresponds corresponds.errorSpec corresponds.statusRoutes origin) (· == status)

theorem error_route_corresponds (origin : Option RouteSpec) (cause : Cause) :
    Option.Rel errorRoute (first.errorRoute? origin cause) (second.errorRoute? origin cause) := by
  unfold errorRoute?
  induction cause.chain with
  | nil => exact .none
  | cons link chain induction =>
      have here := find_entry_corresponds
        (in_scope_corresponds corresponds.errorSpec corresponds.errorRoutes origin)
        fun kind => link.isOf kind
      rw [List.findSome?_cons, List.findSome?_cons]
      generalize ((inScope first.errorRoutes origin).find? fun entry => link.isOf entry.1).map
        Prod.snd = own at here ⊢
      generalize ((inScope second.errorRoutes origin).find? fun entry => link.isOf entry.1).map
        Prod.snd = other at here ⊢
      cases here with
      | none => exact induction
      | some pair => exact .some pair

end

end RouteTable

end StreamHttp
