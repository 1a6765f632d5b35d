import StreamHttp.Routing.Table

/-!
Whatever a table chooses for a request was registered with it.
-/

namespace StreamHttp.RouteTable

variable {σ : Type}

theorem mem_consider {best : List (Candidate σ)} {candidate member : Candidate σ}
    (chosen : member ∈ consider best candidate) : member = candidate ∨ member ∈ best := by
  unfold consider at chosen
  split at chosen
  · exact .inl (List.mem_singleton.1 chosen)
  · split at chosen
    · exact .inr chosen
    · split at chosen
      · exact .inl (List.mem_singleton.1 chosen)
      · rcases List.mem_append.1 chosen with old | new
        · exact .inr old
        · exact .inl (List.mem_singleton.1 new)

theorem mem_foldl_consider {candidates best : List (Candidate σ)} {member : Candidate σ}
    (chosen : member ∈ candidates.foldl consider best) : member ∈ best ∨ member ∈ candidates := by
  induction candidates generalizing best with
  | nil => exact .inl chosen
  | cons candidate rest induction =>
      rcases induction chosen with kept | later
      · rcases mem_consider kept with rfl | old
        · exact .inr List.mem_cons_self
        · exact .inl old
      · exact .inr (List.mem_cons_of_mem _ later)

theorem route_candidate {method : Method} {path : String} {route : Route σ}
    {candidate : Candidate σ} (found : candidate? method path route = some candidate) :
    candidate.route = route := by
  unfold candidate? at found
  split at found
  · split at found
    · obtain ⟨bindings, _, rfl⟩ := Option.map_eq_some_iff.1 found
      rfl
    · cases found
  · cases found

theorem mem_best_matches {table : RouteTable σ} {method : Method} {path : String}
    {found : RouteMatch σ} (member : found ∈ table.bestMatches method path) :
    found.route ∈ table.routes := by
  obtain ⟨candidate, chosen, rfl⟩ := List.mem_map.1 member
  rcases mem_foldl_consider chosen with absent | listed
  · exact absurd absent List.not_mem_nil
  · obtain ⟨route, registered, made⟩ := List.mem_filterMap.1 listed
    rw [route_candidate made]
    exact registered

theorem mem_find {table : RouteTable σ} {method : Method} {path : String}
    {candidates : List (RouteMatch σ)} (found : table.find method path = .found candidates)
    {chosen : RouteMatch σ} (member : chosen ∈ candidates) : chosen.route ∈ table.routes := by
  have registered : ∀ listed ∈
      (if (table.bestMatches method path).isEmpty && method == "HEAD" then
        table.bestMatches "GET" path else table.bestMatches method path),
      listed.route ∈ table.routes := by
    intro listed among
    split at among
    · exact mem_best_matches among
    · exact mem_best_matches among
  simp only [find] at found
  generalize (if (table.bestMatches method path).isEmpty && method == "HEAD" then
    table.bestMatches "GET" path else table.bestMatches method path) = all at found registered
  cases empty : all.isEmpty with
  | false =>
      simp only [empty, Bool.not_false, if_true, RouteLookup.found.injEq] at found
      exact registered chosen (found ▸ member)
  | true =>
      simp only [empty, Bool.not_true, Bool.false_eq_true, if_false] at found
      split at found <;> cases found

theorem mem_in_scope {κ : Type} {entries : List (κ × Route σ)} {origin : Option RouteSpec}
    {entry : κ × Route σ} (member : entry ∈ inScope entries origin) : entry ∈ entries := by
  rcases List.mem_append.1 member with grouped | free
  · exact (List.mem_filter.1 grouped).1
  · exact (List.mem_filter.1 free).1

theorem mem_status_route {table : RouteTable σ} {origin : Option RouteSpec} {status : Status}
    {route : Route σ} (found : table.statusRoute? origin status = some route) :
    ∃ entry ∈ table.statusRoutes, entry.2 = route := by
  obtain ⟨entry, chosen, same⟩ := Option.map_eq_some_iff.1 found
  exact ⟨entry, mem_in_scope (List.mem_of_find?_eq_some chosen), same⟩

theorem mem_error_route {table : RouteTable σ} {origin : Option RouteSpec} {cause : Cause}
    {route : Route σ} (found : table.errorRoute? origin cause = some route) :
    ∃ entry ∈ table.errorRoutes, entry.2 = route := by
  obtain ⟨link, _, chosen⟩ := List.exists_of_findSome?_eq_some found
  obtain ⟨entry, listed, same⟩ := Option.map_eq_some_iff.1 chosen
  exact ⟨entry, mem_in_scope (List.mem_of_find?_eq_some listed), same⟩

theorem mem_filters_for {table : RouteTable σ} {method : Method} {path : String}
    {filter : Filter σ} (member : filter ∈ table.filtersFor method path) :
    ∃ entry ∈ table.filters, entry.2 = filter := by
  obtain ⟨entry, chosen, same⟩ := List.mem_map.1 member
  exact ⟨entry, (List.mem_filter.1 chosen).1, same⟩

end StreamHttp.RouteTable
