import StreamHttp.Proofs.Routing.Table
import StreamHttp.Proofs.Text.Words

/-!
Paths with the same nonempty segments are spellings of one another. Every lookup of routes is the
same for all of them. A path pattern compares characters instead: put enough slashes in front of a
path, and only patterns for everything, or for slashes alone, still cover it. So the filters are the
same for all spellings exactly when each filter is for every path or for none.
-/

namespace StreamHttp

/-- The path behind a number of further slashes. -/
def slashed (count : Nat) (path : String) : String :=
  String.ofList (List.replicate count '/' ++ path.toList)

theorem to_list_slashed (count : Nat) (path : String) :
    (slashed count path).toList = List.replicate count '/' ++ path.toList :=
  String.toList_ofList

theorem length_slashed (count : Nat) (path : String) :
    (slashed count path).length = count + path.length := by
  rw [← String.length_toList, to_list_slashed, List.length_append, List.length_replicate,
    String.length_toList]

theorem path_segments_slashed (count : Nat) (path : String) :
    pathSegments (slashed count path) = pathSegments path := by
  induction count with
  | zero => rw [slashed, List.replicate_zero, List.nil_append, String.ofList_toList]
  | succ count induction =>
      have split : Text.piecesOf '/' (slashed (count + 1) path) =
          "" :: Text.piecesOf '/' (slashed count path) := by
        simp only [Text.piecesOf, to_list_slashed, List.replicate_succ, List.cons_append]
        exact congrArg (List.map String.ofList)
          (pieces_append List.not_mem_nil (List.replicate count '/' ++ path.toList))
      rw [← induction]
      unfold pathSegments
      rw [split]
      exact List.filter_cons_of_neg (by decide)

theorem starts_with_slashed (count : Nat) (path : String) :
    Text.startsWith "/" (slashed (count + 1) path) = true := by
  rw [Text.startsWith, to_list_slashed, List.replicate_succ, List.cons_append]
  exact congrArg Option.isSome
    (strip_start_append ['/'] (List.replicate count '/' ++ path.toList))

namespace PathPattern

def text : PathPattern → String
  | .exact path => path
  | .subtree root => root

theorem covers_subtree {root path : String} :
    (subtree root).covers path = true ↔
      root = "" ∨ path = root ∨ ∃ rest, path.toList = root.toList ++ '/' :: rest := by
  have below : (Text.stripPrefix? root path).any (Text.startsWith "/") = true ↔
      ∃ rest, path.toList = root.toList ++ '/' :: rest := by
    simp only [Text.stripPrefix?, Text.startsWith, Option.any_map, Option.any_eq_true,
      strip_start_iff, Option.isSome_iff_exists, String.toList_ofList]
    constructor
    · rintro ⟨_, split, rest, rfl⟩
      exact ⟨rest, split⟩
    · rintro ⟨rest, split⟩
      exact ⟨'/' :: rest, split, rest, rfl⟩
  simp only [covers, Bool.or_eq_true, String.isEmpty_iff, beq_iff_eq, below, or_assoc]

theorem covers_longer {pattern : PathPattern} {path : String}
    (long : pattern.text.length < path.length) (covered : pattern.covers path = true) :
    ∃ root, pattern = .subtree root ∧
      (root = "" ∨ ∃ rest, path.toList = root.toList ++ '/' :: rest) := by
  cases pattern with
  | exact only =>
      have same : path = only := eq_of_beq covered
      rw [same] at long
      exact absurd long (Nat.lt_irrefl _)
  | subtree root =>
      rcases covers_subtree.1 covered with everything | same | below
      · exact ⟨root, rfl, .inl everything⟩
      · rw [same] at long
        exact absurd long (Nat.lt_irrefl _)
      · exact ⟨root, rfl, .inr below⟩

/-- Behind more slashes than a pattern has characters, what follows them does not matter. -/
theorem covers_slashed {pattern : PathPattern} {count : Nat} (short : pattern.text.length < count)
    {path : String} (covered : pattern.covers (slashed count path) = true) (other : String) :
    pattern.covers (slashed count other) = true := by
  have long : pattern.text.length < (slashed count path).length := by
    rw [length_slashed]
    exact Nat.lt_add_right _ short
  obtain ⟨root, rfl, everything | ⟨rest, split⟩⟩ := covers_longer long covered
  · exact covers_subtree.2 (.inl everything)
  · have fits : root.toList.length < count := by
      rw [String.length_toList]
      exact short
    have leading : root.toList <+: List.replicate count '/' := by
      have start : root.toList <+: List.replicate count '/' ++ path.toList :=
        ⟨'/' :: rest, by rw [← split, to_list_slashed]⟩
      apply List.prefix_of_prefix_length_le start (List.prefix_append _ _)
      rw [List.length_replicate]
      exact fits.le
    have slashes : root.toList = List.replicate root.toList.length '/' :=
      (List.prefix_replicate_iff.1 leading).2
    have behind : List.replicate count '/' =
        root.toList ++ '/' :: List.replicate (count - root.toList.length - 1) '/' := by
      have parts : root.toList.length + (count - root.toList.length - 1 + 1) = count := by omega
      have cut : List.replicate root.toList.length '/' ++
          List.replicate (count - root.toList.length - 1 + 1) '/' = List.replicate count '/' := by
        rw [List.replicate_append_replicate, parts]
      rw [← cut, ← slashes, List.replicate_succ]
    apply covers_subtree.2
    refine .inr (.inr ⟨List.replicate (count - root.toList.length - 1) '/' ++ other.toList, ?_⟩)
    rw [to_list_slashed, behind, List.append_assoc, List.cons_append]

theorem covers_long {pattern : PathPattern} {count : Nat} (short : pattern.text.length < count)
    (covered : pattern.covers (slashed 1 (String.ofList (List.replicate count 'z'))) = true)
    (path : String) : pattern.covers path = true := by
  have long : pattern.text.length <
      (slashed 1 (String.ofList (List.replicate count 'z'))).length := by
    rw [length_slashed, String.length_ofList, List.length_replicate]
    exact Nat.lt_add_left _ short
  obtain ⟨root, rfl, everything | ⟨rest, split⟩⟩ := covers_longer long covered
  · exact covers_subtree.2 (.inl everything)
  · have written : (slashed 1 (String.ofList (List.replicate count 'z'))).toList =
        '/' :: List.replicate count 'z' := by
      rw [to_list_slashed, String.toList_ofList]
      rfl
    rw [written] at split
    apply covers_subtree.2
    left
    cases letters : root.toList with
    | nil => exact String.toList_eq_nil_iff.1 letters
    | cons first root =>
        rw [letters, List.cons_append, List.cons.injEq] at split
        have inside : '/' ∈ List.replicate count 'z' := by
          rw [split.2]
          exact List.mem_append_right _ List.mem_cons_self
        exact absurd (List.eq_of_mem_replicate inside) (by decide)

end PathPattern

namespace RequestMatcher

mutual

def patterns : RequestMatcher → List PathPattern
  | .path pattern => [pattern]
  | .methods _ => []
  | .all conditions => patternsAll conditions

def patternsAll : List RequestMatcher → List PathPattern
  | [] => []
  | condition :: rest => patterns condition ++ patternsAll rest

end

section

variable {method : Method} {first second : String}

mutual

/-- A matcher is monotone in what its patterns cover. -/
theorem admits_covered (matcher : RequestMatcher)
    (covered : ∀ pattern ∈ matcher.patterns,
      pattern.covers first = true → pattern.covers second = true)
    (admitted : matcher.admits method first = true) : matcher.admits method second = true := by
  cases matcher with
  | path pattern => exact covered pattern (List.mem_singleton_self pattern) admitted
  | methods chosen => exact admitted
  | all conditions => exact admits_all_covered conditions covered admitted

theorem admits_all_covered (conditions : List RequestMatcher)
    (covered : ∀ pattern ∈ patternsAll conditions,
      pattern.covers first = true → pattern.covers second = true)
    (admitted : admitsAll method first conditions = true) :
    admitsAll method second conditions = true := by
  cases conditions with
  | nil => rfl
  | cons condition rest =>
      simp only [patternsAll, List.mem_append] at covered
      simp only [admitsAll, Bool.and_eq_true] at admitted ⊢
      constructor
      · exact admits_covered condition (fun pattern member => covered pattern (.inl member)) admitted.1
      · exact admits_all_covered rest (fun pattern member => covered pattern (.inr member)) admitted.2

end

end

end RequestMatcher

/-- Two conditions of which one implies the other agree once they hold equally often. -/
theorem agree_of_count {α : Type} {items : List α} {narrow wide : α → Bool}
    (implied : ∀ item ∈ items, narrow item = true → wide item = true)
    (count : items.countP narrow = items.countP wide) :
    ∀ item ∈ items, narrow item = wide item := by
  induction items with
  | nil => exact fun _ member => absurd member List.not_mem_nil
  | cons head rest induction =>
      have later : ∀ item ∈ rest, narrow item = true → wide item = true :=
        fun item member => implied item (List.mem_cons_of_mem head member)
      have fewer : rest.countP narrow ≤ rest.countP wide := List.countP_mono_left later
      have here : narrow head = true → wide head = true := implied head List.mem_cons_self
      rw [List.countP_cons, List.countP_cons] at count
      have same : narrow head = wide head := by
        cases left : narrow head <;> cases right : wide head
        · rfl
        · simp only [left, right, Bool.false_eq_true, if_false, if_true] at count
          omega
        · exact absurd (here left) (by simp [right])
        · rfl
      rw [same] at count
      exact List.forall_mem_cons.2 ⟨same, induction later (by omega)⟩

namespace RouteTable

variable {σ : Type} {first second : String}

/-- The routes, and what their variables stand for, do not depend on the spelling of a path. -/
theorem find_spelled (same : pathSegments first = pathSegments second) (table : RouteTable σ)
    (method : Method) : table.find method first = table.find method second := by
  have bindings : bindings? first = bindings? second := by
    funext spec
    simp only [bindings?, Template.match?, same]
  have candidates (method : Method) :
      (candidate? method first : Route σ → Option (Candidate σ)) = candidate? method second := by
    funext route
    simp only [candidate?, Template.match?, same]
  have matched (method : Method) :
      table.bestMatches method first = table.bestMatches method second := by
    simp only [bestMatches, candidates]
  have allowed : table.allowedMethods first = table.allowedMethods second := by
    simp only [allowedMethods, bindings]
  simp only [find, matched, allowed]

theorem length_filters_for (table : RouteTable σ) (method : Method) (path : String) :
    (table.filtersFor method path).length =
      table.filters.countP fun entry => entry.1.admits method path := by
  rw [filtersFor, List.length_map, List.countP_eq_length_filter]

/-- More characters than any pattern among the filters has. -/
def reach (table : RouteTable σ) : Nat :=
  ((table.filters.flatMap fun entry => entry.1.patterns).map fun pattern =>
    pattern.text.length).max?.getD 0 + 1

theorem length_lt_reach {table : RouteTable σ} {entry : RequestMatcher × Filter σ}
    (registered : entry ∈ table.filters) {pattern : PathPattern}
    (member : pattern ∈ entry.1.patterns) : pattern.text.length < table.reach := by
  have among : pattern ∈ table.filters.flatMap fun entry => entry.1.patterns :=
    List.mem_flatMap.2 ⟨entry, registered, member⟩
  have listed := List.mem_map_of_mem (f := fun pattern => pattern.text.length) among
  exact Nat.lt_succ_of_le (List.le_max?_getD_of_mem listed)

/-- Behind more slashes than the reach of a table, a filter is for all paths or for none. -/
theorem admits_slashed {table : RouteTable σ} {entry : RequestMatcher × Filter σ}
    (registered : entry ∈ table.filters) (method : Method) (path other : String) :
    entry.1.admits method (slashed table.reach path) =
      entry.1.admits method (slashed table.reach other) := by
  have onward (path other : String)
      (admitted : entry.1.admits method (slashed table.reach path) = true) :
      entry.1.admits method (slashed table.reach other) = true :=
    entry.1.admits_covered (fun _ member covered =>
      PathPattern.covers_slashed (length_lt_reach registered member) covered other) admitted
  exact Bool.eq_iff_iff.2 ⟨onward path other, onward other path⟩

def longPath (table : RouteTable σ) : String :=
  slashed 1 (String.ofList (List.replicate table.reach 'z'))

theorem admits_long {table : RouteTable σ} {entry : RequestMatcher × Filter σ}
    (registered : entry ∈ table.filters) {method : Method}
    (admitted : entry.1.admits method table.longPath = true) (path : String) :
    entry.1.admits method path = true :=
  entry.1.admits_covered (fun _ member covered =>
    PathPattern.covers_long (length_lt_reach registered member) covered path) admitted

/-- All spellings of a path get the same routes. Exactly when each filter is for every path or for
none, they get the same filters: whatever paths there are, as long as the absolute ones are among
them. -/
theorem filters_for_spelled (table : RouteTable σ) (method : Method) {paths : String → Prop}
    (absolute : ∀ path, Text.startsWith "/" path = true → paths path) :
    (∀ first second, pathSegments first = pathSegments second →
      table.find method first = table.find method second) ∧
    ((∀ first second, paths first → paths second → pathSegments first = pathSegments second →
        table.filtersFor method first = table.filtersFor method second) ↔
      ∀ entry ∈ table.filters,
        (∀ path, paths path → entry.1.admits method path = true) ∨
          ∀ path, paths path → entry.1.admits method path = false) := by
  refine ⟨fun first second same => find_spelled same table method, ?_, ?_⟩
  · intro spelled
    have slashes (path : String) : paths (slashed table.reach path) :=
      absolute _ (starts_with_slashed _ path)
    have counted (path : String) (given : paths path) :
        (table.filters.countP fun entry => entry.1.admits method path) =
          table.filters.countP fun entry => entry.1.admits method (slashed table.reach path) := by
      rw [← length_filters_for, ← length_filters_for,
        spelled path _ given (slashes path) (path_segments_slashed _ path).symm]
    have long : paths table.longPath := absolute _ (starts_with_slashed 0 _)
    -- The long path counts the filters for all paths, and no path gets more than those.
    have everywhere (path : String) (given : paths path) :
        ∀ entry ∈ table.filters,
          entry.1.admits method table.longPath = entry.1.admits method path := by
      apply agree_of_count
      · exact fun entry registered admitted => admits_long registered admitted path
      · calc (table.filters.countP fun entry => entry.1.admits method table.longPath)
            = table.filters.countP fun entry =>
                entry.1.admits method (slashed table.reach table.longPath) := counted _ long
          _ = table.filters.countP fun entry =>
                entry.1.admits method (slashed table.reach path) :=
              List.countP_congr fun entry registered => by
                rw [admits_slashed registered method table.longPath path]
          _ = table.filters.countP fun entry => entry.1.admits method path := (counted _ given).symm
    intro entry registered
    cases constant : entry.1.admits method table.longPath with
    | true =>
        left
        intro path given
        rw [← everywhere path given entry registered, constant]
    | false =>
        right
        intro path given
        rw [← everywhere path given entry registered, constant]
  · intro constant first second left right _
    have agreed : ∀ entry ∈ table.filters,
        entry.1.admits method first = entry.1.admits method second := by
      intro entry registered
      rcases constant entry registered with always | never
      · rw [always first left, always second right]
      · rw [never first left, never second right]
    rw [filtersFor, filtersFor, List.filter_congr agreed]

def refusal : Filter Unit where
  apply _ _ := .done (.answer (.ok {}))

def refusingUploads : RouteTable Unit where
  filters := [(.all [.path (PathPattern.parse "/**"), .methods ["POST"]], refusal)]

theorem filters_for_spelled_upload :
    refusingUploads.filtersFor "POST" "/admin/7" =
      refusingUploads.filtersFor "POST" "//admin/7" := by
  have constant : ∀ entry ∈ refusingUploads.filters,
      (∀ path, Text.startsWith "/" path = true → entry.1.admits "POST" path = true) ∨
        ∀ path, Text.startsWith "/" path = true → entry.1.admits "POST" path = false := by
    intro entry registered
    cases List.mem_singleton.1 registered
    have everything : PathPattern.parse "/**" = .subtree "" := by decide +kernel
    left
    intro path _
    have covered : (PathPattern.subtree "").covers path = true :=
      PathPattern.covers_subtree.2 (.inl rfl)
    simp only [RequestMatcher.admits, RequestMatcher.admitsAll, everything, covered]
    decide
  have spelled :=
    (filters_for_spelled refusingUploads "POST" fun _ absolute => absolute).2.2 constant
  exact spelled "/admin/7" "//admin/7" (by decide +kernel) (by decide +kernel) (by decide +kernel)

def guardedAdmin : RouteTable Unit where
  routes :=
    [{ spec := { method := some "GET", template := (Template.parse "/admin/{id}").toOption }
       handler := (pure Outcome.empty : Handling Unit Outcome) }]
  filters := [(.path (PathPattern.parse "/admin/**"), refusal)]

/-- One more slash in front of a path, and its route is found without its filter. -/
theorem doubled_slash_unguarded :
    pathSegments "/admin/7" = pathSegments "//admin/7" ∧
      (∃ candidates, guardedAdmin.find "GET" "/admin/7" = .found candidates ∧
        guardedAdmin.find "GET" "//admin/7" = .found candidates) ∧
      guardedAdmin.filtersFor "GET" "/admin/7" = [refusal] ∧
      guardedAdmin.filtersFor "GET" "//admin/7" = [] := by
  have same : pathSegments "/admin/7" = pathSegments "//admin/7" := by decide +kernel
  have listed : (guardedAdmin.bestMatches "GET" "/admin/7").isEmpty = false := by decide +kernel
  have found : guardedAdmin.find "GET" "/admin/7" =
      .found (guardedAdmin.bestMatches "GET" "/admin/7") := by
    simp only [find, listed, Bool.false_and, Bool.false_eq_true, if_false, Bool.not_false, if_true]
  have spelled := (find_spelled same guardedAdmin "GET").symm.trans found
  have covered : (PathPattern.parse "/admin/**").covers "/admin/7" = true := by decide +kernel
  have missed : (PathPattern.parse "/admin/**").covers "//admin/7" = false := by decide +kernel
  refine ⟨same, ⟨_, found, spelled⟩, ?_, ?_⟩
  · simp only [filtersFor, guardedAdmin, RequestMatcher.admits, List.filter, covered, List.map]
  · simp only [filtersFor, guardedAdmin, RequestMatcher.admits, List.filter, missed, List.map]


end RouteTable

end StreamHttp
