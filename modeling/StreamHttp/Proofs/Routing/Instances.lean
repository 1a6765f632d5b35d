import Mathlib.Data.List.Forall2
import StreamHttp.Proofs.Text.Words
import StreamHttp.Routing.Template

/-!
What a template matches. The text of a template denotes one segment for each of its nonempty pieces.
A path is an instance of the template when its segments can be dealt out to those of the template: a
literal gets itself, a variable one segment, and a catch-all, which comes last, any number of them.
A template matches its instances and nothing else, with the values that its variables got.
-/

namespace StreamHttp

namespace Segment

def braced (name : String) : String := "\x7b" ++ name ++ "\x7d"

/-- The segment that a piece of the text of a template denotes. -/
inductive Denoted : String → Segment → Prop
  | literal {text : String} (plain : ∀ name, text ≠ braced name) : Denoted text (.literal text)
  | one {name : String} (filled : name ≠ "") (single : ∀ rest, name ≠ "*" ++ rest) :
      Denoted (braced name) (.variable name)
  | all {name : String} (filled : name ≠ "") : Denoted (braced ("*" ++ name)) (.catchAll name)

/-- The segments of a path that may stand for a segment of a template. -/
inductive StandsFor : Segment → List String → Prop
  | literal (text : String) : StandsFor (.literal text) [text]
  | one (name part : String) : StandsFor (.variable name) [part]
  | all (name : String) (parts : List String) : StandsFor (.catchAll name) parts

/-- The name and the value of a variable, given what stands for it. -/
def binding? : Segment → List String → Option (String × String)
  | .literal _, _ => none
  | .variable name, share => some (name, Percent.decode (Text.joinWith "/" share))
  | .catchAll name, share => some (name, Percent.decode (Text.joinWith "/" share))

end Segment

namespace Template

open Segment

def bindings (segments : List Segment) (shares : List (List String)) : List (String × String) :=
  (segments.zip shares).filterMap fun pair => pair.1.binding? pair.2

def EndsOpen (segments : List Segment) : Prop :=
  ∀ front name back, segments = front ++ .catchAll name :: back → back = []

variable {source part : String} {segment : Segment} {segments : List Segment}
  {parts : List String} {bound : List (String × String)}

theorem ends_open_cons :
    EndsOpen (segment :: segments) ↔
      (∀ name, segment = .catchAll name → segments = []) ∧ EndsOpen segments := by
  constructor
  · intro last
    constructor
    · rintro name rfl
      exact last [] name segments rfl
    · rintro front name back rfl
      exact last (segment :: front) name back rfl
  · rintro ⟨first, later⟩ front name back whole
    cases front with
    | nil =>
        obtain ⟨rfl, rfl⟩ := List.cons.inj whole
        exact first name rfl
    | cons head front =>
        obtain ⟨rfl, rfl⟩ := List.cons.inj whole
        exact later front name back rfl

theorem braced_iff {name : String} : braced? part = some name ↔ part = braced name := by
  simp only [braced?, Option.bind_eq_some_iff, Text.strip_prefix_iff, Text.strip_suffix_iff, braced,
    String.append_assoc]
  constructor
  · rintro ⟨rest, rfl, rfl⟩
    rfl
  · rintro rfl
    exact ⟨_, rfl, rfl⟩

theorem segment_denoted {isLast : Bool} (read : segmentOf source part isLast = .ok segment) :
    Denoted part segment ∧ ∀ name, segment = .catchAll name → isLast = true := by
  unfold segmentOf at read
  split at read
  next plain =>
    cases read
    have unbraced : ∀ name, part ≠ braced name :=
      fun name same => nomatch plain.symm.trans (braced_iff.2 same)
    exact ⟨.literal unbraced, fun _ => nofun⟩
  next name inner =>
    obtain rfl := braced_iff.1 inner
    split at read
    next rest star =>
      obtain rfl := Text.strip_prefix_iff.1 star
      split at read
      · cases read
      next last =>
        split at read
        · cases read
        next filled =>
          cases read
          refine ⟨.all fun empty => filled (String.isEmpty_iff.2 empty), fun _ _ => ?_⟩
          simpa using last
    next star =>
      split at read
      · cases read
      next filled =>
        cases read
        have single : ∀ rest, name ≠ "*" ++ rest :=
          fun rest same => nomatch star.symm.trans (Text.strip_prefix_iff.2 same)
        exact ⟨.one (fun empty => filled (String.isEmpty_iff.2 empty)) single, fun _ => nofun⟩

theorem segments_denoted (read : segmentsOf source parts = .ok segments) :
    List.Forall₂ Denoted parts segments ∧ EndsOpen segments := by
  induction parts generalizing segments with
  | nil =>
      cases read
      exact ⟨.nil, fun front name back whole => by simp at whole⟩
  | cons part parts induction =>
      unfold segmentsOf at read
      cases first : segmentOf source part parts.isEmpty with
      | error problem =>
          rw [first] at read
          cases read
      | ok segment =>
          cases rest : segmentsOf source parts with
          | error problem =>
              rw [first, rest] at read
              cases read
          | ok others =>
              rw [first, rest] at read
              cases read
              obtain ⟨denoted, last⟩ := segment_denoted first
              obtain ⟨later, closed⟩ := induction rest
              refine ⟨.cons denoted later, ends_open_cons.2 ⟨fun name catches => ?_, closed⟩⟩
              have none : parts = [] := List.isEmpty_iff.1 (last name catches)
              subst none
              cases later
              rfl

/-- The segments of a template are what its text denotes, and only the last one may be a catch-all. -/
theorem parse_denoted {template : Template} (accepted : parse source = .ok template) :
    List.Forall₂ Denoted (pathSegments source) template.segments ∧ EndsOpen template.segments := by
  unfold parse at accepted
  split at accepted
  · cases read : segmentsOf source (pathSegments source) with
    | error problem =>
        rw [read] at accepted
        cases accepted
    | ok segments =>
        rw [read] at accepted
        cases accepted
        exact segments_denoted read
  · cases accepted

theorem instance_matches {shares : List (List String)} (last : EndsOpen segments)
    (dealt : List.Forall₂ StandsFor segments shares) :
    matchSegments segments shares.flatten = some (bindings segments shares) := by
  induction dealt with
  | nil => rfl
  | cons stands dealt induction =>
      obtain ⟨first, later⟩ := ends_open_cons.1 last
      cases stands with
      | literal text =>
          simp [matchSegments, induction later, bindings, binding?]
      | one name part =>
          simp [matchSegments, induction later, bindings, binding?, Text.joinWith]
      | all name parts =>
          obtain rfl := first name rfl
          cases dealt
          simp [matchSegments, bindings, binding?]

theorem match_dealt (last : EndsOpen segments) (found : matchSegments segments parts = some bound) :
    ∃ shares, List.Forall₂ StandsFor segments shares ∧ shares.flatten = parts := by
  induction segments generalizing parts bound with
  | nil =>
      cases parts with
      | nil => exact ⟨[], .nil, rfl⟩
      | cons part parts => cases found
  | cons segment segments induction =>
      obtain ⟨first, later⟩ := ends_open_cons.1 last
      cases segment with
      | literal text =>
          cases parts with
          | nil => cases found
          | cons part parts =>
              rw [matchSegments] at found
              split at found
              next same =>
                obtain rfl := eq_of_beq same
                obtain ⟨shares, dealt, rfl⟩ := induction later found
                exact ⟨[part] :: shares, .cons (.literal part) dealt, rfl⟩
              next => cases found
      | «variable» name =>
          cases parts with
          | nil => cases found
          | cons part parts =>
              rw [matchSegments, Option.map_eq_some_iff] at found
              obtain ⟨rest, found, _⟩ := found
              obtain ⟨shares, dealt, rfl⟩ := induction later found
              exact ⟨[part] :: shares, .cons (.one name part) dealt, rfl⟩
      | catchAll name =>
          obtain rfl := first name rfl
          exact ⟨[parts], .cons (.all name parts) .nil, List.append_nil parts⟩

theorem match_segments_iff (last : EndsOpen segments) :
    matchSegments segments parts = some bound ↔
      ∃ shares, List.Forall₂ StandsFor segments shares ∧ shares.flatten = parts ∧
        bound = bindings segments shares := by
  constructor
  · intro found
    obtain ⟨shares, dealt, rfl⟩ := match_dealt last found
    exact ⟨shares, dealt, rfl, Option.some.inj (found.symm.trans (instance_matches last dealt))⟩
  · rintro ⟨shares, dealt, rfl, rfl⟩
    exact instance_matches last dealt

theorem names_bindings {template : Template} {shares : List (List String)}
    (dealt : List.Forall₂ StandsFor template.segments shares) :
    (bindings template.segments shares).map Prod.fst = template.variableNames := by
  rw [variableNames]
  generalize template.segments = segments at dealt
  induction dealt with
  | nil => rfl
  | cons stands dealt induction => cases stands <;> simpa [bindings, binding?] using induction

theorem names_matched {template : Template} {path : String} (last : EndsOpen template.segments)
    (found : template.match? path = some bound) :
    bound.map Prod.fst = template.variableNames := by
  obtain ⟨shares, dealt, _, rfl⟩ := (match_segments_iff last).1 found
  exact names_bindings dealt

/-- The text of a template denotes its segments, a catch-all among them at most as the last. A path is
matched exactly if its nonempty segments can be dealt out to them, and then each variable is bound
once for each of its places, in their order, to what stands for it there. -/
theorem match_iff_instance {template : Template} (accepted : parse source = .ok template)
    (path : String) (bound : List (String × String)) :
    List.Forall₂ Denoted (pathSegments source) template.segments ∧
      EndsOpen template.segments ∧
      (template.match? path = some bound ↔
        ∃ shares, List.Forall₂ StandsFor template.segments shares ∧
          shares.flatten = pathSegments path ∧ bound = bindings template.segments shares) ∧
      (template.match? path = some bound → bound.map Prod.fst = template.variableNames) := by
  obtain ⟨denoted, last⟩ := parse_denoted accepted
  exact ⟨denoted, last, match_segments_iff last, names_matched last⟩

/-- A literal, a variable and a catch-all, on a path with more slashes than it needs. -/
theorem match_iff_instance_files :
    let template : Template :=
      ⟨"/files/{owner}/{*rest}", [.literal "files", .variable "owner", .catchAll "rest"]⟩
    parse "/files/{owner}/{*rest}" = .ok template ∧
      template.match? "//files/a%20b/x//y/" = some [("owner", "a b"), ("rest", "x/y")] ∧
      template.match? "/files/a" = some [("owner", "a"), ("rest", "")] ∧
      template.variableNames = ["owner", "rest"] := by
  intro template
  have accepted : parse "/files/{owner}/{*rest}" = .ok template := by decide +kernel
  obtain ⟨_, _, longer, named⟩ := match_iff_instance accepted "//files/a%20b/x//y/"
    [("owner", "a b"), ("rest", "x/y")]
  obtain ⟨_, _, shorter, _⟩ := match_iff_instance accepted "/files/a"
    [("owner", "a"), ("rest", "")]
  have found : template.match? "//files/a%20b/x//y/" = some [("owner", "a b"), ("rest", "x/y")] :=
    longer.2 ⟨[["files"], ["a%20b"], ["x", "y"]],
      .cons (.literal _) (.cons (.one _ _) (.cons (.all _ _) .nil)), by decide +kernel,
      by decide +kernel⟩
  refine ⟨accepted, found, ?_, (named found).symm⟩
  exact shorter.2 ⟨[["files"], ["a"], []],
    .cons (.literal _) (.cons (.one _ _) (.cons (.all _ _) .nil)), by decide +kernel,
    by decide +kernel⟩

end Template

end StreamHttp
