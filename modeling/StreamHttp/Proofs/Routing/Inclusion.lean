import StreamHttp.Proofs.Routing.Instances
import StreamHttp.Proofs.Routing.Selection

/-!
Templates of which one matches every path that the other does. This shows in their segments: the
wider one has the same literals, or variables in their place, and may stop at a catch-all. The more
specific template is then the narrower one, but for two catch-alls of which the narrower has more
variables: fewer variables come first, so a route with it is never found beside the wider one.
-/

namespace StreamHttp

def Solid (part : String) : Prop := part ≠ "" ∧ '/' ∉ part.toList

instance : DecidablePred Solid := fun _ => instDecidableAnd

theorem solid_segments {path part : String} (member : part ∈ pathSegments path) : Solid part := by
  obtain ⟨among, filled⟩ := List.mem_filter.1 member
  obtain ⟨piece, split, rfl⟩ := List.mem_map.1 among
  refine ⟨fun empty => by simp [empty] at filled, ?_⟩
  rw [String.toList_ofList]
  exact not_mem_pieces split

def pathOf (parts : List String) : String :=
  String.ofList (parts.flatMap fun part => '/' :: part.toList)

theorem pieces_path {first : List Char} (absent : '/' ∉ first) {parts : List String}
    (solid : ∀ part ∈ parts, Solid part) :
    pieces '/' (first ++ parts.flatMap fun part => '/' :: part.toList) =
      first :: parts.map String.toList := by
  induction parts generalizing first with
  | nil => rw [List.flatMap_nil, List.append_nil, pieces_alone absent, List.map_nil]
  | cons part parts induction =>
      obtain ⟨inner, later⟩ := List.forall_mem_cons.1 solid
      rw [List.flatMap_cons, List.cons_append, pieces_append absent, induction inner.2 later,
        List.map_cons]

theorem path_segments_of {parts : List String} (solid : ∀ part ∈ parts, Solid part) :
    pathSegments (pathOf parts) = parts := by
  have split := pieces_path (List.not_mem_nil : '/' ∉ []) solid
  rw [List.nil_append] at split
  have texts : (parts.map String.toList).map String.ofList = parts := by
    rw [List.map_map]
    exact List.map_id'' (fun part => String.ofList_toList) parts
  have kept : parts.filter (fun segment => !segment.isEmpty) = parts :=
    List.filter_eq_self.2 fun part member => by simpa using (solid part member).1
  unfold pathSegments Text.piecesOf pathOf
  rw [String.toList_ofList, split, List.map_cons, texts, List.filter_cons_of_neg (by decide), kept]

namespace Template

/-- Every path that the first template matches is matched by the second. -/
def Within (first second : Template) : Prop :=
  ∀ path, (first.match? path).isSome = true → (second.match? path).isSome = true

/-- How the segments of a template are told to match less than others. -/
inductive Narrower : List Segment → List Segment → Prop
  | nil : Narrower [] []
  | literal (text : String) {segments others : List Segment} (rest : Narrower segments others) :
      Narrower (.literal text :: segments) (.literal text :: others)
  | one {segment : Segment} (name : String) {segments others : List Segment}
      (single : ∀ name, segment ≠ .catchAll name) (rest : Narrower segments others) :
      Narrower (segment :: segments) (.variable name :: others)
  | all (segments : List Segment) (name : String) : Narrower segments [.catchAll name]

/-- Whether the segments of a path have the form of those of a template. -/
def Fits (segments : List Segment) (parts : List String) : Prop :=
  (matchSegments segments parts).isSome = true

variable {segments others : List Segment} {part text name : String} {parts : List String}

@[simp] theorem fits_nil : Fits [] parts ↔ parts = [] := by
  cases parts <;> simp [Fits, matchSegments]

@[simp] theorem not_fits_literal_nil : ¬Fits (.literal text :: segments) [] := by
  simp [Fits, matchSegments]

@[simp] theorem not_fits_one_nil : ¬Fits (.variable name :: segments) [] := by
  simp [Fits, matchSegments]

@[simp] theorem fits_literal :
    Fits (.literal text :: segments) (part :: parts) ↔ part = text ∧ Fits segments parts := by
  by_cases same : part = text <;> simp [Fits, matchSegments, same]

@[simp] theorem fits_one :
    Fits (.variable name :: segments) (part :: parts) ↔ Fits segments parts := by
  simp [Fits, matchSegments]

@[simp] theorem fits_all : Fits (.catchAll name :: segments) parts := by
  simp [Fits, matchSegments]

def LiteralsSolid (segments : List Segment) : Prop :=
  ∀ text, .literal text ∈ segments → Solid text

theorem solid_rest {segment : Segment} (solid : LiteralsSolid (segment :: segments)) :
    LiteralsSolid segments :=
  fun text member => solid text (List.mem_cons_of_mem segment member)

theorem exists_solid_ne (text : String) : ∃ part, Solid part ∧ part ≠ text := by
  by_cases same : text = "a"
  · exact ⟨"b", by decide, by rw [same]; decide⟩
  · exact ⟨"a", by decide, Ne.symm same⟩

theorem exists_part {segment : Segment} (single : ∀ name, segment ≠ .catchAll name)
    (solid : LiteralsSolid (segment :: segments)) :
    ∃ part, Solid part ∧
      ∀ parts, Fits (segment :: segments) (part :: parts) ↔ Fits segments parts := by
  cases segment with
  | literal text => exact ⟨text, solid text List.mem_cons_self, fun parts => by simp⟩
  | «variable» name => exact ⟨"a", by decide, fun parts => by simp⟩
  | catchAll name => exact absurd rfl (single name)

theorem exists_fits (solid : LiteralsSolid segments) :
    ∃ parts, (∀ part ∈ parts, Solid part) ∧ Fits segments parts := by
  induction segments with
  | nil => exact ⟨[], by simp, by simp⟩
  | cons segment segments induction =>
      by_cases open_ : ∃ name, segment = .catchAll name
      · obtain ⟨name, rfl⟩ := open_
        exact ⟨[], by simp, fits_all⟩
      · obtain ⟨part, here, fits⟩ := exists_part (not_exists.1 open_) solid
        obtain ⟨parts, later, rest⟩ := induction (solid_rest solid)
        exact ⟨part :: parts, List.forall_mem_cons.2 ⟨here, later⟩, (fits parts).2 rest⟩

theorem fits_narrower (narrower : Narrower segments others) (fits : Fits segments parts) :
    Fits others parts := by
  induction narrower generalizing parts with
  | nil => exact fits
  | literal text rest induction =>
      cases parts with
      | nil => exact absurd fits not_fits_literal_nil
      | cons part parts =>
          obtain ⟨same, later⟩ := fits_literal.1 fits
          exact fits_literal.2 ⟨same, induction later⟩
  | @one segment name _ _ single rest induction =>
      cases segment with
      | literal text =>
          cases parts with
          | nil => exact absurd fits not_fits_literal_nil
          | cons part parts => exact fits_one.2 (induction (fits_literal.1 fits).2)
      | «variable» other =>
          cases parts with
          | nil => exact absurd fits not_fits_one_nil
          | cons part parts => exact fits_one.2 (induction (fits_one.1 fits))
      | catchAll other => exact absurd rfl (single other)
  | all segments name => exact fits_all

/-- Segments that all others have the form of are their generalisation, piece by piece. -/
theorem narrower_of_fits (solid : LiteralsSolid segments) (last : EndsOpen others)
    (within : ∀ parts, (∀ part ∈ parts, Solid part) → Fits segments parts → Fits others parts) :
    Narrower segments others := by
  induction others generalizing segments with
  | nil =>
      cases segments with
      | nil => exact .nil
      | cons segment segments =>
          exfalso
          by_cases caught : ∃ name, segment = .catchAll name
          · obtain ⟨name, rfl⟩ := caught
            have filled := within ["a"] (by decide) fits_all
            simp at filled
          · obtain ⟨part, here, fits⟩ := exists_part (not_exists.1 caught) solid
            obtain ⟨parts, later, rest⟩ := exists_fits (solid_rest solid)
            have filled := within (part :: parts) (List.forall_mem_cons.2 ⟨here, later⟩)
              ((fits parts).2 rest)
            simp at filled
  | cons other others induction =>
      obtain ⟨first, later⟩ := ends_open_cons.1 last
      have unfilled (single : ∀ name, other ≠ .catchAll name) : ¬Fits (other :: others) [] := by
        cases other with
        | literal text => exact not_fits_literal_nil
        | «variable» name => exact not_fits_one_nil
        | catchAll name => exact absurd rfl (single name)
      have head (single : ∀ name, other ≠ .catchAll name) :
          ∃ segment rest, segments = segment :: rest ∧ ∀ name, segment ≠ .catchAll name := by
        cases segments with
        | nil => exact absurd (within [] (by simp) (by simp)) (unfilled single)
        | cons segment segments =>
            refine ⟨segment, segments, rfl, fun name caught => ?_⟩
            subst caught
            exact unfilled single (within [] (by simp) fits_all)
      cases other with
      | literal text =>
          obtain ⟨segment, segments, rfl, single⟩ := head fun _ => nofun
          obtain ⟨parts, filled, rest⟩ := exists_fits (solid_rest solid)
          cases segment with
          | literal other =>
              have here : Solid other := solid other List.mem_cons_self
              have follows {parts : List String} (filled : ∀ part ∈ parts, Solid part)
                  (rest : Fits segments parts) : other = text ∧ Fits others parts :=
                fits_literal.1 (within (other :: parts) (List.forall_mem_cons.2 ⟨here, filled⟩)
                  (fits_literal.2 ⟨rfl, rest⟩))
              obtain ⟨rfl, _⟩ := follows filled rest
              exact .literal other (induction (solid_rest solid) later fun parts filled rest =>
                (follows filled rest).2)
          | «variable» name =>
              -- A variable also stands for a segment other than the literal.
              obtain ⟨part, here, other⟩ := exists_solid_ne text
              have whole := within (part :: parts) (List.forall_mem_cons.2 ⟨here, filled⟩)
                (fits_one.2 rest)
              exact absurd (fits_literal.1 whole).1 other
          | catchAll name => exact absurd rfl (single name)
      | «variable» name =>
          obtain ⟨segment, segments, rfl, single⟩ := head fun _ => nofun
          obtain ⟨part, here, fits⟩ := exists_part single solid
          refine .one name single (induction (solid_rest solid) later fun parts solid rest => ?_)
          have whole := within (part :: parts) (List.forall_mem_cons.2 ⟨here, solid⟩)
            ((fits parts).2 rest)
          exact fits_one.1 whole
      | catchAll name =>
          obtain rfl := first name rfl
          exact .all segments name

theorem parse_solid {source : String} {template : Template}
    (accepted : parse source = .ok template) : LiteralsSolid template.segments := by
  obtain ⟨denoted, _⟩ := parse_denoted accepted
  have solid : ∀ part ∈ pathSegments source, Solid part := fun _ => solid_segments
  generalize pathSegments source = parts, template.segments = segments at denoted solid ⊢
  induction denoted with
  | nil => exact fun _ => nofun
  | cons here denoted induction =>
      obtain ⟨first, later⟩ := List.forall_mem_cons.1 solid
      rintro text (_ | ⟨_, member⟩)
      · cases here
        exact first
      · exact induction later text member

/-- A template matches what another one does exactly if it is its generalisation. -/
theorem within_iff_narrower {firstSource secondSource : String} {first second : Template}
    (firstRead : parse firstSource = .ok first) (secondRead : parse secondSource = .ok second) :
    first.Within second ↔ Narrower first.segments second.segments := by
  constructor
  · intro within
    refine narrower_of_fits (parse_solid firstRead) (parse_denoted secondRead).2
      fun parts solid fits => ?_
    have whole := within (pathOf parts)
    rw [match?, match?, path_segments_of solid] at whole
    exact whole fits
  · exact fun narrower path fits => fits_narrower narrower fits

end Template

end StreamHttp
