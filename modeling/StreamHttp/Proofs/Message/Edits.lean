import StreamHttp.Proofs.Message.Headers

/-!
Headers under edits. What headers hold is told by the history of their edits alone, name by name,
where names that differ only in case are one name: the values that were added since the name was
last set or removed. Names stand in the order of their first insertion since they were last removed.
-/

namespace StreamHttp

namespace Multimap

variable {name fresh : String} {change : List String → List String}
  {entries : List (String × List String)}

theorem names_alter :
    (alter name change fresh entries).map Prod.fst =
      if name ∈ entries.map Prod.fst then entries.map Prod.fst
      else entries.map Prod.fst ++ [name] := by
  induction entries with
  | nil => rfl
  | cons entry rest induction =>
      unfold alter
      by_cases same : entry.1 = name
      · rw [beq_iff_eq.2 same, if_pos rfl, List.map_cons, List.map_cons,
          if_pos (same ▸ List.mem_cons_self)]
      · have elsewhere : name ∈ (entry :: rest).map Prod.fst ↔ name ∈ rest.map Prod.fst := by
          rw [List.map_cons, List.mem_cons, or_iff_right (Ne.symm same)]
        rw [beq_false_of_ne same, if_neg Bool.false_ne_true, List.map_cons, induction]
        simp only [elsewhere]
        split
        · rfl
        · rfl

theorem filled_alter (filled : ∀ entry ∈ entries, entry.2 ≠ [])
    (fills : ∀ values, change values ≠ []) :
    ∀ entry ∈ alter name change fresh entries, entry.2 ≠ [] := by
  induction entries with
  | nil =>
      intro entry member
      rw [List.mem_singleton.1 member]
      exact List.cons_ne_nil _ _
  | cons first rest induction =>
      have behind := induction fun entry member => filled entry (List.mem_cons_of_mem _ member)
      unfold alter
      split
      · intro entry member
        rcases List.mem_cons.1 member with rfl | member
        · exact fills first.2
        · exact filled _ (List.mem_cons_of_mem _ member)
      · intro entry member
        rcases List.mem_cons.1 member with rfl | member
        · exact filled _ List.mem_cons_self
        · exact behind _ member

theorem get_all_entry {map : Multimap} (once : map.names.Nodup)
    {entry : String × List String} (listed : entry ∈ map.entries) :
    map.getAll entry.1 = entry.2 := by
  obtain ⟨entries⟩ := map
  unfold getAll values?
  simp only [names] at once listed ⊢
  induction entries with
  | nil => cases listed
  | cons first rest induction =>
      rw [List.map_cons, List.nodup_cons] at once
      rcases List.mem_cons.1 listed with rfl | listed
      · rw [List.find?_cons, beq_self_eq_true]
        rfl
      · have other : first.1 ≠ entry.1 := by
          intro same
          exact once.1 (same ▸ List.mem_map_of_mem listed)
        rw [List.find?_cons, beq_false_of_ne other]
        exact induction once.2 listed

theorem values_absent {map : Multimap} (absent : name ∉ map.names) : map.values? name = none := by
  unfold values?
  rw [Option.map_eq_none_iff, List.find?_eq_none]
  intro entry listed named
  exact absent (eq_of_beq named ▸ List.mem_map_of_mem listed)

theorem values_present {map : Multimap} (present : name ∈ map.names) :
    map.values? name = some (map.getAll name) := by
  obtain ⟨entry, listed, named⟩ := List.mem_map.1 present
  unfold getAll values?
  cases found : map.entries.find? (·.1 == name) with
  | some _ => rfl
  | none => exact absurd (beq_iff_eq.2 named) (List.find?_eq_none.1 found entry listed)

end Multimap

inductive HeaderEdit where
  | add (name value : String)
  | set (name value : String)
  | remove (name : String)
  deriving DecidableEq

namespace HeaderEdit

def name : HeaderEdit → String
  | .add name _ => name
  | .set name _ => name
  | .remove name => name

def concerns (asked : String) (edit : HeaderEdit) : Bool := Text.sameIgnoringCase edit.name asked

/-- What an edit makes of the values of its name. -/
def revise (values : List String) : HeaderEdit → List String
  | .add _ value => values ++ [value]
  | .set _ value => [value]
  | .remove _ => []

def isRemoval : HeaderEdit → Bool
  | .remove _ => true
  | _ => false

def held (asked : String) (edits : List HeaderEdit) : List String :=
  (edits.filter (concerns asked)).foldl revise []

/-- The places of the insertions under a name since it was last removed. -/
def insertions (asked : String) (edits : List HeaderEdit) : List Nat :=
  let own := (edits.zipIdx.filter fun entry => entry.1.concerns asked).reverse
  ((own.takeWhile fun entry => !entry.1.isRemoval).map Prod.snd).reverse

def place? (asked : String) (edits : List HeaderEdit) : Option Nat :=
  (insertions asked edits).head?

/-- One name was inserted before another one. -/
def Precedes (edits : List HeaderEdit) (left right : String) : Prop :=
  ∃ first second, place? left edits = some first ∧ place? right edits = some second ∧
    first < second

variable {asked : String} {edits : List HeaderEdit} {edit : HeaderEdit}

theorem concerns_iff :
    edit.concerns asked = true ↔ canonicalName edit.name = canonicalName asked :=
  (canonical_name_eq_iff _ _).symm

theorem held_own (own : edit.concerns asked = true) :
    held asked (edits ++ [edit]) = revise (held asked edits) edit := by
  have last : [edit].filter (concerns asked) = [edit] := List.filter_cons_of_pos own
  rw [held, List.filter_append, last, List.foldl_append]
  rfl

theorem held_other (other : ¬edit.concerns asked = true) :
    held asked (edits ++ [edit]) = held asked edits := by
  have last : [edit].filter (concerns asked) = [] := List.filter_cons_of_neg other
  rw [held, List.filter_append, last, List.append_nil]
  rfl

theorem insertions_own (own : edit.concerns asked = true) :
    insertions asked (edits ++ [edit]) =
      if edit.isRemoval then [] else insertions asked edits ++ [edits.length] := by
  have last : ([edit].zipIdx edits.length).filter (fun entry => entry.1.concerns asked) =
      [(edit, edits.length)] := List.filter_cons_of_pos own
  unfold insertions
  dsimp only
  rw [List.zipIdx_append, Nat.zero_add, List.filter_append, last, List.reverse_append,
    List.reverse_singleton, List.singleton_append]
  cases removal : edit.isRemoval with
  | true =>
      rw [List.takeWhile_cons_of_neg (by simp [removal])]
      rfl
  | false =>
      rw [List.takeWhile_cons_of_pos (by simp [removal]), List.map_cons, List.reverse_cons]
      rfl

theorem insertions_other (other : ¬edit.concerns asked = true) :
    insertions asked (edits ++ [edit]) = insertions asked edits := by
  have last : ([edit].zipIdx edits.length).filter (fun entry => entry.1.concerns asked) = [] :=
    List.filter_cons_of_neg other
  unfold insertions
  rw [List.zipIdx_append, Nat.zero_add, List.filter_append, last, List.append_nil]

theorem place_own (own : edit.concerns asked = true) :
    place? asked (edits ++ [edit]) =
      if edit.isRemoval then none else some ((place? asked edits).getD edits.length) := by
  unfold place?
  rw [insertions_own own]
  cases edit.isRemoval with
  | true => rfl
  | false =>
      rw [if_neg Bool.false_ne_true, if_neg Bool.false_ne_true, List.head?_append]
      cases (insertions asked edits).head? with
      | none => rfl
      | some _ => rfl

theorem place_other (other : ¬edit.concerns asked = true) :
    place? asked (edits ++ [edit]) = place? asked edits := by
  unfold place?
  rw [insertions_other other]

theorem place_kept {place : Nat} (placed : place? asked edits = some place)
    (kept : edit.concerns asked = true → edit.isRemoval = false) :
    place? asked (edits ++ [edit]) = some place := by
  by_cases own : edit.concerns asked = true
  · rw [place_own own, kept own, if_neg Bool.false_ne_true, placed]
    rfl
  · rw [place_other own, placed]

theorem place_lt {place : Nat} (placed : place? asked edits = some place) :
    place < edits.length := by
  have listed := List.mem_of_mem_head? (Option.mem_def.2 placed)
  obtain ⟨entry, taken, rfl⟩ := List.mem_map.1 (List.mem_reverse.1 listed)
  have numbered := List.mem_reverse.1 (List.takeWhile_subset _ taken)
  exact List.snd_lt_of_mem_zipIdx (List.mem_filter.1 numbered).1

theorem Precedes.kept {left right : String} (before : Precedes edits left right)
    (first : edit.concerns left = true → edit.isRemoval = false)
    (second : edit.concerns right = true → edit.isRemoval = false) :
    Precedes (edits ++ [edit]) left right := by
  obtain ⟨own, other, placed, placedToo, less⟩ := before
  exact ⟨own, other, place_kept placed first, place_kept placedToo second, less⟩

end HeaderEdit

namespace Headers

open HeaderEdit

def edit (headers : Headers) : HeaderEdit → Headers
  | .add name value => headers.add name value
  | .set name value => headers.set name value
  | .remove name => (headers.remove name).2

theorem get_all_edit (headers : Headers) (edit : HeaderEdit) (asked : String) :
    (headers.edit edit).getAll asked =
      if edit.concerns asked then edit.revise (headers.getAll asked) else headers.getAll asked := by
  by_cases own : edit.concerns asked = true
  · have same := concerns_iff.1 own
    rw [if_pos own]
    unfold getAll
    rw [← same]
    cases edit with
    | add name value => exact Multimap.get_all_add_same _ _ _
    | set name value => exact Multimap.get_all_set_same _ _ _
    | remove name =>
        have absent : canonicalName name ∉ (headers.fields.erase (canonicalName name)).names := by
          intro present
          obtain ⟨entry, kept, named⟩ := List.mem_map.1 present
          simpa [named] using (List.mem_filter.1 kept).2
        exact congrArg (Option.getD · []) (Multimap.values_absent absent)
  · have different : canonicalName edit.name ≠ canonicalName asked :=
      fun same => own (concerns_iff.2 same)
    rw [if_neg own]
    cases edit with
    | add name value => exact Multimap.get_all_add_other different _ _
    | set name value => exact Multimap.get_all_set_other different _ _
    | remove name =>
        have found := Multimap.find_erased different headers.fields.entries
        exact congrArg (fun entry => (entry.map Prod.snd).getD []) found

/-- A removal takes a name off the list; an insertion puts it at the end, if it is not there. -/
theorem names_edit (headers : Headers) (edit : HeaderEdit) :
    (headers.edit edit).names =
      if edit.isRemoval then headers.names.filter fun other => !(other == canonicalName edit.name)
      else if canonicalName edit.name ∈ headers.names then headers.names
      else headers.names ++ [canonicalName edit.name] := by
  cases edit with
  | add name value => exact Multimap.names_alter
  | set name value => exact Multimap.names_alter
  | remove name =>
      change (headers.fields.entries.filter _).map Prod.fst =
        (headers.fields.entries.map Prod.fst).filter _
      rw [List.filter_map]
      rfl

theorem filled_edit {headers : Headers} (filled : ∀ entry ∈ headers.fields.entries, entry.2 ≠ [])
    (edit : HeaderEdit) : ∀ entry ∈ (headers.edit edit).fields.entries, entry.2 ≠ [] := by
  cases edit with
  | add name value =>
      exact Multimap.filled_alter filled fun values => List.append_ne_nil_of_right_ne_nil values nofun
  | set name value => exact Multimap.filled_alter filled fun _ => List.cons_ne_nil _ _
  | remove name => exact fun entry kept => filled entry (List.mem_filter.1 kept).1

def edited (edits : List HeaderEdit) : Headers := edits.foldl edit {}

/-- Headers hold what a history of edits leaves. -/
structure Reflects (headers : Headers) (edits : List HeaderEdit) : Prop where
  values : ∀ asked, headers.getAll asked = held asked edits
  filled : ∀ entry ∈ headers.fields.entries, entry.2 ≠ []
  listed : ∀ asked, canonicalName asked ∈ headers.names ↔ (place? asked edits).isSome = true
  ordered : headers.names.Pairwise (Precedes edits)

variable {headers : Headers} {edits : List HeaderEdit}

theorem reflects_none : ({} : Headers).Reflects [] where
  values _ := rfl
  filled := List.forall_mem_nil _
  listed _ := iff_of_false List.not_mem_nil Bool.false_ne_true
  ordered := .nil

theorem Reflects.once (reflects : headers.Reflects edits) : headers.names.Nodup := by
  refine reflects.ordered.imp ?_
  rintro left _ ⟨first, second, placed, placedToo, less⟩ rfl
  cases placed.symm.trans placedToo
  exact Nat.lt_irrefl _ less

theorem Reflects.present_iff (reflects : headers.Reflects edits) (asked : String) :
    canonicalName asked ∈ headers.names ↔ held asked edits ≠ [] := by
  rw [← reflects.values]
  constructor
  · intro present
    obtain ⟨entry, listed, named⟩ := List.mem_map.1 present
    rw [getAll, ← named, Multimap.get_all_entry reflects.once listed]
    exact reflects.filled entry listed
  · intro filled
    by_cases present : canonicalName asked ∈ headers.names
    · exact present
    · rw [getAll, Multimap.getAll, Multimap.values_absent present] at filled
      exact absurd rfl filled

theorem Reflects.looked_up (reflects : headers.Reflects edits) (asked : String) :
    (headers.remove asked).1 =
      if held asked edits = [] then none else some (held asked edits) := by
  have present := reflects.present_iff asked
  split
  next empty =>
    exact Multimap.values_absent fun listed => present.1 listed empty
  next filled =>
    rw [← reflects.values]
    exact Multimap.values_present (present.2 filled)

theorem Reflects.listed_edit (reflects : headers.Reflects edits) (edit : HeaderEdit)
    (asked : String) :
    canonicalName asked ∈ (headers.edit edit).names ↔
      (place? asked (edits ++ [edit])).isSome = true := by
  rw [names_edit]
  by_cases own : edit.concerns asked = true
  · rw [place_own own, concerns_iff.1 own]
    cases edit.isRemoval with
    | true =>
        refine iff_of_false (fun member => ?_) Bool.false_ne_true
        simpa using (List.mem_filter.1 member).2
    | false =>
        refine iff_of_true ?_ rfl
        rw [if_neg Bool.false_ne_true]
        split
        next present => exact present
        next => exact List.mem_append_right _ (List.mem_singleton_self _)
  · have different : canonicalName asked ≠ canonicalName edit.name :=
      fun same => own (concerns_iff.2 same.symm)
    rw [place_other own, ← reflects.listed]
    cases edit.isRemoval with
    | true =>
        rw [if_pos rfl, List.mem_filter, beq_false_of_ne different]
        exact and_iff_left rfl
    | false =>
        rw [if_neg Bool.false_ne_true]
        split
        next => exact Iff.rfl
        next =>
          rw [List.mem_append, List.mem_singleton]
          exact or_iff_left different

theorem Reflects.ordered_edit (reflects : headers.Reflects edits) (edit : HeaderEdit) :
    (headers.edit edit).names.Pairwise (Precedes (edits ++ [edit])) := by
  rw [names_edit]
  cases removal : edit.isRemoval with
  | true =>
      rw [if_pos rfl]
      have other {name : String}
          (kept : name ∈ headers.names.filter fun other => !(other == canonicalName edit.name)) :
          edit.concerns name = true → edit.isRemoval = false := by
        intro own
        obtain ⟨listed, different⟩ := List.mem_filter.1 kept
        rw [concerns_iff.1 own, headers.canonical name listed] at different
        simp at different
      exact (reflects.ordered.filter _).imp_of_mem fun first second before =>
        before.kept (other first) (other second)
  | false =>
      have earlier : headers.names.Pairwise (Precedes (edits ++ [edit])) :=
        reflects.ordered.imp fun before => before.kept (fun _ => removal) fun _ => removal
      rw [if_neg Bool.false_ne_true]
      split
      next => exact earlier
      next absent =>
        refine List.pairwise_append.2 ⟨earlier, List.pairwise_singleton _ _, ?_⟩
        intro left member right last
        rw [List.mem_singleton.1 last]
        have spelled := headers.canonical left member
        have present := (reflects.listed left).1 (spelled.symm ▸ member)
        obtain ⟨place, placed⟩ := Option.isSome_iff_exists.1 present
        have own : edit.concerns (canonicalName edit.name) = true :=
          concerns_iff.2 (canonical_name_twice _).symm
        have fresh : place? (canonicalName edit.name) edits = none := by
          rw [← Option.not_isSome_iff_eq_none, ← reflects.listed, canonical_name_twice]
          exact absent
        refine ⟨place, edits.length, place_kept placed fun _ => removal, ?_, place_lt placed⟩
        rw [place_own own, removal, fresh]
        rfl

theorem Reflects.edit (reflects : headers.Reflects edits) (edit : HeaderEdit) :
    (headers.edit edit).Reflects (edits ++ [edit]) where
  values asked := by
    rw [get_all_edit, reflects.values]
    by_cases own : edit.concerns asked = true
    · rw [if_pos own, held_own own]
    · rw [if_neg own, held_other own]
  filled := filled_edit reflects.filled edit
  listed := reflects.listed_edit edit
  ordered := reflects.ordered_edit edit

/-- Behind more edits the headers hold what all of them together leave. -/
theorem Reflects.edited (reflects : headers.Reflects edits) (more : List HeaderEdit) :
    (more.foldl Headers.edit headers).Reflects (edits ++ more) := by
  induction more generalizing headers edits with
  | nil =>
      rw [List.append_nil]
      exact reflects
  | cons edit more induction =>
      have behind := induction (reflects.edit edit)
      rw [List.append_assoc, List.singleton_append] at behind
      exact behind

/-- Headers are a multimap of names that are compared without regard to case. Behind any edits the
look-ups of a name give the values that were added since it was last set or removed; every name
that is stored is canonical, is stored once and has values; names are listed in the order of their
first insertion since they were last removed. Two names have one canonical spelling exactly if they
differ in nothing but the case of their letters. -/
theorem edited_multimap (edits : List HeaderEdit) :
    (∀ asked,
      (edited edits).getAll asked = held asked edits ∧
      (edited edits).get? asked = (held asked edits).head? ∧
      ((edited edits).contains asked = true ↔ held asked edits ≠ []) ∧
      ((edited edits).remove asked).1 =
        (if held asked edits = [] then none else some (held asked edits)) ∧
      (canonicalName asked ∈ (edited edits).names ↔ held asked edits ≠ []) ∧
      (held asked edits ≠ [] ↔ (place? asked edits).isSome = true)) ∧
    (∀ entry ∈ (edited edits).fields.entries,
      canonicalName entry.1 = entry.1 ∧ entry.2 = held entry.1 edits ∧ entry.2 ≠ []) ∧
    (edited edits).names.Nodup ∧
    (edited edits).names.Pairwise (Precedes edits) ∧
    (∀ name, canonicalName (canonicalName name) = canonicalName name) ∧
    ∀ left right,
      canonicalName left = canonicalName right ↔ Text.sameIgnoringCase left right = true := by
  have reflects : (edited edits).Reflects edits := reflects_none.edited edits
  refine ⟨fun asked => ?_, fun entry listed => ?_, reflects.once, reflects.ordered,
    canonical_name_twice, canonical_name_eq_iff⟩
  · have present := reflects.present_iff asked
    have looked := reflects.looked_up asked
    refine ⟨reflects.values asked, ?_, ?_, looked, present, ?_⟩
    · rw [get?, reflects.values]
    · rw [contains, Multimap.contains]
      change ((edited edits).remove asked).1.isSome = true ↔ _
      rw [looked]
      split
      next empty => exact iff_of_false Bool.false_ne_true fun filled => filled empty
      next filled => exact iff_of_true rfl filled
    · rw [← present, reflects.listed]
  · have canonical := (edited edits).canonical entry.1 (List.mem_map_of_mem listed)
    refine ⟨canonical, ?_, reflects.filled entry listed⟩
    rw [← reflects.values, getAll, canonical]
    exact (Multimap.get_all_entry reflects.once listed).symm

/-- A set leaves a name in its place, and a name that was removed comes back at the end. -/
example :
    (edited [.add "accept" "a", .add "HOST" "h", .set "Accept" "b", .add "accept" "c"]).pairs =
        [("Accept", "b"), ("Accept", "c"), ("Host", "h")] ∧
      (edited [.add "accept" "a", .add "HOST" "h", .remove "Accept", .add "accept" "c"]).pairs =
        [("Host", "h"), ("Accept", "c")] := by
  decide

end Headers

end StreamHttp
