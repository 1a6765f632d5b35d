import Mathlib.Data.List.Perm.Basic
import StreamHttp.Proofs.Arguments.Lookups
import StreamHttp.Proofs.Arguments.Typing

/-!
The order of parameters. Parameters with names of their own look at nothing that another one binds,
and their lookups may change places; so their order makes no difference to whether they are bound,
and to what.
-/

namespace StreamHttp

namespace Arguments

/-- The same values under the same names. -/
def Same (left right : Arguments) : Prop := ∀ name, left.value? name = right.value? name

def fill (arguments : Arguments) (name : String) : Option Argument → Arguments
  | none => arguments
  | some value => arguments.insert name value

theorem value_fill (arguments : Arguments) (name asked : String) (value : Option Argument) :
    (arguments.fill name value).value? asked =
      if asked = name then value.or (arguments.value? asked) else arguments.value? asked := by
  cases value with
  | none =>
      rw [Option.none_or, ite_self]
      rfl
  | some value =>
      by_cases same : asked = name
      · subst same
        rw [if_pos rfl]
        exact arguments.value_insert_same asked value
      · rw [if_neg same]
        exact arguments.value_insert_other value same

theorem Same.fill {left right : Arguments} (same : left.Same right) (name : String)
    (value : Option Argument) : (left.fill name value).Same (right.fill name value) := by
  intro asked
  rw [value_fill, value_fill, same asked]

theorem same_fill_fill (arguments : Arguments) {first second : String} (different : first ≠ second)
    (one two : Option Argument) :
    ((arguments.fill first one).fill second two).Same
      ((arguments.fill second two).fill first one) := by
  intro asked
  rw [value_fill, value_fill, value_fill, value_fill]
  by_cases isFirst : asked = first
  · have notSecond : asked ≠ second := isFirst ▸ different
    rw [if_neg notSecond, if_neg notSecond]
  · rw [if_neg isFirst, if_neg isFirst]

end Arguments

namespace Binding

variable {α β : Type} {codecs : Codecs} {limit : Nat}

/-- What is bound for a parameter where its name has a value already, or none. -/
def provision (codecs : Codecs) (limit : Nat) (arguments : Arguments) (param : Param) :
    Course (Option Argument) := do
  let raw ← success (present codecs limit arguments param)
  Course.given (param.typed raw).toOption

theorem success_bind_param (codecs : Codecs) (limit : Nat) (arguments : Arguments)
    (param : Param) :
    success (bindParam codecs limit arguments param) = (do
      let value ← provision codecs limit arguments param
      return arguments.fill param.name value) := by
  funext intake
  unfold provision
  rw [bind_assoc]
  change success _ intake = (success _ intake).bind _
  unfold success
  rw [run_bind_param]
  rcases (ExceptT.run (present codecs limit arguments param)).run intake.request intake.streams with
    ⟨_ | _ | raw, request, streams⟩
  · rfl
  · rfl
  · simp only [Option.bind_some, Param.typed]
    cases raw.ofType param <;> rfl

/-- What is bound for a parameter depends on the value under its name alone. -/
theorem provision_congr {left right : Arguments} {param : Param}
    (same : left.value? param.name = right.value? param.name) :
    provision codecs limit left param = provision codecs limit right param := by
  unfold provision present
  rw [same]

theorem present_next_lookup (arguments : Arguments) {param : Param} {second : Course β}
    (apart : Course.Interchange (success (lookup codecs limit param)) second) :
    Course.Interchange (success (present codecs limit arguments param)) second := by
  unfold present
  split
  · exact Course.interchange_pure _ second
  · exact Course.interchange_pure _ second
  · exact apart

theorem interchange_provisions (codecs : Codecs) (limit : Nat) (left right : Arguments)
    (first second : Param) :
    Course.Interchange (provision codecs limit left first)
      (provision codecs limit right second) := by
  have looked := present_next_lookup left (interchange_lookups codecs limit first second)
  have both := (present_next_lookup right looked.swapped).swapped
  have typed := both.next fun raw =>
    Course.interchange_given (first.typed raw).toOption _
  exact (typed.swapped.next fun raw =>
    Course.interchange_given (second.typed raw).toOption _).swapped

def Alike (left right : Course Arguments) : Prop :=
  ∀ intake, Option.Rel (fun one two => one.1.Same two.1 ∧ one.2 = two.2) (left intake) (right intake)

theorem Alike.trans {one two three : Course Arguments} (first : Alike one two)
    (second : Alike two three) : Alike one three := by
  intro intake
  have left := first intake
  have right := second intake
  generalize one intake = reached at left ⊢
  generalize two intake = between at left right
  generalize three intake = last at right ⊢
  cases left with
  | none => exact right
  | some pair =>
      cases right with
      | some next => exact .some ⟨fun name => (pair.1 name).trans (next.1 name), pair.2.trans next.2⟩

theorem Alike.next {left right : Course Arguments} (first : Alike left right)
    {one two : Arguments → Course Arguments}
    (rest : ∀ former latter, former.Same latter → Alike (one former) (two latter)) :
    Alike (left >>= one) (right >>= two) := by
  intro intake
  have reached := first intake
  change Option.Rel _ ((left intake).bind _) ((right intake).bind _)
  generalize left intake = former at reached ⊢
  generalize right intake = latter at reached ⊢
  cases reached with
  | none => exact .none
  | @some former latter pair =>
      obtain ⟨arguments, intake⟩ := former
      obtain ⟨others, _⟩ := latter
      obtain ⟨same, rfl⟩ := pair
      exact rest arguments others same intake

theorem alike_made (course : Course α) (one two : α → Arguments)
    (same : ∀ value, (one value).Same (two value)) :
    Alike (course >>= fun value => pure (one value)) (course >>= fun value => pure (two value)) := by
  intro intake
  change Option.Rel _ ((course intake).bind _) ((course intake).bind _)
  cases course intake with
  | none => exact .none
  | some reached => exact .some ⟨same reached.1, rfl⟩

def binding (codecs : Codecs) (limit : Nat) (params : List Param) (arguments : Arguments) :
    Course Arguments :=
  success (params.foldlM (bindParam codecs limit) arguments)

theorem binding_cons (param : Param) (params : List Param) (arguments : Arguments) :
    binding codecs limit (param :: params) arguments =
      success (bindParam codecs limit arguments param) >>= binding codecs limit params := by
  unfold binding
  rw [List.foldlM_cons, success_bind]

theorem alike_bind_param (param : Param) {left right : Arguments} (same : left.Same right) :
    Alike (success (bindParam codecs limit left param))
      (success (bindParam codecs limit right param)) := by
  rw [success_bind_param, success_bind_param, provision_congr (same param.name)]
  exact alike_made _ _ _ fun value => same.fill param.name value

theorem alike_binding (codecs : Codecs) (limit : Nat) (params : List Param)
    {left right : Arguments} (same : left.Same right) :
    Alike (binding codecs limit params left) (binding codecs limit params right) := by
  induction params generalizing left right with
  | nil =>
      intro intake
      exact .some ⟨same, rfl⟩
  | cons param params induction =>
      rw [binding_cons, binding_cons]
      exact (alike_bind_param param same).next fun _ _ => induction

theorem alike_swapped (codecs : Codecs) (limit : Nat) {first second : Param}
    (different : first.name ≠ second.name) (arguments : Arguments) :
    Alike (success (bindParam codecs limit arguments first) >>= fun next =>
        success (bindParam codecs limit next second))
      (success (bindParam codecs limit arguments second) >>= fun next =>
        success (bindParam codecs limit next first)) := by
  have own {one two : Param} (apart : two.name ≠ one.name) (value : Option Argument) :
      provision codecs limit (arguments.fill one.name value) two =
        provision codecs limit arguments two := by
    apply provision_congr
    rw [Arguments.value_fill, if_neg apart]
  -- Neither sees what is put under the name of the other, so both are provided for beforehand.
  have order := interchange_provisions codecs limit arguments arguments first second
  unfold Course.Interchange at order
  have turned := congrArg (fun course : Course (Option Argument × Option Argument) =>
    course >>= fun pair => pure ((arguments.fill second.name pair.2).fill first.name pair.1)) order
  simp only [bind_assoc, pure_bind] at turned
  simp only [success_bind_param, bind_assoc, pure_bind, own different, own different.symm]
  rw [← turned]
  have filled := alike_made
    (do
      let one ← provision codecs limit arguments first
      let two ← provision codecs limit arguments second
      return (one, two))
    (fun pair => (arguments.fill first.name pair.1).fill second.name pair.2)
    (fun pair => (arguments.fill second.name pair.2).fill first.name pair.1)
    fun pair => arguments.same_fill_fill different pair.1 pair.2
  simp only [bind_assoc, pure_bind] at filled
  exact filled

theorem alike_permuted (codecs : Codecs) (limit : Nat) {params others : List Param}
    (permuted : params.Perm others) (distinct : (params.map Param.name).Nodup)
    {left right : Arguments} (same : left.Same right) :
    Alike (binding codecs limit params left) (binding codecs limit others right) := by
  induction permuted generalizing left right with
  | nil => exact alike_binding codecs limit [] same
  | cons param _ induction =>
      have later := (List.nodup_cons.1 distinct).2
      rw [binding_cons, binding_cons]
      exact (alike_bind_param param same).next fun _ _ => induction later
  | swap first second params =>
      have different : second.name ≠ first.name :=
        fun equal => (List.nodup_cons.1 distinct).1 (equal ▸ List.mem_cons_self)
      -- The arguments may differ in their order as well: they are replaced first, then swapped.
      apply Alike.trans _ (alike_binding codecs limit (first :: second :: params) same)
      have rest (former latter : Arguments) (equal : former.Same latter) :=
        alike_binding codecs limit params equal
      have swapped := (alike_swapped codecs limit different left).next rest
      simp only [bind_assoc, ← binding_cons] at swapped
      exact swapped
  | trans first second one two =>
      have behind := ((first.map Param.name).nodup_iff).1 distinct
      exact (one distinct (fun _ => rfl)).trans (two behind same)

theorem run_ok_iff {step : Binding α} {intake after : Intake} {value : α} :
    step.run intake = (.ok value, after) ↔
      ∃ reached, success step intake = some (value, reached) ∧
        after = { reached with request := { reached.request with head := intake.request.head } } := by
  unfold run success
  rcases (ExceptT.run step).run intake.request intake.streams with ⟨_ | given, request, streams⟩
  · constructor
    · exact nofun
    · rintro ⟨_, impossible, _⟩
      cases impossible
  · constructor
    · rintro ⟨⟩
      exact ⟨⟨request, streams⟩, rfl, rfl⟩
    · rintro ⟨_, ⟨⟩, rfl⟩
      rfl

/-- Parameters with names of their own may be declared in any order: the binding succeeds in one
order exactly if it does in the other, binds the same names to the same values, and leaves the same
of the request and its streams. -/
theorem bound_in_any_order (codecs : Codecs) (limit : Nat) (spec other : RouteSpec)
    (permuted : spec.params.Perm other.params) (distinct : (spec.params.map Param.name).Nodup)
    (arguments : Arguments) (intake : Intake) :
    ((∃ filled after,
        (Satisfier.requestBinder codecs limit spec arguments).run intake = (.ok filled, after)) ↔
      ∃ filled after,
        (Satisfier.requestBinder codecs limit other arguments).run intake = (.ok filled, after)) ∧
      ∀ filled after refilled behind,
        (Satisfier.requestBinder codecs limit spec arguments).run intake = (.ok filled, after) →
        (Satisfier.requestBinder codecs limit other arguments).run intake =
          (.ok refilled, behind) →
        (∀ name, filled.value? name = refilled.value? name) ∧ after = behind := by
  have unchanged : arguments.Same arguments := fun _ => rfl
  have ran := alike_permuted codecs limit permuted distinct unchanged intake
  simp only [run_ok_iff]
  change Option.Rel _ (success (Satisfier.requestBinder codecs limit spec arguments) intake)
    (success (Satisfier.requestBinder codecs limit other arguments) intake) at ran
  generalize success (Satisfier.requestBinder codecs limit spec arguments) intake = one at ran
  generalize success (Satisfier.requestBinder codecs limit other arguments) intake = two at ran
  cases ran with
  | none =>
      constructor
      · constructor
        · rintro ⟨_, _, _, impossible, _⟩
          cases impossible
        · rintro ⟨_, _, _, impossible, _⟩
          cases impossible
      · rintro _ _ _ _ ⟨_, impossible, _⟩
        cases impossible
  | @some former latter pair =>
      obtain ⟨filled, reached⟩ := former
      obtain ⟨refilled, _⟩ := latter
      obtain ⟨same, rfl⟩ := pair
      constructor
      · exact ⟨fun _ => ⟨refilled, _, reached, rfl, rfl⟩, fun _ => ⟨filled, _, reached, rfl, rfl⟩⟩
      · rintro _ _ _ _ ⟨_, ⟨⟩, rfl⟩ ⟨_, ⟨⟩, rfl⟩
        exact ⟨same, rfl⟩

/-- A field of a body and its bytes, which are read once, for the one that comes first. -/
theorem bound_in_any_order_pet :
    let name : Param := ⟨"name", .bodyField, .string, true⟩
    let raw : Param := ⟨"raw", .rawBody, .string, true⟩
    let pet := Intake.ofBody (Head.make "POST" ⟨none, none, "/pets", none⟩ {})
      (Body.ofBytes (Bytes.ofString "\x7b\"name\": \"Rex\"\x7d"))
    let bound (params : List Param) :=
      (Satisfier.requestBinder Codecs.standard 1024 { params } {}).run pet
    [name, raw].Perm [raw, name] ∧ ([name, raw].map Param.name).Nodup ∧
      ∃ filled refilled after, bound [name, raw] = (.ok filled, after) ∧
        bound [raw, name] = (.ok refilled, after) ∧ filled.contains "name" = true ∧
        refilled.value? "name" = filled.value? "name" := by
  intro name raw pet bound
  have permuted : [name, raw].Perm [raw, name] := .swap raw name []
  have distinct : ([name, raw].map Param.name).Nodup := by decide
  have passes : (bound [name, raw]).1.toOption.any (·.contains "name") = true := by
    decide +kernel
  obtain ⟨filled, after, ran, contained⟩ := exists_run passes
  obtain ⟨both, alike⟩ := bound_in_any_order Codecs.standard 1024 { params := [name, raw] }
    { params := [raw, name] } permuted distinct {} pet
  obtain ⟨refilled, behind, again⟩ := both.1 ⟨filled, after, ran⟩
  obtain ⟨same, rfl⟩ := alike filled after refilled behind ran again
  exact ⟨permuted, distinct, filled, refilled, after, ran, again, contained, (same "name").symm⟩

end Binding

end StreamHttp
