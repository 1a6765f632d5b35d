import StreamHttp.Arguments.Binder
import StreamHttp.Exchange.Filter
import StreamHttp.Proofs.Stream.Alike
import StreamHttp.Routing.Table

/-!
What programs do with bodies. A program that reads bodies only to a given count, to the end, or as a
whole cannot learn how its input was cut; a single read can tell. A program that buffers them only
under limits that there can be room for does not fault. Binding makes no single reads, and buffers
under its own limit.
-/

namespace StreamHttp

namespace Program

variable {ω ρ τ : Type} {habits : Habits}

/-- Bodies are used as the habits allow, and every result is as `post` says. -/
def Obeys (habits : Habits) (post : ρ → Prop) : Program ω ρ → Prop
  | .done result => post result
  | .look next => ∀ workspace, (next workspace).Obeys habits post
  | .change _ rest => rest.Obeys habits post
  | .later rest => rest.Obeys habits post
  | .buffer limit _ next => habits.limits limit ∧ ∀ result body, (next result body).Obeys habits post
  | .read _ _ next => ∀ result reader, (next result reader).Obeys habits post
  | .receive _ _ next => habits.single ∧ ∀ result reader, (next result reader).Obeys habits post
  | .drop _ rest => rest.Obeys habits post
  | .split _ next => ∀ result body, (next result body).Obeys habits post
  | .release _ next => ∀ result body, (next result body).Obeys habits post

theorem obeys_any {post : ρ → Prop} (held : ∀ result, post result) (program : Program ω ρ) :
    program.Obeys .any post := by
  induction program with
  | done result => exact held result
  | look next induction => exact induction
  | change step rest induction => exact induction
  | later rest induction => exact induction
  | buffer limit body next induction => exact ⟨trivial, induction⟩
  | read allowance reader next induction => exact induction
  | receive count reader next induction => exact ⟨trivial, induction⟩
  | drop reader rest induction => exact induction
  | split body next induction => exact induction
  | release body next induction => exact induction

theorem obeys_bind {between : ρ → Prop} {post : τ → Prop} {program : Program ω ρ}
    {continuation : ρ → Program ω τ} (first : program.Obeys habits between)
    (rest : ∀ result, between result → (continuation result).Obeys habits post) :
    (program.bind continuation).Obeys habits post := by
  induction program with
  | done result => exact rest result first
  | look next induction => exact fun workspace => induction workspace (first workspace)
  | change step after induction => exact induction first
  | later after induction => exact induction first
  | buffer limit body next induction =>
      exact ⟨first.1, fun result body => induction result body (first.2 result body)⟩
  | read allowance reader next induction =>
      exact fun result reader => induction result reader (first result reader)
  | receive count reader next induction =>
      exact ⟨first.1, fun result reader => induction result reader (first.2 result reader)⟩
  | drop reader after induction => exact induction first
  | split body next induction =>
      exact fun result body => induction result body (first result body)
  | release body next induction =>
      exact fun result body => induction result body (first result body)

end Program

namespace Binding

variable {α β : Type} {habits : Habits}

def Obeys (habits : Habits) (binding : Binding α) : Prop :=
  (ExceptT.run binding).Obeys habits fun _ => True

theorem obeys_pure (value : α) : Obeys habits (pure value : Binding α) := trivial

theorem obeys_result (result : Except BindingError α) : Obeys habits (ofResult result) := trivial

theorem obeys_body_result (result : Except BodyError α) : Obeys habits (ofBodyResult result) :=
  trivial

theorem obeys_request : Obeys habits request := fun _ => trivial

theorem obeys_alter (change : Request → Request) : Obeys habits (alter change) := trivial

theorem obeys_bind {binding : Binding α} {next : α → Binding β} (first : Obeys habits binding)
    (rest : ∀ value, Obeys habits (next value)) : Obeys habits (binding >>= next) := by
  apply Program.obeys_bind first
  intro result _
  cases result with
  | error error => exact trivial
  | ok value => exact rest value

theorem obeys_take_body : Obeys habits takeBody := by
  apply obeys_bind obeys_request
  intro request
  exact obeys_bind (obeys_alter _) fun _ => obeys_body_result _

variable {limit : Nat} (allowed : habits.limits limit)

include allowed

theorem obeys_buffer : Obeys habits (buffer limit) := by
  apply obeys_bind obeys_request
  intro request
  refine obeys_bind ⟨allowed, fun _ _ => trivial⟩ ?_
  intro answer
  exact obeys_bind (obeys_alter _) fun _ => obeys_body_result _

theorem obeys_decoded_body (codecs : Codecs) :
    Obeys habits (decodedBody codecs limit) := by
  apply obeys_bind obeys_request
  intro request
  simp only
  split
  · exact obeys_pure _
  · apply obeys_bind (obeys_buffer allowed)
    intro bytes
    split
    · exact obeys_pure _
    · apply obeys_bind (obeys_result _)
      intro value
      exact obeys_bind (obeys_alter _) fun _ => obeys_pure _

theorem obeys_lookup (codecs : Codecs) (param : Param) :
    Obeys habits (lookup codecs limit param) := by
  apply obeys_bind obeys_request
  intro request
  simp only
  split
  · exact obeys_pure _
  · split
    · exact obeys_pure _
    · exact obeys_pure _
    · exact obeys_pure _
  · exact obeys_pure _
  · exact obeys_pure _
  · exact obeys_bind (obeys_decoded_body allowed codecs) fun _ => obeys_pure _
  · exact obeys_bind (obeys_buffer allowed) fun _ => obeys_pure _
  · exact obeys_bind obeys_take_body fun _ => obeys_pure _
  · exact obeys_bind (obeys_decoded_body allowed codecs) fun _ => obeys_pure _

theorem obeys_bind_param (codecs : Codecs) (arguments : Arguments) (param : Param) :
    Obeys habits (bindParam codecs limit arguments param) := by
  unfold bindParam
  split
  · exact obeys_bind (obeys_result _) fun _ => obeys_pure _
  · exact obeys_pure _
  · apply obeys_bind (obeys_lookup allowed codecs param)
    intro found
    split
    · exact obeys_pure _
    · exact obeys_bind (obeys_result _) fun _ => obeys_pure _

/-- An engine that binds arguments from the request reads bodies as a whole. -/
theorem obeys_request_binder (codecs : Codecs) (spec : RouteSpec) (arguments : Arguments) :
    Obeys habits (Satisfier.requestBinder codecs limit spec arguments) := by
  unfold Satisfier.requestBinder
  generalize spec.params = params
  induction params generalizing arguments with
  | nil => exact obeys_pure _
  | cons param rest induction =>
      rw [List.foldlM_cons]
      exact obeys_bind (obeys_bind_param allowed codecs arguments param) induction

end Binding

end StreamHttp
