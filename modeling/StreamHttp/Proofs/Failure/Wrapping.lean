import StreamHttp.Exchange.ExceptionHandler
import StreamHttp.Routing.Table

/-!
What wrapping makes of an error. The chain of an error that was wrapped as the error of a handler
has a link for every wrapper, and then the sources of the error itself. One that shows another
error as its own, for the binding of arguments, a codec or a body, has that one's sources: the error
that it shows is found as long as it is not wrapped, and passed over behind a wrapper.
-/

namespace StreamHttp

variable {σ : Type}

/-- A link of the chain of an error is of one of some kinds. -/
def Cause.Shows (kinds : List ErrorKind) (cause : Cause) : Prop :=
  ∃ link ∈ cause.chain, ∃ kind ∈ kinds, link.isOf kind = true

/-- Where a chain is searched link by link for what was registered for a kind, something is found
exactly if a link is of a kind that something was registered for. -/
theorem Cause.shows_registered {ε : Type} (entries : List ε) (kind : ε → ErrorKind)
    (cause : Cause) :
    (∃ link ∈ cause.chain, ∃ entry ∈ entries, link.isOf (kind entry) = true) ↔
      cause.Shows (entries.map kind) := by
  constructor
  · rintro ⟨link, listed, entry, registered, same⟩
    exact ⟨link, listed, kind entry, List.mem_map_of_mem registered, same⟩
  · rintro ⟨link, listed, _, asked, same⟩
    obtain ⟨entry, registered, rfl⟩ := List.mem_map.1 asked
    exact ⟨link, listed, entry, registered, same⟩

theorem DispatchError.find_shows (kind : ErrorKind) (error : DispatchError) :
    (error.find? kind).isSome = true ↔ error.asCause.Shows [kind] := by
  simp only [find?, List.find?_isSome, Cause.Shows, List.mem_singleton, exists_eq_left]

theorem RouteTable.error_route_shows (table : RouteTable σ) (origin : Option RouteSpec)
    (cause : Cause) :
    (table.errorRoute? origin cause).isSome = true ↔
      cause.Shows ((inScope table.errorRoutes origin).map Prod.fst) := by
  rw [← Cause.shows_registered]
  simp only [errorRoute?, List.findSome?_isSome_iff, Option.isSome_map, List.find?_isSome]

theorem ExceptionHandler.handle_shows (handlers : List ExceptionHandler) (cause : Cause)
    (head : Head) :
    (handle handlers cause head).isSome = true ↔ cause.Shows (handlers.map kind) := by
  rw [← Cause.shows_registered]
  simp only [handle, List.findSome?_isSome_iff, Option.isSome_map, List.find?_isSome,
    List.mem_reverse]

namespace DispatchError

def wrapped (error : DispatchError) : Nat → DispatchError
  | 0 => error
  | times + 1 => .handler (.dispatch (error.wrapped times))

/-- The error that is shown as an error's own. -/
def shown? : DispatchError → Option Cause
  | .binding error => some (.binding error)
  | .codec error => some (.codec error)
  | .body error => some (.body error)
  | _ => none

/-- What is found of an error is the error that it shows, and nothing else of it, nor a wrapper. -/
structure Hides (error : DispatchError) (kinds : List ErrorKind) : Prop where
  shown : ∃ cause, error.shown? = some cause ∧ ∃ kind ∈ kinds, cause.isOf kind = true
  wrapper : ErrorKind.dispatch ∉ kinds
  sources : ¬∃ source ∈ error.sources, ∃ kind ∈ kinds, source.isOf kind = true

theorem sources_wrapped (error : DispatchError) (times : Nat) :
    (error.wrapped times).sources =
      ((List.range times).reverse.map fun inner => .dispatch (error.wrapped inner)) ++
        error.sources := by
  induction times with
  | zero => rfl
  | succ times induction =>
      have outer : (error.wrapped (times + 1)).sources =
          .dispatch (error.wrapped times) :: (error.wrapped times).sources := rfl
      rw [outer, induction, List.range_succ, List.reverse_append]
      rfl

theorem chain_wrapped (error : DispatchError) (times : Nat) :
    (error.wrapped (times + 1)).asCause.chain =
      ((List.range (times + 1)).reverse.map fun inner => .dispatch (error.wrapped inner)) ++
        error.sources :=
  error.sources_wrapped (times + 1)

theorem is_of_dispatch {error : DispatchError} {kind : ErrorKind} :
    (Cause.dispatch error).isOf kind = true ↔ kind = .dispatch := by
  cases kind with
  | dispatch => exact ⟨fun _ => rfl, fun _ => rfl⟩
  | _ => exact ⟨nofun, nofun⟩

theorem shows_wrapped (error : DispatchError) (times : Nat) (kinds : List ErrorKind) :
    (error.wrapped (times + 1)).asCause.Shows kinds ↔
      .dispatch ∈ kinds ∨ ∃ source ∈ error.sources, ∃ kind ∈ kinds, source.isOf kind = true := by
  unfold Cause.Shows
  rw [chain_wrapped]
  constructor
  · rintro ⟨link, listed, kind, asked, same⟩
    rcases List.mem_append.1 listed with wrapper | source
    · obtain ⟨inner, _, rfl⟩ := List.mem_map.1 wrapper
      exact .inl (is_of_dispatch.1 same ▸ asked)
    · exact .inr ⟨link, source, kind, asked, same⟩
  · rintro (asked | ⟨source, listed, shown⟩)
    · have outermost : times ∈ (List.range (times + 1)).reverse :=
        List.mem_reverse.2 (List.mem_range.2 (Nat.lt_succ_self times))
      exact ⟨_, List.mem_append_left _ (List.mem_map_of_mem outermost), .dispatch, asked, rfl⟩
    · exact ⟨source, List.mem_append_right _ listed, shown⟩

variable {error : DispatchError} {cause : Cause}

theorem chain_shown (shown : error.shown? = some cause) :
    error.asCause.chain = cause :: error.sources := by
  cases error with
  | binding error => cases shown; rfl
  | codec error => cases shown; rfl
  | body error => cases shown; rfl
  | _ => cases shown

theorem chain_unshown (unshown : error.shown? = none) {link : Cause}
    (listed : link ∈ error.asCause.chain) : link = .dispatch error ∨ link ∈ error.sources := by
  cases error with
  | binding => cases unshown
  | codec => cases unshown
  | body => cases unshown
  | handler cause => exact .inr listed
  | _ => exact List.mem_cons.1 listed

/-- What is found of an error is lost behind wrappers exactly if the error hides it. -/
theorem lost_iff (error : DispatchError) (times : Nat) (kinds : List ErrorKind) :
    (error.asCause.Shows kinds ∧ ¬(error.wrapped times).asCause.Shows kinds) ↔
      0 < times ∧ error.Hides kinds := by
  cases times with
  | zero => exact ⟨fun lost => absurd lost.1 lost.2, fun lost => absurd lost.1 (Nat.lt_irrefl 0)⟩
  | succ times =>
      rw [shows_wrapped, not_or]
      constructor
      · rintro ⟨⟨link, listed, kind, asked, same⟩, wrapper, sources⟩
        refine ⟨Nat.succ_pos times, ?_, wrapper, sources⟩
        cases shown : error.shown? with
        | some cause =>
            rw [chain_shown shown] at listed
            rcases List.mem_cons.1 listed with rfl | source
            · exact ⟨link, rfl, kind, asked, same⟩
            · exact absurd ⟨link, source, kind, asked, same⟩ sources
        | none =>
            rcases chain_unshown shown listed with rfl | source
            · exact absurd (is_of_dispatch.1 same ▸ asked) wrapper
            · exact absurd ⟨link, source, kind, asked, same⟩ sources
      · rintro ⟨_, ⟨cause, shown, registered⟩, wrapper, sources⟩
        exact ⟨⟨cause, chain_shown shown ▸ List.mem_cons_self, registered⟩, wrapper, sources⟩

/-- What can be found of an error by its kind, be it by a search, by an error route or by an
exception handler, is still found once the error is wrapped, however often; but for the error that
it shows as its own. That one is lost where nothing was registered for wrappers or for its
sources. -/
theorem wrapping_hides_shown (error : DispatchError) (times : Nat) :
    (∀ kind, ((error.find? kind).isSome = true ∧
        ¬((error.wrapped times).find? kind).isSome = true) ↔ 0 < times ∧ error.Hides [kind]) ∧
      (∀ (table : RouteTable σ) (origin : Option RouteSpec),
        ((table.errorRoute? origin error.asCause).isSome = true ∧
            ¬(table.errorRoute? origin (error.wrapped times).asCause).isSome = true) ↔
          0 < times ∧ error.Hides ((RouteTable.inScope table.errorRoutes origin).map Prod.fst)) ∧
      ∀ (handlers : List ExceptionHandler) (head : Head),
        ((ExceptionHandler.handle handlers error.asCause head).isSome = true ∧
            ¬(ExceptionHandler.handle handlers (error.wrapped times).asCause head).isSome = true) ↔
          0 < times ∧ error.Hides (handlers.map ExceptionHandler.kind) := by
  refine ⟨fun kind => ?_, fun table origin => ?_, fun handlers head => ?_⟩
  · rw [find_shows, find_shows]
    exact error.lost_iff times [kind]
  · rw [RouteTable.error_route_shows, RouteTable.error_route_shows]
    exact error.lost_iff times _
  · rw [ExceptionHandler.handle_shows, ExceptionHandler.handle_shows]
    exact error.lost_iff times _

/-- A wrapper around a failed binding hides that it is one. -/
theorem missing_argument_hidden :
    let error : DispatchError := .binding (.missing "id")
    let route : Route Unit := { spec := {}, handler := ExceptT.mk (.done (.ok .empty)) }
    let table : RouteTable Unit := { errorRoutes := [(.binding, route)] }
    let handler : ExceptionHandler := ⟨.binding, "BindingError", fun _ _ => {}⟩
    let head := Head.make "GET" { path := "/" } {}
    (error.find? .binding).isSome = true ∧ ((error.wrapped 1).find? .binding).isSome = false ∧
      (table.errorRoute? none error.asCause).isSome = true ∧
      (table.errorRoute? none (error.wrapped 1).asCause).isSome = false ∧
      (ExceptionHandler.handle [handler] error.asCause head).isSome = true ∧
      (ExceptionHandler.handle [handler] (error.wrapped 1).asCause head).isSome = false :=
  ⟨rfl, rfl, rfl, rfl, rfl, rfl⟩

end DispatchError

end StreamHttp
