import Mathlib.Data.List.Nodup
import StreamHttp.Proofs.Exchange.Encoding
import StreamHttp.Proofs.Exchange.Recording

/-!
What an exchange does, in which order. The filters of a request are entered from the first on; those
that went on are resumed from the last one back, and the route is called behind all of them or not
at all. Where the result calls for it there is one more such pass, to an error route and through
those filters alone that see a request more than once. Nothing comes behind a second pass: what
fails there answers 500, with the message of the failure that it was started for.
-/

namespace StreamHttp

variable {σ : Type}

namespace Mark

def enters (filter : Nat) : Mark → Bool
  | .entered other => other == filter
  | _ => false

def callsRoute : Mark → Bool
  | .route _ => true
  | .errorRoute _ => true
  | _ => false

def callsErrorRoute : Mark → Bool
  | .errorRoute _ => true
  | _ => false

end Mark

/-- One pass through filters to a core. -/
inductive Onion (core : List Mark → Prop) (filters : List Nat) : List Mark → Prop where
  /-- Every filter went on, the core was reached, and every filter was resumed. -/
  | whole {inner : List Mark} (reached : core inner) :
      Onion core filters (filters.map .entered ++ inner ++ filters.reverse.map .resumed)
  /-- The filters before one went on, and were resumed; that one answered. -/
  | answered (before : List Nat) (last : Nat) (ahead : List Nat)
      (split : filters = before ++ last :: ahead) :
      Onion core filters ((before ++ [last]).map .entered ++ before.reverse.map .resumed)

def Scribe.recorder (σ : Type) : Scribe σ (σ × List Mark) Mark where
  put := Prod.mk
  observe := Filter.recorded
  enter number := [.entered number]
  leave number := [.resumed number]
  route spec := [.route spec]
  errorRoute spec := [.errorRoute spec]
  observed := Filter.recorded_follows

theorem RouteTable.recorded_corresponds (table : RouteTable σ) :
    table.Corresponds (Route.Follows Prod.mk fun spec => [.route spec])
      (Route.Follows Prod.mk fun spec => [.errorRoute spec]) table.recorded where
  spec _ _ pair := pair.spec
  errorSpec _ _ pair := pair.spec
  routes := List.forall₂_map_right_iff.2
    (List.forall₂_same.2 fun route _ => route.recorded_follows .route)
  statusRoutes := List.forall₂_map_right_iff.2
    (List.forall₂_same.2 fun entry _ => ⟨rfl, entry.2.recorded_follows .errorRoute⟩)
  errorRoutes := List.forall₂_map_right_iff.2
    (List.forall₂_same.2 fun entry _ => ⟨rfl, entry.2.recorded_follows .errorRoute⟩)

theorem Engine.recorded_follows (engine : Engine σ) :
    engine.Follows (Scribe.recorder σ) engine.recorded where
  satisfier := rfl
  codecs := rfl
  exceptionHandlers := rfl
  settings := rfl
  table := engine.table.recorded_corresponds
  filters := rfl

namespace Onion

variable {core : List Mark → Prop} {filters : List Nat} {trace : List Mark}

theorem around (onion : Onion core filters trace) (number : Nat) :
    Onion core (number :: filters) (.entered number :: (trace ++ [.resumed number])) := by
  cases onion with
  | @whole inner reached =>
      have wrapped : Mark.entered number ::
          (filters.map .entered ++ inner ++ filters.reverse.map .resumed ++ [.resumed number]) =
          (number :: filters).map .entered ++ inner ++
            (number :: filters).reverse.map .resumed := by
        simp only [List.map_cons, List.reverse_cons, List.map_append, List.map_nil,
          List.cons_append, List.append_assoc]
      rw [wrapped]
      exact .whole reached
  | answered before last ahead split =>
      have wrapped : Mark.entered number ::
          ((before ++ [last]).map .entered ++ before.reverse.map .resumed ++ [.resumed number]) =
          (number :: before ++ [last]).map .entered ++ (number :: before).reverse.map .resumed := by
        simp only [List.map_cons, List.reverse_cons, List.map_append, List.map_nil,
          List.cons_append, List.append_assoc]
      rw [wrapped]
      exact .answered (number :: before) last ahead (congrArg _ split)

theorem count_entered (filter : Nat) (filters : List Nat) :
    (filters.map Mark.entered).countP (Mark.enters filter) = filters.count filter := by
  rw [List.countP_map]
  rfl

theorem count_others (mark : Nat → Mark) (holds : Mark → Bool)
    (never : ∀ filter, holds (mark filter) = false) (filters : List Nat) :
    (filters.map mark).countP holds = 0 := by
  rw [List.countP_map, List.countP_eq_zero]
  intro filter _
  rw [Function.comp_apply, never]
  exact Bool.false_ne_true

/-- Of marks of a kind a pass has no more than its filters and its core could put. -/
theorem count_le (onion : Onion core filters trace) (holds : Mark → Bool) {most : Nat}
    (bounded : ∀ inner, core inner → inner.countP holds ≤ most) :
    trace.countP holds ≤ (filters.map .entered).countP holds + most +
      (filters.map .resumed).countP holds := by
  cases onion with
  | whole reached =>
      have inside := bounded _ reached
      rw [List.countP_append, List.countP_append, List.map_reverse, List.countP_reverse]
      omega
  | answered before last ahead split =>
      rw [split, List.map_reverse]
      simp only [List.map_append, List.map_cons, List.map_nil, List.countP_append,
        List.countP_cons, List.countP_nil, List.countP_reverse]
      omega

theorem enters_listed (onion : Onion core filters trace) (filter : Nat)
    (bare : ∀ inner, core inner → inner.countP (Mark.enters filter) ≤ 0) :
    trace.countP (Mark.enters filter) ≤ filters.count filter := by
  have bound := onion.count_le (Mark.enters filter) bare
  rwa [count_entered, count_others _ _ fun _ => rfl] at bound

theorem calls_core (onion : Onion core filters trace) {holds : Mark → Bool} {most : Nat}
    (entering : ∀ filter, holds (.entered filter) = false)
    (resuming : ∀ filter, holds (.resumed filter) = false)
    (bounded : ∀ inner, core inner → inner.countP holds ≤ most) :
    trace.countP holds ≤ most := by
  have bound := onion.count_le holds bounded
  rwa [count_others _ _ entering, count_others _ _ resuming, Nat.zero_add] at bound

end Onion

/-- A pass told filter by filter is one told from its start to its end. -/
theorem Scribe.Pass.onion {core : List Mark → Prop} {filters : List Nat} {trace : List Mark}
    (pass : (Scribe.recorder σ).Pass core filters trace) : Onion core filters trace := by
  induction pass with
  | @core trace reached =>
      have bare :
          trace = List.map Mark.entered [] ++ trace ++ List.map Mark.resumed [].reverse := by
        simp only [List.map_nil, List.nil_append, List.reverse_nil, List.append_nil]
      rw [bare]
      exact .whole reached
  | answered number ahead => exact .answered [] number ahead rfl
  | continued _ induction => exact induction.around _

namespace RouteTable

theorem numbered_ordered (table : RouteTable σ) (head : Head) :
    ((table.numbered head).map Prod.snd).Pairwise (· < ·) := by
  have part : ((table.numbered head).map Prod.snd).Sublist (table.filters.zipIdx.map Prod.snd) := by
    rw [numbered, List.map_map]
    exact List.filter_sublist.map _
  rw [List.zipIdx_map_snd] at part
  exact List.Pairwise.sublist part List.pairwise_lt_range'

theorem count_numbered (table : RouteTable σ) (head : Head) (filter : Nat) :
    ((table.numbered head).map Prod.snd).count filter ≤ 1 :=
  List.nodup_iff_count_le_one.1 ((table.numbered_ordered head).imp Nat.ne_of_lt) filter

theorem count_numbered_again (table : RouteTable σ) (head : Head) (filter : Nat) :
    ((table.numberedAgain head).map Prod.snd).count filter ≤
      ((table.numbered head).map Prod.snd).count filter :=
  (List.filter_sublist.map Prod.snd).count_le filter

theorem numbered_once (table : RouteTable σ) (head : Head) {entry : Filter σ × Nat}
    (listed : entry ∈ table.numbered head) (once : entry.1.oncePerRequest = true) :
    ((table.numberedAgain head).map Prod.snd).count entry.2 = 0 := by
  apply List.count_eq_zero.2
  intro member
  obtain ⟨other, again, same⟩ := List.mem_map.1 member
  obtain ⟨listedToo, often⟩ := List.mem_filter.1 again
  have distinct := (table.numbered_ordered head).imp Nat.ne_of_lt
  obtain rfl := List.inj_on_of_nodup_map distinct listedToo listed same
  rw [once] at often
  cases often

end RouteTable

namespace Engine

/-- What the marks of an exchange tell: of its pass to the route, and of one to an error route. -/
structure Course (engine : Engine σ) (begun : Exchange σ) (one two : List Mark) : Prop where
  /-- The filters of the request, in the order of their registration. -/
  listed : (engine.table.numbered begun.head).map Prod.fst =
    engine.table.filtersFor begun.head.method begun.head.path
  ordered : ((engine.table.numbered begun.head).map Prod.snd).Pairwise (· < ·)
  first : Onion (fun inner => inner = [] ∨ ∃ only,
      engine.table.find begun.head.method begun.head.path = .found [only] ∧
        inner = [.route only.route.spec])
    ((engine.table.numbered begun.head).map Prod.snd) one
  second : match engine.redispatch? (engine.firstPass begun) with
    | none => two = []
    | some next => Onion (fun inner => inner = [] ∨ inner = [.errorRoute next.route.spec])
        ((engine.table.numberedAgain begun.head).map Prod.snd) two
  /-- What the second pass fails with is told to nobody, unless a mere status started it. -/
  failed : ∀ next failure, engine.redispatch? (engine.firstPass begun) = some next →
    (engine.secondPass next (next.begun (engine.firstPass begun).2)).1 = .error failure →
    (engine.dispatch begun).1.status = ⟨500⟩ ∧
      (engine.dispatch begun).1.body =
        .json (.object [("message", .string (next.error.getD failure).message)])

/-- How often filters and routes run in the two passes of an exchange. -/
structure Counts (engine : Engine σ) (head : Head) (one two : List Mark) : Prop where
  entered : ∀ filter, one.countP (Mark.enters filter) ≤ 1 ∧ two.countP (Mark.enters filter) ≤ 1
  once : ∀ entry ∈ engine.table.numbered head, entry.1.oncePerRequest = true →
    (one ++ two).countP (Mark.enters entry.2) ≤ 1
  called : one.countP Mark.callsRoute ≤ 1 ∧ two.countP Mark.callsRoute ≤ 1
  errorRoutes : (one ++ two).countP Mark.callsErrorRoute ≤ 1

section

variable (engine : Engine σ) {begun : Exchange σ} {next : Redispatch σ} {failure : DispatchError}
  (again : engine.redispatch? (engine.firstPass begun) = some next)
  (failed : (engine.secondPass next (next.begun (engine.firstPass begun).2)).1 = .error failure)

include again failed

theorem dispatch_failed :
    (engine.dispatch begun).1 =
      (Response.ofMessage .internalError (next.error.getD failure).message).withMissingAllow
        (next.error.bind DispatchError.allow?) := by
  simp only [dispatch_eq, again, failed, Redispatch.answer]

theorem completed_failed (id : String) :
    let response := engine.completed id (engine.dispatch begun).1
    response.status = ⟨500⟩ ∧
      (engine.codecs = Codecs.standard → response.encodedBody? = some (Bytes.ofString
        (Json.object [("message", .string (next.error.getD failure).message)]).render)) := by
  have labelled (response : Response) :
      (engine.completed id response).status = (engine.encode response).status ∧
        (engine.completed id response).encodedBody? = (engine.encode response).encodedBody? := by
    unfold completed
    dsimp only
    split <;> exact ⟨rfl, rfl⟩
  rw [dispatch_failed engine again failed]
  dsimp only
  rw [(labelled _).1, (labelled _).2]
  refine ⟨Response.status_encode (Response.with_missing_allow _ _).1, fun standard => ?_⟩
  unfold encode
  rw [standard]
  -- Whether there is an Allow header or not, the media type that is read off is that of JSON.
  cases next.error.bind DispatchError.allow? with
  | none => rfl
  | some methods => rfl

end

variable {engine : Engine σ} {begun : Exchange σ} {one two : List Mark}

theorem course_of_passes (passes : (Scribe.recorder σ).Passes engine begun one two) :
    engine.Course begun one two where
  listed := (engine.table.filters_numbered begun.head).symm
  ordered := engine.table.numbered_ordered begun.head
  first := passes.first.onion
  second := by
    have second := passes.second
    cases again : engine.redispatch? (engine.firstPass begun) with
    | none =>
        rw [again] at second
        exact second
    | some next =>
        rw [again] at second
        exact second.onion
  failed next failure again failed := by
    rw [engine.dispatch_failed again failed]
    exact Response.with_missing_allow _ _

namespace Course

variable (course : engine.Course begun one two)

include course

theorem enters_first (filter : Nat) :
    one.countP (Mark.enters filter) ≤
      ((engine.table.numbered begun.head).map Prod.snd).count filter := by
  apply course.first.enters_listed filter
  rintro inner (rfl | ⟨only, -, rfl⟩)
  · exact Nat.le_refl _
  · exact Nat.le_refl _

theorem enters_second (filter : Nat) :
    two.countP (Mark.enters filter) ≤
      ((engine.table.numberedAgain begun.head).map Prod.snd).count filter := by
  have second := course.second
  split at second
  · rw [second]
    exact Nat.zero_le _
  · apply second.enters_listed filter
    rintro inner (rfl | rfl)
    · exact Nat.le_refl _
    · exact Nat.le_refl _

theorem calls_first {holds : Mark → Bool} {most : Nat}
    (entering : ∀ filter, holds (.entered filter) = false)
    (resuming : ∀ filter, holds (.resumed filter) = false)
    (bounded : ∀ spec, List.countP holds [.route spec] ≤ most) : one.countP holds ≤ most := by
  apply course.first.calls_core entering resuming
  rintro inner (rfl | ⟨only, -, rfl⟩)
  · exact Nat.zero_le _
  · exact bounded _

theorem calls_second {holds : Mark → Bool} (entering : ∀ filter, holds (.entered filter) = false)
    (resuming : ∀ filter, holds (.resumed filter) = false) : two.countP holds ≤ 1 := by
  have second := course.second
  split at second
  · rw [second]
    exact Nat.zero_le _
  · apply second.calls_core entering resuming
    rintro inner (rfl | rfl)
    · exact Nat.zero_le _
    · exact List.countP_le_length

theorem counts : engine.Counts begun.head one two where
  entered filter := by
    have first := course.enters_first filter
    have second := course.enters_second filter
    have fewer := engine.table.count_numbered_again begun.head filter
    have single := engine.table.count_numbered begun.head filter
    omega
  once entry listed once := by
    have first := course.enters_first entry.2
    have second := course.enters_second entry.2
    have single := engine.table.count_numbered begun.head entry.2
    have absent := engine.table.numbered_once begun.head listed once
    rw [List.countP_append]
    omega
  called := ⟨course.calls_first (fun _ => rfl) (fun _ => rfl) fun _ => List.countP_le_length,
    course.calls_second (fun _ => rfl) fun _ => rfl⟩
  errorRoutes := by
    have first : one.countP Mark.callsErrorRoute ≤ 0 :=
      course.calls_first (fun _ => rfl) (fun _ => rfl) fun _ => Nat.le_refl _
    have second : two.countP Mark.callsErrorRoute ≤ 1 :=
      course.calls_second (fun _ => rfl) fun _ => rfl
    rw [List.countP_append]
    omega

end Course

/-- The recording engine answers as the engine does, and what it records is a course through its
filters and back. Where the second pass fails, 500 goes out with the message of what it was started
for, written as JSON by the standard codecs. -/
theorem recorded_service (engine : Engine σ) (freshId : String) (exchange : Exchange σ) :
    ∃ one two,
      engine.recorded.service freshId (exchange.recording []) =
        ((engine.service freshId exchange).1,
          (engine.service freshId exchange).2.recording (one ++ two)) ∧
      engine.Course (exchange.identified freshId) one two ∧
      engine.Counts exchange.head one two ∧
      ∀ next failure,
        let passed := engine.firstPass (exchange.identified freshId)
        let response := (engine.service freshId exchange).1
        engine.redispatch? passed = some next →
        (engine.secondPass next (next.begun passed.2)).1 = .error failure →
        response.status = ⟨500⟩ ∧
          (engine.codecs = Codecs.standard → response.encodedBody? = some (Bytes.ofString
            (Json.object [("message", .string (next.error.getD failure).message)]).render)) := by
  obtain ⟨one, two, answered, passes⟩ := engine.recorded_follows.service freshId exchange []
  have course := course_of_passes passes
  refine ⟨one, two, answered, course, course.counts, ?_⟩
  intro next failure passed response again failed
  exact engine.completed_failed again failed _

def passing (oncePerRequest : Bool) : Filter Unit where
  oncePerRequest := oncePerRequest
  apply _ _ := .done (.proceed .done)

def failingTable : RouteTable Unit where
  routes :=
    [{ spec := { method := some "GET", template := (Template.parse "/").toOption }
       handler := Handling.fail .notFound }]
  statusRoutes := [(.notFound, { spec := {}, handler := (pure .empty : Handling Unit Outcome) })]
  filters :=
    [(.path (PathPattern.parse "/**"), passing true),
      (.path (PathPattern.parse "/**"), passing false)]

example :
    ((ofTable failingTable [] [] {}).recorded.service "1"
        (Exchange.recording []
          { request := Request.make (Head.make "GET" { path := "/" } {}) Body.empty
            streams := Streams.none
            app := () })).2.app.2 =
      [.entered 0, .entered 1,
        .route { method := some "GET", template := (Template.parse "/").toOption },
        .resumed 1, .resumed 0, .entered 1, .errorRoute {}, .resumed 1] := by
  decide +kernel

/-- The error route fails too, and the first error is told. -/
example :
    let failing : Route Unit := { spec := {}, handler := Handling.fail (.badRequest "late") }
    let table := { failingTable with statusRoutes := [(.notFound, failing)] }
    let response := ((ofTable table Codecs.standard [] {}).service "1"
        { request := Request.make (Head.make "GET" { path := "/" } {}) Body.empty
          streams := Streams.none
          app := () }).1
    response.status = ⟨500⟩ ∧
      response.encodedBody? =
        some (Bytes.ofString (Json.object [("message", .string "Page Not Found")]).render) := by
  decide +kernel

end Engine

end StreamHttp
