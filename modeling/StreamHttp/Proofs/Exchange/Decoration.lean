import StreamHttp.Exchange.Engine
import StreamHttp.Proofs.Message.Headers

/-!
What the declarations of a route make of a response. Headers that the response has stay as they are,
and of those that it lacks each gets the first value that is declared for its name; the media type
is set where the body has none. A response that was decorated once is not changed by it again.
-/

namespace StreamHttp

namespace Headers

theorem contains_set (headers : Headers) (name value asked : String) :
    (headers.set name value).contains asked =
      (canonicalName name == canonicalName asked || headers.contains asked) := by
  unfold contains set Multimap.contains Multimap.values? Multimap.set
  by_cases same : canonicalName name = canonicalName asked
  · rw [← same, Multimap.find_alter_same, beq_self_eq_true, Bool.true_or]
    rfl
  · rw [Multimap.find_alter_other same, beq_false_of_ne same, Bool.false_or]

theorem get_all_set (headers : Headers) (name value asked : String) :
    (headers.set name value).getAll asked =
      if canonicalName name = canonicalName asked then [value] else headers.getAll asked := by
  unfold getAll set
  by_cases same : canonicalName name = canonicalName asked
  · rw [if_pos same, ← same]
    exact Multimap.get_all_set_same _ _ _
  · rw [if_neg same]
    exact Multimap.get_all_set_other same _ _

theorem get_all_absent {headers : Headers} {name : String}
    (absent : headers.contains name = false) : headers.getAll name = [] := by
  unfold contains Multimap.contains at absent
  unfold getAll Multimap.getAll
  rw [Option.isSome_eq_false_iff, Option.isNone_iff_eq_none] at absent
  rw [absent]
  rfl

theorem eq_of_fields {left right : Headers} (same : left.fields = right.fields) : left = right := by
  cases left
  cases right
  cases same
  rfl

theorem set_same {headers : Headers} {name value : String}
    (held : headers.getAll name = [value]) : headers.set name value = headers := by
  have kept (entries : List (String × List String))
      (held : ((entries.find? (·.1 == canonicalName name)).map Prod.snd).getD [] = [value]) :
      Multimap.alter (canonicalName name) (fun _ => [value]) value entries = entries := by
    induction entries with
    | nil => cases held
    | cons entry rest induction =>
        rw [List.find?_cons] at held
        unfold Multimap.alter
        split
        next found =>
          rw [found] at held
          have single : entry.2 = [value] := held
          rw [← single]
        next other =>
          rw [Bool.eq_false_iff.2 other] at held
          rw [induction held]
  have same : headers.fields.set (canonicalName name) value = headers.fields :=
    congrArg Multimap.mk (kept headers.fields.entries held)
  exact eq_of_fields same

def complete (headers : Headers) (header : String × String) : Headers :=
  if headers.contains header.1 then headers else headers.set header.1 header.2

theorem contains_complete (headers : Headers) (header : String × String) (name : String) :
    (headers.complete header).contains name =
      (canonicalName header.1 == canonicalName name || headers.contains name) := by
  unfold complete
  split
  next present =>
    by_cases same : canonicalName header.1 = canonicalName name
    · have also : headers.contains name = true := by
        rw [contains, ← same]
        exact present
      rw [also, Bool.or_true]
    · rw [beq_false_of_ne same, Bool.false_or]
  next => exact headers.contains_set header.1 header.2 name

/-- The headers with those of others that they lack, name by name. -/
def completed (headers : Headers) (declared : List (String × String)) : Headers :=
  declared.foldl complete headers

theorem contains_completed (headers : Headers) (declared : List (String × String))
    (name : String) :
    (headers.completed declared).contains name =
      (headers.contains name ||
        declared.any fun header => canonicalName header.1 == canonicalName name) := by
  unfold completed
  induction declared generalizing headers with
  | nil => exact (Bool.or_false _).symm
  | cons header declared induction =>
      rw [List.foldl_cons, induction, contains_complete, List.any_cons,
        Bool.or_comm (canonicalName header.1 == _), Bool.or_assoc]

theorem get_all_complete (headers : Headers) (header : String × String) (name : String) :
    (headers.complete header).getAll name =
      if headers.contains name = false ∧ canonicalName header.1 = canonicalName name then [header.2]
      else headers.getAll name := by
  unfold complete
  split
  next present =>
    rw [if_neg]
    rintro ⟨absent, same⟩
    rw [contains, same] at present
    exact Bool.false_ne_true (absent.symm.trans present)
  next absent =>
    rw [get_all_set]
    by_cases same : canonicalName header.1 = canonicalName name
    · have missing : headers.contains name = false := by
        rw [contains, ← same]
        exact Bool.eq_false_iff.2 absent
      rw [if_pos same, if_pos ⟨missing, same⟩]
    · rw [if_neg same, if_neg fun both => same both.2]

/-- Of several values that are declared for a name the first one is set. -/
theorem get_all_completed (headers : Headers) (declared : List (String × String))
    (name : String) :
    (headers.completed declared).getAll name =
      if headers.contains name then headers.getAll name
      else ((ofPairs declared).getAll name).take 1 := by
  rw [get_all_of_pairs]
  unfold completed
  induction declared generalizing headers with
  | nil =>
      cases present : headers.contains name with
      | true => rfl
      | false => exact get_all_absent present
  | cons header declared induction =>
      -- A name that is set here is no longer missing for the headers behind.
      rw [List.foldl_cons, induction, contains_complete, get_all_complete]
      by_cases same : canonicalName header.1 = canonicalName name
      · have here : (canonicalName header.1 == canonicalName name) = true := beq_iff_eq.2 same
        rw [List.filter_cons, here, Bool.true_or, if_pos rfl, if_pos rfl]
        cases headers.contains name with
        | true => exact if_neg fun both => Bool.false_ne_true both.1.symm
        | false => exact if_pos ⟨rfl, same⟩
      · have elsewhere : (canonicalName header.1 == canonicalName name) = false :=
          beq_false_of_ne same
        have unset : ¬(headers.contains name = false ∧ canonicalName header.1 = canonicalName name) :=
          fun both => same both.2
        rw [List.filter_cons, elsewhere, Bool.false_or, if_neg unset, if_neg Bool.false_ne_true]

theorem completed_of_contains (headers : Headers) {declared : List (String × String)}
    (all : ∀ header ∈ declared, headers.contains header.1 = true) :
    headers.completed declared = headers := by
  unfold completed
  induction declared with
  | nil => rfl
  | cons header declared induction =>
      have present : headers.complete header = headers := if_pos (all header List.mem_cons_self)
      rw [List.foldl_cons, present]
      exact induction fun other member => all other (List.mem_cons_of_mem header member)

theorem completed_completed (headers : Headers) (declared : List (String × String)) :
    (headers.completed declared).completed declared = headers.completed declared := by
  apply completed_of_contains
  intro header member
  rw [contains_completed]
  have listed : (declared.any fun other => canonicalName other.1 == canonicalName header.1) =
      true := List.any_eq_true.2 ⟨header, member, beq_self_eq_true _⟩
  rw [listed, Bool.or_true]

end Headers

namespace Response

/-- A body is there whose media type is not told. -/
def Untyped (response : Response) : Prop :=
  response.contentType? = none ∧ response.body.isEmpty = false

/-- The status of success gives way to one that is declared, and takes its reason with it. -/
def restated (response : Response) : Option Status → Response
  | some status => if response.status == Status.ok then response.setStatus status else response
  | none => response

def typedHeaders (response : Response) : Option MediaType → Headers
  | some media =>
      if response.contentType?.isNone && !response.body.isEmpty then
        response.headers.setContentType media
      else response.headers
  | none => response.headers

def retyped (response : Response) : Option MediaType → Response
  | some media =>
      if response.contentType?.isNone && !response.body.isEmpty then response.setContentType media
      else response
  | none => response

theorem retyped_eq (response : Response) (declared : Option MediaType) :
    retyped response declared = { response with headers := typedHeaders response declared } := by
  cases declared with
  | none => rfl
  | some media =>
      unfold retyped typedHeaders
      dsimp only
      split
      · rfl
      · rfl

theorem fold_complete (declared : List (String × String)) (response : Response) :
    (declared.foldl (fun response header =>
        if response.headers.contains header.1 then response
        else response.setHeader header.1 header.2) response) =
      { response with headers := response.headers.completed declared } := by
  unfold Headers.completed
  induction declared generalizing response with
  | nil => rfl
  | cons header declared induction =>
      rw [List.foldl_cons, List.foldl_cons, induction]
      unfold Headers.complete
      split
      · rfl
      · rfl

theorem restated_same (response : Response) (declared : Option Status) :
    (restated response declared).headers = response.headers ∧
      (restated response declared).body = response.body := by
  cases declared with
  | none => exact ⟨rfl, rfl⟩
  | some status =>
      unfold restated
      cases response.status == Status.ok with
      | true => exact ⟨rfl, rfl⟩
      | false => exact ⟨rfl, rfl⟩

theorem restated_status (response : Response) (declared : Option Status) :
    (restated response declared).status =
      if response.status = Status.ok then declared.getD Status.ok else response.status := by
  cases declared with
  | none =>
      change response.status = _
      split
      next success => exact success
      next => rfl
  | some status =>
      unfold restated
      by_cases success : response.status = Status.ok
      · rw [beq_iff_eq.2 success, if_pos success]
        rfl
      · rw [beq_false_of_ne success, if_neg success]
        rfl

theorem restated_restated (response : Response) (headers : Headers) (declared : Option Status) :
    restated { restated response declared with headers } declared =
      { restated response declared with headers } := by
  cases declared with
  | none => rfl
  | some status =>
      cases success : response.status == Status.ok with
      | true =>
          have first : restated response (some status) = response.setStatus status := by
            rw [restated, success, if_pos rfl]
          rw [first, restated]
          split
          · rfl
          · rfl
      | false =>
          have first : restated response (some status) = response := by
            rw [restated, success, if_neg Bool.false_ne_true]
          rw [first, restated]
          exact if_neg (Bool.eq_false_iff.1 success)

theorem typed_restated (response : Response) (status : Option Status)
    (declared : Option MediaType) :
    typedHeaders (restated response status) declared = typedHeaders response declared := by
  obtain ⟨headers, body⟩ := restated_same response status
  cases declared with
  | none => exact headers
  | some media =>
      unfold typedHeaders Response.contentType?
      rw [headers, body]

theorem typed_declared (media : MediaType) (response : Response) :
    (Untyped response →
        typedHeaders response (some media) = response.headers.setContentType media) ∧
      (¬Untyped response → typedHeaders response (some media) = response.headers) := by
  unfold typedHeaders Untyped
  simp only [Bool.and_eq_true, Option.isNone_iff_eq_none, Bool.not_eq_true']
  exact ⟨fun untyped => if_pos untyped, fun typed => if_neg typed⟩

theorem typed_other (response : Response) (declared : Option MediaType) {name : String}
    (other : canonicalName name ≠ "Content-Type") :
    (typedHeaders response declared).contains name = response.headers.contains name ∧
      (typedHeaders response declared).getAll name = response.headers.getAll name := by
  have canonical : canonicalName "Content-Type" = "Content-Type" := by decide
  have apart : ¬canonicalName "Content-Type" = canonicalName name := by
    rw [canonical]
    exact other.symm
  cases declared with
  | none => exact ⟨rfl, rfl⟩
  | some media =>
      by_cases untyped : Untyped response
      · rw [(typed_declared media response).1 untyped, Headers.setContentType,
          Headers.contains_set, Headers.get_all_set, if_neg apart, beq_false_of_ne apart]
        exact ⟨Bool.false_or _, rfl⟩
      · rw [(typed_declared media response).2 untyped]
        exact ⟨rfl, rfl⟩

end Response

namespace RouteSpec

/-- A decorated response is restated, and its headers are completed behind its media type. -/
theorem decorate_eq (spec : RouteSpec) (response : Response) :
    spec.decorate response =
      { response.restated spec.status with
        headers := (response.typedHeaders spec.produces).completed spec.headers } := by
  have stages : spec.decorate response =
      spec.headers.foldl (fun response header =>
        if response.headers.contains header.1 then response
        else response.setHeader header.1 header.2)
        ((response.restated spec.status).retyped spec.produces) := rfl
  rw [stages, Response.fold_complete, Response.retyped_eq, Response.typed_restated]

theorem get_all_decorate (spec : RouteSpec) (response : Response) (name : String) :
    (spec.decorate response).headers.getAll name =
      if (response.typedHeaders spec.produces).contains name then
        (response.typedHeaders spec.produces).getAll name
      else ((Headers.ofPairs spec.headers).getAll name).take 1 := by
  rw [decorate_eq]
  exact Headers.get_all_completed _ _ _

theorem content_type_decorate (spec : RouteSpec) {response : Response} {media : MediaType}
    (typed : response.contentType? = some media) :
    (spec.decorate response).contentType? = some media := by
  have told : ¬response.Untyped := fun untyped => nomatch untyped.1.symm.trans typed
  have kept : response.typedHeaders spec.produces = response.headers := by
    cases spec.produces with
    | none => rfl
    | some declared => exact (Response.typed_declared declared response).2 told
  have present : response.headers.contains "Content-Type" = true := by
    cases present : response.headers.contains "Content-Type" with
    | true => rfl
    | false =>
        unfold Response.contentType? Headers.contentType? Headers.get? at typed
        rw [Headers.get_all_absent present] at typed
        cases typed
  have values := spec.get_all_decorate response "Content-Type"
  rw [kept, present, if_pos rfl] at values
  unfold Response.contentType? Headers.contentType? Headers.get? at typed ⊢
  rw [values]
  exact typed

theorem body_decorate (spec : RouteSpec) (response : Response) :
    (spec.decorate response).body = response.body := by
  rw [decorate_eq]
  exact (Response.restated_same response spec.status).2

/-- A response that lacks its media type when it is decorated lacked it before. -/
theorem untyped_of_decorate {spec : RouteSpec} {response : Response}
    (untyped : (spec.decorate response).Untyped) : response.Untyped := by
  obtain ⟨untold, filled⟩ := untyped
  rw [body_decorate] at filled
  apply And.intro _ filled
  cases typed : response.contentType? with
  | none => rfl
  | some media => exact absurd (spec.content_type_decorate typed) (by rw [untold]; exact nofun)

theorem get_all_untyped {spec : RouteSpec} {media : MediaType} (declared : spec.produces = some media)
    {response : Response} (untyped : response.Untyped) :
    (spec.decorate response).headers.getAll "Content-Type" = [media.render] := by
  rw [get_all_decorate, declared, (Response.typed_declared media response).1 untyped,
    Headers.setContentType, Headers.contains_set, beq_self_eq_true, Bool.true_or, if_pos rfl,
    Headers.get_all_set, if_pos rfl]

theorem typed_decorate (spec : RouteSpec) (response : Response) :
    (spec.decorate response).typedHeaders spec.produces = (spec.decorate response).headers := by
  cases declared : spec.produces with
  | none => rfl
  | some media =>
      -- The declared media type need not be one that is read back: then it is set once more.
      by_cases again : (spec.decorate response).Untyped
      · rw [(Response.typed_declared media _).1 again]
        exact Headers.set_same (get_all_untyped declared (untyped_of_decorate again))
      · exact (Response.typed_declared media _).2 again

theorem decorate_decorate (spec : RouteSpec) (response : Response) :
    spec.decorate (spec.decorate response) = spec.decorate response := by
  have completed : (spec.decorate response).headers.completed spec.headers =
      (spec.decorate response).headers := by
    rw [decorate_eq]
    exact Headers.completed_completed _ _
  have stated : (spec.decorate response).restated spec.status = spec.decorate response := by
    rw [decorate_eq]
    exact Response.restated_restated _ _ _
  rw [decorate_eq spec (spec.decorate response), typed_decorate, completed, stated]

/-- The first of some values is all of them exactly if there is no other one. -/
theorem take_one_iff (values : List String) : values.take 1 = values ↔ values.length ≤ 1 := by
  constructor
  · intro whole
    rw [← whole]
    exact List.length_take_le 1 values
  · exact List.take_of_length_le

/-- What a route makes of a response. A header that the response lacks gets the first of the values
that the route declares for its name, which are all of them exactly if it declares at most one; the
headers that it has are kept. The status of success, and no other, gives way to the declared one; the
declared media type is set exactly where a body has none. The body stays, and the same again is of no
consequence. -/
theorem decorate_fills (spec : RouteSpec) (response : Response) :
    (∀ name, canonicalName name ≠ "Content-Type" →
        (response.headers.contains name = false →
          (spec.decorate response).headers.getAll name =
              ((Headers.ofPairs spec.headers).getAll name).take 1 ∧
            ((spec.decorate response).headers.getAll name =
                (Headers.ofPairs spec.headers).getAll name ↔
              ((Headers.ofPairs spec.headers).getAll name).length ≤ 1)) ∧
        (response.headers.contains name = true →
          (spec.decorate response).headers.getAll name = response.headers.getAll name)) ∧
      (spec.decorate response).status =
        (if response.status = Status.ok then spec.status.getD Status.ok else response.status) ∧
      (∀ media, spec.produces = some media →
        (response.contentType? = none ∧ response.body.isEmpty = false →
          (spec.decorate response).headers.getAll "Content-Type" = [media.render]) ∧
        (¬(response.contentType? = none ∧ response.body.isEmpty = false) →
          spec.decorate response = RouteSpec.decorate { spec with produces := none } response)) ∧
      (spec.decorate response).body = response.body ∧
      spec.decorate (spec.decorate response) = spec.decorate response := by
  refine ⟨?_, ?_, ?_, body_decorate spec response, decorate_decorate spec response⟩
  · intro name other
    obtain ⟨contained, held⟩ := Response.typed_other response spec.produces other
    have values := spec.get_all_decorate response name
    rw [contained, held] at values
    constructor
    · intro absent
      rw [absent, if_neg Bool.false_ne_true] at values
      rw [values]
      exact ⟨rfl, take_one_iff _⟩
    · intro present
      rw [present, if_pos rfl] at values
      exact values
  · rw [decorate_eq]
    exact Response.restated_status response spec.status
  · intro media declared
    apply And.intro fun untyped => get_all_untyped declared untyped
    intro typed
    rw [decorate_eq, decorate_eq, declared, (Response.typed_declared media response).2 typed]
    rfl

/-- A response with a body and a header of its own, and a route that declares that header too. -/
theorem decorate_fills_created :
    let spec : RouteSpec :=
      { status := some .created
        produces := some .json
        headers := [("cache-control", "no-store"), ("Vary", "Accept")] }
    let response : Response :=
      { headers := Headers.ofPairs [("vary", "Cookie")], body := .text "Rex" }
    let decorated := spec.decorate response
    canonicalName "Cache-Control" ≠ "Content-Type" ∧ canonicalName "vary" ≠ "Content-Type" ∧
      response.headers.contains "Cache-Control" = false ∧
      decorated.headers.getAll "Cache-Control" = ["no-store"] ∧
      response.headers.contains "vary" = true ∧
      decorated.headers.getAll "vary" = ["Cookie"] ∧
      decorated.headers.getAll "Content-Type" = ["application/json"] := by
  intro spec response decorated
  have control : canonicalName "Cache-Control" ≠ "Content-Type" := by decide
  have vary : canonicalName "vary" ≠ "Content-Type" := by decide
  have absent : response.headers.contains "Cache-Control" = false := by decide
  have present : response.headers.contains "vary" = true := by decide
  obtain ⟨headers, _, media, _⟩ := decorate_fills spec response
  have filled := ((headers "Cache-Control" control).1 absent).1
  have kept := (headers "vary" vary).2 present
  have typed := (media .json rfl).1 ⟨by decide, rfl⟩
  exact ⟨control, vary, absent, filled.trans (by decide), present, kept.trans (by decide), typed⟩

/-- Of two cookies that a route declares only the first one is set. -/
theorem second_cookie_dropped :
    let spec : RouteSpec := { headers := [("Set-Cookie", "a=1"), ("set-cookie", "b=2")] }
    ({} : Response).headers.contains "Set-Cookie" = false ∧
      (Headers.ofPairs spec.headers).getAll "Set-Cookie" = ["a=1", "b=2"] ∧
      (spec.decorate {}).headers.getAll "Set-Cookie" = ["a=1"] := by
  decide

end RouteSpec

end StreamHttp
