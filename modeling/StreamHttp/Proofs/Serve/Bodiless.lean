import StreamHttp.Proofs.Exchange.MethodBlind
import StreamHttp.Proofs.Serve.Answer
import StreamHttp.Proofs.Serve.Dispatch

/-!
HEAD is GET without the body. Where an engine serves both alike, the loop writes the same lines for
both, with the length of the body among them, and the body behind them for GET alone.
-/

namespace StreamHttp

variable {σ : Type}

def Decoder.Decoded.bodiless (decoded : Decoder.Decoded) : Decoder.Decoded :=
  { decoded with head := decoded.head.withMethod "HEAD" }

namespace Loop

variable {engine : Engine σ}

variable (engine) in
/-- What an exchange writes: the lines of what goes out, and its body unless it was asked for
without one. -/
theorem exchange_lines (freshId : String) (decoded : Decoder.Decoded) {loop : Loop σ}
    (unbounded : loop.sink.room = none) :
    let response := writable (engine.service freshId (loop.begun decoded)).1
    ∃ body, response.encodedBody? = some body ∧
      sinkOf (exchange engine freshId decoded loop) =
        { loop.sink with
          writes := (Bytes.ofString (response.headText body.length) ++
            if decoded.head.method == "HEAD" then [] else body) :: loop.sink.writes } := by
  obtain ⟨raw, encoded⟩ := engine.service_encoded freshId (loop.begun decoded)
  obtain ⟨body, readied⟩ := writable_encoded encoded
  have wired := Response.wire_checked readied
    (writable_checked (engine.service freshId (loop.begun decoded)).1)
    (decoded.head.method == "HEAD")
  obtain ⟨bytes, made, outcome⟩ :=
    write_unbounded unbounded encoded (decoded.head.method == "HEAD")
  obtain rfl := Except.ok.inj (wired.symm.trans made)
  refine ⟨body, readied, ?_⟩
  rw [exchange_sink, outcome]
  rfl

/-- A request that is fetched alike by GET and by HEAD runs the same filters and handlers, and gets
the same lines written. Behind them stands the body for GET, and nothing for HEAD. -/
theorem exchange_bodiless (blind : engine.Blind) {decoded : Decoder.Decoded}
    (fetches : engine.Fetches decoded.head) {loop : Loop σ} (unbounded : loop.sink.room = none)
    (freshId : String) :
    (engine.recorded.service freshId ((loop.begun decoded.bodiless).recording [])).2.app =
        (engine.recorded.service freshId ((loop.begun decoded).recording [])).2.app ∧
      ∃ (response : Response) (body : Bytes), response.StandsOnLines ∧
        response.encodedBody? = some body ∧
        sinkOf (exchange engine freshId decoded loop) =
          { loop.sink with
            writes := (Bytes.ofString (response.headText body.length) ++ body) ::
              loop.sink.writes } ∧
        sinkOf (exchange engine freshId decoded.bodiless loop) =
          { loop.sink with
            writes := Bytes.ofString (response.headText body.length) :: loop.sink.writes } := by
  constructor
  · have begun : (loop.begun decoded.bodiless).recording [] =
        ((loop.begun decoded).recording []).bodiless := rfl
    obtain ⟨same, _⟩ := Engine.alike_service blind.recorded fetches.recorded freshId
      ((loop.begun decoded).recording []) rfl
    rw [begun, same]
    rfl
  · obtain ⟨same, _⟩ := Engine.alike_service blind fetches freshId (loop.begun decoded) rfl
    obtain ⟨body, encoded, full⟩ := exchange_lines engine freshId decoded unbounded
    obtain ⟨other, encodedToo, lines⟩ :=
      exchange_lines engine freshId decoded.bodiless unbounded
    have begun : loop.begun decoded.bodiless = (loop.begun decoded).bodiless := rfl
    simp only [begun, same] at encodedToo lines
    obtain rfl := Option.some.inj (encoded.symm.trans encodedToo)
    have get : (decoded.head.method == "HEAD") = false := by rw [fetches.get]; decide
    have head : (decoded.bodiless.head.method == "HEAD") = true := beq_self_eq_true "HEAD"
    rw [get] at full
    rw [head, if_pos rfl, List.append_nil] at lines
    exact ⟨_, body, Response.check_head_stands (writable_checked _), encoded, full, lines⟩

def teaTable : RouteTable Unit where
  routes :=
    [{ spec := { method := some "GET", template := (Template.parse "/tea").toOption }
       handler := (pure (Outcome.text "at five") : Handling Unit Outcome) }]

/-- The route behind a filter. -/
def teaHouse (condition : RequestMatcher) (filter : Filter Unit) : Engine Unit :=
  Engine.ofTable { teaTable with filters := [(condition, filter)] } Codecs.standard [] {}

theorem tea_house_blind (condition : RequestMatcher) {filter : Filter Unit}
    (unseeing : filter.Blind) : (teaHouse condition filter).Blind where
  satisfier _ _ := Binding.blind_request_binder _ _ _ _
  routes := by
    intro route listed
    cases List.mem_singleton.1 listed
    exact fun _ => Program.blind_done _
  statusRoutes _ listed := absurd listed List.not_mem_nil
  errorRoutes _ listed := absurd listed List.not_mem_nil
  exceptionHandlers _ listed := absurd listed List.not_mem_nil
  filters := by
    intro entry listed
    cases List.mem_singleton.1 listed
    exact unseeing

theorem tea_house_serves (condition : RequestMatcher) (filter : Filter Unit) :
    (∃ candidates, (teaHouse condition filter).table.find "GET" "/tea" = .found candidates) ∧
      ∀ route ∈ (teaHouse condition filter).table.routes, route.spec.method ≠ some "HEAD" := by
  constructor
  · have listed : (teaTable.bestMatches "GET" "/tea").isEmpty = false := by decide
    refine ⟨teaTable.bestMatches "GET" "/tea", ?_⟩
    change teaTable.find "GET" "/tea" = _
    simp only [RouteTable.find, listed, Bool.false_and, Bool.false_eq_true, if_false,
      Bool.not_false, if_true]
  · intro route listed
    cases List.mem_singleton.1 listed
    decide

def teaRequest : Decoder.Decoded where
  head := Head.make "GET" { path := "/tea" } {}
  window := 0

/-- Behind a filter for all methods. -/
theorem exchange_bodiless_tea :
    let engine := teaHouse (.path (PathPattern.parse "/**")) (Engine.passing false)
    ∃ lines body,
      sinkOf (exchange engine "1" teaRequest (ofParts [])) = { writes := [lines ++ body] } ∧
      sinkOf (exchange engine "1" teaRequest.bodiless (ofParts [])) = { writes := [lines] } := by
  intro engine
  obtain ⟨found, headless⟩ :=
    tea_house_serves (.path (PathPattern.parse "/**")) (Engine.passing false)
  have fetches : engine.Fetches teaRequest.head :=
    { get := rfl
      found
      headless
      unscoped := by
        intro entry listed
        cases List.mem_singleton.1 listed
        rfl }
  have blind : engine.Blind := tea_house_blind _ fun _ _ _ => rfl
  have unbounded : (ofParts []).sink.room = none := rfl
  obtain ⟨_, _, _, _, _, full, lines⟩ := exchange_bodiless blind fetches unbounded "1"
  exact ⟨_, _, full, lines⟩

def forbidding : Filter Unit where
  apply _ _ := .done (.answer (.ok { status := ⟨403⟩ }))

/-- A filter for GET alone lets a HEAD request pass to the route for GET. -/
theorem scoped_filter_passed :
    let engine := teaHouse (.methods ["GET"]) forbidding
    engine.Blind ∧
      (∃ candidates, engine.table.find "GET" teaRequest.head.path = .found candidates) ∧
      (∀ route ∈ engine.table.routes, route.spec.method ≠ some "HEAD") ∧
      (engine.service "1" ((ofParts []).begun teaRequest)).1.status = ⟨403⟩ ∧
      (engine.service "1" ((ofParts []).begun teaRequest.bodiless)).1.status = .ok := by
  intro engine
  obtain ⟨found, headless⟩ := tea_house_serves (.methods ["GET"]) forbidding
  exact ⟨tea_house_blind _ fun _ _ _ => rfl, found, headless, by decide +kernel,
    by decide +kernel⟩

end Loop

end StreamHttp
