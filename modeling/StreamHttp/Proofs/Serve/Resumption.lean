import StreamHttp.Proofs.Serve.Answer
import StreamHttp.Proofs.Serve.Dispatch
import StreamHttp.Proofs.Wire.HeadText

/-!
Where the loop goes on behind a head. A request that is served takes its body with it, however much
of it was read: the next head begins behind the declared length. A head that is rejected takes no
body with it, and what its lines declare to be a body is read as the next head.
-/

namespace StreamHttp

namespace Decoder

/-- The head at the front of an input, and what follows the blank line that ends it; nothing when no
blank line does. -/
def headBlock? (size : Nat) (input : Bytes) : Option (Bytes × Bytes) :=
  match scan size {} input with
  | .head lines rest => some (lines, rest)
  | .tooLong rest => some (skipBlankLines (input.take (input.length - rest.length)), rest)
  | _ => none

/-- Between the head and what follows it there is nothing but the end of the head. -/
theorem head_block_split {size : Nat} {input block rest : Bytes}
    (read : headBlock? size input = some (block, rest)) :
    ∃ before ending, input = before ++ block ++ ending ++ rest ∧
      (∀ byte ∈ before, isLineEnd byte = true) ∧ ∀ byte ∈ ending, isLineEnd byte = true := by
  simp only [headBlock?] at read
  split at read
  next lines left found =>
    cases read
    obtain ⟨before, ending, whole, _, blanks, ended⟩ := scan_head_split found
    refine ⟨before, ending, whole, blanks, ?_⟩
    intro byte member
    rcases ended with rfl | rfl
    · cases List.mem_singleton.1 member
      rfl
    · rcases List.mem_cons.1 member with rfl | member
      · rfl
      · cases List.mem_singleton.1 member
        rfl
  next left found =>
    cases read
    obtain ⟨front, _, whole⟩ := scan_too_long_split found
    have consumed : input.take (input.length - rest.length) = front := by
      rw [whole, List.length_append, Nat.add_sub_cancel, List.take_left]
    refine ⟨front.takeWhile isLineEnd, [], ?_, ?_, fun _ member => absurd member List.not_mem_nil⟩
    · rw [consumed, List.append_nil, whole]
      congr 1
      exact List.takeWhile_append_dropWhile.symm
    · intro byte member
      exact List.mem_takeWhile_imp member
  next => cases read

end Decoder

namespace Loop

variable {σ : Type} {engine : Engine σ} {settings : ServeSettings} {ids : Nat → String}
  {loop after : Loop σ}

/-- A turn either serves the request that is heard or rejects what is not one. -/
theorem step_heard (turned : loop.step engine settings ids = .ok after) :
    (∃ decoded rest, hear settings.inputBufferSize loop.session.delivery = .request decoded rest ∧
      (loop.receive settings).dispatch?.isSome = true ∧
      rest.past decoded.window = .ok after.session.delivery) ∨
    (∃ error, hear settings.inputBufferSize loop.session.delivery =
        .malformed error after.session.delivery ∧
      (loop.receive settings).dispatch?.isSome = false) := by
  have heard := receive_heard settings loop
  unfold step at turned
  cases received : loop.receive settings with
  | finished result => rw [received] at turned; cases turned
  | request decoded session =>
      rw [received] at turned heard
      have listened : loop.isStopped = false := by
        cases stopped : loop.isStopped with
        | false => rfl
        | true => rw [stopped, if_pos rfl] at heard; cases heard
      rw [listened, if_neg Bool.false_ne_true] at heard
      exact .inl ⟨decoded, session.delivery, heard.symm, rfl,
        exchange_rest engine (ids loop.summary.exchanges) turned⟩
  | malformed error session =>
      rw [received] at turned heard
      have listened : loop.isStopped = false := by
        cases stopped : loop.isStopped with
        | false => rfl
        | true => rw [stopped, if_pos rfl] at heard; cases heard
      rw [listened, if_neg Bool.false_ne_true] at heard
      have rejected := reject_turned error (Paired.refl { loop with session })
      simp only at turned
      rw [turned] at rejected
      cases rejected with
      | between _ left => exact .inr ⟨error, (Except.ok.inj left) ▸ heard.symm, rfl⟩

theorem hear_head {size : Nat} (store : Delivery) {block rest : Bytes}
    (read : Decoder.headBlock? size store.bytes = some (block, rest)) :
    (∀ decoded left, hear size store = .request decoded left →
      Decoder.ofHead block = .ok decoded ∧ left = ⟨rest, store.failure⟩) ∧
    (∀ error left, hear size store = .malformed error left → left = ⟨rest, store.failure⟩) := by
  rcases store with ⟨_ | ⟨byte, bytes⟩, failure⟩
  · cases failure with
    | none => exact ⟨fun _ _ heard => (nomatch heard), fun _ _ heard => (nomatch heard)⟩
    | some message => exact ⟨fun _ _ heard => (nomatch heard), fun _ _ heard => (nomatch heard)⟩
  · simp only [Decoder.headBlock?] at read
    simp only [hear, Decoder.decodeStore]
    split at read
    next lines left found =>
      cases read
      rw [found]
      simp only [Decoder.Scan.result]
      cases made : Decoder.ofHead block with
      | ok decoded =>
          constructor
          · intro other left heard
            cases heard
            exact ⟨rfl, rfl⟩
          · intro error left heard
            cases heard
      | error error =>
          constructor
          · intro other left heard
            cases error <;> cases heard
          · intro problem left heard
            cases error <;> cases heard <;> rfl
    next left found =>
      cases read
      rw [found]
      constructor
      · intro other left heard
        cases heard
      · intro error left heard
        cases heard
        rfl
    next => cases read

/-- The loop goes on behind the declared body of a request that was served, and right behind the
head of one that was rejected. So it is the end of the declared body where it goes on exactly if the
request was served, or has no body, or nothing follows. -/
theorem resumes_behind_body (turned : loop.step engine settings ids = .ok after)
    {block rest : Bytes}
    (read : Decoder.headBlock? settings.inputBufferSize loop.session.content = some (block, rest))
    {length : Nat} (declared : HeadText.declaredLength? block = some length) :
    let served := (loop.receive settings).dispatch?.isSome
    after.session.content = (if served then rest.drop length else rest) ∧
      (after.session.content = rest.drop length ↔ served ∨ length = 0 ∨ rest = []) := by
  intro served
  have heard := hear_head loop.session.delivery read
  rcases step_heard turned with ⟨decoded, left, request, dispatched, past⟩ | ⟨error, malformed,
    undispatched⟩
  · obtain ⟨made, rfl⟩ := heard.1 decoded left request
    have window := Decoder.window_declared made declared
    have content : after.session.content = rest.drop length := by
      rw [window] at past
      by_cases inside : length ≤ rest.length
      · rw [Delivery.past_within inside] at past
        exact (congrArg Delivery.bytes (Except.ok.inj past)).symm
      · cases failure : loop.session.delivery.failure with
        | none =>
            rw [failure, Delivery.past_unfailing length rfl] at past
            exact (congrArg Delivery.bytes (Except.ok.inj past)).symm
        | some message =>
            have beyond : (⟨rest, some message⟩ : Delivery).bytes.length < length :=
              Nat.lt_of_not_le inside
            rw [failure, Delivery.past_failing beyond rfl] at past
            cases past
    exact ⟨by rw [if_pos dispatched, content], fun _ => .inl dispatched, fun _ => content⟩
  · have content : after.session.content = rest :=
      congrArg Delivery.bytes (heard.2 error _ malformed)
    have rejected : served = false := undispatched
    refine ⟨by rw [rejected, content, if_neg Bool.false_ne_true], ?_⟩
    rw [content, rejected]
    constructor
    · intro same
      by_cases none : length = 0
      · exact .inr (.inl none)
      · have shorter : rest.length = rest.length - length :=
          (congrArg List.length same).trans List.length_drop
        exact .inr (.inr (List.length_eq_zero_iff.1 (by omega)))
    · rintro (impossible | none | empty)
      · cases impossible
      · rw [none, List.drop_zero]
      · rw [empty, List.drop_nil]

/-- A head that is rejected for its version. -/
def rejectedHead : Bytes := Bytes.ofString "POST /a HTTP/2.0\r\nContent-Length: 22\r\n"

def hiddenRequest : Bytes := Bytes.ofString "GET /evil HTTP/1.1\r\n\r\n"

def smuggling : Bytes := rejectedHead ++ Bytes.ofString "\r\n" ++ hiddenRequest

theorem smuggling_scanned : Decoder.scan 8192 {} smuggling = .head rejectedHead hiddenRequest := by
  decide

theorem smuggling_heard :
    hear 8192 ⟨smuggling, none⟩ =
      .malformed (.unsupportedVersion "HTTP/2.0") ⟨hiddenRequest, none⟩ := by
  have refused : Decoder.ofHead rejectedHead = .error (.unsupportedVersion "HTTP/2.0") := by
    decide +kernel
  rw [hear_scanned none smuggling_scanned, refused]

theorem smuggling_turned : ∃ after,
    (ofParts [smuggling]).step Engine.bare {} (fun _ => "") = .ok after ∧
      after.session.delivery = ⟨hiddenRequest, none⟩ ∧ after.isStopped = false := by
  have heard := smuggling_heard
  rw [← List.flatten_singleton (l := smuggling), ← store_of_parts] at heard
  obtain ⟨after, turned, left, _, receiver, _⟩ :=
    step_malformed {} Engine.bare (fun _ => "") rfl rfl heard
  exact ⟨after, turned, left, deaf_listening receiver⟩

/-- The declared body of a rejected head is answered as a request of its own. -/
theorem rejected_body_dispatched : ∃ after,
    (ofParts [smuggling]).step Engine.bare {} (fun _ => "") = .ok after ∧
      Decoder.headBlock? 8192 smuggling = some (rejectedHead, hiddenRequest) ∧
      HeadText.declaredLength? rejectedHead = some 22 ∧
      after.session.content ≠ hiddenRequest.drop 22 ∧
      ((after.receive {}).dispatch?.map fun dispatch => dispatch.target.path) = some "/evil" := by
  obtain ⟨after, turned, left, listening⟩ := smuggling_turned
  have content : after.session.content = hiddenRequest := congrArg Delivery.bytes left
  refine ⟨after, turned, ?_, by decide +kernel, ?_, ?_⟩
  · rw [Decoder.headBlock?, smuggling_scanned]
  · rw [content]
    decide
  · rw [dispatch_heard, receive_heard, listening, if_neg Bool.false_ne_true, left]
    decide +kernel

/-- What is left of a rejected request, by the general account. -/
theorem resumes_behind_smuggling : ∃ after,
    (ofParts [smuggling]).step Engine.bare {} (fun _ => "") = .ok after ∧
      Decoder.headBlock? 8192 (ofParts [smuggling]).session.content =
        some (rejectedHead, hiddenRequest) ∧
      HeadText.declaredLength? rejectedHead = some 22 ∧
      after.session.content =
        (if ((ofParts [smuggling]).receive {}).dispatch?.isSome then hiddenRequest.drop 22
          else hiddenRequest) := by
  obtain ⟨after, turned, _⟩ := smuggling_turned
  have content : (ofParts [smuggling]).session.content = smuggling := by
    have store := congrArg Delivery.bytes (store_of_parts [smuggling])
    rw [List.flatten_singleton] at store
    exact store
  have read : Decoder.headBlock? 8192 (ofParts [smuggling]).session.content =
      some (rejectedHead, hiddenRequest) := by
    rw [content, Decoder.headBlock?, smuggling_scanned]
  have declared : HeadText.declaredLength? rejectedHead = some 22 := by decide +kernel
  exact ⟨after, turned, read, declared, (resumes_behind_body turned read declared).1⟩

end Loop

end StreamHttp
