import StreamHttp.Proofs.Serve.Course
import StreamHttp.Proofs.Serve.Pipelining

/-!
A stop comes between two exchanges, whenever it is asked for. The induction is on the steps of a
run: an engaged loop stays engaged, with all that arrived, until it has answered; and a waiting loop
that was asked to stop does not engage any more.
-/

namespace StreamHttp

/-- A request is settled as soon as its last byte is there. -/
theorem WireRequest.Wellformed.settled {request : WireRequest} (wellformed : request.Wellformed)
    (solid : ∀ char ∈ request.targetText.toList, isBlank char = false) {size : Nat}
    (fits : request.headLength ≤ size) (rest : Bytes) :
    Decoder.Settled size (request.bytes ++ rest) := by
  unfold Decoder.Settled
  rw [wellformed.scanned solid fits rest]
  intro decoded made
  cases (wellformed.of_head solid).symm.trans made
  rw [List.length_append]
  exact Nat.le_add_right _ _

namespace Run

variable {σ : Type} {engine : Engine σ} {settings : ServeSettings} {ids : Nat → String}
  {number : Nat} {run later last : Run σ}

theorem Steps.engaged (sound : run.Sound number) (engaged : run.engaged = true)
    (steps : Steps engine settings ids run later) :
    Events run later ∨
      ∃ between answer after, Events run between ∧
        Answers engine settings ids between answer after ∧
        Steps engine settings ids after later := by
  induction steps with
  | refl => exact .inl .refl
  | @tail middle later _ step induction =>
      rcases induction with events | ⟨between, answer, after, events, answers, steps⟩
      · have going : middle.engaged = true := events.keeps.1.trans engaged
        cases step with
        | event event => exact .inl (events.tail event)
        | engage waiting _ _ => cases going.symm.trans waiting
        | turn _ arrived turned =>
            obtain ⟨answer, answers⟩ := (events.sound sound).answers going arrived turned
            exact .inr ⟨middle, answer, _, events, answers, .refl⟩
      · exact .inr ⟨between, answer, after, events, answers, steps.tail step⟩

/-- An exchange that is in progress and has begun is answered before the loop returns. -/
theorem Sound.completed (sound : run.Sound number) (engaged : run.engaged = true)
    (begun : run.Begun) (steps : Steps engine settings ids run last) {ended : Loop.Ended σ}
    (ends : Ends engine settings ids last ended) :
    ∃ later answer after, Events run later ∧ Answers engine settings ids later answer after ∧
      Steps engine settings ids after last := by
  rcases Steps.engaged sound engaged steps with events | answered
  · have going : last.engaged = true := events.keeps.1.trans engaged
    cases ends with
    | stopped waiting _ => cases going.symm.trans waiting
    | finished waiting _ _ _ => cases going.symm.trans waiting
    | last _ _ ended =>
        obtain ⟨_, turned⟩ :=
          Sound.turned engine settings ids (events.sound sound) (events.begun begun)
        cases turned.symm.trans ended
  · exact answered

/-- A loop whose input is still open returns for the stop alone. -/
theorem Sound.unasked (sound : run.Sound number) (unclosed : run.closed = false)
    {ended : Loop.Ended σ} (ends : Ends engine settings ids run ended) : run.Asked := by
  cases ends with
  | stopped _ stops => exact sound.stops_iff.1 stops
  | finished _ _ closed _ => cases closed.symm.trans unclosed
  | last _ arrived ended =>
      rcases arrived with closed | settled
      · cases closed.symm.trans unclosed
      · obtain ⟨_, turned⟩ := Sound.settled engine ids sound settled
        cases turned.symm.trans ended

def reading (bytes : Bytes) : Run Unit := ((start {} ()).arrive bytes).engage

end Run

end StreamHttp
