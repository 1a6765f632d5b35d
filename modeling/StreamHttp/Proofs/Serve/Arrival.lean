import StreamHttp.Proofs.Serve.Dispatch
import StreamHttp.Proofs.Serve.Receive

/-!
Input that is still arriving. A head that has ended is the same whatever arrives behind it, and so
is a body that is there to its last byte. What a loop hears of such an input need not wait for the
end of the input.
-/

namespace StreamHttp

namespace Source

def arrive (bytes : Bytes) (source : Source) : Source :=
  { source with
    parts := source.parts ++ [bytes].filter fun part => !part.isEmpty
    nonempty := by simp [source.nonempty] }

theorem content_arrive (bytes : Bytes) (source : Source) :
    (source.arrive bytes).content = source.content ++ bytes := by
  cases bytes with
  | nil => simp [arrive, content]
  | cons byte rest => simp [arrive, content]

end Source

namespace Session

def arrive (bytes : Bytes) (session : Session) : Session :=
  { session with source := session.source.arrive bytes }

theorem content_arrive (bytes : Bytes) (session : Session) :
    (session.arrive bytes).content = session.content ++ bytes := by
  simp only [arrive, content, Source.content_arrive, List.append_assoc]

end Session

namespace Decoder

/-- Whether an input holds a whole request, or a whole head that is none. -/
def Settled (size : Nat) (content : Bytes) : Prop :=
  match scan size {} content with
  | .head lines rest => ∀ decoded, ofHead lines = .ok decoded → decoded.window ≤ rest.length
  | .tooLong _ => True
  | .endless => False
  | .unfinished _ => False

variable {size : Nat} {content : Bytes}

theorem Settled.append (settled : Settled size content) (more : Bytes) :
    Settled size (content ++ more) := by
  unfold Settled at settled ⊢
  cases found : scan size {} content with
  | head lines rest =>
      rw [found] at settled
      rw [scan_head_append found]
      intro decoded made
      rw [List.length_append]
      exact Nat.le_add_right_of_le (settled decoded made)
  | tooLong rest => rw [scan_too_long_append found]; trivial
  | endless => rw [found] at settled; exact settled.elim
  | unfinished part => rw [found] at settled; exact settled.elim

theorem Settled.filled (settled : Settled size content) : content ≠ [] := by
  rintro rfl
  unfold Settled at settled
  rw [scan] at settled
  split at settled
  next found => split at found <;> cases found
  next found => split at found <;> cases found
  · exact settled
  · exact settled

end Decoder

namespace Loop

variable {size : Nat} {content : Bytes} (failure : Option String)

/-- What arrives behind a settled input is left for later. -/
theorem settled_heard (settled : Decoder.Settled size content) :
    (∃ (decoded : Decoder.Decoded) (rest : Bytes), decoded.window ≤ rest.length ∧
        hear size ⟨content, failure⟩ = .request decoded ⟨rest, failure⟩ ∧
        ∀ more, hear size ⟨content ++ more, failure⟩ = .request decoded ⟨rest ++ more, failure⟩) ∨
      ∃ error rest, hear size ⟨content, failure⟩ = .malformed error ⟨rest, failure⟩ ∧
        ∀ more,
          hear size ⟨content ++ more, failure⟩ = .malformed error ⟨rest ++ more, failure⟩ := by
  obtain ⟨byte, others, rfl⟩ := List.exists_cons_of_ne_nil settled.filled
  unfold Decoder.Settled at settled
  simp only [hear, List.cons_append, Decoder.decodeStore]
  cases found : Decoder.scan size {} (byte :: others) with
  | head lines rest =>
      simp only [found] at settled
      have longer := Decoder.scan_head_append found
      simp only [List.cons_append] at longer
      simp only [longer, Decoder.Scan.result]
      cases made : Decoder.ofHead lines with
      | ok decoded => exact .inl ⟨decoded, rest, settled decoded made, rfl, fun _ => rfl⟩
      | error error =>
          cases error with
          | io message => exact absurd made (Decoder.of_head_refused lines)
          | _ => exact .inr ⟨_, rest, rfl, fun _ => rfl⟩
  | tooLong rest =>
      have longer := Decoder.scan_too_long_append found
      simp only [List.cons_append] at longer
      simp only [longer, Decoder.Scan.result]
      exact .inr ⟨_, rest, rfl, fun _ => rfl⟩
  | endless => simp only [found] at settled
  | unfinished part => simp only [found] at settled

end Loop

end StreamHttp
