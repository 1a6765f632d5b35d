import StreamHttp.Proofs.Stream.Delivery

/-!
A window on a session. Whatever is read through the window, what is left behind it is what the
session had in store, less the bytes that the window let through. So a window that is read to its
end leaves the session right behind the bytes that belonged to it.
-/

namespace StreamHttp

namespace Delivery

def past (size : Nat) (store : Delivery) : Except String Delivery :=
  match store.upTo size with
  | (.ok _, rest) => .ok rest
  | (.error message, _) => .error message

theorem past_within {store : Delivery} {size : Nat} (inside : size ≤ store.bytes.length) :
    store.past size = .ok { store with bytes := store.bytes.drop size } := by
  simp only [past, upTo, if_pos inside]

theorem past_unfailing {store : Delivery} (size : Nat) (unfailing : store.failure = none) :
    store.past size = .ok ⟨store.bytes.drop size, none⟩ := by
  by_cases inside : size ≤ store.bytes.length
  · rw [past_within inside, unfailing]
  · have gone : store.bytes.drop size = [] := List.drop_eq_nil_of_le (by omega)
    simp only [past, upTo, if_neg inside, unfailing, gone]
    rfl

theorem past_failing {store : Delivery} {size : Nat} {message : String}
    (beyond : store.bytes.length < size) (failing : store.failure = some message) :
    store.past size = .error message := by
  have outside : ¬size ≤ store.bytes.length := by omega
  simp only [past, upTo, if_neg outside, failing]

end Delivery

namespace Limited

/-- How a window of so many bytes on some input stands to it, however far it has been read. -/
structure Within (input : Delivery) (size : Nat) (window : Limited Session) : Prop where
  bounded : window.remaining ≤ size
  reached : size - window.remaining ≤ input.bytes.length
  left : window.inner.delivery =
    { input with bytes := input.bytes.drop (size - window.remaining) }

theorem within_start (session : Session) (size : Nat) :
    Within session.delivery size (ofSize session size) where
  bounded := Nat.le_refl _
  reached := by simp [ofSize]
  left := by simp [ofSize]

theorem Within.read {input : Delivery} {size : Nat} {window : Limited Session}
    (within : Within input size window) (count : Nat) :
    Within input size (window.read Session.read count).2 := by
  obtain ⟨inner, whole, remaining⟩ := window
  obtain ⟨bounded, reached, left⟩ := within
  by_cases spent : remaining = 0
  · subst spent
    simp only [Limited.read, beq_self_eq_true, if_true]
    exact ⟨bounded, reached, left⟩
  · have unspent : (remaining == 0) = false := by simpa using spent
    simp only [Limited.read, unspent, Bool.false_eq_true, if_false]
    have given := inner.gives_read (min count remaining)
    rcases answer : inner.read (min count remaining) with ⟨result, after⟩
    rw [answer] at given
    cases result with
    | error message =>
        have same : after.delivery = inner.delivery := given.unchanged.1
        exact ⟨bounded, reached, same.trans left⟩
    | ok bytes =>
        obtain ⟨front, fits⟩ := given.content
        simp only [left, Delivery.behind, Delivery.mk.injEq] at front bounded reached
        have taken : bytes.length ≤ input.bytes.length - (size - remaining) := by
          rw [← List.length_drop, front.1, List.length_append]
          exact Nat.le_add_right _ _
        have fewer : size - (remaining - bytes.length) = size - remaining + bytes.length := by
          omega
        refine ⟨by simp only; omega, by simp only; omega, ?_⟩
        have rest : after.delivery.bytes =
            input.bytes.drop (size - (remaining - bytes.length)) := by
          rw [fewer, ← List.drop_drop, front.1, List.drop_left]
        simp only [← rest, front.2]

/-- A window that is read to its end leaves what follows its bytes. Where the input fails inside of
the window, so does the reading. -/
theorem gather_rest {input : Delivery} {size : Nat} {window : Limited Session}
    (within : Within input size window) :
    let enough := window.delivery.bytes.length + 1
    let answer := gather (Limited.read Session.read) enough enough window
    input.past size =
      match answer.1 with
      | .ok _ => .ok answer.2.inner.delivery
      | .error message => .error message := by
  intro enough answer
  have gathered := gather_up_to Limited.delivery (Within input size)
    (fun count window within => ⟨gives_read count window, within.read count⟩)
    enough enough window within (Nat.lt_succ_self _)
  change answer.1 = _ ∧ answer.2.delivery = _ ∧ Within input size answer.2 at gathered
  obtain ⟨result, store, ⟨boundedAfter, reachedAfter, leftAfter⟩⟩ := gathered
  have beyond : ¬enough ≤ window.delivery.bytes.length := by
    exact Nat.not_succ_le_self _
  simp only [Delivery.upTo, if_neg beyond] at result store
  obtain ⟨bounded, reached, left⟩ := within
  cases failure : window.delivery.failure with
  | some message =>
      rw [failure] at result
      simp only [delivery, left, Delivery.within, List.length_drop] at failure
      split at failure
      next short =>
        rw [result]
        exact Delivery.past_failing (by omega) failure
      next => cases failure
  | none =>
      rw [failure] at result store
      simp only [delivery, leftAfter, Delivery.within, Delivery.finished, Delivery.mk.injEq,
        List.take_eq_nil_iff, List.length_drop] at store
      rw [result]
      simp only [leftAfter]
      by_cases inside : size ≤ input.bytes.length
      · rw [Delivery.past_within inside]
        have passed : input.bytes.drop (size - answer.2.remaining) = input.bytes.drop size := by
          rcases store.1 with spent | gone
          · rw [spent, Nat.sub_zero]
          · rw [gone, List.drop_eq_nil_of_le]
            have := List.drop_eq_nil_iff.1 gone
            omega
        rw [passed]
      · have unfailing : input.failure = none := by
          simpa [show input.bytes.length - (size - answer.2.remaining) < answer.2.remaining by
            omega] using store.2
        rw [Delivery.past_unfailing size unfailing, unfailing]
        have gone : input.bytes.drop size = [] := List.drop_eq_nil_of_le (by omega)
        have passed : input.bytes.drop (size - answer.2.remaining) = [] := by
          rcases store.1 with spent | gone
          · rw [spent, Nat.sub_zero, gone]
          · exact gone
        rw [gone, passed]

end Limited

end StreamHttp
