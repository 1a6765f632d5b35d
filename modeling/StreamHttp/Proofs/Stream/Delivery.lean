import StreamHttp.Stream.Session
import StreamHttp.Stream.Limited

/-!
Gathering as a function of what is in store. Any reader whose single reads are answered from its
store is read to a given count, or to its end, with a result that the store alone decides.
-/

namespace StreamHttp

namespace Delivery

theorem up_to_zero (store : Delivery) : store.upTo 0 = (.ok [], store) := by
  simp [upTo]

theorem up_to_behind (store : Delivery) {first : Bytes} {allowance : Nat}
    (fits : first.length ≤ allowance) :
    (store.behind first).upTo allowance =
      ((store.upTo (allowance - first.length)).1.map (first ++ ·),
        (store.upTo (allowance - first.length)).2) := by
  obtain ⟨rest, failure⟩ := store
  simp only [upTo, behind, List.length_append]
  by_cases reached : allowance ≤ first.length + rest.length
  · have within : allowance - first.length ≤ rest.length := by omega
    rw [if_pos reached, if_pos within]
    simp [Except.map, List.take_append, List.drop_append, List.take_of_length_le fits,
      List.drop_eq_nil_of_le fits]
  · have beyond : ¬allowance - first.length ≤ rest.length := by omega
    rw [if_neg reached, if_neg beyond]
    cases failure <;> rfl

end Delivery

section

variable {α : Type} {read : Nat → α → Except String Bytes × α} {store : α → Delivery}
  {sound : α → Prop}

variable (store sound) in
/-- The fuel only has to exceed the number of bytes in store: every read but the last takes one. -/
theorem gather_up_to
    (lawful : ∀ count reader, sound reader →
      (store reader).Gives count (read count reader).1 (store (read count reader).2) ∧
        sound (read count reader).2)
    (fuel allowance : Nat) (reader : α) (start : sound reader)
    (enough : (store reader).bytes.length < fuel) :
    (gather read fuel allowance reader).1 = ((store reader).upTo allowance).1 ∧
      store (gather read fuel allowance reader).2 = ((store reader).upTo allowance).2 ∧
      sound (gather read fuel allowance reader).2 := by
  induction fuel generalizing allowance reader with
  | zero => exact absurd enough (Nat.not_lt_zero _)
  | succ fuel induction =>
      by_cases done : allowance = 0
      · subst done
        rw [Delivery.up_to_zero]
        exact ⟨rfl, rfl, start⟩
      · have asked : (allowance == 0) = false := by simpa using done
        simp only [gather, asked, Bool.false_eq_true, if_false]
        rcases answer : read allowance reader with ⟨result, after⟩
        have step := lawful allowance reader start
        rw [answer] at step
        obtain ⟨given, kept⟩ := step
        generalize before : store reader = stored at given enough ⊢
        generalize behind : store after = left at given
        cases given with
        | @bytes first rest failure nonempty fits =>
            cases first with
            | nil => exact absurd rfl nonempty
            | cons byte tail =>
                have fewer : (store after).bytes.length < fuel := by
                  rw [behind]
                  simp only [List.length_append, List.length_cons] at enough ⊢
                  omega
                have later := induction (allowance - (byte :: tail).length) after kept fewer
                have whole := Delivery.up_to_behind ⟨rest, failure⟩ fits
                simp only [Delivery.behind] at whole
                rw [whole]
                rw [behind] at later
                exact ⟨by simp only [later.1], later.2.1, later.2.2⟩
        | ending =>
            have short : ¬allowance ≤ 0 := by omega
            simp only [Delivery.upTo, List.length_nil, if_neg short]
            exact ⟨trivial, behind, kept⟩
        | failing message =>
            have short : ¬allowance ≤ 0 := by omega
            simp only [Delivery.upTo, List.length_nil, if_neg short]
            exact ⟨trivial, behind, kept⟩
        | nothing _ unasked => exact absurd unasked done

theorem gather_keeps (kept : α → Prop)
    (closed : ∀ count reader, kept reader → kept (read count reader).2)
    (fuel allowance : Nat) (reader : α) (start : kept reader) :
    kept (gather read fuel allowance reader).2 := by
  induction fuel generalizing allowance reader with
  | zero => exact start
  | succ fuel induction =>
      have once := closed allowance reader start
      rw [gather]
      split
      · exact start
      · split
        next answer => rw [answer] at once; exact once
        next answer => rw [answer] at once; exact once
        next answer => rw [answer] at once; exact induction _ _ once

/-- A reader inside of another state is gathered from as it is alone. -/
theorem gather_embed {β : Type} {inner : Nat → β → Except String Bytes × β} (embed : β → α)
    (same : ∀ count reader,
      read count (embed reader) = ((inner count reader).1, embed (inner count reader).2))
    (fuel allowance : Nat) (reader : β) :
    gather read fuel allowance (embed reader) =
      ((gather inner fuel allowance reader).1, embed (gather inner fuel allowance reader).2) := by
  induction fuel generalizing allowance reader with
  | zero => rfl
  | succ fuel induction =>
      rw [gather, gather, same]
      rcases inner allowance reader with ⟨_ | ⟨_ | ⟨byte, rest⟩⟩, after⟩
      · split <;> rfl
      · split <;> rfl
      · split
        · rfl
        · simp only [induction]

end

namespace Limited

theorem gives_read (count : Nat) (limited : Limited Session) :
    limited.delivery.Gives count (limited.read Session.read count).1
      (limited.read Session.read count).2.delivery := by
  obtain ⟨inner, size, remaining⟩ := limited
  by_cases spent : remaining = 0
  · subst spent
    simp only [delivery, read, Delivery.within, List.take_zero, Nat.not_lt_zero, if_false]
    exact .ending
  · have open_ : (remaining == 0) = false := by simpa using spent
    simp only [delivery, read, open_, Bool.false_eq_true, if_false]
    have given := inner.gives_read (min count remaining)
    rcases answer : inner.read (min count remaining) with ⟨result, after⟩
    rw [answer] at given
    generalize inner.delivery = stored at given ⊢
    generalize behind : after.delivery = left at given
    cases given with
    | @bytes first rest failure nonempty fits =>
        have bounded : first.length ≤ remaining := by omega
        have cut : (⟨first ++ rest, failure⟩ : Delivery).within remaining =
            ((⟨rest, failure⟩ : Delivery).within (remaining - first.length)).behind first := by
          simp only [Delivery.within, Delivery.behind, List.take_append,
            List.take_of_length_le bounded, List.length_append, Delivery.mk.injEq, true_and]
          by_cases short : rest.length < remaining - first.length
          · rw [if_pos short, if_pos (by omega)]
          · rw [if_neg short, if_neg (by omega)]
        simp only [behind]
        rw [cut]
        exact .bytes nonempty (by omega)
    | ending =>
        simp only [behind, Delivery.within, List.take_nil, List.length_nil, ite_self]
        exact .ending
    | failing message =>
        have short : ([] : Bytes).length < remaining := by
          simp only [List.length_nil]
          omega
        simp only [behind, Delivery.within, List.take_nil, if_pos short]
        exact .failing message
    | nothing _ unasked =>
        have none : count = 0 := by omega
        simp only [behind, List.length_nil, Nat.sub_zero]
        exact .nothing _ none

end Limited

end StreamHttp
