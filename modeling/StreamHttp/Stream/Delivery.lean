import StreamHttp.Bytes

/-!
What a reader has in store: the bytes it will still deliver, and the failure behind them where it
does not end there. How the bytes are cut into reads is left open.
-/

namespace StreamHttp

structure Delivery where
  bytes : Bytes := []
  failure : Option String := none
  deriving DecidableEq, Repr

namespace Delivery

/-- Nothing but the end. -/
def finished : Delivery := {}

/-- The first bytes, and what is left, when as many as were asked for are waited for. An end behind
fewer bytes is no failure; a failure behind fewer bytes takes their place. -/
def upTo (allowance : Nat) (store : Delivery) : Except String Bytes × Delivery :=
  if allowance ≤ store.bytes.length then
    (.ok (store.bytes.take allowance), { store with bytes := store.bytes.drop allowance })
  else
    match store.failure with
    | none => (.ok store.bytes, finished)
    | some message => (.error message, { failure := some message })

/-- The part of a store that a bound lets through; the bound hides a failure behind it. -/
def within (bound : Nat) (store : Delivery) : Delivery where
  bytes := store.bytes.take bound
  failure := if store.bytes.length < bound then store.failure else none

def behind (bytes : Bytes) (store : Delivery) : Delivery :=
  { store with bytes := bytes ++ store.bytes }

@[simp] theorem behind_nil (store : Delivery) : store.behind [] = store := rfl

/-- What one read of at most `count` bytes may give: some of the bytes, or, when there are none, the
end or the failure. -/
inductive Gives (count : Nat) : Delivery → Except String Bytes → Delivery → Prop where
  | bytes {first rest : Bytes} {failure : Option String} (nonempty : first ≠ [])
      (fits : first.length ≤ count) : Gives count ⟨first ++ rest, failure⟩ (.ok first) ⟨rest, failure⟩
  | ending : Gives count ⟨[], none⟩ (.ok []) ⟨[], none⟩
  | failing (message : String) :
      Gives count ⟨[], some message⟩ (.error message) ⟨[], some message⟩
  | nothing (store : Delivery) (unasked : count = 0) : Gives count store (.ok []) store

/-- A read may be answered from bytes at the front of the store, as far as they fit. -/
theorem gives_front (count : Nat) {front : Bytes} (filled : front ≠ []) (store : Delivery) :
    (store.behind front).Gives count (.ok (front.take count)) (store.behind (front.drop count)) := by
  by_cases unasked : count = 0
  · subst unasked
    exact .nothing _ rfl
  · have taken : front.take count ≠ [] := by
      simp only [ne_eq, List.take_eq_nil_iff, not_or]
      exact ⟨unasked, filled⟩
    have joined : store.behind front = ⟨front.take count ++ (front.drop count ++ store.bytes),
        store.failure⟩ := by
      rw [← List.append_assoc, List.take_append_drop]
      rfl
    rw [joined]
    exact .bytes taken (List.length_take_le _ _)

theorem Gives.content {count : Nat} {store after : Delivery} {bytes : Bytes}
    (given : Gives count store (.ok bytes) after) :
    store = after.behind bytes ∧ bytes.length ≤ count := by
  cases given with
  | bytes nonempty fits => exact ⟨rfl, fits⟩
  | ending => exact ⟨rfl, Nat.zero_le _⟩
  | nothing => exact ⟨rfl, Nat.zero_le _⟩

theorem Gives.unchanged {count : Nat} {store after : Delivery} {message : String}
    (given : Gives count store (.error message) after) :
    after = store ∧ store = ⟨[], some message⟩ := by
  cases given
  exact ⟨rfl, rfl⟩

end Delivery

/-- Reads again and again, until the reads end or fail or `allowance` bytes are there. A failure
takes the place of the bytes before it. -/
def gather {α : Type} (read : Nat → α → Except String Bytes × α) :
    Nat → Nat → α → Except String Bytes × α
  | 0, _, reader => (.ok [], reader)
  | fuel + 1, allowance, reader =>
      if allowance == 0 then (.ok [], reader)
      else
        match read allowance reader with
        | (.error message, reader) => (.error message, reader)
        | (.ok [], reader) => (.ok [], reader)
        | (.ok (byte :: rest), reader) =>
            let (result, reader) := gather read fuel (allowance - (byte :: rest).length) reader
            (result.map (byte :: rest ++ ·), reader)

end StreamHttp
