import StreamHttp.Stream.Delivery

/-!
Where bytes come from. A source is the sequence of what its reads deliver: a read returns at most
the rest of the current part, and behind the last part the source either ends or fails again and
again. No part is empty, so an empty read means the end. A read may have to be polled several times
before it is answered.
-/

namespace StreamHttp

structure Source where
  parts : List Bytes := []
  failure : Option String := none
  /-- How many polls find nothing ready before the read of a number is answered. -/
  pauses : Nat → Nat := fun _ => 0
  answered : Nat := 0
  /-- The polls of the read under way that found nothing. -/
  waited : Nat := 0
  nonempty : [] ∉ parts := by simp

namespace Source

def ofParts (parts : List Bytes) (failure : Option String) : Source where
  parts := parts.filter fun part => !part.isEmpty
  failure := failure
  nonempty := by simp

def ofBytes (bytes : Bytes) : Source := ofParts [bytes] none

/-- Everything the source will deliver. -/
def content (source : Source) : Bytes := source.parts.flatten

theorem content_of_bytes (bytes : Bytes) : (ofBytes bytes).content = bytes := by
  cases bytes <;> simp [ofBytes, ofParts, content]

theorem content_of_parts (parts : List Bytes) (failure : Option String) :
    (ofParts parts failure).content = parts.flatten := by
  simp only [ofParts, content]
  induction parts with
  | nil => rfl
  | cons part rest induction => cases part <;> simp_all

def delivery (source : Source) : Delivery := ⟨source.content, source.failure⟩

/-- What a read of at most `count` bytes is answered, and what is left behind it. -/
def answer (count : Nat) (source : Source) : Except String Bytes × Source :=
  match parts : source.parts with
  | [] =>
      match source.failure with
      | none => (.ok [], source)
      | some message => (.error message, source)
  | part :: rest =>
      have others : [] ∉ rest := fun member => source.nonempty (by simp [parts, member])
      if left : part.drop count = [] then
        (.ok part, { source with parts := rest, nonempty := others })
      else
        (.ok (part.take count),
          { source with
            parts := part.drop count :: rest
            nonempty := by simp [others, Ne.symm left] })

/-- One poll for a read; nothing when there is no answer yet. -/
def poll (count : Nat) (source : Source) : Option (Except String Bytes) × Source :=
  if source.waited < source.pauses source.answered then
    (none, { source with waited := source.waited + 1 })
  else
    let (result, source) := source.answer count
    (some result, { source with answered := source.answered + 1, waited := 0 })

/-- Polls until there is an answer, with patience for so many polls. -/
def await (count : Nat) : Nat → Source → Except String Bytes × Source
  | 0, source => source.answer count
  | patience + 1, source =>
      match source.poll count with
      | (none, source) => await count patience source
      | (some result, source) => (result, source)

def read (count : Nat) (source : Source) : Except String Bytes × Source :=
  source.await count (source.pauses source.answered - source.waited + 1)

/-- The answer does not depend on what was waited for it. -/
theorem answer_waited (count waited : Nat) (source : Source) :
    answer count { source with waited } =
      ((source.answer count).1, { (source.answer count).2 with waited }) := by
  rcases source with ⟨parts, failure, pauses, answered, before, nonempty⟩
  cases parts with
  | nil => cases failure <;> rfl
  | cons part rest =>
      simp only [answer]
      split <;> rfl

theorem await_answer (count patience : Nat) (source : Source) :
    ∃ answered waited, source.await count patience =
      ((source.answer count).1, { (source.answer count).2 with answered, waited }) := by
  induction patience generalizing source with
  | zero => exact ⟨_, _, rfl⟩
  | succ patience induction =>
      simp only [await, poll]
      split
      next pending =>
        split at pending
        next =>
          cases pending
          rcases induction { source with waited := source.waited + 1 } with ⟨answered, waited, same⟩
          exact ⟨answered, waited, by rw [same, answer_waited]⟩
        next => simp at pending
      next ready =>
        split at ready
        next => simp at ready
        next =>
          simp only [Prod.mk.injEq, Option.some.injEq] at ready
          rcases ready with ⟨rfl, rfl⟩
          exact ⟨_, _, rfl⟩

theorem gives_answer (count : Nat) (source : Source) :
    source.delivery.Gives count (source.answer count).1 (source.answer count).2.delivery := by
  rcases source with ⟨parts, failure, pauses, answered, waited, nonempty⟩
  cases parts with
  | nil =>
      cases failure with
      | none => exact .ending
      | some message => exact .failing message
  | cons part rest =>
      have filled : part ≠ [] := fun empty => nonempty (by simp [empty])
      simp only [answer, delivery, content]
      split
      next left =>
        have fits : part.length ≤ count := by simpa [List.drop_eq_nil_iff] using left
        exact .bytes filled fits
      next =>
        exact Delivery.gives_front count filled ⟨rest.flatten, failure⟩

theorem gives_read (count : Nat) (source : Source) :
    source.delivery.Gives count (source.read count).1 (source.read count).2.delivery := by
  rcases await_answer count (source.pauses source.answered - source.waited + 1) source with
    ⟨answered, waited, same⟩
  rw [read, same]
  exact gives_answer count source

end Source

end StreamHttp
