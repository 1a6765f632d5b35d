import Mathlib.Data.List.Infix
import Mathlib.Logic.Relation
import StreamHttp.Proofs.Stream.Tee
import StreamHttp.Stream.Source

/-!
What the two sides of a split receive. Whichever of them has to pull from the source, both receive
its bytes in their order and come to its end, and to the same failure if it has one. The source is
pulled once for each of its chunks and once for its end. A chunk is held until every side that was
not dropped has begun it; what is left of it then is the side's own.
-/

namespace StreamHttp

variable {σ ρ ε : Type}

def Ending.answer : Ending ε → Except ε Bytes
  | .finished => .ok []
  | .failed failure => .error failure

def Ending.behind (store : Delivery) : Ending :=
  match store.failure with
  | none => .finished
  | some message => .failed message

namespace Tee

section

variable (pull : σ → ρ → Except ε Bytes × σ × ρ)

/-- A source that gives these chunks, one for each pull, and then comes to its end. What it would
give behind its end is left open. -/
def Supplies (ending : Ending ε) : List Bytes → σ → ρ → Prop
  | [], source, around => (pull source around).1 = ending.answer
  | chunk :: rest, source, around =>
      chunk ≠ [] ∧ (pull source around).1 = .ok chunk ∧
        Supplies ending rest (pull source around).2.1 (pull source around).2.2

/-- The source as a number of pulls leaves it. Between them it may be asked in vain, which changes
nothing about its next answer. -/
inductive Pulled (start : σ × ρ) : Nat → σ × ρ → Prop where
  | start : Pulled start 0 start
  | next {number : Nat} {state : σ × ρ} (before : Pulled start number state) :
      Pulled start (number + 1) (pull state.1 state.2).2
  | wait {number : Nat} {state after : σ × ρ} (before : Pulled start number state)
      (same : pull after.1 after.2 = pull state.1 state.2) : Pulled start number after

inductive Reading (count : Nat) (side : Side) (tee : Tee σ ε) (around : ρ) :
    Except ε Bytes → Tee σ ε → ρ → Prop where
  /-- It goes on with the chunk that the side has begun. -/
  | begun {number : Nat} {current : Bytes} (standing : tee.place side = some ⟨number, current⟩)
      (filled : current ≠ []) :
      Reading count side tee around (.ok (current.take count))
        (tee.setPlace side (some ⟨number, current.drop count⟩)) around
  | held {number : Nat} {chunk : Bytes} (standing : tee.place side = some ⟨number, []⟩)
      (kept : tee.held[number - tee.base]? = some chunk) :
      Reading count side tee around (.ok (chunk.take count))
        (tee.setPlace side (some ⟨number + 1, chunk.drop count⟩)).trim around
  | pulled {number : Nat} {chunk : Bytes} {source : σ} {later : ρ}
      (standing : tee.place side = some ⟨number, []⟩)
      (passed : tee.held[number - tee.base]? = none) (unended : tee.ending = none)
      (filled : chunk ≠ []) (given : pull tee.source around = (.ok chunk, source, later)) :
      Reading count side tee around (.ok (chunk.take count))
        (({ tee with source, held := tee.held ++ [chunk] } : Tee σ ε).setPlace side
          (some ⟨number + 1, chunk.drop count⟩)).trim later
  | ended {number : Nat} (ending : Ending ε) {source : σ} {later : ρ}
      (standing : tee.place side = some ⟨number, []⟩)
      (passed : tee.held[number - tee.base]? = none) (unended : tee.ending = none)
      (given : pull tee.source around = (ending.answer, source, later)) :
      Reading count side tee around ending.answer { tee with source, ending := some ending } later
  | remembered {number : Nat} {ending : Ending ε} (standing : tee.place side = some ⟨number, []⟩)
      (passed : tee.held[number - tee.base]? = none) (known : tee.ending = some ending) :
      Reading count side tee around ending.answer tee around

end

variable {pull : σ → ρ → Except ε Bytes × σ × ρ} {tee : Tee σ ε}

variable (pull) in
theorem reading (sound : tee.Sound) {side : Side} {place : Place}
    (standing : tee.place side = some place) (count : Nat) (around : ρ) :
    Reading pull count side tee around (tee.read pull count side around).1
      (tee.read pull count side around).2.1 (tee.read pull count side around).2.2 := by
  obtain ⟨number, _ | ⟨byte, rest⟩⟩ := place
  · cases kept : tee.held[number - tee.base]? with
    | some chunk =>
        cases chunk with
        | nil => exact absurd (List.mem_of_getElem? kept) sound.filled
        | cons byte rest =>
            simp only [read, standing, fetch, kept]
            exact .held standing kept
    | none =>
        cases known : tee.ending with
        | some ending =>
            cases ending with
            | finished =>
                simp only [read, standing, fetch, kept, known]
                exact .remembered standing kept known
            | failed failure =>
                simp only [read, standing, fetch, kept, known]
                exact .remembered standing kept known
        | none =>
            rcases given : pull tee.source around with ⟨failure | chunk, source, later⟩
            · simp only [read, standing, fetch, kept, known, given]
              exact .ended (.failed failure) standing kept known given
            · cases chunk with
              | nil =>
                  simp only [read, standing, fetch, kept, known, given]
                  exact .ended .finished standing kept known given
              | cons byte rest =>
                  simp only [read, standing, fetch, kept, known, given]
                  simpa only [known] using
                    Reading.pulled standing kept known (List.cons_ne_nil byte rest) given
  · simp only [read, standing]
    exact .begun standing (List.cons_ne_nil _ _)

def reached (tee : Tee σ ε) : Nat := tee.base + tee.held.length

def pulls (tee : Tee σ ε) : Nat := tee.reached + tee.ending.toList.length

theorem Sound.slowest (sound : tee.Sound) : tee.base ≤ tee.slowest ∧ tee.slowest ≤ tee.reached := by
  obtain ⟨source, held, base, left, right, ending⟩ := tee
  have first := sound.placed .left
  have second := sound.placed .right
  cases left with
  | none =>
      cases right with
      | none => exact ⟨Nat.le_add_right _ _, Nat.le_refl _⟩
      | some place => exact second place rfl
  | some place =>
      cases right with
      | none => exact first place rfl
      | some other =>
          have bounds := first place rfl
          have others := second other rfl
          simp only [Tee.slowest, reached] at bounds others ⊢
          omega

/-- A chunk that was pulled is behind the slowest side, unless some side has not come to it. -/
theorem slowest_le_iff {number : Nat} (inside : number < tee.reached) :
    tee.slowest ≤ number ↔ ∃ side place, tee.place side = some place ∧ place.chunk ≤ number := by
  constructor
  · intro below
    obtain ⟨source, held, base, left, right, ending⟩ := tee
    cases left with
    | none =>
        cases right with
        | none => exact absurd below (Nat.not_le.2 inside)
        | some place => exact ⟨.right, place, rfl, below⟩
    | some place =>
        cases right with
        | none => exact ⟨.left, place, rfl, below⟩
        | some other =>
            have either : place.chunk ≤ number ∨ other.chunk ≤ number := by
              simp only [Tee.slowest] at below
              omega
            rcases either with first | second
            · exact ⟨.left, place, rfl, first⟩
            · exact ⟨.right, other, rfl, second⟩
  · rintro ⟨side, place, standing, below⟩
    exact (tee.slowest_le standing).trans below

@[simp] theorem reached_set (tee : Tee σ ε) (side : Side) (place : Option Place) :
    (tee.setPlace side place).reached = tee.reached := by
  cases side <;> rfl

@[simp] theorem ending_set (tee : Tee σ ε) (side : Side) (place : Option Place) :
    (tee.setPlace side place).ending = tee.ending := by
  cases side <;> rfl

@[simp] theorem reached_trim (tee : Tee σ ε) : tee.trim.reached = tee.reached := by
  simp only [reached, trim, List.length_drop]
  omega

@[simp] theorem ending_trim (tee : Tee σ ε) : tee.trim.ending = tee.ending := rfl

theorem place_drop {side other : Side} {place : Place}
    (standing : (tee.drop side).place other = some place) : tee.place other = some place := by
  rw [Tee.drop, place_trim] at standing
  by_cases same : other = side
  · subst same
    rw [place_set_same] at standing
    cases standing
  · rwa [place_set_other _ _ same] at standing

/-- A read gives some bytes, or it finds the end behind all chunks that were pulled. -/
theorem Reading.outcome {count : Nat} {side : Side} {around later : ρ} {result : Except ε Bytes}
    {next : Tee σ ε} (reading : Reading pull count side tee around result next later)
    (sound : tee.Sound) (asked : 0 < count) :
    (∃ piece, piece ≠ [] ∧ piece.length ≤ count ∧ result = .ok piece ∧ next.place side ≠ none) ∨
      ∃ number last, tee.place side = some ⟨number, []⟩ ∧ tee.reached ≤ number ∧
        next.reached = tee.reached ∧ next.ending = some last ∧ result = last.answer := by
  have taken {bytes : Bytes} (filled : bytes ≠ []) : bytes.take count ≠ [] := by
    rw [Ne, List.take_eq_nil_iff, not_or]
    exact ⟨Nat.ne_of_gt asked, filled⟩
  have behind {number : Nat} (passed : tee.held[number - tee.base]? = none)
      (low : tee.base ≤ number) : tee.reached ≤ number := by
    have short := List.getElem?_eq_none_iff.1 passed
    simp only [reached]
    omega
  cases reading with
  | begun standing filled =>
      refine .inl ⟨_, taken filled, List.length_take_le _ _, rfl, ?_⟩
      rw [place_set_same]
      exact Option.some_ne_none _
  | @held number chunk standing kept =>
      have filled : chunk ≠ [] := by
        rintro rfl
        exact sound.filled (List.mem_of_getElem? kept)
      refine .inl ⟨_, taken filled, List.length_take_le _ _, rfl, ?_⟩
      rw [place_trim, place_set_same]
      exact Option.some_ne_none _
  | pulled standing passed unended filled given =>
      refine .inl ⟨_, taken filled, List.length_take_le _ _, rfl, ?_⟩
      rw [place_trim, place_set_same]
      exact Option.some_ne_none _
  | ended last standing passed unended given =>
      exact .inr ⟨_, last, standing, behind passed (sound.placed side _ standing).1, rfl, rfl, rfl⟩
  | remembered standing passed known =>
      exact .inr ⟨_, _, standing, behind passed (sound.placed side _ standing).1, rfl, known, rfl⟩

/-- No chunk is held that every side has begun. -/
def Settled (tee : Tee σ ε) : Prop := tee.base = tee.slowest

theorem slowest_trim (tee : Tee σ ε) : tee.trim.slowest = tee.slowest := by
  have same := tee.reached_trim
  obtain ⟨source, held, base, left, right, ending⟩ := tee
  cases left with
  | none =>
      cases right with
      | none => exact same
      | some place => rfl
  | some place => cases right <;> rfl

theorem Sound.settled (sound : tee.Sound) : tee.trim.Settled := by
  have bounds := sound.slowest
  rw [Settled, slowest_trim]
  simp only [Tee.trim, reached] at bounds ⊢
  omega

theorem Settled.set (settled : tee.Settled) {side : Side} {place next : Place}
    (standing : tee.place side = some place) (same : next.chunk = place.chunk) :
    (tee.setPlace side (some next)).Settled := by
  obtain ⟨source, held, base, left, right, ending⟩ := tee
  cases side with
  | left =>
      cases standing
      cases right <;> simpa only [Settled, Tee.slowest, setPlace, same] using settled
  | right =>
      cases standing
      cases left <;> simpa only [Settled, Tee.slowest, setPlace, same] using settled

/-- How a split stands to a source of these chunks that began as `start`. -/
structure Follows (pull : σ → ρ → Except ε Bytes × σ × ρ) (chunks : List Bytes) (ending : Ending ε)
    (start : σ × ρ) (tee : Tee σ ε) (around : ρ) : Prop where
  sound : tee.Sound
  inside : tee.reached ≤ chunks.length
  held : tee.held = (chunks.take tee.reached).drop tee.base
  supplied : tee.ending = none →
    Supplies pull ending (chunks.drop tee.reached) tee.source around
  ended : ∀ last, tee.ending = some last → last = ending ∧ tee.reached = chunks.length
  pulled : Pulled pull start tee.pulls (tee.source, around)

/-- A source whose reads are answered from a store supplies the bytes in store, cut somehow. -/
theorem supplies_store (store : σ → ρ → Delivery) {pull : σ → ρ → Except String Bytes × σ × ρ}
    (lawful : ∀ source around, (store source around).Gives chunkSize (pull source around).1
      (store (pull source around).2.1 (pull source around).2.2)) (source : σ) (around : ρ) :
    ∃ chunks, chunks.flatten = (store source around).bytes ∧
      Supplies pull (.behind (store source around)) chunks source around := by
  induction size : (store source around).bytes.length using Nat.strong_induction_on
    generalizing source around with
  | h size induction =>
      subst size
      have given := lawful source around
      generalize before : store source around = stored at given induction ⊢
      generalize behind : store (pull source around).2.1 (pull source around).2.2 = left at given
      generalize answered : (pull source around).1 = answer at given
      cases given with
      | @bytes first rest failure filled fits =>
          have fewer : rest.length < (first ++ rest).length := by
            rw [List.length_append]
            exact Nat.lt_add_of_pos_left (List.length_pos_of_ne_nil filled)
          obtain ⟨chunks, whole, supplied⟩ := induction rest.length fewer _ _ (by rw [behind])
          rw [behind] at whole supplied
          exact ⟨first :: chunks, by rw [List.flatten_cons, whole], filled, answered, supplied⟩
      | ending => exact ⟨[], rfl, answered⟩
      | failing message => exact ⟨[], rfl, answered⟩
      | nothing _ unasked => cases unasked

theorem supplies_source (source : Source) (around : ρ) :
    ∃ chunks, chunks.flatten = source.content ∧
      Supplies (fun source around => ((source.read chunkSize).1, (source.read chunkSize).2, around))
        (.behind source.delivery) chunks source around :=
  supplies_store (fun source _ => source.delivery) (fun source _ => source.gives_read chunkSize)
    source around

variable {chunks : List Bytes} {ending : Ending ε} {start : σ × ρ} {around later : ρ} {source : σ}

theorem Supplies.wait {before : σ} (supplied : Supplies pull ending chunks before around)
    (same : pull source later = pull before around) :
    Supplies pull ending chunks source later := by
  cases chunks with
  | nil => rwa [Supplies, same]
  | cons chunk rest => rwa [Supplies, same]

theorem follows_fresh (supplied : Supplies pull ending chunks source around) :
    ({ source } : Tee σ ε).Follows pull chunks ending (source, around) around where
  sound := sound_fresh source
  inside := Nat.zero_le _
  held := rfl
  supplied _ := supplied
  ended _ known := nomatch known
  pulled := .start

theorem Follows.set (follows : tee.Follows pull chunks ending start around) (side : Side)
    {place : Option Place}
    (bounded : ∀ own, place = some own → tee.base ≤ own.chunk ∧ own.chunk ≤ tee.reached) :
    (tee.setPlace side place).Follows pull chunks ending start around where
  sound := follows.sound.set side bounded
  inside := by simpa using follows.inside
  held := by simpa using follows.held
  supplied := by simpa using follows.supplied
  ended := by simpa using follows.ended
  pulled := by simpa [pulls] using follows.pulled

theorem Follows.trim (follows : tee.Follows pull chunks ending start around) :
    tee.trim.Follows pull chunks ending start around where
  sound := follows.sound.trim
  inside := by simpa using follows.inside
  held := by
    rw [reached_trim]
    simp only [Tee.trim]
    rw [← List.drop_drop, ← follows.held]
  supplied := by simpa using follows.supplied
  ended := by simpa using follows.ended
  pulled := by simpa [pulls] using follows.pulled

theorem answer_injective {last : Ending ε} (same : last.answer = ending.answer) :
    last = ending := by
  cases last <;> cases ending <;> simp_all [Ending.answer]

theorem answer_empty {chunk : Bytes} (same : (.ok chunk : Except ε Bytes) = ending.answer) :
    chunk = [] := by
  cases ending with
  | finished => exact Except.ok.inj same
  | failed failure => cases same

theorem Follows.brings (follows : tee.Follows pull chunks ending start around)
    (unended : tee.ending = none) {chunk : Bytes} (filled : chunk ≠ [])
    (given : pull tee.source around = (.ok chunk, source, later)) :
    chunks[tee.reached]? = some chunk ∧
      ({ tee with source, held := tee.held ++ [chunk] } : Tee σ ε).Follows pull chunks ending start
        later := by
  have supplied := follows.supplied unended
  cases behind : chunks.drop tee.reached with
  | nil =>
      rw [behind, Supplies, given] at supplied
      exact absurd (answer_empty supplied) filled
  | cons next rest =>
      rw [behind, Supplies, given] at supplied
      obtain ⟨_, same, supplied⟩ := supplied
      cases same
      have named : chunks[tee.reached]? = some chunk := by
        rw [← List.head?_drop, behind, List.head?_cons]
      have inside : tee.reached < chunks.length := (List.getElem?_eq_some_iff.1 named).1
      have grown : ({ tee with source, held := tee.held ++ [chunk] } : Tee σ ε).reached =
          tee.reached + 1 := by
        simp only [reached, List.length_append, List.length_singleton, Nat.add_assoc]
      refine ⟨named, ⟨⟨?_, ?_⟩, ?_, ?_, ?_, ?_, ?_⟩⟩
      · simpa [Ne.symm filled] using follows.sound.filled
      · intro side place standing
        have bounds := follows.sound.placed side place (by cases side <;> exact standing)
        simp only [List.length_append, List.length_singleton]
        omega
      · rw [grown]
        exact inside
      · rw [grown, List.take_add_one, named, follows.held]
        exact (List.drop_append_of_le_length (by simp [reached] at inside ⊢; omega)).symm
      · intro _
        have further : chunks.drop (tee.reached + 1) = rest := by
          rw [← List.drop_drop, behind, List.drop_one, List.tail_cons]
        rw [grown, further]
        exact supplied
      · intro last known
        cases unended.symm.trans known
      · have counted : ({ tee with source, held := tee.held ++ [chunk] } : Tee σ ε).pulls =
            tee.pulls + 1 := by
          rw [pulls, grown, pulls, Nat.add_right_comm]
        have pulled := follows.pulled.next
        rw [given] at pulled
        rw [counted]
        exact pulled

theorem Follows.ends (follows : tee.Follows pull chunks ending start around)
    (unended : tee.ending = none) {last : Ending ε}
    (given : pull tee.source around = (last.answer, source, later)) :
    last = ending ∧ ({ tee with source, ending := some last } : Tee σ ε).Follows pull chunks ending
      start later := by
  have supplied := follows.supplied unended
  cases behind : chunks.drop tee.reached with
  | cons next rest =>
      rw [behind, Supplies, given] at supplied
      exact absurd (answer_empty supplied.2.1.symm) supplied.1
  | nil =>
      rw [behind, Supplies, given] at supplied
      have same := answer_injective supplied
      have all : tee.reached = chunks.length :=
        Nat.le_antisymm follows.inside (List.drop_eq_nil_iff.1 behind)
      refine ⟨same, ⟨⟨follows.sound.filled, ?_⟩, follows.inside, follows.held, ?_, ?_, ?_⟩⟩
      · intro side place standing
        exact follows.sound.placed side place (by cases side <;> exact standing)
      · intro impossible
        cases impossible
      · rintro _ ⟨⟩
        exact ⟨same, all⟩
      · have counted : ({ tee with source, ending := some last } : Tee σ ε).pulls =
            tee.pulls + 1 := by
          rw [pulls, pulls, unended]
          rfl
        have pulled := follows.pulled.next
        rw [given] at pulled
        rw [counted]
        exact pulled

end Tee

/-- A place agrees with what its side has received: with what is left of the begun chunk it makes up
the chunks in front of the place, and something was received of each of them. -/
structure Place.Agrees (chunks : List Bytes) (received : Bytes) (place : Place) : Prop where
  whole : received ++ place.current = (chunks.take place.chunk).flatten
  begun : ∀ number < place.chunk, (chunks.take number).flatten.length < received.length

namespace Place.Agrees

variable {chunks : List Bytes} {received : Bytes} {number count : Nat}

theorem goes_on {current : Bytes} (agrees : Agrees chunks received ⟨number, current⟩) :
    Agrees chunks (received ++ current.take count) ⟨number, current.drop count⟩ where
  whole := by
    rw [List.append_assoc, List.take_append_drop]
    exact agrees.whole
  begun earlier before := by
    rw [List.length_append]
    exact Nat.lt_add_right _ (agrees.begun earlier before)

theorem begins {chunk : Bytes} (agrees : Agrees chunks received ⟨number, []⟩)
    (next : chunks[number]? = some chunk) (filled : chunk ≠ []) (asked : 0 < count) :
    Agrees chunks (received ++ chunk.take count) ⟨number + 1, chunk.drop count⟩ := by
  have whole : received = (chunks.take number).flatten := by
    simpa only [List.append_nil] using agrees.whole
  have more : 0 < (chunk.take count).length := by
    rw [List.length_take]
    exact Nat.lt_min.2 ⟨asked, List.length_pos_of_ne_nil filled⟩
  refine ⟨?_, ?_⟩
  · rw [List.append_assoc, List.take_append_drop, List.take_add_one, next, List.flatten_append,
      ← whole]
    simp
  · intro earlier before
    rw [List.length_append]
    rcases Nat.lt_succ_iff_lt_or_eq.1 before with less | rfl
    · exact Nat.lt_add_right _ (agrees.begun earlier less)
    · rw [← whole]
      exact Nat.lt_add_of_pos_right more

/-- A side has come to a chunk that is still in front of it exactly if nothing was received of it. -/
theorem chunk_le_iff {place : Place} (agrees : place.Agrees chunks received) (number : Nat) :
    place.chunk ≤ number ↔ received.length ≤ (chunks.take number).flatten.length := by
  constructor
  · intro ahead
    have total := congrArg List.length agrees.whole
    have less : (chunks.take place.chunk).flatten.length ≤ (chunks.take number).flatten.length :=
      ((List.take_prefix_take_left ahead).flatten).length_le
    rw [List.length_append] at total
    omega
  · intro unread
    exact Nat.not_lt.1 fun before => Nat.not_lt.2 unread (agrees.begun number before)

end Place.Agrees

/-- A split in use, and what its sides have received. -/
structure Observed (σ ρ ε : Type) where
  tee : Tee σ ε
  around : ρ
  received : Side → Bytes := fun _ => []

namespace Observed

open Tee

section

variable (pull : σ → ρ → Except ε Bytes × σ × ρ)

def read (count : Nat) (side : Side) (state : Observed σ ρ ε) : Observed σ ρ ε :=
  let (result, tee, around) := state.tee.read pull count side state.around
  { tee
    around
    received := Function.update state.received side
      (state.received side ++ result.toOption.getD []) }

/-- What may happen to a split: a side that was not dropped is read, the source is asked in vain
before it has ended, or a side is dropped. -/
inductive Step : Observed σ ρ ε → Observed σ ρ ε → Prop where
  | read (state : Observed σ ρ ε) {side : Side} {count : Nat} (live : state.tee.place side ≠ none)
      (asked : 0 < count) : Step state (state.read pull count side)
  | wait (state : Observed σ ρ ε) {source : σ} {around : ρ} (unended : state.tee.ending = none)
      (same : pull source around = pull state.tee.source state.around) :
      Step state { state with tee := { state.tee with source }, around }
  | drop (state : Observed σ ρ ε) (side : Side) :
      Step state { state with tee := state.tee.drop side }

abbrev Reaches : Observed σ ρ ε → Observed σ ρ ε → Prop := Relation.ReflTransGen (Step pull)

end

/-- What holds of a split whatever is done with it. -/
structure Kept (pull : σ → ρ → Except ε Bytes × σ × ρ) (chunks : List Bytes) (ending : Ending ε)
    (start : σ × ρ) (state : Observed σ ρ ε) : Prop where
  follows : state.tee.Follows pull chunks ending start state.around
  settled : state.tee.Settled
  agrees : ∀ side place, state.tee.place side = some place →
    place.Agrees chunks (state.received side)

variable {pull : σ → ρ → Except ε Bytes × σ × ρ} {chunks : List Bytes} {ending : Ending ε}
  {start : σ × ρ} {state : Observed σ ρ ε}

theorem kept_fresh {source : σ} {around : ρ} (supplied : Supplies pull ending chunks source around) :
    Kept pull chunks ending (source, around) { tee := { source }, around } where
  follows := follows_fresh supplied
  settled := rfl
  agrees side place standing := by
    have first : place = {} := by cases side <;> exact (Option.some.inj standing).symm
    subst first
    exact ⟨rfl, fun _ impossible => absurd impossible (Nat.not_lt_zero _)⟩

theorem Kept.held (kept : Kept pull chunks ending start state) {number : Nat} {chunk : Bytes}
    (low : state.tee.base ≤ number) (held : state.tee.held[number - state.tee.base]? = some chunk) :
    chunks[number]? = some chunk ∧ number < state.tee.reached := by
  have inside : number < state.tee.reached := by
    have short := (List.getElem?_eq_some_iff.1 held).1
    simp only [reached]
    omega
  rw [kept.follows.held, List.getElem?_drop, Nat.add_sub_cancel' low,
    List.getElem?_take_of_lt inside] at held
  exact ⟨held, inside⟩

/-- One side is given bytes; the other one stands where it stood. -/
theorem Kept.give (kept : Kept pull chunks ending start state) {side : Side} {bytes : Bytes}
    {tee : Tee σ ε} {around : ρ} (follows : tee.Follows pull chunks ending start around)
    (settled : tee.Settled) (others : ∀ other ≠ side, tee.place other = state.tee.place other)
    (own : ∀ place, tee.place side = some place →
      place.Agrees chunks (state.received side ++ bytes)) :
    Kept pull chunks ending start
      { tee
        around
        received := Function.update state.received side (state.received side ++ bytes) } := by
  refine ⟨follows, settled, ?_⟩
  intro other place standing
  by_cases same : other = side
  · subst same
    simp only [Function.update_self]
    exact own place standing
  · simp only [Function.update_of_ne same]
    exact kept.agrees other place ((others other same).symm.trans standing)

theorem Kept.goes_on (kept : Kept pull chunks ending start state) {side : Side}
    {number count : Nat} {current : Bytes}
    (standing : state.tee.place side = some ⟨number, current⟩) :
    Kept pull chunks ending start
      { tee := state.tee.setPlace side (some ⟨number, current.drop count⟩)
        around := state.around
        received := Function.update state.received side
          (state.received side ++ current.take count) } := by
  have bounds := kept.follows.sound.placed side _ standing
  have bounded : ∀ own, some (⟨number, current.drop count⟩ : Place) = some own →
      state.tee.base ≤ own.chunk ∧ own.chunk ≤ state.tee.reached := by
    intro own taken
    cases taken
    exact bounds
  refine kept.give (kept.follows.set side bounded) (kept.settled.set standing rfl) ?_ ?_
  · intro other different
    exact place_set_other _ _ different
  · intro place taken
    rw [place_set_same] at taken
    cases taken
    exact (kept.agrees side _ standing).goes_on

/-- A side that comes to the next chunk takes up what it is asked for and keeps the rest. -/
theorem Kept.begins (kept : Kept pull chunks ending start state) {side : Side} {number count : Nat}
    {chunk : Bytes} {tee : Tee σ ε} {around : ρ}
    (standing : state.tee.place side = some ⟨number, []⟩)
    (follows : tee.Follows pull chunks ending start around)
    (places : ∀ other, tee.place other = state.tee.place other)
    (next : chunks[number]? = some chunk) (inside : number < tee.reached) (filled : chunk ≠ [])
    (asked : 0 < count) :
    Kept pull chunks ending start
      { tee := (tee.setPlace side (some ⟨number + 1, chunk.drop count⟩)).trim
        around
        received := Function.update state.received side
          (state.received side ++ chunk.take count) } := by
  have bounds := follows.sound.placed side _ ((places side).trans standing)
  have bounded : ∀ own, some (⟨number + 1, chunk.drop count⟩ : Place) = some own →
      tee.base ≤ own.chunk ∧ own.chunk ≤ tee.reached := by
    intro own taken
    cases taken
    exact ⟨Nat.le_succ_of_le bounds.1, inside⟩
  have placed := follows.set side bounded
  refine kept.give placed.trim placed.sound.settled ?_ ?_
  · intro other different
    rw [place_trim, place_set_other _ _ different, places]
  · intro place taken
    rw [place_trim, place_set_same] at taken
    cases taken
    exact (kept.agrees side _ standing).begins next filled asked

theorem Kept.comes_to_end (kept : Kept pull chunks ending start state) (side : Side)
    {last : Ending ε} {tee : Tee σ ε} {around : ρ}
    (follows : tee.Follows pull chunks ending start around) (settled : tee.Settled)
    (places : ∀ other, tee.place other = state.tee.place other) :
    Kept pull chunks ending start
      { tee
        around
        received := Function.update state.received side
          (state.received side ++ last.answer.toOption.getD []) } := by
  have nothing : last.answer.toOption.getD [] = [] := by cases last <;> rfl
  rw [nothing]
  refine kept.give follows settled (fun other _ => places other) ?_
  intro place standing
  rw [List.append_nil]
  exact kept.agrees side place ((places side).symm.trans standing)

theorem Kept.read (kept : Kept pull chunks ending start state) {side : Side} {count : Nat}
    (live : state.tee.place side ≠ none) (asked : 0 < count) :
    Kept pull chunks ending start (state.read pull count side) := by
  obtain ⟨place, standing⟩ := Option.ne_none_iff_exists'.1 live
  have sound := kept.follows.sound
  have reading := Tee.reading pull sound standing count state.around
  simp only [Observed.read]
  generalize state.tee.read pull count side state.around = answer at reading ⊢
  obtain ⟨result, tee, later⟩ := answer
  cases reading with
  | begun standing filled => exact kept.goes_on standing
  | @held number chunk standing held =>
      have filled : chunk ≠ [] := by
        rintro rfl
        exact sound.filled (List.mem_of_getElem? held)
      have next := kept.held (sound.placed side _ standing).1 held
      exact kept.begins standing kept.follows (fun _ => rfl) next.1 next.2 filled asked
  | @pulled number chunk source _ standing passed unended filled given =>
      obtain ⟨next, follows⟩ := kept.follows.brings unended filled given
      have bounds := sound.placed side _ standing
      have behind : number = state.tee.reached := by
        have short := List.getElem?_eq_none_iff.1 passed
        simp only [reached] at bounds ⊢
        omega
      subst behind
      refine kept.begins standing follows (fun other => by cases other <;> rfl) next ?_ filled asked
      simp only [reached, List.length_append, List.length_singleton]
      omega
  | ended last standing passed unended given =>
      obtain ⟨_, follows⟩ := kept.follows.ends unended given
      exact kept.comes_to_end side follows kept.settled fun other => by cases other <;> rfl
  | remembered standing passed known =>
      exact kept.comes_to_end side kept.follows kept.settled fun _ => rfl

theorem Step.kept {before after : Observed σ ρ ε} (step : Step pull before after)
    (kept : Kept pull chunks ending start before) : Kept pull chunks ending start after := by
  cases step with
  | read live asked => exact kept.read live asked
  | wait unended same =>
      have follows := kept.follows
      exact ⟨⟨⟨follows.sound.filled, follows.sound.placed⟩, follows.inside, follows.held,
        fun _ => (follows.supplied unended).wait same, follows.ended, follows.pulled.wait same⟩,
        kept.settled, kept.agrees⟩
  | drop side =>
      have gone : ∀ own, (none : Option Place) = some own →
          before.tee.base ≤ own.chunk ∧ own.chunk ≤ before.tee.reached := by
        intro own impossible
        cases impossible
      have placed := kept.follows.set side gone
      refine ⟨placed.trim, placed.sound.settled, ?_⟩
      intro other place standing
      exact kept.agrees other place (place_drop standing)

theorem Reaches.kept {state after : Observed σ ρ ε} (reached : Reaches pull state after)
    (kept : Kept pull chunks ending start state) : Kept pull chunks ending start after := by
  induction reached with
  | refl => exact kept
  | tail _ step induction => exact step.kept induction

theorem Kept.received (kept : Kept pull chunks ending start state) {side : Side}
    (live : state.tee.place side ≠ none) : state.received side <+: chunks.flatten := by
  obtain ⟨place, standing⟩ := Option.ne_none_iff_exists'.1 live
  have whole := (kept.agrees side place standing).whole
  exact (List.prefix_append _ _).trans (whole ▸ (List.take_prefix _ _).flatten)

/-- A read brings a side further until it has received everything, and then it finds the end. -/
theorem Kept.next (kept : Kept pull chunks ending start state) {side : Side} {count : Nat}
    (live : state.tee.place side ≠ none) (asked : 0 < count) :
    (state.received side = chunks.flatten ∧
        (state.tee.read pull count side state.around).1 = ending.answer) ∨
      ∃ piece, piece ≠ [] ∧ piece.length ≤ count ∧
        (state.tee.read pull count side state.around).1 = .ok piece ∧
        state.received side ++ piece <+: chunks.flatten := by
  obtain ⟨place, standing⟩ := Option.ne_none_iff_exists'.1 live
  have sound := kept.follows.sound
  have reading := Tee.reading pull sound standing count state.around
  have after := kept.read live asked
  rcases reading.outcome sound asked with
    ⟨piece, filled, fits, given, live⟩ | ⟨number, last, empty, behind, same, known, given⟩
  · refine .inr ⟨piece, filled, fits, given, ?_⟩
    have further := after.received live
    simp only [Observed.read, Function.update_self, given] at further
    exact further
  · obtain ⟨rfl, all⟩ := after.follows.ended last known
    refine .inl ⟨?_, given⟩
    have whole := (kept.agrees side _ empty).whole
    have total : chunks.length ≤ number := all ▸ same ▸ behind
    rwa [List.append_nil, List.take_of_length_le total] at whole

/-- Held are the pulled chunks of which some side that is left has received nothing. -/
theorem Kept.held_iff (kept : Kept pull chunks ending start state) {number : Nat}
    (pulled : number < state.tee.reached) :
    state.tee.base ≤ number ↔ ∃ side, state.tee.place side ≠ none ∧
      (state.received side).length ≤ (chunks.take number).flatten.length := by
  rw [kept.settled, slowest_le_iff pulled]
  constructor
  · rintro ⟨side, place, standing, ahead⟩
    exact ⟨side, standing ▸ Option.some_ne_none _,
      ((kept.agrees side place standing).chunk_le_iff number).1 ahead⟩
  · rintro ⟨side, live, unread⟩
    obtain ⟨place, standing⟩ := Option.ne_none_iff_exists'.1 live
    exact ⟨side, place, standing, ((kept.agrees side place standing).chunk_le_iff number).2 unread⟩

/-- Whatever is done with a split of a source that gives these chunks: what a side has received is
what comes first of them, and each further read brings it some more, until it has received all and
comes to the end of the source, again and again. The source is pulled once for each of its chunks
and once for its end. The chunks that are held are those of which some side has received nothing. -/
theorem halves_receive {source : σ} {around : ρ}
    (supplied : Supplies pull ending chunks source around)
    (reached : Reaches pull { tee := { source }, around } state) :
    (∀ side, state.tee.place side ≠ none →
      state.received side <+: chunks.flatten ∧
        ∀ count, 0 < count →
          (state.received side = chunks.flatten ∧
              (state.tee.read pull count side state.around).1 = ending.answer) ∨
            ∃ piece, piece ≠ [] ∧ piece.length ≤ count ∧
              (state.tee.read pull count side state.around).1 = .ok piece ∧
              state.received side ++ piece <+: chunks.flatten) ∧
      (state.tee.reached ≤ chunks.length ∧
        (∀ last, state.tee.ending = some last →
          last = ending ∧ state.tee.reached = chunks.length) ∧
        Pulled pull (source, around) state.tee.pulls (state.tee.source, state.around)) ∧
      state.tee.held = (chunks.take state.tee.reached).drop state.tee.base ∧
      ∀ number < state.tee.reached, state.tee.base ≤ number ↔
        ∃ side, state.tee.place side ≠ none ∧
          (state.received side).length ≤ (chunks.take number).flatten.length := by
  have kept := reached.kept (kept_fresh supplied)
  have follows := kept.follows
  refine ⟨?_, ⟨follows.inside, follows.ended, follows.pulled⟩, follows.held, ?_⟩
  · intro side live
    exact ⟨kept.received live, fun count asked => kept.next live asked⟩
  · intro number pulled
    exact kept.held_iff pulled

def broken : Source where
  parts := [[1, 2, 3], [4]]
  failure := some "cut off"
  pauses _ := 1

def pullReset (source : Source) (around : Unit) :
    Except (String × String) Bytes × Source × Unit :=
  let (result, source) := source.read chunkSize
  (result.mapError (Prod.mk "ConnectionReset"), source, around)

def fresh : Observed Source Unit (String × String) := { tee := { source := broken }, around := () }

def waiting : Observed Source Unit (String × String) :=
  let begun := fresh.read pullReset 2 .left
  { begun with tee := { begun.tee with source := (begun.tee.source.poll chunkSize).2 } }

def alone : Observed Source Unit (String × String) :=
  let ahead := (waiting.read pullReset 9 .right).read pullReset 9 .right
  { ahead with tee := ahead.tee.drop .left }

theorem halves_receive_broken :
    Supplies pullReset (.failed ("ConnectionReset", "cut off")) [[1, 2, 3], [4]] broken () ∧
      Reaches pullReset fresh (alone.read pullReset 1 .right) ∧
      (alone.read pullReset 1 .right).received .right = [1, 2, 3, 4] ∧
      ((alone.read pullReset 1 .right).tee.read pullReset 7 .right ()).1 =
        .error ("ConnectionReset", "cut off") := by
  have supplied :
      Supplies pullReset (.failed ("ConnectionReset", "cut off")) [[1, 2, 3], [4]] broken () :=
    ⟨List.cons_ne_nil _ _, rfl, List.cons_ne_nil _ _, rfl, rfl⟩
  have begun : Reaches pullReset fresh (fresh.read pullReset 2 .left) :=
    .single (.read _ (by decide) (by decide))
  have asked : Reaches pullReset fresh waiting := begun.tail (.wait _ rfl rfl)
  have first : Reaches pullReset fresh (waiting.read pullReset 9 .right) :=
    asked.tail (.read _ (by decide) (by decide))
  have second : Reaches pullReset fresh
      ((waiting.read pullReset 9 .right).read pullReset 9 .right) :=
    first.tail (.read _ (by decide) (by decide))
  have dropped : Reaches pullReset fresh alone := second.tail (.drop _ .left)
  have reached : Reaches pullReset fresh (alone.read pullReset 1 .right) :=
    dropped.tail (.read _ (by decide) (by decide))
  have all : (alone.read pullReset 1 .right).received .right = [1, 2, 3, 4] := rfl
  refine ⟨supplied, reached, all, ?_⟩
  have right := (halves_receive supplied reached).1 .right (by decide)
  rcases right.2 7 (by decide) with ⟨_, ended⟩ | ⟨piece, filled, _, _, more⟩
  · exact ended
  · have longer := more.length_le
    rw [all, List.length_append] at longer
    have bounded : 4 + piece.length ≤ 4 := longer
    have empty : piece.length = 0 := by omega
    exact absurd (List.length_eq_zero_iff.1 empty) filled

end Observed

end StreamHttp
