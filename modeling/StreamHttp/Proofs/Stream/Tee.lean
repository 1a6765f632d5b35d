import StreamHttp.Stream.Tee

/-!
What the two sides of a split have in store. A read by one side is answered from that side's store
and leaves the store of the other side as it was, whoever of the two had to pull from the source.
-/

namespace StreamHttp.Tee

variable {σ ρ ε : Type}

@[simp] theorem place_set_same (tee : Tee σ ε) (side : Side) (place : Option Place) :
    (tee.setPlace side place).place side = place := by
  cases side <;> rfl

theorem place_set_other (tee : Tee σ ε) {side other : Side} (place : Option Place)
    (different : other ≠ side) : (tee.setPlace side place).place other = tee.place other := by
  cases side <;> cases other <;> first | rfl | exact absurd rfl different

@[simp] theorem held_set (tee : Tee σ ε) (side : Side) (place : Option Place) :
    (tee.setPlace side place).held = tee.held := by
  cases side <;> rfl

@[simp] theorem base_set (tee : Tee σ ε) (side : Side) (place : Option Place) :
    (tee.setPlace side place).base = tee.base := by
  cases side <;> rfl

@[simp] theorem source_set (tee : Tee σ ε) (side : Side) (place : Option Place) :
    (tee.setPlace side place).source = tee.source := by
  cases side <;> rfl

@[simp] theorem store_from_set (tee : Tee σ) (side : Side) (place : Option Place)
    (rest : Delivery) (number : Nat) :
    (tee.setPlace side place).storeFrom rest number = tee.storeFrom rest number := by
  cases side <;> rfl

@[simp] theorem place_trim (tee : Tee σ ε) (side : Side) :
    tee.trim.place side = tee.place side := by
  cases side <;> rfl

@[simp] theorem source_trim (tee : Tee σ ε) : tee.trim.source = tee.source := rfl

theorem slowest_le (tee : Tee σ ε) {side : Side} {place : Place}
    (standing : tee.place side = some place) : tee.slowest ≤ place.chunk := by
  obtain ⟨source, held, base, left, right, ending⟩ := tee
  cases side with
  | left =>
      have own : left = some place := standing
      subst own
      cases right with
      | none => exact Nat.le_refl _
      | some other => exact Nat.min_le_left _ _
  | right =>
      have own : right = some place := standing
      subst own
      cases left with
      | none => exact Nat.le_refl _
      | some other => exact Nat.min_le_right _ _

/-- No held chunk is empty, and every side stands at a held chunk or right behind the last. -/
structure Sound (tee : Tee σ ε) : Prop where
  filled : [] ∉ tee.held
  placed : ∀ side place, tee.place side = some place →
    tee.base ≤ place.chunk ∧ place.chunk ≤ tee.base + tee.held.length

theorem sound_fresh (source : σ) : ({ source } : Tee σ ε).Sound := by
  refine ⟨by simp, ?_⟩
  intro side place standing
  have start : place = {} := by
    cases side <;> exact (Option.some.inj standing).symm
  subst start
  exact ⟨Nat.le_refl _, Nat.le_refl _⟩

theorem Sound.set {tee : Tee σ ε} (sound : tee.Sound) (side : Side) {place : Option Place}
    (bounded : ∀ own, place = some own →
      tee.base ≤ own.chunk ∧ own.chunk ≤ tee.base + tee.held.length) :
    (tee.setPlace side place).Sound := by
  refine ⟨by simpa using sound.filled, ?_⟩
  intro other own standing
  rw [base_set, held_set]
  by_cases same : other = side
  · subst same
    rw [place_set_same] at standing
    exact bounded own standing
  · rw [place_set_other tee place same] at standing
    exact sound.placed other own standing

theorem Sound.trim {tee : Tee σ ε} (sound : tee.Sound) : tee.trim.Sound := by
  constructor
  · intro member
    exact sound.filled (List.mem_of_mem_drop member)
  · intro side place standing
    rw [place_trim] at standing
    have bounds := sound.placed side place standing
    have late := slowest_le tee standing
    simp only [Tee.trim, List.length_drop]
    omega

/-- Only chunks that every side has passed are let go of. -/
theorem store_from_trim (tee : Tee σ) (rest : Delivery) {number : Nat}
    (late : tee.slowest ≤ number) : tee.trim.storeFrom rest number = tee.storeFrom rest number := by
  have kept : (tee.held.drop (min (tee.slowest - tee.base) tee.held.length)).drop
        (number - (tee.base + min (tee.slowest - tee.base) tee.held.length)) =
      tee.held.drop (number - tee.base) := by
    rw [List.drop_drop]
    congr 1
    omega
  simp only [storeFrom, Tee.trim, kept]

theorem delivery_trim (tee : Tee σ) (rest : Delivery) (side : Side) :
    tee.trim.delivery rest side = tee.delivery rest side := by
  simp only [delivery, place_trim]
  cases standing : tee.place side with
  | none => rfl
  | some place => simp only [store_from_trim tee rest (slowest_le tee standing)]

theorem delivery_set_other (tee : Tee σ) (rest : Delivery) {side other : Side}
    (place : Option Place) (different : other ≠ side) :
    (tee.setPlace side place).delivery rest other = tee.delivery rest other := by
  simp only [delivery, place_set_other tee place different, store_from_set]

theorem delivery_set_same (tee : Tee σ) (rest : Delivery) (side : Side) (place : Place) :
    (tee.setPlace side (some place)).delivery rest side =
      (tee.storeFrom rest place.chunk).behind place.current := by
  simp only [delivery, place_set_same, store_from_set]

theorem Sound.drop {tee : Tee σ ε} (sound : tee.Sound) (side : Side) : (tee.drop side).Sound :=
  (sound.set side (by intro own gone; cases gone)).trim

theorem delivery_drop_other (tee : Tee σ) (rest : Delivery) {side other : Side}
    (different : other ≠ side) : (tee.drop side).delivery rest other = tee.delivery rest other := by
  rw [Tee.drop, delivery_trim, delivery_set_other tee rest none different]

theorem delivery_drop_same (tee : Tee σ) (rest : Delivery) (side : Side) :
    (tee.drop side).delivery rest side = .finished := by
  rw [Tee.drop, delivery_trim]
  simp only [delivery, place_set_same]

/-- What fetching the chunk of a number does to the stores, when the source's store goes from `rest`
to `after` by it. -/
structure Fetched (tee : Tee σ) (rest : Delivery) (number : Nat) (result : Except String Bytes)
    (next : Tee σ) (after : Delivery) : Prop where
  sound : next.Sound
  base : next.base = tee.base
  places : ∀ side, next.place side = tee.place side
  stores : ∀ earlier, earlier ≤ tee.base + tee.held.length →
    next.storeFrom after earlier = tee.storeFrom rest earlier
  ended : result = .ok [] → tee.storeFrom rest number = .finished
  failed : ∀ message, result = .error message →
    tee.storeFrom rest number = { failure := some message }
  fetched : ∀ chunk, result = .ok chunk → chunk ≠ [] →
    number < next.base + next.held.length ∧
      tee.storeFrom rest number = (next.storeFrom after (number + 1)).behind chunk

theorem store_from_chunk (tee : Tee σ) (rest : Delivery) {number : Nat} {chunk : Bytes}
    (low : tee.base ≤ number) (held : tee.held[number - tee.base]? = some chunk) :
    tee.storeFrom rest number = (tee.storeFrom rest (number + 1)).behind chunk := by
  obtain ⟨inside, same⟩ := List.getElem?_eq_some_iff.1 held
  have next : number + 1 - tee.base = number - tee.base + 1 := by omega
  simp only [storeFrom, Delivery.behind, next, List.drop_eq_getElem_cons inside, same,
    List.flatten_cons, List.append_assoc]

section

variable {pull : σ → ρ → Except String Bytes × σ × ρ} {store : σ → ρ → Delivery} {tee : Tee σ}
  {number : Nat}

theorem fetched_held (sound : tee.Sound) (rest : Delivery) (low : tee.base ≤ number)
    {chunk : Bytes} (held : tee.held[number - tee.base]? = some chunk) :
    tee.Fetched rest number (.ok chunk) tee rest where
  sound := sound
  base := rfl
  places _ := rfl
  stores _ _ := rfl
  ended equal := by
    cases equal
    exact absurd (List.mem_of_getElem? held) sound.filled
  failed _ equal := nomatch equal
  fetched := by
    intro other equal _
    cases equal
    have inside : number - tee.base < tee.held.length := (List.getElem?_eq_some_iff.1 held).1
    exact ⟨by omega, store_from_chunk tee rest low held⟩

theorem store_from_behind (rest : Delivery) (passed : tee.held[number - tee.base]? = none) :
    tee.storeFrom rest number =
      match tee.ending with
      | none => rest
      | some .finished => .finished
      | some (.failed message) => { failure := some message } := by
  have empty : tee.held.drop (number - tee.base) = [] :=
    List.drop_eq_nil_of_le (List.getElem?_eq_none_iff.1 passed)
  unfold storeFrom
  rw [empty]
  exact Delivery.behind_nil _

theorem fetched_ended (sound : tee.Sound) {rest : Delivery} {result : Except String Bytes}
    {next : Tee σ} {after : Delivery}
    (held : next.held = tee.held) (base : next.base = tee.base)
    (places : ∀ side, next.place side = tee.place side)
    (stores : ∀ earlier, next.storeFrom after earlier = tee.storeFrom rest earlier)
    (ending : (result = .ok [] ∧ tee.storeFrom rest number = .finished) ∨
      ∃ message, result = .error message ∧
        tee.storeFrom rest number = { failure := some message }) :
    tee.Fetched rest number result next after where
  sound := by
    refine ⟨by rw [held]; exact sound.filled, ?_⟩
    intro side place standing
    rw [held, base]
    exact sound.placed side place (by rw [← places]; exact standing)
  base := base
  places := places
  stores earlier _ := stores earlier
  ended equal := by
    rcases ending with ⟨_, finished⟩ | ⟨message, failed, _⟩
    · exact finished
    · rw [failed] at equal
      cases equal
  failed other equal := by
    rcases ending with ⟨finished, _⟩ | ⟨message, failed, left⟩
    · rw [finished] at equal
      cases equal
    · rw [failed] at equal
      cases equal
      exact left
  fetched chunk equal filled := by
    rcases ending with ⟨finished, _⟩ | ⟨message, failed, _⟩
    · rw [finished] at equal
      cases equal
      exact absurd rfl filled
    · rw [failed] at equal
      cases equal

theorem fetched_pulled (sound : tee.Sound) (low : tee.base ≤ number)
    (high : number ≤ tee.base + tee.held.length) (passed : tee.held[number - tee.base]? = none)
    (ending : tee.ending = none) (source : σ) (after : Delivery) {chunk : Bytes}
    (filled : chunk ≠ []) :
    tee.Fetched (after.behind chunk) number (.ok chunk)
      { tee with source, held := tee.held ++ [chunk], ending := none } after := by
  have short : tee.held.length ≤ number - tee.base := List.getElem?_eq_none_iff.1 passed
  have grown : (tee.held ++ [chunk]).length = tee.held.length + 1 := by simp
  refine ⟨⟨?_, ?_⟩, rfl, fun side => by cases side <;> rfl, ?_, ?_, ?_, ?_⟩
  · simpa [Ne.symm filled] using sound.filled
  · intro side place standing
    have bounds := sound.placed side place (by cases side <;> exact standing)
    simp only [grown]
    omega
  · intro earlier early
    have kept : (tee.held ++ [chunk]).drop (earlier - tee.base) =
        tee.held.drop (earlier - tee.base) ++ [chunk] :=
      List.drop_append_of_le_length (by omega)
    simp [storeFrom, ending, kept, Delivery.behind]
  · intro equal
    exact absurd (Except.ok.inj equal) filled
  · intro message equal
    cases equal
  · intro other equal _
    cases equal
    have gone : (tee.held ++ [chunk]).drop (number + 1 - tee.base) = [] :=
      List.drop_eq_nil_of_le (by rw [grown]; omega)
    refine ⟨by simp only [grown]; omega, ?_⟩
    rw [store_from_behind _ passed, ending]
    simp only [storeFrom, gone, List.flatten_nil, Delivery.behind_nil]

theorem fetch_fetched (around : ρ) (sound : tee.Sound) (low : tee.base ≤ number)
    (high : number ≤ tee.base + tee.held.length)
    (given : (store tee.source around).Gives chunkSize (pull tee.source around).1
      (store (pull tee.source around).2.1 (pull tee.source around).2.2)) :
    tee.Fetched (store tee.source around) number (tee.fetch pull number around).1
      (tee.fetch pull number around).2.1
      (store (tee.fetch pull number around).2.1.source (tee.fetch pull number around).2.2) := by
  cases held : tee.held[number - tee.base]? with
  | some chunk =>
      simp only [fetch, held]
      exact fetched_held sound _ low held
  | none =>
      have whole := store_from_behind (store tee.source around) held
      cases ending : tee.ending with
      | some last =>
          rw [ending] at whole
          cases last with
          | finished =>
              simp only [fetch, held, ending]
              exact fetched_ended sound rfl rfl (fun _ => rfl) (fun _ => rfl) (.inl ⟨rfl, whole⟩)
          | failed message =>
              simp only [fetch, held, ending]
              exact fetched_ended sound rfl rfl (fun _ => rfl) (fun _ => rfl)
                (.inr ⟨message, rfl, whole⟩)
      | none =>
          rw [ending] at whole
          simp only at whole
          rcases answer : pull tee.source around with ⟨result, source, later⟩
          rw [answer] at given
          simp only at given
          generalize before : store tee.source around = rest at given whole ⊢
          generalize behind : store source later = after at given
          cases given with
          | @bytes first left failure nonempty fits =>
              cases first with
              | nil => exact absurd rfl nonempty
              | cons byte more =>
                  simp only [fetch, held, ending, answer, behind]
                  exact fetched_pulled sound low high held ending source ⟨left, failure⟩ nonempty
          | ending =>
              simp only [fetch, held, ending, answer, behind]
              exact fetched_ended sound rfl rfl (fun side => by cases side <;> rfl)
                (fun _ => by simp only [storeFrom, ending, Delivery.finished])
                (.inl ⟨rfl, whole⟩)
          | failing message =>
              simp only [fetch, held, ending, answer, behind]
              exact fetched_ended sound rfl rfl (fun side => by cases side <;> rfl)
                (fun _ => by simp only [storeFrom, ending]) (.inr ⟨message, rfl, whole⟩)
          | nothing _ unasked => exact absurd unasked (by decide)

variable (pull) in
/-- The source, and what is around it, changes at most by one pull. -/
theorem fetch_pulls (tee : Tee σ) (number : Nat) (around : ρ) :
    ((tee.fetch pull number around).2.1.source = tee.source ∧
        (tee.fetch pull number around).2.2 = around) ∨
      ((tee.fetch pull number around).2.1.source = (pull tee.source around).2.1 ∧
        (tee.fetch pull number around).2.2 = (pull tee.source around).2.2) := by
  unfold fetch
  split
  · exact .inl ⟨rfl, rfl⟩
  · split
    · exact .inl ⟨rfl, rfl⟩
    · exact .inl ⟨rfl, rfl⟩
    · split
      next answer => rw [answer]; exact .inr ⟨rfl, rfl⟩
      next answer => rw [answer]; exact .inr ⟨rfl, rfl⟩
      next answer => rw [answer]; exact .inr ⟨rfl, rfl⟩

variable (pull) in
theorem read_pulls (tee : Tee σ) (count : Nat) (side : Side) (around : ρ) :
    ((tee.read pull count side around).2.1.source = tee.source ∧
        (tee.read pull count side around).2.2 = around) ∨
      ((tee.read pull count side around).2.1.source = (pull tee.source around).2.1 ∧
        (tee.read pull count side around).2.2 = (pull tee.source around).2.2) := by
  unfold read
  split
  · exact .inl ⟨rfl, rfl⟩
  next number _ =>
    have pulls := tee.fetch_pulls pull number around
    split
    next answer => rw [answer] at pulls; exact pulls
    next answer => rw [answer] at pulls; simpa using pulls
    next answer => rw [answer] at pulls; exact pulls
  · exact .inl ⟨by simp, rfl⟩

structure ReadBy (tee : Tee σ) (rest : Delivery) (count : Nat) (side : Side)
    (result : Except String Bytes) (next : Tee σ) (after : Delivery) : Prop where
  sound : next.Sound
  given : (tee.delivery rest side).Gives count result (next.delivery after side)
  others : ∀ other, other ≠ side → next.delivery after other = tee.delivery rest other

theorem Fetched.delivery {rest after : Delivery} {result : Except String Bytes} {next : Tee σ}
    (fetched : tee.Fetched rest number result next after) (sound : tee.Sound) (side : Side) :
    next.delivery after side = tee.delivery rest side := by
  simp only [Tee.delivery, fetched.places]
  cases standing : tee.place side with
  | none => rfl
  | some place => simp only [fetched.stores _ (sound.placed side place standing).2]

variable (pull store) in
theorem read_by (around : ρ) (count : Nat) (side : Side) (sound : tee.Sound)
    (given : (store tee.source around).Gives chunkSize (pull tee.source around).1
      (store (pull tee.source around).2.1 (pull tee.source around).2.2)) :
    tee.ReadBy (store tee.source around) count side (tee.read pull count side around).1
      (tee.read pull count side around).2.1
      (store (tee.read pull count side around).2.1.source
        (tee.read pull count side around).2.2) := by
  cases standing : tee.place side with
  | none =>
      simp only [read, standing]
      refine ⟨sound, ?_, fun _ _ => rfl⟩
      simp only [delivery, standing]
      exact .ending
  | some place =>
      obtain ⟨number, current⟩ := place
      have bounds : tee.base ≤ number ∧ number ≤ tee.base + tee.held.length :=
        sound.placed side _ standing
      have own (rest : Delivery) :
          tee.delivery rest side = (tee.storeFrom rest number).behind current := by
        simp only [delivery, standing]
      cases current with
      | cons byte more =>
          simp only [read, standing, source_set]
          refine ⟨sound.set side (by intro own equal; cases equal; exact bounds), ?_, ?_⟩
          · rw [own, delivery_set_same]
            exact Delivery.gives_front count (List.cons_ne_nil _ _) _
          · intro other different
            exact delivery_set_other tee _ _ different
      | nil =>
          have fetched := fetch_fetched around sound bounds.1 bounds.2 given
          rcases answer : tee.fetch pull number around with ⟨result, next, later⟩
          rw [answer] at fetched
          simp only at fetched
          have same := fetched.delivery sound
          cases result with
          | error message =>
              simp only [read, standing, answer]
              refine ⟨fetched.sound, ?_, fun other _ => same other⟩
              rw [same side, own, Delivery.behind_nil, fetched.failed message rfl]
              exact .failing message
          | ok chunk =>
              cases chunk with
              | nil =>
                  simp only [read, standing, answer]
                  refine ⟨fetched.sound, ?_, fun other _ => same other⟩
                  rw [same side, own, Delivery.behind_nil, fetched.ended rfl]
                  exact .ending
              | cons byte more =>
                  have passed := fetched.fetched _ rfl (List.cons_ne_nil byte more)
                  simp only [read, standing, answer, source_trim, source_set]
                  refine ⟨(fetched.sound.set side ?_).trim, ?_, ?_⟩
                  · intro place equal
                    cases equal
                    rw [fetched.base] at passed ⊢
                    exact ⟨by simp only; omega, by simp only; omega⟩
                  · rw [own, Delivery.behind_nil, passed.2, delivery_trim, delivery_set_same]
                    exact Delivery.gives_front count (List.cons_ne_nil _ _) _
                  · intro other different
                    rw [delivery_trim, delivery_set_other next _ _ different]
                    exact same other

end

end StreamHttp.Tee
