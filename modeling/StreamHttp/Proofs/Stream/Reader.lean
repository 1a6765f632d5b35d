import StreamHttp.Proofs.Stream.Delivery
import StreamHttp.Proofs.Stream.Tee
import StreamHttp.Stream.Reader

/-!
Reads through shared streams. A read takes from what its own reader has in store, and leaves the
store of every other reader that is still usable as it was. No handle is the source of two splits,
so a split shares its source with nobody; this carries the induction over the splits.
-/

namespace StreamHttp

namespace Streams

def sources (splits : List (Tee Reader)) : List Handle :=
  splits.filterMap fun tee => tee.source.handle?

theorem spent_iff (streams : Streams) (handle : Handle) :
    streams.isSpent handle = true ↔ handle ∈ sources streams.splits := by
  simp [isSpent, sources]

theorem sources_cons (tee : Tee Reader) (older : List (Tee Reader)) :
    sources (tee :: older) = tee.source.handle?.toList ++ sources older := by
  cases source : tee.source.handle? <;> simp [sources, source]

end Streams

namespace Reader

open Streams

variable {count : Nat} {splits older : List (Tee Reader)} {limited : Limited Session}

def FreeOf (splits : List (Tee Reader)) (reader : Reader) : Prop :=
  ∀ handle, reader.handle? = some handle → handle ∉ sources splits

/-- What a change of the splits and of the window leaves as it was, for all readers but one. -/
structure Leaves (touched : Option Handle) (splits : List (Tee Reader)) (limited : Limited Session)
    (next : List (Tee Reader)) (after : Limited Session) : Prop where
  sources : sources next = sources splits
  length : next.length = splits.length
  sound : ∀ tee ∈ next, tee.Sound
  kept : ∀ handle, handle ∉ Streams.sources splits → touched ≠ some handle →
    storeOf next (.shared handle) after = storeOf splits (.shared handle) limited

theorem Leaves.refl (touched : Option Handle) (sound : ∀ tee ∈ splits, tee.Sound) :
    Leaves touched splits limited splits limited :=
  ⟨rfl, rfl, sound, fun _ _ _ => rfl⟩

/-- The source of the newest split is a reader like any other for the older ones. -/
theorem Leaves.newest {touched : Option Handle} {tee : Tee Reader} {next : List (Tee Reader)}
    {after : Limited Session} (leaves : Leaves touched older limited next after)
    (free : FreeOf older tee.source) (untouched : ∀ handle, tee.source.handle? = some handle →
      touched ≠ some handle) :
    storeOf next tee.source after = storeOf older tee.source limited := by
  cases source : tee.source with
  | own source => simp only [storeOf]
  | shared handle =>
      have named : tee.source.handle? = some handle := by rw [source]; rfl
      exact leaves.kept handle (free handle named) (untouched handle named)

/-- Older splits may change below a split that is not read. -/
theorem Leaves.below {touched : Option Handle} {tee : Tee Reader} {next : List (Tee Reader)}
    {after : Limited Session} (leaves : Leaves touched older limited next after)
    (sound : tee.Sound) (free : FreeOf older tee.source)
    (untouched : ∀ handle, tee.source.handle? = some handle → touched ≠ some handle) :
    Leaves touched (tee :: older) limited (tee :: next) after where
  sources := by rw [sources_cons, sources_cons, leaves.sources]
  length := by simp [leaves.length]
  sound := by
    intro other member
    rcases List.mem_cons.1 member with rfl | member
    · exact sound
    · exact leaves.sound other member
  kept := by
    intro handle unspent different
    have unspentBelow : handle ∉ Streams.sources older := by
      intro member
      exact unspent (by rw [sources_cons]; exact List.mem_append_right _ member)
    have below := leaves.kept handle unspentBelow different
    cases handle with
    | window =>
        cases next <;> cases older <;> simpa only [storeOf] using below
    | half number side =>
        simp only [storeOf, leaves.length]
        split
        · rw [leaves.newest free untouched]
        · exact below

theorem leaves_window (sound : ∀ tee ∈ splits, tee.Sound) (distinct : (sources splits).Nodup)
    (free : Handle.window ∉ sources splits) (limited after : Limited Session) :
    Leaves (some .window) splits limited splits after := by
  induction splits with
  | nil =>
      refine ⟨rfl, rfl, sound, ?_⟩
      intro handle _ different
      cases handle with
      | window => exact absurd rfl different
      | half number side => simp only [storeOf]
  | cons tee older induction =>
      rw [sources_cons] at distinct free
      have below := induction (fun other member => sound other (List.mem_cons_of_mem _ member))
        (List.nodup_append.1 distinct).2.1 (fun member => free (List.mem_append_right _ member))
      apply below.below (sound tee List.mem_cons_self)
      · intro handle named member
        exact (List.nodup_append.1 distinct).2.2 handle (by simp [named]) handle member rfl
      · intro handle named equal
        cases equal
        exact free (List.mem_append_left _ (by simp [named]))

structure ReadShared (count : Nat) (splits : List (Tee Reader)) (reader : Reader)
    (limited : Limited Session) (result : Except String Bytes) (next : Reader)
    (left : List (Tee Reader)) (after : Limited Session) : Prop where
  given : (storeOf splits reader limited).Gives count result (storeOf left next after)
  handle : next.handle? = reader.handle?
  leaves : Leaves reader.handle? splits limited left after

/-- A half of the newest split is read through the split's source, which is a reader of the older
ones. -/
theorem read_newest {tee : Tee Reader} {side : Side} (sound : tee.Sound)
    (soundOlder : ∀ other ∈ older, other.Sound)
    (pulled : ReadShared Tee.chunkSize older tee.source limited
      (readShared Tee.chunkSize older tee.source limited).1
      (readShared Tee.chunkSize older tee.source limited).2.1
      (readShared Tee.chunkSize older tee.source limited).2.2.1
      (readShared Tee.chunkSize older tee.source limited).2.2.2) :
    let pull (source : Reader) (around : List (Tee Reader) × Limited Session) :=
      let (result, source, older, limited) := readShared Tee.chunkSize older source around.2
      (result, source, (older, limited))
    let answer := tee.read pull count side (older, limited)
    ReadShared count (tee :: older) (.shared (.half older.length side)) limited answer.1
      (.shared (.half older.length side)) (answer.2.1 :: answer.2.2.1) answer.2.2.2 := by
  intro pull answer
  have read := Tee.read_by pull (fun source around => storeOf around.1 source around.2)
    (older, limited) count side sound pulled.given
  have pulls := tee.read_pulls pull count side (older, limited)
  change tee.ReadBy _ count side answer.1 answer.2.1
    (storeOf answer.2.2.1 answer.2.1.source answer.2.2.2) at read
  have around : answer.2.1.source.handle? = tee.source.handle? ∧
      Leaves tee.source.handle? older limited answer.2.2.1 answer.2.2.2 := by
    rcases pulls with ⟨source, around⟩ | ⟨source, around⟩
    · exact ⟨congrArg handle? source, by rw [around]; exact Leaves.refl _ soundOlder⟩
    · exact ⟨(congrArg handle? source).trans pulled.handle, by rw [around]; exact pulled.leaves⟩
  obtain ⟨result, next, left, after⟩ := answer
  obtain ⟨named, leaves⟩ := around
  refine ⟨?_, rfl, ⟨?_, ?_, ?_, ?_⟩⟩
  · simpa only [storeOf, leaves.length, beq_self_eq_true, if_true] using read.given
  · rw [sources_cons, sources_cons, leaves.sources, named]
  · simp only [List.length_cons, leaves.length]
  · intro other member
    rcases List.mem_cons.1 member with rfl | member
    · exact read.sound
    · exact leaves.sound other member
  · intro handle unspent different
    rw [sources_cons] at unspent
    have below : storeOf left (.shared handle) after = storeOf older (.shared handle) limited := by
      apply leaves.kept handle (fun member => unspent (List.mem_append_right _ member))
      intro equal
      exact unspent (List.mem_append_left _ (by simp [equal]))
    cases handle with
    | window => simpa only [storeOf] using below
    | half number other =>
        by_cases own : number = older.length
        · subst own
          have otherSide : other ≠ side := by
            intro equal
            exact different (by rw [equal]; rfl)
          simpa only [storeOf, leaves.length, beq_self_eq_true, if_true]
            using read.others other otherSide
        · have older_ : (number == older.length) = false := by simpa using own
          simpa only [storeOf, leaves.length, older_, Bool.false_eq_true, if_false] using below

theorem read_shared (sound : ∀ tee ∈ splits, tee.Sound) (distinct : (sources splits).Nodup)
    (reader : Reader) (free : FreeOf splits reader) (count : Nat) (limited : Limited Session) :
    ReadShared count splits reader limited (readShared count splits reader limited).1
      (readShared count splits reader limited).2.1
      (readShared count splits reader limited).2.2.1
      (readShared count splits reader limited).2.2.2 := by
  induction splits generalizing reader count limited with
  | nil =>
      rcases reader with source | handle
      · simp only [readShared]
        exact ⟨by simpa only [storeOf] using source.gives_read count, rfl, Leaves.refl _ sound⟩
      · cases handle with
        | window =>
            simp only [readShared]
            exact ⟨by simpa only [storeOf] using limited.gives_read count, rfl,
              leaves_window sound distinct (by simp [sources]) _ _⟩
        | half number side =>
            simp only [readShared]
            exact ⟨by simpa only [storeOf] using .ending, rfl, Leaves.refl _ sound⟩
  | cons tee older induction =>
      rcases reader with source | handle
      · simp only [readShared]
        exact ⟨by simpa only [storeOf] using source.gives_read count, rfl, Leaves.refl _ sound⟩
      · cases handle with
        | window =>
            simp only [readShared]
            exact ⟨by simpa only [storeOf] using limited.gives_read count, rfl,
              leaves_window sound distinct (free _ rfl) _ _⟩
        | half number side =>
            have unspent : Handle.half number side ∉ sources (tee :: older) := free _ rfl
            rw [sources_cons] at distinct unspent
            have soundOlder : ∀ other ∈ older, other.Sound :=
              fun other member => sound other (List.mem_cons_of_mem _ member)
            have freeSource : FreeOf older tee.source := by
              intro handle named member
              exact (List.nodup_append.1 distinct).2.2 handle (by simp [named]) handle member rfl
            have below := induction soundOlder (List.nodup_append.1 distinct).2.1
            by_cases own : number = older.length
            · subst own
              simp only [readShared, beq_self_eq_true, if_true]
              exact read_newest (sound tee List.mem_cons_self) soundOlder
                (below tee.source freeSource Tee.chunkSize limited)
            · have other : (number == older.length) = false := by simpa using own
              have freeBelow : FreeOf older (.shared (.half number side)) := by
                intro handle named member
                cases named
                exact unspent (List.mem_append_right _ member)
              have read := below (.shared (.half number side)) freeBelow count limited
              simp only [readShared, other, Bool.false_eq_true, if_false]
              have named := read.handle
              generalize readShared count older (.shared (.half number side)) limited = answer
                at read named
              obtain ⟨result, next, left, after⟩ := answer
              rcases next with source | handle
              · cases named
              · cases named
                have given := read.given
                refine ⟨?_, rfl, read.leaves.below (sound tee List.mem_cons_self) freeSource ?_⟩
                · simpa only [storeOf, read.leaves.length, other, Bool.false_eq_true, if_false]
                    using given
                · intro handle named equal
                  cases equal
                  exact unspent (List.mem_append_left _ (by simp [named]))

/-- What changes the window only through reads of it keeps what every such read keeps. -/
theorem window_read_shared {kept : Limited Session → Prop}
    (closed : ∀ count limited, kept limited → kept (limited.read Session.read count).2)
    (count : Nat) (splits : List (Tee Reader)) (reader : Reader) (limited : Limited Session)
    (start : kept limited) : kept (readShared count splits reader limited).2.2.2 := by
  induction splits generalizing reader count limited with
  | nil =>
      rcases reader with source | ⟨_ | ⟨number, side⟩⟩
      · simpa only [readShared] using start
      · simpa only [readShared] using closed count limited start
      · simpa only [readShared] using start
  | cons tee older induction =>
      rcases reader with source | ⟨_ | ⟨number, side⟩⟩
      · simpa only [readShared] using start
      · simpa only [readShared] using closed count limited start
      · by_cases own : number = older.length
        · simp only [readShared, own, beq_self_eq_true, if_true]
          have pulls := tee.read_pulls
            (fun (source : Reader) (around : List (Tee Reader) × Limited Session) =>
              let answer := readShared Tee.chunkSize older source around.2
              (answer.1, answer.2.1, (answer.2.2.1, answer.2.2.2)))
            count side (older, limited)
          rcases pulls with ⟨_, around⟩ | ⟨_, around⟩
          · exact (congrArg (fun state => kept state.2) around).mpr start
          · exact (congrArg (fun state => kept state.2) around).mpr
              (induction _ tee.source limited start)
        · have other : (number == older.length) = false := by simpa using own
          simp only [readShared, other, Bool.false_eq_true, if_false]
          exact induction count (.shared (.half number side)) limited start

end Reader

namespace Streams

variable {streams after : Streams}

/-- No handle is the source of two splits, and every split is sound. -/
structure Sound (streams : Streams) : Prop where
  distinct : (sources streams.splits).Nodup
  tees : ∀ tee ∈ streams.splits, tee.Sound

theorem sound_session (session : Session) (size : Nat) : (ofSession session size).Sound :=
  ⟨List.nodup_nil, fun _ member => absurd member List.not_mem_nil⟩

theorem delivery_own (streams : Streams) (source : Source) :
    streams.delivery (.own source) = source.delivery := by
  simp only [delivery, usable, Reader.storeOf]

theorem delivery_spent {handle : Handle} (spent : streams.isSpent handle = true) :
    streams.delivery (.shared handle) = .finished := by
  simp only [delivery, usable, spent, if_true, Reader.storeOf]
  rfl

theorem delivery_free {handle : Handle} (free : streams.isSpent handle = false) :
    streams.delivery (.shared handle) =
      Reader.storeOf streams.splits (.shared handle) streams.window := by
  simp only [delivery, usable, free, Bool.false_eq_true, if_false]

/-- What the use of one handle leaves to all others. -/
structure Keeps (touched : Option Handle) (streams after : Streams) : Prop where
  sound : after.Sound
  sources : sources after.splits = sources streams.splits
  length : after.splits.length = streams.splits.length
  kept : ∀ handle, touched ≠ some handle →
    after.delivery (.shared handle) = streams.delivery (.shared handle)

theorem Keeps.refl (touched : Option Handle) (sound : streams.Sound) :
    Keeps touched streams streams :=
  ⟨sound, rfl, rfl, fun _ _ => rfl⟩

theorem Keeps.trans {touched : Option Handle} {between : Streams}
    (first : Keeps touched streams between) (second : Keeps touched between after) :
    Keeps touched streams after where
  sound := second.sound
  sources := second.sources.trans first.sources
  length := second.length.trans first.length
  kept handle different := (second.kept handle different).trans (first.kept handle different)

theorem Keeps.spent {touched : Option Handle} (keeps : Keeps touched streams after)
    (handle : Handle) : after.isSpent handle = streams.isSpent handle := by
  rw [Bool.eq_iff_iff, spent_iff, spent_iff, keeps.sources]

theorem keeps_of_leaves {touched : Option Handle} {left : List (Tee Reader)}
    {window : Limited Session} (fault : Option Fault) (sound : streams.Sound)
    (leaves : Reader.Leaves touched streams.splits streams.window left window) :
    Keeps touched streams { window, splits := left, fault } where
  sound := ⟨by rw [leaves.sources]; exact sound.distinct, leaves.sound⟩
  sources := leaves.sources
  length := leaves.length
  kept := by
    intro handle different
    have same : isSpent { window, splits := left, fault } handle = streams.isSpent handle := by
      rw [Bool.eq_iff_iff, spent_iff, spent_iff, leaves.sources]
    cases spent : streams.isSpent handle with
    | true => rw [delivery_spent (same.trans spent), delivery_spent spent]
    | false =>
        rw [delivery_free (same.trans spent), delivery_free spent]
        refine leaves.kept handle ?_ different
        rw [← spent_iff, spent]
        exact Bool.false_ne_true

end Streams

namespace Reader

open Streams

variable {streams : Streams}

/-- One read is answered from what its reader has in store, and leaves all other readers as they
were. -/
theorem gives_read (sound : streams.Sound) (reader : Reader) (count : Nat) :
    (streams.delivery reader).Gives count (reader.read count streams).1
        ((reader.read count streams).2.2.delivery (reader.read count streams).2.1) ∧
      (reader.read count streams).2.1.handle? = reader.handle? ∧
      Keeps reader.handle? streams (reader.read count streams).2.2 := by
  rcases reader with source | handle
  · simp only [read, delivery_own]
    exact ⟨source.gives_read count, rfl, Keeps.refl _ sound⟩
  · cases spent : streams.isSpent handle with
    | true =>
        simp only [read, spent, if_true, delivery_spent spent]
        exact ⟨.ending, trivial, Keeps.refl _ sound⟩
    | false =>
        have free : FreeOf streams.splits (.shared handle) := by
          intro other named
          cases named
          rw [← spent_iff, spent]
          exact Bool.false_ne_true
        have shared := read_shared sound.tees sound.distinct (.shared handle) free count
          streams.window
        simp only [read, spent, Bool.false_eq_true, if_false]
        generalize readShared count streams.splits (.shared handle) streams.window = answer
          at shared
        obtain ⟨result, next, left, window⟩ := answer
        have keeps := keeps_of_leaves streams.fault sound shared.leaves
        rcases next with source | other
        · cases shared.handle
        · have named := shared.handle
          cases named
          refine ⟨?_, rfl, keeps⟩
          rw [delivery_free spent, delivery_free ((keeps.spent handle).trans spent)]
          exact shared.given

theorem window_read {kept : Limited Session → Prop}
    (closed : ∀ count limited, kept limited → kept (limited.read Session.read count).2)
    (reader : Reader) (count : Nat) (start : kept streams.window) :
    kept (reader.read count streams).2.2.window := by
  rcases reader with source | handle
  · exact start
  · simp only [read]
    split
    · exact start
    · exact window_read_shared closed count streams.splits (.shared handle) streams.window start

theorem fault_read (reader : Reader) (count : Nat) (streams : Streams) :
    (reader.read count streams).2.2.fault = streams.fault := by
  rcases reader with source | handle
  · rfl
  · simp only [read]
    split <;> rfl

theorem fault_read_up_to (reader : Reader) (allowance : Nat) (streams : Streams) :
    (reader.readUpTo allowance streams).2.2.fault = streams.fault :=
  gather_keeps (fun state : Reader × Streams => state.2.fault = streams.fault)
    (fun count state same => (fault_read state.1 count state.2).trans same) _ allowance
    (reader, streams) rfl

/-- Reading up to a count gives what the store gives up to it. -/
theorem read_up_to (sound : streams.Sound) (reader : Reader) (allowance : Nat) :
    (reader.readUpTo allowance streams).1 = ((streams.delivery reader).upTo allowance).1 ∧
      (reader.readUpTo allowance streams).2.2.delivery (reader.readUpTo allowance streams).2.1 =
        ((streams.delivery reader).upTo allowance).2 ∧
      (reader.readUpTo allowance streams).2.1.handle? = reader.handle? ∧
      Keeps reader.handle? streams (reader.readUpTo allowance streams).2.2 := by
  have lawful : ∀ count (state : Reader × Streams),
      (state.1.handle? = reader.handle? ∧ Keeps reader.handle? streams state.2) →
        (state.2.delivery state.1).Gives count (state.1.read count state.2).1
            ((state.1.read count state.2).2.2.delivery (state.1.read count state.2).2.1) ∧
          ((state.1.read count state.2).2.1.handle? = reader.handle? ∧
            Keeps reader.handle? streams (state.1.read count state.2).2.2) := by
    rintro count ⟨other, between⟩ ⟨named, keeps⟩
    simp only at named keeps
    have given := gives_read keeps.sound other count
    rw [named] at given
    exact ⟨given.1, given.2.1, keeps.trans given.2.2⟩
  have gathered := gather_up_to (fun state : Reader × Streams => state.2.delivery state.1)
    (fun state => state.1.handle? = reader.handle? ∧ Keeps reader.handle? streams state.2) lawful
    ((streams.delivery reader).bytes.length + 1) allowance (reader, streams)
    ⟨rfl, Keeps.refl _ sound⟩ (Nat.lt_succ_self _)
  exact ⟨gathered.1, gathered.2.1, gathered.2.2.1, gathered.2.2.2⟩

theorem window_read_up_to {kept : Limited Session → Prop}
    (closed : ∀ count limited, kept limited → kept (limited.read Session.read count).2)
    (reader : Reader) (allowance : Nat) (start : kept streams.window) :
    kept (reader.readUpTo allowance streams).2.2.window :=
  gather_keeps (fun state : Reader × Streams => kept state.2.window)
    (fun count state => window_read closed state.1 count) _ _ _ start

theorem read_up_to_own (source : Source) (allowance : Nat) (streams : Streams) :
    (Reader.own source).readUpTo allowance streams =
      ((gather (fun count (source : Source) => source.read count) (source.content.length + 1)
          allowance source).1,
        .own (gather (fun count (source : Source) => source.read count)
          (source.content.length + 1) allowance source).2, streams) := by
  have store : (streams.delivery (.own source)).bytes.length = source.content.length := by
    rw [delivery_own]
    rfl
  simp only [readUpTo, store]
  exact gather_embed (fun source => (Reader.own source, streams)) (fun _ _ => rfl) _ _ _

end Reader

namespace Streams

variable {streams : Streams}

theorem delivery_usable (streams : Streams) (reader : Reader) :
    Reader.storeOf streams.splits (streams.usable reader) streams.window =
      streams.delivery reader := rfl

theorem usable_free (streams : Streams) (reader : Reader) :
    Reader.FreeOf streams.splits (streams.usable reader) := by
  intro handle named
  rcases reader with source | other
  · cases named
  · simp only [usable] at named
    split at named
    · cases named
    next free =>
      cases named
      rw [← spent_iff]
      exact free

theorem sound_split (sound : streams.Sound) (reader : Reader) :
    (streams.split reader).2.2.Sound where
  distinct := by
    simp only [split, sources_cons]
    refine List.nodup_append.2 ⟨?_, sound.distinct, ?_⟩
    · cases (streams.usable reader).handle? <;> simp
    · intro handle member other shared same
      subst same
      exact usable_free streams reader handle (by simpa using member) shared
  tees := by
    intro tee member
    rcases List.mem_cons.1 member with rfl | member
    · exact Tee.sound_fresh _
    · exact sound.tees tee member

theorem spent_split (streams : Streams) (reader : Reader) (handle : Handle) :
    (streams.split reader).2.2.isSpent handle =
      ((streams.usable reader).handle? == some handle || streams.isSpent handle) := by
  simp only [split, isSpent, List.any_cons]

/-- Both halves of a fresh split have all in store that the reader had. -/
theorem delivery_split {reader : Reader} {handle : Handle}
    (free : (streams.split reader).2.2.isSpent handle = false) :
    (streams.split reader).2.2.delivery (.shared handle) =
      match handle with
      | .window => streams.delivery (.shared .window)
      | .half number side =>
          if number = streams.splits.length then streams.delivery reader
          else streams.delivery (.shared (.half number side)) := by
  have before : streams.isSpent handle = false := by
    rw [spent_split, Bool.or_eq_false_iff] at free
    exact free.2
  rw [delivery_free free]
  cases handle with
  | window =>
      simp only [delivery_free before, split, Reader.storeOf]
  | half number side =>
      by_cases fresh : number = streams.splits.length
      · subst fresh
        simp only [split, Reader.storeOf, beq_self_eq_true, if_true, ← delivery_usable]
        cases side <;> simp [Tee.delivery, Tee.place, Tee.storeFrom]
      · have old : (number == streams.splits.length) = false := by simpa using fresh
        simp only [split, Reader.storeOf, old, Bool.false_eq_true, if_false, if_neg fresh,
          delivery_free before]

/-- A half that is dropped has nothing in store any more, and all others keep what they have. -/
theorem leaves_drop_half {splits : List (Tee Reader)} {number : Nat} {side : Side}
    (sound : ∀ tee ∈ splits, tee.Sound) (distinct : (sources splits).Nodup)
    (free : Handle.half number side ∉ sources splits) (limited : Limited Session) :
    Reader.Leaves (some (.half number side)) splits limited (dropHalf number side splits) limited ∧
      Reader.storeOf (dropHalf number side splits) (.shared (.half number side)) limited =
        .finished := by
  induction splits with
  | nil => exact ⟨Reader.Leaves.refl _ sound, by simp only [dropHalf, Reader.storeOf]⟩
  | cons tee older induction =>
      have soundOlder : ∀ other ∈ older, other.Sound :=
        fun other member => sound other (List.mem_cons_of_mem _ member)
      rw [sources_cons] at distinct free
      by_cases own : number = older.length
      · subst own
        simp only [dropHalf, beq_self_eq_true, if_true]
        refine ⟨⟨?_, rfl, ?_, ?_⟩, ?_⟩
        · simp only [sources_cons, Tee.drop, Tee.source_trim, Tee.source_set]
        · intro other member
          rcases List.mem_cons.1 member with rfl | member
          · exact (sound tee List.mem_cons_self).drop side
          · exact soundOlder other member
        · intro handle _ different
          cases handle with
          | window => simp only [Reader.storeOf]
          | half number other =>
              by_cases same : number = older.length
              · subst same
                have otherSide : other ≠ side := by
                  intro equal
                  exact different (by rw [equal])
                simp only [Reader.storeOf, beq_self_eq_true, if_true, Tee.drop,
                  Tee.source_trim, Tee.source_set]
                exact tee.delivery_drop_other _ otherSide
              · have older_ : (number == older.length) = false := by simpa using same
                simp only [Reader.storeOf, older_, Bool.false_eq_true, if_false]
        · simp only [Reader.storeOf, beq_self_eq_true, if_true, Tee.drop, Tee.source_trim,
            Tee.source_set]
          exact tee.delivery_drop_same _ side
      · have other : (number == older.length) = false := by simpa using own
        simp only [dropHalf, other, Bool.false_eq_true, if_false]
        have below := induction soundOlder (List.nodup_append.1 distinct).2.1
          (fun member => free (List.mem_append_right _ member))
        refine ⟨below.1.below (sound tee List.mem_cons_self) ?_ ?_, ?_⟩
        · intro handle named member
          exact (List.nodup_append.1 distinct).2.2 handle (by simp [named]) handle member rfl
        · intro handle named equal
          cases equal
          exact free (List.mem_append_left _ (by simp [named]))
        · simpa only [Reader.storeOf, below.1.length, other, Bool.false_eq_true, if_false]
            using below.2

theorem keeps_drop (sound : streams.Sound) (reader : Reader) :
    Keeps reader.handle? streams (streams.drop reader) := by
  cases usable : streams.usable reader with
  | own source =>
      simp only [drop, usable]
      exact Keeps.refl _ sound
  | shared handle =>
      cases handle with
      | window =>
          simp only [drop, usable]
          exact Keeps.refl _ sound
      | half number side =>
          have free := usable_free streams reader
          rw [usable] at free
          have same : reader = .shared (.half number side) := by
            rcases reader with source | other
            · cases usable
            · simp only [Streams.usable] at usable
              split at usable
              · cases usable
              · exact usable
          subst same
          simp only [drop, usable]
          exact keeps_of_leaves _ sound
            (leaves_drop_half sound.tees sound.distinct (free _ rfl) streams.window).1

theorem delivery_drop (sound : streams.Sound) {number : Nat} {side : Side}
    (free : streams.isSpent (.half number side) = false) :
    (streams.drop (.shared (.half number side))).delivery (.shared (.half number side)) =
      .finished := by
  have unspent : Handle.half number side ∉ sources streams.splits := by
    rw [← spent_iff, free]
    exact Bool.false_ne_true
  have keeps := keeps_drop sound (.shared (.half number side))
  rw [delivery_free ((keeps.spent _).trans free)]
  simp only [drop, usable, free, Bool.false_eq_true, if_false]
  exact (leaves_drop_half sound.tees sound.distinct unspent streams.window).2

theorem keeps_fail (touched : Option Handle) (sound : streams.Sound) (fault : Fault) :
    Keeps touched streams (streams.fail fault) :=
  ⟨⟨sound.distinct, sound.tees⟩, rfl, rfl, fun _ _ => rfl⟩

theorem fault_drop (streams : Streams) (reader : Reader) :
    (streams.drop reader).fault = streams.fault := by
  unfold drop
  split <;> rfl

theorem window_drop (streams : Streams) (reader : Reader) :
    (streams.drop reader).window = streams.window := by
  unfold drop
  split <;> rfl

end Streams

end StreamHttp
