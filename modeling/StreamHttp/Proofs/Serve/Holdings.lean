import Mathlib.Logic.Relation
import StreamHttp.Proofs.Serve.Dispatch

/-!
The bodies and readers that come of one body. A body may be buffered, moved, split, claimed as a
stream, released or dropped; a reader may be read or dropped. Each of them is held once, and this is
what the invariant rests on: no handle is held twice or is read by a split besides. So whatever is
done, a body that is not claimed has all that the first one had in store, and a buffered one holds
all of it.
-/

namespace StreamHttp

def Body.handle? (body : Body) : Option Handle :=
  match body.claim with
  | .unclaimed reader => reader.handle?
  | _ => none

/-- All that is held of a body, and the streams behind it. -/
structure Holdings where
  streams : Streams
  bodies : List Body
  readers : List Reader := []

namespace Holdings

def halves : Except BodyError (Body × Body) → List Body
  | .ok (left, right) => [left, right]
  | .error _ => []

/-- What a holder may do. -/
inductive Step : Holdings → Holdings → Prop where
  | order (streams : Streams) {bodies others : List Body} {readers more : List Reader}
      (sameBodies : bodies.Perm others) (sameReaders : readers.Perm more) :
      Step ⟨streams, bodies, readers⟩ ⟨streams, others, more⟩
  | buffer (streams : Streams) (body : Body) (bodies : List Body) (readers : List Reader)
      (limit : Nat) :
      Step ⟨streams, body :: bodies, readers⟩
        ⟨(body.buffer limit streams).2.2, [(body.buffer limit streams).2.1] ++ bodies, readers⟩
  | take (streams : Streams) (body : Body) (bodies : List Body) (readers : List Reader) :
      Step ⟨streams, body :: bodies, readers⟩
        ⟨streams, body.take.1.toOption.toList ++ [body.take.2] ++ bodies, readers⟩
  | split (streams : Streams) (body : Body) (bodies : List Body) (readers : List Reader) :
      Step ⟨streams, body :: bodies, readers⟩
        ⟨(body.split streams).2.2,
          halves (body.split streams).1 ++ [(body.split streams).2.1] ++ bodies, readers⟩
  | claim (streams : Streams) (body : Body) (bodies : List Body) (readers : List Reader) :
      Step ⟨streams, body :: bodies, readers⟩
        ⟨streams, [body.claimStream.2] ++ bodies, body.claimStream.1.toOption.toList ++ readers⟩
  | release (streams : Streams) (body : Body) (bodies : List Body) (readers : List Reader) :
      Step ⟨streams, body :: bodies, readers⟩
        ⟨(body.release streams).2.2, [(body.release streams).2.1] ++ bodies, readers⟩
  | dropBody (streams : Streams) (body : Body) (bodies : List Body) (readers : List Reader) :
      Step ⟨streams, body :: bodies, readers⟩
        ⟨match body.claim with
          | .unclaimed reader => streams.drop reader
          | _ => streams, bodies, readers⟩
  | read (streams : Streams) (bodies : List Body) (reader : Reader) (readers : List Reader)
      (allowance : Nat) :
      Step ⟨streams, bodies, reader :: readers⟩
        ⟨(reader.readUpTo allowance streams).2.2, bodies,
          [(reader.readUpTo allowance streams).2.1] ++ readers⟩
  | receive (streams : Streams) (bodies : List Body) (reader : Reader) (readers : List Reader)
      (count : Nat) :
      Step ⟨streams, bodies, reader :: readers⟩
        ⟨(reader.read count streams).2.2, bodies, [(reader.read count streams).2.1] ++ readers⟩
  | drop (streams : Streams) (bodies : List Body) (reader : Reader) (readers : List Reader) :
      Step ⟨streams, bodies, reader :: readers⟩ ⟨streams.drop reader, bodies, readers⟩

abbrev Reaches : Holdings → Holdings → Prop := Relation.ReflTransGen Step

def handlesOf (bodies : List Body) (readers : List Reader) : List Handle :=
  bodies.filterMap Body.handle? ++ readers.filterMap Reader.handle?

end Holdings

namespace Streams

/-- A handle that was given out and that no split reads from. -/
structure Issued (streams : Streams) (handle : Handle) : Prop where
  free : streams.isSpent handle = false
  numbered : ∀ number side, handle = .half number side → number < streams.splits.length

def Numbered (streams : Streams) : Prop :=
  ∀ number side, .half number side ∈ sources streams.splits → number < streams.splits.length

theorem Keeps.issued {touched : Option Handle} {streams after : Streams}
    (keeps : Keeps touched streams after) {handle : Handle} (issued : streams.Issued handle) :
    after.Issued handle where
  free := (keeps.spent handle).trans issued.free
  numbered number side same := by
    rw [keeps.length]
    exact issued.numbered number side same

end Streams

namespace Body

variable {full : Delivery} {streams after : Streams} {body : Body}

/-- A body that nobody claimed has all in store, and a buffered one holds all of it. -/
def Whole (full : Delivery) (streams : Streams) (body : Body) : Prop :=
  body.claim = .claimed ∨ body.store streams = full

theorem store_same
    (same : ∀ handle, body.handle? = some handle →
      after.delivery (.shared handle) = streams.delivery (.shared handle)) :
    body.store after = body.store streams := by
  rcases body with ⟨(source | handle) | bytes | _, expected⟩
  · simp only [store, Streams.delivery_own]
  · exact same handle rfl
  · rfl
  · rfl

theorem Whole.same (whole : body.Whole full streams)
    (same : ∀ handle, body.handle? = some handle →
      after.delivery (.shared handle) = streams.delivery (.shared handle)) :
    body.Whole full after :=
  whole.imp_right fun store => (store_same same).trans store

structure Used (full : Delivery) (streams : Streams) (body next : Body) (after : Streams) :
    Prop where
  expected : next.expected = body.expected
  keeps : Streams.Keeps body.handle? streams after
  handle : next.handle? = none ∨ next.handle? = body.handle?
  whole : next.Whole full after

theorem Used.refl (sound : streams.Sound) (whole : body.Whole full streams) :
    Used full streams body body streams :=
  ⟨rfl, Streams.Keeps.refl _ sound, .inr rfl, whole⟩

/-- What is read up to more than a limit is within it only where it is all that there is. -/
theorem up_to_within {limit : Nat} {bytes : Bytes} (read : (full.upTo (limit + 1)).1 = .ok bytes)
    (fits : ¬limit < bytes.length) : full = ⟨bytes, none⟩ := by
  obtain ⟨stored, failure⟩ := full
  unfold Delivery.upTo at read
  split at read
  next enough =>
    cases read
    rw [List.length_take_of_le enough] at fits
    exact absurd (Nat.lt_succ_self limit) fits
  next =>
    cases failure with
    | none =>
        cases read
        rfl
    | some message => cases read

theorem buffer_used (sound : streams.Sound) (whole : body.Whole full streams) (limit : Nat) :
    Used full streams body (body.buffer limit streams).2.1 (body.buffer limit streams).2.2 ∧
      ∀ bytes, (body.buffer limit streams).1 = .ok bytes → full = ⟨bytes, none⟩ := by
  have unchanged := Used.refl sound whole
  have refused (error : BodyError) (bytes : Bytes)
      (given : (.error error : Except BodyError Bytes) = .ok bytes) : full = ⟨bytes, none⟩ := by
    cases given
  rcases body with ⟨reader | kept | _, expected⟩
  · have store : streams.delivery reader = full := by
      rcases whole with claimed | store
      · cases claimed
      · exact store
    have read := Reader.read_up_to sound reader (limit + 1)
    rw [store] at read
    simp only [buffer]
    split
    · exact ⟨unchanged, refused _⟩
    · cases fault? limit ⟨.unclaimed reader, expected⟩ with
      | some fault =>
          exact ⟨⟨rfl, Streams.keeps_fail _ sound fault, .inl rfl, .inl rfl⟩, refused _⟩
      | none =>
          rcases answer : reader.readUpTo (limit + 1) streams with ⟨result, left, after⟩
          rw [answer] at read
          obtain ⟨result_, _, _, keeps⟩ := read
          simp only at result_ keeps
          cases result with
          | error message =>
              exact ⟨⟨rfl, keeps, .inl rfl, .inl rfl⟩, refused _⟩
          | ok bytes =>
              simp only
              split
              next => exact ⟨⟨rfl, keeps, .inl rfl, .inl rfl⟩, refused _⟩
              next fits =>
                have all := up_to_within result_.symm fits
                refine ⟨⟨rfl, keeps, .inl rfl, .inr all.symm⟩, ?_⟩
                rintro _ ⟨⟩
                exact all
  · refine ⟨unchanged, ?_⟩
    rintro _ ⟨⟩
    rcases whole with claimed | store
    · cases claimed
    · exact store.symm
  · simp only [buffer]
    split
    · exact ⟨unchanged, refused _⟩
    · exact ⟨unchanged, refused _⟩

theorem release_used (sound : streams.Sound) (whole : body.Whole full streams) :
    Used full streams body (body.release streams).2.1 (body.release streams).2.2 := by
  rcases body with ⟨reader | kept | _, expected⟩
  · have read := Reader.read_up_to sound reader ((streams.delivery reader).bytes.length + 1)
    exact ⟨rfl, read.2.2.2, .inl rfl, .inl rfl⟩
  · exact Used.refl sound whole
  · exact Used.refl sound whole

end Body

namespace Holdings

open Streams

/-- The invariant of what is held of a body that had `full` in store. -/
structure Kept (full : Delivery) (expected : Option Nat) (holdings : Holdings) : Prop where
  sound : holdings.streams.Sound
  numbered : holdings.streams.Numbered
  single : (handlesOf holdings.bodies holdings.readers).Nodup
  issued : ∀ handle ∈ handlesOf holdings.bodies holdings.readers, holdings.streams.Issued handle
  whole : ∀ body ∈ holdings.bodies,
    body.expected = expected ∧ body.Whole full holdings.streams

variable {full : Delivery} {expected : Option Nat} {streams after : Streams}
  {bodies : List Body} {readers : List Reader}

theorem handles_append (first second : List Body) (left right : List Reader) :
    (handlesOf (first ++ second) (left ++ right)).Perm
      (handlesOf first left ++ handlesOf second right) := by
  simp only [handlesOf, List.filterMap_append, List.append_assoc]
  refine List.Perm.append_left _ ?_
  rw [← List.append_assoc, ← List.append_assoc]
  exact List.Perm.append_right _ List.perm_append_comm

theorem Kept.use (old : List Body) (gone : List Reader) (fresh : List Body) (more : List Reader)
    (kept : Kept full expected ⟨streams, old ++ bodies, gone ++ readers⟩)
    {touched : Option Handle} (keeps : Keeps touched streams after)
    (own : ∀ handle, touched = some handle → handle ∈ handlesOf old gone)
    (less : (handlesOf fresh more).Sublist (handlesOf old gone))
    (whole : ∀ body ∈ fresh, body.expected = expected ∧ body.Whole full after) :
    Kept full expected ⟨after, fresh ++ bodies, more ++ readers⟩ := by
  have before := handles_append old bodies gone readers
  have behind := handles_append fresh bodies more readers
  have distinct := before.nodup_iff.1 kept.single
  have sublist := less.append_right (handlesOf bodies readers)
  refine ⟨keeps.sound, ?_, ?_, ?_, ?_⟩
  · intro number side member
    rw [keeps.length]
    rw [keeps.sources] at member
    exact kept.numbered number side member
  · exact behind.nodup_iff.2 (distinct.sublist sublist)
  · intro handle member
    have held := sublist.subset (behind.mem_iff.1 member)
    exact keeps.issued (kept.issued handle (before.mem_iff.2 held))
  · intro body member
    rcases List.mem_append.1 member with new | listed
    · exact whole body new
    · obtain ⟨length, held⟩ := kept.whole body (List.mem_append_right _ listed)
      refine ⟨length, held.same fun handle named => keeps.kept handle fun same => ?_⟩
      have other : handle ∈ handlesOf bodies readers :=
        List.mem_append_left _ (List.mem_filterMap.2 ⟨body, listed, named⟩)
      exact (List.nodup_append.1 distinct).2.2 handle (own handle same) handle other rfl

theorem Kept.use_body {body next : Body}
    (kept : Kept full expected ⟨streams, body :: bodies, readers⟩)
    (used : body.Used full streams next after) :
    Kept full expected ⟨after, [next] ++ bodies, readers⟩ := by
  have first := kept.whole body List.mem_cons_self
  refine Kept.use [body] [] [next] [] kept used.keeps ?_ ?_ ?_
  · intro handle named
    simp [handlesOf, named]
  · rcases used.handle with silent | same
    · simp [handlesOf, silent]
    · simp [handlesOf, List.filterMap_cons, same]
  · intro other member
    obtain rfl := List.mem_singleton.1 member
    exact ⟨used.expected.trans first.1, used.whole⟩

theorem Kept.use_reader {reader next : Reader}
    (kept : Kept full expected ⟨streams, bodies, reader :: readers⟩)
    (keeps : Keeps reader.handle? streams after) (named : next.handle? = reader.handle?) :
    Kept full expected ⟨after, bodies, [next] ++ readers⟩ := by
  refine Kept.use [] [reader] [] [next] kept keeps ?_ ?_ ?_
  · intro handle own
    simp [handlesOf, own]
  · simp [handlesOf, List.filterMap_cons, named]
  · exact List.forall_mem_nil _

end Holdings

namespace Streams

variable {streams : Streams} {reader : Reader} {handle : Handle}

theorem handle_usable (streams : Streams) (reader : Reader) :
    (streams.usable reader).handle? = .none ∨ (streams.usable reader).handle? = reader.handle? := by
  rcases reader with source | handle
  · exact .inl rfl
  · simp only [usable]
    split
    · exact .inl rfl
    · exact .inr rfl

/-- A split leaves all handles but that of its reader as they were. -/
theorem Issued.split (issued : streams.Issued handle) (other : reader.handle? ≠ some handle) :
    (streams.split reader).2.2.Issued handle ∧
      (streams.split reader).2.2.delivery (.shared handle) = streams.delivery (.shared handle) := by
  have free : (streams.split reader).2.2.isSpent handle = false := by
    rw [spent_split, issued.free, Bool.or_false, beq_eq_false_iff_ne]
    rcases handle_usable streams reader with silent | same
    · rw [silent]
      exact fun impossible => nomatch impossible
    · rw [same]
      exact other
  refine ⟨⟨free, fun number side same => Nat.lt_succ_of_lt (issued.numbered number side same)⟩, ?_⟩
  rw [delivery_split free]
  cases handle with
  | window => rfl
  | half number side =>
      have old : number ≠ streams.splits.length :=
        Nat.ne_of_lt (issued.numbered number side rfl)
      simp only [if_neg old]

theorem issued_half (numbered : streams.Numbered)
    (own : ∀ handle, reader.handle? = some handle → streams.Issued handle) (side : Side) :
    (streams.split reader).2.2.Issued (.half streams.splits.length side) ∧
      (streams.split reader).2.2.delivery (.shared (.half streams.splits.length side)) =
        streams.delivery reader := by
  have unread : streams.isSpent (.half streams.splits.length side) = false := by
    rw [Bool.eq_false_iff]
    intro spent
    exact Nat.lt_irrefl _ (numbered _ side ((spent_iff _ _).1 spent))
  have free : (streams.split reader).2.2.isSpent (.half streams.splits.length side) = false := by
    rw [spent_split, unread, Bool.or_false, beq_eq_false_iff_ne]
    rcases handle_usable streams reader with silent | same
    · rw [silent]
      exact fun impossible => nomatch impossible
    · rw [same]
      exact fun named => Nat.lt_irrefl _ ((own _ named).numbered _ side rfl)
  refine ⟨⟨free, ?_⟩, ?_⟩
  · rintro number other ⟨⟩
    exact Nat.lt_succ_self _
  · rw [delivery_split free]
    simp only [if_true]

theorem numbered_split (numbered : streams.Numbered)
    (own : ∀ handle, reader.handle? = some handle → streams.Issued handle) :
    (streams.split reader).2.2.Numbered := by
  intro number side member
  simp only [split, sources_cons, List.mem_append, Option.mem_toList] at member
  rcases member with source | older
  · rcases handle_usable streams reader with silent | same
    · cases silent.symm.trans source
    · exact Nat.lt_succ_of_lt ((own _ (same.symm.trans source)).numbered number side rfl)
  · exact Nat.lt_succ_of_lt (numbered number side older)

end Streams

namespace Holdings

open Streams

variable {full : Delivery} {expected : Option Nat} {streams : Streams} {bodies : List Body}
  {readers : List Reader}

/-- A body that is split is replaced by two, which read from a split of its reader. -/
theorem Kept.use_split {reader : Reader} {length : Option Nat}
    (kept : Kept full expected ⟨streams, ⟨.unclaimed reader, length⟩ :: bodies, readers⟩) :
    Kept full expected
      ⟨(streams.split reader).2.2,
        [⟨.unclaimed (streams.split reader).1, length⟩,
          ⟨.unclaimed (streams.split reader).2.1, length⟩, ⟨.claimed, length⟩] ++ bodies,
        readers⟩ := by
  have first := kept.whole _ List.mem_cons_self
  have store : streams.delivery reader = full := by
    rcases first.2 with claimed | store
    · cases claimed
    · exact store
  have before : handlesOf (⟨.unclaimed reader, length⟩ :: bodies) readers =
      reader.handle?.toList ++ handlesOf bodies readers := by
    cases named : reader.handle? <;> simp [handlesOf, Body.handle?, named]
  have single := kept.single
  have issued := kept.issued
  simp only [before] at single issued
  have distinct := List.nodup_append.1 single
  have own (handle : Handle) (named : reader.handle? = some handle) : streams.Issued handle :=
    issued handle (List.mem_append_left _ (by simp [named]))
  have others (handle : Handle) (member : handle ∈ handlesOf bodies readers) :
      (streams.split reader).2.2.Issued handle ∧
        (streams.split reader).2.2.delivery (.shared handle) =
          streams.delivery (.shared handle) := by
    refine (issued handle (List.mem_append_right _ member)).split fun named => ?_
    exact distinct.2.2 handle (by simp [named]) handle member rfl
  have half := issued_half kept.numbered own
  refine ⟨sound_split kept.sound reader, numbered_split kept.numbered own, ?_, ?_, ?_⟩
  · have old (side : Side) : .half streams.splits.length side ∉ handlesOf bodies readers := by
      intro member
      exact Nat.lt_irrefl _
        ((issued _ (List.mem_append_right _ member)).numbered _ side rfl)
    refine List.nodup_cons.2 ⟨?_, List.nodup_cons.2 ⟨old .right, distinct.2.1⟩⟩
    intro member
    rcases List.mem_cons.1 member with same | listed
    · cases same
    · exact old .left listed
  · intro handle member
    rcases List.mem_cons.1 member with rfl | member
    · exact (half .left).1
    · rcases List.mem_cons.1 member with rfl | listed
      · exact (half .right).1
      · exact (others handle listed).1
  · intro body member
    simp only [List.cons_append, List.nil_append, List.mem_cons] at member
    rcases member with rfl | rfl | rfl | listed
    · exact ⟨first.1, .inr ((half .left).2.trans store)⟩
    · exact ⟨first.1, .inr ((half .right).2.trans store)⟩
    · exact ⟨first.1, .inl rfl⟩
    · obtain ⟨announced, whole⟩ := kept.whole body (List.mem_cons_of_mem _ listed)
      refine ⟨announced, whole.same fun handle named => (others handle ?_).2⟩
      exact List.mem_append_left _ (List.mem_filterMap.2 ⟨body, listed, named⟩)

theorem Kept.order {others : List Body} {more : List Reader}
    (kept : Kept full expected ⟨streams, bodies, readers⟩) (sameBodies : bodies.Perm others)
    (sameReaders : readers.Perm more) : Kept full expected ⟨streams, others, more⟩ := by
  have same : (handlesOf bodies readers).Perm (handlesOf others more) :=
    (sameBodies.filterMap _).append (sameReaders.filterMap _)
  exact ⟨kept.sound, kept.numbered, same.nodup_iff.1 kept.single,
    fun handle member => kept.issued handle (same.mem_iff.2 member),
    fun body member => kept.whole body (sameBodies.mem_iff.2 member)⟩

theorem Kept.move {reader : Reader} {length : Option Nat} (fresh : List Body) (more : List Reader)
    (kept : Kept full expected ⟨streams, ⟨.unclaimed reader, length⟩ :: bodies, readers⟩)
    (same : handlesOf fresh more = reader.handle?.toList)
    (whole : ∀ body ∈ fresh, body.expected = length ∧ body.Whole full streams) :
    Kept full expected ⟨streams, fresh ++ bodies, more ++ readers⟩ := by
  have first := kept.whole _ List.mem_cons_self
  refine Kept.use [⟨.unclaimed reader, length⟩] [] fresh more kept
    (Keeps.refl .none kept.sound) (fun _ impossible => nomatch impossible) ?_ ?_
  · rw [same]
    cases named : reader.handle? <;> simp [handlesOf, Body.handle?, named]
  · intro body member
    exact ⟨(whole body member).1.trans first.1, (whole body member).2⟩

/-- Whatever a holder does next keeps the invariant. -/
theorem Step.kept {before after : Holdings} (step : Step before after)
    (kept : Kept full expected before) : Kept full expected after := by
  cases step with
  | order streams sameBodies sameReaders => exact kept.order sameBodies sameReaders
  | buffer streams body bodies readers limit =>
      have whole := (kept.whole body List.mem_cons_self).2
      exact kept.use_body (Body.buffer_used kept.sound whole limit).1
  | release streams body bodies readers =>
      have whole := (kept.whole body List.mem_cons_self).2
      exact kept.use_body (Body.release_used kept.sound whole)
  | take streams body bodies readers =>
      have whole := (kept.whole body List.mem_cons_self).2
      have unchanged := kept.use_body (Body.Used.refl kept.sound whole)
      rcases body with ⟨reader | bytes | _, length⟩
      · refine Kept.move [⟨.unclaimed reader, length⟩, ⟨.claimed, length⟩] [] kept ?_ ?_
        · cases named : reader.handle? <;> simp [handlesOf, Body.handle?, named]
        · intro body member
          simp only [List.mem_cons, List.not_mem_nil, or_false] at member
          rcases member with rfl | rfl
          · exact ⟨rfl, whole⟩
          · exact ⟨rfl, .inl rfl⟩
      · exact unchanged
      · exact unchanged
  | split streams body bodies readers =>
      have whole := (kept.whole body List.mem_cons_self).2
      have unchanged := kept.use_body (Body.Used.refl kept.sound whole)
      rcases body with ⟨reader | bytes | _, length⟩
      · exact kept.use_split
      · exact unchanged
      · exact unchanged
  | claim streams body bodies readers =>
      have whole := (kept.whole body List.mem_cons_self).2
      have unchanged := kept.use_body (Body.Used.refl kept.sound whole)
      rcases body with ⟨reader | bytes | _, length⟩
      · refine Kept.move [⟨.claimed, length⟩] [reader] kept ?_ ?_
        · cases named : reader.handle? <;> simp [handlesOf, Body.handle?, named]
        · intro body member
          obtain rfl := List.mem_singleton.1 member
          exact ⟨rfl, .inl rfl⟩
      · exact unchanged
      · exact unchanged
  | dropBody streams body bodies readers =>
      have keeps : Keeps body.handle? streams
          (match body.claim with
          | .unclaimed reader => streams.drop reader
          | _ => streams) := by
        rcases body with ⟨reader | bytes | _, length⟩
        · exact keeps_drop kept.sound reader
        · exact Keeps.refl _ kept.sound
        · exact Keeps.refl _ kept.sound
      refine Kept.use [body] [] [] [] kept keeps ?_ (List.nil_sublist _) (List.forall_mem_nil _)
      intro handle named
      simp [handlesOf, named]
  | read streams bodies reader readers allowance =>
      have read := Reader.read_up_to kept.sound reader allowance
      exact kept.use_reader read.2.2.2 read.2.2.1
  | receive streams bodies reader readers count =>
      have given := Reader.gives_read kept.sound reader count
      exact kept.use_reader given.2.2 given.2.1
  | drop streams bodies reader readers =>
      refine Kept.use [] [reader] [] [] kept (keeps_drop kept.sound reader) ?_
        (List.nil_sublist _) (List.forall_mem_nil _)
      intro handle named
      simp [handlesOf, named]

/-- Whatever comes of some holdings keeps the invariant. -/
theorem Reaches.kept {start holdings : Holdings} (reached : Reaches start holdings)
    (kept : Kept full expected start) : Kept full expected holdings := by
  induction reached with
  | refl => exact kept
  | tail _ step induction => exact step.kept induction

end Holdings

namespace Decoder.Decoded

def holdings (decoded : Decoded) (session : Session) : Holdings :=
  ⟨Streams.ofSession session decoded.window, [decoded.body], []⟩

theorem holdings_kept (decoded : Decoded) (session : Session) :
    (decoded.holdings session).Kept (session.delivery.within decoded.window)
      (some decoded.window) := by
  have sound := Streams.sound_session session decoded.window
  have numbered : (Streams.ofSession session decoded.window).Numbered :=
    fun _ _ member => absurd member List.not_mem_nil
  cases empty : decoded.window == 0 with
  | true =>
      have zero : decoded.window = 0 := by simpa using empty
      have body : decoded.body = Body.empty := by rw [Decoded.body, empty, if_pos rfl]
      refine ⟨sound, numbered, ?_, ?_, ?_⟩
      · simp only [holdings, body]
        exact List.nodup_nil
      · simp only [holdings, body]
        exact List.forall_mem_nil _
      · intro other member
        obtain rfl := List.mem_singleton.1 member
        rw [body, zero]
        refine ⟨rfl, .inr ?_⟩
        simp only [Body.empty, Body.ofBytes, Body.store, Streams.delivery_own]
        rfl
  | false =>
      have body : decoded.body = Body.ofReader .window (some decoded.window) := by
        rw [Decoded.body, empty, if_neg Bool.false_ne_true]
      refine ⟨sound, numbered, ?_, ?_, ?_⟩
      · simp only [holdings, body]
        exact List.pairwise_singleton _ _
      · simp only [holdings, body]
        intro handle member
        obtain rfl := List.mem_singleton.1 member
        refine ⟨rfl, fun number side half => ?_⟩
        cases half
      · intro other member
        obtain rfl := List.mem_singleton.1 member
        rw [body]
        refine ⟨rfl, .inr ?_⟩
        simp only [Body.ofReader, Body.store, Reader.window]
        rw [holdings, Streams.delivery_free rfl]
        rfl

end Decoder.Decoded

end StreamHttp
