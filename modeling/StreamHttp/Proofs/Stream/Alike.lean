import StreamHttp.Proofs.Stream.Reader
import StreamHttp.Proofs.Stream.Window
import StreamHttp.Stream.Body

/-!
Two states of shared streams side by side. A relation of streams is respected when every use of a
reader gives the same on both sides and leaves streams that are related again. Streams whose readers
all have the same in store are related so, unless single reads are allowed, which tell where the
input was cut. Streams stay free of faults as long as no limit asks for too much.
-/

namespace StreamHttp

/-- What may be done with bodies. -/
structure Habits where
  /-- Whether there are single reads. -/
  single : Prop
  /-- The limits that bodies are buffered under. -/
  limits : Nat → Prop

namespace Habits

def any : Habits := ⟨True, fun _ => True⟩

def modest : Habits := ⟨True, (· ≤ Fault.mostRoom)⟩

end Habits

theorem Body.fault_modest {limit : Nat} (modest : limit ≤ Fault.mostRoom) (body : Body) :
    body.fault? limit = none :=
  fault_none.2 ⟨Nat.le_trans (Nat.min_le_right _ _) modest,
    Nat.lt_of_le_of_lt modest (by decide : Fault.mostRoom < u64Max)⟩

namespace Streams

variable {first second : Streams}

/-- A relation that readers and faults respect as far as the habits go. -/
structure Respected (habits : Habits) (related : Streams → Streams → Prop) : Prop where
  readUpTo : ∀ {first second}, related first second → ∀ (allowance : Nat) (reader : Reader),
    (reader.readUpTo allowance first).1 = (reader.readUpTo allowance second).1 ∧
      (reader.readUpTo allowance first).2.1 = (reader.readUpTo allowance second).2.1 ∧
      related (reader.readUpTo allowance first).2.2 (reader.readUpTo allowance second).2.2
  readToEnd : ∀ {first second}, related first second → ∀ reader : Reader,
    (reader.readToEnd first).1 = (reader.readToEnd second).1 ∧
      related (reader.readToEnd first).2.2 (reader.readToEnd second).2.2
  read : habits.single → ∀ {first second}, related first second → ∀ (count : Nat) (reader : Reader),
    (reader.read count first).1 = (reader.read count second).1 ∧
      (reader.read count first).2.1 = (reader.read count second).2.1 ∧
      related (reader.read count first).2.2 (reader.read count second).2.2
  split : ∀ {first second}, related first second → ∀ reader : Reader,
    (first.split reader).1 = (second.split reader).1 ∧
      (first.split reader).2.1 = (second.split reader).2.1 ∧
      related (first.split reader).2.2 (second.split reader).2.2
  drop : ∀ {first second}, related first second → ∀ reader : Reader,
    related (first.drop reader) (second.drop reader)
  fail : ∀ {limit : Nat} {body : Body} {fault : Fault}, habits.limits limit →
    body.fault? limit = some fault → ∀ {first second}, related first second →
    related (first.fail fault) (second.fail fault)

/-- Streams as they are, with something about them that every use of a reader keeps. -/
theorem respected_equal {habits : Habits} {kept : Streams → Prop}
    (read : ∀ streams (count : Nat) (reader : Reader), kept streams →
      kept (reader.read count streams).2.2)
    (upTo : ∀ streams (allowance : Nat) (reader : Reader), kept streams →
      kept (reader.readUpTo allowance streams).2.2)
    (split : ∀ (streams : Streams) reader, kept streams → kept (streams.split reader).2.2)
    (drop : ∀ (streams : Streams) reader, kept streams → kept (streams.drop reader))
    (fail : ∀ {limit : Nat} {body : Body} {fault : Fault}, habits.limits limit →
      body.fault? limit = some fault → ∀ streams : Streams, kept streams →
      kept (streams.fail fault)) :
    Respected habits fun first second => first = second ∧ kept first where
  readUpTo := by
    rintro first _ ⟨rfl, start⟩ allowance reader
    exact ⟨rfl, rfl, rfl, upTo first allowance reader start⟩
  readToEnd := by
    rintro first _ ⟨rfl, start⟩ reader
    exact ⟨rfl, rfl, upTo first _ reader start⟩
  read := by
    rintro _ first _ ⟨rfl, start⟩ count reader
    exact ⟨rfl, rfl, rfl, read first count reader start⟩
  split := by
    rintro first _ ⟨rfl, start⟩ reader
    exact ⟨rfl, rfl, rfl, split first reader start⟩
  drop := by
    rintro first _ ⟨rfl, start⟩ reader
    exact ⟨rfl, drop first reader start⟩
  fail := by
    rintro limit body fault allowed faulty first _ ⟨rfl, start⟩
    exact ⟨rfl, fail allowed faulty first start⟩

theorem respected_same (kept : Limited Session → Prop)
    (closed : ∀ count limited, kept limited → kept (limited.read Session.read count).2) :
    Respected .any fun first second => first = second ∧ kept first.window := by
  apply respected_equal
  · exact fun _ count reader => Reader.window_read closed reader count
  · exact fun _ allowance reader => Reader.window_read_up_to closed reader allowance
  · exact fun _ _ => id
  · intro streams reader start
    rw [window_drop]
    exact start
  · exact fun _ _ _ => id

theorem respected_faultless :
    Respected .modest fun first second => first = second ∧ first.fault = Option.none := by
  apply respected_equal
  · exact fun streams count reader => (Reader.fault_read reader count streams).trans
  · exact fun streams allowance reader => (Reader.fault_read_up_to reader allowance streams).trans
  · exact fun _ _ => id
  · exact fun streams reader => (fault_drop streams reader).trans
  · intro limit body fault modest faulty
    cases (Body.fault_modest modest body).symm.trans faulty

/-- Streams that no reader tells apart by what it has in store. -/
structure Alike (first second : Streams) : Prop where
  firstSound : first.Sound
  secondSound : second.Sound
  sources : sources first.splits = sources second.splits
  length : first.splits.length = second.splits.length
  shared : ∀ handle, first.delivery (.shared handle) = second.delivery (.shared handle)
  fault : first.fault = second.fault

theorem Alike.spent (alike : Alike first second) (handle : Handle) :
    first.isSpent handle = second.isSpent handle := by
  rw [Bool.eq_iff_iff, spent_iff, spent_iff, alike.sources]

theorem Alike.delivery (alike : Alike first second) (reader : Reader) :
    first.delivery reader = second.delivery reader := by
  rcases reader with source | handle
  · rw [delivery_own, delivery_own]
  · exact alike.shared handle

theorem Alike.usable (alike : Alike first second) (reader : Reader) :
    first.usable reader = second.usable reader := by
  rcases reader with source | handle
  · rfl
  · simp only [Streams.usable, alike.spent]

theorem alike_session {before after : Session} (same : before.delivery = after.delivery)
    (size : Nat) : Alike (ofSession before size) (ofSession after size) where
  firstSound := sound_session _ _
  secondSound := sound_session _ _
  sources := rfl
  length := rfl
  shared := by
    intro handle
    cases handle with
    | window =>
        rw [delivery_free rfl, delivery_free rfl]
        simp only [Reader.storeOf, ofSession, Limited.delivery, Limited.ofSize, same]
    | half number side =>
        rw [delivery_free rfl, delivery_free rfl]
        simp only [Reader.storeOf, ofSession]
  fault := rfl

theorem Alike.step (alike : Alike first second) {touched : Option Handle} {next after : Streams}
    (left : Keeps touched first next) (right : Keeps touched second after)
    (same : ∀ handle, touched = some handle →
      next.delivery (.shared handle) = after.delivery (.shared handle))
    (fault : next.fault = after.fault) : Alike next after where
  firstSound := left.sound
  secondSound := right.sound
  sources := by rw [left.sources, right.sources, alike.sources]
  length := by rw [left.length, right.length, alike.length]
  shared := by
    intro handle
    by_cases used : touched = some handle
    · exact same handle used
    · rw [left.kept handle used, right.kept handle used, alike.shared]
  fault := fault

theorem Alike.read_up_to (alike : Alike first second) (allowance : Nat) (reader : Reader) :
    (reader.readUpTo allowance first).1 = (reader.readUpTo allowance second).1 ∧
      (reader.readUpTo allowance first).2.1 = (reader.readUpTo allowance second).2.1 ∧
      Alike (reader.readUpTo allowance first).2.2 (reader.readUpTo allowance second).2.2 := by
  rcases reader with source | handle
  · rw [Reader.read_up_to_own, Reader.read_up_to_own]
    exact ⟨rfl, rfl, alike⟩
  · have left := Reader.read_up_to alike.firstSound (.shared handle) allowance
    have right := Reader.read_up_to alike.secondSound (.shared handle) allowance
    have faultless := Reader.fault_read_up_to (.shared handle) allowance first
    have faultless_ := Reader.fault_read_up_to (.shared handle) allowance second
    rw [alike.delivery] at left
    rcases answers : (Reader.shared handle).readUpTo allowance first with ⟨result, next, after⟩
    rcases others : (Reader.shared handle).readUpTo allowance second with ⟨other, later, behind⟩
    rw [answers] at left faultless
    rw [others] at right faultless_
    obtain ⟨result_, store, named, keeps⟩ := left
    obtain ⟨other_, stored, named_, keeps_⟩ := right
    simp only at result_ store named other_ stored named_
    have own : next = .shared handle ∧ later = .shared handle := by
      cases next <;> cases later <;> simp_all [Reader.handle?]
    obtain ⟨rfl, rfl⟩ := own
    refine ⟨result_.trans other_.symm, rfl, alike.step keeps keeps_ ?_ ?_⟩
    · intro touched equal
      cases equal
      exact store.trans stored.symm
    · exact (faultless.trans alike.fault).trans faultless_.symm

theorem Alike.split (alike : Alike first second) (reader : Reader) :
    (first.split reader).1 = (second.split reader).1 ∧
      (first.split reader).2.1 = (second.split reader).2.1 ∧
      Alike (first.split reader).2.2 (second.split reader).2.2 := by
  refine ⟨by simp only [Streams.split, alike.length], by simp only [Streams.split, alike.length],
    sound_split alike.firstSound reader, sound_split alike.secondSound reader, ?_, ?_, ?_,
    alike.fault⟩
  · simp only [Streams.split, sources_cons, alike.usable, alike.sources]
  · simp only [Streams.split, List.length_cons, alike.length]
  · intro handle
    have same : (first.split reader).2.2.isSpent handle =
        (second.split reader).2.2.isSpent handle := by
      rw [spent_split, spent_split, alike.usable, alike.spent]
    cases spent : (second.split reader).2.2.isSpent handle with
    | true => rw [delivery_spent (same.trans spent), delivery_spent spent]
    | false =>
        rw [delivery_split (same.trans spent), delivery_split spent]
        cases handle with
        | window => exact alike.shared .window
        | half number side =>
            simp only [alike.length, alike.delivery]

theorem Alike.drop (alike : Alike first second) (reader : Reader) :
    Alike (first.drop reader) (second.drop reader) := by
  have fault : (first.drop reader).fault = (second.drop reader).fault := by
    rw [fault_drop, fault_drop, alike.fault]
  refine alike.step (keeps_drop alike.firstSound reader) (keeps_drop alike.secondSound reader) ?_
    fault
  intro handle named
  rcases reader with source | other
  · cases named
  · cases named
    cases spent : first.isSpent handle with
    | true =>
        rw [delivery_spent (((keeps_drop alike.firstSound _).spent handle).trans spent),
          delivery_spent (((keeps_drop alike.secondSound _).spent handle).trans
            ((alike.spent handle).symm.trans spent))]
    | false =>
        have other := (alike.spent handle).symm.trans spent
        cases handle with
        | window =>
            have still (streams : Streams) : streams.drop (.shared .window) = streams := by
              simp only [Streams.drop, Streams.usable]
              split
              next shared => split at shared <;> cases shared
              next => rfl
            rw [still, still]
            exact alike.shared .window
        | half number side =>
            rw [delivery_drop alike.firstSound spent, delivery_drop alike.secondSound other]

theorem Alike.fail (alike : Alike first second) (fault : Fault) :
    Alike (first.fail fault) (second.fail fault) where
  firstSound := ⟨alike.firstSound.distinct, alike.firstSound.tees⟩
  secondSound := ⟨alike.secondSound.distinct, alike.secondSound.tees⟩
  sources := alike.sources
  length := alike.length
  shared := alike.shared
  fault := congrArg (Option.or · (some fault)) alike.fault

/-- Uses other than single reads cannot tell alike streams apart. -/
theorem respected_alike (kept : Limited Session → Prop)
    (closed : ∀ count limited, kept limited → kept (limited.read Session.read count).2) :
    Respected ⟨False, fun _ => True⟩ fun first second =>
      Alike first second ∧ kept first.window ∧ kept second.window where
  readUpTo := by
    rintro first second ⟨alike, left, right⟩ allowance reader
    have read := alike.read_up_to allowance reader
    exact ⟨read.1, read.2.1, read.2.2, Reader.window_read_up_to closed reader allowance left,
      Reader.window_read_up_to closed reader allowance right⟩
  readToEnd := by
    rintro first second ⟨alike, left, right⟩ reader
    have read := alike.read_up_to ((second.delivery reader).bytes.length + 1) reader
    simp only [Reader.readToEnd, alike.delivery reader]
    exact ⟨read.1, read.2.2, Reader.window_read_up_to closed reader _ left,
      Reader.window_read_up_to closed reader _ right⟩
  read := False.elim
  split := by
    rintro first second ⟨alike, left, right⟩ reader
    have split := alike.split reader
    exact ⟨split.1, split.2.1, split.2.2, left, right⟩
  drop := by
    rintro first second ⟨alike, left, right⟩ reader
    refine ⟨alike.drop reader, ?_, ?_⟩
    · rw [window_drop]
      exact left
    · rw [window_drop]
      exact right
  fail := by
    rintro _ _ fault _ _ first second ⟨alike, left, right⟩
    exact ⟨alike.fail fault, left, right⟩

end Streams

end StreamHttp
