import StreamHttp.Proofs.Stream.Reader
import StreamHttp.Stream.Body

/-!
A body in use. Its source goes to one call at most, and every call behind that one finds the body as
that one left it: buffered, or spent. A limit of buffering cuts nothing off: what is buffered is all
there is. Buffering faults where more is announced than there can be room for, and under the
greatest limit of all, whose successor is no word any more.
-/

namespace StreamHttp.Body

/-- What may be called on a body. -/
inductive Call where
  | stream
  | take
  | split
  | buffer (limit : Nat)
  | release
  deriving DecidableEq, Repr

inductive Answer where
  | stream (result : Except BodyError Reader)
  | moved (result : Except BodyError Body)
  | halves (result : Except BodyError (Body × Body))
  | buffered (result : Except BodyError Bytes)
  | discarded (result : Except BodyError Nat)

def Answer.hands : Answer → Bool
  | .stream (.ok _) => true
  | .moved (.ok _) => true
  | .halves (.ok _) => true
  | _ => false

namespace Call

def run (body : Body) (streams : Streams) : Call → Answer × Body × Streams
  | .stream =>
      let (result, body) := body.claimStream
      (.stream result, body, streams)
  | .take =>
      let (result, body) := body.take
      (.moved result, body, streams)
  | .split =>
      let (result, body, streams) := body.split streams
      (.halves result, body, streams)
  | .buffer limit =>
      let (result, body, streams) := body.buffer limit streams
      (.buffered result, body, streams)
  | .release =>
      let (result, body, streams) := body.release streams
      (.discarded result, body, streams)

/-- The limit of a buffering that the announced length of a body goes beyond. -/
def exceeded? (expected : Option Nat) : Call → Option Nat
  | .buffer limit => if expected.any (limit < ·) then some limit else none
  | _ => none

def claimed : Call → Answer
  | .stream => .stream (.error .alreadyClaimed)
  | .take => .moved (.error .alreadyClaimed)
  | .split => .halves (.error .alreadyClaimed)
  | .buffer _ => .buffered (.error .alreadyClaimed)
  | .release => .discarded (.ok 0)

def repeated (bytes : Bytes) : Call → Answer
  | .buffer _ => .buffered (.ok bytes)
  | call => call.claimed

/-- The answer of a body that was claimed, where the announced length comes first. -/
def refused (expected : Option Nat) (call : Call) : Answer :=
  match call.exceeded? expected with
  | some limit => .buffered (.error (.tooLarge limit))
  | none => call.claimed

/-- A call that the source of a body goes to: the body was unclaimed before it, and is not behind. -/
def Obtains (call : Call) (body : Body) (streams : Streams) : Prop :=
  body.isClaimed = false ∧ (call.run body streams).2.1.isClaimed = true

variable {expected : Option Nat} {call : Call}

theorem run_claimed (streams : Streams) (call : Call) :
    call.run ⟨.claimed, expected⟩ streams =
      (call.refused expected, ⟨.claimed, expected⟩, streams) := by
  cases call with
  | buffer limit =>
      simp only [run, Body.buffer, refused, exceeded?]
      split
      next => rfl
      next => rfl
  | stream => rfl
  | take => rfl
  | split => rfl
  | release => rfl

theorem run_buffered (bytes : Bytes) (streams : Streams) (call : Call) :
    call.run ⟨.buffered bytes, expected⟩ streams =
      (call.repeated bytes, ⟨.buffered bytes, expected⟩, streams) := by
  cases call <;> rfl

theorem run_exceeding {reader : Reader} {limit : Nat} (streams : Streams)
    (exceeding : call.exceeded? expected = some limit) :
    call.run ⟨.unclaimed reader, expected⟩ streams =
      (.buffered (.error (.tooLarge limit)), ⟨.unclaimed reader, expected⟩, streams) := by
  cases call with
  | buffer limit =>
      simp only [exceeded?] at exceeding
      split at exceeding
      next long =>
        cases exceeding
        simp only [run, Body.buffer, long, if_true]
      next => cases exceeding
  | stream => cases exceeding
  | take => cases exceeding
  | split => cases exceeding
  | release => cases exceeding

theorem run_unclaimed (reader : Reader) (streams : Streams)
    (within : call.exceeded? expected = none) :
    (∃ bytes, (call.run ⟨.unclaimed reader, expected⟩ streams).1 = .buffered (.ok bytes) ∧
        (call.run ⟨.unclaimed reader, expected⟩ streams).2.1 = ⟨.buffered bytes, expected⟩) ∨
      (∀ bytes, (call.run ⟨.unclaimed reader, expected⟩ streams).1 ≠ .buffered (.ok bytes)) ∧
        (call.run ⟨.unclaimed reader, expected⟩ streams).2.1 = ⟨.claimed, expected⟩ := by
  cases call with
  | buffer limit =>
      have short : expected.any (limit < ·) = false := by
        simp only [exceeded?] at within
        split at within
        next => cases within
        next long => simpa using long
      simp only [run, Body.buffer, short, Bool.false_eq_true, if_false]
      cases fault? limit ⟨.unclaimed reader, expected⟩ with
      | some fault => exact .inr ⟨fun _ => nofun, rfl⟩
      | none =>
          rcases reader.readUpTo (limit + 1) streams with ⟨message | bytes, left, after⟩
          · exact .inr ⟨fun _ => nofun, rfl⟩
          · simp only
            split
            next => exact .inr ⟨fun _ => nofun, rfl⟩
            next => exact .inl ⟨bytes, rfl, rfl⟩
  | stream => exact .inr ⟨fun _ => nofun, rfl⟩
  | take => exact .inr ⟨fun _ => nofun, rfl⟩
  | split => exact .inr ⟨fun _ => nofun, rfl⟩
  | release => exact .inr ⟨fun _ => nofun, rfl⟩

theorem obtains_iff {body : Body} {streams : Streams} :
    call.Obtains body streams ↔
      body.isClaimed = false ∧ call.exceeded? body.expected = none := by
  rcases body with ⟨reader | bytes | _, expected⟩
  · cases exceeding : call.exceeded? expected with
    | some limit => simp [Obtains, run_exceeding streams exceeding, isClaimed]
    | none =>
        rcases run_unclaimed reader streams exceeding with ⟨bytes, _, left⟩ | ⟨_, left⟩
        · simp [Obtains, left, isClaimed]
        · simp [Obtains, left, isClaimed]
  · simp [Obtains, isClaimed]
  · simp [Obtains, isClaimed]

/-- A call that does not get the source changes nothing and reads nothing. -/
theorem run_unobtained {body : Body} {streams : Streams} (other : ¬call.Obtains body streams) :
    (call.run body streams).2 = (body, streams) := by
  rw [obtains_iff] at other
  rcases body with ⟨reader | bytes | _, expected⟩
  · cases exceeding : call.exceeded? expected with
    | some limit => rw [run_exceeding streams exceeding]
    | none => exact absurd ⟨rfl, exceeding⟩ other
  · rw [run_buffered]
  · rw [run_claimed]

end Call

/-- A body behind some calls. Between the calls anything may happen to the streams, so each of them
comes with its own. -/
def behind (body : Body) : List (Call × Streams) → Body
  | [] => body
  | (call, streams) :: rest => ((call.run body streams).2.1).behind rest

variable {body : Body} {expected : Option Nat}

theorem behind_claimed (taken : body.isClaimed = true) (calls : List (Call × Streams)) :
    body.behind calls = body := by
  induction calls with
  | nil => rfl
  | cons made rest induction =>
      have kept : (made.1.run body made.2).2 = (body, made.2) :=
        Call.run_unobtained fun obtained => Bool.false_ne_true (obtained.1.symm.trans taken)
      rw [behind, kept, induction]

theorem expected_behind (body : Body) (calls : List (Call × Streams)) :
    (body.behind calls).expected = body.expected := by
  induction calls generalizing body with
  | nil => rfl
  | cons made rest induction =>
      rw [behind, induction]
      by_cases obtained : made.1.Obtains body made.2
      · obtain ⟨free, within⟩ := Call.obtains_iff.1 obtained
        rcases body with ⟨reader | bytes | _, expected⟩
        · rcases Call.run_unclaimed reader made.2 within with ⟨bytes, _, left⟩ | ⟨_, left⟩
          · rw [left]
          · rw [left]
        · cases free
        · cases free
      · rw [Call.run_unobtained obtained]

/-- What any call behind the one that obtained the source is answered. -/
theorem run_behind {now : Body} {call : Call} {streams : Streams} (again : Call) (next : Streams)
    (obtained : call.Obtains now streams) (later : List (Call × Streams)) :
    let made := call.run now streams
    let left := made.2.1.behind later
    (∀ bytes, made.1 = .buffered (.ok bytes) →
        again.run left next = (again.repeated bytes, left, next)) ∧
      ((∀ bytes, made.1 ≠ .buffered (.ok bytes)) →
        again.run left next = (again.refused now.expected, left, next)) := by
  intro made left
  have same : left = made.2.1 := behind_claimed obtained.2 later
  obtain ⟨free, within⟩ := Call.obtains_iff.1 obtained
  rcases now with ⟨reader | bytes | _, expected⟩
  · rcases Call.run_unclaimed reader streams within with ⟨bytes, answered, kept⟩ | ⟨none, kept⟩
    · refine ⟨?_, fun never => absurd answered (never bytes)⟩
      intro others given
      have equal := answered.symm.trans given
      cases equal
      rw [same.trans kept, Call.run_buffered]
    · refine ⟨fun bytes given => absurd given (none bytes), fun _ => ?_⟩
      rw [same.trans kept, Call.run_claimed]
  · cases free
  · cases free

theorem refused_iff {call : Call} :
    call.refused expected = call.claimed ↔ call.exceeded? expected = none := by
  cases exceeding : call.exceeded? expected with
  | none => simp [Call.refused, exceeding]
  | some limit =>
      have different : Answer.buffered (.error (.tooLarge limit)) ≠ call.claimed := by
        cases call <;> simp [Call.claimed]
      simp [Call.refused, exceeding, different]

theorem hands_refused (call : Call) : (call.refused expected).hands = false := by
  unfold Call.refused
  split
  · rfl
  · cases call <;> rfl

theorem obtains_of_hands {call : Call} {streams : Streams}
    (handed : (call.run body streams).1.hands = true) : call.Obtains body streams := by
  rw [Call.obtains_iff]
  rcases body with ⟨reader | bytes | _, expected⟩
  · refine ⟨rfl, ?_⟩
    cases exceeding : call.exceeded? expected with
    | none => rfl
    | some limit =>
        rw [Call.run_exceeding streams exceeding] at handed
        cases handed
  · rw [Call.run_buffered] at handed
    cases call <;> cases handed
  · rw [Call.run_claimed] at handed
    simp only [hands_refused, Bool.false_eq_true] at handed

/-- Whatever is called on a body: one call at most obtains its source, and the others change nothing
and read nothing. A call obtains it exactly if the body is still unclaimed and its announced length
is within the limit, if the call has one. Behind a call that buffered the body every buffering gives
the same bytes; behind any other one there is nothing to be had, and this is what a call is told
unless it is a buffering whose limit the announced length goes beyond. -/
theorem claimed_once (body : Body) (earlier later : List (Call × Streams)) (call again : Call)
    (streams next : Streams) :
    let now := body.behind earlier
    let made := call.run now streams
    let left := made.2.1.behind later
    (call.Obtains now streams ↔
        now.isClaimed = false ∧ call.exceeded? body.expected = none) ∧
      (made.1.hands = true → call.Obtains now streams) ∧
      (¬call.Obtains now streams → made.2 = (now, streams)) ∧
      (∀ limit, now.isClaimed = false → call.exceeded? body.expected = some limit →
        made = (.buffered (.error (.tooLarge limit)), now, streams)) ∧
      (call.Obtains now streams →
        ¬again.Obtains left next ∧
          (∀ bytes, made.1 = .buffered (.ok bytes) →
            again.run left next = (again.repeated bytes, left, next)) ∧
          ((∀ bytes, made.1 ≠ .buffered (.ok bytes)) →
            again.run left next = (again.refused body.expected, left, next) ∧
              ((again.run left next).1 = again.claimed ↔
                again.exceeded? body.expected = none))) := by
  intro now made left
  have announced : now.expected = body.expected := expected_behind body earlier
  refine ⟨announced ▸ Call.obtains_iff, obtains_of_hands, Call.run_unobtained, ?_, ?_⟩
  · intro limit free exceeding
    rw [← announced] at exceeding
    change call.run now streams = _
    rcases now with ⟨reader | bytes | _, expected⟩
    · exact Call.run_exceeding streams exceeding
    · cases free
    · cases free
  · intro obtained
    obtain ⟨repeated, refused⟩ := run_behind again next obtained later
    refine ⟨?_, repeated, ?_⟩
    · have taken : left.isClaimed = true := by
        rw [show left = made.2.1 from behind_claimed obtained.2 later]
        exact obtained.2
      exact fun both => Bool.false_ne_true (both.1.symm.trans taken)
    · intro unbuffered
      have answered := refused unbuffered
      rw [announced] at answered
      exact ⟨answered, by rw [answered]; exact refused_iff⟩

/-- Five bytes that were claimed as a stream: a limit of three hides that they are gone. -/
theorem spent_body_too_large :
    let claimed := Call.stream.run (ofBytes [104, 101, 108, 108, 111]) Streams.none
    claimed.1.hands = true ∧
      ((Call.buffer 3).run claimed.2.1 claimed.2.2).1 = .buffered (.error (.tooLarge 3)) ∧
      ((Call.buffer 3).run claimed.2.1 claimed.2.2).1 ≠ .buffered (.error .alreadyClaimed) := by
  exact ⟨rfl, rfl, nofun⟩

section

variable {streams : Streams} {reader : Reader} {limit : Nat}

theorem buffer_within (streams : Streams) (short : expected.any (limit < ·) = false)
    (safe : (ofReader reader expected).fault? limit = none) :
    (ofReader reader expected).buffer limit streams =
      match reader.readUpTo (limit + 1) streams with
      | (.error message, _, after) => (.error (.failed message), ⟨.claimed, expected⟩, after)
      | (.ok bytes, _, after) =>
          if limit < bytes.length then (.error (.tooLarge limit), ⟨.claimed, expected⟩, after)
          else (.ok bytes, ⟨.buffered bytes, expected⟩, after) := by
  unfold ofReader at safe
  rcases answer : reader.readUpTo (limit + 1) streams with ⟨message | bytes, _, after⟩ <;>
    simp only [buffer, ofReader, short, Bool.false_eq_true, if_false, safe, answer]

theorem buffer_fault (streams : Streams) (short : expected.any (limit < ·) = false) {fault : Fault}
    (faulty : (ofReader reader expected).fault? limit = some fault) :
    (ofReader reader expected).buffer limit streams =
      (.error (.failed fault.message), ⟨.claimed, expected⟩, streams.fail fault) := by
  unfold ofReader at faulty
  simp only [buffer, ofReader, short, Bool.false_eq_true, if_false, faulty]

theorem up_to_unfailing (content : Bytes) (allowance : Nat) :
    (⟨content, none⟩ : Delivery).upTo allowance =
      (.ok (content.take allowance), ⟨content.drop allowance, none⟩) := by
  unfold Delivery.upTo
  split
  next => rfl
  next beyond =>
    have short : content.length ≤ allowance := Nat.le_of_not_le beyond
    rw [List.take_of_length_le short, List.drop_eq_nil_of_le short]
    rfl

/-- One byte more than the limit tells whether there are more. -/
theorem take_beyond (content : Bytes) (limit : Nat) :
    (if limit < (content.take (limit + 1)).length then .error (.tooLarge limit)
      else .ok (content.take (limit + 1)) : Except BodyError Bytes) =
      if content.length ≤ limit then .ok content else .error (.tooLarge limit) := by
  rw [List.length_take]
  split
  next more => rw [if_neg (by omega)]
  next fits =>
    have all : content.length ≤ limit := by omega
    rw [if_pos all, List.take_of_length_le (Nat.le_succ_of_le all)]

/-- What buffering comes to where the input does not fail, the announced length is no obstacle and
not too much is asked for: it takes one byte more than the limit, or all that there is. -/
theorem buffer_unfailing (sound : streams.Sound) {content : Bytes}
    (store : streams.delivery reader = ⟨content, none⟩)
    (short : expected.any (limit < ·) = false)
    (safe : (ofReader reader expected).fault? limit = none) :
    let answer := (ofReader reader expected).buffer limit streams
    let read := reader.readUpTo (limit + 1) streams
    answer.1 = (if content.length ≤ limit then .ok content else .error (.tooLarge limit)) ∧
      answer.2.2 = read.2.2 ∧
      read.2.2.delivery read.2.1 = ⟨content.drop (limit + 1), none⟩ := by
  have read := Reader.read_up_to sound reader (limit + 1)
  rw [store, up_to_unfailing] at read
  rw [buffer_within streams short safe, ← take_beyond]
  rcases answer : reader.readUpTo (limit + 1) streams with ⟨result, left, after⟩
  rw [answer] at read
  obtain ⟨given, behind, _, _⟩ := read
  simp only at given
  subst given
  simp only
  split
  next => exact ⟨rfl, rfl, behind⟩
  next => exact ⟨rfl, rfl, behind⟩

/-- Within the limit it is the announced length that room is asked for. -/
theorem fault_within (reader : Reader) (short : expected.any (limit < ·) = false) :
    (ofReader reader expected).fault? limit =
      if Fault.mostRoom < expected.getD 0 then some .capacity
      else if limit < u64Max then none
      else some .overflow := by
  have bounded : min (expected.getD 0) limit = expected.getD 0 := by
    cases expected with
    | none => exact Nat.zero_min limit
    | some length => exact Nat.min_eq_left (by simpa using short)
  simp only [fault?, ofReader, bounded, Fault.ofRoom?, Fault.ofSuccessor?]
  split <;> rfl

theorem fault_greedy (reader : Reader) (short : expected.any (limit < ·) = false)
    (greedy : Fault.mostRoom < expected.getD 0 ∨ u64Max ≤ limit) :
    ∃ fault, (ofReader reader expected).fault? limit = some fault := by
  rw [fault_within reader short]
  split
  next => exact ⟨.capacity, rfl⟩
  next roomy =>
    rw [if_neg (Nat.not_lt.2 (greedy.resolve_left roomy))]
    exact ⟨.overflow, rfl⟩

/-- Buffering an input that does not fail. An announced length beyond the limit is refused before
anything is read. Otherwise there is a fault exactly if more bytes were announced than there can be
room for, or the limit is the greatest word; then nothing is read and no bytes are given. Without a
fault all bytes of the input are given if they are within the limit, there are too many if they are
not, and at most one byte more than the limit is taken. -/
theorem buffer_complete (sound : streams.Sound) (expected : Option Nat) (limit : Nat)
    (unfailing : (streams.delivery reader).failure = none) :
    let content := (streams.delivery reader).bytes
    let body := ofReader reader expected
    let answer := body.buffer limit streams
    let read := reader.readUpTo (limit + 1) streams
    (expected.any (limit < ·) = true → answer = (.error (.tooLarge limit), body, streams)) ∧
      (expected.any (limit < ·) = false →
        (Fault.mostRoom < expected.getD 0 →
          answer = (.error (.failed Fault.capacity.message), ⟨.claimed, expected⟩,
            streams.fail .capacity)) ∧
        (expected.getD 0 ≤ Fault.mostRoom → u64Max ≤ limit →
          answer = (.error (.failed Fault.overflow.message), ⟨.claimed, expected⟩,
            streams.fail .overflow)) ∧
        (expected.getD 0 ≤ Fault.mostRoom → limit < u64Max →
          (answer.1 = .ok content ↔ content.length ≤ limit) ∧
          (answer.1 = .error (.tooLarge limit) ↔ limit < content.length) ∧
          answer.2.2 = read.2.2 ∧ read.2.2.fault = streams.fault ∧
          read.2.2.delivery read.2.1 = ⟨content.drop (limit + 1), none⟩)) := by
  intro content body answer read
  have store : streams.delivery reader = ⟨content, none⟩ := by
    rw [← unfailing]
  refine ⟨?_, ?_⟩
  · intro long
    simp only [answer, body, buffer, ofReader, long, if_true]
  · intro short
    have faulty := fault_within reader short
    refine ⟨?_, ?_, ?_⟩
    · intro vast
      rw [if_pos vast] at faulty
      exact buffer_fault streams short faulty
    · intro roomy greatest
      rw [if_neg (Nat.not_lt.2 roomy), if_neg (Nat.not_lt.2 greatest)] at faulty
      exact buffer_fault streams short faulty
    · intro roomy word
      rw [if_neg (Nat.not_lt.2 roomy), if_pos word] at faulty
      obtain ⟨given, after, behind⟩ := buffer_unfailing sound store short faulty
      change answer.1 = _ at given
      change answer.2.2 = _ at after
      rw [given]
      refine ⟨?_, ?_, after, Reader.fault_read_up_to _ _ _, behind⟩
      · split
        next fits => exact iff_of_true rfl fits
        next more => exact iff_of_false nofun more
      · split
        next fits => exact iff_of_false nofun (Nat.not_lt.2 fits)
        next more => exact iff_of_true rfl (Nat.lt_of_not_le more)

end

def hello : Reader := .own (Source.ofParts [[104, 101], [108, 108, 111]] none)

theorem buffer_complete_hello :
    Streams.none.Sound ∧ (Streams.none.delivery hello).failure = none ∧
      ((ofReader hello none).buffer 5 Streams.none).1 = .ok [104, 101, 108, 108, 111] ∧
      ((ofReader hello none).buffer 4 Streams.none).1 = .error (.tooLarge 4) := by
  have sound : Streams.none.Sound := Streams.sound_session {} 0
  have unfailing : (Streams.none.delivery hello).failure = none := rfl
  have fitting := (buffer_complete sound none 5 unfailing).2 rfl
  have exceeding := (buffer_complete sound none 4 unfailing).2 rfl
  exact ⟨sound, unfailing, (fitting.2.2 (by decide) (by decide)).1.2 (by decide),
    (exceeding.2.2 (by decide) (by decide)).2.1.2 (by decide)⟩

/-- The greatest limit has no successor. -/
theorem greatest_limit_faults :
    (Streams.none.delivery hello).bytes = [104, 101, 108, 108, 111] ∧
      let answer := (ofReader hello none).buffer u64Max Streams.none
      answer.1 ≠ .ok [104, 101, 108, 108, 111] ∧ answer.2.2.fault = some .overflow := by
  exact ⟨rfl, nofun, rfl⟩

end StreamHttp.Body
