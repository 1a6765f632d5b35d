import Mathlib.Logic.Function.Basic
import StreamHttp.Shutdown

/-!
Calls on one handle that overlap. Who subscribes reads the flag and then obtains a receiver; who
asks for the stop raises the flag and then, if it was down, signals. Any steps of others may come
between the two steps of a call. What a receiver hears is decided by the place of the signal: it is
missed by a receiver that was obtained behind the signal for someone who read the flag in front of
it.
-/

namespace StreamHttp

inductive CallPhase where
  | idle
  | saw (raised : Bool)
  | swapped (first : Bool)
  deriving DecidableEq, Repr

inductive CallEvent (ι : Type) where
  | saw (caller : ι) (raised : Bool)
  | obtained (caller : ι) (number : Nat) (raised : Bool)
  | swapped (caller : ι) (first : Bool)
  | returned (caller : ι) (first : Bool)
  deriving DecidableEq, Repr

namespace CallEvent

variable {ι : Type} {events : List (CallEvent ι)} {event : CallEvent ι}

def isSuccess : CallEvent ι → Bool
  | returned _ first => first
  | _ => false

/-- A receiver was obtained behind the signal for someone who had seen the flag down. -/
def Late (events : List (CallEvent ι)) (number : Nat) : Prop :=
  ∃ front caller back winner, events = front ++ .obtained caller number false :: back ∧
    .returned winner true ∈ front

theorem success_iff : 0 < events.countP isSuccess ↔
    ∃ winner, .returned winner true ∈ events := by
  rw [List.countP_pos_iff]
  constructor
  · rintro ⟨event, listed, success⟩
    cases event with
    | returned winner first =>
        cases first with
        | true => exact ⟨winner, listed⟩
        | false => cases success
    | _ => cases success
  · rintro ⟨winner, listed⟩
    exact ⟨_, listed, rfl⟩

theorem Late.sent {number : Nat} (late : Late events number) :
    0 < events.countP isSuccess := by
  obtain ⟨front, caller, back, winner, rfl, returned⟩ := late
  exact success_iff.2 ⟨winner, List.mem_append_left _ returned⟩

theorem late_snoc {number : Nat} :
    Late (events ++ [event]) number ↔
      Late events number ∨ (∃ caller, event = .obtained caller number false) ∧
        0 < events.countP isSuccess := by
  constructor
  · rintro ⟨front, caller, back, winner, whole, returned⟩
    rcases List.eq_nil_or_concat back with rfl | ⟨back, last, rfl⟩
    · obtain ⟨rfl, same⟩ := List.append_inj' whole rfl
      exact .inr ⟨⟨caller, (List.cons.inj same).1⟩, success_iff.2 ⟨winner, returned⟩⟩
    · rw [List.concat_eq_append, ← List.cons_append, ← List.append_assoc] at whole
      obtain ⟨rfl, _⟩ := List.append_inj' whole rfl
      exact .inl ⟨front, caller, back, winner, rfl, returned⟩
  · rintro (⟨front, caller, back, winner, rfl, returned⟩ | ⟨⟨caller, rfl⟩, sent⟩)
    · exact ⟨front, caller, back ++ [event], winner, by simp, returned⟩
    · obtain ⟨winner, returned⟩ := success_iff.1 sent
      exact ⟨events, caller, [], winner, rfl, returned⟩

theorem late_obtained {caller : ι} {fresh number : Nat} {raised : Bool} :
    Late (events ++ [.obtained caller fresh raised]) number ↔
      Late events number ∨ fresh = number ∧ raised = false ∧ 0 < events.countP isSuccess := by
  rw [late_snoc]
  simp [and_assoc]

theorem late_other {number : Nat} (other : ∀ caller, event ≠ .obtained caller number false) :
    Late (events ++ [event]) number ↔ Late events number := by
  rw [late_snoc, or_iff_left]
  rintro ⟨⟨caller, same⟩, _⟩
  exact other caller same

end CallEvent

/-- A handle in the hands of several callers, and how often each receiver was signalled. -/
structure SharedStop (ι : Type) where
  shutdown : Shutdown := {}
  phase : ι → CallPhase := fun _ => .idle
  signals : List Nat := []

namespace SharedStop

variable {ι : Type} [DecidableEq ι]

def enter (stop : SharedStop ι) (caller : ι) (phase : CallPhase) : SharedStop ι :=
  { stop with phase := Function.update stop.phase caller phase }

def obtain (raised : Bool) (stop : SharedStop ι) : SharedStop ι :=
  { stop with
    shutdown := (stop.shutdown.obtain raised).2
    signals := stop.signals ++ [if raised then 1 else 0] }

def send (stop : SharedStop ι) : SharedStop ι :=
  { stop with
    shutdown := stop.shutdown.send
    signals := List.zipWith (fun receiver count => if receiver.isListening then count + 1 else count)
      stop.shutdown.receivers stop.signals }

/-- One step of one caller. -/
inductive Step (stop : SharedStop ι) : CallEvent ι → SharedStop ι → Prop where
  | saw {caller : ι} (idle : stop.phase caller = .idle) :
      Step stop (.saw caller stop.shutdown.triggered)
        (stop.enter caller (.saw stop.shutdown.triggered))
  | obtained {caller : ι} {raised : Bool} (saw : stop.phase caller = .saw raised) :
      Step stop (.obtained caller (stop.shutdown.obtain raised).1 raised)
        ((stop.obtain raised).enter caller .idle)
  | swapped {caller : ι} (idle : stop.phase caller = .idle) :
      Step stop (.swapped caller stop.shutdown.raise.1)
        ({ stop with shutdown := stop.shutdown.raise.2 }.enter caller
          (.swapped stop.shutdown.raise.1))
  | returned {caller : ι} {first : Bool} (swapped : stop.phase caller = .swapped first) :
      Step stop (.returned caller first)
        ((if first then stop.send else stop).enter caller .idle)

inductive Runs : List (CallEvent ι) → SharedStop ι → Prop where
  | start : Runs [] {}
  | step {events : List (CallEvent ι)} {event : CallEvent ι} {stop after : SharedStop ι}
      (runs : Runs events stop) (step : Step stop event after) : Runs (events ++ [event]) after

variable {stop after : SharedStop ι} {caller : ι} {events : List (CallEvent ι)} {event : CallEvent ι}

theorem enter_own (caller : ι) (phase : CallPhase) : (stop.enter caller phase).phase caller = phase :=
  Function.update_self ..

theorem idle_again (idle : stop.phase caller = .idle) (between : CallPhase) :
    Function.update (Function.update stop.phase caller between) caller .idle = stop.phase := by
  rw [Function.update_idem, ← idle, Function.update_eq_self]

/-- A call for the stop that nobody comes between is that of the handle. -/
theorem trigger_alone (idle : stop.phase caller = .idle) :
    ∃ between after, Step stop (.swapped caller stop.shutdown.trigger.1) between ∧
      Step between (.returned caller stop.shutdown.trigger.1) after ∧
      after.shutdown = stop.shutdown.trigger.2 ∧ after.phase = stop.phase := by
  have again := idle_again idle
  obtain ⟨⟨triggered, receivers⟩, phase, signals⟩ := stop
  cases triggered with
  | true => exact ⟨_, _, .swapped idle, .returned (enter_own caller _), rfl, again _⟩
  | false => exact ⟨_, _, .swapped idle, .returned (enter_own caller _), rfl, again _⟩

theorem subscribe_alone (idle : stop.phase caller = .idle) :
    ∃ between after, Step stop (.saw caller stop.shutdown.triggered) between ∧
      Step between (.obtained caller stop.shutdown.subscribe.1 stop.shutdown.triggered) after ∧
      after.shutdown = stop.shutdown.subscribe.2 ∧ after.phase = stop.phase := by
  exact ⟨_, _, .saw idle, .obtained (enter_own caller _), rfl, idle_again idle _⟩

/-- How far the stop has come: asked for by nobody, about to be signalled by one caller, or
signalled. -/
inductive Stage (stop : SharedStop ι) (sent : Nat) : Prop where
  | down (low : stop.shutdown.triggered = false) (none : ∀ other, stop.phase other ≠ .swapped true)
      (unsent : sent = 0)
  | raised (winner : ι) (high : stop.shutdown.triggered = true)
      (one : ∀ other, stop.phase other = .swapped true ↔ other = winner) (unsent : sent = 0)
  | sent (high : stop.shutdown.triggered = true) (none : ∀ other, stop.phase other ≠ .swapped true)
      (once : sent = 1)

omit [DecidableEq ι] in
theorem Stage.same {sent : Nat} (stage : Stage stop sent)
    (flag : after.shutdown.triggered = stop.shutdown.triggered)
    (winning : ∀ other, after.phase other = .swapped true ↔ stop.phase other = .swapped true) :
    Stage after sent := by
  cases stage with
  | down low none unsent =>
      exact .down (flag.trans low) (fun other => mt (winning other).1 (none other)) unsent
  | raised winner high one unsent =>
      exact .raised winner (flag.trans high) (fun other => (winning other).trans (one other)) unsent
  | sent high none once =>
      exact .sent (flag.trans high) (fun other => mt (winning other).1 (none other)) once

theorem winning_enter {phase : CallPhase} (losing : stop.phase caller ≠ .swapped true)
    (still : phase ≠ .swapped true) (other : ι) :
    (stop.enter caller phase).phase other = .swapped true ↔ stop.phase other = .swapped true := by
  by_cases own : other = caller
  · subst own
    rw [enter_own]
    exact iff_of_false still losing
  · simp only [enter, Function.update_of_ne own]

/-- What a receiver has heard, by whether the signal was sent and whether the receiver is late. -/
inductive Heard (sent : Nat) (late : Prop) : Receiver → Nat → Prop where
  | beforehand (timely : ¬late) : Heard sent late (.late true) 1
  | waiting (unsent : sent = 0) (timely : ¬late) : Heard sent late (.listening false) 0
  | signalled (passed : sent ≠ 0) (timely : ¬late) : Heard sent late (.listening true) 1
  | missed (behind : late) : Heard sent late (.listening false) 0

theorem Heard.reached {late : Prop} {receiver : Receiver} {count : Nat}
    (heard : Heard 0 late receiver count) (timely : ¬late) :
    Heard 1 late receiver.signal (if receiver.isListening then count + 1 else count) := by
  cases heard with
  | beforehand => exact .beforehand timely
  | waiting => exact .signalled Nat.one_ne_zero timely
  | signalled passed => exact absurd rfl passed
  | missed behind => exact absurd behind timely

/-- What a new receiver has heard, by what its caller saw and whether the signal was sent. -/
theorem heard_fresh {sent : Nat} {late : Prop} {raised : Bool}
    (missed : late ↔ raised = false ∧ 0 < sent) :
    Heard sent late (if raised then .late true else .listening false) (if raised then 1 else 0) := by
  cases raised with
  | true => exact .beforehand fun behind => absurd (missed.1 behind).1.symm Bool.false_ne_true
  | false =>
      rcases Nat.eq_zero_or_pos sent with unsent | passed
      · exact .waiting unsent fun behind => absurd unsent (Nat.ne_of_gt (missed.1 behind).2)
      · exact .missed (missed.2 ⟨rfl, passed⟩)

structure Sound (events : List (CallEvent ι)) (stop : SharedStop ι) : Prop where
  stage : Stage stop (events.countP CallEvent.isSuccess)
  tried : ∀ caller first, .swapped caller first ∈ events → stop.shutdown.triggered = true
  counted : stop.signals.length = stop.shutdown.receivers.length
  numbered : ∀ number, CallEvent.Late events number → number < stop.shutdown.receivers.length
  heard : ∀ number receiver count, stop.shutdown.receivers[number]? = some receiver →
    stop.signals[number]? = some count →
    Heard (events.countP CallEvent.isSuccess) (CallEvent.Late events number) receiver count

omit [DecidableEq ι] in
theorem sound_start : Sound [] ({} : SharedStop ι) where
  stage := .down rfl (fun _ => nofun) rfl
  tried _ _ := nofun
  counted := rfl
  numbered _ late := absurd late.sent (Nat.lt_irrefl 0)
  heard _ _ _ held := by cases held

omit [DecidableEq ι] in
theorem Sound.quiet (sound : Sound events stop) (silent : event.isSuccess = false)
    (other : ∀ caller number, event ≠ .obtained caller number false)
    (receivers : after.shutdown.receivers = stop.shutdown.receivers)
    (signals : after.signals = stop.signals)
    (flag : stop.shutdown.triggered = true → after.shutdown.triggered = true)
    (tried : ∀ caller first, event = .swapped caller first → after.shutdown.triggered = true)
    (stage : Stage after (events.countP CallEvent.isSuccess)) : Sound (events ++ [event]) after := by
  have sent : (events ++ [event]).countP CallEvent.isSuccess =
      events.countP CallEvent.isSuccess := by
    simp [List.countP_append, silent]
  have late (number : Nat) :
      CallEvent.Late (events ++ [event]) number ↔ CallEvent.Late events number :=
    CallEvent.late_other fun caller => other caller number
  refine ⟨sent ▸ stage, fun caller first listed => ?_, ?_, fun number behind => ?_,
    fun number receiver count held signalled => ?_⟩
  · rcases List.mem_append.1 listed with before | now
    · exact flag (sound.tried caller first before)
    · exact tried caller first (List.mem_singleton.1 now).symm
  · rw [receivers, signals]
    exact sound.counted
  · rw [receivers]
    exact sound.numbered number ((late number).1 behind)
  · rw [receivers] at held
    rw [signals] at signalled
    rw [sent, propext (late number)]
    exact sound.heard number receiver count held signalled

theorem Sound.saw (sound : Sound events stop) (idle : stop.phase caller = .idle) :
    Sound (events ++ [.saw caller stop.shutdown.triggered])
      (stop.enter caller (.saw stop.shutdown.triggered)) := by
  apply sound.quiet
  · rfl
  · exact fun _ _ => nofun
  · rfl
  · rfl
  · exact id
  · exact fun _ _ => nofun
  · have losing : stop.phase caller ≠ .swapped true := by
      rw [idle]
      exact nofun
    exact sound.stage.same rfl (winning_enter losing nofun)

theorem Sound.swapped (sound : Sound events stop) (idle : stop.phase caller = .idle) :
    Sound (events ++ [.swapped caller stop.shutdown.raise.1])
      ({ stop with shutdown := stop.shutdown.raise.2 }.enter caller
        (.swapped stop.shutdown.raise.1)) := by
  have losing : stop.phase caller ≠ .swapped true := by
    rw [idle]
    exact nofun
  apply sound.quiet
  · rfl
  · exact fun _ _ => nofun
  · rfl
  · rfl
  · exact fun _ => rfl
  · exact fun _ _ _ => rfl
  · cases flag : stop.shutdown.triggered with
    | true =>
        have found : stop.shutdown.raise.1 = false := by
          rw [Shutdown.raise, flag]
          rfl
        rw [found]
        exact sound.stage.same flag.symm (winning_enter losing nofun)
    | false =>
        have first : stop.shutdown.raise.1 = true := by
          rw [Shutdown.raise, flag]
          rfl
        rw [first]
        cases sound.stage with
        | down low none unsent =>
            refine .raised caller rfl (fun other => ?_) unsent
            by_cases own : other = caller
            · subst own
              exact iff_of_true (enter_own other _) rfl
            · simp only [enter, Function.update_of_ne own]
              exact iff_of_false (none other) own
        | raised winner high => cases flag.symm.trans high
        | sent high => cases flag.symm.trans high

theorem Sound.lost (sound : Sound events stop) (swapped : stop.phase caller = .swapped false) :
    Sound (events ++ [.returned caller false]) (stop.enter caller .idle) := by
  apply sound.quiet
  · rfl
  · exact fun _ _ => nofun
  · rfl
  · rfl
  · exact id
  · exact fun _ _ => nofun
  · have losing : stop.phase caller ≠ .swapped true := by
      rw [swapped]
      exact nofun
    exact sound.stage.same rfl (winning_enter losing nofun)

theorem Sound.won (sound : Sound events stop) (swapped : stop.phase caller = .swapped true) :
    Sound (events ++ [.returned caller true]) (stop.send.enter caller .idle) := by
  have late (number : Nat) :
      CallEvent.Late (events ++ [.returned caller true]) number ↔ CallEvent.Late events number :=
    CallEvent.late_other fun _ => nofun
  have sent : (events ++ [CallEvent.returned caller true]).countP CallEvent.isSuccess =
      events.countP CallEvent.isSuccess + 1 := by
    simp [List.countP_append, CallEvent.isSuccess]
  cases sound.stage with
  | down _ none => exact absurd swapped (none caller)
  | sent _ none => exact absurd swapped (none caller)
  | raised winner high one unsent =>
      have own : caller = winner := (one caller).1 swapped
      subst own
      have timely (number : Nat) : ¬CallEvent.Late events number := by
        intro behind
        exact absurd unsent (Nat.ne_of_gt behind.sent)
      refine ⟨?_, fun other first listed => ?_, ?_, fun number behind => ?_,
        fun number receiver count held signalled => ?_⟩
      · rw [sent, unsent]
        refine .sent high (fun other => ?_) rfl
        by_cases same : other = caller
        · subst same
          rw [enter_own]
          exact nofun
        · simp only [enter, Function.update_of_ne same]
          exact mt (one other).1 same
      · exact high
      · simp only [enter, send, Shutdown.send, List.length_zipWith, List.length_map, sound.counted,
          Nat.min_self]
      · exact absurd ((late number).1 behind) (timely number)
      · simp only [enter, send, Shutdown.send, List.getElem?_map, Option.map_eq_some_iff] at held
        obtain ⟨before, held, rfl⟩ := held
        simp only [enter, send, List.getElem?_zipWith_eq_some] at signalled
        obtain ⟨again, reached, listed, counted, rfl⟩ := signalled
        cases held.symm.trans listed
        have before := sound.heard number before reached held counted
        rw [unsent] at before
        rw [sent, unsent, propext (late number)]
        exact before.reached (timely number)

/-- A new receiver has heard of the stop where its caller had seen the flag up, and is late where
the signal came between. -/
theorem Sound.obtained (sound : Sound events stop) {raised : Bool}
    (saw : stop.phase caller = .saw raised) :
    Sound (events ++ [.obtained caller (stop.shutdown.obtain raised).1 raised])
      ((stop.obtain raised).enter caller .idle) := by
  have losing : (stop.obtain raised).phase caller ≠ .swapped true := by
    intro winning
    cases saw.symm.trans winning
  have sent : (events ++ [CallEvent.obtained caller (stop.shutdown.obtain raised).1 raised]).countP
      CallEvent.isSuccess = events.countP CallEvent.isSuccess := by
    simp [List.countP_append, CallEvent.isSuccess]
  have behind_iff (number : Nat) :
      CallEvent.Late (events ++ [.obtained caller (stop.shutdown.obtain raised).1 raised]) number ↔
        CallEvent.Late events number ∨ stop.shutdown.receivers.length = number ∧ raised = false ∧
          0 < events.countP CallEvent.isSuccess :=
    CallEvent.late_obtained
  refine ⟨?_, fun other first listed => ?_, ?_, fun number behind => ?_,
    fun number receiver count held signalled => ?_⟩
  · rw [sent]
    exact sound.stage.same rfl (winning_enter losing nofun)
  · rcases List.mem_append.1 listed with before | now
    · exact sound.tried other first before
    · cases List.mem_singleton.1 now
  · simp only [enter, obtain, Shutdown.obtain, List.length_append, sound.counted, List.length_cons,
      List.length_nil]
  · simp only [enter, obtain, Shutdown.obtain, List.length_append, List.length_cons,
      List.length_nil]
    rcases (behind_iff number).1 behind with before | ⟨rfl, _⟩
    · exact Nat.lt_succ_of_lt (sound.numbered number before)
    · exact Nat.lt_succ_self _
  · simp only [enter, obtain, Shutdown.obtain] at held signalled
    rw [sent, propext (behind_iff number)]
    rcases Nat.lt_trichotomy number stop.shutdown.receivers.length with before | rfl | beyond
    -- A receiver from before, the new one, and none at all.
    · rw [List.getElem?_append_left before] at held
      rw [List.getElem?_append_left (sound.counted ▸ before)] at signalled
      rw [or_iff_left fun own => absurd own.1 (Nat.ne_of_gt before)]
      exact sound.heard number receiver count held signalled
    · rw [List.getElem?_concat_length] at held
      rw [← sound.counted, List.getElem?_concat_length] at signalled
      cases held
      cases signalled
      have fresh : ¬CallEvent.Late events stop.shutdown.receivers.length :=
        fun behind => absurd (sound.numbered _ behind) (Nat.lt_irrefl _)
      exact heard_fresh ((or_iff_right fresh).trans (and_iff_right rfl))
    · have outside : (stop.shutdown.receivers ++
          [if raised = true then Receiver.late true else .listening false]).length ≤ number := by
        rw [List.length_append]
        exact beyond
      rw [List.getElem?_eq_none outside] at held
      cases held

/-- What one step preserves. -/
theorem Sound.step (sound : Sound events stop) (step : Step stop event after) :
    Sound (events ++ [event]) after := by
  cases step with
  | saw idle => exact sound.saw idle
  | obtained saw => exact sound.obtained saw
  | swapped idle => exact sound.swapped idle
  | @returned _ first swapped =>
      cases first with
      | true => exact sound.won swapped
      | false => exact sound.lost swapped

theorem Runs.sound (runs : Runs events stop) : Sound events stop := by
  induction runs with
  | start => exact sound_start
  | step _ step induction => exact induction.step step

/-- Once the stop was asked for and no call is under way, exactly one call has returned that it was
the first, and every receiver was signalled exactly once, except those that were obtained behind the
signal by someone who had read the flag in front of it: these were not signalled at all. -/
theorem settled_signals (runs : Runs events stop) (settled : ∀ caller, stop.phase caller = .idle)
    (asked : ∃ caller first, .swapped caller first ∈ events) :
    events.countP CallEvent.isSuccess = 1 ∧
      stop.signals.length = stop.shutdown.receivers.length ∧
      ∀ number < stop.shutdown.receivers.length,
        (¬CallEvent.Late events number →
          stop.signals[number]? = some 1 ∧ stop.shutdown.isReady number = true) ∧
        (CallEvent.Late events number →
          stop.signals[number]? = some 0 ∧ stop.shutdown.isReady number = false) := by
  have sound := runs.sound
  obtain ⟨asking, first, swapped⟩ := asked
  have sent : events.countP CallEvent.isSuccess = 1 := by
    cases sound.stage with
    | down low => cases low.symm.trans (sound.tried asking first swapped)
    | raised winner _ one => cases (settled winner).symm.trans ((one winner).2 rfl)
    | sent _ _ once => exact once
  refine ⟨sent, sound.counted, fun number present => ?_⟩
  have inside : number < stop.signals.length := sound.counted ▸ present
  have held := List.getElem?_eq_getElem present
  have counted := List.getElem?_eq_getElem inside
  have heard := sound.heard number _ _ held counted
  rw [sent] at heard
  rw [Shutdown.isReady, held, counted]
  generalize stop.shutdown.receivers[number] = receiver at heard
  generalize stop.signals[number] = count at heard
  cases heard with
  | beforehand timely => exact ⟨fun _ => ⟨rfl, rfl⟩, fun behind => absurd behind timely⟩
  | waiting unsent => cases unsent
  | signalled _ timely => exact ⟨fun _ => ⟨rfl, rfl⟩, fun behind => absurd behind timely⟩
  | missed behind => exact ⟨fun timely => absurd behind timely, fun _ => ⟨rfl, rfl⟩⟩

def crossing : List (CallEvent (Fin 4)) :=
  [.saw 0 false, .obtained 0 0 false, .saw 1 false, .swapped 2 true, .swapped 3 false,
    .returned 3 false, .returned 2 true, .obtained 1 1 false, .saw 0 true, .obtained 0 2 true]

theorem crossing_runs : ∃ stop, Runs crossing stop ∧ (∀ caller, stop.phase caller = .idle) ∧
    stop.signals = [1, 0, 1] := by
  refine ⟨_, .step (.step (.step (.step (.step (.step (.step (.step (.step (.step .start
    (.saw rfl)) (.obtained rfl)) (.saw rfl)) (.swapped rfl)) (.swapped rfl)) (.returned rfl))
    (.returned rfl)) (.obtained rfl)) (.saw rfl)) (.obtained rfl), ?_, rfl⟩
  decide

theorem crossing_late : CallEvent.Late crossing 1 :=
  ⟨crossing.take 7, 1, crossing.drop 8, 2, rfl, by decide⟩

theorem settled_signals_crossing :
    ∃ stop, Runs crossing stop ∧ (∀ caller, stop.phase caller = .idle) ∧
      .swapped 2 true ∈ crossing ∧ crossing.countP CallEvent.isSuccess = 1 ∧
      stop.signals = [1, 0, 1] ∧ CallEvent.Late crossing 1 ∧
      stop.shutdown.isReady 1 = false := by
  obtain ⟨stop, runs, settled, signals⟩ := crossing_runs
  have asked : .swapped 2 true ∈ crossing := by decide
  obtain ⟨once, counted, heard⟩ := settled_signals runs settled ⟨2, true, asked⟩
  have present : 1 < stop.shutdown.receivers.length := by
    rw [← counted, signals]
    decide
  have missed := (heard 1 present).2 crossing_late
  exact ⟨stop, runs, settled, asked, once, signals, crossing_late, missed.2⟩

/-- The stop is asked for and signalled while someone who has seen the flag down has no receiver
yet: all calls end, and the receiver never hears of the stop. -/
theorem overlapped_call_unsignalled :
    ∃ stop : SharedStop Bool,
      Runs [.saw false false, .swapped true true, .returned true true, .obtained false 0 false]
        stop ∧
      (∀ caller, stop.phase caller = .idle) ∧ stop.shutdown.triggered = true ∧
      stop.signals = [0] ∧ stop.shutdown.receivers = [.listening false] ∧
      stop.shutdown.isReady 0 = false := by
  refine ⟨_, .step (.step (.step (.step .start (.saw rfl)) (.swapped rfl)) (.returned rfl))
    (.obtained rfl), ?_, rfl, rfl, rfl, rfl⟩
  decide

end SharedStop

end StreamHttp
