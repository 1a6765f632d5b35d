import StreamHttp.Proofs.Serve.SharedInput
import StreamHttp.Proofs.Wire.Passing

/-!
No byte of a session is lost, and none is read twice. Whatever is done with the input that a loop
shares with its decoder and with the windows of its requests, what was consumed so far, what is
pending and what the source still holds are the bytes of the source, in their order. What a window
handed out, through all its handles together, and what it still lets through are its length.
-/

namespace StreamHttp

namespace Limited

/-- Some bytes of the input went through a window. -/
structure Passes (before : Limited Session) (bytes : Bytes) (after : Limited Session) : Prop where
  content : before.inner.content = bytes ++ after.inner.content
  counted : before.remaining = bytes.length + after.remaining
  size : after.size = before.size

theorem Passes.refl (window : Limited Session) : Passes window [] window where
  content := rfl
  counted := (Nat.zero_add _).symm
  size := rfl

theorem Passes.trans {before between after : Limited Session} {first second : Bytes}
    (one : Passes before first between) (two : Passes between second after) :
    Passes before (first ++ second) after where
  content := by rw [one.content, two.content, List.append_assoc]
  counted := by rw [one.counted, two.counted, List.length_append, Nat.add_assoc]
  size := two.size.trans one.size

theorem read_passes (window : Limited Session) (count : Nat) :
    match (window.read Session.read count).1 with
    | .ok bytes => Passes window bytes (window.read Session.read count).2 ∧ bytes.length ≤ count
    | .error _ => Passes window [] (window.read Session.read count).2 := by
  obtain ⟨inner, size, remaining⟩ := window
  by_cases spent : remaining = 0
  · subst spent
    exact ⟨Passes.refl _, Nat.zero_le _⟩
  · have open_ : (remaining == 0) = false := by simpa using spent
    have given := inner.gives_read (min count remaining)
    simp only [Limited.read, open_, Bool.false_eq_true, if_false]
    rcases read : inner.read (min count remaining) with ⟨message | bytes, after⟩
    all_goals rw [read] at given
    · have same := congrArg Delivery.bytes given.unchanged.1
      exact ⟨same.symm, (Nat.zero_add _).symm, rfl⟩
    · obtain ⟨front, fits⟩ := given.content
      refine ⟨⟨congrArg Delivery.bytes front, ?_, rfl⟩, by omega⟩
      simp only
      omega

/-- Reading again and again takes what the reads give, and gives it unless one of them fails. -/
theorem gather_passes (fuel allowance : Nat) (window : Limited Session) :
    let answer := gather (Limited.read Session.read) fuel allowance window
    ∃ bytes, Passes window bytes answer.2 ∧ ∀ result, answer.1 = .ok result → result = bytes := by
  induction fuel generalizing allowance window with
  | zero => exact ⟨[], Passes.refl _, fun _ given => (Except.ok.inj given).symm⟩
  | succ fuel induction =>
      have once := read_passes window allowance
      simp only [gather]
      split
      · exact ⟨[], Passes.refl _, fun _ given => (Except.ok.inj given).symm⟩
      · rcases read : window.read Session.read allowance with ⟨message | ⟨_ | ⟨byte, rest⟩⟩, after⟩
        all_goals rw [read] at once
        · exact ⟨[], once, fun _ given => by cases given⟩
        · exact ⟨[], once.1, fun _ given => (Except.ok.inj given).symm⟩
        · obtain ⟨bytes, passes, all⟩ := induction (allowance - (byte :: rest).length) after
          refine ⟨byte :: rest ++ bytes, once.1.trans passes, fun result given => ?_⟩
          simp only at given
          rcases gathered : (gather (Limited.read Session.read) fuel
            (allowance - (byte :: rest).length) after).1 with message | later
          · rw [gathered] at given
            cases given
          · rw [gathered] at given
            rw [← all later gathered]
            exact (Except.ok.inj given).symm

theorem read_out_passes (window : Limited Session) :
    ∃ bytes, Passes window bytes window.readOut.2 ∧
      ∀ result, window.readOut.1 = .ok result → result = bytes :=
  gather_passes _ _ window

end Limited

def InputOperation.length? : InputOperation → Option Nat
  | openWindow size => some size
  | _ => none

/-- Bytes that were consumed, by what became of them. -/
inductive Portion where
  /-- Skipped in front of a request line. -/
  | blanks (bytes : Bytes)
  /-- A head that was returned, and the blank line behind it. -/
  | head (lines ending : Bytes)
  /-- Of a head that was not returned. -/
  | rejected (bytes : Bytes)
  /-- Skipped behind a head that was too large. -/
  | discarded (bytes : Bytes)
  | given (window handle : Nat) (bytes : Bytes)
  deriving DecidableEq, Repr

namespace Portion

def bytes : Portion → Bytes
  | blanks bytes => bytes
  | head lines ending => lines ++ ending
  | rejected bytes => bytes
  | discarded bytes => bytes
  | given _ _ bytes => bytes

def throughWindow (number : Nat) : Portion → Bytes
  | given window _ bytes => if window = number then bytes else []
  | _ => []

end Portion

/-- The bytes that went through the window of a number, by any of its handles. -/
def handedOut (number : Nat) (portions : List Portion) : Bytes :=
  portions.flatMap (Portion.throughWindow number)

inductive Accounts : InputOperation → InputAnswer → List Portion → Prop where
  | awaited (result : Except FramingError Bool) : Accounts .awaitInput (.awaited result) []
  | returned {size : Nat} {blanks lines ending : Bytes}
      (fronted : Decoder.Fronted blanks (lines ++ ending)) (fits : (lines ++ ending).length ≤ size)
      (ended : ending = [Byte.lf] ∨ ending = [Byte.cr, Byte.lf]) :
      Accounts (.readHead size) (.head (.ok (some lines))) [.blanks blanks, .head lines ending]
  | tooLarge {size : Nat} {blanks part : Bytes} (fronted : Decoder.Fronted blanks part)
      (full : part.length = size) (skipped : Bytes) :
      Accounts (.readHead size) (.head (.error (.headerTooLarge size)))
        [.blanks blanks, .rejected part, .discarded skipped]
  | incomplete {size : Nat} {blanks part : Bytes} (fronted : Decoder.Fronted blanks part)
      (begun : part ≠ []) (short : part.length < size) :
      Accounts (.readHead size) (.head (.error .incomplete)) [.blanks blanks, .rejected part]
  | ended {size : Nat} {blanks : Bytes} (fronted : Decoder.Fronted blanks []) :
      Accounts (.readHead size) (.head (.ok none)) [.blanks blanks]
  | failed {size : Nat} {blanks part skipped : Bytes} (fronted : Decoder.Fronted blanks part)
      (fits : part.length ≤ size) (full : part.length < size → skipped = []) (message : String) :
      Accounts (.readHead size) (.head (.error (.io message)))
        [.blanks blanks, .rejected part, .discarded skipped]
  | skipped (length : Nat) (result : Except FramingError Unit) (skipped : Bytes) :
      Accounts (.skipHead length) (.skipped result) [.discarded skipped]
  | opened (size handle : Nat) : Accounts (.openWindow size) (.handed handle) []
  | cloned (handle clone : Nat) : Accounts (.cloneHandle handle) (.handed clone) []
  | read {handle count window : Nat} {bytes : Bytes} (fits : bytes.length ≤ count) :
      Accounts (.read handle count) (.given window (.ok bytes)) [.given window handle bytes]
  | readFailed (handle count window : Nat) (message : String) :
      Accounts (.read handle count) (.given window (.error message)) [.given window handle []]
  | drained (handle window : Nat) (bytes : Bytes) :
      Accounts (.drain handle) (.given window (.ok bytes)) [.given window handle bytes]
  | drainFailed (handle window : Nat) (message : String) (bytes : Bytes) :
      Accounts (.drain handle) (.given window (.error message)) [.given window handle bytes]
  | unheld (operation : InputOperation) : Accounts operation .noSuchHandle []

/-- What each of some operations consumed, in turn. -/
inductive Ledger : SharedInput → List InputOperation → List (List Portion) → Prop where
  | nil (input : SharedInput) : Ledger input [] []
  | cons {input : SharedInput} {operation : InputOperation} {operations : List InputOperation}
      {portions : List Portion} {later : List (List Portion)}
      (accounts : Accounts operation (input.perform operation).1 portions)
      (ledger : Ledger (input.perform operation).2 operations later) :
      Ledger input (operation :: operations) (portions :: later)

namespace SharedInput

variable {input before after : SharedInput} {portions consumed : List Portion} {opened : Option Nat}
  {source : Source} {lengths : List Nat}

theorem length_sizes (input : SharedInput) (number : Nat) :
    input.length number = (input.windows.map SharedWindow.size)[number]?.getD 0 := by
  rw [List.getElem?_map, length]
  cases input.windows[number]? <;> rfl

/-- What an operation leaves of an input, given what it consumed and the window that it opened. -/
structure Consumes (before : SharedInput) (portions : List Portion) (opened : Option Nat)
    (after : SharedInput) : Prop where
  content : before.session.content = portions.flatMap Portion.bytes ++ after.session.content
  sizes : after.windows.map SharedWindow.size =
    before.windows.map SharedWindow.size ++ opened.toList
  windows : ∀ number,
    (handedOut number portions).length + after.remaining number + before.length number =
      before.remaining number + after.length number

theorem consumes_beside (kept : after.windows = before.windows)
    (content : before.session.content = portions.flatMap Portion.bytes ++ after.session.content)
    (unhanded : ∀ number, handedOut number portions = []) :
    Consumes before portions none after where
  content := content
  sizes := by rw [kept, Option.toList_none, List.append_nil]
  windows number := by
    rw [unhanded, List.length_nil, Nat.zero_add]
    simp only [remaining, length, kept]

theorem consumes_nothing (input : SharedInput) : Consumes input [] none input :=
  consumes_beside rfl rfl fun _ => rfl

/-- Every way in which a scan ends tells what was consumed, the failures of the input included. -/
theorem scan_accounts {size : Nat} {content : Bytes} {scanned : Decoder.Scan}
    (splits : scanned.Splits size content) (failure : Option String) :
    ∃ portions, Accounts (.readHead size) (.head (scanned.result size failure).1) portions ∧
      content = portions.flatMap Portion.bytes ++ (scanned.result size failure).2.bytes ∧
      ∀ number, handedOut number portions = [] := by
  cases scanned with
  | head lines rest =>
      obtain ⟨blanks, ending, whole, fronted, fits, ended⟩ := splits
      exact ⟨_, .returned fronted fits ended,
        by simpa [Portion.bytes, Decoder.Scan.result] using whole, fun _ => rfl⟩
  | tooLong rest =>
      obtain ⟨blanks, part, skipped, whole, fronted, full⟩ := splits
      exact ⟨_, .tooLarge fronted full skipped,
        by simpa [Portion.bytes, Decoder.Scan.result] using whole, fun _ => rfl⟩
  | endless =>
      obtain ⟨blanks, part, skipped, whole, fronted, full⟩ := splits
      cases failure with
      | none =>
          exact ⟨_, .tooLarge fronted full skipped,
            by simpa [Portion.bytes, Decoder.Scan.result, Delivery.finished] using whole,
            fun _ => rfl⟩
      | some message =>
          have unfilled : part.length < size → skipped = [] := fun short => by omega
          exact ⟨_, .failed fronted (Nat.le_of_eq full) unfilled message,
            by simpa [Portion.bytes, Decoder.Scan.result] using whole, fun _ => rfl⟩
  | unfinished part =>
      obtain ⟨blanks, whole, fronted, short⟩ := splits
      have empty_iff : part.isEmpty = true ↔ part.bytes = [] := by
        simp [Decoder.HeadPart.isEmpty, Decoder.HeadPart.bytes]
      cases failure with
      | none =>
          simp only [Decoder.Scan.result]
          split
          next empty =>
            rw [empty_iff.1 empty] at whole fronted
            exact ⟨_, .ended fronted,
              by simpa [Portion.bytes, Delivery.finished] using whole, fun _ => rfl⟩
          next begun =>
            exact ⟨_, .incomplete fronted (fun empty => begun (empty_iff.2 empty)) short,
              by simpa [Portion.bytes, Delivery.finished] using whole, fun _ => rfl⟩
      | some message =>
          exact ⟨_, .failed fronted (Nat.le_of_lt short) (fun _ => rfl) message,
            by simpa [Portion.bytes, Decoder.Scan.result] using whole, fun _ => rfl⟩

theorem read_head_consumes (size : Nat) (input : SharedInput) :
    ∃ portions, Accounts (.readHead size) (input.perform (.readHead size)).1 portions ∧
      Consumes input portions none (input.perform (.readHead size)).2 := by
  have found := Decoder.gather_head_scan size size {} input.session
  obtain ⟨portions, accounts, whole, unhanded⟩ := scan_accounts
    (Decoder.scan_splits size input.session.delivery.bytes) input.session.delivery.failure
  rw [← found] at accounts whole
  exact ⟨portions, accounts, consumes_beside rfl whole unhanded⟩

theorem skip_head_consumes (length : Nat) (input : SharedInput) :
    ∃ portions, Accounts (.skipHead length) (input.perform (.skipHead length)).1 portions ∧
      Consumes input portions none (input.perform (.skipHead length)).2 := by
  obtain ⟨skipped, split⟩ := Decoder.skip_head_suffix length input.session
  exact ⟨_, .skipped length _ skipped,
    consumes_beside rfl (by simpa [Portion.bytes, perform] using split) fun _ => rfl⟩

theorem await_consumes (input : SharedInput) :
    Consumes input [] none (input.perform .awaitInput).2 :=
  consumes_beside rfl (congrArg Delivery.bytes (Loop.await_input_store input.session).1).symm
    fun _ => rfl

theorem open_consumes (size : Nat) (input : SharedInput) :
    Consumes input [] (some size) (input.perform (.openWindow size)).2 where
  content := rfl
  sizes := List.map_append
  windows number := by
    simp only [perform, remaining, length, List.getElem?_append]
    split
    next => exact Nat.add_right_cancel_iff.2 (Nat.zero_add _)
    next outside =>
      rw [List.getElem?_eq_none (Nat.le_of_not_lt outside)]
      cases number - input.windows.length <;> rfl

/-- Bytes that go through a window, by any handle, are off the session and off the window alike. -/
theorem through_consumes {handle number : Nat} {window : SharedWindow}
    {use : Limited Session → Except String Bytes × Limited Session} {bytes : Bytes}
    (found : input.window? handle = some (number, window))
    (passes : Limited.Passes ⟨input.session, window.size, window.remaining⟩ bytes
      (use ⟨input.session, window.size, window.remaining⟩).2) :
    Consumes input [.given number handle bytes] none (input.through handle use).2 := by
  simp only [through, found]
  generalize use ⟨input.session, window.size, window.remaining⟩ = answer at passes
  obtain ⟨content, counted, sized⟩ := passes
  have opened : input.windows[number]? = some window := by
    simp only [window?, Option.bind_eq_bind, Option.bind_eq_some_iff] at found
    obtain ⟨_, _, _, opened, same⟩ := found
    cases same
    exact opened
  refine ⟨by simpa [Portion.bytes] using content, ?_, fun other => ?_⟩
  · have whole : (input.windows.map SharedWindow.size)[number]? = some window.size := by
      rw [List.getElem?_map, opened]
      rfl
    obtain ⟨inside, same⟩ := List.getElem?_eq_some_iff.1 whole
    rw [Option.toList_none, List.append_nil, List.map_set, sized, ← same]
    exact List.set_getElem_self inside
  simp only [handedOut, List.flatMap_cons, List.flatMap_nil, List.append_nil,
    Portion.throughWindow, remaining, length, List.getElem?_set]
  by_cases own : number = other
  · subst own
    have inside := (List.getElem?_eq_some_iff.1 opened).1
    simp only [if_pos, inside, opened, Option.elim_some]
    simp only at counted sized
    omega
  · simp only [if_neg own, List.length_nil]
    omega

theorem through_accounts {operation : InputOperation} {handle : Nat}
    {use : Limited Session → Except String Bytes × Limited Session}
    (told : ∀ (number : Nat) (window : Limited Session), ∃ bytes,
      Limited.Passes window bytes (use window).2 ∧
        Accounts operation (.given number (use window).1) [.given number handle bytes]) :
    ∃ portions, Accounts operation (input.through handle use).1 portions ∧
      Consumes input portions none (input.through handle use).2 := by
  cases found : input.window? handle with
  | none =>
      simp only [through, found]
      exact ⟨[], .unheld operation, consumes_nothing input⟩
  | some lent =>
      obtain ⟨number, window⟩ := lent
      obtain ⟨bytes, passes, accounts⟩ :=
        told number ⟨input.session, window.size, window.remaining⟩
      refine ⟨[.given number handle bytes], ?_, through_consumes found passes⟩
      simp only [through, found]
      exact accounts

/-- Each operation tells what it consumed, and leaves the rest. -/
theorem perform_consumes (operation : InputOperation) (input : SharedInput) :
    ∃ portions, Accounts operation (input.perform operation).1 portions ∧
      Consumes input portions operation.length? (input.perform operation).2 := by
  cases operation with
  | awaitInput => exact ⟨[], .awaited _, await_consumes input⟩
  | readHead size => exact read_head_consumes size input
  | skipHead length => exact skip_head_consumes length input
  | openWindow size => exact ⟨[], .opened size _, open_consumes size input⟩
  | cloneHandle handle =>
      simp only [perform]
      cases input.handles[handle]? with
      | none => exact ⟨[], .unheld _, consumes_nothing input⟩
      | some number => exact ⟨[], .cloned handle _, consumes_beside rfl rfl fun _ => rfl⟩
  | read handle count =>
      refine through_accounts fun number window => ?_
      have passes := window.read_passes count
      cases answer : (window.read Session.read count).1 with
      | error message =>
          rw [answer] at passes
          exact ⟨[], passes, .readFailed handle count number message⟩
      | ok bytes =>
          rw [answer] at passes
          exact ⟨bytes, passes.1, .read passes.2⟩
  | drain handle =>
      refine through_accounts fun number window => ?_
      obtain ⟨bytes, passes, all⟩ := window.read_out_passes
      refine ⟨bytes, passes, ?_⟩
      cases answer : window.readOut.1 with
      | error message => exact .drainFailed handle number message bytes
      | ok result =>
          rw [all result answer]
          exact .drained handle number bytes

/-- What holds of an input at any time, given what was consumed of the source by then and the
lengths of the windows that were opened. -/
structure Conserves (source : Source) (consumed : List Portion) (lengths : List Nat)
    (input : SharedInput) : Prop where
  content : source.content = consumed.flatMap Portion.bytes ++ input.session.content
  sizes : input.windows.map SharedWindow.size = lengths
  windows : ∀ number,
    (handedOut number consumed).length + input.remaining number = lengths[number]?.getD 0

theorem conserves_start (source : Source) : Conserves source [] [] (ofSource source) :=
  ⟨rfl, rfl, fun _ => rfl⟩

theorem handed_out_append (number : Nat) (first second : List Portion) :
    handedOut number (first ++ second) = handedOut number first ++ handedOut number second :=
  List.flatMap_append

theorem Conserves.step (conserves : Conserves source consumed lengths before)
    (consumes : Consumes before portions opened after) :
    Conserves source (consumed ++ portions) (lengths ++ opened.toList) after where
  content := by
    rw [conserves.content, consumes.content, List.flatMap_append, List.append_assoc]
  sizes := by rw [consumes.sizes, conserves.sizes]
  windows number := by
    have kept := conserves.windows number
    have moved := consumes.windows number
    rw [length_sizes, length_sizes, consumes.sizes, conserves.sizes] at moved
    rw [handed_out_append, List.length_append]
    omega

/-- From any time on, whatever is done keeps the account. -/
theorem Conserves.run (conserves : Conserves source consumed lengths input)
    (operations : List InputOperation) :
    ∃ ledger, Ledger input operations ledger ∧ ∀ count,
      Conserves source (consumed ++ (ledger.take count).flatten)
        (lengths ++ (operations.take count).filterMap InputOperation.length?)
        (input.run (operations.take count)) := by
  induction operations generalizing input consumed lengths with
  | nil =>
      refine ⟨[], .nil input, fun count => ?_⟩
      simpa [SharedInput.run] using conserves
  | cons operation operations induction =>
      obtain ⟨portions, accounts, consumes⟩ := perform_consumes operation input
      -- The account so far is a parameter of the induction: the later operations add to it.
      have between := conserves.step consumes
      obtain ⟨ledger, told, kept⟩ := induction between
      refine ⟨portions :: ledger, .cons accounts told, fun count => ?_⟩
      cases count with
      | zero => simpa [SharedInput.run] using conserves
      | succ count =>
          have later := kept count
          rw [List.append_assoc, List.append_assoc] at later
          simp only [List.take_succ_cons, List.flatten_cons, List.filterMap_cons]
          cases operation <;> exact later

/-- Whatever is done with the input of a session, each operation has consumed certain bytes, which
its answer tells apart; and at any time, what was consumed so far, what is pending and what the
source still holds are the bytes of the source, while each window has let through, by all its
handles, its length but for what it still lets through. -/
theorem input_conserved (source : Source) (operations : List InputOperation) :
    ∃ ledger, Ledger (ofSource source) operations ledger ∧ ∀ count,
      let consumed := (ledger.take count).flatten
      let lengths := (operations.take count).filterMap InputOperation.length?
      let after := (ofSource source).run (operations.take count)
      source.content = consumed.flatMap Portion.bytes ++
          (after.session.pending ++ after.session.source.content) ∧
        after.windows.map SharedWindow.size = lengths ∧
        ∀ number,
          (handedOut number consumed).length + after.remaining number =
            lengths[number]?.getD 0 := by
  obtain ⟨ledger, told, kept⟩ := (conserves_start source).run operations
  refine ⟨ledger, told, fun count => ?_⟩
  exact ⟨(kept count).content, (kept count).sizes, (kept count).windows⟩

end SharedInput

end StreamHttp
