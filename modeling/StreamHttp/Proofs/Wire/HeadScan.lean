import StreamHttp.Wire.Decoder

/-!
Where a head ends, found one byte at a time. The decoder keeps its state from read to read, so what
it finds is what this scan finds in the bytes of the input, and it leaves the input right behind
what was scanned.
-/

namespace StreamHttp.Decoder

/-- What stands at the front of an input. -/
inductive Scan where
  | head (lines rest : Bytes)
  /-- Ended by a blank line, but too long. -/
  | tooLong (rest : Bytes)
  /-- Too long already, and without an end. -/
  | endless
  | unfinished (part : HeadPart)
  deriving DecidableEq, Repr

namespace Scan

def ofSkipped : Except Nat Bytes → Scan
  | .ok rest => .tooLong rest
  | .error _ => .endless

end Scan

def isLineEnd (byte : Byte) : Bool := byte == Byte.cr || byte == Byte.lf

/-- Scans a head with room for so many more bytes. -/
def scan (room : Nat) (part : HeadPart) : Bytes → Scan
  | [] => if room == 0 then .endless else .unfinished part
  | byte :: rest =>
      if room == 0 then Scan.ofSkipped (scanHeadEnd part.lineLength (byte :: rest))
      else if part.isEmpty && isLineEnd byte then scan room part rest
      else if byte == Byte.lf then
        if part.line.isEmpty || part.line == [Byte.cr] then .head part.lines.reverse rest
        else scan (room - 1) ⟨byte :: (part.line ++ part.lines), []⟩ rest
      else scan (room - 1) { part with line := byte :: part.line } rest

theorem scan_full (part : HeadPart) (bytes : Bytes) :
    scan 0 part bytes = Scan.ofSkipped (scanHeadEnd part.lineLength bytes) := by
  cases bytes <;> rfl

theorem scan_head_end_append (length : Nat) (first rest : Bytes) :
    scanHeadEnd length (first ++ rest) =
      match scanHeadEnd length first with
      | .ok left => .ok (left ++ rest)
      | .error length => scanHeadEnd length rest := by
  induction first generalizing length with
  | nil => rfl
  | cons byte first induction =>
      simp only [List.cons_append, scanHeadEnd]
      split
      · split
        · rfl
        · exact induction 0
      · split
        · exact induction length
        · exact induction (length + 1)

theorem scan_extend {room : Nat} {part : HeadPart} (begun : part.isEmpty = false)
    (first rest : Bytes) (fits : first.length ≤ room) :
    scan room part (first ++ rest) =
      match part.extend first with
      | .ok (lines, left) => .head lines (left ++ rest)
      | .error longer => scan (room - first.length) longer rest := by
  induction first generalizing room part with
  | nil => rfl
  | cons byte first induction =>
      rw [List.length_cons] at fits
      have roomy : (room == 0) = false := by
        simp only [beq_eq_false_iff_ne]
        omega
      simp only [List.cons_append, scan, roomy, begun, Bool.false_and, Bool.false_eq_true,
        if_false, HeadPart.extend, List.length_cons]
      split
      · split
        · rfl
        · rw [induction rfl (by omega), Nat.sub_sub, Nat.add_comm 1]
      · have still : ({ part with line := byte :: part.line } : HeadPart).isEmpty = false := by
          simp [HeadPart.isEmpty]
        rw [induction still (by omega), Nat.sub_sub, Nat.add_comm 1]

theorem scan_read {room : Nat} (part : HeadPart) (first rest : Bytes)
    (fits : first.length ≤ room) (roomy : room ≠ 0) :
    scan room part (first ++ rest) =
      match part.extend (part.counted first) with
      | .ok (lines, left) => .head lines (left ++ rest)
      | .error longer => scan (room - (part.counted first).length) longer rest := by
  cases begun : part.isEmpty with
  | false =>
      simp only [HeadPart.counted, begun, Bool.false_eq_true, if_false]
      exact scan_extend begun first rest fits
  | true =>
      simp only [HeadPart.counted, begun, if_true]
      have someRoom : (room == 0) = false := by simpa using roomy
      induction first with
      | nil => rfl
      | cons byte first induction =>
          rw [List.length_cons] at fits
          by_cases blank : isLineEnd byte = true
          · have skipped : skipBlankLines (byte :: first) = skipBlankLines first := by
              exact List.dropWhile_cons_of_pos blank
            rw [skipped, ← induction (by omega)]
            simp only [List.cons_append, scan, someRoom, begun, blank, Bool.and_self, if_true,
              Bool.false_eq_true, if_false]
          · have kept : skipBlankLines (byte :: first) = byte :: first := by
              exact List.dropWhile_cons_of_neg blank
            have text : isLineEnd byte = false := by simpa using blank
            have unfed : (byte == Byte.lf) = false := by
              simp only [isLineEnd, Bool.or_eq_false_iff] at text
              exact text.2
            have still : ({ part with line := byte :: part.line } : HeadPart).isEmpty = false := by
              simp [HeadPart.isEmpty]
            rw [kept]
            simp only [List.cons_append, scan, someRoom, begun, text, unfed, Bool.and_false,
              Bool.false_eq_true, if_false, HeadPart.extend, List.length_cons]
            rw [scan_extend still first rest (by omega), Nat.sub_sub, Nat.add_comm 1]

theorem scan_blanks {room : Nat} (roomy : room ≠ 0) {front : Bytes}
    (blank : ∀ byte ∈ front, isLineEnd byte = true) (rest : Bytes) :
    scan room {} (front ++ rest) = scan room {} rest := by
  have someRoom : (room == 0) = false := by simpa using roomy
  induction front with
  | nil => rfl
  | cons byte front induction =>
      have first := blank byte List.mem_cons_self
      have empty : HeadPart.isEmpty {} = true := rfl
      simp only [List.cons_append, scan, someRoom, first, empty, Bool.and_self, if_true,
        Bool.false_eq_true, if_false]
      exact induction fun other member => blank other (List.mem_cons_of_mem _ member)

/-- A line that is neither blank nor a part of one. -/
def IsTextLine (line : Bytes) : Prop :=
  Byte.lf ∉ line ∧ ∃ byte rest, line = byte :: rest ∧ byte ≠ Byte.cr

theorem extend_text (part : HeadPart) {text : Bytes} (feedless : Byte.lf ∉ text) (rest : Bytes) :
    part.extend (text ++ rest) = HeadPart.extend { part with line := text.reverse ++ part.line } rest := by
  induction text generalizing part with
  | nil => rfl
  | cons byte text induction =>
      have other : (byte == Byte.lf) = false := by
        simp only [beq_eq_false_iff_ne]
        rintro rfl
        exact feedless List.mem_cons_self
      rw [List.cons_append, HeadPart.extend, other, if_neg Bool.false_ne_true,
        induction _ fun member => feedless (List.mem_cons_of_mem _ member)]
      simp

theorem extend_line (done : Bytes) {line : Bytes} (text : IsTextLine line) (rest : Bytes) :
    HeadPart.extend ⟨done, []⟩ (line ++ Byte.lf :: rest) =
      HeadPart.extend ⟨Byte.lf :: (line.reverse ++ done), []⟩ rest := by
  obtain ⟨feedless, byte, others, whole, unreturned⟩ := text
  have open_ : ((line.reverse).isEmpty || line.reverse == [Byte.cr]) = false := by
    simp only [Bool.or_eq_false_iff, List.isEmpty_eq_false_iff, beq_eq_false_iff_ne]
    refine ⟨by simp [whole], ?_⟩
    intro returned
    have single : line = [Byte.cr] := by
      rw [← List.reverse_reverse line, returned]
      rfl
    rw [whole] at single
    exact unreturned (List.cons.inj single).1
  rw [extend_text _ feedless]
  simp only [List.append_nil, HeadPart.extend, beq_self_eq_true, if_true, open_,
    Bool.false_eq_true, if_false]

theorem extend_lines (done : Bytes) {all : List Bytes} (text : ∀ line ∈ all, IsTextLine line)
    {blank : Bytes} (ended : blank = [Byte.lf] ∨ blank = [Byte.cr, Byte.lf]) :
    HeadPart.extend ⟨done, []⟩ ((all.flatMap fun line => line ++ [Byte.lf]) ++ blank) =
      .ok (done.reverse ++ all.flatMap fun line => line ++ [Byte.lf], []) := by
  induction all generalizing done with
  | nil =>
      rcases ended with rfl | rfl
      · simp [HeadPart.extend]
      · simp [HeadPart.extend, Byte.cr, Byte.lf]
  | cons line rest induction =>
      have split : ((line :: rest).flatMap fun line => line ++ [Byte.lf]) ++ blank =
          line ++ Byte.lf :: ((rest.flatMap fun line => line ++ [Byte.lf]) ++ blank) := by
        simp
      rw [split, extend_line done (text line List.mem_cons_self),
        induction _ fun other member => text other (List.mem_cons_of_mem _ member)]
      simp

/-- A head of text lines that fits is found, behind any line ends and in front of anything. -/
theorem scan_lines {room : Nat} {front : Bytes} (blanks : ∀ byte ∈ front, isLineEnd byte = true)
    {all : List Bytes} (some_ : all ≠ []) (text : ∀ line ∈ all, IsTextLine line) {blank : Bytes}
    (ended : blank = [Byte.lf] ∨ blank = [Byte.cr, Byte.lf])
    (fits : ((all.flatMap fun line => line ++ [Byte.lf]) ++ blank).length ≤ room) (rest : Bytes) :
    scan room {} (front ++ ((all.flatMap fun line => line ++ [Byte.lf]) ++ blank) ++ rest) =
      .head (all.flatMap fun line => line ++ [Byte.lf]) rest := by
  have extended := extend_lines [] text ended
  obtain ⟨line, others, whole⟩ := List.exists_cons_of_ne_nil some_
  rcases text line (by rw [whole]; exact List.mem_cons_self) with
    ⟨feedless, byte, tail, start, unreturned⟩
  have solid : isLineEnd byte = false := by
    simp only [isLineEnd, Bool.or_eq_false_iff, beq_eq_false_iff_ne]
    refine ⟨unreturned, ?_⟩
    rintro rfl
    exact feedless (by rw [start]; exact List.mem_cons_self)
  have begins : ∃ more, (all.flatMap fun line => line ++ [Byte.lf]) ++ blank = byte :: more := by
    rw [whole, List.flatMap_cons, start]
    exact ⟨_, rfl⟩
  generalize (all.flatMap fun line => line ++ [Byte.lf]) ++ blank = written
    at fits extended begins ⊢
  obtain ⟨more, rfl⟩ := begins
  have roomy : room ≠ 0 := by
    rw [List.length_cons] at fits
    omega
  have kept : ¬isLineEnd byte = true := by simp [solid]
  have skipped : skipBlankLines (byte :: more) = byte :: more := List.dropWhile_cons_of_neg kept
  have counted : HeadPart.counted {} (byte :: more) = byte :: more := skipped
  rw [List.append_assoc, scan_blanks roomy blanks, scan_read {} _ rest fits roomy, counted,
    extended]
  rfl

def Scan.result (size : Nat) (failure : Option String) :
    Scan → Except FramingError (Option Bytes) × Delivery
  | .head lines rest => (.ok (some lines), ⟨rest, failure⟩)
  | .tooLong rest => (.error (.headerTooLarge size), ⟨rest, failure⟩)
  | .endless =>
      match failure with
      | none => (.error (.headerTooLarge size), .finished)
      | some message => (.error (.io message), ⟨[], some message⟩)
  | .unfinished part =>
      match failure with
      | none => (if part.isEmpty then .ok none else .error .incomplete, .finished)
      | some message => (.error (.io message), ⟨[], some message⟩)

theorem skip_head_scan (size length : Nat) (session : Session) :
    (match skipHead length session with
      | (.error error, session) => ((.error error, session.delivery) :
          Except FramingError (Option Bytes) × Delivery)
      | (.ok (), session) => (.error (.headerTooLarge size), session.delivery)) =
      (Scan.ofSkipped (scanHeadEnd length session.delivery.bytes)).result size
        session.delivery.failure := by
  fun_induction skipHead length session with
  | case1 length session message after reading =>
      have given := session.gives_read chunkSize
      rw [reading] at given
      obtain ⟨same, store⟩ := given.unchanged
      simp only [store, same]
      rfl
  | case2 length session after reading =>
      have given := session.gives_read chunkSize
      rw [reading] at given
      simp only at given ⊢
      generalize session.delivery = stored at given ⊢
      generalize after.delivery = left at given ⊢
      cases given with
      | bytes nonempty => exact absurd rfl nonempty
      | ending => rfl
      | nothing _ unasked => exact absurd unasked (by decide)
  | case3 length session byte chunk after reading rest found =>
      have given := session.gives_read chunkSize
      rw [reading] at given
      simp only [given.content.1, Session.delivery_unread]
      simp only [Delivery.behind, scan_head_end_append, found]
      rfl
  | case4 length session byte chunk after reading longer found induction =>
      have given := session.gives_read chunkSize
      rw [reading] at given
      rw [induction, given.content.1]
      simp only [Delivery.behind, scan_head_end_append, found]

/-- The decoder finds what the scan finds. -/
theorem gather_head_scan (size room : Nat) (part : HeadPart) (session : Session) :
    ((gatherHead size room part session).1, (gatherHead size room part session).2.delivery) =
      (scan room part session.delivery.bytes).result size session.delivery.failure := by
  fun_induction gatherHead size room part session with
  | case1 room part session full error after skipping =>
      have found := skip_head_scan size part.lineLength session
      rw [skipping] at found
      rw [show room = 0 by simpa using full, scan_full]
      exact found
  | case2 room part session full after skipping =>
      have found := skip_head_scan size part.lineLength session
      rw [skipping] at found
      rw [show room = 0 by simpa using full, scan_full]
      exact found
  | case3 room part session roomy message after reading =>
      have given := session.gives_read (min room chunkSize)
      rw [reading] at given
      obtain ⟨same, store⟩ := given.unchanged
      simp only [same, store, scan, roomy, Bool.false_eq_true, if_false, Scan.result]
  | case4 room part session roomy after reading =>
      have given := session.gives_read (min room chunkSize)
      rw [reading] at given
      generalize session.delivery = stored at given ⊢
      generalize after.delivery = left at given ⊢
      cases given with
      | bytes nonempty => exact absurd rfl nonempty
      | ending => simp only [scan, roomy, Bool.false_eq_true, if_false, Scan.result]; rfl
      | nothing _ unasked =>
          have full : room ≠ 0 := by simpa using roomy
          simp only [chunkSize] at unasked
          omega
  | case5 room part session roomy byte chunk after reading counted lines rest found =>
      have given := session.gives_read (min room chunkSize)
      rw [reading] at given
      have fits : (byte :: chunk).length ≤ room :=
        Nat.le_trans given.content.2 (Nat.min_le_left _ _)
      rw [given.content.1, Session.delivery_unread]
      simp only [Delivery.behind]
      rw [scan_read part (byte :: chunk) _ fits (by simpa using roomy)]
      simp only [found, counted, Scan.result]
  | case6 room part session roomy byte chunk after reading counted longer found induction =>
      have given := session.gives_read (min room chunkSize)
      rw [reading] at given
      have fits : (byte :: chunk).length ≤ room :=
        Nat.le_trans given.content.2 (Nat.min_le_left _ _)
      rw [induction, given.content.1]
      simp only [Delivery.behind]
      rw [scan_read part (byte :: chunk) _ fits (by simpa using roomy)]
      simp only [found, counted]

theorem scan_head_end_split {length : Nat} {input rest : Bytes}
    (found : scanHeadEnd length input = .ok rest) : ∃ front, front ≠ [] ∧ input = front ++ rest := by
  induction input generalizing length with
  | nil => cases found
  | cons byte input induction =>
      have later {length : Nat} (found : scanHeadEnd length input = .ok rest) :
          ∃ front, front ≠ [] ∧ byte :: input = front ++ rest := by
        obtain ⟨front, _, same⟩ := induction found
        exact ⟨byte :: front, List.cons_ne_nil _ _, by rw [same, List.cons_append]⟩
      simp only [scanHeadEnd] at found
      split at found
      · split at found
        · cases found
          exact ⟨[byte], List.cons_ne_nil _ _, rfl⟩
        · exact later found
      · split at found
        · exact later found
        · exact later found

theorem scan_too_long_split {room : Nat} {part : HeadPart} {input rest : Bytes}
    (found : scan room part input = .tooLong rest) :
    ∃ front, front ≠ [] ∧ input = front ++ rest := by
  induction input generalizing room part with
  | nil =>
      simp only [scan] at found
      split at found <;> cases found
  | cons byte input induction =>
      have later {room : Nat} {part : HeadPart} (found : scan room part input = .tooLong rest) :
          ∃ front, front ≠ [] ∧ byte :: input = front ++ rest := by
        obtain ⟨front, _, same⟩ := induction found
        exact ⟨byte :: front, List.cons_ne_nil _ _, by rw [same, List.cons_append]⟩
      simp only [scan] at found
      split at found
      · cases skipped : scanHeadEnd part.lineLength (byte :: input) with
        | error length => rw [skipped] at found; cases found
        | ok left =>
            rw [skipped] at found
            cases found
            exact scan_head_end_split skipped
      · split at found
        · exact later found
        · split at found
          · split at found
            · cases found
            · exact later found
          · exact later found

theorem scan_unfinished_blank {room : Nat} {part left : HeadPart} {input : Bytes}
    (found : scan room part input = .unfinished left) (empty : left.isEmpty = true) :
    part.isEmpty = true ∧ ∀ byte ∈ input, isLineEnd byte = true := by
  induction input generalizing room part with
  | nil =>
      simp only [scan] at found
      split at found
      · cases found
      · cases found
        exact ⟨empty, fun _ member => absurd member List.not_mem_nil⟩
  | cons byte input induction =>
      simp only [scan] at found
      split at found
      · cases skipped : scanHeadEnd part.lineLength (byte :: input) with
        | error length => rw [skipped] at found; cases found
        | ok rest => rw [skipped] at found; cases found
      · split at found
        next blank =>
          rw [Bool.and_eq_true] at blank
          exact ⟨blank.1, List.forall_mem_cons.2 ⟨blank.2, (induction found).2⟩⟩
        next =>
          split at found
          · split at found
            · cases found
            · cases (induction found).1
          · have begun := (induction found).1
            simp [HeadPart.isEmpty] at begun

/-- A head that ends stands between the line ends in front of it and the blank line behind it. -/
theorem scan_head_split {room : Nat} {part : HeadPart} {input lines rest : Bytes}
    (found : scan room part input = .head lines rest) :
    ∃ before ending, part.bytes ++ input = before ++ lines ++ ending ++ rest ∧
      (part.isEmpty = false → before = []) ∧
      (∀ byte ∈ before, isLineEnd byte = true) ∧ (ending = [Byte.lf] ∨ ending = [Byte.cr, Byte.lf]) := by
  induction input generalizing room part with
  | nil =>
      simp only [scan] at found
      split at found <;> cases found
  | cons byte input induction =>
      simp only [scan] at found
      split at found
      · cases skipped : scanHeadEnd part.lineLength (byte :: input) with
        | error length => rw [skipped] at found; cases found
        | ok left => rw [skipped] at found; cases found
      · split at found
        next blank =>
          obtain ⟨before, ending, whole, _, blanks, ended⟩ := induction found
          simp only [Bool.and_eq_true] at blank
          have empty : part.bytes = [] := by
            simpa [HeadPart.isEmpty, HeadPart.bytes, and_comm] using blank.1
          rw [empty, List.nil_append] at whole ⊢
          refine ⟨byte :: before, ending, by rw [whole]; rfl, ?_, ?_, ended⟩
          · intro begun
            rw [blank.1] at begun
            cases begun
          · intro other member
            rcases List.mem_cons.1 member with rfl | member
            · exact blank.2
            · exact blanks other member
        next =>
          split at found
          next feed =>
            have lf : byte = Byte.lf := by simpa using feed
            split at found
            next blank =>
              cases found
              rcases Bool.or_eq_true_iff.1 blank with empty | returned
              · have line : part.line = [] := by simpa using empty
                exact ⟨[], [Byte.lf], by simp [HeadPart.bytes, line, lf], fun _ => rfl,
                  fun _ member => absurd member List.not_mem_nil, .inl rfl⟩
              · have line : part.line = [Byte.cr] := by simpa using returned
                exact ⟨[], [Byte.cr, Byte.lf], by simp [HeadPart.bytes, line, lf], fun _ => rfl,
                  fun _ member => absurd member List.not_mem_nil, .inr rfl⟩
            next =>
              obtain ⟨before, ending, whole, front, _, ended⟩ := induction found
              have none := front rfl
              subst none
              refine ⟨[], ending, ?_, fun _ => rfl, fun _ member => absurd member List.not_mem_nil,
                ended⟩
              rw [← whole]
              simp [HeadPart.bytes]
          next =>
            obtain ⟨before, ending, whole, front, _, ended⟩ := induction found
            have none := front (by simp [HeadPart.isEmpty])
            subst none
            refine ⟨[], ending, ?_, fun _ => rfl, fun _ member => absurd member List.not_mem_nil,
              ended⟩
            rw [← whole]
            simp [HeadPart.bytes]

theorem scan_head_append {room : Nat} {part : HeadPart} {input lines rest : Bytes}
    (found : scan room part input = .head lines rest) (more : Bytes) :
    scan room part (input ++ more) = .head lines (rest ++ more) := by
  induction input generalizing room part with
  | nil =>
      simp only [scan] at found
      split at found <;> cases found
  | cons byte input induction =>
      simp only [scan] at found
      rw [List.cons_append, scan]
      split at found
      next =>
        cases skipped : scanHeadEnd part.lineLength (byte :: input) with
        | error length => rw [skipped] at found; cases found
        | ok left => rw [skipped] at found; cases found
      next roomy =>
        rw [if_neg roomy]
        split at found
        next blank => rw [if_pos blank, induction found]
        next text =>
          rw [if_neg text]
          split at found
          next feed =>
            rw [if_pos feed]
            split at found
            next ended =>
              cases found
              rw [if_pos ended]
            next going => rw [if_neg going, induction found]
          next other => rw [if_neg other, induction found]

theorem scan_too_long_append {room : Nat} {part : HeadPart} {input rest : Bytes}
    (found : scan room part input = .tooLong rest) (more : Bytes) :
    scan room part (input ++ more) = .tooLong (rest ++ more) := by
  induction input generalizing room part with
  | nil =>
      simp only [scan] at found
      split at found <;> cases found
  | cons byte input induction =>
      simp only [scan] at found
      rw [List.cons_append, scan]
      split at found
      next full =>
        rw [if_pos full, ← List.cons_append, scan_head_end_append]
        cases skipped : scanHeadEnd part.lineLength (byte :: input) with
        | error length => rw [skipped] at found; cases found
        | ok left =>
            rw [skipped] at found
            cases found
            rfl
      next roomy =>
        rw [if_neg roomy]
        split at found
        next blank => rw [if_pos blank, induction found]
        next text =>
          rw [if_neg text]
          split at found
          next feed =>
            rw [if_pos feed]
            split at found
            next => cases found
            next going => rw [if_neg going, induction found]
          next other => rw [if_neg other, induction found]

end StreamHttp.Decoder
